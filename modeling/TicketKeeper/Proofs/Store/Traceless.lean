import TicketKeeper.Proofs.Store.KeyedMap

/-! Writes to a directory that fail. All that is left of one is folders that were made on the way,
and these make no difference: trees that agree on the files, and on what stands at the places of
issue files, answer every call alike and go on to agree. -/
namespace TicketKeeper.Store

namespace FileTree

variable {t t' : FileTree}

/-- The tree when some places, with all that is below them, have been cleared away. -/
def without (t : FileTree) (gone : List (List String)) : FileTree :=
  ⟨t.entries.filter fun e => !gone.any (·.isPrefixOf e.1)⟩

theorem node?_without (t : FileTree) (gone : List (List String)) (q : List String) :
    (t.without gone).node? q = if gone.any (·.isPrefixOf q) then none else t.node? q := by
  simp only [node?, without]
  induction t.entries with
  | nil => simp
  | cons e r ih =>
    obtain ⟨place, node⟩ := e
    cases cleared : gone.any (·.isPrefixOf place) with
    | true =>
      rw [List.filter_cons_of_neg (by simp [cleared]), ih, List.lookup_cons]
      by_cases same : q = place
      · rw [same, cleared, if_pos rfl, if_pos rfl]
      · rw [beq_false_of_ne same]
    | false =>
      rw [List.filter_cons_of_pos (by simp [cleared]), List.lookup_cons, List.lookup_cons, ih]
      by_cases same : q = place
      · rw [same, cleared, beq_self_eq_true]
        rfl
      · rw [beq_false_of_ne same]

theorem Sound.without (sound : t.Sound) (gone : List (List String)) : (t.without gone).Sound := by
  intro path name stands
  rw [node?_without] at stands ⊢
  split at stands
  · contradiction
  · rename_i kept
    rw [if_neg, sound path name stands]
    intro cleared
    obtain ⟨place, named, short⟩ := List.any_eq_true.mp cleared
    refine kept (List.any_eq_true.mpr ⟨place, named, ?_⟩)
    rw [List.isPrefixOf_iff_prefix] at short ⊢
    exact short.trans (List.prefix_append path [name])

end FileTree

namespace Directory

open TicketKeeper.Text FileTree

variable {root : List String} {job : String} {t t' u u' : FileTree} {f : Fault} {room : Option Nat}

theorem SameFiles.blocked_iff (h : SameFiles t t') (q : List String) :
    t'.Blocked q ↔ t.Blocked q := by
  simp only [Blocked, h _ _]

theorem Reworks.without (r : Reworks root job t t') (gone : List (List String)) :
    Reworks root job (t.without gone) (t'.without gone) := by
  refine ⟨r.sound.without gone, fun q => ?_⟩
  simp only [node?_without]
  split
  · exact .inl rfl
  · exact r.nodes q

/-- Trees with the same files, and with the same at the places of issue files. -/
structure Agree (root : List String) (t t' : FileTree) : Prop where
  files : SameFiles t t'
  own (job : String) : t'.node? (filePlace root job) = t.node? (filePlace root job)

namespace Agree

theorem refl (root : List String) (t : FileTree) : Agree root t t := ⟨fun _ _ => .rfl, fun _ => rfl⟩

theorem reworked (agree : Agree root t t') (r : Reworks root job t u) (r' : Reworks root job t' u')
    (same : u'.node? (filePlace root job) = u.node? (filePlace root job)) : Agree root u u' where
  files q content := by
    have kept {t u : FileTree} (r : Reworks root job t u) (ne : q ≠ filePlace root job) :
        u.node? q = some (.file content) ↔ t.node? q = some (.file content) := by
      rcases r.nodes q with same | ⟨-, missing, made⟩ | ⟨here, -⟩
      · rw [same]
      · simp [missing, made]
      · exact absurd here ne
    by_cases here : q = filePlace root job
    · rw [here, same]
    · rw [kept r here, kept r' here, agree.files q content]
  own other := by
    by_cases here : filePlace root other = filePlace root job
    · rw [here, same]
    · rw [r.node?_of_ne here, r'.node?_of_ne here, agree.own other]

variable (agree : Agree root t t') (h : Sited root t) (h' : Sited root t')

include agree h h' in
theorem load_eq (job : String) : load root job t' = load root job t :=
  h.load_congr h' (agree.files.blocked_iff _) (agree.own job)

include agree in
theorem reachable_iff (job : String) : Reachable root t' job ↔ Reachable root t job := by
  constructor <;> rintro ⟨named, small, free, file⟩
  · exact ⟨named, small, by rwa [agree.files.blocked_iff] at free, by rwa [agree.own] at file⟩
  · exact ⟨named, small, by rwa [agree.files.blocked_iff], by rwa [agree.own]⟩

end Agree

/-! ### What a write answers -/

theorem write_error {content : Bytes} (failure : (write root job content t room).1 = .error f) :
    f = if isPath root then failed .write job else .defect .badValue := by
  unfold Directory.write at failure
  split at failure
  · rename_i unnamed
    rw [if_neg (by simpa using unnamed)]
    exact (Except.error.inj failure).symm
  · rename_i named
    rw [if_pos (by simpa using named)]
    split at failure
    · exact (Except.error.inj failure).symm
    split at failure
    · exact (Except.error.inj failure).symm
    split at failure
    · exact (Except.error.inj failure).symm
    split at failure
    · cases failure
    · exact (Except.error.inj failure).symm

theorem clear_error (failure : (clear root job t).1 = .error f) :
    f = if isPath root then failed .delete job else .defect .badValue := by
  unfold Directory.clear at failure
  split at failure
  · rename_i unnamed
    rw [if_neg (by simpa using unnamed)]
    exact (Except.error.inj failure).symm
  · rename_i named
    rw [if_pos (by simpa using named)]
    split at failure
    · cases failure
    · cases failure
    · exact (Except.error.inj failure).symm

theorem Sited.reachable_of_write (h : Sited root t) {content : Bytes}
    (written : (write root job content t room).1 = .ok ()) : Reachable root t job ∧
      (write root job content t room).2.node? (filePlace root job) = some (.file content) := by
  obtain ⟨reworks, -⟩ := h.reworks_write job content room
  obtain ⟨-, -, -, spec⟩ := write_spec root job content t room
  obtain ⟨named, read⟩ := spec written
  have file := (read_ok read).1
  have small : pathSize (place root job) ≤ maxPath := by
    by_contra long
    rw [FileTree.read, FileTree.locate, if_pos (Nat.lt_of_not_le long)] at read
    cases read
  have free : ¬(write root job content t room).2.Blocked (filePlace root job) :=
    reworks.sound.not_blocked (by simp [file])
  rw [reworks.blocked_iff] at free
  refine ⟨⟨named, small, free, ?_⟩, file⟩
  rcases reworks.nodes (filePlace root job) with same | ⟨-, missing, -⟩ | ⟨-, other, -⟩
  · simp [← same, file]
  · simp [missing]
  · exact other

theorem Sited.reachable_of_clear (h : Sited root t) (cleared : (clear root job t).1 = .ok ()) :
    Reachable root t job ∧ (clear root job t).2.node? (filePlace root job) = none := by
  unfold Directory.clear at cleared ⊢
  split at cleared
  · cases cleared
  rename_i named
  rw [if_neg named]
  have small : pathSize (place root job) ≤ maxPath := by
    by_contra long
    simp only [remove, FileTree.locate, if_pos (Nat.lt_of_not_le long)] at cleared
    cases cleared
  simp only [remove, FileTree.locate, if_neg (Nat.not_lt_of_le small)] at cleared ⊢
  rcases h.follow job with ⟨-, led⟩ | ⟨free, led | ⟨led, missing⟩⟩
  · rw [led] at cleared
    cases cleared
  · simp only [led, bind, Except.bind] at cleared ⊢
    cases found : t.node? (filePlace root job) with
    | none => exact ⟨⟨by simpa using named, small, free, by simp [found]⟩, found⟩
    | some node =>
      cases node with
      | file content =>
        exact ⟨⟨by simpa using named, small, free, by simp [found]⟩, node?_erase_self ..⟩
      | directory =>
        simp only [found] at cleared
        cases cleared
  · rw [led]
    exact ⟨⟨by simpa using named, small, free, by simp [missing]⟩, missing⟩

theorem Sited.write_ok_iff (h : Sited root t) {content : Bytes} :
    (write root job content t room).1 = .ok () ↔
      Reachable root t job ∧ pathSize (folderPlace root job) + 20 ≤ maxPath ∧
        room.all (content.length ≤ ·) = true := by
  constructor
  · intro written
    have reach := (h.reachable_of_write written).1
    refine ⟨reach, ?_⟩
    by_contra unfit
    rw [reach.write_eq h, if_neg unfit] at written
    cases written
  · rintro ⟨reach, fits⟩
    rw [reach.write_eq h, if_pos fits]

/-! ### Calls on trees that agree -/

namespace Agree

/-- Two answers to a write are the same, and leave trees that agree, when they are the same as far
as they are given and each of them is all or nothing on the file of the job. -/
theorem answers {x x' : Except Fault Unit × FileTree} (agree : Agree root t t')
    (r : Reworks root job t x.2 ∧
      ∀ f, x.1 = .error f → x.2.node? (filePlace root job) = t.node? (filePlace root job))
    (r' : Reworks root job t' x'.2 ∧
      ∀ f, x'.1 = .error f → x'.2.node? (filePlace root job) = t'.node? (filePlace root job))
    (ok_iff : x'.1 = .ok () ↔ x.1 = .ok ())
    (ok : x.1 = .ok () → x'.1 = .ok () →
      x'.2.node? (filePlace root job) = x.2.node? (filePlace root job))
    (error : ∀ f f', x.1 = .error f → x'.1 = .error f' → f' = f) :
    x'.1 = x.1 ∧ Agree root x.2 x'.2 := by
  cases result : x.1 with
  | ok =>
    have result' := ok_iff.mpr result
    exact ⟨result', agree.reworked r.1 r'.1 (ok result result')⟩
  | error f =>
    cases result' : x'.1 with
    | ok =>
      rw [ok_iff.mp result'] at result
      cases result
    | error f' =>
      refine ⟨congrArg Except.error (error f f' result result'), agree.reworked r.1 r'.1 ?_⟩
      rw [r.2 f result, r'.2 f' result', agree.own]

variable (agree : Agree root t t') (h : Sited root t) (h' : Sited root t')

include agree h h'

theorem write (job : String) (content : Bytes) (room : Option Nat) :
    (Directory.write root job content t' room).1 = (Directory.write root job content t room).1 ∧
      Agree root (Directory.write root job content t room).2
        (Directory.write root job content t' room).2 := by
  refine agree.answers (h.reworks_write job content room) (h'.reworks_write job content room) ?_ ?_
    ?_
  · rw [h.write_ok_iff, h'.write_ok_iff, agree.reachable_iff]
  · intro ok ok'
    rw [(h.reachable_of_write ok).2, (h'.reachable_of_write ok').2]
  · intro f f' failure failure'
    rw [write_error failure, write_error failure']

theorem save (job : String) (key : Option String) (build : Option Int) (room : Option Nat) :
    (Directory.save root job key build t' room).1 = (Directory.save root job key build t room).1 ∧
      Agree root (Directory.save root job key build t room).2
        (Directory.save root job key build t' room).2 := by
  unfold Directory.save
  split
  · exact agree.write h h' job _ room
  · exact ⟨rfl, agree⟩

theorem clear (job : String) :
    (Directory.clear root job t').1 = (Directory.clear root job t).1 ∧
      Agree root (Directory.clear root job t).2 (Directory.clear root job t').2 := by
  refine agree.answers (h.reworks job .clear none) (h'.reworks job .clear none) ?_ ?_ ?_
  · constructor
    · intro ok'
      exact ((agree.reachable_iff job).mp (h'.reachable_of_clear ok').1).clear_ok h
    · intro ok
      exact ((agree.reachable_iff job).mpr (h.reachable_of_clear ok).1).clear_ok h'
  · intro ok ok'
    exact (h'.reachable_of_clear ok').2.trans (h.reachable_of_clear ok).2.symm
  · intro f f' failure failure'
    exact (clear_error failure').trans (clear_error failure).symm

theorem markBuild (job : String) (build : Option Int) (room : Option Nat) :
    (Directory.markBuild root job build t' room).1 =
        (Directory.markBuild root job build t room).1 ∧
      Agree root (Directory.markBuild root job build t room).2
        (Directory.markBuild root job build t' room).2 := by
  unfold Directory.markBuild
  rw [agree.load_eq h h']
  split
  · exact ⟨rfl, agree⟩
  · exact ⟨rfl, agree⟩
  · exact agree.save h h' job _ build room

theorem call (op : Op) (room : Option Nat) :
    ((directory root room).call op t').1 = ((directory root room).call op t).1 ∧
      Agree root ((directory root room).call op t).2 ((directory root room).call op t').2 := by
  cases op with
  | load job => exact ⟨congrArg (Except.map Answer.record) (agree.load_eq h h' job), agree⟩
  | write job w =>
    have alike :
        ((directory root room).write job w t').1 = ((directory root room).write job w t).1 ∧
          Agree root ((directory root room).write job w t).2
            ((directory root room).write job w t').2 := by
      cases w with
      | save key build => exact agree.save h h' job key build room
      | markBuild build => exact agree.markBuild h h' job build room
      | clear => exact agree.clear h h' job
    exact ⟨congrArg (Except.map fun _ => Answer.done) alike.1, alike.2⟩

end Agree

theorem Sited.call (h : Sited root t) (op : Op) (room : Option Nat) :
    Sited root ((directory root room).call op t).2 := by
  cases op with
  | load => exact h
  | write job w => exact (h.reworks job w room).1.sited h

theorem Agree.calls (agree : Agree root t t') (h : Sited root t) (h' : Sited root t')
    (room : Option Nat) (ops : List Op) :
    ((directory root room).calls ops t').1 = ((directory root room).calls ops t).1 ∧
      Agree root ((directory root room).calls ops t).2 ((directory root room).calls ops t').2 := by
  induction ops generalizing t t' with
  | nil => exact ⟨rfl, agree⟩
  | cons op ops ih =>
    obtain ⟨answer, after⟩ := agree.call h h' op room
    obtain ⟨answers, final⟩ := ih after (h.call op room) (h'.call op room)
    exact ⟨congrArg₂ List.cons answer answers, final⟩

/-! ### Writes that fail -/

theorem Sited.without (h : Sited root t) (plain : Plain root) (gone : List (List String)) :
    Sited root (t.without gone) where
  sound := h.sound.without gone
  level := descends_of_plain plain
  spare other := by
    obtain ⟨n, small, free⟩ := h.spare other
    exact ⟨n, small, by rw [node?_without, free, ite_self]⟩

/-- A write that fails leaves every file as it was and no new one: all that it has made is folders
on the way to that of the job. Every load is as before, and so is all that is called later, whatever
has been cleared away in the meantime and whatever room there is on the disk by then. The root has
to lead downwards for this. -/
theorem failed_write_traceless (h : Sited root t) {w : Write}
    (failure : ((directory root room).write job w t).1 = .error f) :
    let t' := ((directory root room).write job w t).2
    SameFiles t t' ∧
      (∀ q, t'.node? q = t.node? q ∨
        q <+: folderPlace root job ∧ t.node? q = none ∧ t'.node? q = some .directory) ∧
      (∀ other, load root other t' = load root other t) ∧
      ∀ gone, Sited root (t.without gone) → ∀ later ops,
        ((directory root later).calls ops (t'.without gone)).1 =
          ((directory root later).calls ops (t.without gone)).1 ∧
        SameFiles ((directory root later).calls ops (t.without gone)).2
          ((directory root later).calls ops (t'.without gone)).2 := by
  intro t'
  obtain ⟨r, failed⟩ := h.reworks job w room
  have own : t'.node? (filePlace root job) = t.node? (filePlace root job) := failed f failure
  have agree : Agree root t t' := (Agree.refl root t).reworked (.refl h.sound) r own
  refine ⟨agree.files, fun q => ?_, agree.load_eq h (r.sited h), fun gone clear later ops => ?_⟩
  · rcases r.nodes q with same | made | ⟨rfl, -⟩
    · exact .inl same
    · exact .inr made
    · exact .inl own
  · have own : (t'.without gone).node? (filePlace root job) =
        (t.without gone).node? (filePlace root job) := by
      rw [node?_without, node?_without, own]
    have agree := (Agree.refl root (t.without gone)).reworked (.refl clear.sound) (r.without gone) own
    obtain ⟨answers, final⟩ := agree.calls clear ((r.without gone).sited clear) later ops
    exact ⟨answers, final.files⟩

theorem sited_blocked (plain : Plain root) (job : String) :
    Sited root (FileTree.empty.makeDirectories (place root job)).2 where
  sound := by
    refine (madeAlong_makeAll (place root job).reverse .empty).sound (sited_empty plain).sound
  level := descends_of_plain plain
  spare other := by
    obtain ⟨n, small, free⟩ := (sited_empty plain).spare other
    refine ⟨n, small, ?_⟩
    have along := madeAlong_makeAll (place root job).reverse .empty
    rw [List.reverse_reverse] at along
    rcases along.only (folderPlace root other ++ [stagingName n]) with same | ⟨front, short, same⟩
    · exact same.trans free
    · have level := place_eq root job ▸ plain.append (plain_names job)
      rw [destination_of_plain fun name h => level name (short.mem h), List.nil_append] at same
      have long : front.length = (place root job).length := by
        rw [← same, folderPlace, place_eq, destination_of_plain plain]
        simp
      rw [short.eq_of_length long, place] at same
      exact absurd (List.cons.inj (List.append_inj' same rfl).2).1 (stagingName_ne_fileName n)

theorem exists_error_of_toOption {α : Type} {x : Except Fault α} (h : x.toOption = none) :
    ∃ f, x = .error f := by
  cases x with
  | ok => cases h
  | error f => exact ⟨f, rfl⟩

/-- A save is tried while a directory stands at the place of the file, and again when it is gone;
and on a disk that has room for three bytes, and again when there is more. -/
theorem failed_write_traceless_retried :
    let root := ["tickets"]
    let blocked := (FileTree.empty.makeDirectories (place root "J")).2
    let save : Write := .save (some "T-1") (some 7)
    let tried := (directory root).write "J" save blocked
    let cramped := (directory root (some 3)).write "J" save .empty
    let later (t : FileTree) := (directory root).calls [.write "J" save, .load "J"] t
    let shown : List (Option Answer) := [some .done, some (.record (some ⟨"T-1", some 7⟩))]
    tried.1.toOption = none ∧ SameFiles blocked tried.2 ∧
      (later (tried.2.without [filePlace root "J"])).1.map Except.toOption = shown ∧
      cramped.1.toOption = none ∧ SameFiles .empty cramped.2 ∧
      (later (cramped.2.without [])).1.map Except.toOption = shown := by
  intro root blocked save tried cramped later shown
  have stopped : tried.1.toOption = none := by
    decide +kernel
  have full : cramped.1.toOption = none := by
    decide +kernel
  obtain ⟨f, failure⟩ := exists_error_of_toOption stopped
  obtain ⟨f', failure'⟩ := exists_error_of_toOption full
  have plain : Plain root := by decide
  have sited := sited_blocked plain "J"
  have fresh := sited_empty plain
  obtain ⟨files, -, -, clears⟩ := failed_write_traceless sited failure
  obtain ⟨files', -, -, clears'⟩ := failed_write_traceless fresh failure'
  obtain ⟨answers, -⟩ := clears [filePlace root "J"] (sited.without plain _) none
    [.write "J" save, .load "J"]
  obtain ⟨answers', -⟩ := clears' [] (fresh.without plain _) none [.write "J" save, .load "J"]
  refine ⟨stopped, files, (congrArg (List.map Except.toOption) answers).trans ?_, full, files',
    (congrArg (List.map Except.toOption) answers').trans ?_⟩
  · decide +kernel
  · decide +kernel

/-- On the way to the root a/../b the missing folder is made although the save fails, so that the
record of another job, which could not be loaded before, appears. -/
theorem failed_write_seen_behind_detour :
    let detour := ["a", "..", "b"]
    let kept := ((directory ["b"]).write "K" (.save (some "T-101") (some 3)) .empty).2
    let blocked := (kept.makeDirectories (place ["b"] "J")).2
    let tried := (directory detour).write "J" (.save (some "T-1") (some 7)) blocked
    tried.1.toOption = none ∧ (load detour "K" blocked).toOption = some none ∧
      (load detour "K" tried.2).toOption = some (some ⟨"T-101", some 3⟩) := by
  refine ⟨?_, ?_, ?_⟩
  · decide +kernel
  · decide +kernel
  · decide +kernel

end Directory

end TicketKeeper.Store
