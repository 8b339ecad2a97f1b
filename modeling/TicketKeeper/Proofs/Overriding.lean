import TicketKeeper.Proofs.Projection
import TicketKeeper.Settings

/-! Which pair of the operator's setting decides a status. The pairs are first collected by their
exact names, where a name that comes again keeps its place, and only then read as entries, the last
of which counts. So of all spellings of a status it is the one that came up last that decides, with
the last value it was given; a pair that takes up an older spelling again does not. -/
namespace TicketKeeper

open TicketKeeper.Text

namespace Settings

/-- A text with a name and a value around its first equals sign, neither of them blank. -/
def IsPair (text : List Char) (name value : String) : Prop :=
  ∃ before behind, text = before ++ '=' :: behind ∧ '=' ∉ before ∧ trim before ≠ [] ∧
    trim behind ≠ [] ∧ name.toList = trim before ∧ value.toList = trim behind

theorem statusPair?_eq_some_iff {text : List Char} {p : String × String} :
    statusPair? text = some p ↔ IsPair text p.1 p.2 := by
  unfold statusPair?
  constructor
  · intro read
    split at read
    · cases read
    · rename_i before behind cut
      obtain ⟨rfl, first⟩ := cutAt_eq_some_iff.mp cut
      dsimp only at read
      split at read
      · cases read
      · rename_i any
        cases read
        rw [Bool.or_eq_true, not_or] at any
        exact ⟨before, behind, rfl, first, by simpa using any.1, by simpa using any.2,
          String.toList_ofList, String.toList_ofList⟩
  · rintro ⟨before, behind, rfl, first, named, valued, name, value⟩
    have any : ((trim before).isEmpty || (trim behind).isEmpty) = false := by
      simp [named, valued]
    simp only [cutAt_of_not_mem first, any, Bool.false_eq_true, if_false]
    rw [← name, ← value, String.ofList_toList, String.ofList_toList]

def statusEntries (s : Settings) : Status.Extra :=
  ((splitAt ',' s.extraStatuses.toList).filterMap statusPair?).map fun p => (p.1, .str p.2)

end Settings

namespace Status

variable {entries : Extra} {e : String × Json} {name : String} {raw : Json}

/-- Entries by name: one that comes again keeps its place and takes the later value. -/
def collected (entries : Extra) : Extra :=
  entries.foldl (fun map e => Json.setMember e.1 e.2 map) []

def spellings (entries : Extra) : List String := (entries.map (·.1)).eraseDups

def lastValue? (name : String) (entries : Extra) : Option Json := entries.reverse.lookup name

/-- The spelling of a raw status that comes up last. -/
def newest? (raw : Json) (entries : Extra) : Option String :=
  (spellings entries).reverse.find? fun name => Alike name.toList (written raw)

def decisive? (raw : Json) (entries : Extra) : Option Json :=
  (newest? raw entries).bind (lastValue? · entries)

section Collecting

variable {α : Type} {names : List String} {f : String → α} {value : α}

theorem setMember_of_mem (once : names.Nodup) (known : name ∈ names) :
    Json.setMember name value (names.map fun n => (n, f n)) =
      names.map fun n => (n, Function.update f name value n) := by
  induction names with
  | nil => cases known
  | cons n names ih =>
    obtain ⟨new, once⟩ := List.nodup_cons.mp once
    by_cases same : n = name
    · subst same
      have others : ∀ m ∈ names, Function.update f n value m = f m := by
        intro m hm
        apply Function.update_of_ne
        rintro rfl
        exact new hm
      simp only [List.map_cons, Json.setMember, if_true, Function.update_self]
      congr 1
      exact (List.map_congr_left fun m hm => by rw [others m hm]).symm
    · have known := (List.mem_cons.mp known).resolve_left (Ne.symm same)
      simp only [List.map_cons, Json.setMember, if_neg same, ih once known,
        Function.update_of_ne same]

theorem setMember_of_not_mem (new : name ∉ names) :
    Json.setMember name value (names.map fun n => (n, f n)) =
      (names.map fun n => (n, f n)) ++ [(name, value)] := by
  induction names with
  | nil => rfl
  | cons n names ih =>
    rw [List.mem_cons, not_or] at new
    simp [Json.setMember, Ne.symm new.1, ih new.2]

theorem spellings_concat (entries : Extra) (e : String × Json) :
    spellings (entries ++ [e]) =
      if e.1 ∈ spellings entries then spellings entries else spellings entries ++ [e.1] := by
  have listed : e.1 ∈ spellings entries ↔ e.1 ∈ entries.map (·.1) := List.mem_eraseDups
  rw [spellings, List.map_append, List.map_singleton, List.eraseDups_append]
  by_cases known : e.1 ∈ entries.map (·.1)
  · rw [if_pos (listed.mpr known)]
    simp [List.removeAll, known, spellings]
  · rw [if_neg fun h => known (listed.mp h)]
    simp [List.removeAll, known, spellings, List.eraseDups_cons]

theorem lastValue?_concat (name : String) (entries : Extra) (e : String × Json) :
    lastValue? name (entries ++ [e]) =
      if name = e.1 then some e.2 else lastValue? name entries := by
  rw [lastValue?, List.reverse_append, List.reverse_singleton, List.singleton_append,
    List.lookup_cons]
  by_cases same : name = e.1
  · rw [if_pos same, beq_iff_eq.mpr same]
  · rw [if_neg same, beq_false_of_ne same, lastValue?]

theorem nodup_spellings (entries : Extra) : (spellings entries).Nodup := by
  induction entries using List.reverseRecOn with
  | nil => exact List.nodup_nil
  | append_singleton entries e ih =>
    rw [spellings_concat]
    split
    · exact ih
    · rename_i new
      refine List.nodup_append.mpr ⟨ih, List.pairwise_singleton _ _, fun n hn m hm => ?_⟩
      obtain rfl := List.mem_singleton.mp hm
      exact ne_of_mem_of_not_mem hn new

/-- What entries are collected to: each name where it came up, with its last value. -/
theorem collected_eq (entries : Extra) :
    collected entries =
      (spellings entries).map fun n => (n, (lastValue? n entries).getD .null) := by
  induction entries using List.reverseRecOn with
  | nil => rfl
  | append_singleton entries e ih =>
    have step : collected (entries ++ [e]) = Json.setMember e.1 e.2 (collected entries) := by
      simp only [collected, List.foldl_append, List.foldl_cons, List.foldl_nil]
    have value (n : String) : (lastValue? n (entries ++ [e])).getD .null =
        Function.update (fun n => (lastValue? n entries).getD .null) e.1 e.2 n := by
      rw [lastValue?_concat, Function.update_apply]
      split <;> rfl
    rw [step, ih, spellings_concat]
    simp only [value]
    by_cases known : e.1 ∈ spellings entries
    · rw [if_pos known, setMember_of_mem (nodup_spellings entries) known]
    · rw [if_neg known, setMember_of_not_mem known, List.map_append, List.map_singleton,
        Function.update_self]
      congr 1
      refine List.map_congr_left fun n hn => ?_
      rw [Function.update_of_ne (ne_of_mem_of_not_mem hn known)]

theorem mem_of_lastValue? {value : Json} (h : lastValue? name entries = some value) :
    (name, value) ∈ entries := by
  obtain ⟨before, behind, reversed, -⟩ := List.lookup_eq_some_iff.mp h
  rw [← List.mem_reverse, reversed]
  exact List.mem_append_right _ List.mem_cons_self

theorem exists_lastValue (h : name ∈ spellings entries) :
    ∃ value, lastValue? name entries = some value := by
  obtain ⟨e, he, rfl⟩ := List.mem_map.mp (List.mem_eraseDups.mp h)
  cases found : lastValue? e.1 entries with
  | some value => exact ⟨value, rfl⟩
  | none =>
    have other := List.lookup_eq_none_iff.mp found e (List.mem_reverse.mpr he)
    simp at other

/-- The entry that counts is the one of the spelling that came up last. -/
theorem lastNaming?_collected (raw : Json) (entries : Extra) :
    lastNaming? raw (collected entries) =
      (newest? raw entries).map fun n => (n, (lastValue? n entries).getD .null) := by
  rw [lastNaming?, collected_eq, ← List.map_reverse, List.find?_map]
  rfl

theorem newest?_eq_none_iff : newest? raw entries = none ↔ lastNaming? raw entries = none := by
  rw [newest?, lastNaming?, List.find?_eq_none, List.find?_eq_none]
  simp only [List.mem_reverse, spellings, List.mem_eraseDups, List.forall_mem_map]
  rfl

theorem lastValue?_of_last {last : String × Json} (named : lastNaming? raw entries = some last) :
    lastValue? last.1 entries = some last.2 := by
  obtain ⟨own, before, behind, reversed, unnamed⟩ := List.find?_eq_some_iff_append.mp named
  have own : Names last raw := by simpa using own
  have absent : before.lookup last.1 = none := by
    rw [List.lookup_eq_none_iff]
    intro e he
    rw [bne_iff_ne]
    intro same
    have other : ¬Names e raw := by simpa using unnamed e he
    unfold Names at own other
    rw [← same] at other
    exact other own
  rw [lastValue?, reversed, List.lookup_append, absent, Option.none_or, List.lookup_cons,
    beq_self_eq_true]

end Collecting

section Deciding

variable (meant : ∀ e ∈ entries, ∃ status, Means e.2 status)
include meant

theorem exists_means_of_collected : ∀ e ∈ collected entries, ∃ status, Means e.2 status := by
  intro e he
  rw [collected_eq] at he
  obtain ⟨name, hname, rfl⟩ := List.mem_map.mp he
  obtain ⟨value, last⟩ := exists_lastValue hname
  rw [last]
  exact meant _ (mem_of_lastValue? last)

theorem project_collected_of_unnamed (unnamed : lastNaming? raw entries = none) :
    project raw (collected entries) = project raw [] := by
  have none : lastNaming? raw (collected entries) = none := by
    rw [lastNaming?_collected, newest?_eq_none_iff.mpr unnamed, Option.map_none]
  rw [project_of_unnamed (exists_means_of_collected meant) none,
    project_of_unnamed (List.forall_mem_nil _) rfl]

theorem project_collected_of_named {last : String × Json}
    (named : lastNaming? raw entries = some last) :
    ∃ value status, decisive? raw entries = some value ∧ Means value status ∧
      project raw (collected entries) = .ok status := by
  obtain ⟨name, newest⟩ : ∃ name, newest? raw entries = some name := by
    rw [← Option.ne_none_iff_exists', Ne, newest?_eq_none_iff, named]
    exact Option.some_ne_none last
  have listed : name ∈ spellings entries := List.mem_reverse.mp (List.mem_of_find?_eq_some newest)
  obtain ⟨value, given⟩ := exists_lastValue listed
  obtain ⟨status, means⟩ := meant _ (mem_of_lastValue? given)
  have counts : lastNaming? raw (collected entries) = some (name, value) := by
    rw [lastNaming?_collected, newest, Option.map_some, given, Option.getD_some]
  refine ⟨value, status, ?_, means, ?_⟩
  · rw [decisive?, newest, Option.bind_some, given]
  · exact project_of_last (exists_means_of_collected meant) counts means

end Deciding

end Status

namespace Settings

theorem map_setMember {α β : Type} (f : α → β) (name : String) (value : α)
    (members : List (String × α)) :
    (Json.setMember name value members).map (fun e => (e.1, f e.2)) =
      Json.setMember name (f value) (members.map fun e => (e.1, f e.2)) := by
  fun_induction Json.setMember name value members with
  | case1 => rfl
  | case2 v r => simp [Json.setMember]
  | case3 n v r other ih => simp [Json.setMember, other, ih]

theorem extraStatusMap_eq (s : Settings) :
    (s.extraStatusMap.map fun e => (e.1, Json.str e.2)) = Status.collected s.statusEntries := by
  rw [Status.collected, statusEntries, List.foldl_map, extraStatusMap]
  let entry (e : String × String) : String × Json := (e.1, .str e.2)
  refine (List.foldl_hom (List.map entry) fun map p => ?_).symm
  exact (map_setMember Json.str p.1 p.2 map).symm

/-- A status that some pair of the setting is about means what the spelling that came up last is
given last. That is the value of the last pair about it when this pair's own spelling came up last,
or when it has that meaning anyway, and not otherwise. A status that no pair is about keeps its own
meaning. -/
theorem status_decided (s : Settings) (raw : Json)
    (meant : ∀ text ∈ splitAt ',' s.extraStatuses.toList, ∀ name value, IsPair text name value →
      ∃ status, Status.Means (.str value) status) :
    let extra : Status.Extra := s.extraStatusMap.map fun e => (e.1, .str e.2)
    let pairs := s.statusEntries
    (Status.lastNaming? raw pairs = none → Status.project raw extra = Status.project raw []) ∧
      ∀ last, Status.lastNaming? raw pairs = some last →
        ∃ value status, Status.decisive? raw pairs = some value ∧ Status.Means value status ∧
          Status.project raw extra = .ok status ∧
          ((∃ own, Status.Means last.2 own ∧ Status.project raw extra = .ok own) ↔
            Status.Means last.2 status) ∧
          (Status.newest? raw pairs = some last.1 → value = last.2) := by
  intro extra pairs
  have read : extra = Status.collected pairs := s.extraStatusMap_eq
  have meant : ∀ e ∈ pairs, ∃ status, Status.Means e.2 status := by
    intro e he
    obtain ⟨p, hp, rfl⟩ := List.mem_map.mp he
    obtain ⟨text, htext, pair⟩ := List.mem_filterMap.mp hp
    exact meant text htext p.1 p.2 (statusPair?_eq_some_iff.mp pair)
  rw [read]
  refine ⟨Status.project_collected_of_unnamed meant, fun last named => ?_⟩
  obtain ⟨value, status, decisive, means, projected⟩ :=
    Status.project_collected_of_named meant named
  refine ⟨value, status, decisive, means, projected, ⟨?_, fun own => ⟨status, own, projected⟩⟩, ?_⟩
  · rintro ⟨own, meaning, told⟩
    rw [projected] at told
    cases told
    exact meaning
  · intro newest
    rw [Status.decisive?, newest, Option.bind_some, Status.lastValue?_of_last named] at decisive
    exact (Option.some.inj decisive).symm

theorem meant_of_all {s : Settings}
    (all : ∀ text ∈ splitAt ',' s.extraStatuses.toList, ∀ p ∈ statusPair? text,
      (Status.named? (Status.spelling (.str p.2))).isSome) :
    ∀ text ∈ splitAt ',' s.extraStatuses.toList, ∀ name value, IsPair text name value →
      ∃ status, Status.Means (.str value) status := by
  intro text htext name value pair
  have known := all text htext (name, value) (statusPair?_eq_some_iff.mpr pair)
  obtain ⟨status, known⟩ := Option.isSome_iff_exists.mp known
  exact ⟨status, Status.named?_spelling_iff.mp known⟩

/-- Two spellings of one status, between texts that are no pairs. -/
theorem status_decided_respelled :
    let s : Settings := { extraStatuses := "Code Review=open,=closed, code  review = RESOLVED ,X" }
    let extra : Status.Extra := s.extraStatusMap.map fun e => (e.1, .str e.2)
    Status.project (.str "CODE REVIEW") extra = .ok .resolved := by
  intro s extra
  let raw : Json := .str "CODE REVIEW"
  have named : (Status.lastNaming? raw s.statusEntries).isSome := by decide
  have given : (Status.decisive? raw s.statusEntries).map (Status.named? ∘ Status.spelling) =
      some (some .resolved) := by decide
  obtain ⟨last, named⟩ := Option.isSome_iff_exists.mp named
  obtain ⟨value, status, decisive, means, projected, -, -⟩ :=
    (s.status_decided raw (meant_of_all (by decide))).2 last named
  rw [decisive, Option.map_some, Function.comp_apply, Status.named?_spelling_iff.mpr means] at given
  cases given
  exact projected

/-- An older spelling that is taken up again: the last pair about the status is passed over. -/
theorem status_last_pair_passed_over :
    let s : Settings := { extraStatuses := "A=open,a=closed,A=resolved" }
    let extra : Status.Extra := s.extraStatusMap.map fun e => (e.1, .str e.2)
    (∀ text ∈ splitAt ',' s.extraStatuses.toList, ∀ name value, IsPair text name value →
        ∃ status, Status.Means (.str value) status) ∧
      (Status.lastNaming? (.str "a") s.statusEntries).any (Status.Means ·.2 .resolved) = true ∧
      (Status.project (.str "a") extra).toOption = some .closed := by
  intro s extra
  exact ⟨meant_of_all (by decide), by decide, by decide⟩

end Settings

end TicketKeeper
