import TicketKeeper.Status
import TicketKeeper.Proofs.Text.Fold

/-! The meaning of a raw status. The operator's entries are read as if they were applied one after
another to a function from texts to statuses, where texts that are alike are the same: the last
entry that names a status decides it, the table of known spellings where none does, and an entry
without a meaning is refused whatever is looked up. -/
namespace TicketKeeper.Status

open TicketKeeper.Text

def written (v : Json) : List Char := if v.isTruthy then v.text.toList else []

def Means (v : Json) (status : Status) : Prop := Alike (written v) status.name.toList

/-- An entry is about a raw status when its name is alike. -/
def Names (e : String × Json) (raw : Json) : Prop := Alike e.1.toList (written raw)

instance (v : Json) (status : Status) : Decidable (Means v status) :=
  inferInstanceAs (Decidable (Alike _ _))

instance (e : String × Json) (raw : Json) : Decidable (Names e raw) :=
  inferInstanceAs (Decidable (Alike _ _))

def lastNaming? (raw : Json) (extra : Extra) : Option (String × Json) :=
  extra.reverse.find? fun e => Names e raw

section Spelling

theorem normal_eq_iff {s t : String} : normal s = normal t ↔ Alike s.toList t.toList := by
  rw [normal, normal, String.ofList_inj, fold_unwords_eq_iff]

theorem spelling_eq (v : Json) : spelling v = normal (String.ofList (written v)) := by
  unfold spelling written
  split <;> simp

theorem normal_eq_spelling_iff {e : String × Json} {raw : Json} :
    normal e.1 = spelling raw ↔ Names e raw := by
  rw [spelling_eq, normal_eq_iff, String.toList_ofList, Names]

theorem normal_name (status : Status) : normal status.name = status.name := by
  cases status <;> decide

theorem named?_eq_some_iff {s : String} {status : Status} :
    named? s = some status ↔ s = status.name := by
  constructor
  · intro found
    have same := List.find?_some found
    exact (beq_iff_eq.mp same).symm
  · rintro rfl
    exact named?_name status

theorem named?_spelling_iff {v : Json} {status : Status} :
    named? (spelling v) = some status ↔ Means v status := by
  rw [named?_eq_some_iff, spelling_eq, ← normal_name status, normal_eq_iff,
    String.toList_ofList, Means]

theorem named?_spelling_eq_none_iff {v : Json} :
    named? (spelling v) = none ↔ ∀ status, ¬Means v status := by
  simp only [Option.eq_none_iff_forall_ne_some, ne_eq, named?_spelling_iff]

end Spelling

section Extending

variable {known : Table} {extra : Extra} {e : String × Json} {status : Status} {key : String}

theorem extend_cons (meant : Means e.2 status) (known : Table) (extra : Extra) :
    extend known (e :: extra) = extend (Json.setMember (normal e.1) status known) extra := by
  obtain ⟨name, v⟩ := e
  rw [extend, named?_spelling_iff.mpr meant]

theorem extend_append (known : Table) (before after : Extra) :
    extend known (before ++ after) = (extend known before).bind fun t => extend t after := by
  induction before generalizing known with
  | nil => rfl
  | cons e before ih =>
    obtain ⟨name, v⟩ := e
    rw [List.cons_append, extend, extend]
    cases named? (spelling v) with
    | some status => exact ih _
    | none => simp only [Except.bind]

theorem extend_eq_error_iff :
    (∃ f, extend known extra = .error f) ↔ ∃ e ∈ extra, ∀ status, ¬Means e.2 status := by
  induction extra generalizing known with
  | nil => simp [extend]
  | cons e extra ih =>
    rw [List.exists_mem_cons_iff]
    by_cases meant : ∃ status, Means e.2 status
    · obtain ⟨status, meant⟩ := meant
      rw [extend_cons meant, ih]
      constructor
      · exact .inr
      · rintro (none | later)
        · exact absurd meant (none status)
        · exact later
    · rw [not_exists] at meant
      rw [extend, named?_spelling_eq_none_iff.mpr meant]
      exact ⟨fun _ => .inl meant, fun _ => ⟨_, rfl⟩⟩

theorem kind_of_extend {f : Failure} (h : extend known extra = .error f) :
    f.kind = .invalidConfiguration := by
  fun_induction extend known extra with
  | case1 => cases h
  | case2 known name v r status meant ih => exact ih h
  | case3 known name v r none =>
    cases h
    rfl

theorem map_lookup_extend {other : Table} (same : known.lookup key = other.lookup key)
    (extra : Extra) :
    (extend known extra).map (·.lookup key) = (extend other extra).map (·.lookup key) := by
  induction extra generalizing known other with
  | nil => exact congrArg Except.ok same
  | cons e extra ih =>
    obtain ⟨name, v⟩ := e
    rw [extend, extend]
    cases named? (spelling v) with
    | none => simp only [Except.map]
    | some status =>
      apply ih
      by_cases named : key = normal name
      · rw [named, Json.lookup_setMember_self, Json.lookup_setMember_self]
      · rw [Json.lookup_setMember_of_ne _ named, Json.lookup_setMember_of_ne _ named, same]

theorem lookup_extend_of_ne (meant : ∀ e ∈ extra, ∃ status, Means e.2 status)
    (others : ∀ e ∈ extra, normal e.1 ≠ key) :
    (extend known extra).map (·.lookup key) = .ok (known.lookup key) := by
  induction extra generalizing known with
  | nil => rfl
  | cons e extra ih =>
    obtain ⟨⟨status, first⟩, rest⟩ := List.forall_mem_cons.mp meant
    obtain ⟨other, others⟩ := List.forall_mem_cons.mp others
    rw [extend_cons first, ih rest others, Json.lookup_setMember_of_ne _ other.symm]

end Extending

variable {raw : Json} {extra : Extra}

def settled (raw : Json) : Option Status → Except Failure Status
  | some status => .ok status
  | none => .error (.unknownStatus raw.text)

theorem kind_of_settled {found : Option Status} {f : Failure} (h : settled raw found = .error f) :
    f.kind = .unknownStatus := by
  cases found with
  | some status => cases h
  | none =>
    cases h
    rfl

theorem project_eq (raw : Json) (extra : Extra) :
    project raw extra = ((table extra).map (·.lookup (spelling raw))).bind (settled raw) := by
  rw [project]
  cases table extra with
  | error f => simp only [bind, Except.map, Except.bind]
  | ok t =>
    cases found : t.lookup (spelling raw) <;>
      simp [Except.map, Except.bind, bind, settled, found]

theorem project_of_last {e : String × Json} {status : Status}
    (meant : ∀ e ∈ extra, ∃ status, Means e.2 status) (last : lastNaming? raw extra = some e)
    (means : Means e.2 status) : project raw extra = .ok status := by
  obtain ⟨named, before, after, reversed, unnamed⟩ := List.find?_eq_some_iff_append.mp last
  have split : extra = after.reverse ++ e :: before.reverse := by
    rw [← List.reverse_inj, reversed]
    simp
  have later : ∀ a ∈ before.reverse, normal a.1 ≠ spelling raw := by
    intro a ha same
    have other := unnamed a (List.mem_reverse.mp ha)
    simp [normal_eq_spelling_iff.mp same] at other
  have rest : ∀ a ∈ before.reverse, ∃ status, Means a.2 status := fun a ha =>
    meant a (split ▸ List.mem_append_right _ (List.mem_cons_of_mem e ha))
  obtain ⟨t, ht⟩ : ∃ t, extend builtin after.reverse = .ok t := by
    cases extended : extend builtin after.reverse with
    | ok t => exact ⟨t, rfl⟩
    | error f =>
      obtain ⟨a, ha, none⟩ := extend_eq_error_iff.mp ⟨f, extended⟩
      obtain ⟨status, some⟩ := meant a (split ▸ List.mem_append_left _ ha)
      exact absurd some (none status)
  have found : (table extra).map (·.lookup (spelling raw)) = .ok (some status) := by
    have same : normal e.1 = spelling raw := normal_eq_spelling_iff.mpr (by simpa using named)
    rw [table, split, extend_append, ht, Except.bind, extend_cons means,
      lookup_extend_of_ne rest later, same, Json.lookup_setMember_self]
  rw [project_eq, found, Except.bind, settled]

theorem project_of_unnamed (meant : ∀ e ∈ extra, ∃ status, Means e.2 status)
    (unnamed : lastNaming? raw extra = none) :
    project raw extra = settled raw (builtin.lookup (spelling raw)) := by
  have others : ∀ e ∈ extra, normal e.1 ≠ spelling raw := by
    intro e he same
    have other := List.find?_eq_none.mp unnamed e (List.mem_reverse.mpr he)
    simp [normal_eq_spelling_iff.mp same] at other
  rw [project_eq, table, lookup_extend_of_ne meant others, Except.bind]

/-- An entry that is about another status has no part in what is projected. -/
theorem project_without {e : String × Json} {status : Status} (other : ¬Names e raw)
    (means : Means e.2 status) (before after : Extra) :
    project raw (before ++ e :: after) = project raw (before ++ after) := by
  have named : spelling raw ≠ normal e.1 := fun same => other (normal_eq_spelling_iff.mp same.symm)
  have same : (table (before ++ e :: after)).map (·.lookup (spelling raw)) =
      (table (before ++ after)).map (·.lookup (spelling raw)) := by
    rw [table, table, extend_append, extend_append]
    cases extend builtin before with
    | error f => simp only [Except.map, Except.bind]
    | ok t =>
      rw [Except.bind, Except.bind, extend_cons means]
      exact map_lookup_extend (Json.lookup_setMember_of_ne _ named _) after
  rw [project_eq, project_eq, same]

/-- A status is refused for a faulty entry whatever it is. Otherwise the last entry about it
decides, and where there is none the known spelling. Entries about others do not matter, and
spellings with one normal form have one meaning. -/
theorem project_meaning (raw : Json) (extra : Extra) :
    ((∃ f, project raw extra = .error f ∧ f.kind = .invalidConfiguration) ↔
        ∃ e ∈ extra, ∀ status, ¬Means e.2 status) ∧
      ((∀ e ∈ extra, ∃ status, Means e.2 status) →
        (∀ e status, lastNaming? raw extra = some e → Means e.2 status →
          project raw extra = .ok status) ∧
        (lastNaming? raw extra = none →
          project raw extra = settled raw (builtin.lookup (spelling raw)))) ∧
      (∀ before e after status, extra = before ++ e :: after → ¬Names e raw → Means e.2 status →
        project raw extra = project raw (before ++ after)) ∧
      ∀ other, spelling other = spelling raw →
        (project other extra).toOption = (project raw extra).toOption := by
  refine ⟨?_, fun meant => ⟨fun e status => project_of_last meant, project_of_unnamed meant⟩, ?_, ?_⟩
  · have faulty : (∃ f, table extra = .error f) ↔ ∃ e ∈ extra, ∀ status, ¬Means e.2 status :=
      extend_eq_error_iff
    rw [← faulty, project_eq]
    constructor
    · rintro ⟨f, failed, kind⟩
      cases extended : table extra with
      | error f' => exact ⟨f', rfl⟩
      | ok t =>
        rw [extended] at failed
        simp only [Except.map, Except.bind] at failed
        rw [kind_of_settled failed] at kind
        cases kind
    · rintro ⟨f, failed⟩
      exact ⟨f, by rw [failed, Except.map, Except.bind], kind_of_extend failed⟩
  · rintro before e after status rfl other means
    exact project_without other means before after
  · intro other same
    rw [project_eq, project_eq, same]
    cases (table extra).map (·.lookup (spelling raw)) with
    | error f => simp only [Except.bind, Except.toOption]
    | ok found => cases found <;> simp only [Except.bind, settled, Except.toOption]

/-- Two spellings of one name, the later of which counts, and a value in capitals. -/
example : (project (.str "DONE") [("Done", .str "open"), (" done ", .str "RESOLVED")]).toOption =
    some resolved := by decide

end TicketKeeper.Status
