import Mathlib.Data.List.TakeDrop
import Mathlib.Data.Nat.Digits.Defs
import TicketKeeper.CommandLine.Run
import TicketKeeper.Json.Reader
import TicketKeeper.Proofs.Number.Numeral
import TicketKeeper.Proofs.Text.Words

/-! Reports that are read. However their numbers are spelled, the number of the build has a numeral,
so that it can be posted; and whatever is given for the job and for the address of the build, what
is read is a single line. -/
namespace TicketKeeper

open TicketKeeper.Text

namespace Number

theorem natAbs_withSign (negative : Bool) (n : Nat) : (withSign negative n).natAbs = n := by
  cases negative with
  | true => exact Int.natAbs_neg n
  | false => rfl

theorem isWritable_of_lt {n : Int} {digits : Nat} (pos : 0 < digits) (short : digits ≤ maxDigits)
    (h : n.natAbs < 10 ^ digits) : isWritable n = true :=
  decide_eq_true ((Nat.toDigits_length 10 n.natAbs digits pos h).trans short)

theorem ofDigits_concat (ds : List Nat) (d : Nat) :
    ofDigits (ds ++ [d]) = ofDigits ds * 10 + d := by
  simp [ofDigits]

theorem ofDigits_lt {ds : List Nat} (h : ∀ d ∈ ds, d < 10) : ofDigits ds < 10 ^ ds.length := by
  induction ds using List.reverseRecOn with
  | nil => decide
  | append_singleton ds d ih =>
    have front := ih fun d' hd => h d' (List.mem_append_left _ hd)
    have last := h d (List.mem_append_right _ List.mem_cons_self)
    rw [ofDigits_concat, List.length_append, List.length_singleton, Nat.pow_succ]
    omega

theorem isWritable_ofDigits {ds : List Nat} (any : ds ≠ []) (short : ds.length ≤ maxDigits)
    (h : ∀ d ∈ ds, d < 10) (negative : Bool) :
    isWritable (withSign negative (ofDigits ds)) = true := by
  apply isWritable_of_lt (List.length_pos_iff.mpr any) short
  rw [natAbs_withSign]
  exact ofDigits_lt h

theorem mem_span_isDigit {s : List Char} {c : Char} (h : c ∈ (s.span Char.isDigit).1) :
    c.isDigit = true := by
  rw [List.span_eq_takeWhile_dropWhile] at h
  exact List.mem_takeWhile_imp h

theorem filterMap_asciiDigit? {ds : List Char} (h : ∀ c ∈ ds, c.isDigit = true) :
    ds.filterMap asciiDigit? = ds.map fun c => c.toNat - 48 := by
  induction ds with
  | nil => rfl
  | cons c ds ih =>
    rw [List.filterMap_cons_some (show asciiDigit? c = some (c.toNat - 48) from
      if_pos (h c List.mem_cons_self)), ih fun c hc => h c (List.mem_cons_of_mem _ hc)]
    rfl

theorem isWritable_digits {ds : List Char} (any : ds ≠ []) (short : ds.length ≤ maxDigits)
    (h : ∀ c ∈ ds, c.isDigit = true) (negative : Bool) :
    isWritable (withSign negative (ofDigits (ds.map fun c => c.toNat - 48))) = true := by
  apply isWritable_ofDigits
  · simpa using any
  · simpa using short
  · intro d hd
    obtain ⟨c, hc, rfl⟩ := List.mem_map.mp hd
    have := toNat_of_isDigit (h c hc)
    omega

theorem isWritable_ofBareField {s : List Char} {n : Int} (h : ofBareField s = .ok n) :
    isWritable n = true := by
  unfold ofBareField at h
  split at h
  rename_i negative digits _
  dsimp only at h
  generalize (if negative = true then 1 else 0) = width at h
  split at h
  · cases h
  rename_i shaped
  split at h
  · cases h
  rename_i short
  split at h
  · cases h
    rw [filterMap_asciiDigit? fun _ => mem_span_isDigit]
    exact isWritable_digits (by grind) (by omega) (fun _ => mem_span_isDigit) negative
  · cases h

theorem isWritable_field {s : List Char} {n : Int} (h : field s = .ok n) : isWritable n = true := by
  unfold field at h
  split at h
  · exact isWritable_ofBareField h
  · cases h

theorem lt_of_digitValue? {c : Char} {d : Nat} (h : digitValue? c = some d) : d < 10 := by
  obtain ⟨start, found, rfl⟩ := Option.map_eq_some_iff.mp h
  have near := List.find?_some found
  simp only [Bool.and_eq_true, decide_eq_true_eq] at near
  omega

theorem digits_of_digitRun {s : List Char} {ds : List Nat} (h : digitRun digitValue? s = some ds) :
    ds ≠ [] ∧ ∀ d ∈ ds, d < 10 := by
  fun_induction digitRun digitValue? s generalizing ds with
  | case1 => cases h
  | case2 c =>
    obtain ⟨d, value, rfl⟩ := Option.map_eq_some_iff.mp h
    exact ⟨List.cons_ne_nil _ _, by simpa using lt_of_digitValue? value⟩
  | case3 c r ih =>
    simp only [Option.pure_def, Option.bind_eq_bind, Option.bind_eq_some_iff] at h
    obtain ⟨d, value, ds, rest, ⟨⟩⟩ := h
    exact ⟨List.cons_ne_nil _ _, List.forall_mem_cons.mpr ⟨lt_of_digitValue? value, (ih rest).2⟩⟩
  | case4 c r _ _ ih =>
    simp only [Option.pure_def, Option.bind_eq_bind, Option.bind_eq_some_iff] at h
    obtain ⟨d, value, ds, rest, ⟨⟩⟩ := h
    exact ⟨List.cons_ne_nil _ _, List.forall_mem_cons.mpr ⟨lt_of_digitValue? value, (ih rest).2⟩⟩

theorem isWritable_of_numeral? {s : List Char} {n : Int} (h : numeral? s = some n) :
    isWritable n = true := by
  simp only [numeral?, Option.bind_eq_bind, Option.bind_eq_some_iff] at h
  obtain ⟨ds, run, h⟩ := h
  split at h
  · cases h
    obtain ⟨any, small⟩ := digits_of_digitRun run
    exact isWritable_ofDigits any ‹_› small _
  · cases h

end Number

namespace Json

def Plain (v : Json) : Prop := ∀ n, v = .int n → Number.isWritable n = true

theorem plain_readNumber {start : Nat} {s r : List Char} {v : Json}
    (h : readNumber start s = .ok (v, r)) : v.Plain := by
  rintro n rfl
  unfold readNumber at h
  split at h
  rename_i negative _ _
  split at h
  rename_i whole _ cut
  have digits : ∀ c ∈ whole, c.isDigit = true := by
    split at cut
    · cases cut
      simp
    · intro c hc
      exact Number.mem_span_isDigit (by rwa [cut])
  split at h
  · cases h
  rename_i any
  split at h
  · split at h
    · cases h
    rename_i short
    cases h
    exact Number.isWritable_digits (by simpa using any) (by omega) digits negative
  · cases h
  · cases h

theorem number_of_readNumber {start : Nat} {s r : List Char} {v : Json}
    (h : readNumber start s = .ok (v, r)) : (∃ n, v = .int n) ∨ ∃ x, v = .float x := by
  unfold readNumber at h
  repeat' split at h
  all_goals cases h
  all_goals first | exact .inl ⟨_, rfl⟩ | exact .inr ⟨_, rfl⟩

theorem plain_named {s : List Char} {name : List Char} {v : Json}
    (h : named.find? (fun p => p.1.isPrefixOf s) = some (name, v)) : v.Plain := by
  rintro n rfl
  have listed := List.mem_of_find?_eq_some h
  simp [named] at listed

theorem plain_readValue {depth : Nat} {s r : List Char} {v : Json}
    (h : readValue depth s = .ok (v, r)) : v.Plain := by
  unfold readValue at h
  split at h
  · cases h
  rename_i s
  split at h
  case h_1 => cases h
  case h_5 =>
    split at h
    · cases h
      exact plain_named ‹_›
    · exact plain_readNumber h
  -- A string, an array or an object is no number.
  all_goals
    rintro n rfl
    simp only [bind, Except.bind] at h
    split at h
    · cases h
    · first
        | cases h
        | (split at h <;> cases h)

theorem mem_setMember {α : Type} {name : String} {v : α} {members : List (String × α)}
    {m : String × α} (h : m ∈ setMember name v members) : m.2 = v ∨ m ∈ members := by
  fun_induction setMember name v members <;> grind

theorem plain_readMembers {depth n : Nat} {before members : List (String × Json)} {s r : List Char}
    (h : readMembers (readValue depth) n before s = .ok (members, r))
    (plain : ∀ m ∈ before, m.2.Plain) : ∀ m ∈ members, m.2.Plain := by
  induction n generalizing before s with
  | zero =>
    unfold readMembers at h
    cases h
  | succ n ih =>
    unfold readMembers at h
    split at h
    case h_2 => cases h
    simp only [bind, Except.bind] at h
    split at h
    · cases h
    split at h
    case h_2 => cases h
    split at h
    · cases h
    rename_i read
    have grown name : ∀ m ∈ setMember name _ before, m.2.Plain := fun m hm =>
      (mem_setMember hm).elim (fun same => same ▸ plain_readValue read) (plain m)
    split at h
    · cases h
      exact grown _
    · exact ih h (grown _)
    · cases h

theorem plain_members {depth : Nat} {s r : List Char} {members : List (String × Json)}
    (h : readValue depth s = .ok (.obj members, r)) : ∀ m ∈ members, m.2.Plain := by
  unfold readValue at h
  split at h
  · cases h
  split at h
  case h_1 => cases h
  case h_2 =>
    simp only [bind, Except.bind] at h
    split at h <;> cases h
  case h_3 =>
    simp only [bind, Except.bind] at h
    split at h
    · cases h
    · split at h <;> cases h
  case h_4 =>
    simp only [bind, Except.bind] at h
    split at h
    · cases h
      simp
    · split at h
      · cases h
      · cases h
        exact plain_readMembers ‹_› (by simp)
  case h_5 =>
    split at h
    · cases h
      have listed := List.mem_of_find?_eq_some ‹_›
      simp [named] at listed
    · obtain ⟨n, ⟨⟩⟩ | ⟨x, ⟨⟩⟩ := number_of_readNumber h

theorem plain_ofBytes {bs : Text.Bytes} {depth : Nat} {members : List (String × Json)}
    (h : ofBytes bs depth = .ok (.obj members)) : ∀ m ∈ members, m.2.Plain := by
  unfold ofBytes at h
  split at h
  case h_2 => cases h
  unfold ofText at h
  dsimp only at h
  split at h
  · cases h
  · rename_i read
    split at h
    · cases h
      exact plain_members read
    · cases h

end Json

namespace Report

theorem isWritable_wholeNumber {v : Json} {n : Int} (plain : v.Plain) (h : wholeNumber v = .ok n) :
    Number.isWritable n = true := by
  unfold wholeNumber at h
  split at h
  · cases h
    exact plain n rfl
  · cases h
    split <;> decide
  · rename_i s
    cases read : Number.field s.toList with
    | ok n' =>
      rw [read] at h
      cases h
      exact Number.isWritable_field read
    | error fault =>
      rw [read] at h
      cases h
  · split at h
    · split at h
      · cases h
      split at h
      · cases h
        exact Number.isWritable_of_lt (show 0 < 19 by decide) (by decide) (by omega)
      · cases h
    · cases h
  · cases h

theorem ok_of_toOption {ε α : Type} {r : Except ε α} {a : α} (h : r.toOption = some a) :
    r = .ok a := by
  cases r with
  | ok => exact congrArg Except.ok (Option.some.inj h)
  | error => cases h

theorem written_eq_ok {α : Type} {v : Json} {read : Except Rule α} {a : α} :
    written v read = .ok a ↔ v.hasText = true ∧ read = .ok a := by
  unfold written
  cases v.hasText <;> simp

theorem fields_of_ofMembers {members : List (String × Json)} {r : Report}
    (h : ofMembers members = .ok r) :
    (∃ v, Json.member? "job_name" members = some v ∧
      written v (bounded 1 maxJob (Field.line v)) = .ok r.job) ∧
    (∃ v, Json.member? "build_number" members = some v ∧ buildNumber v = .ok r.number) ∧
    ((Json.member? "build_url" members).map fun v =>
      written v (bounded 0 maxUrl (Field.line v))).getD (.ok "") = .ok r.url := by
  unfold ofMembers at h
  dsimp only at h
  split at h
  · cases h
  split at h
  · rename_i read
    cases h
    simp only [Option.pure_def, Option.bind_eq_bind, Option.bind_eq_some_iff] at read
    obtain ⟨job, named, n, number, url, shown, _, -, _, -, _, -, _, -, _, -, _, -, _, -, ⟨⟩⟩ := read
    refine ⟨?_, ?_, ok_of_toOption shown⟩
    · cases found : Json.member? "job_name" members with
      | none => rw [found] at named; cases named
      | some v => exact ⟨v, rfl, ok_of_toOption (by simpa only [found] using named)⟩
    · cases found : Json.member? "build_number" members with
      | none => rw [found] at number; cases number
      | some v => exact ⟨v, rfl, ok_of_toOption (by simpa only [found] using number)⟩
  · cases h

theorem buildNumber_of_ofMembers {members : List (String × Json)} {r : Report}
    (h : ofMembers members = .ok r) :
    ∃ v, Json.member? "build_number" members = some v ∧ buildNumber v = .ok r.number :=
  (fields_of_ofMembers h).2.1

theorem isWritable_buildNumber {v : Json} {n : Int} (plain : v.Plain) (h : buildNumber v = .ok n) :
    Number.isWritable n = true := by
  unfold buildNumber at h
  cases whole : wholeNumber v with
  | error => simp [whole, bind, Except.bind] at h
  | ok n' =>
    simp only [whole, bind, Except.bind] at h
    split at h
    · cases h
    · cases h
      exact isWritable_wholeNumber plain whole

theorem eq_of_bounded {least most : Nat} {s s' : String} (h : bounded least most s = .ok s') :
    s' = s := by
  unfold bounded at h
  repeat' split at h
  all_goals cases h
  rfl

theorem isLine_field (v : Json) : Text.IsLine (Field.line v).toList := by
  rw [Field.line, String.toList_ofList]
  exact Text.isLine_cleanLine _

theorem one_le_of_buildNumber {v : Json} {n : Int} (h : buildNumber v = .ok n) : 1 ≤ n := by
  unfold buildNumber at h
  cases whole : wholeNumber v with
  | error => simp [whole, bind, Except.bind] at h
  | ok n' =>
    simp only [whole, bind, Except.bind] at h
    split at h
    · cases h
    · cases h
      omega

theorem job_of_ofMembers {members : List (String × Json)} {r : Report}
    (h : ofMembers members = .ok r) :
    ∃ v, Json.member? "job_name" members = some v ∧ r.job = Field.line v := by
  obtain ⟨⟨v, found, named⟩, -, -⟩ := fields_of_ofMembers h
  exact ⟨v, found, eq_of_bounded (written_eq_ok.mp named).2⟩

theorem isLine_of_ofMembers {members : List (String × Json)} {r : Report}
    (h : ofMembers members = .ok r) : Text.IsLine r.job.toList ∧ Text.IsLine r.url.toList := by
  obtain ⟨⟨v, -, named⟩, -, shown⟩ := fields_of_ofMembers h
  constructor
  · rw [eq_of_bounded (written_eq_ok.mp named).2]
    exact isLine_field v
  · cases found : Json.member? "build_url" members with
    | none =>
      rw [found] at shown
      rw [← Except.ok.inj shown]
      exact (by decide : Text.IsLine "".toList)
    | some v =>
      rw [found] at shown
      rw [eq_of_bounded (written_eq_ok.mp shown).2]
      exact isLine_field v

/-- A report that comes from outside: as bytes of JSON, or from the command line. -/
inductive Accepted (r : Report) : Prop where
  | sent {bs : List UInt8} {depth : Nat} {v : Json} :
      Json.ofBytes bs depth = .ok v → ofJson v = .ok r → Accepted r
  | given {τ : Type} {c : CommandLine.Console τ} {args : List String}
      {a : CommandLine.Arguments} :
      c.arguments args = .ok (.ok a) → ofJson a.reportJson = .ok r → Accepted r

theorem exists_members_of_ofJson {v : Json} {r : Report} (h : ofJson v = .ok r) :
    ∃ members, v = .obj members ∧ ofMembers members = .ok r := by
  unfold ofJson at h
  split at h
  · exact ⟨_, rfl, h⟩
  · cases h

theorem plain_given {settings : Settings} {env : List (String × String)} {number : Int}
    (h : CommandLine.environmentNumber env = .ok number) (values : CommandLine.Values) :
    (CommandLine.Arguments.ofValues settings env number values).buildNumber.Plain := by
  intro n told
  cases found : values.lookup .buildNumber with
  | none =>
    -- Without an option the number of the environment counts.
    have same : number = n := by simpa [CommandLine.Arguments.ofValues, found] using told
    subst same
    unfold CommandLine.environmentNumber at h
    split at h
    · cases h
      decide
    · rename_i s _
      cases read : Number.numeral? s.toList with
      | none => simp [read] at h
      | some m =>
        obtain rfl : m = number := by simpa [read] using h
        exact Number.isWritable_of_numeral? read
  | some v =>
    cases v with
    | none => simp [CommandLine.Arguments.ofValues, found] at told
    | some s =>
      cases read : Number.numeral? s.toList with
      | none => simp [CommandLine.Arguments.ofValues, found, read, Json.ofInt?, Json.ofOption] at told
      | some m =>
        obtain rfl : m = n := by
          simpa [CommandLine.Arguments.ofValues, found, read, Json.ofInt?, Json.ofOption] using told
        exact Number.isWritable_of_numeral? read

/-- The number of a build that is reported from outside has a numeral. -/
theorem Accepted.isWritable {r : Report} (h : r.Accepted) : Number.isWritable r.number = true := by
  cases h with
  | sent read h =>
    obtain ⟨members, rfl, h⟩ := exists_members_of_ofJson h
    obtain ⟨v, found, number⟩ := buildNumber_of_ofMembers h
    obtain ⟨before, behind, rfl, -⟩ := List.lookup_eq_some_iff.mp found
    have plain := Json.plain_ofBytes read _ (List.mem_append_right before List.mem_cons_self)
    exact isWritable_buildNumber plain number
  | @given _ c args a told h =>
    obtain ⟨v, found, number⟩ := buildNumber_of_ofMembers h
    obtain rfl : a.buildNumber = v := Option.some.inj found
    cases env : CommandLine.environmentNumber c.env with
    | error fault => simp [CommandLine.Console.arguments, env, bind, Except.bind] at told
    | ok n =>
      simp only [CommandLine.Console.arguments, env, bind, Except.bind, pure, Except.pure,
        Except.ok.injEq] at told
      cases taken : CommandLine.parse args c.settings.host.dropsDashes with
      | error refusal => simp [taken, Except.map] at told
      | ok values =>
        simp only [taken, Except.map, Except.ok.injEq] at told
        exact isWritable_buildNumber (told ▸ plain_given env values) number

end Report

end TicketKeeper
