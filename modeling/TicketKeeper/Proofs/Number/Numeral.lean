import TicketKeeper.Number.Integer
import TicketKeeper.Proofs.Text.Lines

/-! Whole numbers survive being written as numerals and read again, up to the length that numerals
may have. -/
namespace TicketKeeper.Number

open TicketKeeper.Text

theorem toNat_of_isDigit {c : Char} (h : c.isDigit = true) : 48 ≤ c.toNat ∧ c.toNat ≤ 57 := by
  simp only [Char.isDigit, Bool.and_eq_true, decide_eq_true_eq, ge_iff_le,
    UInt32.le_iff_toNat_le] at h
  exact h

theorem isBlank_of_isDigit {c : Char} (h : c.isDigit = true) : isBlank c = false := by
  have := toNat_of_isDigit h
  simp only [isBlank, Bool.or_eq_false_iff, Bool.and_eq_false_iff, decide_eq_false_iff_not,
    beq_eq_false_iff_ne]
  omega

theorem isSpacing_of_not_isBlank {c : Char} (h : isBlank c = false) : isSpacing c = false := by
  rw [isSpacing, h, Bool.false_and]

theorem digitValue?_of_isDigit {c : Char} (h : c.isDigit = true) :
    digitValue? c = some (c.toNat - 48) := by
  obtain ⟨low, high⟩ := toNat_of_isDigit h
  rw [digitValue?, digitZeros, List.find?_cons_of_pos]
  · rfl
  · simp only [Bool.and_eq_true, decide_eq_true_eq]
    omega

theorem digitRun_digits {ds : List Char} (hne : ds ≠ []) (h : ∀ c ∈ ds, c.isDigit = true) :
    digitRun digitValue? ds = some (ds.map fun c => c.toNat - 48) := by
  fun_induction digitRun digitValue? ds with
  | case1 => contradiction
  | case2 c => simp [digitValue?_of_isDigit (h c (by simp))]
  | case3 c r ih =>
    have := h '_' (by simp)
    contradiction
  | case4 c r hr hc ih =>
    have tail := ih hr fun d hd => h d (List.mem_cons_of_mem c hd)
    simp [digitValue?_of_isDigit (h c List.mem_cons_self), tail]

theorem ofDigits_eq (ds : List Char) :
    ofDigits (ds.map fun c => c.toNat - 48) = Nat.ofDigitChars 10 ds 0 := by
  rw [ofDigits, List.foldl_map, Nat.ofDigitChars_eq_foldl]
  simp only [Nat.mul_comm 10]
  rfl

theorem cutSign_digits {ds : List Char} (h : ∀ c ∈ ds, c.isDigit = true) :
    cutSign ds = (false, ds) := by
  unfold cutSign
  split
  · have := h '-' (by simp)
    contradiction
  · have := h '+' (by simp)
    contradiction
  · rfl

theorem numeral?_digits {ds : List Char} (hne : ds ≠ []) (h : ∀ c ∈ ds, c.isDigit = true)
    (short : ds.length ≤ maxDigits) (negative : Bool) :
    numeral? (if negative then '-' :: ds else ds) =
      some (withSign negative (Nat.ofDigitChars 10 ds 0)) := by
  have spacing : ∀ c ∈ ds, isSpacing c = false :=
    fun c hc => isSpacing_of_not_isBlank (isBlank_of_isDigit (h c hc))
  have sign : cutSign (trimBy isSpacing (if negative then '-' :: ds else ds)) = (negative, ds) := by
    cases negative with
    | false => exact (congrArg cutSign (trimBy_eq_self spacing)).trans (cutSign_digits h)
    | true =>
      have all : ∀ c ∈ '-' :: ds, isSpacing c = false := by
        simpa using ⟨by decide, spacing⟩
      exact congrArg cutSign (trimBy_eq_self all)
  simp only [numeral?, sign, digitRun_digits hne h, Option.bind_eq_bind, Option.bind_some,
    List.length_map, if_pos short, ofDigits_eq]

theorem isDigit_toDigits {n : Nat} : ∀ c ∈ Nat.toDigits 10 n, c.isDigit = true :=
  fun _ hc => Nat.isDigit_of_mem_toDigits (by decide) (by decide) hc

theorem toList_toString (n : Int) : (toString n).toList =
    if decide (n < 0) then '-' :: Nat.toDigits 10 n.natAbs else Nat.toDigits 10 n.natAbs := by
  rw [Int.toString_eq_repr, Int.repr_eq_if]
  by_cases h : 0 ≤ n
  · rw [if_pos h, if_neg (by simp [h]), Nat.toList_repr, ← Int.toNat_of_nonneg h]
    rfl
  · have hn : (-n).toNat = n.natAbs := by omega
    rw [if_neg h, if_pos (by simpa using h), String.toList_append, Nat.toList_repr, hn]
    rfl

theorem withSign_natAbs (n : Int) : withSign (decide (n < 0)) n.natAbs = n := by
  by_cases h : n < 0
  · rw [decide_eq_true h, withSign, if_pos rfl]
    omega
  · rw [decide_eq_false h, withSign, if_neg Bool.false_ne_true]
    omega

theorem numeral?_toString {n : Int} (h : isWritable n = true) :
    numeral? (toString n).toList = some n := by
  have short : (Nat.toDigits 10 n.natAbs).length ≤ maxDigits := of_decide_eq_true h
  rw [toList_toString, numeral?_digits Nat.toDigits_ne_nil isDigit_toDigits short,
    Nat.ofDigitChars_ten_toDigits, withSign_natAbs]

theorem isBlank_toString (n : Int) : ∀ c ∈ (toString n).toList, isBlank c = false := by
  have digits : ∀ c ∈ Nat.toDigits 10 n.natAbs, isBlank c = false :=
    fun c hc => isBlank_of_isDigit (isDigit_toDigits c hc)
  rw [toList_toString]
  split
  · simpa using ⟨by decide, digits⟩
  · exact digits

end TicketKeeper.Number
