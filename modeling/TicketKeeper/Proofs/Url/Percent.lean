import TicketKeeper.Url.Percent
import TicketKeeper.Proofs.Text.Utf8
import TicketKeeper.Proofs.Text.Words

/-! Percent encoding and its reading. A text is read as escapes and single characters, one after
the other. Encoding leaves the escapes as they are and writes the characters so that they stand for
the same bytes; reading gives a text back as it was when it has no escapes, and a shorter one
otherwise. -/
namespace TicketKeeper.Url

open TicketKeeper.Text

def startsHex : List Char → Bool
  | a :: b :: _ => isHexDigit a && isHexDigit b
  | _ => false

def hasEscape : List Char → Bool
  | [] => false
  | c :: r => (c == '%' && startsHex r) || hasEscape r

def unit (safe : Char → Bool) (c : Char) : List Char := if safe c then [c] else percentChar c

section Reading

variable {safe : Char → Bool} {a b c : Char} {r s : List Char}

theorem exists_hexValue (h : isHexDigit a = true) : ∃ x, hexValue? a = some x :=
  Option.isSome_iff_exists.mp h

theorem percentEncode_escape (ha : isHexDigit a = true) (hb : isHexDigit b = true) :
    percentEncode safe ('%' :: a :: b :: r) = '%' :: a :: b :: percentEncode safe r := by
  simp only [percentEncode, ha, hb, Bool.and_self, if_true]

theorem percentEncode_cons (plain : ¬(c = '%' ∧ startsHex r = true)) :
    percentEncode safe (c :: r) = unit safe c ++ percentEncode safe r := by
  rw [percentEncode.eq_def]
  split
  · rename_i a b r same
    cases same
    have other : (isHexDigit a && isHexDigit b) = false := by simpa [startsHex] using plain
    rw [other, if_neg Bool.false_ne_true, unit]
  · rename_i same
    cases same
    rw [unit]
  · contradiction

theorem percentBytes_escape (ha : isHexDigit a = true) (hb : isHexDigit b = true) :
    ∃ byte, ∀ r, percentBytes ('%' :: a :: b :: r) = byte :: percentBytes r := by
  obtain ⟨x, hx⟩ := exists_hexValue ha
  obtain ⟨y, hy⟩ := exists_hexValue hb
  exact ⟨UInt8.ofNat (x * 16 + y), fun r => by simp only [percentBytes, hx, hy]⟩

theorem percentBytes_cons (plain : ¬(c = '%' ∧ startsHex r = true)) :
    percentBytes (c :: r) = encodeUtf8 [c] ++ percentBytes r := by
  have percent : encodeUtf8 ['%'] = [0x25] := by decide
  rw [percentBytes.eq_def]
  split
  · rename_i a b r same
    cases same
    split
    · rename_i x y hx hy
      simp [startsHex, isHexDigit, hx, hy] at plain
    · rw [percent]
      rfl
  · rename_i same
    cases same
    rfl
  · contradiction

/-- A text is read as escapes and characters that are no part of one. -/
theorem escape_induction {motive : List Char → Prop} (nil : motive [])
    (escape : ∀ a b r, isHexDigit a = true → isHexDigit b = true → motive r →
      motive ('%' :: a :: b :: r))
    (plain : ∀ c r, ¬(c = '%' ∧ startsHex r = true) → motive r → motive (c :: r))
    (s : List Char) : motive s := by
  fun_induction percentEncode (fun _ => true) s with
  | case1 a b r hex ih =>
    obtain ⟨ha, hb⟩ := Bool.and_eq_true_iff.mp hex
    exact escape a b r ha hb ih
  | case2 a b r other ih => exact plain '%' _ (fun h => other h.2) ih
  | case3 c r other ih =>
    refine plain c r ?_ ih
    rintro ⟨rfl, hex⟩
    match r, hex with
    | a :: b :: r, _ => exact other a b r rfl rfl
  | case4 => exact nil

end Reading

section Bytes

variable {safe : Char → Bool} {c : Char} {r s : List Char}

theorem hexValue?_upperHex : ∀ n : Fin 16, hexValue? (upperHex n.val) = some n.val := by
  decide

theorem percentBytes_percentByte (b : UInt8) (r : List Char) :
    percentBytes (percentByte b ++ r) = b :: percentBytes r := by
  have hb := b.toNat_lt
  have high := hexValue?_upperHex ⟨b.toNat / 16, by omega⟩
  have low := hexValue?_upperHex ⟨b.toNat % 16, by omega⟩
  have sum : b.toNat / 16 * 16 + b.toNat % 16 = b.toNat := by omega
  simp only [percentByte, List.cons_append, List.nil_append, percentBytes, high, low, sum,
    UInt8.ofNat_toNat]

theorem percentBytes_percentChar (c : Char) (r : List Char) :
    percentBytes (percentChar c ++ r) = encodeUtf8 [c] ++ percentBytes r := by
  unfold percentChar
  induction encodeUtf8 [c] with
  | nil => rfl
  | cons b bs ih =>
    rw [List.flatMap_cons, List.append_assoc, percentBytes_percentByte, ih, List.cons_append]

theorem percentChar_eq_cons (c : Char) : ∃ t, percentChar c = '%' :: t := by
  obtain ⟨b, bs, hb⟩ := List.exists_cons_of_length_pos (length_encode_pos c)
  rw [percentChar, encodeUtf8, List.flatMap_singleton, hb, List.flatMap_cons]
  exact ⟨_, rfl⟩

theorem eq_cons_of_percentEncode {x : Char} {t : List Char} (h : percentEncode safe s = x :: t)
    (other : x ≠ '%') : ∃ r, s = x :: r ∧ percentEncode safe r = t := by
  induction s using escape_induction with
  | nil => cases h
  | escape a b r ha hb =>
    rw [percentEncode_escape ha hb] at h
    cases h
    contradiction
  | plain c r plain =>
    rw [percentEncode_cons plain, unit] at h
    split at h
    · cases h
      exact ⟨r, rfl, rfl⟩
    · obtain ⟨t', percent⟩ := percentChar_eq_cons c
      rw [percent] at h
      cases h
      contradiction

theorem startsHex_of_percentEncode (h : startsHex (percentEncode safe s) = true) :
    startsHex s = true := by
  have digit {a : Char} (ha : isHexDigit a = true) : a ≠ '%' := by
    rintro rfl
    exact absurd ha (by decide)
  unfold startsHex at h
  split at h
  · rename_i a b t encoded
    obtain ⟨ha, hb⟩ := Bool.and_eq_true_iff.mp h
    obtain ⟨_, rfl, rest⟩ := eq_cons_of_percentEncode encoded (digit ha)
    obtain ⟨_, rfl, -⟩ := eq_cons_of_percentEncode rest (digit hb)
    exact h
  · cases h

theorem percentBytes_percentEncode (safe : Char → Bool) (s : List Char) :
    percentBytes (percentEncode safe s) = percentBytes s := by
  induction s using escape_induction with
  | nil => rfl
  | escape a b r ha hb ih =>
    obtain ⟨byte, bytes⟩ := percentBytes_escape ha hb
    rw [percentEncode_escape ha hb, bytes, bytes, ih]
  | plain c r plain ih =>
    rw [percentEncode_cons plain, percentBytes_cons plain, ← ih, unit]
    split
    · exact percentBytes_cons fun h => plain ⟨h.1, startsHex_of_percentEncode h.2⟩
    · exact percentBytes_percentChar c _

theorem percentDecode_percentEncode (safe : Char → Bool) (s : List Char) :
    percentDecode (percentEncode safe s) = percentDecode s :=
  congrArg decodeLossy (percentBytes_percentEncode safe s)

theorem percentBytes_of_literal (literal : hasEscape s = false) :
    percentBytes s = encodeUtf8 s := by
  induction s with
  | nil => rfl
  | cons c r ih =>
    obtain ⟨plain, rest⟩ := Bool.or_eq_false_iff.mp literal
    rw [percentBytes_cons (by simpa using plain), ih rest, encodeUtf8, encodeUtf8, encodeUtf8,
      List.flatMap_singleton, List.flatMap_cons]

theorem percentDecode_of_literal (literal : hasEscape s = false) : percentDecode s = s := by
  rw [percentDecode, percentBytes_of_literal literal, decodeLossy_encodeUtf8]

theorem length_percentDecode_le (s : List Char) :
    (percentDecode s).length + (hasEscape s).toNat ≤ s.length := by
  unfold percentDecode
  induction s using escape_induction with
  | nil => exact Nat.le_refl _
  | escape a b r ha hb ih =>
    obtain ⟨byte, bytes⟩ := percentBytes_escape ha hb
    have shorter := length_decodeLossy_cons_le byte (percentBytes r)
    have most := Bool.toNat_le (hasEscape ('%' :: a :: b :: r))
    rw [bytes, List.length_cons, List.length_cons, List.length_cons]
    omega
  | plain c r plain ih =>
    have bytes : percentBytes (c :: r) = String.utf8EncodeChar c ++ percentBytes r := by
      rw [percentBytes_cons plain, encodeUtf8, List.flatMap_singleton]
    have same : hasEscape (c :: r) = hasEscape r := by
      have none : (c == '%' && startsHex r) = false := by simpa using plain
      rw [hasEscape, none, Bool.false_or]
    rw [same, bytes, decodeLossy_encode_append, List.length_cons, List.length_cons]
    omega

end Bytes

section Separators

variable {safe : Char → Bool} {s t : List Char}

theorem slash_not_mem_percentEncode (h : '/' ∉ s) : '/' ∉ percentEncode safe s := by
  have digit : ∀ n : Fin 16, upperHex n.val ≠ '/' := by decide
  have written (c : Char) : '/' ∉ percentChar c := by
    unfold percentChar
    rw [List.mem_flatMap]
    rintro ⟨b, -, hb⟩
    have small := b.toNat_lt
    have high := digit ⟨b.toNat / 16, by omega⟩
    have low := digit ⟨b.toNat % 16, by omega⟩
    simp [percentByte, Ne.symm high, Ne.symm low] at hb
  induction s using escape_induction with
  | nil => exact h
  | escape a b r ha hb ih =>
    simp only [List.mem_cons, not_or] at h
    rw [percentEncode_escape ha hb]
    simp only [List.mem_cons, not_or]
    exact ⟨h.1, h.2.1, h.2.2.1, ih h.2.2.2⟩
  | plain c r plain ih =>
    obtain ⟨other, rest⟩ := not_or.mp (List.mem_cons.not.mp h)
    rw [percentEncode_cons plain, unit, List.mem_append, not_or]
    refine ⟨?_, ih rest⟩
    split
    · simpa using other
    · exact written c

theorem startsHex_append_slash (s t : List Char) : startsHex (s ++ '/' :: t) = startsHex s := by
  have slash : isHexDigit '/' = false := by decide
  match s, t with
  | [], [] => rfl
  | [], b :: t => simp [startsHex, slash]
  | [a], t => simp [startsHex, slash]
  | a :: b :: r, t => rfl

variable (slash : safe '/' = true)
include slash

theorem percentEncode_append_slash (s t : List Char) :
    percentEncode safe (s ++ '/' :: t) = percentEncode safe s ++ '/' :: percentEncode safe t := by
  induction s using escape_induction with
  | nil =>
    rw [List.nil_append, percentEncode_cons (by simp), unit, if_pos slash]
    rfl
  | escape a b r ha hb ih =>
    simp only [List.cons_append, percentEncode_escape ha hb, ih]
  | plain c r plain ih =>
    rw [List.cons_append, percentEncode_cons, percentEncode_cons plain, ih, List.append_assoc]
    rwa [startsHex_append_slash]

theorem percentEncode_intercalate (ws : List (List Char)) :
    percentEncode safe (['/'].intercalate ws) =
      ['/'].intercalate (ws.map (percentEncode safe)) := by
  induction ws with
  | nil => rfl
  | cons w ws ih =>
    cases ws with
    | nil => simp
    | cons v ws =>
      rw [List.map_cons, List.map_cons, List.intercalate_cons_cons, List.intercalate_cons_cons,
        List.append_assoc, List.singleton_append, percentEncode_append_slash slash, ih,
        List.map_cons, List.append_assoc, List.singleton_append]

theorem splitAt_percentEncode (s : List Char) :
    splitAt '/' (percentEncode safe s) = (splitAt '/' s).map (percentEncode safe) := by
  have parts := percentEncode_intercalate slash (splitAt '/' s)
  rw [intercalate_splitAt] at parts
  rw [parts]
  refine fields_intercalate (by decide) (by simpa [splitAt] using fields_ne_nil _ s) ?_
  intro w hw c hc
  obtain ⟨v, hv, rfl⟩ := List.mem_map.mp hw
  have whole : '/' ∉ v := fun h => absurd (not_of_mem_fields hv h) (by decide)
  rw [beq_eq_false_iff_ne]
  rintro rfl
  exact slash_not_mem_percentEncode whole hc

end Separators

end TicketKeeper.Url
