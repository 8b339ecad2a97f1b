import TicketKeeper.Text.Utf8

/-! Text survives being written as bytes and read again, and only bytes that some text is written
as are read as text. The bytes of a character are taken apart by their number, for which a scalar
value has one of four ranges. -/

namespace TicketKeeper.Text

theorem toNat_ofNat {n : Nat} (h : n < 256) : (UInt8.ofNat n).toNat = n := by
  rw [UInt8.toNat_ofNat', Nat.mod_eq_of_lt h]

theorem ofNat_lt {n : Nat} (h : n < 256) (m : UInt8) : UInt8.ofNat n < m ↔ n < m.toNat := by
  rw [UInt8.lt_iff_toNat_lt, toNat_ofNat h]

theorem le_ofNat {n : Nat} (h : n < 256) (m : UInt8) : m ≤ UInt8.ofNat n ↔ m.toNat ≤ n := by
  rw [UInt8.le_iff_toNat_le, toNat_ofNat h]

theorem lt_ofNat {n : Nat} (h : n < 256) (m : UInt8) : m < UInt8.ofNat n ↔ m.toNat < n := by
  rw [UInt8.lt_iff_toNat_lt, toNat_ofNat h]

theorem ofNat_beq {n : Nat} (h : n < 256) (m : UInt8) : (UInt8.ofNat n == m) = (n == m.toNat) := by
  rw [Bool.eq_iff_iff, beq_iff_eq, beq_iff_eq, ← UInt8.toNat_inj, toNat_ofNat h]

theorem bits_ofNat {n : Nat} {mask : UInt8} (h : n < 256) (m : Nat) (hm : 1 <<< m.log2 = m)
    (hmask : mask.toNat = m - 1) : bits (UInt8.ofNat n) mask = n % m := by
  rw [Nat.one_shiftLeft] at hm
  rw [bits, UInt8.toNat_and, hmask, ← hm, Nat.and_two_pow_sub_one_eq_mod, toNat_ofNat h]

theorem isTail_ofNat (n : Nat) : isTail (UInt8.ofNat (n % 64 + 0x80)) = true := by
  have h : n % 64 + 0x80 < 256 := by omega
  simp only [isTail, Bool.and_eq_true, decide_eq_true_eq, le_ofNat h, UInt8.le_iff_toNat_le,
    toNat_ofNat h, UInt8.reduceToNat]
  omega

theorem bits_tail (n : Nat) : bits (UInt8.ofNat (n % 64 + 0x80)) 0x3F = n % 64 := by
  rw [bits_ofNat (by omega) 64 (by decide) (by decide)]
  omega

theorem nextScalar_one {v : Nat} (h : v < 0x80) (rest : Bytes) :
    nextScalar (UInt8.ofNat v :: rest) = .char (Char.ofNat v) 1 := by
  have hv : v < 256 := by omega
  simp only [nextScalar, ofNat_lt hv, UInt8.reduceToNat, if_pos h, toNat_ofNat hv]

theorem nextScalar_two {v : Nat} (h : 0x80 ≤ v) (h' : v < 0x800) (rest : Bytes) :
    nextScalar (UInt8.ofNat (v / 64 % 32 + 0xC0) :: UInt8.ofNat (v % 64 + 0x80) :: rest) =
      .char (Char.ofNat v) 2 := by
  have ha : v / 64 % 32 + 0xC0 < 256 := by omega
  have sum : bits (UInt8.ofNat (v / 64 % 32 + 0xC0)) 0x1F * 64 + v % 64 = v := by
    rw [bits_ofNat ha 32 (by decide) rfl]
    omega
  simp only [nextScalar, ofNat_lt ha, UInt8.reduceToNat, isTail_ofNat, if_true, bits_tail, sum]
  rw [if_neg (by omega), if_neg (by omega), if_pos (by omega)]

theorem nextScalar_three {v : Nat} (h : 0x800 ≤ v) (h' : v < 0x10000)
    (valid : v < 0xD800 ∨ 0xDFFF < v) (rest : Bytes) :
    nextScalar (UInt8.ofNat (v / 4096 % 16 + 0xE0) :: UInt8.ofNat (v / 64 % 64 + 0x80) ::
      UInt8.ofNat (v % 64 + 0x80) :: rest) = .char (Char.ofNat v) 3 := by
  have ha : v / 4096 % 16 + 0xE0 < 256 := by omega
  have hb : v / 64 % 64 + 0x80 < 256 := by omega
  have sum : bits (UInt8.ofNat (v / 4096 % 16 + 0xE0)) 0x0F * 4096 + v / 64 % 64 * 64 +
      v % 64 = v := by
    rw [bits_ofNat ha 16 (by decide) rfl]
    omega
  have hshort : ¬(v / 4096 % 16 + 0xE0 = 0xE0 ∧ v / 64 % 64 + 0x80 < 0xA0) := by omega
  have hsurrogate : ¬(v / 4096 % 16 + 0xE0 = 0xED ∧ 0xA0 ≤ v / 64 % 64 + 0x80) := by omega
  simp only [nextScalar, ofNat_lt ha, ofNat_lt hb, le_ofNat hb, ofNat_beq ha, UInt8.reduceToNat,
    isTail_ofNat, if_true, bits_tail, sum, Bool.not_true,
    Bool.false_or, Bool.and_eq_true, beq_iff_eq, decide_eq_true_eq, if_neg hshort,
    if_neg hsurrogate]
  rw [if_neg (by omega), if_neg (by omega), if_neg (by omega), if_pos (by omega)]

theorem nextScalar_four {v : Nat} (h : 0x10000 ≤ v) (h' : v < 0x110000) (rest : Bytes) :
    nextScalar (UInt8.ofNat (v / 262144 % 8 + 0xF0) :: UInt8.ofNat (v / 4096 % 64 + 0x80) ::
      UInt8.ofNat (v / 64 % 64 + 0x80) :: UInt8.ofNat (v % 64 + 0x80) :: rest) =
      .char (Char.ofNat v) 4 := by
  have ha : v / 262144 % 8 + 0xF0 < 256 := by omega
  have hb : v / 4096 % 64 + 0x80 < 256 := by omega
  have sum : bits (UInt8.ofNat (v / 262144 % 8 + 0xF0)) 0x07 * 262144 + v / 4096 % 64 * 4096 +
      v / 64 % 64 * 64 + v % 64 = v := by
    rw [bits_ofNat ha 8 (by decide) rfl]
    omega
  have hshort : ¬(v / 262144 % 8 + 0xF0 = 0xF0 ∧ v / 4096 % 64 + 0x80 < 0x90) := by omega
  have hlong : ¬(v / 262144 % 8 + 0xF0 = 0xF4 ∧ 0x8F < v / 4096 % 64 + 0x80) := by omega
  simp only [nextScalar, ofNat_lt ha, ofNat_lt hb, lt_ofNat hb, ofNat_beq ha, UInt8.reduceToNat,
    isTail_ofNat, if_true, bits_tail, sum, Bool.not_true,
    Bool.false_or, Bool.and_eq_true, Bool.or_eq_true, beq_iff_eq, decide_eq_true_eq, hshort, hlong,
    or_self, if_false, Bool.false_eq_true]
  rw [if_neg (by omega), if_neg (by omega), if_neg (by omega), if_neg (by omega),
    if_pos (by omega)]

theorem nextScalar_encode (c : Char) (rest : Bytes) :
    nextScalar (String.utf8EncodeChar c ++ rest) = .char c (String.utf8EncodeChar c).length := by
  have valid : c.val.toNat < 0xD800 ∨ 0xDFFF < c.val.toNat ∧ c.val.toNat < 0x110000 := c.valid
  have same : Char.ofNat c.val.toNat = c := Char.ofNat_toNat c
  unfold String.utf8EncodeChar
  dsimp only
  split
  · exact (nextScalar_one (by omega) rest).trans (by rw [same]; rfl)
  split
  · exact (nextScalar_two (by omega) (by omega) rest).trans (by rw [same]; rfl)
  split
  · exact (nextScalar_three (by omega) (by omega) (by omega) rest).trans (by rw [same]; rfl)
  · exact (nextScalar_four (by omega) (by omega) rest).trans (by rw [same]; rfl)

theorem length_encode_pos (c : Char) : 0 < (String.utf8EncodeChar c).length := by
  rw [String.length_utf8EncodeChar]
  exact c.utf8Size_pos

theorem readSteps_encode (onFault : Scalar → Option (List Char × Nat)) (s : List Char) (n : Nat)
    (h : (encodeUtf8 s).length ≤ n) : readSteps nextScalar onFault n (encodeUtf8 s) = some s := by
  induction s generalizing n with
  | nil => cases n <;> rfl
  | cons c r ih =>
    have split : encodeUtf8 (c :: r) = String.utf8EncodeChar c ++ encodeUtf8 r := rfl
    have hpos := length_encode_pos c
    rw [split, List.length_append] at h
    obtain ⟨n, rfl⟩ : ∃ m, n = m + 1 := ⟨n - 1, by omega⟩
    obtain ⟨b, bs, hb⟩ := List.exists_cons_of_length_pos hpos
    have next := nextScalar_encode c (encodeUtf8 r)
    have drop : (String.utf8EncodeChar c ++ encodeUtf8 r).drop
        (max (String.utf8EncodeChar c).length 1) = encodeUtf8 r := by
      rw [Nat.max_eq_left hpos, List.drop_left]
    rw [split, hb, List.cons_append] at *
    simp only [readSteps, next, drop, ih n (by omega), Option.map_some]

theorem decodeUtf8?_encodeUtf8 (s : List Char) : decodeUtf8? (encodeUtf8 s) = some s :=
  readSteps_encode _ s _ (Nat.le_refl _)

/-! ### What is read is what was written -/

theorem bits_eq (b mask : UInt8) (m : Nat) (hm : 1 <<< m.log2 = m)
    (hmask : mask.toNat = m - 1) : bits b mask = b.toNat % m := by
  have h := bits_ofNat b.toNat_lt m hm hmask
  rwa [UInt8.ofNat_toNat] at h

theorem toNat_of_isTail {b : UInt8} (h : isTail b = true) :
    b.toNat = bits b 0x3F + 0x80 ∧ bits b 0x3F < 64 := by
  simp only [isTail, Bool.and_eq_true, decide_eq_true_eq, UInt8.le_iff_toNat_le,
    UInt8.reduceToNat] at h
  rw [bits_eq b 0x3F 64 (by decide) rfl]
  omega

theorem eq_ofNat {b : UInt8} {n : Nat} (h : b.toNat = n) : b = UInt8.ofNat n := by
  rw [← h, UInt8.ofNat_toNat]

theorem val_ofNat {v : Nat} (h : v.isValidChar) : (Char.ofNat v).val.toNat = v := by
  rw [Char.ofNat, dif_pos h]
  rfl

def BeginsWith (c : Char) (w : Nat) (bs : Bytes) : Prop :=
  ∃ rest, bs = String.utf8EncodeChar c ++ rest ∧ w = (String.utf8EncodeChar c).length

theorem begins_of_encode {c : Char} {front : Bytes} (bytes : String.utf8EncodeChar c = front)
    (rest : Bytes) : BeginsWith c front.length (front ++ rest) := by
  subst bytes
  exact ⟨rest, rfl, rfl⟩

theorem begins_one {a : UInt8} (h : a.toNat < 0x80) (rest : Bytes) :
    BeginsWith (Char.ofNat a.toNat) 1 (a :: rest) := by
  have bytes : String.utf8EncodeChar (Char.ofNat a.toNat) = [a] := by
    rw [String.utf8EncodeChar, val_ofNat (.inl (by omega)), if_pos (by omega), UInt8.ofNat_toNat]
  exact begins_of_encode bytes rest

theorem begins_two {a b : UInt8} (h : 0xC2 ≤ a.toNat) (h' : a.toNat < 0xE0) (hb : isTail b = true)
    (rest : Bytes) :
    BeginsWith (Char.ofNat (bits a 0x1F * 64 + bits b 0x3F)) 2 (a :: b :: rest) := by
  obtain ⟨tb, lb⟩ := toNat_of_isTail hb
  have ha := bits_eq a 0x1F 32 (by decide) rfl
  generalize hv : bits a 0x1F * 64 + bits b 0x3F = v
  have bytes : String.utf8EncodeChar (Char.ofNat v) = [a, b] := by
    rw [String.utf8EncodeChar, val_ofNat (.inl (by omega)), if_neg (by omega), if_pos (by omega)]
    congr
    · exact (eq_ofNat (by omega)).symm
    · exact (eq_ofNat (by omega)).symm
  exact begins_of_encode bytes rest

theorem begins_three {a b c : UInt8} (h : 0xE0 ≤ a.toNat) (h' : a.toNat < 0xF0)
    (hb : isTail b = true) (hc : isTail c = true)
    (long : a.toNat = 0xE0 → 0xA0 ≤ b.toNat) (valid : a.toNat = 0xED → b.toNat < 0xA0)
    (rest : Bytes) :
    BeginsWith (Char.ofNat (bits a 0x0F * 4096 + bits b 0x3F * 64 + bits c 0x3F)) 3
      (a :: b :: c :: rest) := by
  obtain ⟨tb, lb⟩ := toNat_of_isTail hb
  obtain ⟨tc, lc⟩ := toNat_of_isTail hc
  have ha := bits_eq a 0x0F 16 (by decide) rfl
  generalize hv : bits a 0x0F * 4096 + bits b 0x3F * 64 + bits c 0x3F = v
  have scalar : v.isValidChar := by
    rw [Nat.isValidChar]
    omega
  have bytes : String.utf8EncodeChar (Char.ofNat v) = [a, b, c] := by
    rw [String.utf8EncodeChar, val_ofNat scalar, if_neg (by omega), if_neg (by omega),
      if_pos (by omega)]
    congr
    · exact (eq_ofNat (by omega)).symm
    · exact (eq_ofNat (by omega)).symm
    · exact (eq_ofNat (by omega)).symm
  exact begins_of_encode bytes rest

theorem begins_four {a b c d : UInt8} (h : 0xF0 ≤ a.toNat) (h' : a.toNat < 0xF5)
    (hb : isTail b = true) (hc : isTail c = true) (hd : isTail d = true)
    (long : a.toNat = 0xF0 → 0x90 ≤ b.toNat) (valid : a.toNat = 0xF4 → b.toNat ≤ 0x8F)
    (rest : Bytes) :
    BeginsWith (Char.ofNat (bits a 0x07 * 262144 + bits b 0x3F * 4096 + bits c 0x3F * 64 +
      bits d 0x3F)) 4 (a :: b :: c :: d :: rest) := by
  obtain ⟨tb, lb⟩ := toNat_of_isTail hb
  obtain ⟨tc, lc⟩ := toNat_of_isTail hc
  obtain ⟨td, ld⟩ := toNat_of_isTail hd
  have ha := bits_eq a 0x07 8 (by decide) rfl
  generalize hv : bits a 0x07 * 262144 + bits b 0x3F * 4096 + bits c 0x3F * 64 + bits d 0x3F = v
  have scalar : v.isValidChar := by
    rw [Nat.isValidChar]
    omega
  have bytes : String.utf8EncodeChar (Char.ofNat v) = [a, b, c, d] := by
    rw [String.utf8EncodeChar, val_ofNat scalar, if_neg (by omega), if_neg (by omega),
      if_neg (by omega)]
    congr
    · exact (eq_ofNat (by omega)).symm
    · exact (eq_ofNat (by omega)).symm
    · exact (eq_ofNat (by omega)).symm
    · exact (eq_ofNat (by omega)).symm
  exact begins_of_encode bytes rest

theorem beginsWith_of_nextScalar {bs : Bytes} {c : Char} {w : Nat} (h : nextScalar bs = .char c w) :
    BeginsWith c w bs := by
  unfold nextScalar at h
  repeat' split at h
  all_goals cases h
  -- One goal is left for each number of bytes.
  all_goals simp only [UInt8.lt_iff_toNat_lt, UInt8.le_iff_toNat_le, UInt8.reduceToNat,
    ← UInt8.toNat_inj, Bool.or_eq_true, Bool.and_eq_true, Bool.not_eq_true', beq_iff_eq,
    decide_eq_true_eq, not_or, not_and, Bool.not_eq_false, Nat.not_lt, Nat.not_le] at *
  · exact begins_one ‹_› _
  · exact begins_two ‹_› ‹_› ‹_› _
  · rename_i b _ c _ tail _ _ low high long valid
    exact begins_three low high long.1 tail long.2 valid _
  · rename_i b _ c _ d _ tail _ _ _ low high long tail'
    exact begins_four low high long.1.1 tail' tail long.1.2 long.2 _

theorem eq_encodeUtf8_of_readSteps {n : Nat} {bs : Bytes} {s : List Char}
    (h : readSteps nextScalar (fun _ => none) n bs = some s) : bs = encodeUtf8 s := by
  induction n generalizing bs s with
  | zero =>
    cases bs with
    | nil =>
      cases h
      rfl
    | cons b bs => cases h
  | succ n ih =>
    cases bs with
    | nil =>
      cases h
      rfl
    | cons b bs =>
      simp only [readSteps] at h
      split at h
      · rename_i c w found
        obtain ⟨s, read, rfl⟩ := Option.map_eq_some_iff.mp h
        obtain ⟨rest, bytes, rfl⟩ := beginsWith_of_nextScalar found
        rw [bytes, Nat.max_eq_left (length_encode_pos c), List.drop_left] at read
        rw [bytes, ih read]
        rfl
      · cases h

theorem decodeUtf8?_eq_some_iff {bs : Bytes} {s : List Char} :
    decodeUtf8? bs = some s ↔ bs = encodeUtf8 s := by
  constructor
  · exact eq_encodeUtf8_of_readSteps
  · rintro rfl
    exact decodeUtf8?_encodeUtf8 s

/-! ### Lossy reading -/

section Steps

variable {next : Bytes → Scalar} {onFault : Scalar → Option (List Char × Nat)} {n m : Nat}
  {b : UInt8} {bs : Bytes}

theorem length_drop_le (h : (b :: bs).length ≤ n + 1) (w : Nat) :
    ((b :: bs).drop (max w 1)).length ≤ n := by
  rw [List.length_drop]
  omega

theorem readSteps_of_le (h : bs.length ≤ n) (h' : bs.length ≤ m) :
    readSteps next onFault n bs = readSteps next onFault m bs := by
  induction n generalizing m bs with
  | zero =>
    obtain rfl := List.length_eq_zero_iff.mp (Nat.le_zero.mp h)
    cases m <;> rfl
  | succ n ih =>
    cases bs with
    | nil => cases m <;> rfl
    | cons b bs =>
      obtain ⟨m, rfl⟩ : ∃ k, m = k + 1 := ⟨m - 1, by rw [List.length_cons] at h'; omega⟩
      have rest (w : Nat) := ih (length_drop_le h w) (length_drop_le h' w)
      simp only [readSteps, rest]

/-- A reader that goes on behind every fault reads any bytes. -/
theorem exists_readSteps (lenient : ∀ s, ∃ shown, onFault s = some shown) (h : bs.length ≤ n) :
    ∃ s, readSteps next onFault n bs = some s := by
  induction n generalizing bs with
  | zero =>
    obtain rfl := List.length_eq_zero_iff.mp (Nat.le_zero.mp h)
    exact ⟨[], rfl⟩
  | succ n ih =>
    cases bs with
    | nil => exact ⟨[], rfl⟩
    | cons b bs =>
      have rest (w : Nat) := ih (length_drop_le h w)
      simp only [readSteps]
      split
      · rename_i c w _
        obtain ⟨s, read⟩ := rest w
        exact ⟨c :: s, by rw [read, Option.map_some]⟩
      · rename_i found
        obtain ⟨⟨cs, w⟩, shown⟩ := lenient (next (b :: bs))
        obtain ⟨s, read⟩ := rest w
        exact ⟨cs ++ s, by simp only [shown, read, Option.map_some]⟩

end Steps

def Scalar.shown : Scalar → Char × Nat
  | char c w => (c, w)
  | fault w => (replacementChar, w)
  | surrogate _ => (replacementChar, 1)

theorem decodeLossy_cons (b : UInt8) (bs : Bytes) :
    decodeLossy (b :: bs) = (nextScalar (b :: bs)).shown.1 ::
      decodeLossy (bs.drop ((nextScalar (b :: bs)).shown.2 - 1)) := by
  obtain ⟨onFault, lossy, char, fault, surrogate⟩ :
      ∃ onFault : Scalar → Option (List Char × Nat),
      (∀ bs, decodeLossy bs = (readSteps nextScalar onFault bs.length bs).getD []) ∧
      (∀ c w, onFault (.char c w) = some ([replacementChar], 1)) ∧
      (∀ w, onFault (.fault w) = some ([replacementChar], w)) ∧
      ∀ w, onFault (.surrogate w) = some ([replacementChar], 1) :=
    ⟨_, fun _ => rfl, fun _ _ => rfl, fun _ => rfl, fun _ => rfl⟩
  have read (n : Nat) (bs : Bytes) (h : bs.length ≤ n) :
      readSteps nextScalar onFault n bs = some (decodeLossy bs) := by
    have lenient (s : Scalar) : ∃ shown, onFault s = some shown := by
      cases s with
      | char c w => exact ⟨_, char c w⟩
      | fault w => exact ⟨_, fault w⟩
      | surrogate w => exact ⟨_, surrogate w⟩
    obtain ⟨s, read⟩ := exists_readSteps lenient h
    rw [lossy, readSteps_of_le (Nat.le_refl _) h, read, Option.getD_some]
  have dropped (w : Nat) : (b :: bs).drop (max w 1) = bs.drop (w - 1) := by
    obtain ⟨k, hk⟩ : ∃ k, max w 1 = k + 1 := ⟨max w 1 - 1, by omega⟩
    rw [hk, List.drop_succ_cons, show w - 1 = k by omega]
  have rest (w : Nat) := read bs.length (bs.drop (w - 1)) (by rw [List.length_drop]; omega)
  have all := read (bs.length + 1) (b :: bs) (Nat.le_refl _)
  simp only [readSteps, dropped] at all
  cases found : nextScalar (b :: bs) with
  | char c w =>
    simp only [found, rest, Option.map_some, Option.some.injEq] at all
    exact all.symm
  | fault w =>
    simp only [found, fault, rest, Option.map_some, Option.some.injEq] at all
    exact all.symm
  | surrogate w =>
    simp only [found, surrogate, rest, Option.map_some, Option.some.injEq] at all
    exact all.symm

theorem decodeLossy_encode_append (c : Char) (rest : Bytes) :
    decodeLossy (String.utf8EncodeChar c ++ rest) = c :: decodeLossy rest := by
  obtain ⟨b, bs, hb⟩ := List.exists_cons_of_length_pos (length_encode_pos c)
  have next := nextScalar_encode c rest
  rw [hb, List.cons_append] at next ⊢
  rw [decodeLossy_cons, next]
  simp [Scalar.shown]

theorem decodeLossy_encodeUtf8 (s : List Char) : decodeLossy (encodeUtf8 s) = s := by
  induction s with
  | nil => rfl
  | cons c r ih => exact (decodeLossy_encode_append c (encodeUtf8 r)).trans (by rw [ih])

/-- The bytes of a scalar behind its first one would each be a fault alone. -/
theorem isTail_of_shown {b t : UInt8} {bs : Bytes}
    (h : t ∈ bs.take ((nextScalar (b :: bs)).shown.2 - 1)) : isTail t = true := by
  unfold nextScalar at h
  dsimp only at h
  repeat' split at h
  all_goals simp only [Scalar.shown, Nat.reduceSub, List.take_zero, List.take_nil,
    List.take_succ_cons, List.mem_cons, List.not_mem_nil, or_false] at h
  -- A scalar goes on only as long as the bytes that were looked at are tails.
  all_goals grind

theorem decodeLossy_isTail {t : UInt8} (h : isTail t = true) (bs : Bytes) :
    decodeLossy (t :: bs) = replacementChar :: decodeLossy bs := by
  have fault : nextScalar (t :: bs) = .fault 1 := by
    simp only [isTail, Bool.and_eq_true, decide_eq_true_eq, UInt8.le_iff_toNat_le,
      UInt8.reduceToNat] at h
    simp only [nextScalar, UInt8.lt_iff_toNat_lt, UInt8.reduceToNat]
    rw [if_neg (by omega), if_pos (by omega)]
  rw [decodeLossy_cons, fault]
  rfl

theorem length_decodeLossy_cons_le (b : UInt8) (bs : Bytes) :
    (decodeLossy (b :: bs)).length ≤ (decodeLossy bs).length + 1 := by
  have tails (front rest : Bytes) (h : ∀ t ∈ front, isTail t = true) :
      (decodeLossy rest).length ≤ (decodeLossy (front ++ rest)).length := by
    induction front with
    | nil => exact Nat.le_refl _
    | cons t front ih =>
      obtain ⟨first, others⟩ := List.forall_mem_cons.mp h
      rw [List.cons_append, decodeLossy_isTail first, List.length_cons]
      exact Nat.le_succ_of_le (ih others)
  have shorter := tails (bs.take ((nextScalar (b :: bs)).shown.2 - 1))
    (bs.drop ((nextScalar (b :: bs)).shown.2 - 1)) fun t ht => isTail_of_shown ht
  rw [List.take_append_drop] at shorter
  rw [decodeLossy_cons, List.length_cons]
  exact Nat.succ_le_succ shorter

end TicketKeeper.Text
