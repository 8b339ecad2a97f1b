import TicketKeeper.Text.Utf8
import TicketKeeper.Text.Table.Jis
import TicketKeeper.Text.Table.Ks
import TicketKeeper.Text.Table.Gb
import TicketKeeper.Text.Table.Big

/-! Character sets of East Asia in which a byte of the upper half starts a character of two bytes,
and of some more in a few sets. A pair without a character is a fault of its first byte. -/
namespace TicketKeeper.Text

def rowChar? (rows : List (Nat × String)) (row column : Nat) : Option Char := do
  let c ← (← rows.lookup row).toList[column]?
  if c == replacementChar then none else some c

inductive DoubleByte
  | shiftJis
  | shiftJisVendor
  | eucJp
  | eucKr
  | eucKrVendor
  | letterwise
  | gb2312
  | gbk
  | gb18030
  | big5
  | bigVendor
deriving DecidableEq, Repr

namespace DoubleByte

private def pairWith (rest : Bytes) (pair? : Nat → Option Char) : Scalar :=
  match rest with
  | b :: _ => match pair? b.toNat with
    | some c => .char c 2
    | none => .fault 1
  | [] => .fault 1

private def ascii (a : Nat) : Scalar := .char (Char.ofNat a) 1

def jis0208? (row column : Nat) : Option Char := rowChar? Table.jis0208 row (column - 1)
def jisVendor? (row column : Nat) : Option Char := rowChar? Table.jisVendor row (column - 1)
def jis0212? (row column : Nat) : Option Char := rowChar? Table.jis0212 row (column - 1)
def ks1001? (row column : Nat) : Option Char := rowChar? Table.ks1001 row (column - 1)

def trailPlace? (b : Nat) : Option Nat :=
  if 0x40 ≤ b && b ≤ 0x7E then some (b - 0x40)
  else if 0x80 ≤ b && b ≤ 0xFE then some (b - 0x41)
  else none

def upperPair? (table? : Nat → Nat → Option Char) (a b : Nat) : Option Char :=
  if 0xA1 ≤ a && a ≤ 0xFE && 0xA1 ≤ b && b ≤ 0xFE then table? (a - 0xA0) (b - 0xA0) else none

def narrow? (a : Nat) : Option Char :=
  if 0xA1 ≤ a && a ≤ 0xDF then some (Char.ofNat (0xFF61 + (a - 0xA1))) else none

/-- Each first byte covers two rows of 94 columns. -/
def shiftPlace? (a b : Nat) : Option (Nat × Nat) := do
  let t ← trailPlace? b
  let lead ← if 0x81 ≤ a && a ≤ 0x9F then some (a - 0x81)
    else if 0xE0 ≤ a && a ≤ 0xFC then some (a - 0xC1)
    else none
  if t < 94 then some (2 * lead + 1, t + 1)
  else if t < 188 then some (2 * lead + 2, t - 93)
  else none

def shiftJisPair? (a b : Nat) : Option Char := do
  let (row, column) ← shiftPlace? a b
  jis0208? row column

/-- The vendor's characters come first; ten first bytes are left to users. -/
def shiftVendorPair? (a b : Nat) : Option Char := do
  let (row, column) ← shiftPlace? a b
  if 0xF0 ≤ a && a ≤ 0xF9 then
    return Char.ofNat (0xE000 + 188 * (a - 0xF0) + (row - 1) % 2 * 94 + (column - 1))
  else (jisVendor? row column).or (jis0208? row column)

private def nextShiftJis : Bytes → Scalar
  | [] => .fault 0
  | a :: r =>
    let a := a.toNat
    if a < 0x80 then ascii a
    else match narrow? a with
      | some c => .char c 1
      | none => pairWith r (shiftJisPair? a)

private def nextShiftVendor : Bytes → Scalar
  | [] => .fault 0
  | a :: r =>
    let a := a.toNat
    if a ≤ 0x80 then ascii a
    else if a == 0xA0 then .char '\uf8f0' 1
    else if 0xFD ≤ a then .char (Char.ofNat (0xF8F1 + (a - 0xFD))) 1
    else match narrow? a with
      | some c => .char c 1
      | none => pairWith r (shiftVendorPair? a)

private def nextEucJp : Bytes → Scalar
  | [] => .fault 0
  | a :: r =>
    let a := a.toNat
    if a < 0x80 then ascii a
    else if a == 0x8E then pairWith r narrow?
    else if a == 0x8F then
      match r with
      | b :: c :: _ => match upperPair? jis0212? b.toNat c.toNat with
        | some c => .char c 3
        | none => .fault 1
      | r => .fault (1 + r.length)
    else pairWith r (upperPair? jis0208? a)

private def firstLetters : List Nat :=
  [0, 1, 3, 6, 7, 8, 16, 17, 18, 20, 21, 22, 23, 24, 25, 26, 27, 28, 29]

private def lastLetters : List Nat :=
  [0, 1, 2, 3, 4, 5, 6, 8, 9, 10, 11, 12, 13, 14, 15, 16, 17, 19, 20, 21, 22, 23, 25, 26, 27,
    28, 29]

def spelledSyllable? (first vowel last : Nat) : Option Char := do
  let f ← firstLetters.idxOf? (first - 0xA1)
  let v ← if 0xBF ≤ vowel && vowel ≤ 0xD3 then some (vowel - 0xBF) else none
  let l ← if last == 0xD4 then some 0 else (lastLetters.idxOf? (last - 0xA1)).map (· + 1)
  if 0xA1 ≤ first && (last == 0xD4 || 0xA1 ≤ last) then
    return Char.ofNat (0xAC00 + f * 588 + v * 28 + l)
  else none

private def nextEucKr : Bytes → Scalar
  | [] => .fault 0
  | 0xA4 :: 0xD4 :: r =>
    match r with
    | x :: first :: y :: vowel :: z :: last :: _ =>
      if x == 0xA4 && y == 0xA4 && z == 0xA4 then
        match spelledSyllable? first.toNat vowel.toNat last.toNat with
        | some c => .char c 8
        | none => .fault 1
      else .fault 1
    | r => .fault (2 + r.length)
  | a :: r =>
    let a := a.toNat
    if a < 0x80 then ascii a else pairWith r (upperPair? ks1001? a)

private def without : List Char → List Char → List Char
  | [], _ => []
  | cs, [] => cs
  | c :: cs, d :: ds =>
    if c < d then c :: without cs (d :: ds)
    else if c == d then without cs ds
    else without (c :: cs) ds
  termination_by cs ds => cs.length + ds.length

def otherSyllables : Array Char :=
  let all := (List.range 11172).map fun n => Char.ofNat (0xAC00 + n)
  let standard := (Table.ks1001.filter fun r => 16 ≤ r.1 && r.1 ≤ 40).flatMap (·.2.toList)
  (without all standard).toArray

private def letterPlace? (b : Nat) : Option Nat :=
  if 0x41 ≤ b && b ≤ 0x5A then some (b - 0x41)
  else if 0x61 ≤ b && b ≤ 0x7A then some (b - 0x61 + 26)
  else if 0x81 ≤ b && b ≤ 0xFE then some (b - 0x81 + 52)
  else none

def otherSyllable? (a b : Nat) : Option Char := do
  let t ← letterPlace? b
  if 0x81 ≤ a && a ≤ 0xA0 then otherSyllables[(a - 0x81) * 178 + t]?
  else if 0xA1 ≤ a && a ≤ 0xC6 && t < 84 then otherSyllables[32 * 178 + (a - 0xA1) * 84 + t]?
  else none

private def nextEucKrVendor : Bytes → Scalar
  | [] => .fault 0
  | a :: r =>
    let a := a.toNat
    if a < 0x80 then ascii a
    else pairWith r fun b => (upperPair? ks1001? a b).or (otherSyllable? a b)

private inductive Letter
  | filler
  | letter (place : Nat)

private def first? (n : Nat) : Option Letter :=
  if n == 1 then some .filler
  else if 2 ≤ n && n ≤ 20 then some (.letter (n - 2))
  else none

private def vowel? (n : Nat) : Option Letter :=
  if n == 2 then some .filler
  else if n % 8 < 2 || n < 3 || 29 < n then none
  else some (.letter (n - 3 - 2 * (n / 8)))

private def last? (n : Nat) : Option Letter :=
  if n == 1 then some .filler
  else if n == 0 || n == 18 || 29 < n then none
  else some (.letter (if n < 18 then n - 1 else n - 2))

private def syllable : Letter → Letter → Letter → Option Char
  | .letter f, .letter v, .letter l => some (Char.ofNat (0xAC00 + f * 588 + v * 28 + l))
  | .letter f, .letter v, .filler => some (Char.ofNat (0xAC00 + f * 588 + v * 28))
  | .filler, .filler, .filler => some '\u3000'
  | .letter f, .filler, .filler => firstLetters[f]?.map fun n => Char.ofNat (0x3131 + n)
  | .filler, .letter v, .filler => some (Char.ofNat (0x314F + v))
  | .filler, .filler, .letter l => lastLetters[l - 1]?.map fun n => Char.ofNat (0x3131 + n)
  | _, _, _ => none

private def letterwiseSign? (a b : Nat) : Option Char :=
  if a == 0xDF || a < 0xD9 || 0xF9 < a || b < 0x31 || (0x80 ≤ b && b < 0x91) || b % 128 == 127 ||
      (a == 0xDA && 0xA1 ≤ b && b ≤ 0xD3) then none
  else
    let row := if a < 0xE0 then 2 * (a - 0xD9) else 2 * a - 0x197
    let t := if b < 0x91 then b - 0x31 else b - 0x43
    ks1001? (row + t / 94 + 1) (t % 94 + 1)

def letterwisePair? (a b : Nat) : Option Char :=
  if a < 0xD8 then do
    let n := a * 256 + b
    syllable (← first? (n / 1024 % 32)) (← vowel? (n / 32 % 32)) (← last? (n % 32))
  else letterwiseSign? a b

def gbkPair? (a b : Nat) : Option Char := do rowChar? Table.gbk a (← trailPlace? b)

private def isLaterGb (a b : Nat) : Bool :=
  (a == 0xA2 && b ≤ 0xAA) || (a == 0xA6 && 0xE0 ≤ b && b ≤ 0xF5) ||
    (a == 0xA8 && 0xBB ≤ b && b ≤ 0xC0)

def gb2312Pair? (a b : Nat) : Option Char :=
  if a < 0xA1 || b < 0xA1 || isLaterGb a b then none
  else if a == 0xA1 && b == 0xA4 then some '\u30FB'
  else if a == 0xA1 && b == 0xAA then some '\u2015'
  else if 0xAA ≤ a && a ≤ 0xAF || 0xF8 ≤ a then none
  else gbkPair? a b

def gbLaterPair? (a b : Nat) : Option Char := do
  let t ← trailPlace? b
  if 0xAA ≤ a && a ≤ 0xAF && 0xA1 ≤ b then
    return Char.ofNat (0xE000 + (a - 0xAA) * 94 + (b - 0xA1))
  else if 0xF8 ≤ a && a ≤ 0xFE && 0xA1 ≤ b then
    return Char.ofNat (0xE234 + (a - 0xF8) * 94 + (b - 0xA1))
  else if 0xA1 ≤ a && a ≤ 0xA7 && b ≤ 0xA0 then
    return Char.ofNat (0xE4C6 + (a - 0xA1) * 96 + t)
  else rowChar? Table.gbSupplement a t

def gbRunChar? (n : Nat) : Option Char := do
  let (first, value) ← (Table.gbRuns.takeWhile (·.1 ≤ n)).getLast?
  if n < 39420 then some (Char.ofNat (value + (n - first))) else none

def gbQuad? (a b c d : Nat) : Option Char :=
  if 0x81 ≤ a && a ≤ 0xFE && 0x81 ≤ c && c ≤ 0xFE && 0x30 ≤ d && d ≤ 0x39 then
    let low := (b - 0x30) * 1260 + (c - 0x81) * 10 + (d - 0x30)
    if a < 0x85 then gbRunChar? ((a - 0x81) * 12600 + low)
    else
      let n := 0x10000 + (a - 0x90) * 12600 + low
      if 0x90 ≤ a && n ≤ 0x10FFFF then some (Char.ofNat n) else none
  else none

private def nextGb18030 : Bytes → Scalar
  | [] => .fault 0
  | a :: r =>
    let a := a.toNat
    if a < 0x80 then ascii a
    else match r with
      | [] => .fault 1
      | b :: q =>
        let b := b.toNat
        if 0x30 ≤ b && b ≤ 0x39 then
          match q with
          | c :: d :: _ => match gbQuad? a b c.toNat d.toNat with
            | some c => .char c 4
            | none => .fault 1
          | q => .fault (2 + q.length)
        else pairWith r fun b => (gbkPair? a b).or (gbLaterPair? a b)

private def bigPlace? (b : Nat) : Option Nat :=
  if 0x40 ≤ b && b ≤ 0x7E then some (b - 0x40)
  else if 0xA1 ≤ b && b ≤ 0xFE then some (b - 0x62)
  else none

def big5Pair? (a b : Nat) : Option Char := do rowChar? Table.big5 a (← bigPlace? b)

def bigVendorPair? (a b : Nat) : Option Char := do
  let t ← bigPlace? b
  (rowChar? Table.bigVendor a t).or (rowChar? Table.big5 a t)

private def nextPair (pair? : Nat → Nat → Option Char) : Bytes → Scalar
  | [] => .fault 0
  | a :: r =>
    let a := a.toNat
    if a < 0x80 then ascii a else pairWith r (pair? a)

def next : DoubleByte → Bytes → Scalar
  | shiftJis => nextShiftJis
  | shiftJisVendor => nextShiftVendor
  | eucJp => nextEucJp
  | eucKr => nextEucKr
  | eucKrVendor => nextEucKrVendor
  | letterwise => nextPair letterwisePair?
  | gb2312 => nextPair gb2312Pair?
  | gbk => nextPair gbkPair?
  | gb18030 => nextGb18030
  | big5 => nextPair big5Pair?
  | bigVendor => nextPair bigVendorPair?

end DoubleByte

end TicketKeeper.Text
