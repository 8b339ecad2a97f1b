import TicketKeeper.Packed.Bits

/-! Codes whose words are ordered by length, and by symbol among those of one length. The lengths of
the words determine such a code. -/
namespace TicketKeeper.Packed

structure Code where
  counts : List Nat
  symbols : Array Nat
deriving Repr

namespace Code

def maxLength : Nat := 15

def countsOf (lengths : List Nat) : List Nat :=
  (List.range maxLength).map fun i => lengths.count (i + 1)

def freeWords (free : Nat) : List Nat → Option Nat
  | [] => some free
  | count :: r => if 2 * free < count then none else freeWords (2 * free - count) r

private def dropZeros (counts : List Nat) : List Nat :=
  (counts.reverse.dropWhile (· == 0)).reverse

/-- The code of words with these lengths, of which 0 stands for a symbol without a word. All words
must be taken; a code with a single word of length 1 may be allowed besides, and so may a code
without any. -/
def ofLengths? (singleAllowed : Bool) (lengths : List Nat) : Option Code := do
  let counts := countsOf lengths
  let free ← freeWords 1 counts
  let used := dropZeros counts
  if free != 0 && !(used.isEmpty || (singleAllowed && used.length == 1)) then none
  let ofLength (i : Nat) : List Nat :=
    (lengths.zipIdx.filter (·.1 == i + 1)).map (·.2)
  return ⟨if used.isEmpty then [0] else used, ((List.range maxLength).flatMap ofLength).toArray⟩

def readFrom (symbols : Array Nat) (word first place : Nat) :
    List Nat → Bits → Except Stop (Nat × Bits)
  | [], _ => .error .corrupt
  | _, [] => .error .cut
  | count :: counts, b :: r =>
    let word := 2 * word + b.toNat
    let first := 2 * first
    if word < first + count then
      match symbols[place + (word - first)]? with
      | some symbol => .ok (symbol, r)
      | none => .error .corrupt
    else readFrom symbols word (first + count) (place + count) counts r

def read (code : Code) (bits : Bits) : Except Stop (Nat × Bits) :=
  readFrom code.symbols 0 0 0 code.counts bits

end Code

end TicketKeeper.Packed
