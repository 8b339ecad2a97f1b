import TicketKeeper.Text.DoubleByte
import TicketKeeper.Text.Table.SingleByte

/-! Encodings of seven bits that shift between character sets as they go: by escape sequences, by
shift characters, or by tildes. Each step takes at least one byte. -/
namespace TicketKeeper.Text

/-- One step of a shifting reader: what it shows, how many bytes it takes and its next state. A
fault shows nothing itself. -/
inductive ShiftStep (σ : Type)
  | shows (cs : List Char) (width : Nat) (next : σ)
  | fault (width : Nat)
  | stuck

/-- Reads with a bound on the steps; a fault keeps the state. -/
private def shiftSteps {σ : Type} (step : σ → Bytes → ShiftStep σ) (onFault : Option Char) :
    Nat → σ → Bytes → Option (List Char)
  | _, _, [] => some []
  | 0, _, _ => none
  | n + 1, s, bs =>
    match step s bs with
    | .shows cs w s => (shiftSteps step onFault n s (bs.drop (max w 1))).map (cs ++ ·)
    | .fault w => do
      let c ← onFault
      return c :: (← shiftSteps step onFault n s (bs.drop (max w 1)))
    | .stuck => none

/-- Reads bytes from a state on. Without a character for faults a fault ends the reading. -/
def readShifting {σ : Type} (step : σ → Bytes → ShiftStep σ) (onFault : Option Char) (start : σ)
    (bs : Bytes) : Option (List Char) := shiftSteps step onFault bs.length start bs

namespace Iso2022

inductive Set
  | ascii
  | jisRoman
  | jisNarrow
  | jis
  | jisSupplement
  | ks
  | gb
  | latin
  | greek
deriving DecidableEq, Repr

inductive Language
  | japanese
  | japaneseFull
  | japaneseNarrow
  | multilingual
  | korean
deriving DecidableEq, Repr

namespace Language

def isJapanese (l : Language) : Bool := l != korean

def hasSupplement (l : Language) : Bool :=
  l == japaneseFull || l == japaneseNarrow || l == multilingual

end Language

structure State where
  /-- The set in use, the one that a shift brings into use, and the one that is used for single
  characters behind a sequence of their own. -/
  main : Set := .ascii
  shifted : Set := .ascii
  single : Set := .ascii
  isShifted : Bool := false
  passing : Bool := false

def isEnd (b : UInt8) : Bool := 0x40 ≤ b && b ≤ 0x5A

/-- The length of an escape sequence; none when it ends nowhere within sixteen bytes. In Japanese
text an ampersand and an at sign may stand in front of another sequence. -/
private def sequenceLength (l : Language) (total : Nat) : Nat → Nat → Bytes → Option (Option Nat)
  | 0, _, _ => some none
  | n + 1, i, bs =>
    if 16 ≤ i then some none
    else match bs with
      | [] => if total ≤ i then none else some none
      | b :: r =>
        if isEnd b then some (some (i + 1))
        else match l.isJapanese, b, r with
          | true, 0x26, 0x40 :: r => sequenceLength l total n (i + 3) (r.drop 1)
          | _, _, _ => sequenceLength l total n (i + 1) r

def setOf? (l : Language) (wide : Bool) (b : UInt8) : Option Set :=
  let only (allowed : Bool) (set : Set) : Option Set := if allowed then some set else none
  match wide, b with
  | false, 0x42 => some .ascii
  | false, 0x4A => only l.isJapanese .jisRoman
  | false, 0x49 => only (l == .japaneseNarrow) .jisNarrow
  | false, 0x41 => only (l == .multilingual) .latin
  | false, 0x46 => only (l == .multilingual) .greek
  | true, 0x40 | true, 0x42 => only l.isJapanese .jis
  | true, 0x44 => only l.hasSupplement .jisSupplement
  | true, 0x41 => only (l == .multilingual) .gb
  | true, 0x43 => only (l == .korean || l == .multilingual) .ks
  | _, _ => none

private inductive Use
  | main
  | shifted
  | single

private def choice? (l : Language) : Bytes → Option (Set × Use)
  | [_, 0x24, b] => (setOf? l true b).map (·, .main)
  | [_, 0x28, b] => (setOf? l false b).map (·, .main)
  | [_, 0x29, b] => (setOf? l false b).map (·, .shifted)
  | [_, 0x2E, b] => if l == .multilingual then (setOf? l false b).map (·, .single) else none
  | [_, 0x24, 0x28, b] => (setOf? l true b).map (·, .main)
  | [_, 0x24, 0x29, b] => (setOf? l true b).map (·, .shifted)
  | [_, _, _, 0x1B, 0x24, 0x42] => if l.isJapanese then some (.jis, .main) else none
  | _ => none

private def greekChar? (place : Nat) : Option Char := do
  let c ← (← Table.singleByte.lookup "iso8859_7").toList[place]?
  if ['€', '₯', 'ͺ', replacementChar].contains c then none else some c

private def singleChar? (s : State) (b : UInt8) : Option (Option Char) :=
  let n := b.toNat
  match s.single with
  | .ascii => some (if n < 128 then some (Char.ofNat n) else none)
  | .latin => some (if n < 128 then some (Char.ofNat (n + 128)) else none)
  | .greek => some (if n < 128 then greekChar? n else some (Char.ofNat (n - 128)))
  | _ => none

def maxWaiting : Nat := 8

private def escape (l : Language) (s : State) (bs : Bytes) : ShiftStep State :=
  match bs with
  | e :: b :: r =>
    if [0x28, 0x29, 0x24, 0x2E, 0x26].contains b then
      match sequenceLength l bs.length 16 1 (bs.drop 1) with
      | none => if maxWaiting < bs.length then .stuck else .fault bs.length
      | some none => .fault 1
      | some (some n) => match choice? l (bs.take n) with
        | some (set, .main) => .shows [] n { s with main := set }
        | some (set, .shifted) => .shows [] n { s with shifted := set }
        | some (set, .single) => .shows [] n { s with single := set }
        | none => .fault n
    else if b == 0x4E && l == .multilingual then
      match r with
      | [] => .fault bs.length
      | c :: _ => match singleChar? s c with
        | some (some c) => .shows [c] 3 s
        | some none => .fault 3
        | none => .stuck
    else .shows [Char.ofNat e.toNat] 1 { s with passing := true }
  | _ => .fault bs.length

private def pairOf (table? : Nat → Nat → Option Char) (s : State) (a : Nat) (r : Bytes) :
    ShiftStep State :=
  match r with
  | b :: _ => match table? (a - 0x20) (b.toNat - 0x20) with
    | some c => if 0x21 ≤ b && b ≤ 0x7E then .shows [c] 2 s else .fault 2
    | none => .fault 2
  | [] => .fault 1

private def charOf (s : State) (a : Nat) (r : Bytes) : ShiftStep State :=
  match if s.isShifted then s.shifted else s.main with
  | .ascii => .shows [Char.ofNat a] 1 s
  | .jisRoman =>
    .shows [if a == 0x5C then '¥' else if a == 0x7E then '‾' else Char.ofNat a] 1 s
  | .jisNarrow => match DoubleByte.narrow? (a + 128) with
    | some c => .shows [c] 1 s
    | none => .fault 1
  | .jis => pairOf DoubleByte.jis0208? s a r
  | .jisSupplement => pairOf DoubleByte.jis0212? s a r
  | .ks => pairOf DoubleByte.ks1001? s a r
  | .gb => pairOf (fun row column => DoubleByte.gb2312Pair? (row + 0xA0) (column + 0xA0)) s a r
  | .latin | .greek => .fault 1

def step (l : Language) (s : State) (bs : Bytes) : ShiftStep State :=
  match bs with
  | [] => .fault 0
  | a :: r =>
    let shown := [Char.ofNat a.toNat]
    if s.passing then .shows shown 1 { s with passing := !isEnd a }
    else if a == 0x1B then escape l s bs
    else if a == 0x0A then .shows shown 1 { s with isShifted := false }
    else if l == .korean && a == 0x0F then .shows [] 1 { s with isShifted := false }
    else if l == .korean && a == 0x0E then .shows [] 1 { s with isShifted := true }
    else if a < 0x20 then .shows shown 1 s
    else if 0x80 ≤ a then .fault 1
    else charOf s a.toNat r

def decode (onFault : Option Char) (l : Language) (bs : Bytes) : Option (List Char) :=
  readShifting (step l) onFault {} bs

end Iso2022

namespace Tilde

/-- Between a tilde with a brace and a tilde with the other brace stand pairs of Chinese. -/
def step (chinese : Bool) (bs : Bytes) : ShiftStep Bool :=
  match bs with
  | [] => .fault 0
  | 0x7E :: r => match r with
    | [] => .fault 1
    | b :: _ =>
      if b == 0x7E && !chinese then .shows ['~'] 2 chinese
      else if b == 0x7B && !chinese then .shows [] 2 true
      else if b == 0x0A && !chinese then .shows [] 2 chinese
      else if b == 0x7D && chinese then .shows [] 2 false
      else .fault 1
  | a :: r =>
    if 0x80 ≤ a then .fault 1
    else if !chinese then .shows [Char.ofNat a.toNat] 1 chinese
    else match r with
      | [] => .fault 1
      | b :: _ => match DoubleByte.gb2312Pair? (a.toNat + 128) (b.toNat + 128) with
        | some c => .shows [c] 2 chinese
        | none => .fault 1

def decode (onFault : Option Char) (bs : Bytes) : Option (List Char) :=
  readShifting step onFault false bs

end Tilde

end TicketKeeper.Text
