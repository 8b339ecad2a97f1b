/-! Texts as bytes. A reader takes one scalar at a time; where the bytes are no scalar it says how
many of them are at fault, so that a lenient reader can go on behind them. -/
namespace TicketKeeper.Text

abbrev Bytes := List UInt8

def replacementChar : Char := '\uFFFD'

def encodeUtf8 (s : List Char) : Bytes := s.flatMap String.utf8EncodeChar

inductive Scalar
  | char (c : Char) (width : Nat)
  | surrogate (width : Nat)
  | fault (width : Nat)

def isTail (b : UInt8) : Bool := 0x80 ≤ b && b ≤ 0xBF

def bits (b : UInt8) (mask : UInt8) : Nat := (b &&& mask).toNat

/-- The span of a fault is the longest beginning of a scalar that stands there, at least one. -/
def nextScalar : Bytes → Scalar
  | [] => .fault 0
  | a :: r =>
    if a < 0x80 then .char (Char.ofNat a.toNat) 1
    else if a < 0xC2 then .fault 1
    else if a < 0xE0 then
      match r with
      | b :: _ =>
        if isTail b then .char (Char.ofNat (bits a 0x1F * 64 + bits b 0x3F)) 2 else .fault 1
      | [] => .fault 1
    else if a < 0xF0 then
      match r with
      | b :: r =>
        if !isTail b || (a == 0xE0 && b < 0xA0) then .fault 1
        else if a == 0xED && 0xA0 ≤ b then
          match r with
          | c :: _ => if isTail c then .surrogate 3 else .fault 1
          | [] => .fault 1
        else match r with
          | c :: _ =>
            if isTail c then
              .char (Char.ofNat (bits a 0x0F * 4096 + bits b 0x3F * 64 + bits c 0x3F)) 3
            else .fault 2
          | [] => .fault 2
      | [] => .fault 1
    else if a < 0xF5 then
      match r with
      | b :: r =>
        if !isTail b || (a == 0xF0 && b < 0x90) || (a == 0xF4 && 0x8F < b) then .fault 1
        else match r with
          | c :: r =>
            if !isTail c then .fault 2
            else match r with
              | d :: _ =>
                if isTail d then
                  .char (Char.ofNat (bits a 0x07 * 262144 + bits b 0x3F * 4096 + bits c 0x3F * 64 +
                    bits d 0x3F)) 4
                else .fault 3
              | [] => .fault 3
          | [] => .fault 2
      | [] => .fault 1
    else .fault 1

/-- Reads with a bound on the steps; every step takes at least one byte, so the number of bytes
is enough. -/
def readSteps (next : Bytes → Scalar) (onFault : Scalar → Option (List Char × Nat)) :
    Nat → Bytes → Option (List Char)
  | _, [] => some []
  | 0, _ => none
  | n + 1, bs =>
    match next bs with
    | .char c w => (readSteps next onFault n (bs.drop (max w 1))).map (c :: ·)
    | s => match onFault s with
      | some (cs, w) => (readSteps next onFault n (bs.drop (max w 1))).map (cs ++ ·)
      | none => none

def readStrict? (next : Bytes → Scalar) (bs : Bytes) : Option (List Char) :=
  readSteps next (fun _ => none) bs.length bs

/-- Reads text in which surrogates may stand alone; each is shown as a replacement. -/
def readWide? (next : Bytes → Scalar) (bs : Bytes) : Option (List Char) :=
  readSteps next (fun
    | .surrogate w => some ([replacementChar], w)
    | _ => none) bs.length bs

/-- Reads any bytes; each fault is shown as a replacement. A surrogate is a fault for each byte. -/
def readLossy (next : Bytes → Scalar) (bs : Bytes) : List Char :=
  (readSteps next (fun
    | .fault w => some ([replacementChar], w)
    | _ => some ([replacementChar], 1)) bs.length bs).getD []

def decodeUtf8? (bs : Bytes) : Option (List Char) := readStrict? nextScalar bs

def decodeWide? (bs : Bytes) : Option (List Char) := readWide? nextScalar bs

def decodeLossy (bs : Bytes) : List Char := readLossy nextScalar bs

end TicketKeeper.Text
