import TicketKeeper.Packed.Huffman

/-! Unpacking of deflated bytes: blocks of plain bytes, or of symbols that stand for single bytes
and for repeats of bytes before. -/
namespace TicketKeeper.Packed

open TicketKeeper.Text (Bytes)

inductive Unpacked
  | whole (bytes : Array UInt8) (rest : Bits)
  | part (bytes : Array UInt8)
  | corrupt

private def stopped (bytes : Array UInt8) : Stop → Unpacked
  | .cut => .part bytes
  | .corrupt => .corrupt

def lengthSteps : List (Nat × Nat) := [
  (3, 0), (4, 0), (5, 0), (6, 0), (7, 0), (8, 0), (9, 0), (10, 0), (11, 1), (13, 1), (15, 1),
  (17, 1), (19, 2), (23, 2), (27, 2), (31, 2), (35, 3), (43, 3), (51, 3), (59, 3), (67, 4),
  (83, 4), (99, 4), (115, 4), (131, 5), (163, 5), (195, 5), (227, 5), (258, 0)]

def distanceSteps : List (Nat × Nat) := [
  (1, 0), (2, 0), (3, 0), (4, 0), (5, 1), (7, 1), (9, 2), (13, 2), (17, 3), (25, 3), (33, 4),
  (49, 4), (65, 5), (97, 5), (129, 6), (193, 6), (257, 7), (385, 7), (513, 8), (769, 8),
  (1025, 9), (1537, 9), (2049, 10), (3073, 10), (4097, 11), (6145, 11), (8193, 12), (12289, 12),
  (16385, 13), (24577, 13)]

private def readStep (steps : List (Nat × Nat)) (symbol : Nat) (bits : Bits) :
    Except Stop (Nat × Bits) := do
  let some (least, width) := steps[symbol]? | throw .corrupt
  let (more, bits) ← takeNumber width bits
  return (least + more, bits)

def repeated (distance : Nat) : Nat → Array UInt8 → Array UInt8
  | 0, bytes => bytes
  | n + 1, bytes => repeated distance n (bytes.push (bytes.getD (bytes.size - distance) 0))

structure Codes where
  main : Code
  distance : Code

inductive Token
  | byte (b : UInt8)
  | copy (length distance : Nat)
  | blockEnd

def Codes.read (codes : Codes) (bits : Bits) : Except Stop (Token × Bits) := do
  let (symbol, bits) ← codes.main.read bits
  if symbol < 256 then return (.byte (UInt8.ofNat symbol), bits)
  else if symbol == 256 then return (.blockEnd, bits)
  else
    let (length, bits) ← readStep lengthSteps (symbol - 257) bits
    let (symbol, bits) ← codes.distance.read bits
    let (distance, bits) ← readStep distanceSteps symbol bits
    return (.copy length distance, bits)

/-- Reads the symbols of a block. Each takes a bit at least, so there are no more of them than bits;
the bytes are whole at the end of the block. -/
def readSymbols (codes : Codes) : Nat → Bits → Array UInt8 → Unpacked
  | 0, _, bytes => .part bytes
  | n + 1, bits, bytes =>
    match codes.read bits with
    | .error s => stopped bytes s
    | .ok (.byte b, bits) => readSymbols codes n bits (bytes.push b)
    | .ok (.copy length distance, bits) =>
      if distance ≤ bytes.size then readSymbols codes n bits (repeated distance length bytes)
      else .corrupt
    | .ok (.blockEnd, bits) => .whole bytes bits

private def fixedLengths : List Nat :=
  List.replicate 144 8 ++ List.replicate 112 9 ++ List.replicate 24 7 ++ List.replicate 8 8

def Codes.fixed? : Option Codes := do
  return ⟨← Code.ofLengths? false fixedLengths, ← Code.ofLengths? false (List.replicate 32 5)⟩

def lengthOrder : List Nat := [16, 17, 18, 0, 8, 7, 9, 6, 10, 5, 11, 4, 12, 3, 13, 2, 14, 1, 15]

private def takeNumbers (width : Nat) : Nat → Bits → Except Stop (List Nat × Bits)
  | 0, bits => .ok ([], bits)
  | n + 1, bits => do
    let (x, bits) ← takeNumber width bits
    let (xs, bits) ← takeNumbers width n bits
    return (x :: xs, bits)

/-- Reads so many word lengths; those so far are in reverse. A symbol may stand for a repeat of the
last length or for a row of zeros. -/
def readLengths (code : Code) (total : Nat) : Nat → List Nat → Bits → Except Stop (List Nat × Bits)
  | 0, _, _ => .error .corrupt
  | n + 1, read, bits => do
    if read.length == total then return (read.reverse, bits)
    let again (x width least : Nat) (bits : Bits) : Except Stop (List Nat × Bits) := do
      let (more, bits) ← takeNumber width bits
      if total < read.length + least + more then throw .corrupt
      readLengths code total n (List.replicate (least + more) x ++ read) bits
    let (symbol, bits) ← code.read bits
    if symbol < 16 then readLengths code total n (symbol :: read) bits
    else if symbol == 17 then again 0 3 3 bits
    else if symbol == 18 then again 0 7 11 bits
    else match read with
      | x :: _ => again x 2 3 bits
      | [] =>
        let _ ← takeNumber 2 bits
        throw .corrupt

def Codes.take (bits : Bits) : Except Stop (Codes × Bits) := do
  let (main, bits) ← takeNumber 5 bits
  let (distance, bits) ← takeNumber 5 bits
  let (written, bits) ← takeNumber 4 bits
  let (main, distance) := (main + 257, distance + 1)
  if 286 < main || 30 < distance then throw .corrupt
  let (lengths, bits) ← takeNumbers 3 (written + 4) bits
  let placed := lengthOrder.zip lengths
  let some code := Code.ofLengths? false ((List.range 19).map fun i => (placed.lookup i).getD 0)
    | throw .corrupt
  if code.symbols.isEmpty then
    let _ ← takeNumber (main + distance) bits
    throw .corrupt
  let total := main + distance
  let (lengths, bits) ← readLengths code total (total + 1) [] bits
  if lengths[256]? == some 0 then throw .corrupt
  let some mainCode := Code.ofLengths? true (lengths.take main) | throw .corrupt
  let some distanceCode := Code.ofLengths? true (lengths.drop main) | throw .corrupt
  return (⟨mainCode, distanceCode⟩, bits)

def readPlain (bits : Bits) (bytes : Array UInt8) : Unpacked :=
  match takeNumber 32 (dropToByte bits) with
  | .error s => stopped bytes s
  | .ok (sizes, bits) =>
    let size := sizes % 65536
    if size + sizes / 65536 != 65535 then .corrupt
    else
      let bytes := bytes ++ (bytesOfBits (bits.take (8 * size))).toArray
      if bits.length < 8 * size then .part bytes else .whole bytes (bits.drop (8 * size))

private def readCoded (codes : Except Stop (Codes × Bits)) (bytes : Array UInt8) : Unpacked :=
  match codes with
  | .error s => stopped bytes s
  | .ok (codes, bits) => readSymbols codes (bits.length + 1) bits bytes

def readBlocks : Nat → Bits → Array UInt8 → Unpacked
  | 0, _, bytes => .part bytes
  | n + 1, bits, bytes =>
    match takeNumber 3 bits with
    | .error s => stopped bytes s
    | .ok (kind, bits) =>
      let block := match kind / 2 with
        | 0 => readPlain bits bytes
        | 1 => readCoded (Codes.fixed?.elim (.error .corrupt) fun codes => .ok (codes, bits)) bytes
        | 2 => readCoded (Codes.take bits) bytes
        | _ => .corrupt
      match block with
      | .whole bytes bits => if kind % 2 == 1 then .whole bytes bits else readBlocks n bits bytes
      | block => block

def inflate (bs : Bytes) : Unpacked :=
  let bits := bitsOfBytes bs
  readBlocks (bits.length + 1) bits #[]

end TicketKeeper.Packed
