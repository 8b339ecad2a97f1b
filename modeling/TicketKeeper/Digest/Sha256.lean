import TicketKeeper.Text.Hex

/-! SHA-256. Directory names carry the beginning of a digest, so that names which look alike stay
apart. -/
namespace TicketKeeper.Sha256

open TicketKeeper.Text (Bytes)

def initialState : List UInt32 :=
  [0x6a09e667, 0xbb67ae85, 0x3c6ef372, 0xa54ff53a, 0x510e527f, 0x9b05688c, 0x1f83d9ab, 0x5be0cd19]

def roundConstants : List UInt32 := [
  0x428a2f98, 0x71374491, 0xb5c0fbcf, 0xe9b5dba5, 0x3956c25b, 0x59f111f1, 0x923f82a4, 0xab1c5ed5,
  0xd807aa98, 0x12835b01, 0x243185be, 0x550c7dc3, 0x72be5d74, 0x80deb1fe, 0x9bdc06a7, 0xc19bf174,
  0xe49b69c1, 0xefbe4786, 0x0fc19dc6, 0x240ca1cc, 0x2de92c6f, 0x4a7484aa, 0x5cb0a9dc, 0x76f988da,
  0x983e5152, 0xa831c66d, 0xb00327c8, 0xbf597fc7, 0xc6e00bf3, 0xd5a79147, 0x06ca6351, 0x14292967,
  0x27b70a85, 0x2e1b2138, 0x4d2c6dfc, 0x53380d13, 0x650a7354, 0x766a0abb, 0x81c2c92e, 0x92722c85,
  0xa2bfe8a1, 0xa81a664b, 0xc24b8b70, 0xc76c51a3, 0xd192e819, 0xd6990624, 0xf40e3585, 0x106aa070,
  0x19a4c116, 0x1e376c08, 0x2748774c, 0x34b0bcb5, 0x391c0cb3, 0x4ed8aa4a, 0x5b9cca4f, 0x682e6ff3,
  0x748f82ee, 0x78a5636f, 0x84c87814, 0x8cc70208, 0x90befffa, 0xa4506ceb, 0xbef9a3f7, 0xc67178f2]

private def rotr (x : UInt32) (n : UInt32) : UInt32 := (x >>> n) ||| (x <<< (32 - n))

private def byteAt (n shift : Nat) : UInt8 := UInt8.ofNat (n >>> shift)

def pad (message : Bytes) : Bytes :=
  let n := message.length
  let size := n * 8
  message ++ [0x80] ++ List.replicate ((119 - n % 64) % 64) 0 ++
    [byteAt size 56, byteAt size 48, byteAt size 40, byteAt size 32,
     byteAt size 24, byteAt size 16, byteAt size 8, byteAt size 0]

private def wordsOf : Bytes → List UInt32
  | a :: b :: c :: d :: r =>
    (a.toUInt32 <<< 24 ||| b.toUInt32 <<< 16 ||| c.toUInt32 <<< 8 ||| d.toUInt32) :: wordsOf r
  | _ => []

/-- The schedule grows at its front: the latest word comes first. -/
private def extend : Nat → List UInt32 → List UInt32
  | 0, ws => ws
  | n + 1, ws =>
    let w2 := ws.getD 1 0
    let w15 := ws.getD 14 0
    let s0 := rotr w15 7 ^^^ rotr w15 18 ^^^ (w15 >>> 3)
    let s1 := rotr w2 17 ^^^ rotr w2 19 ^^^ (w2 >>> 10)
    extend n ((ws.getD 15 0 + s0 + ws.getD 6 0 + s1) :: ws)

private def round (s : List UInt32) (kw : UInt32 × UInt32) : List UInt32 :=
  match s with
  | [a, b, c, d, e, f, g, h] =>
    let choice := (e &&& f) ^^^ (~~~e &&& g)
    let t1 := h + (rotr e 6 ^^^ rotr e 11 ^^^ rotr e 25) + choice + kw.1 + kw.2
    let t2 := (rotr a 2 ^^^ rotr a 13 ^^^ rotr a 22) + ((a &&& b) ^^^ (a &&& c) ^^^ (b &&& c))
    [t1 + t2, a, b, c, d + t1, e, f, g]
  | s => s

private def compress (state : List UInt32) (block : Bytes) : List UInt32 :=
  let schedule := (extend 48 (wordsOf block).reverse).reverse
  List.zipWith (· + ·) state ((roundConstants.zip schedule).foldl round state)

private def blocks : Nat → Bytes → List Bytes
  | 0, _ => []
  | n + 1, bs => bs.take 64 :: blocks n (bs.drop 64)

def digest (message : Bytes) : Bytes :=
  let padded := pad message
  let state := (blocks (padded.length / 64) padded).foldl compress initialState
  state.flatMap fun (w : UInt32) =>
    [(w >>> 24).toUInt8, (w >>> 16).toUInt8, (w >>> 8).toUInt8, w.toUInt8]

def hexDigest (message : Bytes) : List Char := Text.hexOfBytes (digest message)

theorem length_foldl_round (kws : List (UInt32 × UInt32)) {s : List UInt32} (h : s.length = 8) :
    (kws.foldl round s).length = 8 := by
  induction kws generalizing s with
  | nil => exact h
  | cons kw kws ih =>
    apply ih
    unfold round
    split
    · rfl
    · exact h

theorem length_foldl_compress (bs : List Bytes) {s : List UInt32} (h : s.length = 8) :
    (bs.foldl compress s).length = 8 := by
  induction bs generalizing s with
  | nil => exact h
  | cons b bs ih =>
    apply ih
    simp only [compress, List.length_zipWith, length_foldl_round _ h, h, Nat.min_self]

theorem length_digest (message : Bytes) : (digest message).length = 32 := by
  have words := length_foldl_compress (blocks ((pad message).length / 64) (pad message))
    (show initialState.length = 8 from rfl)
  simp only [digest, List.length_flatMap, List.length_cons, List.length_nil]
  rw [List.map_const', List.sum_replicate_nat, words]

theorem length_hexDigest (message : Bytes) : (hexDigest message).length = 64 := by
  rw [hexDigest, Text.length_hexOfBytes, length_digest]

end TicketKeeper.Sha256
