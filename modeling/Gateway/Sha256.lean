import Gateway.Text

/-! # The hash function SHA-256 and message authentication with it -/
namespace Gateway.Sha256
open Text

abbrev Word := UInt32

def rotate (w : Word) (n : Nat) : Word := (w >>> n.toUInt32) ||| (w <<< (32 - n).toUInt32)

/-- The first 32 bits of the fractions of the square roots of the first eight primes. -/
def start : List Word := [
  0x6a09e667, 0xbb67ae85, 0x3c6ef372, 0xa54ff53a, 0x510e527f, 0x9b05688c, 0x1f83d9ab, 0x5be0cd19]

/-- The first 32 bits of the fractions of the cube roots of the first 64 primes. -/
def constants : List Word := [
  0x428a2f98, 0x71374491, 0xb5c0fbcf, 0xe9b5dba5, 0x3956c25b, 0x59f111f1, 0x923f82a4, 0xab1c5ed5,
  0xd807aa98, 0x12835b01, 0x243185be, 0x550c7dc3, 0x72be5d74, 0x80deb1fe, 0x9bdc06a7, 0xc19bf174,
  0xe49b69c1, 0xefbe4786, 0x0fc19dc6, 0x240ca1cc, 0x2de92c6f, 0x4a7484aa, 0x5cb0a9dc, 0x76f988da,
  0x983e5152, 0xa831c66d, 0xb00327c8, 0xbf597fc7, 0xc6e00bf3, 0xd5a79147, 0x06ca6351, 0x14292967,
  0x27b70a85, 0x2e1b2138, 0x4d2c6dfc, 0x53380d13, 0x650a7354, 0x766a0abb, 0x81c2c92e, 0x92722c85,
  0xa2bfe8a1, 0xa81a664b, 0xc24b8b70, 0xc76c51a3, 0xd192e819, 0xd6990624, 0xf40e3585, 0x106aa070,
  0x19a4c116, 0x1e376c08, 0x2748774c, 0x34b0bcb5, 0x391c0cb3, 0x4ed8aa4a, 0x5b9cca4f, 0x682e6ff3,
  0x748f82ee, 0x78a5636f, 0x84c87814, 0x8cc70208, 0x90befffa, 0xa4506ceb, 0xbef9a3f7, 0xc67178f2]

def blockLength : Nat := 64

/-- A number as eight bytes, the most significant one first. -/
def lengthBytes (n : Nat) : Bytes :=
  (List.range 8).map fun i => (n >>> (56 - 8 * i)).toUInt8

/-- The message with a one bit, zeros and its length in bits after it, a whole number of blocks. -/
def pad (bs : Bytes) : Bytes :=
  bs ++ [0x80] ++ List.replicate ((119 - bs.length % 64) % 64) 0 ++ lengthBytes (bs.length * 8)

def words : Bytes → List Word
  | a :: b :: c :: d :: rest =>
    ((a.toUInt32 <<< 24) ||| (b.toUInt32 <<< 16) ||| (c.toUInt32 <<< 8) ||| d.toUInt32) :: words rest
  | _ => []

/-- The words of a schedule, last one first, and one more. -/
def extend (recent : List Word) : List Word :=
  let back (n : Nat) : Word := recent.getD (n - 1) 0
  let s₀ := rotate (back 15) 7 ^^^ rotate (back 15) 18 ^^^ (back 15 >>> 3)
  let s₁ := rotate (back 2) 17 ^^^ rotate (back 2) 19 ^^^ (back 2 >>> 10)
  (back 16 + s₀ + back 7 + s₁) :: recent

def schedule (block : List Word) : List Word :=
  ((List.range 48).foldl (fun ws _ => extend ws) block.reverse).reverse

def round (state : List Word) (kw : Word × Word) : List Word :=
  match state with
  | [a, b, c, d, e, f, g, h] =>
    let s₁ := rotate e 6 ^^^ rotate e 11 ^^^ rotate e 25
    let choice := (e &&& f) ^^^ ((~~~ e) &&& g)
    let t₁ := h + s₁ + choice + kw.1 + kw.2
    let s₀ := rotate a 2 ^^^ rotate a 13 ^^^ rotate a 22
    let majority := (a &&& b) ^^^ (a &&& c) ^^^ (b &&& c)
    [t₁ + s₀ + majority, a, b, c, d + t₁, e, f, g]
  | s => s

def compress (state block : List Word) : List Word :=
  List.zipWith (· + ·) state ((constants.zip (schedule block)).foldl round state)

/-- Takes the blocks one by one; `count` is the number of blocks. -/
def absorb : Nat → List Word → List Word → List Word
  | 0, state, _ => state
  | count + 1, state, ws => absorb count (compress state (ws.take 16)) (ws.drop 16)

def wordBytes (w : Word) : Bytes :=
  [(w >>> 24).toUInt8, (w >>> 16).toUInt8, (w >>> 8).toUInt8, w.toUInt8]

def hash (bs : Bytes) : Bytes :=
  let padded := pad bs
  (absorb (padded.length / blockLength) start (words padded)).flatMap wordBytes

/-- A key of one block: a longer one is hashed, a shorter one is filled up with zeros. -/
def blockKey (key : Bytes) : Bytes :=
  let short := if key.length > blockLength then hash key else key
  short ++ List.replicate (blockLength - short.length) 0

/-- The code that authenticates a message under a key. -/
def authenticate (key message : Bytes) : Bytes :=
  let k := blockKey key
  hash (k.map (· ^^^ 0x5c) ++ hash (k.map (· ^^^ 0x36) ++ message))

end Gateway.Sha256
