import Gateway.Text

/-! # Base64 in the alphabet for URLs, without padding -/
namespace Gateway.Base64
open Text

inductive Fault
  | symbol (byte : UInt8) (offset : Nat)
  | length (count : Nat)
  | lastSymbol (byte : UInt8) (offset : Nat)
  | padding
  deriving DecidableEq, Repr

def Fault.message : Fault → String
  | .symbol byte offset =>
    "Invalid symbol " ++ toString byte.toNat ++ ", offset " ++ toString offset ++ "."
  | .length count => "Invalid input length: " ++ toString count
  | .lastSymbol byte offset =>
    "Invalid last symbol " ++ toString byte.toNat ++ ", offset " ++ toString offset ++ "."
  | .padding => "Invalid padding"

/-- The symbol of a value below 64. -/
def symbol (n : Nat) : UInt8 :=
  if n < 26 then (65 + n).toUInt8
  else if n < 52 then (71 + n).toUInt8
  else if n < 62 then (n - 4).toUInt8
  else if n = 62 then 45
  else 95

def value? (b : UInt8) : Option Nat :=
  let n := b.toNat
  if 65 ≤ n && n ≤ 90 then some (n - 65)
  else if 97 ≤ n && n ≤ 122 then some (n - 71)
  else if 48 ≤ n && n ≤ 57 then some (n + 4)
  else if n = 45 then some 62
  else if n = 95 then some 63
  else none

/-- Three bytes are four symbols; the bits that are left over at the end fill up with zeros. -/
def encode : Bytes → Bytes
  | a :: b :: c :: rest =>
    let n := a.toNat * 65536 + b.toNat * 256 + c.toNat
    symbol (n / 262144) :: symbol (n / 4096 % 64) :: symbol (n / 64 % 64) :: symbol (n % 64) ::
      encode rest
  | [a, b] =>
    let n := a.toNat * 1024 + b.toNat * 4
    [symbol (n / 4096), symbol (n / 64 % 64), symbol (n % 64)]
  | [a] => [symbol (a.toNat / 4), symbol (a.toNat % 4 * 16)]
  | [] => []

def encodeText (bs : Bytes) : String := latin1 (encode bs)

def valueAt (b : UInt8) (offset : Nat) : Except Fault Nat :=
  match value? b with
  | some n => .ok n
  | none => .error (.symbol b offset)

def equals : UInt8 := 61

/-- The values of the symbols before the first padding, with nothing but padding after it, which
may only stand where one or two bytes are complete. -/
def lastValues (offset : Nat) (bs : Bytes) : Except Fault (List Nat) := do
  let body := bs.takeWhile (· != equals)
  let rest := bs.dropWhile (· != equals)
  let values ← body.zipIdx.mapM fun (b, i) => valueAt b (offset + i)
  if rest.isEmpty then return values
  else if body.length < 2 || rest.any (· != equals) then
    .error (.symbol equals (offset + body.length))
  else .error .padding

/-- The bytes of at most four symbols at the end, whose unused bits must be zero. -/
def decodeLast (offset : Nat) (bs : Bytes) : Except Fault Bytes := do
  let fault := Fault.lastSymbol (bs.getLastD 0) (offset + bs.length - 1)
  match ← lastValues offset bs with
  | [] => return []
  | [_] => .error (.length (offset + 1))
  | [a, b] => if b % 16 = 0 then return [(a * 4 + b / 16).toUInt8] else .error fault
  | [a, b, c] =>
    if c % 4 = 0 then return [(a * 4 + b / 16).toUInt8, (b % 16 * 16 + c / 4).toUInt8]
    else .error fault
  | a :: b :: c :: d :: _ =>
    return [(a * 4 + b / 16).toUInt8, (b % 16 * 16 + c / 4).toUInt8, (c % 4 * 64 + d).toUInt8]

/-- Reads four symbols at a time while more than four are left. -/
def decodeFrom (offset : Nat) : Bytes → Except Fault Bytes
  | b₁ :: b₂ :: b₃ :: b₄ :: b₅ :: rest => do
    let a ← valueAt b₁ offset
    let b ← valueAt b₂ (offset + 1)
    let c ← valueAt b₃ (offset + 2)
    let d ← valueAt b₄ (offset + 3)
    let tail ← decodeFrom (offset + 4) (b₅ :: rest)
    return (a * 4 + b / 16).toUInt8 :: (b % 16 * 16 + c / 4).toUInt8 ::
      (c % 4 * 64 + d).toUInt8 :: tail
  | bs => decodeLast offset bs

/-- A symbol that stands alone at the end is looked at before all others. -/
def decode (bs : Bytes) : Except Fault Bytes :=
  match bs.getLast? with
  | some last =>
    if bs.length % 4 = 1 && last != equals && (value? last).isNone then
      .error (.symbol last (bs.length - 1))
    else decodeFrom 0 bs
  | none => .ok []

end Gateway.Base64
