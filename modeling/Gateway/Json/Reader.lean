import Gateway.Json
import Gateway.Text

/-! # Reading JSON texts -/
namespace Gateway.Json
open Text

def isSpace (c : Char) : Bool := c == ' ' || c == '\n' || c == '\t' || c == '\r'

def skipSpace (cs : List Char) : List Char := cs.dropWhile isSpace

def isHighSurrogate (n : Nat) : Bool := 0xD800 ≤ n && n < 0xDC00

def isLowSurrogate (n : Nat) : Bool := 0xDC00 ≤ n && n < 0xE000

/-- The value of four hexadecimal digits. -/
def unit? (a b c d : Char) : Option Nat :=
  if [a, b, c, d].all isHexDigit then some (hexadecimal [a, b, c, d]) else none

def plainEscape? (c : Char) : Option Char :=
  match c with
  | '"' => some '"'
  | '\\' => some '\\'
  | '/' => some '/'
  | 'b' => some (Char.ofNat 8)
  | 'f' => some (Char.ofNat 12)
  | 'n' => some '\n'
  | 'r' => some '\r'
  | 't' => some '\t'
  | _ => none

/-- What has been read of a text: its bytes, last one first. A character beyond the 16-bit range is
escaped as a pair of surrogates, and half a pair leaves the text without a value. -/
inductive Quoted
  | whole (bytes : List Char)
  | half (high : Nat) (bytes : List Char)
  | void
  deriving Repr

namespace Quoted

def push (c : Char) : Quoted → Quoted
  | whole bytes => whole (c :: bytes)
  | _ => void

/-- The bytes of a character, last one first. -/
def backward (code : Nat) : List Char :=
  (byteChars (utf8 (String.singleton (Char.ofNat code)))).reverse

def pushUnit (n : Nat) : Quoted → Quoted
  | whole bytes =>
    if isHighSurrogate n then half n bytes
    else if isLowSurrogate n then void
    else whole (backward n ++ bytes)
  | half high bytes =>
    if isLowSurrogate n then
      whole (backward (0x10000 + (high - 0xD800) * 0x400 + (n - 0xDC00)) ++ bytes)
    else void
  | void => void

def text? : Quoted → Option String
  | whole bytes => ofUtf8? (ofByteChars bytes.reverse)
  | _ => none

end Quoted

/-- Reads up to the closing quote. The characters are bytes. -/
def readQuoted (seen : Quoted) : List Char → Option (Option String × List Char)
  | [] => none
  | '"' :: rest => some (seen.text?, rest)
  | '\\' :: 'u' :: a :: b :: c :: d :: rest =>
    match unit? a b c d with
    | some n => readQuoted (seen.pushUnit n) rest
    | none => none
  | '\\' :: c :: rest =>
    match plainEscape? c with
    | some d => readQuoted (seen.push d) rest
    | none => none
  | c :: rest => if c.toNat < 32 || c == '\\' then none else readQuoted (seen.push c) rest

def readText (cs : List Char) : Option (Option String × List Char) := readQuoted (.whole []) cs

/-- A number's literal, cut into its parts. -/
structure Numeral where
  negative : Bool
  whole : List Char
  fraction : Option (List Char)
  exponent : Option (Bool × List Char)
  deriving Repr

def Numeral.isWhole (n : Numeral) : Bool := n.fraction.isNone && n.exponent.isNone

/-- All digits as one whole number. -/
def Numeral.digits (n : Numeral) : Nat := decimal (n.whole ++ n.fraction.getD [])

/-- The power of ten that belongs to the last digit. -/
def Numeral.scale (n : Numeral) : Int :=
  (match n.exponent with
    | none => 0
    | some (true, ds) => -(decimal ds : Int)
    | some (false, ds) => decimal ds) - (n.fraction.getD []).length

/-- The least number that rounds to infinity in double precision. -/
def infiniteFrom : Nat := Nat.pow 2 1024 - Nat.pow 2 970

/-- Whether the number is beyond the largest number of double precision. -/
def Numeral.tooLarge (n : Numeral) : Bool :=
  let size := (Nat.toDigits 10 n.digits).length + n.scale
  if n.digits = 0 || size < 309 then false
  else if size > 309 then true
  else if n.scale ≥ 0 then n.digits * Nat.pow 10 n.scale.toNat ≥ infiniteFrom
  else n.digits ≥ infiniteFrom * Nat.pow 10 (-n.scale).toNat

def splitDigits (cs : List Char) : List Char × List Char :=
  (cs.takeWhile isDigit, cs.dropWhile isDigit)

def readFraction : List Char → Option (Option (List Char) × List Char)
  | '.' :: cs =>
    let (ds, rest) := splitDigits cs
    if ds.isEmpty then none else some (some ds, rest)
  | cs => some (none, cs)

def readExponentDigits (negative : Bool) (cs : List Char) :
    Option (Option (Bool × List Char) × List Char) :=
  let (ds, rest) := splitDigits cs
  if ds.isEmpty then none else some (some (negative, ds), rest)

def readExponent : List Char → Option (Option (Bool × List Char) × List Char)
  | c :: cs =>
    if c == 'e' || c == 'E' then
      match cs with
      | '-' :: cs => readExponentDigits true cs
      | '+' :: cs => readExponentDigits false cs
      | cs => readExponentDigits false cs
    else some (none, c :: cs)
  | [] => some (none, [])

/-- A whole part has no leading zero. -/
def readNumeral (cs : List Char) : Option (Numeral × List Char) := do
  let (negative, cs) := match cs with
    | '-' :: cs => (true, cs)
    | cs => (false, cs)
  let (whole, cs) := splitDigits cs
  if whole.isEmpty || (whole.head? == some '0' && whole.length > 1) then none
  let (fraction, cs) ← readFraction cs
  let (exponent, cs) ← readExponent cs
  return (⟨negative, whole, fraction, exponent⟩, cs)

def Numeral.literal (n : Numeral) : String :=
  String.ofList ((if n.negative then ['-'] else []) ++ n.whole ++
    (match n.fraction with | none => [] | some ds => '.' :: ds) ++
    (match n.exponent with | none => [] | some (s, ds) => 'e' :: (if s then ['-'] else []) ++ ds))

/-- Minus zero and whole numbers beyond 64 bits are no integers. -/
def Numeral.value (n : Numeral) : Json :=
  let k := decimal n.whole
  if n.isWhole && !n.negative && Word.isUnsigned k then .int k
  else if n.isWhole && n.negative && 0 < k && Word.isSigned (-(k : Int)) then .int (-(k : Int))
  else .real n.literal

def readNumber (cs : List Char) : Option (Json × List Char) :=
  (readNumeral cs).map fun (n, rest) => (if n.tooLarge then .void else n.value, rest)

/-- A record with its fields in order; if a name has no value, neither has the record. -/
def assemble (fields : List (Option String × Json)) : Json :=
  match fields.mapM fun (name, x) => name.map fun n => (n, x) with
  | some fields => .record fields
  | none => .void

mutual
/-- `fuel` bounds the steps. -/
def readValue : Nat → List Char → Option (Json × List Char)
  | 0, _ => none
  | fuel + 1, cs =>
    match skipSpace cs with
    | 'n' :: 'u' :: 'l' :: 'l' :: rest => some (.null, rest)
    | 't' :: 'r' :: 'u' :: 'e' :: rest => some (.bool true, rest)
    | 'f' :: 'a' :: 'l' :: 's' :: 'e' :: rest => some (.bool false, rest)
    | '"' :: rest =>
      (readText rest).map fun (s, rest) => ((s.map Json.text).getD .void, rest)
    | '[' :: rest =>
      match skipSpace rest with
      | ']' :: rest => some (.list [], rest)
      | rest => readItems fuel [] rest
    | '\x7b' :: rest =>
      match skipSpace rest with
      | '\x7d' :: rest => some (.record [], rest)
      | rest => readFields fuel [] rest
    | rest => readNumber rest

/-- Reads the items of a list from the next one on; `seen` holds those before, last first. -/
def readItems : Nat → List Json → List Char → Option (Json × List Char)
  | 0, _, _ => none
  | fuel + 1, seen, cs =>
    match readValue fuel cs with
    | none => none
    | some (x, rest) =>
      match skipSpace rest with
      | ']' :: rest => some (.list (x :: seen).reverse, rest)
      | ',' :: rest => readItems fuel (x :: seen) rest
      | _ => none

def readFields : Nat → List (Option String × Json) → List Char → Option (Json × List Char)
  | 0, _, _ => none
  | fuel + 1, seen, cs =>
    match skipSpace cs with
    | '"' :: rest =>
      match readText rest with
      | none => none
      | some (name, rest) =>
        match skipSpace rest with
        | ':' :: rest =>
          match readValue fuel rest with
          | none => none
          | some (x, rest) =>
            match skipSpace rest with
            | '\x7d' :: rest => some (assemble ((name, x) :: seen).reverse, rest)
            | ',' :: rest => readFields fuel ((name, x) :: seen) rest
            | _ => none
        | _ => none
    | _ => none
end

def readChars (cs : List Char) : Option Json :=
  match readValue (2 * cs.length + 2) cs with
  | some (j, rest) => if (skipSpace rest).isEmpty then some j else none
  | none => none

/-- Reads what bytes say, however deep, with a void wherever a part has no value. -/
def readLoosely (bs : Bytes) : Option Json := readChars (byteChars bs)

/-- How many brackets may be open at once. -/
def depthLimit : Nat := 127

/-- The value of bytes, every part of which must have one. -/
def readBytes (bs : Bytes) : Option Json := (readLoosely bs).filter (isSound depthLimit)

def read (s : String) : Option Json := readBytes (utf8 s)

end Gateway.Json
