import Gateway.Setting

/-! # Texts, numbers and dates of TOML -/
namespace Gateway.Toml
open Text

def isBlankChar (c : Char) : Bool := c == ' ' || c == '\t'

def skipBlank (cs : List Char) : List Char := cs.dropWhile isBlankChar

/-- The characters that can stand in comments and in literal text. -/
def isTextChar (c : Char) : Bool := c == '\t' || (c.toNat ≥ 0x20 && c.toNat ≠ 0x7F)

def newline? : List Char → Option (List Char)
  | '\n' :: cs => some cs
  | '\r' :: '\n' :: cs => some cs
  | _ => none

def skipComment (cs : List Char) : List Char :=
  if cs.head? == some '#' then cs.dropWhile isTextChar else cs

/-- The end of a line, after blanks and a comment. -/
def endLine? (cs : List Char) : Option (List Char) :=
  let cs := skipComment (skipBlank cs)
  if cs.isEmpty then some [] else newline? cs

/-- Past blanks, comments and line breaks. -/
def skipLines : Nat → List Char → List Char
  | 0, cs => cs
  | fuel + 1, cs =>
    let cs := skipComment (skipBlank cs)
    match newline? cs with
    | some rest => skipLines fuel rest
    | none => cs

def plainEscape? (c : Char) : Option Char :=
  match c with
  | 'b' => some '\x08'
  | 't' => some '\t'
  | 'n' => some '\n'
  | 'f' => some '\x0c'
  | 'r' => some '\r'
  | '"' => some '"'
  | '\\' => some '\\'
  | _ => none

def coded? (ds : List Char) : Option Char :=
  let n := hexadecimal ds
  if ds.all isHexDigit && n.isValidChar then some (Char.ofNat n) else none

def isBareChar (c : Char) : Bool := c.isAlphanum || c == '_' || c == '-'

/-- A text in double quotes on one line, from behind the first quote. -/
def basicText (seen : List Char) : List Char → Option (List Char × List Char)
  | '"' :: rest => some (seen.reverse, rest)
  | '\\' :: 'u' :: a :: b :: c :: d :: rest => do
    basicText ((← coded? [a, b, c, d]) :: seen) rest
  | '\\' :: 'U' :: a :: b :: c :: d :: e :: f :: g :: h :: rest => do
    basicText ((← coded? [a, b, c, d, e, f, g, h]) :: seen) rest
  | '\\' :: c :: rest => do basicText ((← plainEscape? c) :: seen) rest
  | c :: rest => if isTextChar c then basicText (c :: seen) rest else none
  | [] => none

def literalText (seen : List Char) : List Char → Option (List Char × List Char)
  | '\'' :: rest => some (seen.reverse, rest)
  | c :: rest => if isTextChar c then literalText (c :: seen) rest else none
  | [] => none

/-- At three quotes or more, which end a text of several lines: up to two of them belong to it. -/
def closing (q : Char) (cs : List Char) : Nat :=
  let n := (cs.takeWhile (· == q)).length
  if n < 3 then 0 else min n 5

/-- Past the blanks and the line break behind a backslash, and all blanks and breaks after them. -/
def joinLines? (cs : List Char) : Option (List Char) :=
  (newline? (skipBlank cs)).map fun rest => rest.dropWhile fun c => isBlankChar c || c == '\n' || c == '\r'

/-- A text of several lines, from behind the three quotes. `fuel` bounds the characters. -/
def longText (q : Char) : Nat → List Char → List Char → Option (List Char × List Char)
  | 0, _, _ => none
  | fuel + 1, seen, cs =>
    if closing q cs > 0 then
      let n := closing q cs
      some (seen.reverse ++ List.replicate (n - 3) q, cs.drop n)
    else match newline? cs, cs with
      | some rest, _ => longText q fuel ('\n' :: seen) rest
      | none, '\\' :: rest =>
        if q == '\'' then longText q fuel ('\\' :: seen) rest
        else match rest with
          | 'u' :: a :: b :: c :: d :: rest => do
            longText q fuel ((← coded? [a, b, c, d]) :: seen) rest
          | 'U' :: a :: b :: c :: d :: e :: f :: g :: h :: rest => do
            longText q fuel ((← coded? [a, b, c, d, e, f, g, h]) :: seen) rest
          | c :: more =>
            match joinLines? rest, plainEscape? c with
            | some rest, _ => longText q fuel seen rest
            | none, some e => longText q fuel (e :: seen) more
            | none, none => none
          | [] => none
      | none, c :: rest => if isTextChar c then longText q fuel (c :: seen) rest else none
      | none, [] => none

/-- A line break right behind the three quotes does not count. -/
def longTextAt (q : Char) (cs : List Char) : Option (List Char × List Char) :=
  longText q (cs.length + 1) [] ((newline? cs).getD cs)

def simpleKey (cs : List Char) : Option (String × List Char) :=
  match cs with
  | '"' :: rest => (basicText [] rest).map fun (s, rest) => (String.ofList s, rest)
  | '\'' :: rest => (literalText [] rest).map fun (s, rest) => (String.ofList s, rest)
  | _ =>
    let name := cs.takeWhile isBareChar
    if name.isEmpty then none else some (String.ofList name, cs.dropWhile isBareChar)

/-- Names with dots between them. `fuel` bounds the names. -/
def dottedKey : Nat → List Char → Option (List String × List Char)
  | 0, _ => none
  | fuel + 1, cs => do
    let (k, rest) ← simpleKey (skipBlank cs)
    match skipBlank rest with
    | '.' :: rest =>
      let (ks, rest) ← dottedKey fuel rest
      return (k :: ks, rest)
    | rest => return ([k], rest)

/-- Digits with single underscores between them. -/
def spaced? (f : Char → Bool) (cs : List Char) : Option (List Char) :=
  let groups := splitChars '_' cs
  if groups.all fun g => !g.isEmpty && g.all f then some groups.flatten else none

def signed (cs : List Char) : Option Bool × List Char :=
  match cs with
  | '-' :: cs => (some true, cs)
  | '+' :: cs => (some false, cs)
  | cs => (none, cs)

def inRange (n : Int) : Option Setting :=
  if Word.isSigned n then some (.int n) else none

/-- Digits without a zero in front of others. -/
def wholeDigits? (cs : List Char) : Option (List Char) :=
  (spaced? isDigit cs).filter fun ds => ds.length == 1 || ds.head? != some '0'

def based? (base : Nat) (f : Char → Bool) (cs : List Char) : Option Setting := do
  inRange (← digits? base (← spaced? f cs))

def whole? (cs : List Char) : Option Setting :=
  match cs with
  | '0' :: 'x' :: ds => based? 16 isHexDigit ds
  | '0' :: 'o' :: ds => based? 8 isDigit ds
  | '0' :: 'b' :: ds => based? 2 isDigit ds
  | _ => do
    let (negative, ds) := signed cs
    let n := decimal (← wholeDigits? ds)
    inRange (if negative == some true then -(n : Int) else n)

/-- Text up to the first of some characters, and the text behind it. -/
def cutAt (f : Char → Bool) (cs : List Char) : List Char × Option (List Char) :=
  match cs.dropWhile (!f ·) with
  | [] => (cs, none)
  | _ :: rest => (cs.takeWhile (!f ·), some rest)

/-- Numbers with a fraction or an exponent, infinity and what is no number. -/
def real? (cs : List Char) : Option Setting := do
  let (negative, body) := signed cs
  let word := String.ofList body
  if word == "inf" || word == "nan" then
    return .real (← Double.read? (String.ofList cs))
  let (number, exponent) := cutAt (fun c => c == 'e' || c == 'E') body
  let (whole, fraction) := cutAt (· == '.') number
  if fraction.isNone && exponent.isNone then none
  let whole ← wholeDigits? whole
  let fraction ← match fraction with
    | some f => (spaced? isDigit f).map ('.' :: ·)
    | none => some []
  let exponent ← match exponent with
    | some e =>
      let (negative, ds) := signed e
      (spaced? isDigit ds).map fun ds => 'e' :: (if negative == some true then '-' :: ds else ds)
    | none => some []
  let sign := if negative == some true then ['-'] else []
  let x ← Double.read? (String.ofList (sign ++ whole ++ fraction ++ exponent))
  if x.isInf then none else return .real x

def number? (low high : Nat) (cs : List Char) : Option Nat :=
  if !cs.isEmpty && cs.all isDigit && low ≤ decimal cs && decimal cs ≤ high then some (decimal cs)
  else none

def daysIn (year month : Nat) : Nat :=
  if month == 2 then (if year % 4 == 0 && (year % 100 != 0 || year % 400 == 0) then 29 else 28)
  else if [4, 6, 9, 11].contains month then 30
  else 31

def isDate (cs : List Char) : Bool :=
  match cs with
  | [a, b, c, d, '-', e, f, '-', g, h] =>
    match number? 0 9999 [a, b, c, d], number? 1 12 [e, f] with
    | some y, some m => (number? 1 (daysIn y m) [g, h]).isSome
    | _, _ => false
  | _ => false

/-- The time of day at the start of a text, with at most nine places of a second. -/
def clock? (cs : List Char) : Option (List Char × List Char) :=
  match cs with
  | a :: b :: ':' :: c :: d :: ':' :: e :: f :: rest => do
    let _ ← number? 0 23 [a, b]
    let _ ← number? 0 59 [c, d]
    let _ ← number? 0 60 [e, f]
    let time := [a, b, ':', c, d, ':', e, f]
    match rest with
    | '.' :: rest =>
      let places := rest.takeWhile isDigit
      if places.isEmpty then none
      else
        let shown := ((places.take 9).reverse.dropWhile (· == '0')).reverse
        return (time ++ (if shown.isEmpty then [] else '.' :: shown), rest.dropWhile isDigit)
    | rest => return (time, rest)
  | _ => none

def offset? (cs : List Char) : Option (List Char) :=
  match cs with
  | [] => some []
  | ['Z'] => some ['Z']
  | ['z'] => some ['Z']
  | [s, a, b, ':', c, d] =>
    if (s == '+' || s == '-') && (number? 0 23 [a, b]).isSome && (number? 0 59 [c, d]).isSome then
      some cs
    else none
  | _ => none

/-- Dates and times, as the text that writes them. -/
def dated? (cs : List Char) : Option Setting := do
  let date := cs.take 10
  if isDate date then
    match cs.drop 10 with
    | [] => return .text (String.ofList date)
    | t :: rest =>
      if t == 'T' || t == 't' || t == ' ' then
        let (time, rest) ← clock? rest
        return .text (String.ofList (date ++ 'T' :: time ++ (← offset? rest)))
      else none
  else
    let (time, rest) ← clock? cs
    if rest.isEmpty then return .text (String.ofList time) else none

def isWordChar (c : Char) : Bool := c.isAlphanum || "_-+.:".toList.contains c

/-- The word at the start of a text. A date takes the time behind it along. -/
def word (cs : List Char) : List Char × List Char :=
  let w := cs.takeWhile isWordChar
  match cs.dropWhile isWordChar with
  | ' ' :: rest =>
    if isDate w && rest.head?.any isDigit then
      (w ++ ' ' :: rest.takeWhile isWordChar, rest.dropWhile isWordChar)
    else (w, ' ' :: rest)
  | rest => (w, rest)

def wordValue? (w : List Char) : Option Setting :=
  match String.ofList w with
  | "true" => some (.flag true)
  | "false" => some (.flag false)
  | _ => ((whole? w).or (real? w)).or (dated? w)

end Gateway.Toml
