import Gateway.Pattern.Part
import Gateway.Unicode.Category

/-! # What opens a group: its flags and its name -/
namespace Gateway.Pattern
open Text

/-- The flags between a question mark and a colon or a closing bracket, each once. -/
def readFlags (used : List Char) (negated : Bool) (f : Flags) :
    List Char → Option (Flags × List Char × List Char)
  | [] => none
  | c :: cs =>
    if c == ':' || c == ')' then
      if used.head? == some '-' then none else some (f, used, c :: cs)
    else if used.contains c then none
    else
      let on := !negated
      match c with
      | '-' => readFlags ('-' :: used) true f cs
      | 'i' => readFlags ('i' :: used) negated { f with caseless := on } cs
      | 'm' => readFlags ('m' :: used) negated { f with multiline := on } cs
      | 's' => readFlags ('s' :: used) negated { f with dotAll := on } cs
      | 'U' => readFlags ('U' :: used) negated f cs
      | 'u' => readFlags ('u' :: used) negated { f with unicode := on } cs
      | 'x' => readFlags ('x' :: used) negated { f with verbose := on } cs
      | 'R' => readFlags ('R' :: used) negated { f with crlf := on } cs
      | _ => none

def isLetter (c : Char) : Bool :=
  c.isAlpha ||
    (c.toNat > 127 && (Unicode.Category.letters.contains (.of c) || Unicode.Category.of c == .nl))

def isNumeral (c : Char) : Bool :=
  isDigit c || (c.toNat > 127 && Unicode.Category.numerals.contains (.of c))

def isNameCharacter (first : Bool) (c : Char) : Bool :=
  c == '_' || isLetter c || (!first && (c == '.' || c == '[' || c == ']' || isNumeral c))

def readName (cs : List Char) : Option (List Char × List Char) :=
  match cutChars '>' cs with
  | (c :: name, some rest) =>
    if isNameCharacter true c && name.all (isNameCharacter false) then some (c :: name, rest) else none
  | _ => none

inductive Opening
  | setting (f : Flags)
  | group (f : Flags) (name : Option (List Char))

/-- What stands behind an opening bracket. -/
def readOpening (f : Flags) (cs : List Char) : Option (Opening × List Char) :=
  match skip f cs with
  | '?' :: 'P' :: '<' :: cs => (readName cs).map fun (n, rest) => (.group f (some n), rest)
  | '?' :: '<' :: cs => (readName cs).map fun (n, rest) => (.group f (some n), rest)
  | '?' :: cs =>
    match readFlags [] false f cs with
    | some (g, used, ')' :: rest) => if used.isEmpty then none else some (.setting g, rest)
    | some (g, _, ':' :: rest) => some (.group g none, rest)
    | _ => none
  | cs => some (.group f none, cs)

end Gateway.Pattern
