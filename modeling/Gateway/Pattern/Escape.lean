import Gateway.Pattern.Class
import Gateway.Pattern.Part

/-! # Escapes in patterns -/
namespace Gateway.Pattern
open Text

def isMeta (c : Char) : Bool :=
  ['\\', '.', '+', '*', '?', '(', ')', '|', '[', ']', '{', '}', '^', '$', '#', '&', '-', '~'].contains c

/-- Any ASCII character but letters, digits and angle brackets stands for itself after a backslash. -/
def isEscapable (c : Char) : Bool :=
  isMeta c || (c.toNat < 128 && !c.isAlphanum && c != '<' && c != '>')

/-- What stands for one character or for a place between characters. -/
inductive Atom
  | literal (c : Char)
  | named (t : Test)
  | look (t : Option Char → Option Char → Bool)

def charOf? (n : Nat) : Option Char :=
  if n < 0xD800 || (0xE000 ≤ n && n < 0x110000) then some (Char.ofNat n) else none

/-- A character given as a byte must be ASCII where Unicode is off. -/
def byteLiteral (f : Flags) (isByte : Bool) (c : Char) : Option Atom :=
  if !f.unicode && isByte && c.toNat > 127 then none else some (.literal c)

def hexDigitsOf (f : Flags) : Nat → List Char → Option (List Char × List Char)
  | 0, cs => some ([], cs)
  | n + 1, cs =>
    match cs with
    | c :: cs =>
      if isHexDigit c then (hexDigitsOf f n (skip f cs)).map fun (ds, rest) => (c :: ds, rest)
      else none
    | [] => none

/-- Reads up to a closing brace; blanks and comments are left out of verbose patterns. -/
def braced (f : Flags) : Bool → List Char → Option (List Char × List Char)
  | _, [] => none
  | true, c :: cs => braced f (c != '\n') cs
  | false, c :: cs =>
    if f.verbose && isBlank c then braced f false cs
    else if f.verbose && c == '#' then braced f true cs
    else if c == '}' then some ([], cs)
    else (braced f false cs).map fun (ds, rest) => (c :: ds, rest)

def readHex (f : Flags) (width : Nat) (cs : List Char) : Option (Atom × List Char) :=
  match skip f cs with
  | '{' :: cs => do
    let (ds, rest) ← braced f false cs
    if ds.isEmpty || !ds.all isHexDigit then none
    let c ← charOf? (hexadecimal ds)
    return (.literal c, skip f rest)
  | cs => do
    let (ds, rest) ← hexDigitsOf f width cs
    let c ← charOf? (hexadecimal ds)
    return (← byteLiteral f (width == 2) c, rest)

def cutPair : List Char → Option (List Char × List Char)
  | '!' :: '=' :: rest => some ([], rest)
  | c :: cs => (cutPair cs).map fun (a, b) => (c :: a, b)
  | [] => none

/-- A class by its name, or by a property and its value; the sign between them does not matter. -/
def propertyClass? (name : List Char) : Option Test :=
  match cutPair name with
  | some (p, v) => valued? p v
  | none => match cutChars ':' name with
    | (p, some v) => valued? p v
    | (_, none) => match cutChars '=' name with
      | (p, some v) => valued? p v
      | (_, none) => named? name

def readProperty (f : Flags) (negated : Bool) (cs : List Char) : Option (Atom × List Char) := do
  let (name, rest) ← match skip f cs with
    | '{' :: cs => braced f false cs
    | '\\' :: _ => none
    | c :: cs => some ([c], skip f cs)
    | [] => none
  if !f.unicode then none
  let t ← propertyClass? name
  return (.named (negate negated (if f.caseless then folded t else t)), rest)

/-- Without Unicode a class may hold ASCII characters only. -/
def perlClass (f : Flags) (negated : Bool) (wide narrow : Test) : Option Atom :=
  if f.unicode then some (.named (negate negated wide))
  else if negated then none
  else some (.named narrow)

def wordTest (f : Flags) : Test := if f.unicode then isWord else isAsciiWord

def isWordOn (f : Flags) (c : Option Char) : Bool := (c.map (wordTest f)).getD false

def boundary (f : Flags) (before after : Option Char) : Bool := isWordOn f before != isWordOn f after

def wordStart (f : Flags) (before after : Option Char) : Bool := !isWordOn f before && isWordOn f after

def wordEnd (f : Flags) (before after : Option Char) : Bool := isWordOn f before && !isWordOn f after

def isBoundaryLetter (c : Char) : Bool := c.isAlpha || c == '-'

def boundaryLetters (f : Flags) : List Char → List Char × List Char
  | [] => ([], [])
  | c :: cs =>
    if isBoundaryLetter c then let (a, b) := boundaryLetters f cs; (c :: a, b)
    else if f.verbose && isBlank c then boundaryLetters f cs
    else ([], c :: cs)

/-- A word boundary may be followed by its kind in braces; braces that hold no letters are left for
a repetition. -/
def readBoundary (f : Flags) (cs : List Char) : Option (Atom × List Char) :=
  match cs with
  | '{' :: inner =>
    match skip f inner with
    | [] => none
    | c :: _ =>
      if !isBoundaryLetter c then some (.look (boundary f), cs)
      else
        match boundaryLetters f (skip f inner) with
        | (name, '}' :: rest) =>
          match String.ofList name with
          | "start" => some (.look (wordStart f), rest)
          | "end" => some (.look (wordEnd f), rest)
          | "start-half" => some (.look fun before _ => !isWordOn f before, rest)
          | "end-half" => some (.look fun _ after => !isWordOn f after, rest)
          | _ => none
        | _ => none
  | cs => some (.look (boundary f), cs)

/-- What follows a backslash. -/
def readEscape (f : Flags) (cs : List Char) : Option (Atom × List Char) :=
  match cs with
  | [] => none
  | c :: rest =>
    match c with
    | 'x' => readHex f 2 rest
    | 'u' => readHex f 4 rest
    | 'U' => readHex f 8 rest
    | 'p' => readProperty f false rest
    | 'P' => readProperty f true rest
    | 'd' => (perlClass f false isDecimal isDigit).map (·, rest)
    | 'D' => (perlClass f true isDecimal isDigit).map (·, rest)
    | 's' => (perlClass f false isBlank isAsciiSpace).map (·, rest)
    | 'S' => (perlClass f true isBlank isAsciiSpace).map (·, rest)
    | 'w' => (perlClass f false isWord isAsciiWord).map (·, rest)
    | 'W' => (perlClass f true isWord isAsciiWord).map (·, rest)
    | 'a' => some (.literal '\x07', rest)
    | 'f' => some (.literal '\x0c', rest)
    | 't' => some (.literal '\t', rest)
    | 'n' => some (.literal '\n', rest)
    | 'r' => some (.literal '\r', rest)
    | 'v' => some (.literal '\x0b', rest)
    | 'A' => some (.look fun before _ => before.isNone, rest)
    | 'z' => some (.look fun _ after => after.isNone, rest)
    | 'b' => readBoundary f rest
    | 'B' => some (.look fun before after => !boundary f before after, rest)
    | '<' => some (.look (wordStart f), rest)
    | '>' => some (.look (wordEnd f), rest)
    | c => if isEscapable c then some (.literal c, rest) else none

end Gateway.Pattern
