import Gateway.Pattern.Part

/-! # Bounds of repetitions -/
namespace Gateway.Pattern
open Text

def readDigits (f : Flags) : List Char → List Char × List Char
  | [] => ([], [])
  | c :: cs =>
    if isDigit c then let (a, b) := readDigits f cs; (c :: a, b)
    else if f.verbose && isBlank c then readDigits f cs
    else ([], c :: cs)

def wordLimit : Nat := 4294967296

/-- A number with blanks around it, none if there are no digits. -/
def readCount (f : Flags) (cs : List Char) : Option (Option Nat × List Char) :=
  let (ds, rest) := readDigits f (cs.dropWhile isBlank)
  let rest := skip f (rest.dropWhile isBlank)
  if ds.isEmpty then some (none, rest)
  else if decimal ds ≥ wordLimit then none
  else some (some (decimal ds), rest)

/-- The bounds in braces. -/
def readBounds (f : Flags) (cs : List Char) : Option (Nat × Option Nat × List Char) := do
  let (least, rest) ← readCount f (skip f cs)
  let least ← least
  match rest with
  | '}' :: rest => return (least, some least, skip f rest)
  | ',' :: rest =>
    match skip f rest with
    | '}' :: rest => return (least, none, skip f rest)
    | rest =>
      let (most, rest) ← readCount f rest
      let most ← most
      match rest with
      | '}' :: rest => if least ≤ most then return (least, some most, skip f rest) else none
      | _ => none
  | _ => none

/-- A question mark after a repetition only changes which match is preferred. -/
def skipLazy : List Char → List Char
  | '?' :: cs => cs
  | cs => cs

end Gateway.Pattern
