import Gateway.Idna.Direction
import Gateway.Idna.MappingRuns
import Gateway.Idna.Punycode
import Gateway.Unicode.Category
import Gateway.Unicode.Normal
import Gateway.Unicode.Ranges

/-! # International domain names in their ASCII form -/
namespace Gateway.Idna
open Text Unicode

/-! ## Spelling characters as domain names do -/

def valids : List Range := ranges validRanges

def ignoreds : List Range := ranges ignoredRanges

def shifts : List Run := runs shiftedRuns

/-- A distance, a colon and the spelling between commas. -/
def readSpelling (cs : List Char) : Nat × List Char :=
  match cutChars ':' cs with
  | (gap, some spelled) =>
    (hexadecimal gap, ((splitChars ',' spelled).filter (!·.isEmpty)).map fun ds =>
      Char.ofNat (hexadecimal ds))
  | (gap, none) => (hexadecimal gap, [])

def placed : Nat → List (Nat × List Char) → List (Nat × List Char)
  | _, [] => []
  | last, (gap, s) :: rest => (last + gap, s) :: placed (last + gap) rest

def spelled : List (Nat × List Char) :=
  placed 0 ((words spellings).map readSpelling)

def isValid (c : Char) : Bool := covered valids c.toNat

/-- What a domain name writes for a character; nothing for one that it may not hold. -/
def spell? (c : Char) : Option (List Char) :=
  if c.toNat < 128 then some [c.toLower]
  else if isValid c then some [c]
  else if covered ignoreds c.toNat then some []
  else match shifts.findSome? (·.image? c.toNat) with
    | some n => some [Char.ofNat n]
    | none => (spelled.find? (·.1 == c.toNat)).map (·.2)

/-! ## Names -/

/-- The ASCII characters that no host name may hold. -/
def isForbidden (c : Char) : Bool :=
  c.toNat ≤ 0x20 || c.toNat = 0x7F ||
    ['#', '%', '/', ':', '<', '>', '?', '@', '[', '\\', ']', '^', '|'].contains c

def isVirama (c : Char) : Bool := Normal.combiningClass c.toNat == 9

/-- Joiners stand after a virama; the non-joiner also between letters that would join. `before` is
what comes before, last character first. -/
def joinersRule (before : List Char) : List Char → Bool
  | [] => true
  | c :: cs =>
    let ok :=
      if c.toNat = 0x200D then (before.head?.map isVirama).getD false
      else if c.toNat = 0x200C then
        (before.head?.map isVirama).getD false || betweenJoining before cs
      else true
    ok && joinersRule (c :: before) cs

def startsWithMark (label : List Char) : Bool :=
  match label with
  | c :: _ => Category.isMark c
  | [] => false

/-- A label in Unicode is normal, starts with no mark and holds valid characters only. -/
def isValidLabel (label : List Char) : Bool :=
  Normal.compose label == label && !startsWithMark label &&
    label.all (fun c => isValid c && !isForbidden c && !c.isUpper) && joinersRule [] label

def isAscii (cs : List Char) : Bool := cs.all fun c => c.toNat < 128

def asciiMark : List Char := ['x', 'n', '-', '-']

/-- A label in Unicode, its ASCII form decoded. -/
def unicodeLabel? (label : List Char) : Option (List Char) :=
  if asciiMark.isPrefixOf label then
    if !isAscii label then none
    else match Punycode.decode (label.drop 4) with
      | none => none
      | some l => if isAscii l || !isValidLabel l then none else some l
  else if isAscii label then (if label.any isForbidden then none else some label)
  else if isValidLabel label then some label
  else none

def asciiLabel (label : List Char) : List Char :=
  if isAscii label then label else asciiMark ++ Punycode.encode label

/-- The ASCII form of a domain name, if each of its labels has one. -/
def toAscii? (cs : List Char) : Option (List Char) := do
  let spelled ← cs.mapM spell?
  let labels ← (splitChars '.' (Normal.compose spelled.flatten)).mapM unicodeLabel?
  if labels.any isRightToLeft && !labels.all directionRule then none
  return ['.'].intercalate (labels.map asciiLabel)

end Gateway.Idna
