import Gateway.Text
import Gateway.Unicode.Category
import Gateway.Unicode.Folding
import Gateway.Unicode.Property
import Gateway.Unicode.Script

/-! # Named classes of characters in patterns -/
namespace Gateway.Pattern
open Text Unicode

abbrev Test := Char → Bool

def negate (negated : Bool) (t : Test) : Test := fun c => t c != negated

/-- The characters that are in the class up to their case. -/
def folded (t : Test) : Test := fun c => (caseVariants c).any t

def asciiFolded (t : Test) : Test := fun c => t c || t c.toLower || t c.toUpper

def isAsciiWord (c : Char) : Bool := c.isAlphanum || c == '_'

def otherWords : Test :=
  let alphabetic := ((Property.named? "alphabetic").map (·.test)).getD fun _ => false
  fun c =>
    let k := Category.of c
    Category.letters.contains k || Category.marks.contains k || k == .nd || k == .pc ||
      alphabetic c || c.toNat = 0x200C || c.toNat = 0x200D

def isWord (c : Char) : Bool := if c.toNat < 128 then isAsciiWord c else otherWords c

def isDecimal (c : Char) : Bool :=
  if c.toNat < 128 then isDigit c else Category.of c == .nd

def isAsciiSpace (c : Char) : Bool := c == ' ' || (9 ≤ c.toNat && c.toNat ≤ 13)

/-- The classes in brackets and colons. -/
def asciiClass? : String → Option Test
  | "alnum" => some Char.isAlphanum
  | "alpha" => some Char.isAlpha
  | "ascii" => some fun c => c.toNat < 128
  | "blank" => some fun c => c == ' ' || c == '\t'
  | "cntrl" => some fun c => c.toNat < 32 || c.toNat = 127
  | "digit" => some isDigit
  | "graph" => some fun c => 33 ≤ c.toNat && c.toNat ≤ 126
  | "lower" => some Char.isLower
  | "print" => some fun c => 32 ≤ c.toNat && c.toNat ≤ 126
  | "punct" => some fun c => 33 ≤ c.toNat && c.toNat ≤ 126 && !c.isAlphanum
  | "space" => some isAsciiSpace
  | "upper" => some Char.isUpper
  | "word" => some isAsciiWord
  | "xdigit" => some isHexDigit
  | _ => none

/-- A name without blanks, hyphens and underscores, in small letters, and without a leading is. -/
def plainName (cs : List Char) : String :=
  let cs := (cs.filter fun c => !(isBlank c || c == '-' || c == '_')).map Char.toLower
  let starts := ['i', 's'].isPrefixOf cs
  let rest := if starts then cs.drop 2 else cs
  String.ofList (if starts && rest == ['c'] then ['i', 's', 'c'] else rest)

def category? (name : String) : Option Test :=
  match name with
  | "any" => some fun _ => true
  | "ascii" => some fun c => c.toNat < 128
  | "assigned" => some fun c => Category.of c != .cn
  | _ => (Category.named? name).map fun ks c => ks.contains (Category.of c)

def script? (name : String) : Option Test :=
  (Script.named? name).map fun code c => Script.codeOf c == some code

def isCased (c : Char) : Bool :=
  let k := Category.of c
  k == .lt || ["lowercase", "uppercase"].any fun p => ((Property.named? p).map (·.test c)).getD false

def property? (name : String) : Option Test :=
  if ["cf", "sc", "lc"].contains name then none
  else if name == "cased" then some isCased
  else (Property.named? name).map (·.test)

/-- The class of a single name: a property, a category or a script. -/
def named? (name : List Char) : Option Test :=
  let name := plainName name
  ((property? name).or (category? name)).or (script? name)

/-- The class of a property with a value. -/
def valued? (property value : List Char) : Option Test :=
  match plainName property with
  | "gc" | "generalcategory" => category? (plainName value)
  | "sc" | "script" | "scx" | "scriptextensions" => script? (plainName value)
  | _ => none

end Gateway.Pattern
