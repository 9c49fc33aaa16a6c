import Gateway.Assoc
import Gateway.Double
import Gateway.Record

/-! # Settings: the values that configuration files and the environment give -/
namespace Gateway

inductive Setting
  | absent
  | flag (value : Bool)
  | int (value : Int)
  | real (value : Float)
  | text (value : String)
  | list (items : List Setting)
  | table (entries : List (String × Setting))
  deriving Inhabited

namespace Setting
open Text

def entriesOr (entries : List (String × Setting)) : Setting → List (String × Setting)
  | table es => es
  | _ => entries

def text? : Setting → Option String
  | flag b => some (if b then "true" else "false")
  | int n => some (toString n)
  | real x => some (Double.render x)
  | text s => some s
  | _ => none

def flag? : Setting → Option Bool
  | flag b => some b
  | int n => some (n ≠ 0)
  | real x => some (x != 0)
  | text s =>
    let word := lowerAscii s
    if ["1", "true", "on", "yes"].contains word then some true
    else if ["0", "false", "off", "no"].contains word then some false
    else none
  | _ => none

/-- Decimal digits, with or without a plus sign. -/
def naturalOf? (s : String) : Option Nat :=
  let ds := match s.toList with
    | '+' :: ds => ds
    | ds => ds
  if ds.isEmpty || !ds.all isDigit then none else some (decimal ds)

/-- A number that is asked for where a text, a flag or a number with a fraction is given. -/
def count? : Setting → Option Int
  | flag b => some (if b then 1 else 0)
  | int n => some n
  | real x => some x.round.toUInt64.toNat
  | text s =>
    let word := lowerAscii s
    if ["true", "on", "yes"].contains word then some 1
    else if ["false", "off", "no"].contains word then some 0
    else (naturalOf? s).map Int.ofNat
  | _ => none

mutual
def plain : Setting → Json
  | absent => .null
  | flag b => .bool b
  | int n => .int n
  | real x => .real (Double.render x)
  | text s => .text s
  | list xs => .list (plainItems xs)
  | table es => .record (plainEntries es)

def plainItems : List Setting → List Json
  | [] => []
  | x :: xs => x.plain :: plainItems xs

def plainEntries : List (String × Setting) → List (String × Json)
  | [] => []
  | (k, x) :: es => (k, x.plain) :: plainEntries es
end

/-- Flags and numbers can be read as text, and texts as flags and numbers. -/
instance : Source Setting where
  text? := text?
  flag? := flag?
  int? := count?
  isAbsent
    | absent => true
    | _ => false
  items?
    | list xs => some xs
    | _ => none
  fields?
    | table es => some es
    | _ => none
  plain := plain
  surplus := true

/-- A whole number of 64 bits, with or without a sign in front. -/
def wholeOf? (s : String) : Option Int :=
  let value := match s.toList with
    | '-' :: ds => (naturalOf? (String.ofList ('+' :: ds))).map fun n => -(n : Int)
    | _ => (naturalOf? s).map Int.ofNat
  value.filter Word.isSigned

/-- A text without a type of its own is a flag or a number if it looks like one. -/
def ofText (s : String) : Setting :=
  let word := lowerAscii s
  if word == "true" then flag true
  else if word == "false" then flag false
  else match wholeOf? s, Double.read? s with
    | some n, _ => int n
    | none, some x => real x
    | none, none => text s

mutual
/-- Puts a setting in the place of another one. Tables are merged entry by entry. -/
def merge (current : Setting) : Setting → Setting
  | table es => table (mergeEntries (current.entriesOr []) es)
  | x => x

def mergeEntries (current : List (String × Setting)) :
    List (String × Setting) → List (String × Setting)
  | [] => current
  | (k, x) :: es =>
    mergeEntries (Assoc.set k (merge ((Assoc.get? k current).getD .absent) x) current) es
end

/-- Merges a setting into what a path of names leads to. -/
def mergeAt (x : Setting) : List String → Setting → Setting
  | [], current => merge current x
  | k :: ks, current =>
    let es := current.entriesOr []
    table (Assoc.set k (mergeAt x ks ((Assoc.get? k es).getD .absent)) es)

def isNameChar (c : Char) : Bool := c.isAlphanum || c == '_' || c == '-'

/-- The names in a dotted path; what is not one is a single name. -/
def pathOf (s : String) : List String :=
  let names := split '.' s
  if names.all fun n => !n.isEmpty && n.toList.all isNameChar then names else [s]

/-- Merges named settings into a table. A name may be a dotted path. -/
def overlay (entries : List (String × Setting)) (current : Setting) : Setting :=
  entries.foldl (fun current (k, x) => mergeAt x (pathOf k) current) current

mutual
/-- The setting that a JSON value gives. Numbers beyond 63 bits count as real, and of fields of one
name the last one stays. -/
def ofJson : Json → Setting
  | .null => .absent
  | .void => .absent
  | .bool b => .flag b
  | .int n => if Word.isSigned n then .int n else .real (Float.ofInt n)
  | .real literal => .real ((Double.read? literal).getD 0)
  | .text s => .text s
  | .list xs => .list (ofJsonItems xs)
  | .record fields => .table (ofJsonFields [] fields)

def ofJsonItems : List Json → List Setting
  | [] => []
  | x :: xs => ofJson x :: ofJsonItems xs

def ofJsonFields (seen : List (String × Setting)) :
    List (String × Json) → List (String × Setting)
  | [] => seen
  | (k, x) :: fields => ofJsonFields (Assoc.set k (ofJson x) seen) fields
end

end Setting
end Gateway
