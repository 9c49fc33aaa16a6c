import Gateway.Record
import Gateway.Yaml.Token

/-! # YAML values -/
namespace Gateway

/-- The nodes of a document, with aliases resolved. A scalar has the text it stands for, and the
full tag if it has one. An alias inside of what it stands for is `void`. -/
inductive Yaml
  | scalar (style : Yaml.Style) (tag : Option String) (text : String)
  | list (items : List Yaml)
  | map (entries : List (Yaml × Yaml))
  | void
  deriving Inhabited

namespace Yaml
open Text

def tagBase : String := "tag:yaml.org,2002:"

/-- An empty node. -/
def empty : Yaml := .scalar .plain none ""

/-- Whether nothing is written where the node is. -/
def isBare : Yaml → Bool
  | .scalar .plain _ "" => true
  | _ => false

def isNullWord (s : String) : Bool := ["null", "Null", "NULL", "~"].contains s

/-- Whether a scalar may stand for something else than text: a plain one, or a block with a tag. -/
def isTyped (kind : String) : Yaml → Bool
  | .scalar .plain _ _ => true
  | .scalar .literal (some tag) _ => tag == tagBase ++ kind
  | _ => false

def text? : Yaml → Option String
  | .scalar _ _ s => some s
  | _ => none

def flagWord? (s : String) : Option Bool :=
  if ["true", "True", "TRUE"].contains s then some true
  else if ["false", "False", "FALSE"].contains s then some false
  else none

/-- Digits with a mark for their base in front; decimal ones have none, and no leading zero. -/
def natural? : List Char → Option Nat
  | '0' :: 'x' :: ds => digits? 16 ds
  | '0' :: 'o' :: ds => digits? 8 ds
  | '0' :: 'b' :: ds => digits? 2 ds
  | ['0'] => some 0
  | '0' :: _ => none
  | ds => digits? 10 ds

def wholeNumber? (s : String) : Option Int :=
  match s.toList with
  | '-' :: cs => (natural? cs).map fun n => -(n : Int)
  | '+' :: cs => (natural? cs).map Int.ofNat
  | cs => (natural? cs).map Int.ofNat

def items? : Yaml → Option (List Yaml)
  | .list xs => some xs
  | x => if x.isBare then some [] else none

/-- The fields of a map whose keys are scalars. -/
def fields? : Yaml → Option (List (String × Yaml))
  | .map entries => entries.mapM fun (k, x) => k.text?.map fun k => (k, x)
  | .list _ => none
  | x => if x.isBare then some [] else none

mutual
/-- The value that a node stands for by itself. -/
def plain : Yaml → Json
  | .scalar .plain none s =>
    if s.isEmpty || isNullWord s then .null
    else match flagWord? s, wholeNumber? s with
      | some b, _ => .bool b
      | _, some n => .int n
      | _, _ => .text s
  | .scalar _ _ s => .text s
  | .list xs => .list (plainItems xs)
  | .map entries => .record (plainEntries entries)
  | .void => .void

def plainItems : List Yaml → List Json
  | [] => []
  | x :: xs => x.plain :: plainItems xs

def plainEntries : List (Yaml × Yaml) → List (String × Json)
  | [] => []
  | (k, x) :: entries => ((k.text?).getD "", x.plain) :: plainEntries entries
end

/-- Any scalar can be read as text, whatever else it may look like. -/
instance : Source Yaml where
  text? := text?
  flag? x := if x.isTyped "bool" then x.text?.bind flagWord? else none
  int? x := if x.isTyped "int" then x.text?.bind wholeNumber? else none
  isAbsent
    | .scalar .plain _ s => s.isEmpty || isNullWord s
    | _ => false
  items? := items?
  fields? := fields?
  plain := plain
  surplus := false

end Yaml
end Gateway
