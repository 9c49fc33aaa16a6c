import Gateway.Setting
import Gateway.Yaml

/-! # Settings out of YAML -/
namespace Gateway.Setting
open Text

def basedOf? (base : Nat) (ds : List Char) : Option Int :=
  let (negative, ds) := match ds with
    | '-' :: ds => (true, ds)
    | '+' :: ds => (false, ds)
    | ds => (false, ds)
  ((digits? base ds).map fun n => if negative then -(n : Int) else n).filter Word.isSigned

/-- Whole numbers of a YAML text: hexadecimal, octal and decimal ones. -/
def yamlInt? (s : String) : Option Int :=
  match s.toList with
  | '0' :: 'x' :: ds => basedOf? 16 ds
  | '0' :: 'o' :: ds => basedOf? 8 ds
  | _ => wholeOf? s

/-- Real numbers of a YAML text have a digit in them. -/
def yamlReal? (s : String) : Option Float :=
  if s.toList.any isDigit then Double.read? s else none

def ofPlainScalar (s : String) : Setting :=
  if s.isEmpty || s == "~" || s == "null" then absent
  else if s == "true" then flag true
  else if s == "false" then flag false
  else match yamlInt? s, yamlReal? s with
    | some n, _ => int n
    | none, some x => real x
    | none, none => text s

/-- A scalar with one of the standard tags is of that kind. -/
def ofTagged (tag s : String) : Setting :=
  if tag == Yaml.tagBase ++ "bool" then
    if s == "true" then flag true else if s == "false" then flag false else absent
  else if tag == Yaml.tagBase ++ "int" then ((wholeOf? s).map int).getD absent
  else if tag == Yaml.tagBase ++ "float" then ((yamlReal? s).map real).getD absent
  else if tag == Yaml.tagBase ++ "null" then absent
  else text s

/-- The name that a key of a YAML map gives, if it is a scalar that is not absent. -/
def keyName? : Yaml → Option String
  | .scalar .plain none s =>
    match ofPlainScalar s with
    | absent => none
    | int n => some (toString n)
    | _ => some s
  | .scalar _ _ s => some s
  | _ => none

mutual
/-- The setting that a YAML node gives. Keys are scalars, each given once. -/
def ofYaml? : Yaml → Option Setting
  | .scalar .plain none s => some (ofPlainScalar s)
  | .scalar .plain (some tag) s => some (ofTagged tag s)
  | .scalar _ _ s => some (.text s)
  | .list xs => (ofYamlItems xs).map .list
  | .map entries => (ofYamlEntries [] entries).map .table
  | .void => some .absent

def ofYamlItems : List Yaml → Option (List Setting)
  | [] => some []
  | x :: xs => do
    let y ← ofYaml? x
    return y :: (← ofYamlItems xs)

def ofYamlEntries (seen : List (String × Setting)) :
    List (Yaml × Yaml) → Option (List (String × Setting))
  | [] => some seen
  | (k, x) :: entries => do
    let k ← keyName? k
    if (Assoc.get? k seen).isSome then none
    let y ← ofYaml? x
    ofYamlEntries (Assoc.set k y seen) entries
end

end Gateway.Setting
