import Gateway.Setting

/-! # Tables of a TOML text while it is read -/
namespace Gateway.Toml

/-- What a name in a table stands for while the text is read. -/
inductive Entry
  /-- A value, which nothing can be added to. -/
  | value (x : Setting)
  /-- A table that only leads to another one. -/
  | implied (entries : List (String × Entry))
  /-- A table under its own heading. -/
  | headed (entries : List (String × Entry))
  /-- A table made by dotted names. -/
  | dotted (entries : List (String × Entry))
  /-- Tables under repeated headings, last one first. -/
  | several (last : List (String × Entry)) (before : List (List (String × Entry)))
  deriving Inhabited

abbrev Entries := List (String × Entry)

mutual
def Entry.setting : Entry → Setting
  | .value x => x
  | .implied es => .table (settings es)
  | .headed es => .table (settings es)
  | .dotted es => .table (settings es)
  | .several last before => .list ((.table (settings last) :: tables before).reverse)

def settings : List (String × Entry) → List (String × Setting)
  | [] => []
  | (k, e) :: es => (k, e.setting) :: settings es

def tables : List (List (String × Entry)) → List Setting
  | [] => []
  | es :: more => .table (settings es) :: tables more
end

/-- Changes the table that the names of a heading lead to. -/
def under (f : Entries → Option Entries) : List String → Entries → Option Entries
  | [], es => f es
  | k :: ks, es => do
    let e ← match Assoc.get? k es with
      | none => (under f ks []).map Entry.implied
      | some (.implied inner) => (under f ks inner).map Entry.implied
      | some (.headed inner) => (under f ks inner).map Entry.headed
      | some (.dotted inner) => (under f ks inner).map Entry.dotted
      | some (.several last before) => (under f ks last).map fun l => Entry.several l before
      | some (.value _) => none
    return Assoc.set k e es

/-- Starts a table, which must not have been started before. -/
def startTable (k : String) (es : Entries) : Option Entries :=
  match Assoc.get? k es with
  | none => some (Assoc.set k (.headed []) es)
  | some (.implied inner) => some (Assoc.set k (.headed inner) es)
  | _ => none

/-- Adds a table to the ones of a repeated heading. -/
def addTable (k : String) (es : Entries) : Option Entries :=
  match Assoc.get? k es with
  | none => some (Assoc.set k (.several [] []) es)
  | some (.several last before) => some (Assoc.set k (.several [] (last :: before)) es)
  | _ => none

/-- Gives a dotted name a value. -/
def assign (x : Setting) : List String → Entries → Option Entries
  | [], _ => none
  | [k], es => if (Assoc.get? k es).isSome then none else some (Assoc.set k (.value x) es)
  | k :: ks, es => do
    let inner ← match Assoc.get? k es with
      | none => some []
      | some (.implied inner) => some inner
      | some (.dotted inner) => some inner
      | _ => none
    return Assoc.set k (.dotted (← assign x ks inner)) es

end Gateway.Toml
