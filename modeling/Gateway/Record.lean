import Gateway.Json

/-! # Decoding records from values of any format -/
namespace Gateway

/-- How a format shows its values to a decoder. Each reading is none where the value cannot stand
for what is asked. -/
class Source (ν : Type) where
  text? : ν → Option String
  flag? : ν → Option Bool
  int? : ν → Option Int
  isAbsent : ν → Bool
  items? : ν → Option (List ν)
  fields? : ν → Option (List (String × ν))
  /-- The value taken for what it is by itself, when it is not yet known what is asked. -/
  plain : ν → Json
  /-- Whether a list that stands for a record may be longer than the record. -/
  surplus : Bool

instance : Source Json where
  text? := Json.text?
  flag? := Json.bool?
  int? := Json.int?
  isAbsent := Json.isNull
  items? := Json.items?
  fields?
    | .record fields => some fields
    | _ => none
  plain := id
  surplus := false

namespace Record

/-- A field's name and the other names it goes by. -/
structure Slot where
  name : String
  others : List String
  deriving Repr

def Slot.admits (s : Slot) (name : String) : Bool := name == s.name || s.others.contains name

/-- Slots without other names. -/
def slotsOf (names : List String) : List Slot := names.map fun n => ⟨n, []⟩

variable {ν : Type} [Source ν]

/-- The values that a record's fields have, by the fields' own names. -/
abbrev Opened (ν : Type) := List (String × ν)

def positional : List Slot → List ν → Opened ν
  | s :: ss, x :: xs => (s.name, x) :: positional ss xs
  | _, _ => []

/-- The values given under any of a slot's names. -/
def given (fields : List (String × ν)) (s : Slot) : List ν :=
  (fields.filter fun f => s.admits f.1).map (·.2)

def named (fields : List (String × ν)) : List Slot → Option (Opened ν)
  | [] => some []
  | s :: ss => do
    let rest ← named fields ss
    match given fields s with
    | [] => return rest
    | [x] => return (s.name, x) :: rest
    | _ => none

/-- A list read in the order of the slots. -/
def listed (surplus : Bool) (slots : List Slot) (xs : List ν) : Option (Opened ν) :=
  if xs.length > slots.length && !surplus then none else some (positional slots xs)

/-- Reads a value as a record: its fields by name, each given once and under one of its names, or
its fields in order as a list. Fields without a slot are passed over. -/
def collect? (slots : List Slot) (x : ν) : Option (Opened ν) :=
  match Source.fields? x with
  | some fields => named fields slots
  | none => (Source.items? x).bind (listed (Source.surplus ν) slots)

/-- Reads a record whose fields may be missing by name, but not from a list. -/
def collectWhole? (slots : List Slot) (x : ν) : Option (Opened ν) :=
  match Source.items? x with
  | some xs => if xs.length < slots.length then none else collect? slots x
  | none => collect? slots x

/-- A record that says by a tag of which kind it is. Its other fields are read plainly. -/
structure Tagged where
  tag : String
  fields : List (String × Json) ⊕ List Json

/-- Finds the tag among the fields, where it must be given once, or at the head of a list. -/
def tagged? (tag : String) (x : ν) : Option Tagged :=
  match Source.fields? x with
  | some fields =>
    match fields.filter (·.1 == tag) with
    | [(_, t)] => do
      let t ← Source.text? t
      let others := fields.filter (·.1 != tag)
      return ⟨t, .inl (others.map fun f => (f.1, Source.plain f.2))⟩
    | _ => none
  | none =>
    match Source.items? x with
    | some (t :: xs) => (Source.text? t).map fun t => ⟨t, .inr (xs.map Source.plain)⟩
    | _ => none

def Tagged.collect? (slots : List Slot) (t : Tagged) : Option (Opened Json) :=
  match t.fields with
  | .inl fields => named fields slots
  | .inr xs => listed false slots xs

def Opened.value? (r : Opened ν) (name : String) : Option ν := (r.find? (·.1 == name)).map (·.2)

/-- The field's value, decoded. -/
def Opened.required {α : Type} (r : Opened ν) (name : String) (f : ν → Option α) : Option α :=
  (r.value? name).bind f

/-- The field's value, or a default where the field is missing. -/
def Opened.withDefault {α : Type} (r : Opened ν) (name : String) (a : α) (f : ν → Option α) :
    Option α :=
  match r.value? name with
  | some x => f x
  | none => some a

/-- A field that may be missing or absent. -/
def Opened.optional {α : Type} (r : Opened ν) (name : String) (f : ν → Option α) :
    Option (Option α) :=
  match r.value? name with
  | some x => if Source.isAbsent x then some none else (f x).map some
  | none => some none

/-- One of some names, by itself or as the name of a field without a value. -/
def choice? (names : List String) (x : ν) : Option String :=
  match Source.text? x, Source.fields? x with
  | some name, _ => if names.contains name then some name else none
  | none, some [(name, unit)] =>
    if names.contains name && Source.isAbsent unit then some name else none
  | _, _ => none

def listOf {α : Type} (f : ν → Option α) (x : ν) : Option (List α) :=
  (Source.items? x).bind (·.mapM f)

/-- Whole numbers of 64 bits with a sign. -/
def signed64? (x : ν) : Option Int :=
  (Source.int? x).filter Word.isSigned

/-- Whole numbers of 64 bits without a sign. -/
def unsigned64? (x : ν) : Option Nat :=
  match Source.int? x with
  | some (.ofNat n) => if Word.isUnsigned n then some n else none
  | _ => none

end Record
end Gateway
