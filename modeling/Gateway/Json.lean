/-! # JSON values, and the whole numbers of 64 bits -/
namespace Gateway

namespace Word

/-- Whether a number fits without a sign. -/
def isUnsigned (n : Nat) : Bool := n < 0x10000000000000000

/-- Whether a number fits with a sign. -/
def isSigned (n : Int) : Bool := -0x8000000000000000 ≤ n && n < 0x8000000000000000

/-- What is left of a number in 64 bits with a sign. -/
def wrap (n : Int) : Int := n.bmod 0x10000000000000000

/-- A number that fits is left as it is. -/
theorem wrap_of_isSigned {n : Int} (h : isSigned n = true) : wrap n = n := by
  rw [isSigned, Bool.and_eq_true, decide_eq_true_eq, decide_eq_true_eq] at h
  exact Int.bmod_eq_of_le h.1 h.2

end Word

/-- Whole numbers of up to 64 bits are `int`; any other number keeps its literal. A record keeps
its fields in their order, a name that is given twice included. What is well-formed but stands for
no value, such as a number beyond double precision or half a surrogate pair, is `void`. -/
inductive Json
  | null
  | bool (value : Bool)
  | int (value : Int)
  | real (literal : String)
  | text (value : String)
  | list (items : List Json)
  | record (fields : List (String × Json))
  | void
  deriving Inhabited, BEq, Repr

namespace Json

def ofNat (n : Nat) : Json := .int n

def ofOption {α : Type} (f : α → Json) : Option α → Json
  | none => .null
  | some a => f a

def ofTexts (xs : List String) : Json := .list (xs.map .text)

/-- The value of a field; of a name given twice, the last one. -/
def get? (name : String) : Json → Option Json
  | .record fields => (fields.reverse.find? (·.1 == name)).map (·.2)
  | _ => none

/-- A field that is missing counts as null. -/
def field (name : String) (j : Json) : Json := (j.get? name).getD .null

def text? : Json → Option String
  | .text s => some s
  | _ => none

def int? : Json → Option Int
  | .int n => some n
  | _ => none

def nat? : Json → Option Nat
  | .int (.ofNat n) => some n
  | _ => none

def bool? : Json → Option Bool
  | .bool b => some b
  | _ => none

def items? : Json → Option (List Json)
  | .list xs => some xs
  | _ => none

def isNull : Json → Bool
  | .null => true
  | _ => false

mutual
/-- Whether the brackets nest at most so deep and nothing inside is void. -/
def isSound : Nat → Json → Bool
  | _, .void => false
  | 0, .list _ => false
  | 0, .record _ => false
  | depth + 1, .list xs => areSound depth xs
  | depth + 1, .record fields => areSoundFields depth fields
  | _, _ => true

def areSound : Nat → List Json → Bool
  | _, [] => true
  | depth, x :: xs => isSound depth x && areSound depth xs

def areSoundFields : Nat → List (String × Json) → Bool
  | _, [] => true
  | depth, (_, x) :: fields => isSound depth x && areSoundFields depth fields
end

end Json
end Gateway
