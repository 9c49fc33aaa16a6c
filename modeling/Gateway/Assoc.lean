/-! # Finite maps from texts, as lists of pairs with a name at most once -/
namespace Gateway

abbrev Assoc (α : Type) := List (String × α)

namespace Assoc
variable {α : Type}

def get? (k : String) : Assoc α → Option α
  | [] => none
  | (j, a) :: m => if j = k then some a else get? k m

/-- Gives a name a value, at its place if it has one and at the end otherwise. -/
def set (k : String) (a : α) : Assoc α → Assoc α
  | [] => [(k, a)]
  | (j, b) :: m => if j = k then (j, a) :: m else (j, b) :: set k a m

def values (m : Assoc α) : List α := m.map (·.2)

def keys (m : Assoc α) : List String := m.map (·.1)

theorem get?_set_self (k : String) (a : α) (m : Assoc α) : get? k (set k a m) = some a := by
  induction m with
  | nil => simp [set, get?]
  | cons p m ih => by_cases h : p.1 = k <;> simp [set, get?, h, ih]

theorem get?_set_of_ne {j k : String} (a : α) (m : Assoc α) (h : k ≠ j) :
    get? j (set k a m) = get? j m := by
  induction m with
  | nil => simp [set, get?, h]
  | cons p m ih =>
    by_cases hp : p.1 = k
    · simp [set, get?, hp, h]
    · simp [set, get?, hp, ih]

end Assoc
end Gateway
