import Gateway.Text

/-! # Reading the tables of code points -/
namespace Gateway.Unicode
open Text

/-- The words between the blanks of a table's lines. -/
def words (table : List String) : List (List Char) :=
  table.flatMap fun line => (splitChars ' ' line.toList).filter (!·.isEmpty)

/-- The numbers in base sixteen of a table. -/
def numbers (table : List String) : List Nat := (words table).map hexadecimal

structure Range where
  first : Nat
  last : Nat
  deriving Repr

/-- Ranges from a code point on, each given by the gap before it and its length less one. -/
def rangesFrom : Nat → List Nat → List Range
  | start, gap :: more :: rest =>
    ⟨start + gap, start + gap + more⟩ :: rangesFrom (start + gap + more + 1) rest
  | _, _ => []

def ranges (table : List String) : List Range := rangesFrom 0 (numbers table)

/-- Whether ascending ranges hold a code point. -/
def covered : List Range → Nat → Bool
  | [], _ => false
  | r :: rs, n => if n < r.first then false else n ≤ r.last || covered rs n

/-- A run of code points with a step between them, and what the first one goes to. -/
structure Run where
  first : Nat
  length : Nat
  step : Nat
  target : Nat
  deriving Repr

def runsOf : List Nat → List Run
  | a :: n :: k :: t :: rest => ⟨a, n, k, t⟩ :: runsOf rest
  | _ => []

def runs (table : List String) : List Run := runsOf (numbers table)

def Run.image? (r : Run) (n : Nat) : Option Nat :=
  if r.first ≤ n && n ≤ r.first + (r.length - 1) * r.step && (n - r.first) % r.step == 0 then
    some (r.target + (n - r.first))
  else none

/-- The code points that a run takes to `n`. -/
def Run.source? (r : Run) (n : Nat) : Option Nat :=
  if r.target ≤ n && n ≤ r.target + (r.length - 1) * r.step && (n - r.target) % r.step == 0 then
    some (r.first + (n - r.target))
  else none

/-- Lengths of runs, each followed by a code of `width` letters. -/
def codedRuns (width : Nat) : Nat → List Char → List Char → List (Nat × String)
  | _, _, [] => []
  | n, code, c :: cs =>
    if code.isEmpty && !c.isUpper then codedRuns width (n * 16 + (hexValue? c).getD 0) [] cs
    else if (code ++ [c]).length = width then
      (n, String.ofList (code ++ [c])) :: codedRuns width 0 [] cs
    else codedRuns width n (code ++ [c]) cs

/-- The code of the run that the code point falls into. -/
def codeAt {α : Type} : List (Nat × α) → Nat → Option α
  | [], _ => none
  | (length, code) :: rest, n => if n < length then some code else codeAt rest (n - length)

end Gateway.Unicode
