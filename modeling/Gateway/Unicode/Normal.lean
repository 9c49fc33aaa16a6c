import Gateway.Unicode.Ranges
import Gateway.Unicode.NormalRuns

/-! # Composed normal form -/
namespace Gateway.Unicode.Normal

structure Pair where
  whole : Nat
  first : Nat
  second : Nat
  deriving Repr

def pairsFrom : Nat → List Nat → List Pair
  | last, gap :: a :: b :: rest => ⟨last + gap, a, b⟩ :: pairsFrom (last + gap) rest
  | _, _ => []

def singlesFrom : Nat → List Nat → List (Nat × Nat)
  | last, gap :: a :: rest => (last + gap, a) :: singlesFrom (last + gap) rest
  | _, _ => []

def classesFrom : Nat → List Nat → List (Range × Nat)
  | start, gap :: more :: k :: rest =>
    (⟨start + gap, start + gap + more⟩, k) :: classesFrom (start + gap + more + 1) rest
  | _, _ => []

def pairs : List Pair := pairsFrom 0 (numbers pairDecompositions)

def singles : List (Nat × Nat) := singlesFrom 0 (numbers singleDecompositions)

def exclusions : List Nat := numbers compositionExclusions

def composed : List Pair := pairs.filter fun p => !exclusions.contains p.whole

def classes : List (Range × Nat) := classesFrom 0 (numbers combiningClasses)

/-- The combining class, zero for a character that starts a new unit. -/
def combiningClass (n : Nat) : Nat :=
  match classes.find? (fun r => r.1.first ≤ n && n ≤ r.1.last) with
  | some r => r.2
  | none => 0

def syllableBase : Nat := 0xAC00
def leadBase : Nat := 0x1100
def vowelBase : Nat := 0x1161
def tailBase : Nat := 0x11A7

def isSyllable (n : Nat) : Bool := syllableBase ≤ n && n < syllableBase + 11172

def syllableParts (n : Nat) : List Nat :=
  let k := n - syllableBase
  let parts := [leadBase + k / 588, vowelBase + k % 588 / 28]
  if k % 28 = 0 then parts else parts ++ [tailBase + k % 28]

/-- `fuel` bounds how often a part is taken apart again. -/
def decompose : Nat → Nat → List Nat
  | 0, n => [n]
  | fuel + 1, n =>
    if n < 0xC0 then [n]
    else if isSyllable n then syllableParts n
    else match singles.find? (·.1 == n) with
      | some (_, a) => decompose fuel a
      | none => match pairs.find? (·.whole == n) with
        | some p => decompose fuel p.first ++ decompose fuel p.second
        | none => [n]

/-- Sorts each run of marks by combining class; `marks` holds the run that is being read. -/
def order (marks : List (Nat × Nat)) : List Nat → List Nat
  | [] => sorted marks
  | n :: ns =>
    let k := combiningClass n
    if k = 0 then sorted marks ++ n :: order [] ns else order (marks ++ [(n, k)]) ns
where
  sorted (marks : List (Nat × Nat)) : List Nat :=
    (marks.mergeSort fun a b => a.2 ≤ b.2).map (·.1)

def compose? (a b : Nat) : Option Nat :=
  if leadBase ≤ a && a < leadBase + 19 && vowelBase ≤ b && b < vowelBase + 21 then
    some (syllableBase + ((a - leadBase) * 21 + (b - vowelBase)) * 28)
  else if isSyllable a && (a - syllableBase) % 28 = 0 && tailBase < b && b < tailBase + 28 then
    some (a + (b - tailBase))
  else (composed.find? fun p => p.first == a && p.second == b).map (·.whole)

/-- Puts marks back on the last starter; `between` are the marks that could not be put on it and
`last` is the class of the last of them. -/
def recompose (starter : Option Nat) (between : List Nat) (last : Nat) : List Nat → List Nat
  | [] => starter.toList ++ between
  | n :: ns =>
    let k := combiningClass n
    let free := between.isEmpty || last < k
    match starter.bind fun s => if free then compose? s n else none with
    | some s => recompose (some s) between last ns
    | none =>
      if k = 0 then starter.toList ++ between ++ recompose (some n) [] 0 ns
      else recompose starter (between ++ [n]) k ns

def compose (cs : List Char) : List Char :=
  (recompose none [] 0 (order [] (cs.flatMap fun c => decompose 8 c.toNat))).map Char.ofNat

end Gateway.Unicode.Normal
