import Gateway.Text

/-! # Writing any characters with letters, digits and hyphens -/
namespace Gateway.Idna.Punycode
open Text

def digit (d : Nat) : Char := if d < 26 then Char.ofNat (97 + d) else Char.ofNat (22 + d)

def value? (c : Char) : Option Nat :=
  if 'a' ≤ c && c ≤ 'z' then some (c.toNat - 97)
  else if 'A' ≤ c && c ≤ 'Z' then some (c.toNat - 65)
  else if '0' ≤ c && c ≤ '9' then some (c.toNat - 22)
  else none

/-- The digits up to the threshold of a position end a number. -/
def threshold (position bias : Nat) : Nat :=
  if position ≤ bias then 1 else if position ≥ bias + 26 then 26 else position - bias

def shrink (delta steps : Nat) : Nat :=
  if delta > 455 then shrink (delta / 35) (steps + 36) else steps + 36 * delta / (delta + 38)
termination_by delta
decreasing_by omega

/-- The bias that suits the numbers seen so far. -/
def adapt (delta count : Nat) (first : Bool) : Nat :=
  let d := if first then delta / 700 else delta / 2
  shrink (d + d / count) 0

theorem one_le_threshold (position bias : Nat) : 1 ≤ threshold position bias := by
  unfold threshold; split
  · omega
  · split <;> omega

theorem threshold_le (position bias : Nat) : threshold position bias ≤ 26 := by
  unfold threshold; split
  · omega
  · split <;> omega

def numberDigits (bias position n : Nat) : List Char :=
  let t := threshold position bias
  if n < t then [digit n]
  else digit (t + (n - t) % (36 - t)) :: numberDigits bias (position + 36) ((n - t) / (36 - t))
termination_by n
decreasing_by
  have h := one_le_threshold position bias
  exact Nat.lt_of_le_of_lt (Nat.div_le_self _ _) (by omega)

/-- What the encoder knows between two characters. -/
structure Progress where
  delta : Nat
  bias : Nat
  count : Nat
  written : List Char

/-- Passes the character `c` of the input while `n` is the code point to write. -/
def pass (basic n : Nat) (p : Progress) (c : Char) : Progress :=
  if c.toNat < n then { p with delta := p.delta + 1 }
  else if c.toNat = n then
    ⟨0, adapt p.delta (p.count + 1) (p.count = basic), p.count + 1,
      p.written ++ numberDigits p.bias 36 p.delta⟩
  else p

/-- Writes the code points `ns`, ascending, all from `n` on. -/
def encodeFrom (input : List Char) (basic : Nat) : Nat → List Nat → Progress → List Char
  | _, [], p => p.written
  | n, m :: ms, p =>
    let p := { p with delta := p.delta + (m - n) * (p.count + 1) }
    let p := input.foldl (pass basic m) p
    encodeFrom input basic (m + 1) ms { p with delta := p.delta + 1 }

def insertSorted (n : Nat) : List Nat → List Nat
  | [] => [n]
  | m :: ms => if n < m then n :: m :: ms else if n = m then m :: ms else m :: insertSorted n ms

def encode (input : List Char) : List Char :=
  let basic := input.filter fun c => c.toNat < 128
  let others := (input.filter fun c => c.toNat ≥ 128).foldr (fun c => insertSorted c.toNat) []
  (if basic.isEmpty then [] else basic ++ ['-']) ++
    encodeFrom input basic.length 128 others ⟨0, 72, basic.length, []⟩

/-- Reads one number: its value and the rest. -/
def readNumber (bias : Nat) : Nat → Nat → Nat → List Char → Option (Nat × List Char)
  | _, _, _, [] => none
  | position, weight, sum, c :: cs => do
    let d ← value? c
    let sum := sum + d * weight
    let t := threshold position bias
    if d < t then some (sum, cs) else readNumber bias (position + 36) (weight * (36 - t)) sum cs

theorem readNumber_length {bias position weight sum : Nat} {cs rest : List Char} {n : Nat}
    (h : readNumber bias position weight sum cs = some (n, rest)) : rest.length < cs.length := by
  induction cs generalizing position weight sum with
  | nil => simp [readNumber] at h
  | cons c cs ih =>
    simp only [readNumber, Option.bind_eq_bind] at h
    cases hv : value? c with
    | none => simp [hv] at h
    | some d =>
      simp only [hv, Option.bind_some] at h
      split at h
      · simp at h; simp [h.2]
      · have := ih h; simp; omega

/-- Puts the characters that the numbers tell into the text read so far. -/
def decodeFrom (n i bias : Nat) (first : Bool) (seen : List Char) (cs : List Char) :
    Option (List Char) :=
  match cs with
  | [] => some seen
  | c :: cs =>
    match _h : readNumber bias 36 1 0 (c :: cs) with
    | none => none
    | some (delta, rest) =>
      let count := seen.length + 1
      let i := i + delta
      let n := n + i / count
      if n > 0x10FFFF || (0xD800 ≤ n && n < 0xE000) then none
      else
        let at' := i % count
        decodeFrom n (at' + 1) (adapt delta count first) false
          (seen.take at' ++ Char.ofNat n :: seen.drop at') rest
termination_by cs.length
decreasing_by exact readNumber_length _h

/-- The part before the last hyphen stands for itself. -/
def decode (cs : List Char) : Option (List Char) :=
  let tail := (cs.reverse.takeWhile (· != '-')).reverse
  if cs.contains '-' then
    decodeFrom 128 0 72 true (cs.take (cs.length - tail.length - 1)) tail
  else decodeFrom 128 0 72 true [] cs

end Gateway.Idna.Punycode
