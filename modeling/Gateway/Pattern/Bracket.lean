import Gateway.Pattern.Escape

/-! # Classes of characters in brackets -/
namespace Gateway.Pattern
open Text

def fold (f : Flags) (t : Test) : Test :=
  if !f.caseless then t else if f.unicode then folded t else asciiFolded t

/-- A class that is being read: its test, how deep its brackets nest, and its room. -/
structure ClassPart where
  test : Test
  depth : Nat
  room : Nat

def ClassPart.empty : ClassPart := ⟨fun _ => false, 0, 0⟩

def ClassPart.union (a b : ClassPart) : ClassPart :=
  ⟨fun c => a.test c || b.test c, max a.depth b.depth, a.room + b.room⟩

inductive ClassOp
  | intersection | difference | symmetric

def ClassOp.apply (op : ClassOp) (f : Flags) (a b : ClassPart) : ClassPart :=
  let s := fold f a.test
  let t := fold f b.test
  let test : Test := match op with
    | .intersection => fun c => s c && t c
    | .difference => fun c => s c && !t c
    | .symmetric => fun c => s c != t c
  ⟨test, max a.depth b.depth + 1, a.room + b.room⟩

/-- The operation that waits for its right side. -/
def applyPending (f : Flags) (pending : Option (ClassPart × ClassOp)) (right : ClassPart) : ClassPart :=
  match pending with
  | none => right
  | some (left, op) => op.apply f left right

/-- A class in brackets and colons; anything else that starts so is read as characters. -/
def readAsciiClass (cs : List Char) : Option (Test × List Char) :=
  match cs with
  | ':' :: rest =>
    let (negated, rest) := match rest with
      | '^' :: rest => (true, rest)
      | rest => (false, rest)
    match cutChars ':' rest with
    | (name, some (']' :: rest)) => (asciiClass? (String.ofList name)).map fun t =>
        (negate negated t, rest)
    | _ => none
  | _ => none

def narrowEnough (f : Flags) (c : Char) : Bool := f.unicode || c.toNat < 128

/-- One character or escape in a class. -/
def readClassAtom (f : Flags) : List Char → Option (Atom × List Char)
  | [] => none
  | '\\' :: cs => readEscape f cs
  | c :: cs => if narrowEnough f c then some (.literal c, cs) else none

def namedRoom : Nat := 16000

/-- A character, a named class, or a range of characters. -/
def readClassItem (f : Flags) (cs : List Char) : Option (ClassPart × List Char) := do
  let (atom, rest) ← readClassAtom f cs
  let rest := skip f rest
  let isRange := match rest with
    | '-' :: after =>
      match skip f after with
      | ']' :: _ => false
      | '-' :: _ => false
      | _ => true
    | _ => false
  if isRange then
    let (atom', rest) ← readClassAtom f (skip f (rest.drop 1))
    match atom, atom' with
    | .literal a, .literal b =>
      if a ≤ b then some (⟨fun c => a ≤ c && c ≤ b, 0, 40⟩, rest) else none
    | _, _ => none
  else
    match rest, atom with
    | [], _ => none
    | _, .literal a => some (⟨(· == a), 0, 40⟩, rest)
    | _, .named t => some (⟨t, 0, namedRoom⟩, rest)
    | _, .look _ => none

/-- Hyphens at the start of a class stand for themselves. -/
def skipHyphens (f : Flags) (cs : List Char) : List Char :=
  skip f (cs.dropWhile fun c => c == '-' || (f.verbose && isBlank c))

/-- The start of a class: whether it is negated, and the characters that stand for themselves only
there. -/
def openClass (f : Flags) (cs : List Char) : Bool × ClassPart × List Char :=
  let cs := skip f cs
  let (negated, cs) := match cs with
    | '^' :: cs => (true, skip f cs)
    | cs => (false, cs)
  match cs with
  | '-' :: _ => (negated, ⟨(· == '-'), 0, 40⟩, skipHyphens f cs)
  | ']' :: rest => (negated, ⟨(· == ']'), 0, 40⟩, skip f rest)
  | _ => (negated, .empty, cs)

def closeClass (f : Flags) (negated : Bool) (p : ClassPart) : Option ClassPart :=
  if negated && !f.unicode then none
  else some ⟨negate negated (fold f p.test), p.depth + 1, p.room⟩

/-- Reads a class from behind its bracket, or on from the items before. -/
def readClass (f : Flags) : Nat → Bool → Option (ClassPart × ClassOp) → ClassPart → List Char →
    Option (ClassPart × List Char)
  | 0, _, _, _, _ => none
  | fuel + 1, negated, pending, seen, cs =>
    match skip f cs with
    | [] => none
    | ']' :: rest => (closeClass f negated (applyPending f pending seen)).map (·, rest)
    | '[' :: rest =>
      match readAsciiClass rest with
      | some (t, rest) =>
        readClass f fuel negated pending (seen.union ⟨fold f t, 0, 40⟩) rest
      | none =>
        let (innerNegated, start, rest) := openClass f rest
        match readClass f fuel innerNegated none start rest with
        | none => none
        | some (inner, rest) => readClass f fuel negated pending (seen.union inner) rest
    | '&' :: '&' :: rest =>
      readClass f fuel negated (some (applyPending f pending seen, .intersection)) .empty rest
    | '-' :: '-' :: rest =>
      readClass f fuel negated (some (applyPending f pending seen, .difference)) .empty rest
    | '~' :: '~' :: rest =>
      readClass f fuel negated (some (applyPending f pending seen, .symmetric)) .empty rest
    | cs =>
      match readClassItem f cs with
      | none => none
      | some (item, rest) => readClass f fuel negated pending (seen.union item) rest

end Gateway.Pattern
