import Gateway.Pattern.Bounds
import Gateway.Pattern.Bracket
import Gateway.Pattern.Opening

/-! # Reading patterns -/
namespace Gateway.Pattern
open Text

def lineStart (f : Flags) (before after : Option Char) : Bool :=
  match before with
  | none => true
  | some b =>
    f.multiline && (b == '\n' || (f.crlf && b == '\r' && after != some '\n'))

def lineEnd (f : Flags) (before after : Option Char) : Bool :=
  match after with
  | none => true
  | some a =>
    f.multiline &&
      if f.crlf then a == '\r' || (a == '\n' && before != some '\r') else a == '\n'

def dot? (f : Flags) : Option Test :=
  if !f.unicode then none
  else if f.dotAll then some fun _ => true
  else if f.crlf then some fun c => c != '\n' && c != '\r'
  else some (· != '\n')

def Atom.part (f : Flags) : Atom → Part
  | .literal c => .plain (.one (fold f (· == c))) 32
  | .named t => .plain (.one t) namedRoom
  | .look t => .plain (.look t) 32

/-- A part that is no operator, no group and no class. -/
def readPrimitive (f : Flags) : List Char → Option (Part × List Char)
  | [] => none
  | '\\' :: cs => (readEscape f cs).map fun (a, rest) => (a.part f, rest)
  | '.' :: cs => (dot? f).map fun t => (.plain (.one t) 300, cs)
  | '^' :: cs => some (.plain (.look (lineStart f)) 32, cs)
  | '$' :: cs => some (.plain (.look (lineEnd f)) 32, cs)
  | c :: cs => some ((Atom.literal c).part f, cs)

def depthLimit : Nat := 250

def roomLimit : Nat := 10485760

/-- What a reader of a group carries: the flags, the names in use, the branches and the parts of the
last branch, both last first. -/
structure Progress where
  flags : Flags
  names : List (List Char)
  branches : List Part
  parts : List Part

def Progress.push (g : Progress) (p : Part) : Progress := { g with parts := p :: g.parts }

def Progress.finish (g : Progress) : Part := alternation (concatenation g.parts :: g.branches)

/-- Repeats the last part, unless there is none or it only sets flags. -/
def Progress.repeatLast (g : Progress) (least : Nat) (most : Option Nat) : Option Progress :=
  match g.parts with
  | p :: ps => if p.isSetting then none else some { g with parts := p.repeated least most :: ps }
  | [] => none

/-- Reads up to the end, or to the bracket that closes a group. -/
def readGroup : Nat → Bool → Progress → List Char → Option (Progress × List Char)
  | 0, _, _, _ => none
  | fuel + 1, inside, g, cs =>
    match skip g.flags cs with
    | [] => if inside then none else some (g, [])
    | ')' :: rest => if inside then some (g, rest) else none
    | '|' :: rest =>
      readGroup fuel inside { g with branches := concatenation g.parts :: g.branches, parts := [] } rest
    | '(' :: rest =>
      match readOpening g.flags rest with
      | none => none
      | some (.setting f, rest) =>
        readGroup fuel inside ({ g with flags := f }.push ⟨.empty, 0, 0, true⟩) rest
      | some (.group f name, rest) =>
        if name.any g.names.contains then none
        else
          match readGroup fuel true ⟨f, name.toList ++ g.names, [], []⟩ rest with
          | none => none
          | some (inner, rest) =>
            let p := inner.finish
            readGroup fuel inside
              ({ g with names := inner.names }.push ⟨p.pattern, p.depth + 1, p.room + 64, false⟩) rest
    | '[' :: rest =>
      let (negated, start, rest) := openClass g.flags rest
      match readClass g.flags (2 * rest.length + 2) negated none start rest with
      | none => none
      | some (p, rest) => readGroup fuel inside (g.push ⟨.one p.test, p.depth, p.room, false⟩) rest
    | '?' :: rest => (g.repeatLast 0 (some 1)).bind fun g => readGroup fuel inside g (skipLazy rest)
    | '*' :: rest => (g.repeatLast 0 none).bind fun g => readGroup fuel inside g (skipLazy rest)
    | '+' :: rest => (g.repeatLast 1 none).bind fun g => readGroup fuel inside g (skipLazy rest)
    | '{' :: rest =>
      match readBounds g.flags rest with
      | none => none
      | some (least, most, rest) =>
        (g.repeatLast least most).bind fun g => readGroup fuel inside g (skipLazy rest)
    | cs =>
      match readPrimitive g.flags cs with
      | none => none
      | some (p, rest) => readGroup fuel inside (g.push p) rest

/-- The pattern of a text, if it is well-formed, not too deep and not too large. -/
def read? (s : String) : Option Pattern := do
  let (g, _) ← readGroup (s.length + 1) false ⟨.initial, [], [], []⟩ s.toList
  let p := g.finish
  if p.depth > depthLimit || p.room > roomLimit then none
  return p.pattern

end Gateway.Pattern
