import Gateway.Pattern
import Gateway.Text

/-! # Parts of patterns, with the flags they are read under -/
namespace Gateway.Pattern
open Text

structure Flags where
  caseless : Bool
  multiline : Bool
  dotAll : Bool
  unicode : Bool
  verbose : Bool
  crlf : Bool
  deriving Repr

def Flags.initial : Flags := ⟨false, false, false, true, false, false⟩

/-- A part of a pattern with how deep it nests and how much room it takes when it is compiled. -/
structure Part where
  pattern : Pattern
  depth : Nat
  room : Nat
  /-- Whether it only sets flags, so that it cannot be repeated. -/
  isSetting : Bool

def Part.plain (p : Pattern) (room : Nat) : Part := ⟨p, 0, room, false⟩

/-- In verbose patterns blanks and comments do not count. -/
def skip (f : Flags) (cs : List Char) : List Char :=
  if f.verbose then go false cs else cs
where
  go : Bool → List Char → List Char
    | _, [] => []
    | true, c :: cs => go (c != '\n') cs
    | false, c :: cs => if isBlank c then go false cs else if c == '#' then go true cs else c :: cs

def Part.repeated (p : Part) (least : Nat) (most : Option Nat) : Part :=
  ⟨.rep p.pattern least most, p.depth + 1, 64 + p.room * max 1 (most.getD (least + 1)), false⟩

def roomOf (parts : List Part) : Nat := parts.foldl (fun n p => n + p.room) 0

/-- Parts one after the other; `parts` holds them last first. -/
def concatenation : List Part → Part
  | [] => .plain .empty 0
  | [p] => ⟨p.pattern, p.depth, p.room, false⟩
  | parts =>
    let whole := parts.foldl (fun q p => .seq p.pattern q) .empty
    ⟨whole, 1 + (parts.map (·.depth)).foldl max 0, roomOf parts, false⟩

def alternation : List Part → Part
  | [] => .plain .empty 0
  | [p] => p
  | p :: ps =>
    let whole := ps.foldl (fun q p => .alt p.pattern q) p.pattern
    ⟨whole, 1 + ((p :: ps).map (·.depth)).foldl max 0, 64 + roomOf (p :: ps), false⟩

end Gateway.Pattern
