import Gateway.Idna.DirectionRanges
import Gateway.Unicode.Ranges

/-! # Writing direction and joining in domain names -/
namespace Gateway.Idna
open Unicode

inductive Direction
  | left | right | arabic | arabicNumber | europeanNumber | separator | mark | other
  deriving DecidableEq, Repr

def directions : List (List Range × Direction) := [
  (ranges rightToLeftRanges, .right),
  (ranges arabicLetterRanges, .arabic),
  (ranges arabicNumberRanges, .arabicNumber),
  (ranges europeanNumberRanges, .europeanNumber),
  (ranges europeanSeparatorRanges, .separator),
  (ranges commonSeparatorRanges, .separator),
  (ranges europeanTerminatorRanges, .separator),
  (ranges neutralRanges, .other),
  (ranges boundaryRanges, .other),
  (ranges markRanges, .mark)]

def direction (c : Char) : Direction :=
  match directions.find? (covered ·.1 c.toNat) with
  | some d => d.2
  | none => .left

def isRightward (d : Direction) : Bool := d == .right || d == .arabic || d == .arabicNumber

/-- The directions without the marks at the end. -/
def withoutMarks (ds : List Direction) : List Direction := (ds.reverse.dropWhile (· == .mark)).reverse

def rightToLeftRule (ds : List Direction) : Bool :=
  ds.all (· != .left) &&
    (match (withoutMarks ds).getLast? with
      | some d => isRightward d || d == .europeanNumber
      | none => false) &&
    !(ds.contains .europeanNumber && ds.contains .arabicNumber)

def leftToRightRule (ds : List Direction) : Bool :=
  ds.all (fun d => !isRightward d) &&
    (match (withoutMarks ds).getLast? with
      | some d => d == .left || d == .europeanNumber
      | none => false)

/-- A label of a name with right-to-left letters keeps to one direction. -/
def directionRule (label : List Char) : Bool :=
  let ds := label.map direction
  match ds with
  | [] => true
  | .right :: _ => rightToLeftRule ds
  | .arabic :: _ => rightToLeftRule ds
  | .left :: _ => leftToRightRule ds
  | _ => false

def isRightToLeft (label : List Char) : Bool := label.any fun c => isRightward (direction c)

def leftJoinings : List Range := ranges leftJoiningRanges
def rightJoinings : List Range := ranges rightJoiningRanges
def dualJoinings : List Range := ranges dualJoiningRanges
def transparents : List Range := ranges transparentRanges

def joinsAfter (c : Char) : Bool := covered leftJoinings c.toNat || covered dualJoinings c.toNat

def joinsBefore (c : Char) : Bool := covered rightJoinings c.toNat || covered dualJoinings c.toNat

def isTransparent (c : Char) : Bool := covered transparents c.toNat

/-- Whether a non-joiner stands between two letters that would join. -/
def betweenJoining (before after : List Char) : Bool :=
  match (before.dropWhile isTransparent).head?, (after.dropWhile isTransparent).head? with
  | some b, some a => joinsAfter b && joinsBefore a
  | _, _ => false

end Gateway.Idna
