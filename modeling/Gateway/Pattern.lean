/-! # Patterns for paths, and whether one occurs in a text

A pattern takes sets of positions to sets of positions. A set is a number in base two: bit `i` says
whether position `i` is in it. -/
namespace Gateway

inductive Pattern
  | empty
  | one (test : Char → Bool)
  /-- A condition on the characters before and after a position. -/
  | look (test : Option Char → Option Char → Bool)
  | seq (first second : Pattern)
  | alt (first second : Pattern)
  | rep (inner : Pattern) (least : Nat) (most : Option Nat)

namespace Pattern

abbrev Positions := Nat

def positions : List Bool → Positions
  | [] => 0
  | b :: bs => (if b then 1 else 0) + 2 * positions bs

/-- The conditions on neighbours at each position, the end of the text included. -/
def around (test : Option Char → Option Char → Bool) : Option Char → List Char → List Bool
  | before, [] => [test before none]
  | before, c :: cs => test before (some c) :: around test (some c) cs

/-- A pattern on a given text, its tests done. -/
inductive Track
  | stay
  | shift (at' : Positions)
  | keep (at' : Positions)
  | seq (first second : Track)
  | alt (first second : Track)
  | rep (inner : Track) (least : Nat) (most : Option Nat)

def on (text : List Char) : Pattern → Track
  | .empty => .stay
  | .one test => .shift (positions (text.map test))
  | .look test => .keep (positions (around test none text))
  | .seq a b => .seq (on text a) (on text b)
  | .alt a b => .alt (on text a) (on text b)
  | .rep a least most => .rep (on text a) least most

def iterate (f : Positions → Positions) : Nat → Positions → Positions
  | 0, s => s
  | n + 1, s => if f s = s then s else iterate f n (f s)

/-- The positions that a track leads to. `rounds` is enough to reach every position of the text. -/
def Track.advance (rounds : Nat) : Track → Positions → Positions
  | .stay, s => s
  | .shift at', s => (s &&& at') <<< 1
  | .keep at', s => s &&& at'
  | .seq a b, s => b.advance rounds (a.advance rounds s)
  | .alt a b, s => a.advance rounds s ||| b.advance rounds s
  | .rep a least most, s =>
    let start := iterate (a.advance rounds) least s
    let further := (most.map (· - least)).getD rounds
    iterate (fun s => s ||| a.advance rounds s) further start

/-- Whether the pattern matches some part of the text. -/
def occursIn (p : Pattern) (text : List Char) : Bool :=
  (p.on text).advance (text.length + 1) (Nat.pow 2 (text.length + 1) - 1) != 0

end Pattern
end Gateway
