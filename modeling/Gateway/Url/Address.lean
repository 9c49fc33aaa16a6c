import Gateway.Text

/-! # Numeric host addresses -/
namespace Gateway.Address
open Text

/-- A decimal octet has no leading zero. -/
def octet? (cs : List Char) : Option Nat :=
  if cs.isEmpty || !cs.all isDigit || cs.length > 3 || (cs.head? == some '0' && cs.length > 1) then
    none
  else if decimal cs > 255 then none
  else some (decimal cs)

/-- Four octets between points. -/
def dotted? (cs : List Char) : Option (List Nat) :=
  match (splitChars '.' cs).mapM octet? with
  | some [a, b, c, d] => some [a, b, c, d]
  | _ => none

def group? (cs : List Char) : Option Nat :=
  if cs.isEmpty || cs.length > 4 || !cs.all isHexDigit then none else some (hexadecimal cs)

/-- Groups between colons. The last one may be four octets, which count as two groups. -/
def groups? : List (List Char) → Option (List Nat)
  | [] => some []
  | [g] =>
    match group? g with
    | some n => some [n]
    | none =>
      match dotted? g with
      | some [a, b, c, d] => some [a * 256 + b, c * 256 + d]
      | _ => none
  | g :: gs => do return (← group? g) :: (← groups? gs)

/-- Cuts at the first pair of colons. -/
def cutDouble : List Char → Option (List Char × List Char)
  | ':' :: ':' :: rest => some ([], rest)
  | c :: cs => (cutDouble cs).map fun (a, b) => (c :: a, b)
  | [] => none

def colonGroups? (cs : List Char) : Option (List Nat) :=
  if cs.isEmpty then some [] else groups? (splitChars ':' cs)

/-- Only the end of an address may be written in octets. -/
def plainGroups? (cs : List Char) : Option (List Nat) :=
  if cs.contains '.' then none else colonGroups? cs

/-- Eight groups; a pair of colons stands for at least one group of zeros. -/
def ipv6? (cs : List Char) : Option (List Nat) :=
  match cutDouble cs with
  | none => do
    let gs ← colonGroups? cs
    if gs.length = 8 then some gs else none
  | some (left, right) => do
    let ls ← plainGroups? left
    let rs ← colonGroups? right
    if ls.length + rs.length ≤ 7 then
      some (ls ++ List.replicate (8 - ls.length - rs.length) 0 ++ rs)
    else none

/-- A number in base ten, in base sixteen after 0x, or in base eight after 0. -/
def number? (cs : List Char) : Option Nat :=
  match cs with
  | [] => none
  | '0' :: x :: rest =>
    if x == 'x' || x == 'X' then
      if rest.all isHexDigit then some (hexadecimal rest) else none
    else if (x :: rest).all fun c => '0' ≤ c && c ≤ '7' then
      some ((x :: rest).foldl (fun n c => n * 8 + digitValue c) 0)
    else none
  | cs => if cs.all isDigit then some (decimal cs) else none

def withoutLastEmpty (parts : List (List Char)) : List (List Char) :=
  match parts.reverse with
  | [] :: (p :: ps) => (p :: ps).reverse
  | _ => parts

/-- Whether the last label of a domain, an empty one at the end apart, is a number. -/
def endsInNumber (cs : List Char) : Bool :=
  match (withoutLastEmpty (splitChars '.' cs)).getLast? with
  | some (c :: l) => (c :: l).all isDigit || (number? (c :: l)).isSome
  | _ => false

/-- Up to four numbers; the last one fills the bytes that the others leave. -/
def ipv4? (cs : List Char) : Option Nat := do
  let parts := withoutLastEmpty (splitChars '.' cs)
  if parts.length > 4 then none
  let numbers ← parts.mapM number?
  let last ← numbers.getLast?
  let front := numbers.dropLast
  let room := Nat.pow 256 (4 - front.length)
  if last ≥ room || front.any (· > 255) then none
  return last + (front.foldl (fun n x => n * 256 + x) 0) * room

end Gateway.Address
