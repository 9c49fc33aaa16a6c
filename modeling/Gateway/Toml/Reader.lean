import Gateway.Toml.Entry
import Gateway.Toml.Value

/-! # Reading TOML texts -/
namespace Gateway.Toml

mutual
/-- Reads a value. `fuel` bounds the steps. -/
def value : Nat → List Char → Option (Setting × List Char)
  | 0, _ => none
  | fuel + 1, cs =>
    let ofText (r : Option (List Char × List Char)) : Option (Setting × List Char) :=
      r.map fun (s, rest) => (.text (String.ofList s), rest)
    match cs with
    | '"' :: '"' :: '"' :: rest => ofText (longTextAt '"' rest)
    | '\'' :: '\'' :: '\'' :: rest => ofText (longTextAt '\'' rest)
    | '"' :: rest => ofText (basicText [] rest)
    | '\'' :: rest => ofText (literalText [] rest)
    | '[' :: rest => items fuel [] rest
    | '\x7b' :: rest =>
      match skipBlank rest with
      | '\x7d' :: rest => some (.table [], rest)
      | rest => inlineEntries fuel [] rest
    | _ =>
      let (w, rest) := word cs
      (wordValue? w).map fun x => (x, rest)

/-- The items of a list, on any number of lines, with a comma behind the last one or without. -/
def items : Nat → List Setting → List Char → Option (Setting × List Char)
  | 0, _, _ => none
  | fuel + 1, seen, cs =>
    match skipLines (cs.length + 1) cs with
    | ']' :: rest => some (.list seen.reverse, rest)
    | cs => do
      let (x, rest) ← value fuel cs
      match skipLines (rest.length + 1) rest with
      | ',' :: rest => items fuel (x :: seen) rest
      | ']' :: rest => return (.list (x :: seen).reverse, rest)
      | _ => none

/-- The entries of a table on one line. -/
def inlineEntries : Nat → Entries → List Char → Option (Setting × List Char)
  | 0, _, _ => none
  | fuel + 1, es, cs => do
    let (ks, x, rest) ← entry fuel cs
    let es ← assign x ks es
    match skipBlank rest with
    | ',' :: rest => inlineEntries fuel es rest
    | '\x7d' :: rest => return (.table (settings es), rest)
    | _ => none

def entry : Nat → List Char → Option (List String × Setting × List Char)
  | 0, _ => none
  | fuel + 1, cs => do
    let (ks, rest) ← dottedKey (cs.length + 1) cs
    match skipBlank rest with
    | '=' :: rest =>
      let (x, rest) ← value fuel (skipBlank rest)
      return (ks, x, rest)
    | _ => none
end

/-- A heading and whether it is a repeated one. -/
def heading? (cs : List Char) : Option (List String × Bool × List Char) := do
  match cs with
  | '[' :: '[' :: rest =>
    let (ks, rest) ← dottedKey (rest.length + 1) rest
    match rest with
    | ']' :: ']' :: rest => return (ks, true, rest)
    | _ => none
  | '[' :: rest =>
    let (ks, rest) ← dottedKey (rest.length + 1) rest
    match rest with
    | ']' :: rest => return (ks, false, rest)
    | _ => none
  | _ => none

/-- The lines of a text, below the heading with the given names. `fuel` bounds the lines. -/
def lines : Nat → List String → Entries → List Char → Option Entries
  | 0, _, _, _ => none
  | fuel + 1, current, es, cs =>
    match skipLines (cs.length + 1) cs with
    | [] => some es
    | '[' :: rest => do
      let (ks, repeated, rest) ← heading? ('[' :: rest)
      let last := ks.getLastD ""
      let es ← under (if repeated then addTable last else startTable last) ks.dropLast es
      lines fuel ks es (← endLine? rest)
    | cs => do
      let (ks, x, rest) ← entry (2 * cs.length + 2) cs
      let es ← under (assign x ks) current es
      lines fuel current es (← endLine? rest)

/-- The table that a text writes. -/
def read? (s : String) : Option Setting :=
  let cs := s.toList
  let cs := if cs.head? == some '\ufeff' then cs.drop 1 else cs
  (lines (cs.length + 1) [] [] cs).map fun es => .table (settings es)

end Gateway.Toml
