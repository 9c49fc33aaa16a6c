import Gateway.Assoc
import Gateway.Yaml
import Gateway.Yaml.Lexer

/-! # Reading YAML documents -/
namespace Gateway.Yaml

/-- What is left of the tokens, and the nodes that have a name by now. -/
structure Reading where
  rest : List Token
  anchors : Assoc Yaml

/-- A node's tag and name, in either order. -/
structure Properties where
  tag : Option (String × String)
  anchor : Option String

def Properties.isEmpty (p : Properties) : Bool := p.tag.isNone && p.anchor.isNone

def properties : List Token → Properties × List Token
  | .tag h s :: .anchor a :: rest => (⟨some (h, s), some a⟩, rest)
  | .anchor a :: .tag h s :: rest => (⟨some (h, s), some a⟩, rest)
  | .tag h s :: rest => (⟨some (h, s), none⟩, rest)
  | .anchor a :: rest => (⟨none, some a⟩, rest)
  | rest => (⟨none, none⟩, rest)

/-- What the handles of tags stand for. -/
abbrev Handles := Assoc String

def standardHandles : Handles := [("", ""), ("!", "!"), ("!!", tagBase)]

def Properties.fullTag? (handles : Handles) (p : Properties) : Option (Option String) :=
  match p.tag with
  | none => some none
  | some (h, s) => (Assoc.get? h handles).map fun start => some (start ++ s)

def bind (name : Option String) (x : Yaml) (r : Reading) : Reading :=
  match name with
  | some a => { r with anchors := Assoc.set a x r.anchors }
  | none => r

/-- Whether a token ends an item of a block before anything stands in it. -/
def endsItem : Token → Bool
  | .dash | .blockEnd => true
  | _ => false

def endsLooseItem : Token → Bool
  | .dash | .key | .value | .blockEnd => true
  | _ => false

def endsEntry : Token → Bool
  | .key | .value | .blockEnd => true
  | _ => false

def endsListItem : Token → Bool
  | .comma | .closeList => true
  | _ => false

def endsMapItem : Token → Bool
  | .comma | .closeMap => true
  | _ => false

def atEnd (f : Token → Bool) (r : Reading) : Bool := r.rest.head?.all f

mutual
/-- Reads a node. Inside of a block, in `block`, it may be a block itself; in `loose`, a list of its
own indentation. `fuel` bounds the steps. -/
def node (handles : Handles) : Nat → Bool → Bool → Reading → Option (Yaml × Reading)
  | 0, _, _, _ => none
  | fuel + 1, block, loose, r =>
    match r.rest with
    | .alias a :: rest => (Assoc.get? a r.anchors).map fun x => (x, { r with rest })
    | _ => do
      let (p, rest) := properties r.rest
      let tag ← p.fullTag? handles
      let r := bind p.anchor .void { r with rest }
      let inner (rest : List Token) : Reading := { r with rest }
      let (x, r) ← match rest with
        | .scalar style s :: rest => some (.scalar style tag s, inner rest)
        | .openList :: rest => listItems handles fuel true [] (inner rest)
        | .openMap :: rest => mapEntries handles fuel true [] (inner rest)
        | .blockList :: rest => if block then blockItems handles fuel [] (inner rest) else none
        | .blockMap :: rest => if block then blockEntries handles fuel [] (inner rest) else none
        | .dash :: _ => if loose then looseItems handles fuel [] r else none
        | _ => if p.isEmpty then none else some (.scalar .plain tag "", r)
      return (x, bind p.anchor x r)

/-- A node, or an empty one before certain tokens. -/
def nodeUnless (handles : Handles) (ends : Token → Bool) :
    Nat → Bool → Bool → Reading → Option (Yaml × Reading)
  | 0, _, _, _ => none
  | fuel + 1, block, loose, r =>
    if atEnd ends r then some (empty, r) else node handles fuel block loose r

def blockItems (handles : Handles) : Nat → List Yaml → Reading → Option (Yaml × Reading)
  | 0, _, _ => none
  | fuel + 1, seen, r =>
    match r.rest with
    | .dash :: rest => do
      let (x, r) ← nodeUnless handles endsItem fuel true false { r with rest }
      blockItems handles fuel (x :: seen) r
    | .blockEnd :: rest => some (.list seen.reverse, { r with rest })
    | _ => none

def looseItems (handles : Handles) : Nat → List Yaml → Reading → Option (Yaml × Reading)
  | 0, _, _ => none
  | fuel + 1, seen, r =>
    match r.rest with
    | .dash :: rest => do
      let (x, r) ← nodeUnless handles endsLooseItem fuel true false { r with rest }
      looseItems handles fuel (x :: seen) r
    | _ => some (.list seen.reverse, r)

/-- The value after a key. -/
def entryValue (handles : Handles) (ends : Token → Bool) (block : Bool) :
    Nat → Reading → Option (Yaml × Reading)
  | 0, _ => none
  | fuel + 1, r =>
    match r.rest with
    | .value :: rest => nodeUnless handles ends fuel block block { r with rest }
    | _ => some (empty, r)

def blockEntries (handles : Handles) : Nat → List (Yaml × Yaml) → Reading → Option (Yaml × Reading)
  | 0, _, _ => none
  | fuel + 1, seen, r =>
    match r.rest with
    | .key :: rest => do
      let (k, r) ← nodeUnless handles endsEntry fuel true true { r with rest }
      let (x, r) ← entryValue handles endsEntry true fuel r
      blockEntries handles fuel ((k, x) :: seen) r
    | .blockEnd :: rest => some (.map seen.reverse, { r with rest })
    | _ => none

/-- An item in brackets: a node, or a single entry that counts as a map. -/
def listItem (handles : Handles) : Nat → Reading → Option (Yaml × Reading)
  | 0, _ => none
  | fuel + 1, r =>
    match r.rest with
    | .key :: .value :: _ => none
    | .key :: rest => do
      let (k, r) ← nodeUnless handles endsListItem fuel false false { r with rest }
      let (x, r) ← entryValue handles endsListItem false fuel r
      return (.map [(k, x)], r)
    | _ => node handles fuel false false r

def listItems (handles : Handles) : Nat → Bool → List Yaml → Reading → Option (Yaml × Reading)
  | 0, _, _, _ => none
  | fuel + 1, first, seen, r =>
    match first, r.rest with
    | _, .closeList :: rest => some (.list seen.reverse, { r with rest })
    | false, .comma :: .closeList :: rest => some (.list seen.reverse, { r with rest })
    | false, .comma :: rest => do
      let (x, r) ← listItem handles fuel { r with rest }
      listItems handles fuel false (x :: seen) r
    | true, _ => do
      let (x, r) ← listItem handles fuel r
      listItems handles fuel false (x :: seen) r
    | _, _ => none

/-- An entry in braces; a node without a value has an empty one. -/
def mapEntry (handles : Handles) : Nat → Reading → Option ((Yaml × Yaml) × Reading)
  | 0, _ => none
  | fuel + 1, r =>
    match r.rest with
    | .key :: rest => do
      let (k, r) ←
        if atEnd (fun t => t == .value || endsMapItem t) { r with rest } then
          some (empty, { r with rest })
        else node handles fuel false false { r with rest }
      let (x, r) ← entryValue handles endsMapItem false fuel r
      return ((k, x), r)
    | _ => (node handles fuel false false r).map fun (k, r) => ((k, empty), r)

def mapEntries (handles : Handles) :
    Nat → Bool → List (Yaml × Yaml) → Reading → Option (Yaml × Reading)
  | 0, _, _, _ => none
  | fuel + 1, first, seen, r =>
    match first, r.rest with
    | _, .closeMap :: rest => some (.map seen.reverse, { r with rest })
    | false, .comma :: .closeMap :: rest => some (.map seen.reverse, { r with rest })
    | false, .comma :: rest => do
      let (e, r) ← mapEntry handles fuel { r with rest }
      mapEntries handles fuel false (e :: seen) r
    | true, _ => do
      let (e, r) ← mapEntry handles fuel r
      mapEntries handles fuel false (e :: seen) r
    | _, _ => none
end

/-- The directives before a document: one version at most, and each handle at most once. -/
def directives (versioned : Bool) (handles : Handles) : List Token → Option (Handles × List Token)
  | .version major minor :: rest =>
    if versioned || major ≠ 1 || (minor ≠ 1 && minor ≠ 2) then none
    else directives true handles rest
  | .handle name start :: rest =>
    if (Assoc.get? name handles).isSome then none
    else directives versioned ((name, start) :: handles) rest
  | rest => some (handles, rest)

def isDirective : Token → Bool
  | .version .. | .handle .. => true
  | _ => false

/-- The handles declared for a document, with the standard ones behind them. -/
def withStandard (handles : Handles) : Handles := handles ++ standardHandles

def endsDocument : Token → Bool
  | .documentStart | .documentEnd => true
  | t => isDirective t

/-- Reads the documents. All but the first need a line that starts them, or directives. -/
def documents : Nat → Bool → List Token → Option (List Yaml)
  | 0, _, _ => none
  | fuel + 1, first, ts =>
    let ts := if first then ts else ts.dropWhile (· == .documentEnd)
    match ts with
    | [] => some []
    | t :: _ =>
      if first && !isDirective t && t != .documentStart then do
        let (x, r) ← node standardHandles (4 * ts.length + 4) true false ⟨ts, []⟩
        let more ← documents fuel false r.rest
        return x :: more
      else do
        let (handles, rest) ← directives false [] ts
        match rest with
        | .documentStart :: rest =>
          let (x, r) ← nodeUnless (withStandard handles) endsDocument (4 * ts.length + 5) true false
            ⟨rest, []⟩
          let more ← documents fuel false r.rest
          return x :: more
        | _ => none

/-- The documents of a text. -/
def read? (s : String) : Option (List Yaml) := do
  let ts ← tokens? s
  documents (ts.length + 1) true ts

end Gateway.Yaml
