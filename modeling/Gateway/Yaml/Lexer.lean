import Gateway.Yaml.Scalar

/-! # The tokens of a YAML text -/
namespace Gateway.Yaml
open Text

/-- A place where a mapping's key may have started, with the number of tokens before it. -/
structure PendingKey where
  position : Nat
  line : Nat
  column : Nat
  index : Nat
  /-- Whether nothing but a key can stand there. -/
  required : Bool

structure Lexer where
  cursor : Cursor
  tokens : Array Token
  indent : Int
  /-- The indentations around the present one, innermost first. -/
  outer : List Int
  /-- The key that may have started, for each open bracket and for the text around them. -/
  keys : List (Option PendingKey)
  keyAllowed : Bool

namespace Lexer

def start (s : String) : Lexer := ⟨.start s.toList, #[], -1, [], [none], true⟩

def inBrackets (l : Lexer) : Bool := l.keys.length > 1

def push (t : Token) (l : Lexer) : Lexer := { l with tokens := l.tokens.push t }

def allowKey (allowed : Bool) (l : Lexer) : Lexer := { l with keyAllowed := allowed }

/-- Past blanks, line breaks and comments. Outside of brackets a tab cannot stand where a key can,
and a key can start on every line. `fuel` bounds the lines. -/
def skipGap : Nat → Lexer → Lexer
  | 0, l => l
  | fuel + 1, l =>
    let tabs := l.inBrackets || !l.keyAllowed
    let c := l.cursor.dropWhile fun x => x == ' ' || (tabs && x == '\t')
    let c := if c.rest.head? == some '#' then c.dropWhile (!isBreak ·) else c
    if c.atBreak then
      skipGap fuel { l with cursor := c.nextLine, keyAllowed := l.keyAllowed || !l.inBrackets }
    else { l with cursor := c }

/-- A key stands on one line and is not too long. -/
def isStale (c : Cursor) (k : PendingKey) : Bool := k.line < c.line || k.index + 1024 < c.index

/-- Gives up the keys that have become too old; a required one must not. -/
def dropStale (l : Lexer) : Option Lexer :=
  if l.keys.any (·.any fun k => isStale l.cursor k && k.required) then none
  else some { l with keys := l.keys.map (·.filter (!isStale l.cursor ·)) }

def dropKey (l : Lexer) : Option Lexer :=
  match l.keys with
  | some k :: rest => if k.required then none else some { l with keys := none :: rest }
  | _ => some l

/-- Notes that a key may start here. -/
def noteKey (l : Lexer) : Option Lexer :=
  if !l.keyAllowed then some l
  else do
    let l ← l.dropKey
    let c := l.cursor
    let required := !l.inBrackets && l.indent == c.column
    return { l with
      keys := some ⟨l.tokens.size, c.line, c.column, c.index, required⟩ :: l.keys.drop 1 }

def closeBlocks (column : Int) (l : Lexer) : List Int → Lexer
  | [] => l
  | i :: outer =>
    if l.indent > column then
      closeBlocks column { l.push .blockEnd with indent := i, outer } outer
    else l

/-- Ends the blocks that are indented further than a column. -/
def unroll (column : Int) (l : Lexer) : Lexer :=
  if l.inBrackets then l else closeBlocks column l l.outer

/-- Starts a block at a column that is indented further than the present one, with its token at a
position among the tokens. -/
def roll (column position : Nat) (t : Token) (l : Lexer) : Lexer :=
  if l.inBrackets || l.indent ≥ column then l
  else { l with
    indent := column, outer := l.indent :: l.outer, tokens := l.tokens.insertIdxIfInBounds position t }

/-- Past so many characters, with a token for them. -/
def take (n : Nat) (t : Token) (l : Lexer) : Lexer := { l.push t with cursor := l.cursor.skip n }

def opening (t : Token) (l : Lexer) : Option Lexer := do
  let l ← l.noteKey
  return ({ l with keys := none :: l.keys }.allowKey true).take 1 t

def closing (t : Token) (l : Lexer) : Option Lexer := do
  let l ← l.dropKey
  let keys := if l.inBrackets then l.keys.drop 1 else l.keys
  return ({ l with keys }.allowKey false).take 1 t

def separator (t : Token) (l : Lexer) : Option Lexer := do
  let l ← (l.unroll (-1)).dropKey
  return (l.allowKey false).take 3 t

def comma (l : Lexer) : Option Lexer := do
  let l ← l.dropKey
  return (l.allowKey true).take 1 .comma

def dash (l : Lexer) : Option Lexer := do
  if !l.inBrackets && !l.keyAllowed then none
  let l := l.roll l.cursor.column l.tokens.size .blockList
  let l ← l.dropKey
  return (l.allowKey true).take 1 .dash

def explicitKey (l : Lexer) : Option Lexer := do
  if !l.inBrackets && !l.keyAllowed then none
  let l := l.roll l.cursor.column l.tokens.size .blockMap
  let l ← l.dropKey
  return (l.allowKey !l.inBrackets).take 1 .key

/-- A value after what turns out to have been a key, or else after none. -/
def value (l : Lexer) : Option Lexer := do
  match l.keys with
  | some k :: rest =>
    let l := { l with keys := none :: rest, tokens := l.tokens.insertIdxIfInBounds k.position .key }
    let l := l.roll k.column k.position .blockMap
    return (l.allowKey false).take 1 .value
  | _ =>
    if !l.inBrackets && !l.keyAllowed then none
    let l := l.roll l.cursor.column l.tokens.size .blockMap
    return (l.allowKey !l.inBrackets).take 1 .value

def named (t : String → Token) (l : Lexer) : Option Lexer := do
  let l ← l.noteKey
  let (name, c) := l.cursor.next.takeWhile isWordChar
  let ended := endsWord c.rest || c.rest.head?.any ("?:,]\x7d%@\x60".toList.contains ·)
  if name.isEmpty || !ended then none
  return { (l.push (t (String.ofList name))).allowKey false with cursor := c }

def isTagChar (bracketed : Bool) (c : Char) : Bool :=
  isWordChar c || ";/?:@&=+$.!~*'()%".toList.contains c || (bracketed && ",[]".toList.contains c)

/-- Bytes written with percent signs, decoded. -/
def unescape : List Char → Option (List UInt8)
  | [] => some []
  | '%' :: a :: b :: cs =>
    if isHexDigit a && isHexDigit b then
      (unescape cs).map ((hexadecimal [a, b]).toUInt8 :: ·)
    else none
  | c :: cs => if c == '%' then none else (unescape cs).map (utf8 (String.singleton c) ++ ·)

def tagText? (cs : List Char) : Option String := (unescape cs).bind ofUtf8?

/-- A tag's handle and suffix: in angle brackets, after a named handle, or after a mark. -/
def tagAt (c : Cursor) : Option (String × String × Cursor) :=
  match c.rest with
  | '!' :: '<' :: _ => do
    let (cs, c) := (c.skip 2).takeWhile (isTagChar true)
    if cs.isEmpty || c.rest.head? != some '>' then none
    return ("", ← tagText? cs, c.next)
  | '!' :: _ => do
    let (word, after) := c.next.takeWhile isWordChar
    if after.rest.head? == some '!' then
      let (cs, c) := after.next.takeWhile (isTagChar false)
      if cs.isEmpty then none
      return (String.ofList ('!' :: word ++ ['!']), ← tagText? cs, c)
    else
      let (cs, c) := c.next.takeWhile (isTagChar false)
      if cs.isEmpty then return ("", "!", c)
      return ("!", ← tagText? cs, c)
  | _ => none

def tag (l : Lexer) : Option Lexer := do
  let l ← l.noteKey
  let (handle, suffix, c) ← tagAt l.cursor
  if !endsWord c.rest && !(l.inBrackets && c.rest.head? == some ',') then none
  return { (l.push (.tag handle suffix)).allowKey false with cursor := c }

def number? (c : Cursor) : Option (Nat × Cursor) :=
  let (ds, c) := c.takeWhile isDigit
  if ds.isEmpty || ds.length > 9 then none else some (decimal ds, c)

def versionAt (c : Cursor) : Option (Token × Cursor) := do
  let (major, c) ← number? (c.dropWhile isSpace)
  if c.rest.head? != some '.' then none
  let (minor, c) ← number? c.next
  return (.version major minor, c)

def handleAt (c : Cursor) : Option (Token × Cursor) := do
  let c := c.dropWhile isSpace
  if c.rest.head? != some '!' then none
  let (word, after) := c.next.takeWhile isWordChar
  let (name, c) ←
    if after.rest.head? == some '!' then some (String.ofList ('!' :: word ++ ['!']), after.next)
    else if word.isEmpty then some ("!", after)
    else none
  if !c.rest.head?.any isSpace then none
  let (cs, c) := (c.dropWhile isSpace).takeWhile (isTagChar true)
  if cs.isEmpty || !endsWord c.rest then none
  return (.handle name (← tagText? cs), c)

def directive (l : Lexer) : Option Lexer := do
  let l ← (l.unroll (-1)).dropKey
  let (name, c) := l.cursor.next.takeWhile isWordChar
  if !endsWord c.rest then none
  let (t, c) ← match String.ofList name with
    | "YAML" => versionAt c
    | "TAG" => handleAt c
    | _ => none
  let c := c.dropWhile isSpace
  let c := if c.rest.head? == some '#' then c.dropWhile (!isBreak ·) else c
  if !c.rest.isEmpty && !c.atBreak then none
  let c := if c.atBreak then c.nextLine else c
  return { (l.push t).allowKey false with cursor := c }

def quoted (double : Bool) (l : Lexer) : Option Lexer := do
  let l ← l.noteKey
  let s ← quotedScalar double (l.cursor.rest.length + 1) [] l.cursor.next
  return { (l.push (.scalar .quoted (String.ofList s.text))).allowKey false with cursor := s.cursor }

def block (folded : Bool) (l : Lexer) : Option Lexer := do
  let l ← l.dropKey
  let s ← blockScalar folded l.indent l.cursor.next
  let style := if folded then Style.folded else .literal
  return { (l.push (.scalar style (String.ofList s.text))).allowKey true with cursor := s.cursor }

def plain (l : Lexer) : Option Lexer := do
  let l ← l.noteKey
  let (s, broken) ←
    plainScalar l.inBrackets l.indent (l.cursor.rest.length + 1) [] [] l.cursor
  return { (l.push (.scalar .plain (String.ofList s.text))).allowKey broken with cursor := s.cursor }

/-- Whether a plain scalar can start with a character before some text. -/
def startsPlain (flow : Bool) (c : Char) (rest : List Char) : Bool :=
  if c == '-' then !rest.head?.any isSpace
  else if c == '?' || c == ':' then !flow && !endsWord rest
  else !isGap c && !",[]\x7b\x7d#&*!|>'\"%@\x60".toList.contains c

/-- Reads the next token, in front of which there is no gap. -/
def token (c : Char) (rest : List Char) (l : Lexer) : Option Lexer :=
  let flow := l.inBrackets
  if l.cursor.column == 0 && c == '%' then l.directive
  else if l.cursor.atSeparator then
    l.separator (if c == '-' then .documentStart else .documentEnd)
  else match c with
    | '[' => l.opening .openList
    | '\x7b' => l.opening .openMap
    | ']' => l.closing .closeList
    | '\x7d' => l.closing .closeMap
    | ',' => l.comma
    | '*' => l.named .alias
    | '&' => l.named .anchor
    | '!' => l.tag
    | '\'' => l.quoted false
    | '"' => l.quoted true
    | _ =>
      if c == '-' && endsWord rest then l.dash
      else if c == '?' && (flow || endsWord rest) then l.explicitKey
      else if c == ':' && (flow || endsWord rest) then l.value
      else if c == '|' && !flow then l.block false
      else if c == '>' && !flow then l.block true
      else if startsPlain flow c rest then l.plain
      else none

/-- Ends all blocks. -/
def finish (l : Lexer) : Option (List Token) :=
  ((l.unroll (-1)).dropKey).map (·.tokens.toList)

/-- `fuel` bounds the tokens. -/
def run : Nat → Lexer → Option (List Token)
  | 0, _ => none
  | fuel + 1, l => do
    let l ← (l.skipGap (l.cursor.rest.length + 1)).dropStale
    let l := l.unroll l.cursor.column
    match l.cursor.rest with
    | [] => l.finish
    | c :: rest => run fuel (← l.token c rest)

end Lexer

/-- The tokens of a text, unless it holds something that is none. -/
def tokens? (s : String) : Option (List Token) :=
  let cs := s.toList
  let cs := if cs.head? == some '\ufeff' then cs.drop 1 else cs
  if cs.all isPrintable then Lexer.run (cs.length + 2) (Lexer.start (String.ofList cs)) else none

end Gateway.Yaml
