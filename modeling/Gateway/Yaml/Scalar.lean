import Gateway.Yaml.Token

/-! # Reading YAML scalars -/
namespace Gateway.Yaml
open Text

/-- Line breaks between words: a single one counts as a blank, and the first of several as none. -/
def fold : List Char → List Char
  | ['\n'] => [' ']
  | '\n' :: more => more
  | bs => bs

/-- What stands for the blanks and line breaks between two words. -/
def joint (gap : List Char) : List Char :=
  match breaks gap with
  | [] => gap
  | bs => fold bs

/-- The characters of a plain word. In brackets, commas and brackets end it as well. -/
def plainWord (flow : Bool) : List Char → Option (List Char)
  | [] => some []
  | c :: cs =>
    if isGap c then some []
    else if c == ':' then
      if flow && cs.head?.any (",?[]\x7b\x7d".toList.contains ·) then none
      else if endsWord cs then some []
      else (plainWord flow cs).map (c :: ·)
    else if flow && ",[]\x7b\x7d".toList.contains c then some []
    else (plainWord flow cs).map (c :: ·)

/-- Whether a tab stands in the margin of a line after the first one. -/
def tabInMargin (margin : Nat) : List Char → Bool
  | [] => false
  | c :: cs => (isBreak c && (cs.takeWhile isSpace |>.take margin).contains '\t') ||
      tabInMargin margin cs

structure Scanned where
  text : List Char
  cursor : Cursor

/-- Reads a plain scalar, word by word. Its lines are indented beyond `parent`. The flag tells
whether it ends at the start of a line. `fuel` bounds the words. -/
def plainScalar (flow : Bool) (parent : Int) :
    Nat → List Char → List Char → Cursor → Option (Scanned × Bool)
  | 0, _, _, _ => none
  | fuel + 1, text, gap, c =>
    let broken := gap.any isBreak
    if c.atSeparator || c.rest.head? == some '#' then some (⟨text, c⟩, broken)
    else do
      let word ← plainWord flow c.rest
      if word.isEmpty then return (⟨text, c⟩, broken)
      let text := text ++ joint gap ++ word
      let (gap, c) := (c.skip word.length).takeWhile isGap
      let broken := gap.any isBreak
      if gap.isEmpty then return (⟨text, c⟩, false)
      let margin := (parent + 1).toNat
      if tabInMargin margin gap then none
      if broken && !flow && c.column < margin then return (⟨text, c⟩, true)
      plainScalar flow parent fuel text gap c

/-- What ends a piece of quoted text. -/
inductive Stop
  | gap
  | quote
  /-- A line break that does not count. -/
  | joined
  deriving DecidableEq, Repr

structure Piece where
  text : List Char
  size : Nat
  stop : Stop

def Piece.before (c : Char) (size : Nat) (p : Piece) : Piece := ⟨c :: p.text, p.size + size, p.stop⟩

def singlePiece : List Char → Piece
  | '\'' :: '\'' :: cs => (singlePiece cs).before '\'' 2
  | '\'' :: _ => ⟨[], 0, .quote⟩
  | c :: cs => if isGap c then ⟨[], 0, .gap⟩ else (singlePiece cs).before c 1
  | [] => ⟨[], 0, .gap⟩

def plainEscape? (c : Char) : Option Char :=
  match c with
  | '0' => some '\x00'
  | 'a' => some '\x07'
  | 'b' => some '\x08'
  | 't' => some '\t'
  | '\t' => some '\t'
  | 'n' => some '\n'
  | 'v' => some '\x0b'
  | 'f' => some '\x0c'
  | 'r' => some '\r'
  | 'e' => some '\x1b'
  | ' ' => some ' '
  | '"' => some '"'
  | '/' => some '/'
  | '\\' => some '\\'
  | 'N' => some '\u0085'
  | '_' => some '\u00a0'
  | 'L' => some '\u2028'
  | 'P' => some '\u2029'
  | _ => none

/-- The character with a code in hexadecimal digits. -/
def coded? (ds : List Char) : Option Char :=
  let n := hexadecimal ds
  if ds.all isHexDigit && n.isValidChar then some (Char.ofNat n) else none

def doublePiece : List Char → Option Piece
  | '"' :: _ => some ⟨[], 0, .quote⟩
  | '\\' :: 'x' :: a :: b :: cs => do
    let c ← coded? [a, b]
    return (← doublePiece cs).before c 4
  | '\\' :: 'u' :: a :: b :: c :: d :: cs => do
    let e ← coded? [a, b, c, d]
    return (← doublePiece cs).before e 6
  | '\\' :: 'U' :: a :: b :: c :: d :: e :: f :: g :: h :: cs => do
    let i ← coded? [a, b, c, d, e, f, g, h]
    return (← doublePiece cs).before i 10
  | '\\' :: '\r' :: '\n' :: _ => some ⟨[], 3, .joined⟩
  | '\\' :: c :: cs =>
    if isBreak c then some ⟨[], 2, .joined⟩
    else do
      let e ← plainEscape? c
      return (← doublePiece cs).before e 2
  | ['\\'] => none
  | c :: cs => if isGap c then some ⟨[], 0, .gap⟩ else (doublePiece cs).map (·.before c 1)
  | [] => some ⟨[], 0, .gap⟩

/-- Reads a quoted scalar from behind its opening quote. `fuel` bounds the pieces. -/
def quotedScalar (double : Bool) : Nat → List Char → Cursor → Option Scanned
  | 0, _, _ => none
  | fuel + 1, text, c =>
    if c.atSeparator || c.rest.isEmpty then none
    else do
      let p ← if double then doublePiece c.rest else some (singlePiece c.rest)
      let c := c.skip p.size
      let text := text ++ p.text
      if p.stop == .quote then return ⟨text, c.next⟩
      let (gap, c) := c.takeWhile isGap
      quotedScalar double fuel (text ++ if p.stop == .joined then breaks gap else joint gap) c

/-- What happens to the line breaks at the end of a block. -/
inductive Chomp
  | strip
  | clip
  | keep
  deriving DecidableEq, Repr

structure BlockHeader where
  chomp : Chomp
  indent : Option Nat

def chomp? : Char → Option Chomp
  | '-' => some .strip
  | '+' => some .keep
  | _ => none

def indentDigit? (c : Char) : Option Nat := if isDigit c && c != '0' then some (digitValue c) else none

/-- The signs after the indicator of a block, in either order. -/
def blockHeader (cs : List Char) : BlockHeader × Nat :=
  match cs.take 2 with
  | [a, b] =>
    match chomp? a, indentDigit? a, chomp? b, indentDigit? b with
    | some k, _, _, some n => (⟨k, some n⟩, 2)
    | _, some n, some k, _ => (⟨k, some n⟩, 2)
    | some k, _, _, _ => (⟨k, none⟩, 1)
    | _, some n, _, _ => (⟨.clip, some n⟩, 1)
    | _, _, _, _ => (⟨.clip, none⟩, 0)
  | [a] =>
    match chomp? a, indentDigit? a with
    | some k, _ => (⟨k, none⟩, 1)
    | _, some n => (⟨.clip, some n⟩, 1)
    | _, _ => (⟨.clip, none⟩, 0)
  | _ => (⟨.clip, none⟩, 0)

/-- Empty lines, up to the indentation where it is known. -/
structure Margin where
  breaks : List Char
  widest : Nat
  cursor : Cursor

def blockMargin (indent : Option Nat) : Nat → Margin → Option Margin
  | 0, _ => none
  | fuel + 1, m =>
    let spaces := m.cursor.rest.takeWhile (· == ' ')
    let c := m.cursor.skip (match indent with
      | some n => min spaces.length (n - m.cursor.column)
      | none => spaces.length)
    let inside := indent.all (c.column < ·)
    if inside && c.rest.head? == some '\t' then none
    else
      let m := { m with widest := max m.widest c.column, cursor := c }
      if c.atBreak then
        let after := c.nextLine
        blockMargin indent fuel
          { m with
            breaks := m.breaks ++ Yaml.breaks (c.rest.take (c.rest.length - after.rest.length))
            cursor := after }
      else some m

/-- The part of a block that has been read. -/
structure BlockText where
  text : List Char
  /-- The break after the last line. -/
  last : List Char
  /-- The breaks after that one. -/
  more : List Char
  /-- Whether the last line starts with a blank. -/
  blankStart : Bool
  cursor : Cursor

def BlockText.finish (chomp : Chomp) (b : BlockText) : List Char :=
  b.text ++ (if chomp == .strip then [] else b.last) ++ if chomp == .keep then b.more else []

/-- The lines of a block. In a folded one, breaks between lines that start without a blank fold. -/
def blockLines (folded : Bool) (indent : Nat) : Nat → BlockText → Option BlockText
  | 0, _ => none
  | fuel + 1, b =>
    if b.cursor.column ≠ indent || b.cursor.rest.isEmpty then some b
    else do
      let blankStart := b.cursor.rest.head?.any isSpace
      let joint :=
        if folded && b.last == ['\n'] && !b.blankStart && !blankStart then
          if b.more.isEmpty then [' '] else b.more
        else b.last ++ b.more
      let (line, c) := b.cursor.takeWhile (!isBreak ·)
      let after := if c.atBreak then c.nextLine else c
      let last := breaks (c.rest.take (c.rest.length - after.rest.length))
      let m ← blockMargin (some indent) (after.rest.length + 1) ⟨[], 0, after⟩
      blockLines folded indent fuel ⟨b.text ++ joint ++ line, last, m.breaks, blankStart, m.cursor⟩

/-- Reads a block from behind its indicator, within lines indented by `parent`. -/
def blockScalar (folded : Bool) (parent : Int) (c : Cursor) : Option Scanned := do
  let (header, size) := blockHeader c.rest
  let c := (c.skip size).dropWhile isSpace
  let c := if c.rest.head? == some '#' then c.dropWhile (!isBreak ·) else c
  if !c.rest.isEmpty && !c.atBreak then none
  let c := if c.atBreak then c.nextLine else c
  let known := header.indent.map fun n => (max parent 0).toNat + n
  let m ← blockMargin known (c.rest.length + 1) ⟨[], 0, c⟩
  let indent := known.getD (max (max m.widest (parent + 1).toNat) 1)
  let b ← blockLines folded indent (m.cursor.rest.length + 1) ⟨[], [], m.breaks, false, m.cursor⟩
  return ⟨b.finish header.chomp, b.cursor⟩

end Gateway.Yaml
