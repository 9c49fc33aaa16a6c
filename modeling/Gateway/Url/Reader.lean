import Gateway.Idna
import Gateway.Text
import Gateway.Url
import Gateway.Url.Address

/-! # Reading absolute URLs -/
namespace Gateway
open Text

/-! ## Percent encoding -/

namespace Percent

def encodeByte (b : UInt8) : List Char :=
  ['%', upperHexDigit (b.toNat / 16), upperHexDigit (b.toNat % 16)]

/-- Writes a character as its bytes if it is in the set, or is not printable ASCII. -/
def encodeChar (set : List Char) (c : Char) : List Char :=
  if c.toNat < 0x20 || c.toNat > 0x7E || set.contains c then
    (utf8 (String.singleton c)).flatMap encodeByte
  else [c]

def encode (set : List Char) (cs : List Char) : List Char := cs.flatMap (encodeChar set)

def controls : List Char := []

def fragmentSet : List Char := [' ', '"', '<', '>', '\x60']

def querySet : List Char := [' ', '"', '#', '<', '>']

/-- In web schemes a quote is encoded as well. -/
def specialQuerySet : List Char := '\'' :: querySet

def pathSet : List Char := fragmentSet ++ ['#', '?', '\x7b', '\x7d']

def userSet : List Char := pathSet ++ ['/', ':', ';', '=', '@', '[', '\\', ']', '^', '|']

/-- Two digits after a percent sign stand for a byte; a percent sign without them for itself. -/
def decode : Bytes → Bytes
  | 0x25 :: a :: b :: rest =>
    match hexValue? (Char.ofNat a.toNat), hexValue? (Char.ofNat b.toNat) with
    | some x, some y => (x * 16 + y).toUInt8 :: decode rest
    | _, _ => 0x25 :: decode (a :: b :: rest)
  | b :: rest => b :: decode rest
  | [] => []

end Percent

/-! ## The parts of a URL -/

namespace Url

inductive Kind
  | web
  | file
  | general
  deriving DecidableEq, Repr

def Kind.ofScheme (scheme : String) : Kind :=
  if ["http", "https", "ws", "wss", "ftp"].contains scheme then .web
  else if scheme = "file" then .file
  else .general

/-- Web and file URLs have backslashes for slashes and never lack a path. -/
def Kind.isSpecial (k : Kind) : Bool := k != .general

def defaultPort? : String → Option Nat
  | "http" | "ws" => some 80
  | "https" | "wss" => some 443
  | "ftp" => some 21
  | _ => none

def isControlOrSpace (c : Char) : Bool := c.toNat ≤ 0x20

/-- Controls and spaces at the ends do not count, nor tabs and line ends anywhere. -/
def clean (cs : List Char) : List Char :=
  let trimmed := ((cs.dropWhile isControlOrSpace).reverse.dropWhile isControlOrSpace).reverse
  trimmed.filter fun c => c != '\t' && c != '\n' && c != '\r'

def isSchemeCharacter (c : Char) : Bool := c.isAlphanum || c == '+' || c == '-' || c == '.'

/-- The scheme in small letters and what follows its colon. -/
def cutScheme? (cs : List Char) : Option (String × List Char) :=
  match cs.head?, cs.dropWhile isSchemeCharacter with
  | some c, ':' :: rest =>
    if c.isAlpha then
      some (String.ofList ((cs.takeWhile isSchemeCharacter).map Char.toLower), rest)
    else none
  | _, _ => none

def isSlash (special : Bool) (c : Char) : Bool := c == '/' || (special && c == '\\')

def endsAuthority (special : Bool) (c : Char) : Bool := isSlash special c || c == '?' || c == '#'

/-- Everything up to the last at-sign, if there is one, and the rest. -/
def cutUser (cs : List Char) : Option (List Char) × List Char :=
  if cs.contains '@' then
    let tail := (cs.reverse.takeWhile (· != '@')).reverse
    (some (cs.take (cs.length - tail.length - 1)), tail)
  else (none, cs)

/-- A host may hold colons between brackets. -/
def cutHost (bracket : Bool) : List Char → List Char × List Char
  | [] => ([], [])
  | c :: cs =>
    if c == ':' && !bracket then ([], c :: cs)
    else
      let bracket := if c == '[' then true else if c == ']' then false else bracket
      let (host, rest) := cutHost bracket cs
      (c :: host, rest)

def bracketed? (cs : List Char) : Except Fault (Option Host) :=
  match cs with
  | '[' :: inner =>
    if inner.getLast? == some ']' then
      match Address.ipv6? inner.dropLast with
      | some groups => .ok (some (.ipv6 groups))
      | none => .error .ipv6
    else .error .ipv6
  | _ => .ok none

def readDomain (cs : List Char) : Except Fault Host :=
  match (ofUtf8? (Percent.decode (utf8 (String.ofList cs)))).bind fun s => Idna.toAscii? s.toList with
  | none => .error .domain
  | some [] => .error .emptyHost
  | some name =>
    if Address.endsInNumber name then
      match Address.ipv4? name with
      | some n => .ok (.ipv4 n)
      | none => .error .ipv4
    else .ok (.domain (String.ofList name))

/-- The host of a web URL: an address, or a domain name in its ASCII form. -/
def readHost (cs : List Char) : Except Fault Host := do
  match ← bracketed? cs with
  | some h => return h
  | none => readDomain cs

def isHostBreaker (c : Char) : Bool :=
  ['\x00', '\t', '\n', '\r', ' ', '#', '/', ':', '<', '>', '?', '@', '[', '\\', ']', '^', '|'].contains c

/-- Outside the web a host is any text without separators. -/
def readPlainHost (cs : List Char) : Except Fault (Option Host) := do
  match ← bracketed? cs with
  | some h => return some h
  | none =>
    if cs.any isHostBreaker then .error .hostCharacter
    else if cs.isEmpty then return none
    else return some (.domain (String.ofList (Percent.encode Percent.controls cs)))

/-- The port after a colon, if there is one; the default port of the scheme counts as none. -/
def readPort (scheme : String) (cs : List Char) : Except Fault (Option Nat) :=
  let ds := cs.takeWhile (· != '\\')
  if !ds.all isDigit || decimal ds > 65535 then .error .port
  else if ds.isEmpty || defaultPort? scheme = some (decimal ds) then .ok none
  else .ok (some (decimal ds))

def readUser (cs : List Char) : String × Option String :=
  match cutChars ':' cs with
  | (name, none) => (String.ofList (Percent.encode Percent.userSet name), none)
  | (name, some password) =>
    (String.ofList (Percent.encode Percent.userSet name),
      if password.isEmpty then none
      else some (String.ofList (Percent.encode Percent.userSet password)))

/-- Reads what stands between the slashes and the path. -/
def readAuthority (scheme : String) (kind : Kind) (cs : List Char) : Except Fault Authority := do
  let (user, place) := cutUser cs
  let (host, port) := cutHost false place
  let host ←
    if kind.isSpecial then
      if host.isEmpty then .error .emptyHost else (readHost host).map some
    else readPlainHost host
  if host.isNone && !port.isEmpty then .error .emptyHost
  let port ← readPort scheme (port.drop 1)
  let (name, password) := match user with
    | some u => readUser u
    | none => ("", none)
  if host.isNone && (!name.isEmpty || password.isSome) then .error .emptyHost
  return ⟨name, password, host, port⟩

def endsPath (c : Char) : Bool := c == '?' || c == '#'

/-- The pieces of a path between its slashes. -/
def pieces (special : Bool) (cs : List Char) : List (List Char) :=
  splitChars '/' (cs.map fun c => if isSlash special c then '/' else c)

def dots : List (List Char) := [".", "%2e"].map String.toList

def doubleDots : List (List Char) := ["..", ".%2e", "%2e.", "%2e%2e"].map String.toList

def isDot (cs : List Char) : Bool := dots.contains (cs.map Char.toLower)

def isDoubleDot (cs : List Char) : Bool := doubleDots.contains (cs.map Char.toLower)

/-- Takes the pieces one by one; `seen` holds the segments before, last first. One dot stands for
the same level and two dots for the level above. -/
def normalize (seen : List (List Char)) : List (List Char) → List (List Char)
  | [] => seen.reverse
  | p :: ps =>
    let last := ps.isEmpty
    if isDoubleDot p then
      normalize (if last then [] :: seen.drop 1 else seen.drop 1) ps
    else if isDot p then normalize (if last then [] :: seen else seen) ps
    else normalize (Percent.encode Percent.pathSet p :: seen) ps

/-- The path in its normal form, from its first slash on. -/
def readPath (special : Bool) (cs : List Char) : String :=
  String.ofList ((normalize [] (pieces special cs)).flatMap fun s => '/' :: s)

def isDriveLetter : List Char → Bool
  | [c, d] => c.isAlpha && (d == ':' || d == '|')
  | _ => false

/-- A drive letter at the start of a file path keeps its colon and is never left. -/
def normalizeFile (seen : List (List Char)) : List (List Char) → List (List Char)
  | [] => seen.reverse
  | p :: ps =>
    let last := ps.isEmpty
    let above := match seen with
      | [d] => if isDriveLetter d then [d] else []
      | _ => seen.drop 1
    if isDoubleDot p then normalizeFile (if last then [] :: above else above) ps
    else if isDot p then normalizeFile (if last then [] :: seen else seen) ps
    else if seen.isEmpty && isDriveLetter p then normalizeFile ((p.take 1 ++ [':']) :: seen) ps
    else normalizeFile (Percent.encode Percent.pathSet p :: seen) ps

def readFilePath (cs : List Char) : String :=
  let segments := normalizeFile [] (pieces true cs)
  let text := segments.flatMap fun s => '/' :: s
  String.ofList ('/' :: text.dropWhile (· == '/'))

/-- The query and the fragment that follow a path. -/
def readTail (kind : Kind) (cs : List Char) : Option String × Option String :=
  let encode (set : List Char) (cs : List Char) := String.ofList (Percent.encode set cs)
  let set := if kind.isSpecial then Percent.specialQuerySet else Percent.querySet
  match cs with
  | '?' :: rest =>
    let (query, fragment) := cutChars '#' rest
    (some (encode set query), fragment.map (encode Percent.fragmentSet))
  | '#' :: rest => (none, some (encode Percent.fragmentSet rest))
  | _ => (none, none)

def cutPath (cs : List Char) : List Char × List Char :=
  (cs.takeWhile (!endsPath ·), cs.dropWhile (!endsPath ·))

def assemble (scheme : String) (kind : Kind) (authority : Option Authority) (path : String)
    (tail : List Char) : Url :=
  let (query, fragment) := readTail kind tail
  ⟨scheme, authority, path, query, fragment⟩

def readWithAuthority (scheme : String) (kind : Kind) (cs : List Char) : Except Fault Url := do
  let place := cs.takeWhile (!endsAuthority kind.isSpecial ·)
  let rest := cs.dropWhile (!endsAuthority kind.isSpecial ·)
  if place == ['@'] && !rest.isEmpty then .error .emptyHost
  let authority ← readAuthority scheme kind place
  let (path, tail) := cutPath rest
  let path :=
    match path with
    | [] => if kind.isSpecial then "/" else ""
    | c :: cs => readPath kind.isSpecial (if isSlash kind.isSpecial c then cs else c :: cs)
  return assemble scheme kind (some authority) path tail

/-- Without an authority the path either starts at a slash or is kept as it is. -/
def readGeneral (scheme : String) (cs : List Char) : Except Fault Url :=
  match cs with
  | '/' :: '/' :: rest => readWithAuthority scheme .general rest
  | '/' :: rest =>
    let (path, tail) := cutPath rest
    .ok (assemble scheme .general none (readPath false path) tail)
  | cs =>
    let (path, tail) := cutPath cs
    .ok (assemble scheme .general none (String.ofList (Percent.encode Percent.controls path)) tail)

def readFileHost (cs : List Char) : Except Fault (Option Host) := do
  if cs.isEmpty then return none
  match ← readHost cs with
  | .domain "localhost" => return none
  | h => return some h

def readFile (cs : List Char) : Except Fault Url := do
  let finish (host : Option Host) (cs : List Char) : Url :=
    let (path, tail) := cutPath cs
    let path := match path with
      | c :: rest => if isSlash true c then rest else c :: rest
      | [] => []
    assemble "file" .file (some ⟨"", none, host, none⟩) (readFilePath path) tail
  match cs with
  | a :: b :: rest =>
    if isSlash true a && isSlash true b then
      let place := rest.takeWhile (!endsAuthority true ·)
      if isDriveLetter place then return finish none rest
      else
        let host ← readFileHost place
        return finish host (rest.dropWhile (!endsAuthority true ·))
    else return finish none cs
  | _ => return finish none cs

/-- Reads a text as an absolute URL. -/
def read (s : String) : Except Fault Url :=
  match cutScheme? (clean s.toList) with
  | none => .error .relative
  | some (scheme, rest) =>
    match Kind.ofScheme scheme with
    | .web => readWithAuthority scheme .web (rest.dropWhile (isSlash true))
    | .file => readFile rest
    | .general => readGeneral scheme rest

end Url
end Gateway
