import Gateway.Text

/-! # Request targets and absolute URIs -/
namespace Gateway
open Text

/-- `tail` is the path as it is written, which may be empty. -/
structure Uri where
  scheme : Option String
  authority : Option String
  tail : String
  query : Option String
  deriving DecidableEq, Repr

namespace Uri

inductive Fault
  | character
  | authority
  | form
  | tooLong
  | empty
  | schemeTooLong
  deriving DecidableEq, Repr

def Fault.message : Fault → String
  | .character => "invalid uri character"
  | .authority => "invalid authority"
  | .form => "invalid format"
  | .tooLong => "uri too long"
  | .empty => "empty string"
  | .schemeTooLong => "scheme too long"

/-- The path. That of an absolute URI is never empty, that of a bare authority always. -/
def path (u : Uri) : String :=
  if u.tail.isEmpty && (u.scheme.isSome || u.query.isSome) then "/" else u.tail

def render (u : Uri) : String :=
  (match u.scheme with | some s => s ++ "://" | none => "") ++ u.authority.getD "" ++ u.path ++
    (match u.query with | some q => "?" ++ q | none => "")

/-- The authority without its user and its port. -/
def host? (u : Uri) : Option String :=
  u.authority.map fun a =>
    let place := (a.toList.reverse.takeWhile (· != '@')).reverse
    String.ofList <| match place with
      | '[' :: _ => place.takeWhile (· != ']') ++ [']']
      | _ => place.takeWhile (· != ':')

/-- What a path may hold as it is: of ASCII the printable characters but for some, and all that is
beyond ASCII. The delete character, the last one of ASCII, is refused. -/
def isPathCharacter (c : Char) : Bool :=
  let n := c.toNat
  n = 0x21 || n = 0x22 || (0x24 ≤ n && n ≤ 0x3B) || n = 0x3D || (0x40 ≤ n && n ≤ 0x5F) ||
    (0x61 ≤ n && n ≤ 0x7E) || n ≥ 0x80

/-- What a query may hold as it is: unlike a path no quotes, but question marks and backquotes. -/
def isQueryCharacter (c : Char) : Bool :=
  let n := c.toNat
  n = 0x21 || (0x24 ≤ n && n ≤ 0x3B) || n = 0x3D || (0x3F ≤ n && n ≤ 0x7E) || n ≥ 0x80

/-- The path and the query; what follows a number sign is dropped. -/
def readTail (cs : List Char) : Except Fault (String × Option String) :=
  let path := cs.takeWhile fun c => c != '?' && c != '#'
  let rest := cs.dropWhile fun c => c != '?' && c != '#'
  if !path.all isPathCharacter then .error .character
  else match rest with
    | '?' :: rest =>
      let query := rest.takeWhile (· != '#')
      if query.all isQueryCharacter then .ok (String.ofList path, some (String.ofList query))
      else .error .character
    | _ => .ok (String.ofList path, none)

def isAuthorityCharacter (c : Char) : Bool :=
  c.isAlphanum || ("!$&'()*+,-.:;=@[]_~%".toList.contains c)

/-- What the reader of an authority has seen since the last at-sign or closing bracket. -/
structure Seen where
  colons : Nat
  opened : Bool
  closed : Bool
  percent : Bool
  last : Option Char

def maxColons : Nat := 8

def scanAuthority (s : Seen) : List Char → Except Fault Seen
  | [] => .ok s
  | c :: cs =>
    let s' := { s with last := some c }
    if !isAuthorityCharacter c then .error .character
    else if c == ':' then
      if s.colons ≥ maxColons then .error .authority
      else scanAuthority { s' with colons := s.colons + 1 } cs
    else if c == '[' then
      if s.percent || s.opened then .error .authority else scanAuthority { s' with opened := true } cs
    else if c == ']' then
      if !s.opened || s.closed then .error .authority
      else scanAuthority { s' with closed := true, colons := 0, percent := false } cs
    else if c == '@' then scanAuthority { s' with colons := 0, percent := false } cs
    else if c == '%' then scanAuthority { s' with percent := true } cs
    else scanAuthority s' cs

/-- An authority has its brackets in a pair, at most one colon before the port, and something after
its last at-sign. -/
def checkAuthority (cs : List Char) : Except Fault Unit := do
  let s ← scanAuthority ⟨0, false, false, false, none⟩ cs
  if s.opened != s.closed || s.colons > 1 || s.last == some '@' || s.percent then .error .authority

def endsAuthority (c : Char) : Bool := c == '/' || c == '?' || c == '#'

def isSchemeCharacter (c : Char) : Bool :=
  c.isAlphanum || c == '+' || c == '-' || c == '.' || c == '~'

def maxScheme : Nat := 64

/-- The scheme and what follows the two slashes after it. The schemes of the web are written in
small letters. -/
def cutScheme (cs : List Char) : Except Fault (Option String × List Char) :=
  match cs.dropWhile isSchemeCharacter with
  | ':' :: '/' :: '/' :: rest =>
    let scheme := cs.takeWhile isSchemeCharacter
    let lower := String.ofList (scheme.map Char.toLower)
    if lower = "http" || lower = "https" then .ok (some lower, rest)
    else if cs.length ≤ 3 then .ok (none, cs)
    else if scheme.length > maxScheme then .error .schemeTooLong
    else .ok (some (String.ofList scheme), rest)
  | _ => .ok (none, cs)

def maxLength : Nat := 65534

def readFull (cs : List Char) : Except Fault Uri := do
  let (scheme, rest) ← cutScheme cs
  let authority := rest.takeWhile (!endsAuthority ·)
  let tail := rest.dropWhile (!endsAuthority ·)
  checkAuthority authority
  match scheme with
  | none =>
    if tail.isEmpty then return ⟨none, some (String.ofList authority), "", none⟩ else .error .form
  | some scheme =>
    if authority.isEmpty then .error .form
    else
      let (path, query) ← readTail tail
      return ⟨some scheme, some (String.ofList authority), path, query⟩

def read (s : String) : Except Fault Uri := do
  if s.utf8ByteSize > maxLength then .error .tooLong
  match s.toList with
  | [] => .error .empty
  | ['*'] => return ⟨none, none, "*", none⟩
  | ['?'] => .error .character
  | ['#'] => .error .character
  | '/' :: cs =>
    let (path, query) ← readTail ('/' :: cs)
    return ⟨none, none, path, query⟩
  | cs => readFull cs

end Uri
end Gateway
