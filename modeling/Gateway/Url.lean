import Gateway.Text

/-! # Absolute URLs and how they are written -/
namespace Gateway
open Text

inductive Host
  | domain (name : String)
  | ipv4 (address : Nat)
  | ipv6 (groups : List Nat)
  deriving DecidableEq, Repr

/-- What stands between the two slashes and the path. The host of a URL may be empty. -/
structure Authority where
  username : String
  password : Option String
  host : Option Host
  port : Option Nat
  deriving DecidableEq, Repr

structure Url where
  scheme : String
  authority : Option Authority
  path : String
  query : Option String
  fragment : Option String
  deriving DecidableEq, Repr

/-- Why a text is no URL. -/
inductive Url.Fault
  | emptyHost
  | domain
  | port
  | ipv4
  | ipv6
  | hostCharacter
  | relative
  deriving DecidableEq, Repr

def Url.Fault.message : Url.Fault → String
  | .emptyHost => "empty host"
  | .domain => "invalid international domain name"
  | .port => "invalid port number"
  | .ipv4 => "invalid IPv4 address"
  | .ipv6 => "invalid IPv6 address"
  | .hostCharacter => "invalid domain character"
  | .relative => "relative URL without a base"

namespace Host

def dotted (address : Nat) : String :=
  join "." ([address / 0x1000000, address / 0x10000 % 256, address / 256 % 256, address % 256].map
    toString)

/-- The longest run of zeros, from where it starts, as the first one of its length. `at` is the
position of the list's head. -/
def longestZeros : Nat → List Nat → Nat × Nat
  | _, [] => (0, 0)
  | start, g :: gs =>
    let run := ((g :: gs).takeWhile (· == 0)).length
    let (s, n) := longestZeros (start + 1) gs
    if run ≥ n then (start, run) else (s, n)

def groupsText (gs : List Nat) : String := join ":" (gs.map fun g => String.ofList (hexDigits g))

/-- The longest run of two or more zero groups is left out. -/
def compressed (gs : List Nat) : String :=
  let (start, run) := longestZeros 0 gs
  if run < 2 then groupsText gs
  else groupsText (gs.take start) ++ "::" ++ groupsText (gs.drop (start + run))

def render : Host → String
  | .domain name => name
  | .ipv4 address => dotted address
  | .ipv6 groups => "[" ++ compressed groups ++ "]"

end Host

namespace Authority

def userText (a : Authority) : String :=
  match a.password with
  | some p => a.username ++ ":" ++ p ++ "@"
  | none => if a.username.isEmpty then "" else a.username ++ "@"

/-- The host and the port, without the user. -/
def place (a : Authority) : String :=
  (match a.host with | some h => h.render | none => "") ++
    (match a.port with | some p => ":" ++ toString p | none => "")

end Authority

namespace Url

def host (u : Url) : Option Host := u.authority.bind (·.host)

/-- The host and the port, empty for a URL that has neither. -/
def place (u : Url) : String :=
  match u.authority with
  | some a => a.place
  | none => ""

/-- A path that starts with two slashes must not look like an authority. -/
def authorityText (u : Url) : String :=
  match u.authority with
  | some a => "//" ++ a.userText ++ a.place
  | none => if u.path.startsWith "//" then "/." else ""

def render (u : Url) : String :=
  u.scheme ++ ":" ++ u.authorityText ++ u.path ++
    (match u.query with | some q => "?" ++ q | none => "") ++
    (match u.fragment with | some f => "#" ++ f | none => "")

end Url
end Gateway
