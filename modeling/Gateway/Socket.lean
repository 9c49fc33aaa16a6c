import Gateway.Url
import Gateway.Url.Address

/-! # Socket addresses -/
namespace Gateway
open Text

inductive Ip
  | v4 (octets : List Nat)
  | v6 (groups : List Nat)
  deriving DecidableEq, Repr

namespace Ip

/-- Version 6 addresses that embed one of version 4 show its octets. -/
def render : Ip → String
  | v4 octets => join "." (octets.map toString)
  | v6 [0, 0, 0, 0, 0, 0xFFFF, a, b] =>
    "::ffff:" ++ join "." ([a / 256, a % 256, b / 256, b % 256].map toString)
  | v6 groups => Host.compressed groups

end Ip

structure Socket where
  ip : Ip
  port : Nat
  deriving DecidableEq, Repr

namespace Socket

def number? (limit : Nat) (cs : List Char) : Option Nat :=
  if cs.isEmpty || !cs.all isDigit || decimal cs ≥ limit then none else some (decimal cs)

def port? (cs : List Char) : Option Nat := number? 65536 cs

/-- The groups between brackets, and a zone number after a percent sign. -/
def zoned? (cs : List Char) : Option (List Nat) :=
  match cutChars '%' cs with
  | (groups, none) => Address.ipv6? groups
  | (groups, some zone) => (number? 4294967296 zone).bind fun _ => Address.ipv6? groups

/-- An address and a port, the address in brackets if it is of version 6. -/
def read? (s : String) : Option Socket :=
  match s.toList with
  | '[' :: cs =>
    match cutChars ']' cs with
    | (inner, some (':' :: port)) => do return ⟨.v6 (← zoned? inner), ← port? port⟩
    | _ => none
  | cs =>
    match cutChars ':' cs with
    | (ip, some port) => do return ⟨.v4 (← Address.dotted? ip), ← port? port⟩
    | _ => none

end Socket
end Gateway
