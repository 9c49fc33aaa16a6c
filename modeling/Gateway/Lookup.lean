import Gateway.Route
import Gateway.Pattern.Reader

/-! # Which requests a route admits, and which of two routes is the more specific -/
namespace Gateway

/-- The parts of a request that routing looks at. -/
structure Lookup where
  host : Option String
  path : String
  method : String
  deriving DecidableEq, Repr

/-- How patterns are read: for one that is well-formed, the texts that it matches. -/
abbrev Patterns := String → Option (String → Bool)

/-- Patterns in the usual notation. A pattern may match any part of a text. -/
def Patterns.standard : Patterns := fun s =>
  (Pattern.read? s).map fun p text => p.occursIn text.toList

/-- One condition of a rule. -/
inductive Condition
  | host (name : String)
  | pathPrefix (path : String)
  | pattern (text : String)
  | methods (verbs : List Verb)
  deriving DecidableEq, Repr

namespace Condition

/-- A prefix need not end where a segment of the path ends. -/
def holds (ps : Patterns) (l : Lookup) : Condition → Bool
  | .host name => l.host == some name
  | .pathPrefix p => p.toList.isPrefixOf l.path.toList
  | .pattern text =>
    match ps text with
    | some test => test l.path
    | none => false
  | .methods vs => vs.any (·.accepts l.method)

end Condition

namespace Rule

def conditions (r : Rule) : List Condition :=
  (r.host.map .host).toList ++ (r.pathPrefix.map .pathPrefix).toList ++
    (r.pattern.map .pattern).toList ++ (r.methods.map .methods).toList

/-- Whether the rule's pattern, if it has one, is well-formed. -/
def isReadable (ps : Patterns) (r : Rule) : Bool :=
  match r.pattern with
  | some text => (ps text).isSome
  | none => true

def admits (ps : Patterns) (r : Rule) (l : Lookup) : Bool := r.conditions.all (·.holds ps l)

end Rule

namespace Route

/-- A route whose pattern cannot be read admits nothing. -/
def admits (ps : Patterns) (r : Route) (l : Lookup) : Bool :=
  r.rule.isReadable ps && r.rule.admits ps l

def prefixLength (r : Route) : Nat := (r.pathPrefix.map String.utf8ByteSize).getD 0

/-- Whether `a` comes before `b`, or level with it: the longer prefix first, then a route with a
pattern, then one with methods, then by name. -/
def ahead (a b : Route) : Bool :=
  if a.prefixLength ≠ b.prefixLength then b.prefixLength < a.prefixLength
  else if a.rule.pattern.isSome ≠ b.rule.pattern.isSome then a.rule.pattern.isSome
  else if a.rule.methods.isSome ≠ b.rule.methods.isSome then a.rule.methods.isSome
  else a.name ≤ b.name

end Route

/-- Routes with the most specific first; level ones keep their order. -/
def bySpecificity (rs : List Route) : List Route := rs.mergeSort Route.ahead

end Gateway
