import Gateway.Index
import Gateway.Trie

/-! # Snapshots of the route table -/
namespace Gateway

/-- The routes of one host, or those bound to none. -/
structure Scope where
  trie : Trie (List Route)
  unprefixed : List Route

namespace Scope

def empty : Scope := ⟨.empty, []⟩

def withRoute (r : Route) (s : Scope) : Scope :=
  match r.pathPrefix with
  | some p => { s with trie := s.trie.update p fun g => some (bySpecificity (g.getD [] ++ [r])) }
  | none => { s with unprefixed := bySpecificity (s.unprefixed ++ [r]) }

/-- The scope without the route, looked for where its prefix puts it. -/
def without (r : Route) (s : Scope) : Scope :=
  match r.pathPrefix with
  | some p =>
    { s with trie := s.trie.update p fun g =>
        let kept := (g.getD []).filter (·.name != r.name)
        if kept.isEmpty then none else some kept }
  | none => { s with unprefixed := s.unprefixed.filter (·.name != r.name) }

/-- Every route that the path leads to, the longest prefix first and those without one last. -/
def candidates (path : String) (s : Scope) : List Route :=
  (s.trie.covering path).flatten ++ s.unprefixed

def resolve (ps : Patterns) (l : Lookup) (s : Scope) : Option Route :=
  (s.candidates l.path).find? (·.admits ps l)

end Scope

structure Snapshot where
  byName : Assoc Route
  hosts : Assoc Scope
  anyHost : Scope
  index : Index

namespace Snapshot

def empty : Snapshot := ⟨[], [], .empty, .empty⟩

/-- The snapshot without a route of its own in the scopes. -/
def withoutScoped (r : Route) (s : Snapshot) : Snapshot :=
  match r.host with
  | some h =>
    match Assoc.get? h s.hosts with
    | some scope => { s with hosts := Assoc.set h (scope.without r) s.hosts }
    | none => s
  | none => { s with anyHost := s.anyHost.without r }

def withScoped (r : Route) (s : Snapshot) : Snapshot :=
  match r.host with
  | some h =>
    { s with hosts := Assoc.set h (((Assoc.get? h s.hosts).getD .empty).withRoute r) s.hosts }
  | none => { s with anyHost := s.anyHost.withRoute r }

def get? (name : String) (s : Snapshot) : Option Route := Assoc.get? name s.byName

/-- The snapshot with a route in the place of the one of its name. -/
def withRoute (r : Route) (s : Snapshot) : Snapshot :=
  let cleared := match s.get? r.name with
    | some old => s.withoutScoped old
    | none => s
  let next := cleared.withScoped r
  { next with index := s.index.withRoute r, byName := Assoc.set r.name r s.byName }

/-- Of routes of one name the last one stays. -/
def build (rs : List Route) : Snapshot := rs.foldl (fun s r => s.withRoute r) empty

def size (s : Snapshot) : Nat := s.byName.length

def isEmpty (s : Snapshot) : Bool := s.byName.isEmpty

/-- All routes, in the order of their names. -/
def routes (s : Snapshot) : List Route :=
  (Assoc.values s.byName).mergeSort fun a b => a.name ≤ b.name

/-- The route by prefix: first among those of the request's host, then among the others. -/
def resolve (ps : Patterns) (l : Lookup) (s : Snapshot) : Option Route :=
  ((l.host.bind fun h => Assoc.get? h s.hosts).bind (·.resolve ps l)).or (s.anyHost.resolve ps l)

/-- The route by conditions alone. -/
def matchRules (ps : Patterns) (l : Lookup) (s : Snapshot) : Option Route := s.index.find? ps l

end Snapshot
end Gateway
