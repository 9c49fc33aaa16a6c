import Gateway.Assoc
import Gateway.Lookup

/-! # The index of rules: routes by host, the most specific first -/
namespace Gateway

structure Index where
  byHost : Assoc (List Route)
  anyHost : List Route

namespace Index

def empty : Index := ⟨[], []⟩

/-- Adds a route to its group, at the end. -/
def push (r : Route) (x : Index) : Index :=
  match r.host with
  | some h => { x with byHost := Assoc.set h ((Assoc.get? h x.byHost).getD [] ++ [r]) x.byHost }
  | none => { x with anyHost := x.anyHost ++ [r] }

def sort (x : Index) : Index :=
  ⟨x.byHost.map fun (h, rs) => (h, bySpecificity rs), bySpecificity x.anyHost⟩

def build (rs : List Route) : Index := (rs.foldl (fun x r => x.push r) empty).sort

/-- The index without the routes of a name, and without the groups that this leaves empty. -/
def without (name : String) (x : Index) : Index :=
  ⟨(x.byHost.map fun (h, rs) => (h, rs.filter (·.name != name))).filter (!·.2.isEmpty),
    x.anyHost.filter (·.name != name)⟩

/-- The index with a route in the place of those of its name. -/
def withRoute (r : Route) (x : Index) : Index := ((x.without r.name).push r).sort

def ofHost (host : Option String) (x : Index) : List Route :=
  (host.bind fun h => Assoc.get? h x.byHost).getD []

/-- The first route that admits the request; those bound to its host come before the others. -/
def find? (ps : Patterns) (l : Lookup) (x : Index) : Option Route :=
  (x.ofHost l.host ++ x.anyHost).find? (·.admits ps l)

end Index
end Gateway
