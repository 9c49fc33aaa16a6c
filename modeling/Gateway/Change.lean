import Gateway.Snapshot

/-! # Changes of the route table -/
namespace Gateway

inductive Change
  /-- New routes and newer ones, put into the table one by one. -/
  | upsert (routes : List Route)
  /-- All the routes that the table is to hold. -/
  | replace (routes : List Route)
  deriving DecidableEq, Repr

namespace Snapshot

def apply (c : Change) (s : Snapshot) : Snapshot :=
  match c with
  | .upsert rs => rs.foldl (fun s r => s.withRoute r) s
  | .replace rs => build rs

/-- Whether a fetched route is new to the table, or newer than the table's. -/
def isFresh (s : Snapshot) (r : Route) : Bool :=
  match s.get? r.name with
  | none => true
  | some old => old.updatedAt < r.updatedAt

/-- What changes the table into a fetched list, nothing if the list holds no news. Where a route of
the table is missing from the list, the whole table is replaced. -/
def diff (s : Snapshot) (fetched : List Route) : Option Change :=
  let names := fetched.map (·.name)
  if s.routes.any fun r => !names.contains r.name then some (.replace fetched)
  else
    let fresh := fetched.filter s.isFresh
    if fresh.isEmpty then none else some (.upsert fresh)

/-- Compares the table with a fetched list and applies what changed. -/
def reconcile (s : Snapshot) (fetched : List Route) : Snapshot :=
  match s.diff fetched with
  | some c => s.apply c
  | none => s

end Snapshot
end Gateway
