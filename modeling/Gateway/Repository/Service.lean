import Gateway.Assoc
import Gateway.Double
import Gateway.Exchange
import Gateway.Json.Reader
import Gateway.Json.Writer
import Gateway.Repository

/-! # Routes from a service that serves a list of definitions -/
namespace Gateway

/-! ## One form for JSON values that mean the same -/

namespace Json

mutual
/-- The value with each field once, the last one given, and with fields in the order of their
names. Equal numbers are written alike. -/
def canonical : Json → Json
  | .real literal => .real (((Double.read? literal).map Double.render).getD literal)
  | .list xs => .list (canonicalItems xs)
  | .record fields => .record ((canonicalFields [] fields).mergeSort fun a b => a.1 ≤ b.1)
  | x => x

def canonicalItems : List Json → List Json
  | [] => []
  | x :: xs => x.canonical :: canonicalItems xs

def canonicalFields (seen : List (String × Json)) : List (String × Json) → List (String × Json)
  | [] => seen
  | (k, x) :: fields => canonicalFields (Assoc.set k x.canonical seen) fields
end

/-- A text that equal values share. -/
def digest (x : Json) : String := x.canonical.render

end Json

/-! ## Stamps and entries -/

/-- What a service served for a name when it last changed, and the stamp given to it. -/
structure Revision where
  digest : String
  stamp : Int
  deriving DecidableEq, Repr

/-- The last revision of each name served without a version. -/
abbrev Revisions := Assoc Revision

namespace Revisions

/-- The stamp of what is served for a name: the last one, as long as nothing changes, or else the
present time, but later than any stamp before it. -/
def stamp (now : Int) (name digest : String) (rs : Revisions) : Int × Revisions :=
  match Assoc.get? name rs with
  | none => (now, Assoc.set name ⟨digest, now⟩ rs)
  | some r =>
    if r.digest = digest then (r.stamp, rs)
    else
      let next := max now (r.stamp + 1)
      (next, Assoc.set name ⟨digest, next⟩ rs)

def retain (names : List String) (rs : Revisions) : Revisions :=
  rs.filter fun (name, _) => names.contains name

end Revisions

namespace RouteService

def isVersioned (entry : Json) : Bool := (entry.get? "updatedAt").isSome

/-- The definition in an entry, with a stamp if it has no version. -/
def readEntry (now : Int) (entry : Json) (rs : Revisions) : Option Definition × Revisions :=
  match Definition.decode? entry.canonical with
  | none => (none, rs)
  | some d =>
    if isVersioned entry then (some d, rs)
    else
      let (stamp, rs) := rs.stamp now (Text.trim d.name) entry.digest
      (some { d with updatedAt := stamp }, rs)

/-- The definitions in the entries, each at the time of its own on the clock. -/
def readEntries (clock : Nat → Int) : Nat → List Json → Revisions → List Definition × Revisions
  | _, [], rs => ([], rs)
  | i, e :: es, rs =>
    let (d, rs) := readEntry (clock i) e rs
    let (ds, rs) := readEntries clock (i + 1) es rs
    (d.toList ++ ds, rs)

/-- The routes that a list of entries makes. Revisions are kept of the names of routes only. -/
def readList (clock : Nat → Int) (entries : List Json) (rs : Revisions) : List Route × Revisions :=
  let (ds, rs) := readEntries clock 0 entries rs
  let routes := Batch.validate ds
  (routes, rs.retain (routes.map (·.name)))

/-- The entries in an answer. -/
def entries (url : String) (x : Exchange) : Except RepositoryFault (List Json) :=
  match x.body url with
  | .error reason => .error (.unavailable (url ++ ": " ++ reason))
  | .ok body =>
    match Json.readBytes body with
    | some (.list xs) => .ok xs
    | _ => .error (.malformed (url ++ ": " ++ undecodableBody))

/-- What a service at an address gives. A failure changes nothing. -/
def routes (url : String) (clock : Nat → Int) (x : Exchange) (rs : Revisions) :
    Fetched × Revisions :=
  match entries url x with
  | .error e => (.error e, rs)
  | .ok es =>
    let (routes, rs) := readList clock es rs
    (.ok routes, rs)

end RouteService
end Gateway
