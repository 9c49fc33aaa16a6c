import Gateway.Route.Validation

/-! # Sources of routes, and the batches of definitions that they give -/
namespace Gateway

/-- Why a source gives no routes. -/
inductive RepositoryFault
  | unavailable (reason : String)
  /-- The source answered with something else than a list of routes. -/
  | malformed (reason : String)
  | io (reason : String)
  deriving DecidableEq, Repr

def RepositoryFault.message : RepositoryFault → String
  | unavailable reason => "Route source unavailable: " ++ reason
  | malformed reason => "Malformed route source payload: " ++ reason
  | io reason => "IO error: " ++ reason

/-- What a source gives when it is asked for all its routes. -/
abbrev Fetched := Except RepositoryFault (List Route)

namespace Batch

/-- Puts a route at the place of the one of its name if it is newer, or at the end. -/
def put (r : Route) : List Route → List Route
  | [] => [r]
  | k :: ks =>
    if k.name = r.name then (if k.updatedAt < r.updatedAt then r else k) :: ks else k :: put r ks

def converting (ds : List Definition) : List Route := ds.filterMap fun d => d.validate.toOption

/-- The routes of the definitions that make one, the newest of each name and of equals the first. -/
def validate (ds : List Definition) : List Route :=
  (converting ds).foldl (fun routes r => put r routes) []

end Batch
end Gateway
