import Gateway.FileTree
import Gateway.Json.Reader
import Gateway.Repository
import Gateway.Yaml.Reader

/-! # Routes from a tree of files, one definition in each -/
namespace Gateway.RouteFiles
open Text

inductive Format
  | json
  | yaml
  deriving DecidableEq, Repr

/-- The format of a route file; other files hold no routes. -/
def format? (name : String) : Option Format :=
  match fileExtension? name with
  | some "json" => some .json
  | some "yaml" => some .yaml
  | some "yml" => some .yaml
  | _ => none

/-- A file found in a tree. -/
structure Found where
  path : List String
  bytes : Bytes
  modified : Int
  deriving Repr

/-- Whether a change of the file at a path may be one of the routes. -/
def isRouteFile (path : List String) : Bool := (path.getLast?.bind format?).isSome

/-- Why a directory cannot be read. -/
inductive Obstacle
  | missing
  | denied
  | noDirectory
  deriving DecidableEq, Repr

def Obstacle.message : Obstacle → String
  | missing => "No such file or directory (os error 2)"
  | denied => "Permission denied (os error 13)"
  | noDirectory => "Not a directory (os error 20)"

/-- The route files that a directory lists. -/
def filesIn (path : List String) (entries : List (String × FileTree)) : List Found :=
  entries.filterMap fun
    | (name, .file bytes modified) =>
      if isRouteFile (path ++ [name]) then some ⟨path ++ [name], bytes, modified⟩ else none
    | _ => none

/-- The directories that a directory lists, with their paths. -/
def directoriesIn (path : List String) (entries : List (String × FileTree)) :
    List (List String × FileTree) :=
  entries.filterMap fun
    | (_, .file _ _) => none
    | (name, t) => some (path ++ [name], t)

/-- How much there is below directories, which only the end of the search depends on. -/
noncomputable def extent : List (List String × FileTree) → Nat
  | [] => 0
  | d :: ds => sizeOf d.2 + extent ds

theorem extent_append (ds es : List (List String × FileTree)) :
    extent (ds ++ es) = extent ds + extent es := by
  induction ds with
  | nil => exact (Nat.zero_add _).symm
  | cons d ds ih => rw [List.cons_append, extent, extent, ih, Nat.add_assoc]

theorem extent_reverse (ds : List (List String × FileTree)) : extent ds.reverse = extent ds := by
  induction ds with
  | nil => rfl
  | cons d ds ih =>
    rw [List.reverse_cons, extent_append, ih, extent, extent, extent, Nat.add_zero, Nat.add_comm]

theorem extent_directoriesIn_le (path : List String) (entries : List (String × FileTree)) :
    extent (directoriesIn path entries) ≤ sizeOf entries := by
  induction entries with
  | nil => exact Nat.zero_le _
  | cons e entries ih =>
    rw [directoriesIn] at ih ⊢
    obtain ⟨name, _ | _ | _⟩ := e <;> simp [extent] <;> omega

/-- The route files below the directories that are still to be read, the one that came up last
first. The fault is the path of a directory that cannot be read. -/
def collect (pending : List (List String × FileTree)) (found : List Found) :
    Except (List String × Obstacle) (List Found) :=
  match pending with
  | [] => .ok found
  | (path, .directory entries) :: pending =>
    collect ((directoriesIn path entries).reverse ++ pending) (found ++ filesIn path entries)
  | (path, .closed) :: _ => .error (path, .denied)
  | (path, .file _ _) :: _ => .error (path, .noDirectory)
termination_by extent pending
decreasing_by
  have := extent_directoriesIn_le path entries
  rw [extent_append, extent_reverse, extent, FileTree.directory.sizeOf_spec]
  omega

/-- The order of paths, name by name. -/
def pathLe : List String → List String → Bool
  | [], _ => true
  | _ :: _, [] => false
  | a :: as, b :: bs => a < b || (a == b && pathLe as bs)

def sorted (found : List Found) : List Found := found.mergeSort fun f g => pathLe f.path g.path

/-- The definition in a text, if it is one and the text is not blank. -/
def decode? (format : Format) (text : String) : Option Definition :=
  if allBlank text then none
  else match format with
    | .json => (Json.readLoosely (utf8 text)).bind Definition.decode?
    | .yaml =>
      match Yaml.read? text with
      | some [doc] => Definition.decode? doc
      | _ => none

/-- The version of a file's definition: the time of the last change, never before 1970, as a number
of 64 bits. -/
def stampOf (modified : Int) : Int := Word.wrap (max modified 0)

/-- The definition in a file. -/
def Found.definition? (f : Found) : Option Definition := do
  let format ← f.path.getLast?.bind format?
  let d ← decode? format (← ofUtf8? f.bytes)
  return { d with updatedAt := stampOf f.modified }

def unreadable (root : String) (path : List String) (o : Obstacle) : RepositoryFault :=
  .unavailable ("cannot read " ++ join "/" (root :: path) ++ ": " ++ o.message)

/-- The routes that the definitions below a directory make. -/
def routes (root : String) : Option FileTree → Fetched
  | none => .error (unreadable root [] .missing)
  | some t =>
    match collect [([], t)] [] with
    | .error (path, o) => .error (unreadable root path o)
    | .ok found => .ok (Batch.validate ((sorted found).filterMap Found.definition?))

end Gateway.RouteFiles
