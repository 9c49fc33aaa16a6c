import Gateway.Assoc
import Gateway.Text

/-! # Trees of files -/
namespace Gateway
open Text

/-- The part of a file's name behind its last dot, unless the dot is the first character. -/
def fileExtension? (name : String) : Option String :=
  let cs := name.toList.reverse
  match cs.dropWhile (· != '.') with
  | [] => none
  | [_] => none
  | _ :: _ => some (String.ofList (cs.takeWhile (· != '.')).reverse)

/-- A file with its bytes and the time of its last change in milliseconds since the start of 1970,
or a directory with what it lists, in the order of the listing. A directory may be closed to
readers. -/
inductive FileTree
  | file (bytes : Bytes) (modified : Int)
  | directory (entries : List (String × FileTree))
  | closed
  deriving Inhabited

namespace FileTree

def empty : FileTree := .directory []

def entries : FileTree → List (String × FileTree)
  | directory es => es
  | _ => []

def entry? (name : String) (t : FileTree) : Option FileTree := Assoc.get? name t.entries

/-- What stands at a path of names. -/
def at? : List String → FileTree → Option FileTree
  | [], t => some t
  | n :: ns, t => (t.entry? n).bind (at? ns)

/-- Puts something at a path, with the directories that lead there. -/
def put (x : FileTree) : List String → FileTree → FileTree
  | [], _ => x
  | n :: ns, t => .directory (Assoc.set n (put x ns ((t.entry? n).getD empty)) t.entries)

/-- Takes away what stands at a path, if anything does. -/
def remove : List String → FileTree → FileTree
  | [], t => t
  | [n], directory es => .directory (es.filter (·.1 != n))
  | n :: ns, directory es =>
    match Assoc.get? n es with
    | some t => .directory (Assoc.set n (remove ns t) es)
    | none => .directory es
  | _, t => t

end FileTree

/-- The names in a path, without those that lead nowhere. -/
def pathNames (path : String) : List String :=
  (split '/' path).filter fun n => !n.isEmpty && n != "."

/-- The names that are left when two dots lead back, unless they lead out of the tree. -/
def withoutBacksteps (names : List String) : Option (List String) :=
  names.foldl (fun (seen : Option (List String)) n =>
    if n == ".." then seen.bind fun s => if s.isEmpty then none else some s.dropLast
    else seen.map (· ++ [n])) (some [])

/-- What a path leads to from the directory at the root of a tree. -/
def FileTree.locate? (path : String) (t : FileTree) : Option FileTree :=
  if path.isEmpty || path.toList.head? == some '/' then none
  else (withoutBacksteps (pathNames path)).bind fun names => t.at? names

end Gateway
