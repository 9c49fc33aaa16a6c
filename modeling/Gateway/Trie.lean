import Gateway.Text
import Gateway.Assoc

/-! # Tries: values stored at paths, segment by segment -/
namespace Gateway
open Text

/-- The segments of a path: what stands between slashes, unless it is empty. -/
def segments (path : String) : List String :=
  ((splitChars '/' path.toList).filter (!·.isEmpty)).map String.ofList

inductive Trie (α : Type)
  | node (value : Option α) (children : List (String × Trie α))

namespace Trie
variable {α : Type}

def value : Trie α → Option α
  | node v _ => v

def children : Trie α → Assoc (Trie α)
  | node _ cs => cs

def empty : Trie α := node none []

instance : Inhabited (Trie α) := ⟨empty⟩

/-- The trie with the value at a path replaced by what `f` makes of it. The nodes on the way to the
path are made if they are missing, and stay. -/
def updateAt (f : Option α → Option α) : List String → Trie α → Trie α
  | [], t => node (f t.value) t.children
  | s :: ss, t =>
    node t.value (Assoc.set s (updateAt f ss ((Assoc.get? s t.children).getD empty)) t.children)

def getAt : List String → Trie α → Option α
  | [], t => t.value
  | s :: ss, t => (Assoc.get? s t.children).bind (getAt ss)

/-- The values on the way down a path, the shortest path first. -/
def along : List String → Trie α → List α
  | [], t => t.value.toList
  | s :: ss, t =>
    t.value.toList ++
      match Assoc.get? s t.children with
      | some c => along ss c
      | none => []

def update (path : String) (f : Option α → Option α) (t : Trie α) : Trie α :=
  updateAt f (segments path) t

def insert (path : String) (a : α) (t : Trie α) : Trie α := t.update path fun _ => some a

/-- The value stored at the path itself. -/
def get? (path : String) (t : Trie α) : Option α := getAt (segments path) t

/-- The values stored at the path and above it, the longest path first. -/
def covering (path : String) (t : Trie α) : List α := (along (segments path) t).reverse

def longest? (path : String) (t : Trie α) : Option α := (t.covering path).head?

/-- Whether there is nothing but the root, and no value there. -/
def isEmpty (t : Trie α) : Bool := t.value.isNone && t.children.isEmpty

end Trie
end Gateway
