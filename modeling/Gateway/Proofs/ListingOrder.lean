import Gateway.Proofs.FileTrees
import Gateway.Proofs.Prefixes
import Gateway.Repository.Files
import Mathlib.Data.List.Lex
import Mathlib.Data.List.Nodup
import Mathlib.Data.List.Perm.Subperm
import Mathlib.Data.String.Basic

/-! # Listing order: the routes of a tree of files do not depend on how its directories are listed -/
namespace Gateway.RouteFiles
open Text FileTree

variable {pending : List (List String × FileTree)} {found : List Found} {p path : List String}
  {entries : List (String × FileTree)} {x : FileTree}

/-- What stands at a path that starts with the path of a directory still to be read. -/
def Reaches (pending : List (List String × FileTree)) (path : List String) (x : FileTree) : Prop :=
  ∃ d ∈ pending, ∃ rest, path = d.1 ++ rest ∧ d.2.at? rest = some x

theorem mem_directoriesIn_iff {d : List String × FileTree} : d ∈ directoriesIn p entries ↔
    ∃ name, (name, d.2) ∈ entries ∧ d.1 = p ++ [name] ∧
      ∀ bytes modified, d.2 ≠ file bytes modified := by
  rw [directoriesIn, List.mem_filterMap]
  constructor
  · rintro ⟨⟨name, t⟩, he, hd⟩
    cases t with
    | file bytes modified => cases hd
    | directory _ | closed =>
      cases hd
      exact ⟨name, he, rfl, by rintro _ _ ⟨⟩⟩
  · rintro ⟨name, he, hpath, hfile⟩
    refine ⟨_, he, ?_⟩
    obtain ⟨q, t⟩ := d
    dsimp only at hpath hfile
    subst hpath
    cases t with
    | file bytes modified => exact absurd rfl (hfile bytes modified)
    | directory _ | closed => rfl

/-- Neither of two paths leads to the other one. -/
def Apart (p q : List String) : Prop := ¬p <+: q ∧ ¬q <+: p

theorem Apart.symm {p q : List String} (h : Apart p q) : Apart q p := And.symm h

theorem Apart.concat {p q : List String} (h : Apart p q) (name : String) :
    Apart (p ++ [name]) q := by
  refine ⟨fun hpq => h.1 ((List.prefix_append p [name]).trans hpq), fun hqp => ?_⟩
  rcases List.prefix_concat_iff.mp hqp with rfl | hqp
  · exact h.1 (List.prefix_append p [name])
  · exact h.2 hqp

theorem apart_concat_concat (p : List String) {m n : String} (h : m ≠ n) :
    Apart (p ++ [m]) (p ++ [n]) :=
  ⟨fun hpre => h (by simpa using hpre), fun hpre => h.symm (by simpa using hpre)⟩

/-- The paths of the files and the directories that a directory lists, each once. -/
theorem places_subperm (p : List String) (entries : List (String × FileTree)) :
    ((filesIn p entries).map Found.path ++ (directoriesIn p entries).map Prod.fst).Subperm
      (entries.map fun e => p ++ [e.1]) := by
  induction entries with
  | nil => exact List.Subperm.refl _
  | cons e entries ih =>
    rw [filesIn, directoriesIn] at ih ⊢
    obtain ⟨name, t⟩ := e
    cases t with
    | file bytes modified =>
      by_cases hroute : isRouteFile (p ++ [name]) = true
      · simp only [List.filterMap_cons, hroute, if_true, List.map_cons, List.cons_append]
        exact (List.subperm_cons _).mpr ih
      · simp only [List.filterMap_cons, hroute, List.map_cons]
        exact ih.cons_right _
    | directory _ | closed =>
      simp only [List.filterMap_cons, List.map_cons]
      exact List.perm_middle.subperm.trans ((List.subperm_cons _).mpr ih)

theorem apart_places (p : List String) (hnodup : (Assoc.keys entries).Nodup) :
    ((filesIn p entries).map Found.path ++ (directoriesIn p entries).map Prod.fst).Pairwise
      Apart := by
  obtain ⟨places, hperm, hsub⟩ := places_subperm p entries
  have hall : (entries.map fun e => p ++ [e.1]).Pairwise Apart :=
    List.pairwise_map.mpr ((List.pairwise_map.mp hnodup).imp fun h => apart_concat_concat p h)
  exact (hperm.pairwise_iff Apart.symm).mp (hall.sublist hsub)

/-- What holds all through a search: the files that were found and the directories still to be read
stand apart from each other. -/
structure Search (pending : List (List String × FileTree)) (found : List Found) : Prop where
  named : ∀ d ∈ pending, d.2.WellNamed
  noFile : ∀ d ∈ pending, ∀ bytes modified, d.2 ≠ file bytes modified
  apart : (found.map Found.path ++ pending.map Prod.fst).Pairwise Apart

namespace Search

theorem nodup_keys (h : Search ((p, directory entries) :: pending) found) :
    (Assoc.keys entries).Nodup :=
  (h.named _ List.mem_cons_self).nodup_keys

theorem read (h : Search ((p, directory entries) :: pending) found) :
    Search ((directoriesIn p entries).reverse ++ pending) (found ++ filesIn p entries) where
  named d hd := by
    rw [List.mem_append, List.mem_reverse, mem_directoriesIn_iff] at hd
    rcases hd with ⟨name, he, -⟩ | hd
    · exact (h.named _ List.mem_cons_self).of_mem he
    · exact h.named d (List.mem_cons_of_mem _ hd)
  noFile d hd := by
    rw [List.mem_append, List.mem_reverse, mem_directoriesIn_iff] at hd
    rcases hd with ⟨-, -, -, hfile⟩ | hd
    · exact hfile
    · exact h.noFile d (List.mem_cons_of_mem _ hd)
  apart := by
    obtain ⟨hdirectory, hothers⟩ := List.pairwise_cons.mp
      ((List.perm_middle.pairwise_iff Apart.symm).mp h.apart)
    have hnew : ∀ q ∈ (filesIn p entries).map Found.path ++ (directoriesIn p entries).map Prod.fst,
        ∃ name, q = p ++ [name] := by
      intro q hq
      obtain ⟨e, -, rfl⟩ := List.mem_map.mp ((places_subperm p entries).subset hq)
      exact ⟨e.1, rfl⟩
    -- The paths of the new places take the place of the directory's own path.
    have hperm : ((found ++ filesIn p entries).map Found.path ++
        ((directoriesIn p entries).reverse ++ pending).map Prod.fst).Perm
        (((filesIn p entries).map Found.path ++ (directoriesIn p entries).map Prod.fst) ++
          (found.map Found.path ++ pending.map Prod.fst)) := by
      rw [List.perm_iff_count]
      intro q
      simp only [List.map_append, List.map_reverse, List.count_append, List.count_reverse]
      omega
    refine (hperm.pairwise_iff Apart.symm).mpr
      (List.pairwise_append.mpr ⟨apart_places p h.nodup_keys, hothers, ?_⟩)
    intro q hq o ho
    obtain ⟨name, rfl⟩ := hnew q hq
    exact (hdirectory o ho).concat name

theorem nodup (h : Search pending found) : (found.map Found.path).Nodup :=
  (List.pairwise_append.mp h.apart).1.imp fun hpq => by
    rintro rfl
    exact hpq.1 (List.prefix_refl _)

end Search

/-- For 292 million years after 1970 the time itself is the version. -/
theorem stampOf_of_nonneg {modified : Int} (h : 0 ≤ modified)
    (hfits : Word.isSigned modified = true) : stampOf modified = modified := by
  rw [stampOf, max_eq_left h, Word.wrap_of_isSigned hfits]

variable {t u : FileTree} {d : Definition} {ds es : List (List String × Definition)}

/-- What a tree defines at a path: a file stands there whose name tells a format, whose text is not
blank and says a definition in that format. The version is the time of the last change, or 0 for a
time before 1970. -/
def Defines (t : FileTree) (path : List String) (d : Definition) : Prop :=
  ∃ name format text modified stored, path.getLast? = some name ∧ format? name = some format ∧
    t.at? path = some (file (utf8 text) modified) ∧ decode? format text = some stored ∧
    d = { stored with updatedAt := stampOf modified }

/-- All that a tree defines, in the order of the paths. -/
structure Reads (t : FileTree) (ds : List (List String × Definition)) : Prop where
  ordered : ds.Pairwise fun d e => d.1 < e.1
  mem_iff : ∀ path d, (path, d) ∈ ds ↔ Defines t path d

/-- There is one way to put it in order. -/
theorem Reads.unique (ht : Reads t ds) (hu : Reads u es)
    (h : ∀ path d, Defines t path d ↔ Defines u path d) : ds = es := by
  have hnodup : ∀ {cs : List (List String × Definition)},
      cs.Pairwise (fun d e => d.1 < e.1) → cs.Nodup := fun hcs => hcs.imp fun hlt he => by
    rw [he] at hlt
    exact lt_irrefl _ hlt
  have hperm : ds.Perm es :=
    (List.perm_ext_iff_of_nodup (hnodup ht.ordered) (hnodup hu.ordered)).mpr fun ⟨path, d⟩ => by
      rw [ht.mem_iff, hu.mem_iff, h]
  exact hperm.eq_of_pairwise (fun _ _ _ _ hlt hgt => absurd hlt (lt_asymm hgt)) ht.ordered
    hu.ordered

/-- The text of a definition whose name others use too. -/
def duplicate (target : String) : String :=
  "\x7b\"name\": \"dup\", \"match\": \x7b\"prefix\": \"/d\"\x7d, \"target\": \"" ++ target ++ "\"\x7d"

/-- A file from before 1970, and a directory with another definition of that name and an empty
file. -/
def listed : FileTree :=
  directory [("a.json", file (utf8 (duplicate "http://[::1]:1")) (-5)),
    ("team", directory [("b.yml", file (utf8 (duplicate "http://[::1]:2")) 0),
      ("c.json", file [] 7)])]

end Gateway.RouteFiles
