import Gateway.Proofs.Prefixes
import Gateway.Proofs.TrieContents
import Mathlib.Data.Finmap

/-! # Versions of a trie: every one stands for a finite map on lists of segments -/
namespace Gateway
open Text

/-- What can stand between slashes. -/
def IsSegment (s : String) : Prop := s ≠ "" ∧ '/' ∉ s.toList

theorem Text.not_mem_of_mem_splitChars {sep : Char} {cs piece : List Char}
    (h : piece ∈ splitChars sep cs) : sep ∉ piece := by
  induction cs generalizing piece with
  | nil =>
    rw [List.mem_singleton.mp h]
    exact List.not_mem_nil
  | cons c cs ih =>
    obtain ⟨first, rest, hcs⟩ := List.exists_cons_of_ne_nil (splitChars_ne_nil sep cs)
    by_cases hc : c = sep
    · rw [splitChars, if_pos hc] at h
      rcases List.mem_cons.mp h with rfl | h
      · exact List.not_mem_nil
      · exact ih h
    · rw [hcs] at ih
      rw [splitChars, if_neg hc, hcs] at h
      rcases List.mem_cons.mp h with rfl | h
      · have hfirst := ih List.mem_cons_self
        simp [hfirst, Ne.symm hc]
      · exact ih (List.mem_cons_of_mem first h)

theorem isSegment_of_mem_segments {path s : String} (h : s ∈ segments path) : IsSegment s := by
  obtain ⟨piece, hpiece, rfl⟩ := List.mem_map.mp h
  obtain ⟨hsplit, hne⟩ := List.mem_filter.mp hpiece
  refine ⟨?_, ?_⟩
  · simpa using hne
  · rw [String.toList_ofList]
    exact not_mem_of_mem_splitChars hsplit

/-- Values at lists of segments, finitely many. -/
abbrev Holdings (α : Type) := Finmap fun _ : List String => α

namespace Holdings
variable {α : Type}

/-- The map with the value at a place replaced by what `f` makes of it. -/
def alter (place : List String) (f : Option α → Option α) (m : Holdings α) : Holdings α :=
  match f (m.lookup place) with
  | some a => m.insert place a
  | none => m.erase place

theorem lookup_alter (place ss : List String) (f : Option α → Option α) (m : Holdings α) :
    (m.alter place f).lookup ss = if ss = place then f (m.lookup place) else m.lookup ss := by
  rw [alter]
  by_cases hs : ss = place
  · subst hs
    cases f (m.lookup ss) <;> simp
  · cases f (m.lookup place) <;> simp [hs]

theorem mem_alter {place ss : List String} {f : Option α → Option α} {m : Holdings α}
    (h : ss ∈ m.alter place f) : ss = place ∨ ss ∈ m := by
  by_cases hs : ss = place
  · exact Or.inl hs
  · rw [← Finmap.lookup_isSome, lookup_alter, if_neg hs, Finmap.lookup_isSome] at h
    exact Or.inr h

/-- The places above a path where the map has values, the longest first. -/
def placesAbove (path : String) (m : Holdings α) : List (List String) :=
  (segments path).inits.reverse.filter fun ss => (m.lookup ss).isSome

theorem mem_placesAbove_iff (m : Holdings α) (path : String) (ss : List String) :
    ss ∈ m.placesAbove path ↔ ss <+: segments path ∧ ss ∈ m := by
  rw [placesAbove, List.mem_filter, List.mem_reverse, List.mem_inits, Finmap.lookup_isSome]

theorem placesAbove_sorted (m : Holdings α) (path : String) :
    (m.placesAbove path).Pairwise fun ss ts => ts.length < ss.length :=
  (List.pairwise_reverse.mpr (pairwise_inits (segments path))).filter _

end Holdings

namespace Trie
variable {α : Type}

/-- What can be done to a trie. -/
inductive Edit (α : Type)
  | insert (path : String) (a : α)
  | update (path : String) (f : Option α → Option α)

namespace Edit

def run (t : Trie α) : Edit α → Trie α
  | insert path a => t.insert path a
  | update path f => t.update path f

/-- What an edit does to the map: it changes the value at its own segments. -/
def perform (m : Holdings α) : Edit α → Holdings α
  | insert path a => m.insert (segments path) a
  | update path f => m.alter (segments path) f

end Edit

/-- Edits the version of a number and leaves that version as it is. Where there is no such version,
nothing happens. -/
def extend {σ : Type} (run : σ → Edit α → σ) (vs : List σ) (step : ℕ × Edit α) : List σ :=
  match vs[step.1]? with
  | some v => vs ++ [run v step.2]
  | none => vs

/-- The versions that come of edits, the oldest first. -/
def versions {σ : Type} (run : σ → Edit α → σ) (start : σ) (history : List (ℕ × Edit α)) : List σ :=
  history.foldl (extend run) [start]

/-- What holds of two runs at the start, and is kept by an edit made to both, holds of each two
versions of one number. -/
theorem forall₂_versions {σ τ : Type} {R : σ → τ → Prop} {run : σ → Edit α → σ}
    {run' : τ → Edit α → τ} (hstep : ∀ v v' e, R v v' → R (run v e) (run' v' e)) {start : σ}
    {start' : τ} (hstart : R start start') (history : List (ℕ × Edit α)) :
    List.Forall₂ R (versions run start history) (versions run' start' history) := by
  have hfold : ∀ vs vs', List.Forall₂ R vs vs' →
      List.Forall₂ R (history.foldl (extend run) vs) (history.foldl (extend run') vs') := by
    induction history with
    | nil => exact fun _ _ h => h
    | cons step history ih =>
      intro vs vs' h
      refine ih _ _ ?_
      rw [extend, extend]
      by_cases hi : step.1 < vs.length
      · have hi' : step.1 < vs'.length := h.length_eq ▸ hi
        rw [List.getElem?_eq_getElem hi, List.getElem?_eq_getElem hi']
        exact List.rel_append h (.cons (hstep _ _ step.2 (h.get hi hi')) .nil)
      · have hi' : ¬step.1 < vs'.length := h.length_eq ▸ hi
        rw [List.getElem?_eq_none (Nat.le_of_not_lt hi), List.getElem?_eq_none (Nat.le_of_not_lt hi')]
        exact h
  exact hfold _ _ (.cons hstart .nil)

/-- A trie holds a map: at all lists of segments, and nowhere else. -/
structure Holds (t : Trie α) (m : Holdings α) : Prop where
  getAt_eq : ∀ ss, getAt ss t = m.lookup ss
  isSegment : ∀ ss ∈ m, ∀ s ∈ ss, IsSegment s

theorem holds_empty : Holds (empty : Trie α) ∅ :=
  ⟨fun ss => by simp, fun ss hss => absurd hss Finmap.notMem_empty⟩

namespace Holds
variable {t : Trie α} {m : Holdings α}

theorem update (h : t.Holds m) (path : String) (f : Option α → Option α) :
    (t.update path f).Holds (m.alter (segments path) f) := by
  refine ⟨fun ss => ?_, fun ss hss => ?_⟩
  · rw [Trie.update, getAt_updateAt, Holdings.lookup_alter, h.getAt_eq, h.getAt_eq]
  · rcases Holdings.mem_alter hss with rfl | hss
    · exact fun s hs => isSegment_of_mem_segments hs
    · exact h.isSegment ss hss

theorem run (h : t.Holds m) (e : Edit α) : (e.run t).Holds (e.perform m) := by
  cases e with
  | insert path a => exact h.update path fun _ => some a
  | update path f => exact h.update path f

theorem map_some_covering (h : t.Holds m) (path : String) :
    (t.covering path).map some = (m.placesAbove path).map m.lookup := by
  rw [covering_eq, Holdings.placesAbove]
  induction (segments path).inits.reverse with
  | nil => rfl
  | cons ss sss ih =>
    rw [List.filterMap_cons, h.getAt_eq]
    cases hss : m.lookup ss with
    | none => simpa [hss] using ih
    | some a => simpa [hss] using ih

/-- The first value above a path is the one at the longest place. -/
theorem longest?_eq_some_iff (h : t.Holds m) (path : String) (a : α) :
    t.longest? path = some a ↔ ∃ ss, ss <+: segments path ∧ m.lookup ss = some a ∧
      ∀ ts, ts <+: segments path → ts ∈ m → ts.length ≤ ss.length := by
  have hhead : (t.longest? path).map some = (m.placesAbove path).head?.map m.lookup := by
    rw [longest?, ← List.head?_map, h.map_some_covering, List.head?_map]
  have hmem := Holdings.mem_placesAbove_iff m path
  have hsorted := Holdings.placesAbove_sorted m path
  cases hplaces : m.placesAbove path with
  | nil =>
    rw [hplaces] at hhead hmem
    simp only [List.head?_nil, Option.map_none, Option.map_eq_none_iff] at hhead
    rw [hhead]
    refine ⟨(fun h => nomatch h), fun ⟨ss, hpre, hval, _⟩ => ?_⟩
    exact nomatch (hmem ss).mpr ⟨hpre, Finmap.mem_of_lookup_eq_some hval⟩
  | cons top rest =>
    rw [hplaces] at hhead hmem hsorted
    have hbelow := (List.pairwise_cons.mp hsorted).1
    obtain ⟨hpre, hin⟩ := (hmem top).mp List.mem_cons_self
    obtain ⟨b, hb⟩ := Finmap.mem_iff.mp hin
    have hlongest : t.longest? path = some b := by
      rw [List.head?_cons, Option.map_some, hb] at hhead
      simpa using hhead
    rw [hlongest]
    constructor
    · intro hba
      refine ⟨top, hpre, hb.trans hba, fun ts hts htsm => ?_⟩
      rcases List.mem_cons.mp ((hmem ts).mpr ⟨hts, htsm⟩) with rfl | hrest
      · exact le_rfl
      · exact (hbelow ts hrest).le
    · rintro ⟨ss, hss, hval, hall⟩
      rcases List.mem_cons.mp ((hmem ss).mpr ⟨hss, Finmap.mem_of_lookup_eq_some hval⟩)
        with rfl | hrest
      · exact hb.symm.trans hval
      · exact absurd (hall top hpre hin) (Nat.not_le.mpr (hbelow ss hrest))

end Holds

/-- A trie that answers as a map on lists of segments. -/
structure Answers (t : Trie α) (m : Holdings α) : Prop where
  isSegment : ∀ ss ∈ m, ∀ s ∈ ss, IsSegment s
  get?_eq : ∀ path, t.get? path = m.lookup (segments path)
  /-- Above a path lie the values at the beginnings of its segments, each once, the longest first. -/
  covering_eq : ∀ path, ∃ places : List (List String),
    (∀ ss, ss ∈ places ↔ ss <+: segments path ∧ ss ∈ m) ∧
      places.Pairwise (fun ss ts => ts.length < ss.length) ∧
      (t.covering path).map some = places.map m.lookup
  longest?_eq : ∀ path, t.longest? path = (t.covering path).head?
  /-- It is the value at the longest of these beginnings. -/
  longest?_eq_some_iff : ∀ path a, t.longest? path = some a ↔
    ∃ ss, ss <+: segments path ∧ m.lookup ss = some a ∧
      ∀ ts, ts <+: segments path → ts ∈ m → ts.length ≤ ss.length
  /-- An update shows at the paths with the same segments and at no others. -/
  get?_update : ∀ place f path, (t.update place f).get? path =
    if segments path = segments place then f (t.get? place) else t.get? path

theorem Holds.answers {t : Trie α} {m : Holdings α} (h : t.Holds m) : t.Answers m where
  isSegment := h.isSegment
  get?_eq path := h.getAt_eq (segments path)
  covering_eq path := ⟨m.placesAbove path, Holdings.mem_placesAbove_iff m path,
    Holdings.placesAbove_sorted m path, h.map_some_covering path⟩
  longest?_eq _ := rfl
  longest?_eq_some_iff := h.longest?_eq_some_iff
  get?_update place f path := getAt_updateAt f (segments path) (segments place) t

/-- Whatever was done to a trie and to its earlier versions, each version answers as the map that
the same edits make. -/
theorem versions_answer (history : List (ℕ × Edit α)) :
    List.Forall₂ Answers (versions Edit.run empty history) (versions Edit.perform ∅ history) :=
  (forall₂_versions (fun _ _ e h => h.run e) holds_empty history).imp fun _ _ h => h.answers

/-- Slashes alone make no place of their own, and a value that is taken away leaves none behind. -/
example : (((empty.insert "/a" 1).insert "//a/b/" 2).update "/a/b" fun _ => none).covering
    "/a//b/c" = [1] := by decide +kernel

end Trie
end Gateway
