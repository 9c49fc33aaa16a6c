import Gateway.Proofs.HeaderFields
import Gateway.Proofs.TextPieces

/-! # Hop by hop: the fields of one connection are removed, and those alone -/
namespace Gateway
open Text

namespace Headers

/-- Names in small letters, as headers keep them. -/
def IsSmall (h : Headers) : Prop := ∀ f ∈ h.fields, lowerAscii f.1 = f.1

/-- There are no values under a name that is not in small letters. -/
theorem IsSmall.values_eq_nil {h : Headers} (hh : h.IsSmall) {n : String} (hn : lowerAscii n ≠ n) :
    h.values n = [] := by
  rw [values, List.map_eq_nil_iff, List.filter_eq_nil_iff]
  intro f hf hname
  rw [beq_iff_eq] at hname
  exact hn (hname ▸ hh f hf)

end Headers

namespace Forwarding
open Headers
variable {h : Headers} {n : String}

/-- Whether a connection field lists a name: it is readable, and between its commas stands the name in
letters of any case, blanks around it aside. -/
def Lists (h : Headers) (n : String) : Prop :=
  ∃ value ∈ h.values "connection", ∃ text, text? value = some text ∧
    ∃ piece, IsPiece ',' piece text.toList ∧ trimChars piece ≠ [] ∧
      sameLetters (String.ofList (trimChars piece)) n = true

/-- The names whose fields belong to the connection. -/
def IsHopByHop (h : Headers) (n : String) : Prop := n ∈ hopByHopNames ∨ Lists h n

theorem mem_namesIn_iff {text : String} : n ∈ namesIn text ↔
    ∃ piece, IsPiece ',' piece text.toList ∧ trimChars piece ≠ [] ∧
      lowerAscii (String.ofList (trimChars piece)) = n := by
  have hempty : ∀ cs : List Char, (lowerAscii (String.ofList cs)).isEmpty = true ↔ cs = [] := by
    intro cs
    simp [lowerAscii]
  simp only [namesIn, split, trim, List.mem_filter, List.mem_map, mem_splitChars_iff]
  constructor
  · rintro ⟨⟨_, ⟨piece, hpiece, rfl⟩, rfl⟩, hne⟩
    rw [String.toList_ofList] at hne ⊢
    exact ⟨piece, hpiece, fun h0 => by simp [(hempty _).mpr h0] at hne, rfl⟩
  · rintro ⟨piece, hpiece, hne, rfl⟩
    refine ⟨⟨_, ⟨piece, hpiece, rfl⟩, by rw [String.toList_ofList]⟩, ?_⟩
    rw [Bool.not_eq_true', Bool.eq_false_iff]
    exact fun h0 => hne ((hempty _).mp h0)

theorem mem_listedNames_iff (hn : lowerAscii n = n) : n ∈ listedNames h ↔ Lists h n := by
  simp only [listedNames, List.mem_flatMap, List.mem_filterMap, mem_namesIn_iff, Lists,
    sameLetters, beq_iff_eq, hn]
  constructor
  · rintro ⟨text, ⟨value, hvalue, htext⟩, hpiece⟩
    exact ⟨value, hvalue, text, htext, hpiece⟩
  · rintro ⟨value, hvalue, text, htext, hpiece⟩
    exact ⟨text, ⟨value, hvalue, htext⟩, hpiece⟩

theorem listedNames_removeHopByHop (h : Headers) : listedNames (removeHopByHop h) = [] := by
  have hnone : (removeHopByHop h).values "connection" = [] :=
    values_removeAll (List.mem_append_right _ (by decide)) h
  rw [listedNames, hnone]
  rfl

/-- Names that are removed already can be removed again. -/
theorem removeAll_removeAll_of_subset {names others : List String} (hsub : others ⊆ names)
    (h : Headers) : removeAll others (removeAll names h) = removeAll names h := by
  have hfields : (removeAll others (removeAll names h)).fields = (removeAll names h).fields := by
    rw [fields_removeAll others, fields_removeAll names, List.filter_eq_self]
    intro f hf
    have hnot : f.1 ∉ names := of_decide_eq_true (List.mem_filter.mp hf).2
    exact decide_eq_true fun hmem => hnot (hsub hmem)
  exact congrArg Headers.mk hfields

/-- Removing takes away every value of the fields that belong to the connection, by their own names
or because a connection field lists them, and leaves all values of the others as they stand. Nothing
is left to be removed a second time. -/
theorem removeHopByHop_exact {h : Headers} (hh : h.IsSmall) :
    (∀ n, (IsHopByHop h n → (removeHopByHop h).values n = []) ∧
      (¬IsHopByHop h n → (removeHopByHop h).values n = h.values n)) ∧
    removeHopByHop (removeHopByHop h) = removeHopByHop h := by
  refine ⟨fun n => ?_, ?_⟩
  · have hremoved : n ∈ listedNames h ++ hopByHopNames → (removeHopByHop h).values n = [] :=
      fun hn => values_removeAll hn h
    have hkept : n ∉ listedNames h ++ hopByHopNames → (removeHopByHop h).values n = h.values n :=
      fun hn => values_removeAll_of_not_mem hn h
    by_cases hn : lowerAscii n = n
    · have hmem : n ∈ listedNames h ++ hopByHopNames ↔ IsHopByHop h n := by
        rw [List.mem_append, mem_listedNames_iff hn, IsHopByHop, or_comm]
      rw [← hmem]
      exact ⟨hremoved, hkept⟩
    · -- There was nothing under such a name, whether it is listed or not.
      have hnone := hh.values_eq_nil hn
      rw [hnone] at hkept ⊢
      exact ⟨fun _ => (em _).elim hremoved hkept, fun _ => (em _).elim hremoved hkept⟩
  · rw [removeHopByHop, listedNames_removeHopByHop, List.nil_append]
    exact removeAll_removeAll_of_subset (List.subset_append_right _ _) h

/-- Three connection fields, the last one not readable, and what they list. -/
def connected : Headers :=
  ⟨[("connection", utf8 "keep-alive,\tX-Session ,, bad name"), ("accept", utf8 "a"),
    ("x-session", utf8 "1"), ("connection", utf8 "HOST"), ("host", utf8 "gw"),
    ("accept", utf8 "b"), ("x-session", utf8 "2"), ("connection", utf8 "accept, é"),
    ("te", utf8 "trailers")]⟩

theorem removeHopByHop_connected : connected.IsSmall ∧
    (removeHopByHop connected).values "x-session" = [] ∧
    (removeHopByHop connected).values "host" = [] ∧
    (removeHopByHop connected).values "te" = [] ∧
    (removeHopByHop connected).values "accept" = [utf8 "a", utf8 "b"] := by
  have hsmall : connected.IsSmall := by
    rw [IsSmall]
    decide +kernel
  have hlisted : ∀ n, lowerAscii n = n →
      (n ∈ hopByHopNames ∨ n ∈ listedNames connected ↔ IsHopByHop connected n) := by
    intro n hn
    rw [mem_listedNames_iff hn, IsHopByHop]
  obtain ⟨hexact, -⟩ := removeHopByHop_exact hsmall
  refine ⟨hsmall, ?_, ?_, ?_, ?_⟩
  · exact (hexact _).1 ((hlisted _ (by decide +kernel)).mp (by decide +kernel))
  · exact (hexact _).1 ((hlisted _ (by decide +kernel)).mp (by decide +kernel))
  · exact (hexact _).1 (Or.inl (by decide +kernel))
  · refine ((hexact _).2 fun hn => ?_).trans (by decide +kernel)
    exact absurd ((hlisted _ (by decide +kernel)).mpr hn) (by decide +kernel)

end Forwarding
end Gateway
