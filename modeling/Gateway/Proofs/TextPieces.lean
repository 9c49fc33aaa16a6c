import Gateway.Proofs.Prefixes
import Mathlib.Data.List.TakeWhile

/-! # Pieces of texts: what stands between separators, and what is left without blanks around it -/
namespace Gateway.Text
variable {sep : Char} {piece cs : List Char}

/-- What stands between two separators, or between one and an end of the text. -/
def IsPiece (sep : Char) (piece cs : List Char) : Prop :=
  sep ∉ piece ∧ ∃ before after, cs = before ++ piece ++ after ∧
    (∀ c ∈ before.getLast?, c = sep) ∧ ∀ c ∈ after.head?, c = sep

/-- A separator parts a text wherever it stands. -/
theorem splitChars_append_sep (sep : Char) (cs ds : List Char) :
    splitChars sep (cs ++ sep :: ds) = splitChars sep cs ++ splitChars sep ds := by
  obtain ⟨whole, last, first, rest, hcs, hds, hboth⟩ := splitChars_append sep cs (sep :: ds)
  rw [splitChars, if_pos rfl] at hds
  cases hds
  rw [hboth, hcs, List.append_nil, List.append_assoc, List.singleton_append]

/-- Splitting gives the pieces of a text. -/
theorem mem_splitChars_iff : piece ∈ splitChars sep cs ↔ IsPiece sep piece cs := by
  constructor
  · intro hpiece
    induction hn : cs.length using Nat.strong_induction_on generalizing cs with
    | _ n ih =>
      by_cases hsep : sep ∈ cs
      · obtain ⟨first, rest, rfl, hfirst⟩ := List.eq_append_cons_of_mem hsep
        rw [splitChars_append_cons rest hfirst, List.mem_cons] at hpiece
        rcases hpiece with rfl | hpiece
        · exact ⟨hfirst, [], sep :: rest, rfl, by simp, by simp⟩
        · have hless : rest.length < n := by
            rw [← hn, List.length_append, List.length_cons]
            omega
          obtain ⟨hnot, before, after, rfl, hbefore, hafter⟩ := ih _ hless hpiece rfl
          refine ⟨hnot, first ++ sep :: before, after, by simp, ?_, hafter⟩
          intro c hc
          rw [List.getLast?_append_cons, List.getLast?_cons] at hc
          cases hlast : before.getLast? with
          | none => simpa [hlast] using hc.symm
          | some d => exact hbefore c (by simpa [hlast] using hc)
      · rw [splitChars_of_not_mem hsep, List.mem_singleton] at hpiece
        subst hpiece
        exact ⟨hsep, [], [], by simp, by simp, by simp⟩
  · rintro ⟨hpiece, before, after, rfl, hbefore, hafter⟩
    have hlast : piece ∈ splitChars sep (piece ++ after) := by
      cases after with
      | nil => rw [List.append_nil, splitChars_of_not_mem hpiece]; exact List.mem_singleton_self _
      | cons d after =>
        obtain rfl : d = sep := hafter d rfl
        rw [splitChars_append_cons after hpiece]
        exact List.mem_cons_self
    rcases List.eq_nil_or_concat before with rfl | ⟨front, d, rfl⟩
    · simpa using hlast
    · obtain rfl : d = sep := hbefore d (by simp)
      rw [List.append_assoc, List.concat_eq_append, List.append_assoc, List.singleton_append,
        splitChars_append_sep]
      exact List.mem_append_right _ hlast

/-- A text without blanks has none to lose at its ends. -/
theorem trim_eq_self {s : String} (h : ∀ c ∈ s.toList, isBlank c = false) : trim s = s := by
  have hdrop : ∀ cs : List Char, (∀ c ∈ cs, isBlank c = false) → cs.dropWhile isBlank = cs := by
    intro cs hcs
    refine List.dropWhile_eq_self_iff.mpr fun hl => ?_
    rw [hcs _ (List.getElem_mem hl)]
    exact Bool.false_ne_true
  have hreverse : ∀ c ∈ s.toList.reverse, isBlank c = false :=
    fun c hc => h c (List.mem_reverse.mp hc)
  rw [trim, trimChars, trimLeft, trimRight, hdrop _ h, hdrop _ hreverse, List.reverse_reverse,
    String.ofList_toList]

theorem trim_of_allBlank {s : String} (h : allBlank s = true) : trim s = "" := by
  have hdrop : s.toList.dropWhile isBlank = [] :=
    List.dropWhile_eq_nil_iff.mpr (List.all_eq_true.mp h)
  rw [trim, trimChars, trimLeft, hdrop]
  rfl

theorem trim_space_append (s : String) : trim (" " ++ s) = trim s := by
  rw [trim, trim, String.toList_append]
  rfl

end Gateway.Text
