import Gateway.Proofs.TextBytes
import Gateway.Trie
import Mathlib.Data.List.Infix

/-! # Prefixes of texts: in characters, in bytes and in segments -/
namespace Gateway
open Text

namespace Text

/-- No character's bytes begin with those of another one, so that a prefix in bytes is one in
characters. -/
theorem utf8_isPrefix_iff (p s : String) : utf8 p <+: utf8 s ↔ p.toList <+: s.toList := by
  rw [utf8_eq, utf8_eq]
  constructor
  · rintro ⟨rest, h⟩
    refine List.isPrefix_of_utf8Encode_append_eq_utf8Encode rest.toByteArray ?_
    rw [List.utf8Encode, List.utf8Encode, ← List.toByteArray_append, h]
  · rintro ⟨rest, h⟩
    exact ⟨rest.flatMap String.utf8EncodeChar, by rw [← h, List.flatMap_append]⟩

theorem utf8ByteSize_pos {s : String} (h : s ≠ "") : 0 < s.utf8ByteSize :=
  Nat.pos_of_ne_zero fun h0 => h (String.utf8ByteSize_eq_zero_iff.mp h0)

/-- Of two beginnings of one text the one with more characters has more bytes. -/
theorem utf8ByteSize_lt {p q : String} (h : p.toList <+: q.toList) (hne : p ≠ q) :
    p.utf8ByteSize < q.utf8ByteSize := by
  obtain ⟨rest, hr⟩ := h
  have hrest : rest ≠ [] := by
    rintro rfl
    exact hne (String.toList_inj.mp (by rw [← hr, List.append_nil]))
  have hpos : 0 < (utf8 (String.ofList rest)).length := by
    rw [length_utf8]
    exact utf8ByteSize_pos fun h => hrest (by simpa using congrArg String.toList h)
  rw [utf8_ofList] at hpos
  rw [← length_utf8, ← length_utf8, utf8_eq q, ← hr, List.flatMap_append, List.length_append,
    ← utf8_eq p]
  omega

theorem splitChars_ne_nil (sep : Char) (cs : List Char) : splitChars sep cs ≠ [] := by
  cases cs with
  | nil => simp [splitChars]
  | cons c cs =>
    rw [splitChars]
    split
    · simp
    · split <;> simp

/-- There is one piece more than there are separators. -/
theorem length_splitChars (sep : Char) (cs : List Char) :
    (splitChars sep cs).length = cs.count sep + 1 := by
  induction cs with
  | nil => rfl
  | cons c cs ih =>
    rw [splitChars, List.count_cons]
    by_cases hc : c = sep
    · rw [if_pos hc, List.length_cons, ih, if_pos (by simpa using hc)]
    · obtain ⟨p, ps, hps⟩ := List.exists_cons_of_ne_nil (splitChars_ne_nil sep cs)
      rw [hps] at ih ⊢
      rw [if_neg hc, if_neg (by simpa using hc), List.length_cons, ← List.length_cons, ih]

theorem splitChars_of_not_mem {sep : Char} {cs : List Char} (h : sep ∉ cs) :
    splitChars sep cs = [cs] := by
  induction cs with
  | nil => rfl
  | cons c cs ih =>
    obtain ⟨hc, hcs⟩ := List.ne_and_not_mem_of_not_mem_cons h
    rw [splitChars, if_neg (Ne.symm hc), ih hcs]

theorem splitChars_append_cons {sep : Char} {cs : List Char} (ds : List Char) (h : sep ∉ cs) :
    splitChars sep (cs ++ sep :: ds) = cs :: splitChars sep ds := by
  induction cs with
  | nil => rw [List.nil_append, splitChars, if_pos rfl]
  | cons c cs ih =>
    obtain ⟨hc, hcs⟩ := List.ne_and_not_mem_of_not_mem_cons h
    rw [List.cons_append, splitChars, if_neg (Ne.symm hc), ih hcs]

/-- Where two texts are joined, the last piece of one and the first piece of the other become one
piece. -/
theorem splitChars_append (sep : Char) (cs ds : List Char) :
    ∃ whole last first rest, splitChars sep cs = whole ++ [last] ∧
      splitChars sep ds = first :: rest ∧
      splitChars sep (cs ++ ds) = whole ++ (last ++ first) :: rest := by
  obtain ⟨first, rest, hds⟩ := List.exists_cons_of_ne_nil (splitChars_ne_nil sep ds)
  induction cs with
  | nil => exact ⟨[], [], first, rest, rfl, hds, hds⟩
  | cons c cs ih =>
    obtain ⟨whole, last, first, rest, hcs, hds, hboth⟩ := ih
    by_cases hc : c = sep
    · refine ⟨[] :: whole, last, first, rest, ?_, hds, ?_⟩
      · rw [splitChars, if_pos hc, hcs, List.cons_append]
      · rw [List.cons_append, splitChars, if_pos hc, hboth, List.cons_append]
    · cases whole with
      | nil =>
        refine ⟨[], c :: last, first, rest, ?_, hds, ?_⟩
        · simp [splitChars, hc, hcs]
        · simp [splitChars, hc, hboth]
      | cons w whole =>
        refine ⟨(c :: w) :: whole, last, first, rest, ?_, hds, ?_⟩
        · simp [splitChars, hc, hcs]
        · simp [splitChars, hc, hboth]

end Text

/-- A longer path has no fewer segments. -/
theorem length_segments_le {p q : String} (h : p.toList <+: q.toList) :
    (segments p).length ≤ (segments q).length := by
  obtain ⟨rest, hr⟩ := h
  obtain ⟨whole, last, first, others, hp, -, hq⟩ := splitChars_append '/' p.toList rest
  rw [hr] at hq
  simp only [segments, List.length_map, hp, hq, List.filter_append, List.length_append]
  cases last with
  | nil => simp
  | cons c last => simp

/-- Of two beginnings of one path the one with more segments has more bytes. -/
theorem utf8ByteSize_lt_of_segments {p q path : String} (hp : p.toList <+: path.toList)
    (hq : q.toList <+: path.toList) (h : (segments p).length < (segments q).length) :
    p.utf8ByteSize < q.utf8ByteSize := by
  rcases List.prefix_or_prefix_of_prefix hp hq with hpq | hqp
  · refine utf8ByteSize_lt hpq ?_
    rintro rfl
    exact absurd h (Nat.lt_irrefl _)
  · exact absurd (length_segments_le hqp) (Nat.not_le.mpr h)

/-- The beginnings of a list come in the order of their lengths. -/
theorem pairwise_inits {α : Type} (xs : List α) :
    xs.inits.Pairwise fun ys zs => ys.length < zs.length := by
  induction xs with
  | nil => simp
  | cons x xs ih =>
    rw [List.inits_cons]
    refine List.pairwise_cons.mpr ⟨?_, List.pairwise_map.mpr (ih.imp fun h => by simpa using h)⟩
    intro ys hys
    obtain ⟨zs, -, rfl⟩ := List.mem_map.mp hys
    simp

end Gateway
