import Gateway.Socket
import Mathlib.Data.List.Basic
import Mathlib.Tactic.SplitIfs

/-! # The characters of an address: digits, points and colons -/
namespace Gateway
open Text

namespace Text

/-- What holds of the characters of a separator and of all pieces holds of what they are joined to. -/
theorem forall_mem_intercalate {P : Char → Prop} {sep : List Char} (hsep : ∀ c ∈ sep, P c)
    {pieces : List (List Char)} (h : ∀ p ∈ pieces, ∀ c ∈ p, P c) :
    ∀ c ∈ sep.intercalate pieces, P c := by
  induction pieces with
  | nil => exact fun c hc => nomatch hc
  | cons p pieces ih =>
    obtain ⟨hp, hpieces⟩ := List.forall_mem_cons.mp h
    cases pieces with
    | nil =>
      rw [List.intercalate_singleton]
      exact hp
    | cons q pieces =>
      rw [List.intercalate_cons_cons]
      exact List.forall_mem_append.mpr ⟨List.forall_mem_append.mpr ⟨hp, hsep⟩, ih hpieces⟩

theorem forall_mem_join {P : Char → Prop} {sep : String} (hsep : ∀ c ∈ sep.toList, P c)
    {parts : List String} (h : ∀ p ∈ parts, ∀ c ∈ p.toList, P c) :
    ∀ c ∈ (join sep parts).toList, P c := by
  rw [join, String.toList_intercalate]
  exact forall_mem_intercalate hsep (List.forall_mem_map.mpr h)

theorem join_cons_ne_nil (sep : String) {part : String} (h : part.toList ≠ []) (parts : List String) :
    (join sep (part :: parts)).toList ≠ [] := by
  rw [join, String.toList_intercalate, List.map_cons]
  cases parts with
  | nil =>
    rw [List.map_nil, List.intercalate_singleton]
    exact h
  | cons other parts =>
    rw [List.map_cons, List.intercalate_cons_cons, List.append_assoc]
    exact List.append_ne_nil_of_left_ne_nil h _

/-- A property of the characters of a text can be found by looking at each of them. -/
theorem forall_mem_of_all {P : Char → Prop} [DecidablePred P] {cs : List Char}
    (h : cs.all (fun c => decide (P c)) = true) : ∀ c ∈ cs, P c :=
  fun c hc => of_decide_eq_true (List.all_eq_true.mp h c hc)

/-- A property of the ASCII characters can be found by looking at each of them. -/
theorem forall_ascii {P : Char → Prop} (h : ∀ n < 128, P (Char.ofNat n)) {c : Char}
    (hc : c.toNat < 128) : P c := by
  rw [← Char.ofNat_toNat c]
  exact h c.toNat hc

theorem toNat_lt_of_isHexDigit {c : Char} (h : isHexDigit c = true) : c.toNat < 128 := by
  simp only [isHexDigit, hexValue?, Bool.and_eq_true, decide_eq_true_eq, Char.le_def,
    UInt32.le_iff_toNat_le] at h
  have hval : c.val.toNat = c.toNat := rfl
  split_ifs at h with hdigit hlower hupper
  · have h9 : ('9' : Char).val.toNat = 57 := rfl
    omega
  · have hf : ('f' : Char).val.toNat = 102 := rfl
    omega
  · have hF : ('F' : Char).val.toNat = 70 := rfl
    omega
  · cases h

theorem isHexDigit_of_isDigit {c : Char} (h : c.isDigit = true) : isHexDigit c = true := by
  have hdigits : ∀ n < 58, 48 ≤ n → isHexDigit (Char.ofNat n) = true := by decide
  simp only [Char.isDigit, Bool.and_eq_true, decide_eq_true_eq, ge_iff_le, UInt32.le_iff_toNat_le,
    Char.reduceVal, UInt32.reduceToNat, Char.toNat_val] at h
  rw [← Char.ofNat_toNat c]
  exact hdigits c.toNat (by omega) h.1

theorem isHexDigit_of_mem_toString (n : Nat) : ∀ c ∈ (toString n).toList, isHexDigit c = true := by
  intro c hc
  rw [Nat.toString_eq_repr, Nat.toList_repr] at hc
  exact isHexDigit_of_isDigit (Nat.isDigit_of_mem_toDigits (by omega) (by omega) hc)

theorem isHexDigit_of_mem_hexDigits (n : Nat) : ∀ c ∈ hexDigits n, isHexDigit c = true := by
  have hdigit : ∀ d < 16, isHexDigit (hexDigit d) = true := by decide
  induction n using hexDigits.induct with
  | case1 n h =>
    rw [hexDigits, if_pos h]
    exact List.forall_mem_singleton.mpr (hdigit n h)
  | case2 n h ih =>
    rw [hexDigits, if_neg h]
    exact List.forall_mem_append.mpr
      ⟨ih, List.forall_mem_singleton.mpr (hdigit _ (Nat.mod_lt n (by omega)))⟩

theorem toList_toString_ne_nil (n : Nat) : (toString n).toList ≠ [] := by
  rw [Nat.toString_eq_repr, Nat.toList_repr]
  exact Nat.toDigits_ne_nil

theorem hexDigits_ne_nil (n : Nat) : hexDigits n ≠ [] := by
  rw [hexDigits]
  split_ifs
  · exact List.cons_ne_nil _ _
  · exact List.append_ne_nil_of_right_ne_nil _ (List.cons_ne_nil _ _)

end Text

/-- A digit of a group, or what stands between groups or octets. -/
def IsAddressCharacter (c : Char) : Prop := isHexDigit c = true ∨ c = '.' ∨ c = ':'

instance (c : Char) : Decidable (IsAddressCharacter c) := inferInstanceAs (Decidable (_ ∨ _))

theorem IsAddressCharacter.toNat_lt {c : Char} (h : IsAddressCharacter c) : c.toNat < 128 := by
  rcases h with h | rfl | rfl
  · exact toNat_lt_of_isHexDigit h
  all_goals decide

/-- What each character of ASCII has that may stand in an address, all such characters have. -/
theorem IsAddressCharacter.imp {P : Char → Prop}
    (hP : ∀ n < 128, IsAddressCharacter (Char.ofNat n) → P (Char.ofNat n)) {c : Char}
    (h : IsAddressCharacter c) : P c :=
  forall_ascii (P := fun c => IsAddressCharacter c → P c) hP h.toNat_lt h

/-- A text that only has such characters. -/
def IsAddressText (cs : List Char) : Prop := ∀ c ∈ cs, IsAddressCharacter c

theorem isAddressText_toString (n : Nat) : IsAddressText (toString n).toList :=
  fun c hc => .inl (isHexDigit_of_mem_toString n c hc)

theorem isAddressText_point : IsAddressText ".".toList :=
  List.forall_mem_singleton.mpr (.inr (.inl rfl))

theorem isAddressText_octets (octets : List Nat) :
    IsAddressText (join "." (octets.map toString)).toList := by
  refine forall_mem_join isAddressText_point (List.forall_mem_map.mpr fun n _ => ?_)
  exact isAddressText_toString n

namespace Host

theorem isAddressText_groupsText (gs : List Nat) : IsAddressText (groupsText gs).toList := by
  refine forall_mem_join (List.forall_mem_singleton.mpr (.inr (.inr rfl))) ?_
  simp only [List.forall_mem_map, String.toList_ofList]
  exact fun g _ c hc => .inl (isHexDigit_of_mem_hexDigits g c hc)

theorem isAddressText_compressed (gs : List Nat) : IsAddressText (compressed gs).toList := by
  have hcolons : IsAddressText "::".toList :=
    List.forall_mem_cons.mpr ⟨.inr (.inr rfl), List.forall_mem_singleton.mpr (.inr (.inr rfl))⟩
  rw [compressed]
  dsimp only
  split_ifs
  · exact isAddressText_groupsText gs
  · rw [String.toList_append, String.toList_append]
    exact List.forall_mem_append.mpr ⟨List.forall_mem_append.mpr
      ⟨isAddressText_groupsText _, hcolons⟩, isAddressText_groupsText _⟩

theorem groupsText_ne_nil {gs : List Nat} (h : gs ≠ []) : (groupsText gs).toList ≠ [] := by
  obtain ⟨g, gs, rfl⟩ := List.exists_cons_of_ne_nil h
  refine join_cons_ne_nil ":" ?_ _
  rw [String.toList_ofList]
  exact hexDigits_ne_nil g

theorem compressed_ne_nil {gs : List Nat} (h : gs ≠ []) : (compressed gs).toList ≠ [] := by
  rw [compressed]
  dsimp only
  split_ifs
  · exact groupsText_ne_nil h
  · rw [String.toList_append, String.toList_append]
    refine List.append_ne_nil_of_left_ne_nil (List.append_ne_nil_of_right_ne_nil _ ?_) _
    exact List.cons_ne_nil ':' [':']

end Host

namespace Ip

theorem isAddressText_render (ip : Ip) : IsAddressText ip.render.toList := by
  unfold render
  split
  · exact isAddressText_octets _
  · rw [String.toList_append]
    exact List.forall_mem_append.mpr
      ⟨forall_mem_of_all (by decide), isAddressText_octets [_, _, _, _]⟩
  · exact Host.isAddressText_compressed _

/-- The addresses that there are: four octets, or eight groups of two octets each. -/
def IsAddress : Ip → Prop
  | v4 octets => octets.length = 4 ∧ ∀ o ∈ octets, o < 256
  | v6 groups => groups.length = 8 ∧ ∀ g ∈ groups, g < 65536

theorem render_ne_nil {ip : Ip} (h : ip.IsAddress) : ip.render.toList ≠ [] := by
  unfold render
  split
  · next octets =>
    obtain ⟨o, os, rfl⟩ := List.exists_cons_of_length_eq_add_one h.1
    exact join_cons_ne_nil "." (toList_toString_ne_nil o) _
  · rw [String.toList_append]
    exact List.append_ne_nil_of_left_ne_nil (List.cons_ne_nil ':' _) _
  · next groups _ =>
    exact Host.compressed_ne_nil (List.ne_nil_of_length_eq_add_one h.1)

end Ip
end Gateway
