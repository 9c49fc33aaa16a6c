import Gateway.Headers
import Gateway.Proofs.TextBytes
import Mathlib.Tactic.SplitIfs

/-! # Texts in header fields: which texts are read from a value, and which can be set -/
namespace Gateway
open Text

namespace Headers

theorem isVisibleByte_iff (b : UInt8) :
    isVisibleByte b = true ↔ b.toNat = 9 ∨ 32 ≤ b.toNat ∧ b.toNat < 127 := by
  simp [isVisibleByte, UInt8.le_iff_toNat_le, UInt8.lt_iff_toNat_lt, ← UInt8.toNat_inj]

theorem isLegalByte_of_isVisibleByte {b : UInt8} (h : isVisibleByte b = true) :
    isLegalByte b = true := by
  rw [isVisibleByte_iff] at h
  simp only [isLegalByte, Bool.or_eq_true, Bool.and_eq_true, beq_iff_eq, decide_eq_true_eq,
    bne_iff_ne, UInt8.le_iff_toNat_le, ← UInt8.toNat_inj, UInt8.reduceToNat, ne_eq]
  omega

/-- Nothing but tabs and the printable characters of ASCII. -/
def IsVisible (cs : List Char) : Prop := ∀ c ∈ cs, c.toNat = 9 ∨ 32 ≤ c.toNat ∧ c.toNat < 127

theorem IsVisible.toNat_lt {cs : List Char} (h : IsVisible cs) : ∀ c ∈ cs, c.toNat < 128 := by
  intro c hc
  have hvisible := h c hc
  omega

theorem isVisible_byteChars_iff {value : Bytes} :
    IsVisible (byteChars value) ↔ value.all isVisibleByte = true := by
  rw [IsVisible, byteChars, List.forall_mem_map, List.all_eq_true]
  refine forall₂_congr fun b _ => ?_
  rw [isVisibleByte_iff, toNat_byteChar]

theorem byteChars_utf8_of_isVisible {s : String} (h : IsVisible s.toList) :
    byteChars (utf8 s) = s.toList := by
  rw [byteChars_utf8, spelt_of_ascii h.toNat_lt]

/-- A text is read of its own bytes, and only if it is visible. -/
theorem text?_eq_some_iff {value : Bytes} {s : String} :
    text? value = some s ↔ value = utf8 s ∧ IsVisible s.toList := by
  rw [text?]
  constructor
  · intro h
    split_ifs at h with hbytes
    cases h
    have hvisible := isVisible_byteChars_iff.mpr hbytes
    have hascii : ∀ b ∈ value, b.toNat < 128 := by
      intro b hb
      have hlt := hvisible.toNat_lt _ (List.mem_map_of_mem hb)
      rwa [toNat_byteChar] at hlt
    rw [utf8_latin1 hascii, latin1, String.toList_ofList]
    exact ⟨rfl, hvisible⟩
  · rintro ⟨rfl, hvisible⟩
    have hchars := byteChars_utf8_of_isVisible hvisible
    rw [if_pos (isVisible_byteChars_iff.mp (hchars ▸ hvisible)), latin1, hchars, String.ofList_toList]

/-- What can be read can also be set. -/
theorem isLegal_of_isVisible {s : String} (h : IsVisible s.toList) : isLegal (utf8 s) = true := by
  have hbytes : (utf8 s).all isVisibleByte = true :=
    isVisible_byteChars_iff.mp (byteChars_utf8_of_isVisible h ▸ h)
  rw [List.all_eq_true] at hbytes
  exact List.all_eq_true.mpr fun b hb => isLegalByte_of_isVisibleByte (hbytes b hb)

theorem isVisible_of_readable? {n s : String} {h : Headers} (hs : h.readable? n = some s) :
    IsVisible s.toList := by
  obtain ⟨value, -, htext⟩ := Option.bind_eq_some_iff.mp hs
  exact (text?_eq_some_iff.mp htext).2

end Headers
end Gateway
