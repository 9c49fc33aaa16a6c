import Gateway.Text
import Mathlib.Data.List.Basic

/-! # Bytes of texts: what a text's characters are in UTF-8, and how its bytes are read -/
namespace Gateway
open Text

/-- Reading the rest of an array of bytes onto what was read before. -/
private theorem toList_loop (bs : ByteArray) (i : Nat) (seen : List UInt8) :
    ByteArray.toList.loop bs i seen = seen.reverse ++ bs.data.toList.drop i := by
  induction h : bs.size - i generalizing i seen with
  | zero =>
    have hi : ¬i < bs.size := by omega
    have hl : bs.data.toList.length ≤ i := by simpa using hi
    rw [ByteArray.toList.loop, if_neg hi, List.drop_eq_nil_of_le hl, List.append_nil]
  | succ n ih =>
    have hi : i < bs.size := by omega
    have hl : i < bs.data.toList.length := by simpa using hi
    have hb : bs.get! i = bs.data.toList[i] := by
      rw [show bs.get! i = bs.data[i]! from by cases bs; rfl, getElem!_pos bs.data i hi,
        Array.getElem_toList]
    rw [ByteArray.toList.loop, if_pos hi, ih (i + 1) _ (by omega), hb,
      List.drop_eq_getElem_cons hl, List.reverse_cons, List.append_assoc, List.singleton_append]

private theorem toList_eq (bs : ByteArray) : bs.toList = bs.data.toList := by
  rw [ByteArray.toList, toList_loop, List.reverse_nil, List.nil_append, List.drop_zero]

namespace Text

theorem utf8_eq (s : String) : utf8 s = s.toList.flatMap String.utf8EncodeChar := by
  rw [utf8, String.toUTF8_eq_toByteArray, ← String.utf8Encode_toList, toList_eq, List.utf8Encode,
    List.toList_data_toByteArray]

theorem utf8_ofList (cs : List Char) :
    utf8 (String.ofList cs) = cs.flatMap String.utf8EncodeChar := by
  rw [utf8_eq, String.toList_ofList]

theorem length_utf8 (s : String) : (utf8 s).length = s.utf8ByteSize := by
  rw [utf8, String.toUTF8_eq_toByteArray, toList_eq, Array.length_toList]
  rfl

/-- Bytes are read as the one text that they encode. -/
theorem ofUtf8?_eq_some_iff {bs : Bytes} {s : String} : ofUtf8? bs = some s ↔ bs = utf8 s := by
  rw [ofUtf8?, String.fromUTF8?, utf8, String.toUTF8_eq_toByteArray, toList_eq]
  constructor
  · intro h
    split at h
    · cases h
      rfl
    · cases h
  · rintro rfl
    have hs : (⟨s.toByteArray.data.toList.toArray⟩ : ByteArray) = s.toByteArray := by
      rw [Array.toArray_toList]
    rw [hs, dif_pos s.isValidUTF8]
    rfl

theorem toNat_ofNat_of_lt {n : Nat} (h : n < 0xD800) : (Char.ofNat n).toNat = n := by
  have hvalid : n.isValidChar := Or.inl h
  rw [Char.ofNat, dif_pos hvalid]
  rfl

theorem utf8EncodeChar_ofNat {b : UInt8} (h : b.toNat < 128) :
    String.utf8EncodeChar (Char.ofNat b.toNat) = [b] := by
  have hnat : (Char.ofNat b.toNat).toNat = b.toNat := toNat_ofNat_of_lt (by omega)
  have hsize : (Char.ofNat b.toNat).utf8Size = 1 := by
    rw [Char.utf8Size_eq_one_iff, UInt32.le_iff_toNat_le]
    show (Char.ofNat b.toNat).toNat ≤ 127
    omega
  rw [String.utf8EncodeChar_eq_singleton hsize, List.singleton_inj, ← UInt8.toNat_inj]
  show (Char.ofNat b.toNat).toNat % 256 = b.toNat
  omega

/-- In ASCII a character is its byte. -/
theorem utf8_latin1 {bs : Bytes} (h : ∀ b ∈ bs, b.toNat < 128) : utf8 (latin1 bs) = bs := by
  have hone : ∀ b ∈ bs, String.utf8EncodeChar (Char.ofNat b.toNat) = [b] :=
    fun b hb => utf8EncodeChar_ofNat (h b hb)
  rw [latin1, byteChars, utf8_ofList, List.flatMap_map, List.flatMap_congr hone]
  exact List.flatMap_singleton' bs

theorem toNat_toUInt8_of_lt {n : Nat} (h : n < 128) : n.toUInt8.toNat = n :=
  UInt8.toNat_ofNat_of_lt' (Nat.lt_trans h (by decide))

theorem utf8EncodeChar_of_lt {c : Char} (h : c.toNat < 128) :
    String.utf8EncodeChar c = [c.toNat.toUInt8] := by
  have hbyte := toNat_toUInt8_of_lt h
  have hc := utf8EncodeChar_ofNat (b := c.toNat.toUInt8) (by omega)
  rwa [hbyte, Char.ofNat_toNat] at hc

/-- Beyond ASCII no byte is one of ASCII. -/
theorem le_toNat_of_mem_utf8EncodeChar {c : Char} (h : 128 ≤ c.toNat) :
    ∀ b ∈ String.utf8EncodeChar c, 128 ≤ b.toNat := by
  have hascii : ¬c.val.toNat ≤ 127 := Nat.not_le.mpr h
  rw [String.utf8EncodeChar.eq_def]
  dsimp only
  rw [if_neg hascii]
  split
  · simp only [List.forall_mem_cons, UInt8.toNat_ofNat']
    exact ⟨by omega, by omega, fun _ h => nomatch h⟩
  · split
    · simp only [List.forall_mem_cons, UInt8.toNat_ofNat']
      exact ⟨by omega, by omega, by omega, fun _ h => nomatch h⟩
    · simp only [List.forall_mem_cons, UInt8.toNat_ofNat']
      exact ⟨by omega, by omega, by omega, by omega, fun _ h => nomatch h⟩

theorem toNat_byteChar (b : UInt8) : (Char.ofNat b.toNat).toNat = b.toNat :=
  toNat_ofNat_of_lt (by have := b.toNat_lt; omega)

theorem ofByteChars_byteChars (bs : Bytes) : ofByteChars (byteChars bs) = bs := by
  rw [ofByteChars, byteChars, List.map_map]
  refine List.map_id'' (fun b => ?_) bs
  rw [Function.comp_apply, toNat_byteChar]
  exact UInt8.ofNat_toNat

/-- The bytes of characters, as one character for each byte. -/
def spelt (cs : List Char) : List Char := byteChars (cs.flatMap String.utf8EncodeChar)

theorem spelt_append (cs ds : List Char) : spelt (cs ++ ds) = spelt cs ++ spelt ds := by
  rw [spelt, List.flatMap_append, byteChars, List.map_append]
  rfl

theorem spelt_singleton {c : Char} (h : c.toNat < 128) : spelt [c] = [c] := by
  rw [spelt, List.flatMap_singleton, utf8EncodeChar_of_lt h, byteChars, List.map_singleton,
    toNat_toUInt8_of_lt h, Char.ofNat_toNat]

theorem spelt_cons {c : Char} (h : c.toNat < 128) (cs : List Char) :
    spelt (c :: cs) = c :: spelt cs := by
  rw [← List.singleton_append, spelt_append, spelt_singleton h, List.singleton_append]

/-- In ASCII the bytes look like the characters. -/
theorem spelt_of_ascii {cs : List Char} (h : ∀ c ∈ cs, c.toNat < 128) : spelt cs = cs := by
  induction cs with
  | nil => rfl
  | cons c cs ih =>
    obtain ⟨hc, hcs⟩ := List.forall_mem_cons.mp h
    rw [spelt_cons hc, ih hcs]

theorem byteChars_utf8 (s : String) : byteChars (utf8 s) = spelt s.toList := by
  rw [utf8_eq, spelt]

theorem length_le_length_spelt (cs : List Char) : cs.length ≤ (spelt cs).length := by
  induction cs with
  | nil => exact Nat.le_refl 0
  | cons c cs ih =>
    have hone : 0 < (String.utf8EncodeChar c).length := by
      rw [String.length_utf8EncodeChar]
      exact Char.utf8Size_pos c
    rw [spelt, byteChars, List.length_map] at ih ⊢
    rw [List.flatMap_cons, List.length_append, List.length_cons]
    omega

theorem le_toNat_of_mem_spelt {c d : Char} (h : 128 ≤ c.toNat) (hd : d ∈ spelt [c]) :
    128 ≤ d.toNat := by
  rw [spelt, List.flatMap_singleton, byteChars, List.mem_map] at hd
  obtain ⟨b, hb, rfl⟩ := hd
  rw [toNat_byteChar]
  exact le_toNat_of_mem_utf8EncodeChar h b hb

/-- Characters are found again in their bytes. -/
theorem ofUtf8?_spelt (cs : List Char) :
    ofUtf8? (ofByteChars (spelt cs)) = some (String.ofList cs) := by
  rw [spelt, ofByteChars_byteChars, ofUtf8?_eq_some_iff, utf8_ofList]

end Text
end Gateway
