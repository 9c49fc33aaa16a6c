import Gateway.Base64
import Mathlib.Data.List.TakeWhile

/-! # Bytes in Base64: what was encoded is decoded again -/
namespace Gateway.Base64
open Text

theorem value?_symbol : ∀ n < 64, value? (symbol n) = some n := by decide

/-- The symbols are letters, digits and signs of ASCII, and no dot or padding. -/
theorem symbol_isPart :
    ∀ n < 64, (symbol n).toNat < 128 ∧ symbol n ≠ 46 ∧ symbol n ≠ equals := by decide

theorem valueAt_symbol {n : Nat} (h : n < 64) (offset : Nat) :
    valueAt (symbol n) offset = .ok n := by
  rw [valueAt, value?_symbol n h]

/-- What is encoded are values below 64. -/
theorem encode_eq_map (bs : Bytes) :
    ∃ ns : List Nat, (∀ n ∈ ns, n < 64) ∧ encode bs = ns.map symbol := by
  induction bs using encode.induct with
  | case1 a b c rest ih =>
    obtain ⟨ns, hns, hrest⟩ := ih
    have ha := a.toNat_lt
    have hb := b.toNat_lt
    have hc := c.toNat_lt
    have hn : a.toNat * 65536 + b.toNat * 256 + c.toNat < 16777216 := by omega
    rw [encode, hrest]
    generalize a.toNat * 65536 + b.toNat * 256 + c.toNat = n at hn
    refine ⟨n / 262144 :: n / 4096 % 64 :: n / 64 % 64 :: n % 64 :: ns, ?_, rfl⟩
    simp only [List.forall_mem_cons]
    exact ⟨by omega, by omega, by omega, by omega, hns⟩
  | case2 a b =>
    have ha := a.toNat_lt
    have hb := b.toNat_lt
    have hn : a.toNat * 1024 + b.toNat * 4 < 262144 := by omega
    rw [encode]
    generalize a.toNat * 1024 + b.toNat * 4 = n at hn
    refine ⟨[n / 4096, n / 64 % 64, n % 64], ?_, rfl⟩
    simp only [List.forall_mem_cons]
    exact ⟨by omega, by omega, by omega, fun _ h => nomatch h⟩
  | case3 a =>
    have ha := a.toNat_lt
    refine ⟨[a.toNat / 4, a.toNat % 4 * 16], ?_, rfl⟩
    simp only [List.forall_mem_cons]
    exact ⟨by omega, by omega, fun _ h => nomatch h⟩
  | case4 => exact ⟨[], (fun _ h => nomatch h), rfl⟩

/-- Symbols alone are letters, digits and signs of ASCII, without dots or padding. -/
theorem isPart_of_mem_encode {bs : Bytes} {b : UInt8} (h : b ∈ encode bs) :
    b.toNat < 128 ∧ b ≠ 46 ∧ b ≠ equals := by
  obtain ⟨ns, hns, hbs⟩ := encode_eq_map bs
  rw [hbs] at h
  obtain ⟨n, hn, rfl⟩ := List.mem_map.mp h
  exact symbol_isPart n (hns n hn)

theorem mapM_valueAt_symbols (offset : Nat) {ns : List Nat} (h : ∀ n ∈ ns, n < 64) (start : Nat) :
    ((ns.map symbol).zipIdx start).mapM (fun (b, i) => valueAt b (offset + i)) = .ok ns := by
  induction ns generalizing start with
  | nil => rfl
  | cons n ns ih =>
    obtain ⟨hn, hns⟩ := List.forall_mem_cons.mp h
    rw [List.map_cons, List.zipIdx_cons, List.mapM_cons, ih hns]
    dsimp only
    rw [valueAt_symbol hn]
    rfl

theorem lastValues_symbols (offset : Nat) {ns : List Nat} (h : ∀ n ∈ ns, n < 64) :
    lastValues offset (ns.map symbol) = .ok ns := by
  have hsymbols : ∀ b ∈ ns.map symbol, (b != equals) = true := by
    intro b hb
    obtain ⟨n, hn, rfl⟩ := List.mem_map.mp hb
    exact bne_iff_ne.mpr (symbol_isPart n (h n hn)).2.2
  have htake : (ns.map symbol).takeWhile (· != equals) = ns.map symbol :=
    List.takeWhile_eq_self_iff.mpr hsymbols
  have hdrop : (ns.map symbol).dropWhile (· != equals) = [] :=
    List.dropWhile_eq_nil_iff.mpr hsymbols
  rw [lastValues]
  dsimp only
  rw [htake, hdrop, mapM_valueAt_symbols offset h]
  rfl

theorem decodeLast_two {a b : Nat} (ha : a < 64) (hb : b < 64) (hbits : b % 16 = 0)
    (offset : Nat) :
    decodeLast offset [symbol a, symbol b] = .ok [(a * 4 + b / 16).toUInt8] := by
  have hvalues : lastValues offset [symbol a, symbol b] = .ok [a, b] :=
    lastValues_symbols offset (show ∀ n ∈ [a, b], n < 64 by simp [ha, hb])
  rw [decodeLast, hvalues]
  exact if_pos hbits

theorem decodeLast_three {a b c : Nat} (ha : a < 64) (hb : b < 64) (hc : c < 64)
    (hbits : c % 4 = 0) (offset : Nat) :
    decodeLast offset [symbol a, symbol b, symbol c] =
      .ok [(a * 4 + b / 16).toUInt8, (b % 16 * 16 + c / 4).toUInt8] := by
  have hvalues : lastValues offset [symbol a, symbol b, symbol c] = .ok [a, b, c] :=
    lastValues_symbols offset (show ∀ n ∈ [a, b, c], n < 64 by simp [ha, hb, hc])
  rw [decodeLast, hvalues]
  exact if_pos hbits

/-- Four symbols are three bytes, be they the last ones or not. -/
theorem decodeFrom_four {a b c d : Nat} (ha : a < 64) (hb : b < 64) (hc : c < 64) (hd : d < 64)
    {rest tail : Bytes} {offset : Nat} (hrest : rest = [] → tail = [])
    (htail : decodeFrom (offset + 4) rest = .ok tail) :
    decodeFrom offset (symbol a :: symbol b :: symbol c :: symbol d :: rest) =
      .ok ((a * 4 + b / 16).toUInt8 :: (b % 16 * 16 + c / 4).toUInt8 ::
        (c % 4 * 64 + d).toUInt8 :: tail) := by
  cases rest with
  | nil =>
    have hvalues : lastValues offset [symbol a, symbol b, symbol c, symbol d] = .ok [a, b, c, d] :=
      lastValues_symbols offset (show ∀ n ∈ [a, b, c, d], n < 64 by simp [ha, hb, hc, hd])
    rw [hrest rfl, decodeFrom, decodeLast, hvalues]
    · rfl
    · exact fun _ _ _ _ _ _ h => nomatch h
  | cons s rest =>
    rw [decodeFrom, valueAt_symbol ha, valueAt_symbol hb, valueAt_symbol hc, valueAt_symbol hd,
      htail]
    rfl

/-- Bytes that were encoded are decoded, wherever their symbols stand. -/
theorem decodeFrom_encode (offset : Nat) (bs : Bytes) : decodeFrom offset (encode bs) = .ok bs := by
  induction bs using encode.induct generalizing offset with
  | case1 a b c rest ih =>
    have ha := a.toNat_lt
    have hb := b.toNat_lt
    have hc := c.toNat_lt
    rw [encode]
    generalize hn : a.toNat * 65536 + b.toNat * 256 + c.toNat = n
    have h₁ : n / 262144 * 4 + n / 4096 % 64 / 16 = a.toNat := by omega
    have h₂ : n / 4096 % 64 % 16 * 16 + n / 64 % 64 / 4 = b.toNat := by omega
    have h₃ : n / 64 % 64 % 4 * 64 + n % 64 = c.toNat := by omega
    have hrest : encode rest = [] → rest = [] := fun h => by
      have := ih 0
      rw [h] at this
      cases this
      rfl
    rw [decodeFrom_four (by omega) (by omega) (by omega) (by omega) hrest (ih (offset + 4)), h₁, h₂,
      h₃]
    simp only [Nat.toUInt8_eq, UInt8.ofNat_toNat]
  | case2 a b =>
    have ha := a.toNat_lt
    have hb := b.toNat_lt
    rw [encode]
    generalize hn : a.toNat * 1024 + b.toNat * 4 = n
    have h₁ : n / 4096 * 4 + n / 64 % 64 / 16 = a.toNat := by omega
    have h₂ : n / 64 % 64 % 16 * 16 + n % 64 / 4 = b.toNat := by omega
    rw [decodeFrom, decodeLast_three (by omega) (by omega) (by omega) (by omega), h₁, h₂]
    · simp only [Nat.toUInt8_eq, UInt8.ofNat_toNat]
    · exact fun _ _ _ _ _ _ h => nomatch h
  | case3 a =>
    have ha := a.toNat_lt
    have h₁ : a.toNat / 4 * 4 + a.toNat % 4 * 16 / 16 = a.toNat := by omega
    rw [encode, decodeFrom, decodeLast_two (by omega) (by omega) (by omega), h₁]
    · simp only [Nat.toUInt8_eq, UInt8.ofNat_toNat]
    · exact fun _ _ _ _ _ _ h => nomatch h
  | case4 => rfl

/-- Decoding undoes encoding. -/
theorem decode_encode (bs : Bytes) : decode (encode bs) = .ok bs := by
  rw [decode]
  split
  · next last hlast =>
    obtain ⟨ns, hns, hbs⟩ := encode_eq_map bs
    have hmem : last ∈ ns.map symbol := hbs ▸ List.mem_of_getLast? hlast
    obtain ⟨n, hn, rfl⟩ := List.mem_map.mp hmem
    rw [if_neg (by simp [value?_symbol n (hns n hn)]), decodeFrom_encode]
  · next hnone =>
    have hbs := decodeFrom_encode 0 bs
    rw [List.getLast?_eq_none_iff.mp hnone] at hbs
    exact hbs

end Gateway.Base64
