import Gateway.Proofs.AddressCharacters
import Gateway.Proofs.Validated
import Gateway.Uri

/-! # The characters of a host: none of them ends an authority or has a user before it -/
namespace Gateway
open Text

/-- A character of ASCII that host names may hold. -/
def IsNameCharacter (c : Char) : Prop := c.toNat < 128 ∧ Idna.isForbidden c = false

instance (c : Char) : Decidable (IsNameCharacter c) := inferInstanceAs (Decidable (_ ∧ _))

/-- A text that only has such characters. -/
def IsNameText (cs : List Char) : Prop := ∀ c ∈ cs, IsNameCharacter c

/-- A character of a host and its port: one of ASCII that host names may hold, or one of those that
stand around and in the numbers of an address. -/
def IsPlaceCharacter (c : Char) : Prop :=
  (c.toNat < 128 ∧ Idna.isForbidden c = false) ∨ c = ':' ∨ c = '[' ∨ c = ']'

instance (c : Char) : Decidable (IsPlaceCharacter c) := inferInstanceAs (Decidable (_ ∨ _))

/-- A text that only has such characters. -/
def IsPlaceText (cs : List Char) : Prop := ∀ c ∈ cs, IsPlaceCharacter c

theorem IsNameText.isPlaceText {cs : List Char} (h : IsNameText cs) : IsPlaceText cs :=
  fun c hc => .inl (h c hc)

theorem IsAddressText.isPlaceText {cs : List Char} (h : IsAddressText cs) : IsPlaceText cs :=
  fun c hc => (h c hc).imp (by decide)

namespace IsPlaceText
variable {cs ds : List Char}

theorem append (hcs : IsPlaceText cs) (hds : IsPlaceText ds) : IsPlaceText (cs ++ ds) :=
  List.forall_mem_append.mpr ⟨hcs, hds⟩

theorem singleton {c : Char} (hc : IsPlaceCharacter c) : IsPlaceText [c] :=
  List.forall_mem_singleton.mpr hc

end IsPlaceText

namespace Idna

namespace Punycode

/-- A threshold leaves room for at least ten digits. -/
theorem isNameText_numberDigits (bias position n : Nat) :
    IsNameText (numberDigits bias position n) := by
  have hdigit : ∀ d < 36, IsNameCharacter (digit d) := by decide
  induction position, n using numberDigits.induct bias with
  | case1 position n t h =>
    rw [numberDigits, if_pos h]
    have ht : t ≤ 26 := threshold_le position bias
    exact List.forall_mem_singleton.mpr (hdigit n (by omega))
  | case2 position n t h ih =>
    have ht : t ≤ 26 := threshold_le position bias
    have hmod : (n - t) % (36 - t) < 36 - t := Nat.mod_lt _ (by omega)
    have hd : t + (n - t) % (36 - t) < 36 := by omega
    rw [numberDigits, if_neg h]
    exact List.forall_mem_cons.mpr ⟨hdigit _ hd, ih⟩

theorem isNameText_pass {basic n : Nat} {p : Progress} (hp : IsNameText p.written) (c : Char) :
    IsNameText (pass basic n p c).written := by
  rw [pass]
  split_ifs
  · exact hp
  · exact List.forall_mem_append.mpr ⟨hp, isNameText_numberDigits _ _ _⟩
  · exact hp

theorem isNameText_foldl_pass {basic n : Nat} {p : Progress} (hp : IsNameText p.written)
    (input : List Char) : IsNameText (input.foldl (pass basic n) p).written := by
  induction input generalizing p with
  | nil => exact hp
  | cons c input ih => exact ih (isNameText_pass hp c)

theorem isNameText_encodeFrom {input : List Char} {basic n : Nat} {ns : List Nat} {p : Progress}
    (hp : IsNameText p.written) : IsNameText (encodeFrom input basic n ns p) := by
  induction ns generalizing n p with
  | nil => exact hp
  | cons m ns ih =>
    rw [encodeFrom]
    refine ih ?_
    exact isNameText_foldl_pass (p := { p with delta := p.delta + (m - n) * (p.count + 1) }) hp input

/-- The characters of ASCII stand for themselves, all else becomes letters and digits. -/
theorem isNameText_encode {label : List Char} (h : ∀ c ∈ label, isForbidden c = false) :
    IsNameText (encode label) := by
  have hbasic : IsNameText (label.filter fun c => c.toNat < 128) := by
    intro c hc
    obtain ⟨hmem, hc⟩ := List.mem_filter.mp hc
    exact ⟨of_decide_eq_true hc, h c hmem⟩
  rw [encode]
  refine List.forall_mem_append.mpr ⟨?_, isNameText_encodeFrom fun c hc => nomatch hc⟩
  split_ifs
  · exact fun c hc => nomatch hc
  · exact List.forall_mem_append.mpr ⟨hbasic, List.forall_mem_singleton.mpr (by decide)⟩

end Punycode

theorem isForbidden_of_isValidLabel {label : List Char} (h : isValidLabel label = true) :
    ∀ c ∈ label, isForbidden c = false := by
  intro c hc
  simp only [isValidLabel, Bool.and_eq_true, List.all_eq_true, Bool.not_eq_true'] at h
  exact (h.1.2 c hc).1.2

theorem isForbidden_of_unicodeLabel? {label l : List Char} (h : unicodeLabel? label = some l) :
    ∀ c ∈ l, isForbidden c = false := by
  rw [unicodeLabel?] at h
  split_ifs at h with hmark hascii hascii hforbidden hvalid
  · split at h
    · cases h
    · split_ifs at h with hl
      cases h
      rw [Bool.or_eq_true, not_or, Bool.not_eq_true, Bool.not_eq_true, Bool.not_eq_false'] at hl
      exact isForbidden_of_isValidLabel hl.2
  · cases h
    simpa using hforbidden
  · cases h
    exact isForbidden_of_isValidLabel hvalid

theorem isNameText_asciiLabel {label : List Char} (h : ∀ c ∈ label, isForbidden c = false) :
    IsNameText (asciiLabel label) := by
  rw [asciiLabel]
  split_ifs with hascii
  · intro c hc
    simp only [isAscii, List.all_eq_true, decide_eq_true_eq] at hascii
    exact ⟨hascii c hc, h c hc⟩
  · exact List.forall_mem_append.mpr
      ⟨forall_mem_of_all (by decide), Punycode.isNameText_encode h⟩

theorem forall_of_mapM {α β : Type} {P : β → Prop} {f : α → Option β}
    (hf : ∀ x y, f x = some y → P y) {xs : List α} {ys : List β} (h : xs.mapM f = some ys) :
    ∀ y ∈ ys, P y := by
  induction xs generalizing ys with
  | nil =>
    cases h
    exact fun y hy => nomatch hy
  | cons x xs ih =>
    simp only [List.mapM_cons, Option.bind_eq_bind, Option.bind_eq_some_iff] at h
    obtain ⟨y, hy, ys, hys, h⟩ := h
    cases h
    exact List.forall_mem_cons.mpr ⟨hf x y hy, ih hys⟩

/-- The labels of a name are cleared of forbidden characters once they are decoded. -/
theorem isNameText_of_toAscii? {cs name : List Char} (h : toAscii? cs = some name) :
    IsNameText name := by
  simp only [toAscii?, Option.bind_eq_bind, Option.bind_eq_some_iff] at h
  obtain ⟨spelled, -, labels, hlabels, h⟩ := h
  have hforbidden : ∀ l ∈ labels, ∀ c ∈ l, isForbidden c = false :=
    forall_of_mapM (fun _ _ => isForbidden_of_unicodeLabel?) hlabels
  split_ifs at h
  · cases h
  · cases h
    refine forall_mem_intercalate (List.forall_mem_singleton.mpr (by decide)) ?_
    exact List.forall_mem_map.mpr fun l hl => isNameText_asciiLabel (hforbidden l hl)

end Idna

theorem Address.length_of_ipv6? {cs : List Char} {gs : List Nat} (h : ipv6? cs = some gs) :
    gs.length = 8 := by
  unfold ipv6? at h
  simp only [Option.bind_eq_bind] at h
  split at h
  · obtain ⟨gs, -, h⟩ := Option.bind_eq_some_iff.mp h
    split_ifs at h with hlength
    cases h
    exact hlength
  · obtain ⟨ls, -, h⟩ := Option.bind_eq_some_iff.mp h
    obtain ⟨rs, -, h⟩ := Option.bind_eq_some_iff.mp h
    split_ifs at h with hlength
    cases h
    rw [List.length_append, List.length_append, List.length_replicate]
    omega

/-- The hosts that a URL of the web can have: a name in ASCII, or an address. -/
inductive Host.IsOfWeb : Host → Prop
  | domain {name : String} (hne : name ≠ "") (hname : IsNameText name.toList) : IsOfWeb (domain name)
  | ipv4 (address : Nat) : IsOfWeb (ipv4 address)
  | ipv6 (groups : List Nat) (hlength : groups.length = 8) : IsOfWeb (ipv6 groups)

theorem Host.isAddressText_dotted (address : Nat) : IsAddressText (dotted address).toList :=
  isAddressText_octets [_, _, _, _]

theorem Host.IsOfWeb.isPlaceText {h : Host} (hh : h.IsOfWeb) : IsPlaceText h.render.toList := by
  cases hh with
  | domain hne hname => exact hname.isPlaceText
  | ipv4 address => exact (isAddressText_dotted address).isPlaceText
  | ipv6 groups hlength =>
    have hopening : IsPlaceText "[".toList := .singleton (by decide)
    have hclosing : IsPlaceText "]".toList := .singleton (by decide)
    rw [render, String.toList_append, String.toList_append]
    exact (hopening.append (isAddressText_compressed groups).isPlaceText).append hclosing

namespace Url

theorem isOfWeb_of_bracketed? {cs : List Char} {h : Host} (hh : bracketed? cs = .ok (some h)) :
    h.IsOfWeb := by
  unfold bracketed? at hh
  split at hh
  · split_ifs at hh
    split at hh
    · next hgroups =>
      cases hh
      exact .ipv6 _ (Address.length_of_ipv6? hgroups)
    · cases hh
  · cases hh

theorem isOfWeb_of_readDomain {cs : List Char} {h : Host} (hh : readDomain cs = .ok h) :
    h.IsOfWeb := by
  rw [readDomain] at hh
  split at hh
  · cases hh
  · cases hh
  · next name hne hname =>
    obtain ⟨s, -, hname⟩ := Option.bind_eq_some_iff.mp hname
    split_ifs at hh
    · split at hh
      · cases hh
        exact .ipv4 _
      · cases hh
    · cases hh
      refine .domain ?_ ?_
      · rintro hempty
        rw [← String.toList_eq_nil_iff, String.toList_ofList] at hempty
        exact hne hempty
      · rw [String.toList_ofList]
        exact Idna.isNameText_of_toAscii? hname

theorem isOfWeb_of_readHost {cs : List Char} {h : Host} (hh : readHost cs = .ok h) :
    h.IsOfWeb := by
  obtain ⟨bracketed, hb, hh⟩ := chain_eq_ok_iff.mp hh
  cases bracketed with
  | none => exact isOfWeb_of_readDomain hh
  | some h =>
    cases hh
    exact isOfWeb_of_bracketed? hb

end Url

/-- The host and the port of a web URL, as they are written. -/
theorem Authority.isPlaceText_place {a : Authority}
    (h : ∀ host, a.host = some host → IsPlaceText host.render.toList) :
    IsPlaceText a.place.toList := by
  rw [Authority.place, String.toList_append]
  refine .append ?_ ?_
  · split
    · next host hhost => exact h host hhost
    · exact fun c hc => nomatch hc
  · split
    · rw [String.toList_append]
      exact .append (.singleton (by decide)) (isAddressText_toString _).isPlaceText
    · exact fun c hc => nomatch hc

/-- No such character ends an authority, and none ends a user before it. -/
theorem IsPlaceCharacter.isHostPart {c : Char} (h : IsPlaceCharacter c) :
    Uri.endsAuthority c = false ∧ c ≠ '@' := by
  have hc : c.toNat < 128 := by
    rcases h with ⟨h, -⟩ | rfl | rfl | rfl
    · exact h
    all_goals decide
  refine forall_ascii (P := fun c => IsPlaceCharacter c → Uri.endsAuthority c = false ∧ c ≠ '@') ?_
    hc h
  decide

end Gateway
