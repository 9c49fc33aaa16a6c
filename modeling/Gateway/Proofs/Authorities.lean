import Gateway.Proofs.HostCharacters

/-! # Authorities: which hosts and ports of web URLs can stand in a URI -/
namespace Gateway
open Text

namespace Text

/-- Joined pieces have as many separators as there are places between them. -/
theorem count_intercalate {sep : Char} {pieces : List (List Char)} (h : ∀ p ∈ pieces, sep ∉ p) :
    ([sep].intercalate pieces).count sep = pieces.length - 1 := by
  induction pieces with
  | nil => rfl
  | cons p pieces ih =>
    obtain ⟨hp, hpieces⟩ := List.forall_mem_cons.mp h
    cases pieces with
    | nil =>
      rw [List.intercalate_singleton, List.count_eq_zero.mpr hp]
      rfl
    | cons q pieces =>
      rw [List.intercalate_cons_cons, List.count_append, List.count_append, ih hpieces,
        List.count_eq_zero.mpr hp, List.count_singleton_self]
      simp only [List.length_cons]
      omega

end Text

namespace Host

theorem count_groupsText (gs : List Nat) : (groupsText gs).toList.count ':' = gs.length - 1 := by
  have hdigits : ∀ p ∈ (gs.map fun g => String.ofList (hexDigits g)).map String.toList, ':' ∉ p := by
    simp only [List.forall_mem_map, String.toList_ofList]
    exact fun g _ hmem => absurd (isHexDigit_of_mem_hexDigits g _ hmem) (by decide)
  rw [groupsText, join, String.toList_intercalate]
  show ([':'].intercalate _).count ':' = _
  rw [count_intercalate hdigits, List.length_map, List.length_map]

/-- The run of zeros ends with the groups at the latest. -/
theorem longestZeros_le (start : Nat) (gs : List Nat) :
    (longestZeros start gs).1 + (longestZeros start gs).2 ≤ start + gs.length := by
  induction gs generalizing start with
  | nil => exact Nat.zero_le _
  | cons g gs ih =>
    have hrun : ((g :: gs).takeWhile (· == 0)).length ≤ (g :: gs).length :=
      (List.takeWhile_sublist _).length_le
    have hrest := ih (start + 1)
    rw [longestZeros]
    dsimp only
    rw [List.length_cons] at *
    split_ifs <;> omega

/-- Where zeros are left out there are not more colons than there are groups. -/
theorem count_compressed_le (gs : List Nat) : (compressed gs).toList.count ':' ≤ gs.length := by
  have hzeros := longestZeros_le 0 gs
  have hpair : "::".toList.count ':' = 2 := by decide
  rw [compressed]
  dsimp only
  split_ifs
  · rw [count_groupsText]
    omega
  · rw [String.toList_append, String.toList_append, List.count_append, List.count_append, hpair,
      count_groupsText, count_groupsText, List.length_take, List.length_drop]
    omega

theorem not_mem_colon_dotted (address : Nat) : ':' ∉ (dotted address).toList := by
  have hsep : ∀ c ∈ ".".toList, c ≠ ':' := forall_mem_of_all (by decide)
  have hdigit : ∀ n : Nat, ∀ c ∈ (toString n).toList, c ≠ ':' := by
    rintro n _ hmem rfl
    exact absurd (isHexDigit_of_mem_toString n _ hmem) (by decide)
  have hparts : ∀ p ∈ [address / 0x1000000, address / 0x10000 % 256, address / 256 % 256,
      address % 256].map toString, ∀ c ∈ p.toList, c ≠ ':' :=
    List.forall_mem_map.mpr fun n _ => hdigit n
  exact fun hmem => forall_mem_join hsep hparts ':' hmem rfl

theorem dotted_ne_nil (address : Nat) : (dotted address).toList ≠ [] :=
  join_cons_ne_nil "." (toList_toString_ne_nil _) _

end Host

namespace Uri

/-- A character that the reader of an authority takes as it is, colons counted. -/
def IsPlain (c : Char) : Prop :=
  isAuthorityCharacter c = true ∧ c ≠ '[' ∧ c ≠ ']' ∧ c ≠ '@' ∧ c ≠ '%'

instance (c : Char) : Decidable (IsPlain c) := inferInstanceAs (Decidable (_ ∧ _))

theorem isPlain_of_isAddressText {cs : List Char} (h : IsAddressText cs) : ∀ c ∈ cs, IsPlain c :=
  fun c hc => (h c hc).imp (by decide)

theorem scanAuthority_append (s : Seen) (cs ds : List Char) :
    scanAuthority s (cs ++ ds) = scanAuthority s cs >>= fun t => scanAuthority t ds := by
  induction cs generalizing s with
  | nil => rfl
  | cons c cs ih =>
    rw [List.cons_append, scanAuthority, scanAuthority]
    split_ifs <;> first | rfl | exact ih _

/-- Nothing but the characters of authorities is read through. -/
theorem isAuthorityCharacter_of_scanAuthority {s t : Seen} {cs : List Char}
    (h : scanAuthority s cs = .ok t) : ∀ c ∈ cs, isAuthorityCharacter c = true := by
  induction cs generalizing s with
  | nil => exact fun c hc => nomatch hc
  | cons c cs ih =>
    rw [scanAuthority] at h
    split_ifs at h with hc
    all_goals
      rw [Bool.not_eq_true', Bool.not_eq_false] at hc
      exact List.forall_mem_cons.mpr ⟨hc, ih h⟩

theorem getLast?_cons_or {α : Type} (x : α) (xs : List α) (last : Option α) :
    (x :: xs).getLast?.or last = xs.getLast?.or (some x) := by
  rw [List.getLast?_cons]
  cases xs.getLast? <;> rfl

theorem scanAuthority_plain {s : Seen} {cs : List Char} (h : ∀ c ∈ cs, IsPlain c)
    (hcolons : s.colons + cs.count ':' ≤ maxColons) :
    scanAuthority s cs =
      .ok { s with colons := s.colons + cs.count ':', last := cs.getLast?.or s.last } := by
  induction cs generalizing s with
  | nil => rfl
  | cons c cs ih =>
    obtain ⟨⟨hc, hopen, hclose, hat, hpercent⟩, hcs⟩ := List.forall_mem_cons.mp h
    simp only [scanAuthority, hc, Bool.not_true, Bool.false_eq_true, if_false, beq_iff_eq, hopen,
      hclose, hat, hpercent]
    rw [getLast?_cons_or]
    by_cases hcolon : c = ':'
    · rw [hcolon, List.count_cons_self] at hcolons ⊢
      rw [if_pos rfl, if_neg (by omega), ih hcs (by dsimp only; omega)]
      dsimp only
      rw [Nat.add_assoc, Nat.add_comm 1]
    · rw [List.count_cons_of_ne hcolon] at hcolons ⊢
      rw [if_neg hcolon]
      exact ih (s := { s with last := some c }) hcs hcolons

/-- What the reader has seen before an authority. -/
def Seen.start : Seen := ⟨0, false, false, false, none⟩

/-- Brackets in a pair, at most one colon before the port, and something after the last at-sign. -/
theorem checkAuthority_of_scanAuthority {cs : List Char} {s : Seen}
    (h : scanAuthority .start cs = .ok s) (hpair : s.opened = s.closed) (hcolons : s.colons ≤ 1)
    (hlast : s.last ≠ some '@') (hpercent : s.percent = false) : checkAuthority cs = .ok () := by
  have hpass : (s.opened != s.closed || s.colons > 1 || s.last == some '@' || s.percent) = false := by
    simp [hpair, hcolons, hlast, hpercent]
  refine chain_eq_ok_iff.mpr ⟨s, h, ?_⟩
  rw [hpass]
  rfl

/-- A host without brackets and colons ends in one of its own characters. -/
theorem scanAuthority_bare {cs : List Char} (h : ∀ c ∈ cs, IsPlain c) (hcolon : ':' ∉ cs) :
    scanAuthority .start cs = .ok ⟨0, false, false, false, cs.getLast?⟩ := by
  have hcount : cs.count ':' = 0 := List.count_eq_zero.mpr hcolon
  rw [scanAuthority_plain h (by rw [hcount]; exact Nat.zero_le _), hcount, Seen.start]
  dsimp only
  rw [Option.or_none]

theorem getLast?_ne_at {cs : List Char} (h : ∀ c ∈ cs, IsPlain c) : cs.getLast? ≠ some '@' :=
  fun hlast => (h _ (List.mem_of_getLast? hlast)).2.2.2.1 rfl

/-- A host in brackets is read through if what stands between them is. -/
theorem scanAuthority_bracketed {cs : List Char} (h : ∀ c ∈ cs, IsPlain c)
    (hcolons : cs.count ':' ≤ maxColons) :
    scanAuthority .start ('[' :: cs ++ [']']) = .ok ⟨0, true, true, false, some ']'⟩ := by
  have hopen : scanAuthority .start ['['] = .ok ⟨0, true, false, false, some '['⟩ := rfl
  rw [← List.singleton_append, List.append_assoc, scanAuthority_append, hopen]
  show scanAuthority _ (cs ++ [']']) = _
  rw [scanAuthority_append, scanAuthority_plain h (by dsimp only; omega)]
  rfl

end Uri

namespace Host
open Uri

/-- A host of the web is read through if its characters are ones of an authority, and it leaves
nothing open. -/
theorem IsOfWeb.scanAuthority_render {h : Host} (hh : h.IsOfWeb)
    (hchars : ∀ c ∈ h.render.toList, isAuthorityCharacter c = true) :
    ∃ bracketed last, scanAuthority .start h.render.toList =
      .ok ⟨0, bracketed, bracketed, false, last⟩ ∧ last ≠ some '@' := by
  cases hh with
  | @domain name hne hname =>
    have hforbidden : ∀ c ∈ ['[', ']', '@', '%', ':'], ¬IsNameCharacter c :=
      forall_mem_of_all (by decide)
    have hother : ∀ d ∈ ['[', ']', '@', '%', ':'], d ∉ name.toList :=
      fun d hd hmem => hforbidden d hd (hname d hmem)
    simp only [List.forall_mem_cons] at hother
    obtain ⟨hopen, hclose, hat, hpercent, hcolon, -⟩ := hother
    have hplain : ∀ c ∈ name.toList, IsPlain c := fun c hc =>
      ⟨hchars c hc, fun h => hopen (h ▸ hc), fun h => hclose (h ▸ hc), fun h => hat (h ▸ hc),
        fun h => hpercent (h ▸ hc)⟩
    exact ⟨false, _, scanAuthority_bare hplain hcolon, getLast?_ne_at hplain⟩
  | ipv4 address =>
    have hplain := isPlain_of_isAddressText (isAddressText_dotted address)
    exact ⟨false, _, scanAuthority_bare hplain (not_mem_colon_dotted address), getLast?_ne_at hplain⟩
  | ipv6 groups hlength =>
    have hplain := isPlain_of_isAddressText (isAddressText_compressed groups)
    have hcolons := count_compressed_le groups
    rw [hlength] at hcolons
    refine ⟨true, some ']', ?_, by decide⟩
    rw [render, String.toList_append, String.toList_append]
    exact scanAuthority_bracketed hplain hcolons

theorem IsOfWeb.render_ne_nil {h : Host} (hh : h.IsOfWeb) : h.render.toList ≠ [] := by
  cases hh with
  | domain hne hname => exact fun hnil => hne (String.toList_eq_nil_iff.mp hnil)
  | ipv4 address => exact dotted_ne_nil address
  | ipv6 groups hlength =>
    rw [render, String.toList_append, String.toList_append]
    exact List.append_ne_nil_of_left_ne_nil
      (List.append_ne_nil_of_left_ne_nil (List.cons_ne_nil '[' []) _) _

end Host

namespace Authority
open Uri

/-- The port as it is written after the host. -/
def portText (a : Authority) : List Char :=
  match a.port with
  | some p => ':' :: (toString p).toList
  | none => []

theorem toList_place {a : Authority} {host : Host} (hhost : a.host = some host) :
    a.place.toList = host.render.toList ++ a.portText := by
  rw [place, hhost, portText]
  cases a.port with
  | none => rw [String.toList_append]; rfl
  | some p => rw [String.toList_append, String.toList_append]; rfl

theorem isAddressText_portText (a : Authority) : IsAddressText a.portText := by
  rw [portText]
  split
  · exact List.forall_mem_cons.mpr ⟨.inr (.inr rfl), isAddressText_toString _⟩
  · exact fun c hc => nomatch hc

theorem count_portText_le (a : Authority) : a.portText.count ':' ≤ 1 := by
  rw [portText]
  split
  · next p _ =>
    have hdigits : ':' ∉ (toString p).toList :=
      fun hmem => absurd (isHexDigit_of_mem_toString p _ hmem) (by decide)
    have hnone : (toString p).toList.count ':' = 0 := List.count_eq_zero.mpr hdigits
    rw [List.count_cons_self]
    omega
  · exact Nat.zero_le 1

/-- The place of a web URL is an authority just if each of its characters can stand in one. -/
theorem checkAuthority_place_iff {a : Authority} {host : Host} (hhost : a.host = some host)
    (hweb : host.IsOfWeb) : checkAuthority a.place.toList = .ok () ↔
      ∀ c ∈ a.place.toList, isAuthorityCharacter c = true := by
  constructor
  · intro h
    obtain ⟨s, hscan, -⟩ := chain_eq_ok_iff.mp h
    exact isAuthorityCharacter_of_scanAuthority hscan
  · intro hchars
    rw [toList_place hhost] at hchars ⊢
    obtain ⟨hfront, -⟩ := List.forall_mem_append.mp hchars
    obtain ⟨bracketed, last, hscan, hlast⟩ := hweb.scanAuthority_render hfront
    have hport := isPlain_of_isAddressText a.isAddressText_portText
    have hcolons := a.count_portText_le
    have hend : a.portText.getLast?.or last ≠ some '@' := by
      cases hc : a.portText.getLast? with
      | none => exact hlast
      | some c =>
        rw [Option.some_or, ← hc]
        exact getLast?_ne_at hport
    have hplace : scanAuthority .start (host.render.toList ++ a.portText) =
        .ok ⟨a.portText.count ':', bracketed, bracketed, false, a.portText.getLast?.or last⟩ := by
      rw [scanAuthority_append, hscan]
      show scanAuthority _ a.portText = _
      rw [scanAuthority_plain hport (by dsimp only [maxColons]; omega)]
      dsimp only
      rw [Nat.zero_add]
    exact checkAuthority_of_scanAuthority hplace rfl hcolons hend rfl

end Authority
end Gateway
