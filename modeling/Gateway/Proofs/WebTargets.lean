import Gateway.Forwarding
import Gateway.Proofs.HostCharacters
import Gateway.Proofs.Prefixes
import Mathlib.Data.List.DropRight

/-! # Targets on the web: what a URL is like that a definition may name as its target -/
namespace Gateway
open Text

/-- Nothing in a text ends a path. -/
def Url.StaysInPath (cs : List Char) : Prop := ∀ c ∈ cs, Url.endsPath c = false

/-- A text that can be a path as it is. -/
def Url.IsPathText (cs : List Char) : Prop := ∀ c ∈ cs, Uri.isPathCharacter c = true

/-- The marks of a query and of a fragment are no characters of a path. -/
theorem Url.IsPathText.staysInPath {cs : List Char} (h : IsPathText cs) : StaysInPath cs := by
  intro c hc
  have hpath := h c hc
  rw [endsPath, Bool.or_eq_false_iff, beq_eq_false_iff_ne, beq_eq_false_iff_ne]
  constructor
  all_goals
    rintro rfl
    exact absurd hpath (by decide)

namespace Percent

theorem isPathText_encodeByte (b : UInt8) : Url.IsPathText (encodeByte b) := by
  have hdigit : ∀ d < 16, Uri.isPathCharacter (upperHexDigit d) = true := by decide
  have hb : b.toNat < 256 := UInt8.toNat_lt b
  rw [encodeByte]
  refine List.forall_mem_cons.mpr ⟨by decide, List.forall_mem_cons.mpr ⟨?_, ?_⟩⟩
  · exact hdigit _ (by omega)
  · exact List.forall_mem_singleton.mpr (hdigit _ (by omega))

/-- In a path all that cannot stand there is written as its bytes. -/
theorem isPathText_encode (cs : List Char) : Url.IsPathText (encode pathSet cs) := by
  have hkept : ∀ n < 128, 0x20 ≤ (Char.ofNat n).toNat → (Char.ofNat n).toNat ≤ 0x7E →
      pathSet.contains (Char.ofNat n) = false → Uri.isPathCharacter (Char.ofNat n) = true := by
    decide
  intro c hc
  obtain ⟨d, -, hc⟩ := List.mem_flatMap.mp hc
  rw [encodeChar] at hc
  split_ifs at hc with hset
  · obtain ⟨b, -, hc⟩ := List.mem_flatMap.mp hc
    exact isPathText_encodeByte b c hc
  · rw [List.mem_singleton.mp hc]
    simp only [Bool.or_eq_true, decide_eq_true_eq, not_or, Nat.not_lt, Bool.not_eq_true] at hset
    obtain ⟨⟨hlow, hhigh⟩, hset⟩ := hset
    have hd := hkept d.toNat (by omega)
    rw [Char.ofNat_toNat] at hd
    exact hd hlow hhigh hset

end Percent

namespace Url

theorem StaysInPath.nil : StaysInPath [] := fun _ hc => nomatch hc

/-- Dots take segments away and add empty ones; all others are written for a path. -/
theorem isPathText_normalize {seen ps : List (List Char)} (h : ∀ s ∈ seen, IsPathText s) :
    ∀ s ∈ normalize seen ps, IsPathText s := by
  have hempty : IsPathText [] := fun _ hc => nomatch hc
  induction ps generalizing seen with
  | nil => exact fun s hs => h s (List.mem_reverse.mp hs)
  | cons p ps ih =>
    have habove : ∀ s ∈ seen.drop 1, IsPathText s := fun s hs => h s (List.mem_of_mem_drop hs)
    rw [normalize]
    split_ifs
    · exact ih (List.forall_mem_cons.mpr ⟨hempty, habove⟩)
    · exact ih habove
    · exact ih (List.forall_mem_cons.mpr ⟨hempty, h⟩)
    · exact ih h
    · exact ih (List.forall_mem_cons.mpr ⟨Percent.isPathText_encode p, h⟩)

/-- The last piece always leaves a segment. -/
theorem normalize_ne_nil (seen : List (List Char)) {ps : List (List Char)} (h : ps ≠ []) :
    normalize seen ps ≠ [] := by
  induction ps generalizing seen with
  | nil => exact absurd rfl h
  | cons p ps ih =>
    rw [normalize]
    cases ps with
    | nil => split_ifs <;> simp_all [normalize]
    | cons q ps => split_ifs <;> exact ih _ (List.cons_ne_nil q ps)

/-- A path from its first slash on, which ends nowhere before its end. -/
structure IsPath (cs : List Char) : Prop where
  head : cs.head? = some '/'
  staysInPath : StaysInPath cs

theorem isPath_root : IsPath "/".toList := ⟨rfl, List.forall_mem_singleton.mpr rfl⟩

theorem head?_readPath (special : Bool) (cs : List Char) :
    (readPath special cs).toList.head? = some '/' := by
  have hne : pieces special cs ≠ [] := splitChars_ne_nil _ _
  obtain ⟨s, ss, hs⟩ := List.exists_cons_of_ne_nil (normalize_ne_nil [] hne)
  rw [readPath, String.toList_ofList, hs]
  rfl

theorem isPathText_readPath (special : Bool) (cs : List Char) :
    IsPathText (readPath special cs).toList := by
  have htexts : ∀ s ∈ normalize [] (pieces special cs), IsPathText s :=
    isPathText_normalize fun s hs => nomatch hs
  rw [readPath, String.toList_ofList]
  intro c hc
  obtain ⟨s, hs, hc⟩ := List.mem_flatMap.mp hc
  rcases List.mem_cons.mp hc with rfl | hc
  · decide
  · exact htexts s hs c hc

theorem host_of_readAuthority {scheme : String} {cs : List Char} {a : Authority}
    (h : readAuthority scheme .web cs = .ok a) : ∃ text host, readHost text = .ok host ∧
      a.host = some host := by
  unfold readAuthority at h
  dsimp only at h
  rw [if_pos (show Kind.web.isSpecial = true from rfl)] at h
  split_ifs at h
  · obtain ⟨_, h, -⟩ := chain_eq_ok_iff.mp h
    cases h
  · obtain ⟨host, hhost, h⟩ := chain_eq_ok_iff.mp h
    cases hread : readHost (cutHost false (cutUser cs).2).1 with
    | error e =>
      rw [hread] at hhost
      cases hhost
    | ok host' =>
      rw [hread] at hhost
      cases hhost
      simp only [Option.isNone_some, Bool.false_and, Bool.false_eq_true, if_false] at h
      obtain ⟨port, -, h⟩ := chain_eq_ok_iff.mp h
      cases h
      exact ⟨_, host', hread, rfl⟩

theorem readWithAuthority_eq_ok {scheme : String} {kind : Kind} {cs : List Char} {u : Url}
    (h : readWithAuthority scheme kind cs = .ok u) : u.scheme = scheme ∧
      ∃ text a, readAuthority scheme kind text = .ok a ∧ u.authority = some a ∧
        (u.path = (if kind.isSpecial then "/" else "") ∨
          ∃ path, u.path = readPath kind.isSpecial path) := by
  unfold readWithAuthority at h
  dsimp only at h
  split at h
  · obtain ⟨_, h, -⟩ := chain_eq_ok_iff.mp h
    cases h
  · obtain ⟨a, ha, h⟩ := chain_eq_ok_iff.mp h
    cases h
    refine ⟨rfl, _, a, ha, rfl, ?_⟩
    dsimp only [assemble]
    split
    · exact .inl rfl
    · exact .inr ⟨_, rfl⟩

theorem scheme_of_readGeneral {scheme : String} {cs : List Char} {u : Url}
    (h : readGeneral scheme cs = .ok u) : u.scheme = scheme := by
  unfold readGeneral at h
  split at h
  · exact (readWithAuthority_eq_ok h).1
  · cases h
    rfl
  · cases h
    rfl

theorem scheme_of_readFile {cs : List Char} {u : Url} (h : readFile cs = .ok u) :
    u.scheme = "file" := by
  unfold readFile at h
  dsimp only at h
  split at h
  · split_ifs at h
    · cases h
      rfl
    · obtain ⟨_, -, h⟩ := chain_eq_ok_iff.mp h
      cases h
      rfl
    · cases h
      rfl
  · cases h
    rfl

/-- A URL of the web is read as one. -/
theorem readWithAuthority_of_read {s : String} {u : Url} (h : read s = .ok u)
    (hscheme : u.scheme = "http" ∨ u.scheme = "https") :
    ∃ cs, readWithAuthority u.scheme .web cs = .ok u := by
  have hweb : Kind.ofScheme u.scheme = .web := by
    rcases hscheme with hscheme | hscheme <;> rw [hscheme] <;> rfl
  unfold read at h
  split at h
  · cases h
  · next scheme rest _ =>
    split at h
    · rw [(readWithAuthority_eq_ok h).1]
      exact ⟨_, h⟩
    -- The other kinds keep the scheme by which they were chosen, and it is not one of the web.
    · rw [scheme_of_readFile h] at hscheme
      exact absurd hscheme (by decide)
    · next hkind =>
      rw [scheme_of_readGeneral h, hkind] at hweb
      cases hweb

/-- What a URL of the web has: one of its schemes, a host, and a path from its first slash on. -/
structure IsOfWeb (u : Url) : Prop where
  scheme : u.scheme = "http" ∨ u.scheme = "https"
  host : ∃ a host, u.authority = some a ∧ a.host = some host ∧ host.IsOfWeb
  head : u.path.toList.head? = some '/'
  path : IsPathText u.path.toList

/-- What a URL needs to name a backend: nothing in its place ends an authority or names a user, and
its path is one. -/
structure IsTarget (u : Url) : Prop where
  scheme : u.scheme = "http" ∨ u.scheme = "https"
  place : IsPlaceText u.place.toList
  path : IsPath u.path.toList

theorem IsOfWeb.isTarget {u : Url} (h : u.IsOfWeb) : u.IsTarget := by
  refine ⟨h.scheme, ?_, h.head, h.path.staysInPath⟩
  obtain ⟨a, host, ha, hhost, hweb⟩ := h.host
  rw [place, ha]
  refine Authority.isPlaceText_place fun other hother => ?_
  cases hhost.symm.trans hother
  exact hweb.isPlaceText

end Url

theorem Definition.isOfWeb_of_target? {route raw : String} {u : Url}
    (h : Definition.target? route raw = .ok u) : u.IsOfWeb := by
  unfold Definition.target? at h
  split at h
  · cases h
  · next url hread =>
    split_ifs at h with hurl
    cases h
    simp only [Bool.and_eq_true, Bool.or_eq_true, decide_eq_true_eq] at hurl
    obtain ⟨cs, hweb⟩ := Url.readWithAuthority_of_read hread hurl.1
    obtain ⟨-, text, a, ha, hau, hpath⟩ := Url.readWithAuthority_eq_ok hweb
    obtain ⟨name, host, hhost, hah⟩ := Url.host_of_readAuthority ha
    have hof : u.path.toList.head? = some '/' ∧ Url.IsPathText u.path.toList := by
      rcases hpath with hpath | ⟨path, hpath⟩
      · rw [hpath]
        exact ⟨rfl, List.forall_mem_singleton.mpr rfl⟩
      · rw [hpath]
        exact ⟨Url.head?_readPath _ path, Url.isPathText_readPath _ path⟩
    exact ⟨hurl.1, ⟨a, host, hau, hah, Url.isOfWeb_of_readHost hhost⟩, hof.1, hof.2⟩

theorem Route.IsValidated.isOfWeb {r : Route} (h : r.IsValidated) : r.target.IsOfWeb := by
  obtain ⟨d, hd⟩ := h
  exact Definition.isOfWeb_of_target? (Definition.makes_of_validate hd).target

theorem Route.IsValidated.isTarget {r : Route} (h : r.IsValidated) : r.target.IsTarget :=
  h.isOfWeb.isTarget

end Gateway
