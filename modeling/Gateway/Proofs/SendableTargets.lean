import Gateway.Proofs.Authorities
import Gateway.Proofs.BareHosts
import Gateway.Proofs.HeaderTexts
import Gateway.Proofs.Upstream

/-! # Sendable targets: to which of the targets that definitions name a request can be sent -/
namespace Gateway
open Text

namespace Url

/-- The characters that a host name of the web may hold and the authority of a URI may not. -/
def strayCharacters : List Char := ['"', '\x60', '\x7b', '\x7d']

/-- None of them stands in the place of a URL. -/
def IsSendable (u : Url) : Prop := ∀ c ∈ u.place.toList, c ∉ strayCharacters

instance (u : Url) : Decidable u.IsSendable :=
  List.decidableBAll (· ∉ strayCharacters) u.place.toList

end Url

theorem IsPlaceCharacter.toNat_lt {c : Char} (h : IsPlaceCharacter c) : c.toNat < 128 := by
  rcases h with ⟨h, -⟩ | rfl | rfl | rfl
  · exact h
  all_goals decide

theorem IsPlaceCharacter.isAuthorityCharacter_iff {c : Char} (h : IsPlaceCharacter c) :
    Uri.isAuthorityCharacter c = true ↔ c ∉ Url.strayCharacters := by
  refine forall_ascii (P := fun c => IsPlaceCharacter c →
    (Uri.isAuthorityCharacter c = true ↔ c ∉ Url.strayCharacters)) ?_ h.toNat_lt h
  decide

theorem IsPlaceText.isVisible {cs : List Char} (h : IsPlaceText cs) : Headers.IsVisible cs := by
  intro c hc
  refine forall_ascii (P := fun c => IsPlaceCharacter c →
    c.toNat = 9 ∨ 32 ≤ c.toNat ∧ c.toNat < 127) ?_ (h c hc).toNat_lt (h c hc)
  decide

namespace Url
variable {u : Url}

/-- The place of a URL of the web can be set as a header field. -/
theorem IsTarget.isLegal_place (h : u.IsTarget) : Headers.isLegal (utf8 u.place) = true :=
  Headers.isLegal_of_isVisible h.place.isVisible

theorem IsOfWeb.place_ne_nil (h : u.IsOfWeb) : u.place.toList ≠ [] := by
  obtain ⟨a, host, ha, hhost, hweb⟩ := h.host
  rw [place, ha]
  show a.place.toList ≠ []
  rw [Authority.toList_place hhost]
  exact List.append_ne_nil_of_left_ne_nil hweb.render_ne_nil _

/-- The place can be read as an authority if none of its characters is astray. -/
theorem IsOfWeb.checkAuthority_place_iff (h : u.IsOfWeb) :
    Uri.checkAuthority u.place.toList = .ok () ↔ u.IsSendable := by
  obtain ⟨a, host, ha, hhost, hweb⟩ := h.host
  have hplace : u.place = a.place := by rw [place, ha]
  rw [IsSendable, hplace, Authority.checkAuthority_place_iff hhost hweb, ← hplace]
  exact forall₂_congr fun c hc => (h.isTarget.place c hc).isAuthorityCharacter_iff

end Url

namespace Uri

/-- A path and perhaps a query, as a client asks a server for them. -/
def IsOrigin (u : Uri) : Prop := ∃ text : String, text.toList.head? = some '/' ∧ read text = .ok u

theorem IsOrigin.readTail {u : Uri} (h : u.IsOrigin) : ∃ cs,
    Uri.readTail ('/' :: cs) = .ok (u.tail, u.query) := by
  obtain ⟨text, hslash, hread⟩ := h
  obtain ⟨cs, hcs⟩ := List.head?_eq_some_iff.mp hslash
  unfold Uri.read at hread
  dsimp only at hread
  rw [hcs] at hread
  split_ifs at hread
  · obtain ⟨_, hread, -⟩ := chain_eq_ok_iff.mp hread
    cases hread
  · obtain ⟨⟨path, query⟩, htail, hread⟩ := chain_eq_ok_iff.mp hread
    cases hread
    exact ⟨cs, htail⟩

/-- What a client asks for is a path, and it has the characters of a path and of a query alone. -/
theorem IsOrigin.isPathText {u : Uri} (h : u.IsOrigin) : u.path.toList.head? = some '/' ∧
    Url.IsPathText u.path.toList ∧ ∀ q, u.query = some q → IsQueryText q.toList := by
  obtain ⟨cs, htail⟩ := h.readTail
  obtain ⟨hpath, hquery⟩ := isPathText_of_readTail htail
  have hhead : u.tail.toList.head? = some '/' := by
    rw [(readTail_eq_ok htail).1]
    rfl
  have hne : u.tail ≠ "" := by
    intro hempty
    rw [hempty] at hhead
    cases hhead
  rw [path_of_ne hne]
  exact ⟨hhead, hpath, hquery⟩

end Uri

namespace Forwarding

theorem isPathText_basePath {target : Url} (h : Url.IsPathText target.path.toList) :
    Url.IsPathText (basePath target).toList := by
  have hpre : (basePath target).toList <+: target.path.toList := by
    rw [basePath, String.toList_ofList]
    exact List.rdropWhile_prefix (· == '/') target.path.toList
  exact fun c hc => h c (hpre.subset hc)

theorem isPathText_stripPrefix {path : String} (h : Url.IsPathText path.toList) (pre : String) :
    Url.IsPathText (stripPrefix path pre).toList := by
  intro c hc
  rcases mem_stripPrefix hc with rfl | hc
  · rfl
  · exact h c hc

/-- If the text is not too long, a path and a query at a target can be read just if the target's
place can. -/
theorem exists_backendUri_iff {target : Url} (ht : target.IsOfWeb) {path : String}
    {query : Option String}
    (hjoined : basePath target ++ path = "" ∨ Url.IsPath (basePath target ++ path).toList)
    (hpath : Url.IsPathText path.toList)
    (hquery : ∀ q, query = some q → Uri.IsQueryText q.toList)
    (hlength : (backendText target path query).utf8ByteSize ≤ Uri.maxLength) :
    (∃ uri, backendUri target path query = .ok uri) ↔ target.IsSendable := by
  have htext : Url.IsPathText (basePath target ++ path).toList := by
    rw [String.toList_append]
    exact List.forall_mem_append.mpr ⟨isPathText_basePath ht.path, hpath⟩
  have hsent : ∀ q, sentQuery query = some q → Uri.IsQueryText q.toList :=
    fun q hq => hquery q (Option.mem_filter_iff.mp hq).1
  have htail := Uri.readTail_of_isPathText htext hsent
  rw [backendUri, Uri.read_eq_readFull ht.scheme (toList_backendText target path query) hlength,
    toList_backendText, Uri.readFull_web ht.scheme ht.isTarget.endsAuthority_place
      (endsAuthority_of_head? hjoined _) ht.place_ne_nil htail, ← ht.checkAuthority_place_iff]
  cases Uri.checkAuthority target.place.toList with
  | error e =>
    refine iff_of_false ?_ ?_
    · rintro ⟨_, h⟩
      cases h
    · intro h
      cases h
  | ok _ => exact iff_of_true ⟨_, rfl⟩ rfl

end Forwarding

namespace Dispatch
open Forwarding
variable {σ : Type} {ps : Patterns} {table : Snapshot} {services : Services σ} {conn : Connection}
  {r : Request} {s t : σ} {route : Route} {c : Option Claims}

theorem isPathText_forwardPath (route : Route) {path : String} (h : Url.IsPathText path.toList) :
    Url.IsPathText (forwardPath route path).toList := by
  rcases forwardPath_eq_or route path with hkept | ⟨pre, hpre⟩
  · rw [hkept]
    exact h
  · rw [hpre]
    exact isPathText_stripPrefix h pre

theorem forward_of_backendUri_eq_error {fault : Uri.Fault}
    (h : backendUri route.target (forwardPath route r.uri.path) r.uri.query = .error fault) :
    forward route conn c r = .error (.internal ("invalid upstream uri: " ++ fault.message)) := by
  rw [forward, h]

/-- What the gateway fails in itself is to build what it would send. -/
theorem exists_internal_iff (hr : Reaches ps table r route) :
    (∃ reason, (run ps table services conn r s).result = .error (.internal reason)) ↔
      (∃ c t, Admits services route r s c t) ∧ ¬Buildable route r := by
  by_cases ha : ∃ c t, Admits services route r s c t
  · obtain ⟨c, t, hct⟩ := ha
    have hforward : (∃ f, forward route conn c r = .ok f) ↔ Buildable route r := exists_forward_iff
    rw [run_of_admits hr hct, ← hforward, relay]
    cases hf : forward route conn c r with
    | error e =>
      obtain ⟨reason, rfl⟩ := internal_of_forward_eq_error hf
      refine iff_of_true ⟨reason, rfl⟩ ⟨⟨c, t, hct⟩, ?_⟩
      rintro ⟨_, h⟩
      cases h
    | ok f =>
      refine iff_of_false ?_ fun h => h.2 ⟨f, rfl⟩
      rintro ⟨reason, h⟩
      dsimp only at h
      cases hanswer : (services.send f t).1 with
      | error e =>
        rw [hanswer] at h
        cases h
      | ok answer =>
        rw [hanswer] at h
        cases h
  · obtain ⟨-, denial, t, hrun⟩ := run_of_not_admits conn hr ha
    rw [hrun]
    refine iff_of_false ?_ fun h => ha h.1
    rintro ⟨_, h⟩
    cases h

/-- For the target of a validated route there is always a host field. There is a URI, if it is not
too long, unless one of the stray characters stands in the target's place, and then it is the
gateway itself that fails every request that is let through to the route. -/
theorem internal_iff_not_sendable (services : Services σ) (conn : Connection) (s : σ)
    (horigin : r.uri.IsOrigin) (hr : Reaches ps table r route)
    (hv : route.IsValidated)
    (hlength : (backendText route.target (forwardPath route r.uri.path) r.uri.query).utf8ByteSize ≤
      Uri.maxLength) :
    Headers.isLegal (utf8 route.target.place) = true ∧
    ((∃ uri, backendUri route.target (forwardPath route r.uri.path) r.uri.query = .ok uri) ↔
      route.target.IsSendable) ∧
    ((∃ reason, (run ps table services conn r s).result = .error (.internal reason)) ↔
      (∃ c t, Admits services route r s c t) ∧ ¬route.target.IsSendable) := by
  have ht := hv.isOfWeb
  have hlegal := ht.isTarget.isLegal_place
  obtain ⟨hhead, hpath, hquery⟩ := horigin.isPathText
  have hform : r.uri.Form := by
    obtain ⟨text, -, hread⟩ := horigin
    exact Uri.form_of_read hread
  have hstar : ¬(basePath route.target = "" ∧ forwardPath route r.uri.path = "*") := by
    rintro ⟨-, hstar⟩
    rw [(asterisk_of_forwardPath hform hstar).1] at hhead
    cases hhead
  have huri := exists_backendUri_iff ht (joined_eq_or_isPath ht.isTarget hform hstar)
    (isPathText_forwardPath route hpath) hquery hlength
  have hbuildable : Buildable route r ↔ route.target.IsSendable := by
    rw [← huri]
    exact ⟨fun h => h.uri, fun h => ⟨h, hlegal⟩⟩
  refine ⟨hlegal, huri, ?_⟩
  rw [exists_internal_iff hr, hbuildable]

/-- A path on the gateway's own machine can be asked for. -/
theorem sendable_homeRoute : (⟨none, none, "/a", some "b"⟩ : Uri).IsOrigin ∧
    Reaches (fun _ => none) (.build [homeRoute]) (homeRequest ⟨none, none, "/a", some "b"⟩)
      homeRoute ∧
    homeRoute.IsValidated ∧
    (backendText homeRoute.target (forwardPath homeRoute "/a") (some "b")).utf8ByteSize ≤
      Uri.maxLength ∧
    homeRoute.target.IsSendable ∧
    ∃ uri, backendUri homeRoute.target (forwardPath homeRoute "/a") (some "b") = .ok uri := by
  have horigin : (⟨none, none, "/a", some "b"⟩ : Uri).IsOrigin := ⟨"/a?b", rfl, rfl⟩
  have hr := reaches_homeRequest ⟨none, none, "/a", some "b"⟩ rfl
  have hlength : (backendText homeRoute.target (forwardPath homeRoute "/a")
      (some "b")).utf8ByteSize ≤ Uri.maxLength := by
    rw [backendText, place_homeRoute]
    decide
  have hsendable : homeRoute.target.IsSendable := by
    rw [Url.IsSendable, place_homeRoute]
    exact forall_mem_of_all (by decide)
  obtain ⟨-, huri, -⟩ := internal_iff_not_sendable plainServices ⟨none, false⟩ () horigin hr
    isValidated_homeRoute hlength
  exact ⟨horigin, hr, isValidated_homeRoute, hlength, hsendable, huri.mpr hsendable⟩

/-- The same route to a host whose name is a brace. -/
def braceRoute : Route :=
  { homeRoute with
    target := ⟨"http", some ⟨"", none, some (.domain "\x7b"), none⟩, "/", none, none⟩ }

theorem target?_braceRoute :
    Definition.target? "home" "http://\x7b" = .ok braceRoute.target := by
  have hread : Url.read "http://\x7b" = .ok braceRoute.target :=
    Url.read_of_readHost rfl rfl (List.cons_ne_nil _ _) rfl rfl rfl Url.readHost_brace
  rw [Definition.target?, hread]
  rfl

theorem isValidated_braceRoute : braceRoute.IsValidated := by
  refine ⟨⟨"home", none, ⟨some "gw", none, none, []⟩, none, none, "http://\x7b", false, none, 0⟩, ?_⟩
  have hname : trim "home" = "home" := rfl
  have htarget : trim "http://\x7b" = "http://\x7b" := rfl
  unfold Definition.validate
  dsimp only
  rw [hname, htarget, target?_braceRoute]
  rfl

/-- A definition with such a target makes a route, and the gateway fails each request to it. -/
theorem internal_of_braceRoute : braceRoute.IsValidated ∧
    (⟨none, none, "/a", none⟩ : Uri).IsOrigin ∧
    Reaches (fun _ => none) (.build [braceRoute]) (homeRequest ⟨none, none, "/a", none⟩)
      braceRoute ∧
    (backendText braceRoute.target (forwardPath braceRoute "/a") none).utf8ByteSize ≤
      Uri.maxLength ∧
    (run (fun _ => none) (.build [braceRoute]) plainServices ⟨none, false⟩
      (homeRequest ⟨none, none, "/a", none⟩) ()).result =
        .error (.internal "invalid upstream uri: invalid uri character") := by
  have hr := reaches_of_host isValidated_braceRoute rfl
    (host_homeRequest ⟨none, none, "/a", none⟩) rfl
  have huri : backendUri braceRoute.target (forwardPath braceRoute "/a") none =
      .error .character := rfl
  have hforward : forward braceRoute ⟨none, false⟩ none (homeRequest ⟨none, none, "/a", none⟩) =
      .error (.internal ("invalid upstream uri: " ++ Uri.Fault.character.message)) :=
    forward_of_backendUri_eq_error huri
  refine ⟨isValidated_braceRoute, ⟨"/a", rfl, rfl⟩, hr, by decide, ?_⟩
  rw [run_of_admits hr (.anyone rfl), relay, hforward]
  rfl

end Dispatch
end Gateway
