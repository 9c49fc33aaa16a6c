import Gateway.Proofs.OriginalHost
import Gateway.Proofs.UriReadings

/-! # Where a request goes: to its route's target, whatever it asks for -/
namespace Gateway
open Text

namespace Url

theorem IsPath.append {cs ds : List Char} (hcs : IsPath cs) (hds : StaysInPath ds) :
    IsPath (cs ++ ds) := by
  refine ⟨?_, List.forall_mem_append.mpr ⟨hcs.staysInPath, hds⟩⟩
  rw [List.head?_append, hcs.head, Option.some_or]

end Url

theorem Url.IsTarget.endsAuthority_place {target : Url} (h : target.IsTarget) :
    ∀ c ∈ target.place.toList, Uri.endsAuthority c = false :=
  fun c hc => (h.place c hc).isHostPart.1

theorem Uri.Form.staysInPath {u : Uri} (h : u.Form) : Url.StaysInPath u.path.toList := by
  cases h with
  | asterisk hpath =>
    rw [hpath]
    exact List.forall_mem_singleton.mpr rfl
  | authority hpath =>
    rw [hpath]
    exact .nil
  | path hpath => exact hpath.staysInPath

theorem Uri.Form.not_mem_query {u : Uri} (h : u.Form) (q : String) (hq : u.query = some q) :
    '#' ∉ q.toList := by
  cases h with
  | asterisk hpath hquery => exact nomatch hquery.symm.trans hq
  | authority hpath hquery => exact nomatch hquery.symm.trans hq
  | path hpath hquery => exact hquery q hq

namespace Forwarding

/-- A base path is empty or a path, for only slashes at its end are left out. -/
theorem basePath_eq_or_isPath {target : Url} (h : Url.IsPath target.path.toList) :
    basePath target = "" ∨ Url.IsPath (basePath target).toList := by
  have hpre : (basePath target).toList <+: target.path.toList := by
    rw [basePath, String.toList_ofList]
    exact List.rdropWhile_prefix (· == '/') target.path.toList
  rcases hbase : (basePath target).toList with _ | ⟨c, cs⟩
  · exact .inl (String.toList_eq_nil_iff.mp hbase)
  · rw [hbase] at hpre
    refine .inr ⟨?_, fun d hd => h.staysInPath d (hpre.subset hd)⟩
    obtain ⟨rest, hrest⟩ := hpre
    have hhead := h.head
    rw [← hrest] at hhead
    exact hhead

/-- Stripping leaves characters out, and puts one slash in front. -/
theorem mem_stripPrefix {path pre : String} {c : Char} (hc : c ∈ (stripPrefix path pre).toList) :
    c = '/' ∨ c ∈ path.toList := by
  rw [stripPrefix, String.toList_ofList] at hc
  rcases List.mem_cons.mp hc with hc | hc
  · exact .inl hc
  · have hc := (List.dropWhile_suffix _).subset hc
    split_ifs at hc
    · exact .inr (List.mem_of_mem_drop hc)
    · exact .inr hc

theorem isPath_stripPrefix {path : String} (h : Url.StaysInPath path.toList) (pre : String) :
    Url.IsPath (stripPrefix path pre).toList := by
  refine ⟨?_, fun c hc => ?_⟩
  · rw [stripPrefix, String.toList_ofList, List.head?_cons]
  · rcases mem_stripPrefix hc with rfl | hc
    · rfl
    · exact h c hc

/-- The query that goes to a backend: an empty one is left out. -/
def sentQuery (query : Option String) : Option String := query.filter (!·.isEmpty)

theorem sentQuery_some (q : String) :
    sentQuery (some q) = if q.isEmpty then none else some q := by
  rw [sentQuery, Option.filter_some]
  cases q.isEmpty <;> rfl

theorem toList_backendText (target : Url) (path : String) (query : Option String) :
    (backendText target path query).toList = target.scheme.toList ++ ("://".toList ++
      (target.place.toList ++
        ((basePath target ++ path).toList ++ Uri.queryText (sentQuery query)))) := by
  unfold backendText
  rw [String.toList_append]
  simp only [String.toList_append, List.append_assoc]
  cases query with
  | none => rfl
  | some q =>
    rw [sentQuery_some]
    dsimp only
    split_ifs
    · rfl
    · rw [String.toList_append]
      rfl

/-- After the place comes what ends it: the slash of a path, or without a path the question mark. -/
theorem endsAuthority_of_head? {path : String} (hpath : path = "" ∨ Url.IsPath path.toList)
    (query : Option String) :
    ∀ c, (path.toList ++ Uri.queryText query).head? = some c → Uri.endsAuthority c = true := by
  intro c hc
  rcases hpath with rfl | hpath
  · cases query with
    | none => cases hc
    | some q =>
      cases hc
      rfl
  · rw [List.head?_append, hpath.head] at hc
    cases hc
    rfl

/-- A URI at a target: nothing of its place is left out or added, and a path and a query follow. -/
structure LeadsTo (target : Url) (path : String) (query : Option String) (u : Uri) : Prop where
  scheme : u.scheme = some target.scheme
  authority : u.authority = some target.place
  path : u.path = if (basePath target ++ path).isEmpty then "/" else basePath target ++ path
  query : u.query = sentQuery query

section
variable {target : Url} {path : String} {query : Option String} {u : Uri}

/-- The place ends where a path or a query starts, or with the text. -/
theorem leadsTo_of_backendUri (ht : target.IsTarget)
    (hpath : basePath target ++ path = "" ∨ Url.IsPath (basePath target ++ path).toList)
    (hquery : ∀ q, query = some q → '#' ∉ q.toList) (h : backendUri target path query = .ok u) :
    LeadsTo target path query u := by
  have hstays : Url.StaysInPath (basePath target ++ path).toList := by
    rcases hpath with hpath | hpath
    · rw [hpath]
      exact .nil
    · exact hpath.staysInPath
  obtain ⟨hscheme, hauthority, htail⟩ := Uri.read_web ht.scheme (toList_backendText target path query)
    ht.endsAuthority_place (endsAuthority_of_head? hpath _) h
  obtain ⟨htail, hfound⟩ := Uri.readTail_append hstays
    (fun q hq => hquery q (Option.mem_filter_iff.mp hq).1) htail
  rw [String.ofList_toList] at hauthority htail
  refine ⟨hscheme, hauthority, ?_, hfound⟩
  rw [Uri.path_of_isSome (by rw [hscheme, Option.isSome_some]), htail]

/-- Nothing stands between the place and an asterisk. -/
theorem asterisk_of_backendUri (ht : target.IsTarget) (hbase : basePath target = "")
    (h : backendUri target "*" none = .ok u) :
    u.scheme = some target.scheme ∧ u.authority = some (target.place ++ "*") ∧ u.path = "/" ∧
      u.query = none := by
  have htext : (backendText target "*" none).toList = target.scheme.toList ++
      ("://".toList ++ ((target.place ++ "*").toList ++ [])) := by
    rw [toList_backendText, hbase]
    simp [Uri.queryText, sentQuery]
  have hplace : ∀ c ∈ (target.place ++ "*").toList, Uri.endsAuthority c = false := by
    rw [String.toList_append]
    exact List.forall_mem_append.mpr ⟨ht.endsAuthority_place, List.forall_mem_singleton.mpr rfl⟩
  have hend : ∀ c, ([] : List Char).head? = some c → Uri.endsAuthority c = true := by
    intro c hc
    cases hc
  obtain ⟨hscheme, hauthority, htail⟩ := Uri.read_web ht.scheme htext hplace hend h
  rw [String.ofList_toList] at hauthority
  have hnone : ∀ q, (none : Option String) = some q → '#' ∉ q.toList := by
    intro q hq
    cases hq
  obtain ⟨htail, hquery⟩ := Uri.readTail_append Url.StaysInPath.nil hnone htail
  refine ⟨hscheme, hauthority, ?_, hquery⟩
  rw [Uri.path_of_isSome (by rw [hscheme, Option.isSome_some]), htail]
  rfl

end

end Forwarding

namespace Dispatch
open Forwarding

theorem forwardPath_eq_or (route : Route) (path : String) :
    forwardPath route path = path ∨ ∃ pre, forwardPath route path = stripPrefix path pre := by
  rw [forwardPath]
  split
  · split_ifs
    · exact .inr ⟨_, rfl⟩
    · exact .inl rfl
  · exact .inl rfl

/-- Only a request for the server as a whole has an asterisk sent. -/
theorem asterisk_of_forwardPath {route : Route} {u : Uri} (hu : u.Form)
    (h : forwardPath route u.path = "*") : u.path = "*" ∧ u.query = none := by
  have hstar : ¬Url.IsPath "*".toList := fun h => nomatch h.head
  rcases forwardPath_eq_or route u.path with hkept | ⟨pre, hpre⟩
  · rw [hkept] at h
    cases hu with
    | asterisk _ hquery => exact ⟨h, hquery⟩
    | authority hpath => exact nomatch hpath.symm.trans h
    | path hpath => exact absurd (h ▸ hpath) hstar
  · rw [← h, hpre] at hstar
    exact absurd (isPath_stripPrefix hu.staysInPath pre) hstar

theorem staysInPath_forwardPath (route : Route) {u : Uri} (hu : u.Form) :
    Url.StaysInPath (forwardPath route u.path).toList := by
  rcases forwardPath_eq_or route u.path with h | ⟨pre, h⟩
  · rw [h]
    exact hu.staysInPath
  · rw [h]
    exact (isPath_stripPrefix hu.staysInPath pre).staysInPath

/-- What follows the place is a path, unless it is nothing or the asterisk. -/
theorem joined_eq_or_isPath {route : Route} {u : Uri} (ht : route.target.IsTarget) (hu : u.Form)
    (hstar : ¬(basePath route.target = "" ∧ forwardPath route u.path = "*")) :
    basePath route.target ++ forwardPath route u.path = "" ∨
      Url.IsPath (basePath route.target ++ forwardPath route u.path).toList := by
  rcases basePath_eq_or_isPath ht.path with hbase | hbase
  · rw [hbase, String.empty_append]
    rcases forwardPath_eq_or route u.path with h | ⟨pre, h⟩
    · rw [h] at hstar ⊢
      cases hu with
      | asterisk hpath => exact absurd ⟨hbase, hpath⟩ hstar
      | authority hpath => exact .inl hpath
      | path hpath => exact .inr hpath
    · rw [h]
      exact .inr (isPath_stripPrefix hu.staysInPath pre)
  · rw [String.toList_append]
    exact .inr (hbase.append (staysInPath_forwardPath route hu))

variable {σ : Type} {ps : Patterns} {table : Snapshot} {services : Services σ} {conn : Connection}
  {r : Request} {s : σ} {f : Forwarded} {route : Route}

/-- A request goes to the place of its route's target, which the host field names too, and to the
path there that it asked for. It is otherwise only where it asks for the server as a whole: a target
without base path gets the asterisk at the end of its place. -/
theorem upstream_of_sent (hread : ∃ text, Uri.read text = .ok r.uri)
    (hr : Reaches ps table r route) (hv : route.IsValidated)
    (hf : f ∈ (run ps table services conn r s).sent) :
    f.request.headers.values "host" = [utf8 route.target.place] ∧
    '@' ∉ route.target.place.toList ∧
    (¬(basePath route.target = "" ∧ forwardPath route r.uri.path = "*") →
      LeadsTo route.target (forwardPath route r.uri.path) r.uri.query f.request.uri) ∧
    (basePath route.target = "" ∧ forwardPath route r.uri.path = "*" →
      f.request.uri.scheme = some route.target.scheme ∧
      f.request.uri.authority = some (route.target.place ++ "*") ∧
      f.request.uri.path = "/" ∧ f.request.uri.query = none) := by
  obtain ⟨text, hread⟩ := hread
  have hform := Uri.form_of_read hread
  have ht := hv.isTarget
  obtain ⟨other, c, hother, hforward⟩ := exists_forward_of_sent hf
  cases hr.unique hother
  obtain ⟨-, uri, huri, rfl⟩ := forward_eq_ok_iff.mp hforward
  refine ⟨values_forwardHeaders_host _ _ _ _, fun hat => (ht.place '@' hat).isHostPart.2 rfl, ?_, ?_⟩
  · intro hstar
    exact leadsTo_of_backendUri ht (joined_eq_or_isPath ht hform hstar) hform.not_mem_query huri
  · rintro ⟨hbase, hstar⟩
    rw [hstar, (asterisk_of_forwardPath hform hstar).2] at huri
    exact asterisk_of_backendUri ht hbase huri

/-- A request to the only route there is, for this target. -/
def homeRequest (uri : Uri) : Request := ⟨"OPTIONS", uri, ⟨[("host", utf8 "gw")]⟩, ""⟩

theorem host_homeRequest (uri : Uri) : (homeRequest uri).lookup.host = some "gw" := by
  have hreadable : Headers.readable? "host" ⟨[("host", utf8 "gw")]⟩ = some "gw" := by
    decide +kernel
  rw [Request.lookup, Request.host?, homeRequest, hreadable, Option.some_or]

theorem reaches_homeRequest (uri : Uri) (hpath : isReserved uri.path = false) :
    Reaches (fun _ => none) (.build [homeRoute]) (homeRequest uri) homeRoute :=
  reaches_homeRoute (host_homeRequest uri) hpath

theorem place_homeRoute : homeRoute.target.place = "[::1]:9000" := by decide +kernel

theorem isLegal_place_homeRoute : Headers.isLegal (utf8 homeRoute.target.place) = true := by
  decide +kernel

/-- A path and a query go to the port of the route's target. -/
theorem upstream_of_path : ∃ f, f ∈ sentHome (homeRequest ⟨none, none, "/a", some "b"⟩) ∧
    f.request.headers.values "host" = [utf8 "[::1]:9000"] ∧
    LeadsTo homeRoute.target "/a" (some "b") f.request.uri := by
  have hr := reaches_homeRequest ⟨none, none, "/a", some "b"⟩ (by decide +kernel)
  have huri : backendUri homeRoute.target "/a" (some "b") =
      .ok ⟨some "http", some "[::1]:9000", "/a", some "b"⟩ := by decide +kernel
  obtain ⟨f, hf⟩ := exists_sentHome hr ⟨⟨_, huri⟩, isLegal_place_homeRoute⟩
  obtain ⟨hhost, -, hleads, -⟩ :=
    upstream_of_sent ⟨"/a?b", by decide +kernel⟩ hr isValidated_homeRoute hf
  rw [place_homeRoute] at hhost
  exact ⟨f, hf, hhost, hleads (by decide)⟩

/-- The asterisk makes another authority than the one of the target, which the host field names. -/
theorem upstream_of_asterisk :
    homeRoute.IsValidated ∧ homeRoute.target.place = "[::1]:9000" ∧
    Uri.read "*" = .ok ⟨none, none, "*", none⟩ ∧
    Reaches (fun _ => none) (.build [homeRoute]) (homeRequest ⟨none, none, "*", none⟩) homeRoute ∧
    ∃ f ∈ sentHome (homeRequest ⟨none, none, "*", none⟩),
      f.request.headers.values "host" = [utf8 "[::1]:9000"] ∧
      f.request.uri.authority = some "[::1]:9000*" := by
  have hr := reaches_homeRequest ⟨none, none, "*", none⟩ (by decide +kernel)
  have huri : backendUri homeRoute.target "*" none =
      .ok ⟨some "http", some "[::1]:9000*", "", none⟩ := by decide +kernel
  obtain ⟨f, hf⟩ := exists_sentHome hr ⟨⟨_, huri⟩, isLegal_place_homeRoute⟩
  refine ⟨isValidated_homeRoute, place_homeRoute, by decide +kernel, hr, f, hf, ?_⟩
  obtain ⟨other, c, hother, hforward⟩ := exists_forward_of_sent hf
  cases hr.unique hother
  obtain ⟨-, uri, hsent, rfl⟩ := forward_eq_ok_iff.mp hforward
  cases huri.symm.trans hsent
  refine ⟨?_, rfl⟩
  rw [← place_homeRoute]
  exact values_forwardHeaders_host _ _ _ _

end Dispatch
end Gateway
