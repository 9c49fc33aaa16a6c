import Gateway.Proofs.Records
import Gateway.Proofs.Validated
import Gateway.Proofs.WrittenJson
import Gateway.Repository.Files

/-! # Stored definitions: what is read of a definition that was stored -/
namespace Gateway
open Text Record

theorem given_optionalField (name : String) (o : Option String) (s : Slot) :
    given (optionalField name o) s = if s.admits name then (o.map Json.text).toList else [] := by
  have htoList : optionalField name o = (o.map fun t => (name, Json.text t)).toList := by
    cases o <;> rfl
  rw [htoList, given_toList]

theorem plain_of_mem_optionalField {name : String} {o : Option String} {f : String × Json}
    (h : f ∈ optionalField name o) : f.2.Plain := by
  cases o with
  | none => cases h
  | some t =>
    obtain rfl := List.mem_singleton.mp h
    exact .text t

namespace AuthException

theorem decode?_encode (e : AuthException) : decode? e.encode = some e := by
  obtain ⟨r, hr, hvalues⟩ : ∃ r, collect? (slotsOf ["path", "methods"]) e.encode = some r ∧
      (slotsOf ["path", "methods"]).map (fun s => r.value? s.name) =
        [some (.text e.path), some (.ofTexts e.methods)] :=
    exists_collect? (by decide) rfl
  simp only [slotsOf, List.map_cons, List.map_nil, List.cons.injEq, and_true] at hvalues
  obtain ⟨hpath, hmethods⟩ := hvalues
  simp only [decode?, hr, required_of_value? hpath, withDefault_of_value? _ hmethods,
    listOf_texts, Option.bind_eq_bind, Option.bind_some, Option.pure_def]
  rfl

theorem plain_encode (e : AuthException) : e.encode.Plain :=
  .record (List.forall_mem_cons.mpr ⟨.text _, List.forall_mem_singleton.mpr (.texts _)⟩)

end AuthException

namespace Authentication

theorem decode?_encode (a : Authentication) : decode? a.encode = some a := by
  obtain ⟨r, hr, hvalues⟩ : ∃ r, collect? (slotsOf ["required", "except"]) a.encode = some r ∧
      (slotsOf ["required", "except"]).map (fun s => r.value? s.name) =
        [some (.bool a.required), some (.list (a.except.map AuthException.encode))] :=
    exists_collect? (by decide) rfl
  simp only [slotsOf, List.map_cons, List.map_nil, List.cons.injEq, and_true] at hvalues
  obtain ⟨hrequired, hexcept⟩ := hvalues
  simp only [decode?, hr, withDefault_of_value? _ hrequired, withDefault_of_value? _ hexcept,
    listOf_map fun e _ => AuthException.decode?_encode e, Option.bind_eq_bind, Option.bind_some,
    Option.pure_def]
  rfl

theorem plain_encode (a : Authentication) : a.encode.Plain := by
  refine .record (List.forall_mem_cons.mpr ⟨.bool _, List.forall_mem_singleton.mpr (.list ?_)⟩)
  intro x hx
  obtain ⟨e, -, rfl⟩ := List.mem_map.mp hx
  exact e.plain_encode

end Authentication

namespace MatchBlock

theorem decode?_encode (m : MatchBlock) : decode? m.encode = some m := by
  obtain ⟨r, hr, hvalues⟩ : ∃ r,
      collect? (slotsOf ["host", "prefix", "regex", "methods"]) m.encode = some r ∧
      (slotsOf ["host", "prefix", "regex", "methods"]).map (fun s => r.value? s.name) =
        [m.host.map .text, m.pathPrefix.map .text, m.regex.map .text,
          if m.methods.isEmpty then none else some (.ofTexts m.methods)] := by
    refine exists_collect? (by decide) ?_
    cases m.methods <;>
      simp [slotsOf, given_append, given_optionalField, given_cons, given_nil, Slot.admits]
  simp only [slotsOf, List.map_cons, List.map_nil, List.cons.injEq, and_true] at hvalues
  obtain ⟨hhost, hprefix, hregex, hmethods⟩ := hvalues
  have hlist : r.withDefault "methods" [] (listOf Source.text?) = some m.methods := by
    cases hm : m.methods with
    | nil =>
      rw [hm] at hmethods
      rw [Opened.withDefault, hmethods]
      rfl
    | cons t ts =>
      rw [hm] at hmethods
      rw [withDefault_of_value? _ hmethods, listOf_texts]
  simp only [decode?, hr, optional_of_text hhost, optional_of_text hprefix,
    optional_of_text hregex, hlist, Option.bind_eq_bind, Option.bind_some, Option.pure_def]

theorem plain_encode (m : MatchBlock) : m.encode.Plain := by
  refine .record fun f hf => ?_
  simp only [List.mem_append] at hf
  rcases hf with ((hf | hf) | hf) | hf
  · exact plain_of_mem_optionalField hf
  · exact plain_of_mem_optionalField hf
  · exact plain_of_mem_optionalField hf
  · split at hf
    · cases hf
    · obtain rfl := List.mem_singleton.mp hf
      exact .texts _

end MatchBlock

namespace Definition

theorem decode?_encode (d : Definition) : decode? d.encode = some (d.stampedAt 0) := by
  obtain ⟨r, hr, hvalues⟩ : ∃ r, collect? slots d.encode = some r ∧
      slots.map (fun s => r.value? s.name) =
        [some (.text d.name), d.description.map .text, some d.block.encode,
          d.pathPrefix.map .text, some (.ofOption Authentication.encode d.authentication),
          some (.text d.target), some (.bool d.stripPrefix), d.timeout.map .text, none] := by
    refine exists_collect? (by decide) ?_
    simp [slots, given_append, given_optionalField, given_cons, Slot.admits]
  simp only [slots, List.map_cons, List.map_nil, List.cons.injEq, and_true] at hvalues
  obtain ⟨hname, hdescription, hblock, hprefix, hauthentication, htarget, hstrip, htimeout,
    hupdated⟩ := hvalues
  -- What needs no authentication is written as null, which is no authentication when it is read.
  have hpolicy : r.optional "authentication" Authentication.decode? = some d.authentication := by
    rw [Opened.optional, hauthentication]
    cases d.authentication with
    | none => rfl
    | some a =>
      show (Authentication.decode? a.encode).map some = _
      rw [a.decode?_encode]
      rfl
  have hversion : r.withDefault "updatedAt" 0 signed64? = some 0 := by
    rw [Opened.withDefault, hupdated]
  simp only [decode?, hr, required_of_value? hname, optional_of_text hdescription,
    withDefault_of_value? _ hblock, d.block.decode?_encode, optional_of_text hprefix, hpolicy,
    withDefault_of_value? _ htarget, withDefault_of_value? _ hstrip, optional_of_text htimeout,
    hversion, Option.bind_eq_bind, Option.bind_some, Option.pure_def]
  rfl

theorem plain_encode (d : Definition) : d.encode.Plain := by
  have hpolicy : (Json.ofOption Authentication.encode d.authentication).Plain := by
    cases d.authentication with
    | none => exact .null
    | some a => exact a.plain_encode
  refine .record fun f hf => ?_
  simp only [List.mem_append, List.mem_cons, List.not_mem_nil, or_false] at hf
  rcases hf with ((((rfl | hf) | rfl) | hf) | rfl | rfl | rfl) | hf
  · exact .text _
  · exact plain_of_mem_optionalField hf
  · exact d.block.plain_encode
  · exact plain_of_mem_optionalField hf
  · exact hpolicy
  · exact .text _
  · exact .bool _
  · exact plain_of_mem_optionalField hf

/-- The file that a definition is stored in is read as the definition, but for its version. -/
theorem decode?_file (d : Definition) :
    RouteFiles.decode? .json d.encode.render = some (d.stampedAt 0) := by
  have hblank : allBlank d.encode.render = false := by
    rw [allBlank, Json.render, String.toList_ofList, encode, Json.renderChars.eq_def]
    rfl
  rw [RouteFiles.decode?, hblank, if_neg Bool.false_ne_true]
  show (Json.readLoosely (utf8 d.encode.render)).bind decode? = _
  rw [d.plain_encode.readLoosely_render, Option.bind_some, d.decode?_encode]

/-- A definition outlives being stored. What is read of the stored form, as a value or as a file, is
the definition without its version. Fields count under any of their names, and a field without a
slot counts for nothing. And whatever value a definition came from, what is read of its stored form
differs at most in the version, is refused for the same reason, or makes the same route but for the
version. -/
theorem decode?_stored :
    (∀ d : Definition, decode? d.encode = some (d.stampedAt 0) ∧
      RouteFiles.decode? .json d.encode.render = some (d.stampedAt 0)) ∧
    (∀ fields : List (String × Json),
      decode? (Json.record (ownNames slots fields)) = decode? (Json.record fields)) ∧
    ∀ (x : Json) (d : Definition), decode? x = some d →
      ∃ stored, decode? d.encode = some stored ∧
        RouteFiles.decode? .json d.encode.render = some stored ∧
        stored.stampedAt d.updatedAt = d ∧
        stored.validate.map (Route.stampedAt d.updatedAt) = d.validate := by
  refine ⟨fun d => ⟨d.decode?_encode, d.decode?_file⟩, fun fields => ?_, fun x d _ => ?_⟩
  · rw [decode?, decode?, collect?_ownNames (by decide)]
  · have hback : (d.stampedAt 0).stampedAt d.updatedAt = d := rfl
    refine ⟨d.stampedAt 0, d.decode?_encode, d.decode?_file, hback, ?_⟩
    rw [← validate_stampedAt, hback]

/-- A definition under older names, with fields that nothing reads. -/
def olderFields : List (String × Json) :=
  [("id", .text "orders"), ("targetURL", .text "http://orders:8080"), ("colour", .text "red"),
    ("match", .record [("host", .text "shop.example"), ("weight", .int 3)]),
    ("pathPrefix", .text "/orders"), ("updatedAt", .int 7),
    ("authentication", .record [("except", .list [.record [("path", .text "/orders/ping")]])])]

theorem decode?_stored_older :
    ∃ d, decode? (Json.record olderFields) = some d ∧ d.name = "orders" ∧
      d.target = "http://orders:8080" ∧ d.updatedAt = 7 ∧
      ∃ stored, decode? d.encode = some stored ∧
        RouteFiles.decode? .json d.encode.render = some stored ∧
        stored.stampedAt d.updatedAt = d ∧
        stored.validate.map (Route.stampedAt d.updatedAt) = d.validate :=
  ⟨_, rfl, rfl, rfl, rfl, decode?_stored.2.2 (Json.record olderFields) _ rfl⟩

end Definition
end Gateway
