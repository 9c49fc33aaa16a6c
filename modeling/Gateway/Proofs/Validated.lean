import Gateway.Route.Validation
import Mathlib.Tactic.SplitIfs

/-! # Validated routes: what a definition has passed when it makes a route -/
namespace Gateway
open Text

/-- A chain of steps succeeds when each of them does. -/
theorem chain_eq_ok_iff {ε α β : Type} {step : Except ε α} {next : α → Except ε β} {b : β} :
    step >>= next = .ok b ↔ ∃ a, step = .ok a ∧ next a = .ok b := by
  cases step with
  | error e => exact ⟨(fun h => nomatch h), (fun ⟨_, h, _⟩ => nomatch h)⟩
  | ok a => exact ⟨fun h => ⟨a, rfl, h⟩, fun ⟨_, h, hn⟩ => by cases h; exact hn⟩

/-- A route made from a definition: the checks that the definition passed, and where each part of
the route comes from. -/
structure Definition.Makes (d : Definition) (r : Route) : Prop where
  name : r.name = trim d.name
  name_isEmpty : r.name.isEmpty = false
  target : Definition.target? r.name (trim d.target) = .ok r.target
  pathPrefix : r.rule.pathPrefix = d.chosenPrefix
  checkPrefix : Definition.checkPrefix r.name r.rule.pathPrefix = .ok ()
  methods : Definition.verbs? r.name d.block.methods = .ok r.rule.methods
  host : r.rule.host = nonEmpty? d.block.host
  pattern : r.rule.pattern = nonEmpty? d.block.regex
  rule_isEmpty : r.rule.isEmpty = false
  authentication : r.authentication = d.authentication.getD .none
  checkExceptions : Definition.checkExceptions r.name r.authentication = .ok ()
  timeout : Definition.timeout? r.name d.timeout = .ok r.timeout
  description : r.description = nonEmpty? d.description
  stripPrefix : r.stripPrefix = d.stripPrefix
  updatedAt : r.updatedAt = d.updatedAt

theorem Definition.makes_of_validate {d : Definition} {r : Route} (h : d.validate = .ok r) :
    d.Makes r := by
  unfold Definition.validate at h
  dsimp only at h
  split at h
  · cases h
  next hname =>
  split at h
  · cases h
  simp only [chain_eq_ok_iff] at h
  obtain ⟨target, ht, ⟨⟩, hp, methods, hm, h⟩ := h
  split at h
  · cases h
  next hrule =>
  simp only [chain_eq_ok_iff] at h
  obtain ⟨⟨⟩, he, timeout, hto, h⟩ := h
  cases h
  exact {
    name := rfl, name_isEmpty := eq_false_of_ne_true hname, target := ht
    pathPrefix := rfl, checkPrefix := hp, methods := hm, host := rfl, pattern := rfl
    rule_isEmpty := eq_false_of_ne_true hrule, authentication := rfl
    checkExceptions := he, timeout := hto, description := rfl, stripPrefix := rfl
    updatedAt := rfl }

/-- The route as of another version. -/
def Route.stampedAt (stamp : Int) (r : Route) : Route := { r with updatedAt := stamp }

@[simp] theorem Route.name_stampedAt (stamp : Int) (r : Route) :
    (r.stampedAt stamp).name = r.name := rfl

theorem Route.map_name_stampedAt (stamp : Int) (rs : List Route) :
    (rs.map (Route.stampedAt stamp)).map Route.name = rs.map Route.name := by
  rw [List.map_map]
  rfl

/-- The definition as of another version. -/
def Definition.stampedAt (stamp : Int) (d : Definition) : Definition :=
  { d with updatedAt := stamp }

/-- No check looks at the version, so it shows in the route alone. -/
theorem Definition.validate_stampedAt (stamp : Int) (d : Definition) :
    (d.stampedAt stamp).validate = d.validate.map (Route.stampedAt stamp) := by
  unfold Definition.validate
  dsimp only [Definition.stampedAt, Definition.chosenPrefix]
  -- The checks fail alike one after the other, and what has passed them all differs in the stamp.
  split
  · rfl
  split
  · rfl
  simp only [bind, Except.bind]
  split
  · rfl
  split
  · rfl
  split
  · rfl
  split
  · rfl
  split
  · rfl
  split <;> rfl

/-- A route that some definition makes. -/
def Route.IsValidated (r : Route) : Prop := ∃ d : Definition, d.validate = .ok r

/-- A prefix starts with a slash. -/
theorem Route.IsValidated.prefix_head {r : Route} (h : r.IsValidated) {p : String}
    (hp : r.pathPrefix = some p) : p.toList.head? = some '/' := by
  obtain ⟨d, hd⟩ := h
  have hc := (Definition.makes_of_validate hd).checkPrefix
  rw [Route.pathPrefix] at hp
  rw [hp, Definition.checkPrefix] at hc
  split_ifs at hc with hs
  exact hs

end Gateway
