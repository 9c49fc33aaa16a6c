import Gateway.Proofs.TextPieces
import Gateway.Proofs.Validated
import Mathlib

/-! # Exceptions of a policy: which spellings of a method are heeded -/
namespace Gateway
open Text

namespace Text

theorem upperAscii_lowerAscii (s : String) : upperAscii (lowerAscii s) = upperAscii s := by
  simp [upperAscii, lowerAscii, Function.comp_def]

theorem lowerAscii_upperAscii (s : String) : lowerAscii (upperAscii s) = lowerAscii s := by
  simp [upperAscii, lowerAscii, Function.comp_def]

/-- Letters may as well be compared as capitals. -/
theorem sameLetters_iff (s t : String) : sameLetters s t = true ↔ upperAscii s = upperAscii t := by
  rw [sameLetters, beq_iff_eq]
  constructor
  · intro h
    rw [← upperAscii_lowerAscii s, h, upperAscii_lowerAscii]
  · intro h
    rw [← lowerAscii_upperAscii s, h, lowerAscii_upperAscii]

theorem isBlank_eq_false_of_isAlpha {c : Char} (h : c.isAlpha = true) : isBlank c = false := by
  simp only [Char.isAlpha, Char.isUpper, Char.isLower, Bool.or_eq_true, Bool.and_eq_true,
    decide_eq_true_eq, UInt32.le_iff_toNat_le, ge_iff_le, UInt32.reduceToNat, Char.reduceVal,
    Char.toNat_val] at h
  simp only [isBlank, Bool.or_eq_false_iff, Bool.and_eq_false_iff, decide_eq_false_iff_not,
    beq_eq_false_iff_ne]
  omega

end Text

namespace Verb

theorem isUpper_of_mem_name (v : Verb) : ∀ c ∈ v.name.toList, c.isUpper = true := by
  cases v <;> simp [name]

theorem upperAscii_name (v : Verb) : upperAscii v.name = v.name := by
  have hmap : v.name.toList.map Char.toUpper = v.name.toList.map id :=
    List.map_congr_left fun c hc =>
      Char.toUpper_eq_of_not_isLower (Char.not_isLower_of_isUpper (v.isUpper_of_mem_name c hc))
  rw [upperAscii, hmap, List.map_id, String.ofList_toList]

/-- The method that a text names is read without regard to blanks around it. -/
theorem ofText?_eq_some_iff (s : String) (v : Verb) :
    ofText? s = some v ↔ upperAscii (trim s) = v.name := by
  rw [ofText?]
  constructor
  · intro h
    have hname := List.find?_some h
    exact (beq_iff_eq.mp hname).symm
  · intro h
    rw [h]
    cases v <;> decide +kernel

/-- A method that is compared letter by letter is heeded when its name has no blanks around it. -/
theorem sameLetters_name_iff (s : String) (v : Verb) :
    sameLetters s v.name = true ↔ ofText? s = some v ∧ trim s = s := by
  rw [sameLetters_iff, upperAscii_name, ofText?_eq_some_iff]
  constructor
  · intro h
    have hletter : ∀ c ∈ s.toList, c.isAlpha = true := by
      intro c hc
      rw [← Char.isAlpha_toUpper_eq_isAlpha]
      have hname : c.toUpper ∈ v.name.toList := by
        rw [← h, upperAscii, String.toList_ofList]
        exact List.mem_map_of_mem hc
      rw [Char.isAlpha, v.isUpper_of_mem_name _ hname, Bool.true_or]
    have htrim : trim s = s := trim_eq_self fun c hc => isBlank_eq_false_of_isAlpha (hletter c hc)
    exact ⟨by rw [htrim, h], htrim⟩
  · rintro ⟨h, htrim⟩
    rwa [htrim] at h

end Verb

namespace AuthException

/-- The exception is made for requests by this method to this path, going by how its texts are read
when they are accepted. -/
def MadeFor (e : AuthException) (path : String) (v : Verb) : Prop :=
  e.path = path ∧ (e.methods = [] ∨ ∃ m ∈ e.methods, Verb.ofText? m = some v)

/-- The same by a text that has no blanks around the name. -/
def HeededFor (e : AuthException) (path : String) (v : Verb) : Prop :=
  e.path = path ∧ (e.methods = [] ∨ ∃ m ∈ e.methods, Verb.ofText? m = some v ∧ trim m = m)

theorem covers_iff (e : AuthException) (path : String) (v : Verb) :
    e.covers path v.name = true ↔ e.HeededFor path v := by
  simp only [covers, HeededFor, Bool.and_eq_true, Bool.or_eq_true, beq_iff_eq, List.isEmpty_iff,
    List.any_eq_true, Verb.sameLetters_name_iff]

theorem heededFor_iff_madeFor {e : AuthException} (h : ∀ m ∈ e.methods, trim m = m) (path : String)
    (v : Verb) : e.HeededFor path v ↔ e.MadeFor path v := by
  refine and_congr_right fun _ => or_congr_right (exists_congr fun m => ?_)
  exact and_congr_right fun hm => and_iff_left (h m hm)

end AuthException

theorem Authentication.requiredFor_iff (a : Authentication) (path : String) (v : Verb) :
    a.requiredFor path v.name = true ↔
      Xor (a.required = true) (∃ e ∈ a.except, e.HeededFor path v) := by
  have hany : a.except.any (·.covers path v.name) = true ↔ ∃ e ∈ a.except, e.HeededFor path v := by
    simp only [List.any_eq_true, AuthException.covers_iff]
  rw [requiredFor, ← hany, bne_iff_ne, xor_iff_not_iff, Ne, Bool.eq_iff_iff]

namespace Definition

/-- What an accepted definition lists for an exception names methods. -/
theorem ofText?_of_checkExceptions {route : String} {a : Authentication}
    (h : checkExceptions route a = .ok ()) :
    ∀ e ∈ a.except, ∀ m ∈ e.methods, ∃ v, Verb.ofText? m = some v := by
  intro e he m hm
  rw [checkExceptions] at h
  split at h
  · cases h
  · next hnone =>
    rw [List.find?_eq_none] at hnone
    have hsome := hnone m (List.mem_flatMap.mpr ⟨e, he, hm⟩)
    rwa [Option.isNone_iff_eq_none, ← Ne, Option.ne_none_iff_exists'] at hsome

/-- Every text of an accepted exception names a method, but only one without blanks around the name
turns the policy round. Where no text has such blanks, each accepted one is heeded. -/
theorem requiresAuth_iff_of_validate {d : Definition} {r : Route} (h : d.validate = .ok r) :
    (∀ e ∈ r.authentication.except, ∀ m ∈ e.methods, ∃ v, Verb.ofText? m = some v) ∧
      (∀ path (v : Verb), r.requiresAuth path v.name = true ↔
        Xor (r.authentication.required = true)
          (∃ e ∈ r.authentication.except, e.HeededFor path v)) ∧
      ((∀ e ∈ r.authentication.except, ∀ m ∈ e.methods, trim m = m) →
        ∀ path (v : Verb), r.requiresAuth path v.name = true ↔
          Xor (r.authentication.required = true)
            (∃ e ∈ r.authentication.except, e.MadeFor path v)) := by
  refine ⟨ofText?_of_checkExceptions (makes_of_validate h).checkExceptions,
    fun path v => r.authentication.requiredFor_iff path v, fun hplain path v => ?_⟩
  have hmade : (∃ e ∈ r.authentication.except, e.HeededFor path v) ↔
      ∃ e ∈ r.authentication.except, e.MadeFor path v :=
    exists_congr fun e => and_congr_right fun he =>
      AuthException.heededFor_iff_madeFor (hplain e he) path v
  rw [← hmade]
  exact r.authentication.requiredFor_iff path v

/-- A public prefix, below which one path asks who the caller is if the method is spelled so. -/
def guardedBy (method : String) : Definition where
  name := "users"
  description := none
  block := ⟨none, some "/users", none, []⟩
  pathPrefix := none
  authentication := some ⟨false, [⟨"/users/me", [method]⟩]⟩
  target := "http://[::1]"
  stripPrefix := false
  timeout := none
  updatedAt := 0

theorem requiresAuth_of_small_letters : ∃ r, (guardedBy "post").validate = .ok r ∧
    r.requiresAuth "/users/me" Verb.post.name = true ∧
    r.requiresAuth "/users/me" Verb.get.name = false := by
  obtain ⟨r, hr⟩ : ∃ r, (guardedBy "post").validate = .ok r := ⟨_, rfl⟩
  have hauth : r.authentication = ⟨false, [⟨"/users/me", ["post"]⟩]⟩ :=
    (makes_of_validate hr).authentication
  have hpost : Verb.ofText? "post" = some .post := rfl
  have hplain : ∀ e ∈ r.authentication.except, ∀ m ∈ e.methods, trim m = m := by
    have htrim : trim "post" = "post" := rfl
    simp [hauth, htrim]
  obtain ⟨-, -, h⟩ := requiresAuth_iff_of_validate hr
  refine ⟨r, hr, (h hplain _ _).mpr ?_, ?_⟩
  · simp [hauth, AuthException.MadeFor, hpost]
  · rw [← Bool.not_eq_true, h hplain]
    simp [hauth, AuthException.MadeFor, hpost]

/-- A blank before the name passes validation, and leaves the path to everyone. -/
theorem requiresAuth_overlooks_blank : ∃ r, (guardedBy " POST").validate = .ok r ∧
    (∃ e ∈ r.authentication.except, e.MadeFor "/users/me" .post) ∧
    r.authentication.required = false ∧ r.requiresAuth "/users/me" Verb.post.name = false := by
  obtain ⟨r, hr⟩ : ∃ r, (guardedBy " POST").validate = .ok r := ⟨_, rfl⟩
  have hauth : r.authentication = ⟨false, [⟨"/users/me", [" POST"]⟩]⟩ :=
    (makes_of_validate hr).authentication
  refine ⟨r, hr, ?_, ?_, ?_⟩
  · rw [hauth]
    exact ⟨_, List.mem_singleton_self _, rfl, Or.inr ⟨" POST", List.mem_singleton_self _, rfl⟩⟩
  · rw [hauth]
  · rw [Route.requiresAuth, hauth]
    rfl

end Definition
end Gateway
