import Gateway.Proofs.Impersonation
import Gateway.Proofs.TextBytes

/-! # Injected identity: what the claims give to each of the identity fields -/
namespace Gateway
open Text

namespace Text

theorem utf8_eq_nil_iff {s : String} : utf8 s = [] ↔ s = "" := by
  rw [← List.length_eq_zero_iff, length_utf8, String.utf8ByteSize_eq_zero_iff]

/-- Nothing stands in a joined text if there are no pieces, or one that is empty. -/
theorem join_comma_eq_empty_iff {texts : List String} :
    join "," texts = "" ↔ texts = [] ∨ texts = [""] := by
  rw [join, ← String.toList_eq_nil_iff, String.toList_intercalate]
  match texts with
  | [] => simp
  | [text] => simp
  | text :: next :: texts => simp [List.intercalate]

end Text

namespace Forwarding
open Headers

/-- The values of a field that a text is written to: none if the text is empty or no legal value. -/
def shown (text : String) : List Bytes :=
  if text ≠ "" ∧ isLegal (utf8 text) = true then [utf8 text] else []

/-- The values of a field that a list of texts is written to, joined by commas. A list of one empty
text leaves an empty value. -/
def listed (texts : List String) : List Bytes :=
  if texts = [""] then [[]] else shown (join "," texts)

/-- What the claims call the user: the identifier, even an empty one, before the subject. -/
def userText (c : Claims) : String := ((c.userId.map Identifier.render).or c.sub).getD ""

theorem told_of_filter (text : Option String) :
    told (text.filter (!·.isEmpty)) = shown (text.getD "") := by
  cases text with
  | none => rfl
  | some text =>
    by_cases hempty : text = "" <;> by_cases hlegal : isLegal (utf8 text) = true <;>
      simp [told, shown, hempty, hlegal]

theorem told_commaJoined (texts : List String) : told (commaJoined texts) = listed texts := by
  rw [listed]
  split_ifs with hone
  · rw [hone]
    decide +kernel
  · cases texts with
    | nil => rfl
    | cons text texts =>
      have hempty : join "," (text :: texts) ≠ "" :=
        fun h => (join_comma_eq_empty_iff.mp h).elim (nomatch ·) hone
      by_cases hlegal : isLegal (utf8 (join "," (text :: texts))) = true <;>
        simp [commaJoined, told, shown, hempty, hlegal]

theorem nil_not_mem_shown (text : String) : [] ∉ shown text := by
  rw [shown]
  split_ifs with h
  · rw [List.mem_singleton]
    exact fun hnil => h.1 (utf8_eq_nil_iff.mp hnil.symm)
  · exact List.not_mem_nil

theorem nil_not_mem_listed_iff (texts : List String) : [] ∉ listed texts ↔ texts ≠ [""] := by
  rw [listed]
  split_ifs with hone
  · exact iff_of_false (fun h => h (List.mem_singleton_self _)) (fun h => h hone)
  · exact iff_of_true (nil_not_mem_shown _) hone

theorem injectIdentity_eq (c : Claims) (h : Headers) :
    injectIdentity c h = setAll (callerFields (some c)) h := rfl

/-- Where there were no identity fields, each gets its text from the claims as its one value, if the
text is not empty and can be written, and all other fields stay. The fields for lists get an empty
value of a list that is one empty text, and there is no other way to an empty value. -/
theorem injectIdentity_exact (c : Claims) {h : Headers} (hnone : ∀ n ∈ callerNames, h.values n = []) :
    (injectIdentity c h).values "user-id" = shown (userText c) ∧
      (injectIdentity c h).values "user-uuid" = shown (c.userUuid.getD "") ∧
      (injectIdentity c h).values "profile-ids" = listed c.profileIds ∧
      (injectIdentity c h).values "permissions" = listed c.permissions ∧
      AgreeBeyond callerNames h (injectIdentity c h) ∧
      ((∀ n ∈ callerNames, [] ∉ (injectIdentity c h).values n) ↔
        c.profileIds ≠ [""] ∧ c.permissions ≠ [""]) := by
  have hfields : ∀ p ∈ callerFields (some c), (injectIdentity c h).values p.1 = told p.2 := by
    refine values_setAll (by rw [map_fst_callerFields]; decide) fun p hp => hnone p.1 ?_
    rw [← map_fst_callerFields (some c)]
    exact List.mem_map_of_mem hp
  simp only [callerFields, List.forall_mem_cons, Option.bind_some] at hfields
  obtain ⟨hid, huuid, hprofiles, hpermissions, -⟩ := hfields
  rw [Claims.subject, told_of_filter] at hid
  rw [told_of_filter] at huuid
  rw [told_commaJoined] at hprofiles hpermissions
  refine ⟨hid, huuid, hprofiles, hpermissions, ?_, ?_⟩
  · rw [injectIdentity_eq]
    exact agreeBeyond_setAll (List.Subset.refl callerNames) h
  · simp only [callerNames, List.forall_mem_cons, hid, huuid, hprofiles, hpermissions,
      nil_not_mem_shown, nil_not_mem_listed_iff, not_false_eq_true, true_and, List.not_mem_nil,
      false_implies, implies_true, and_true]

/-- Claims of a user with a number, and with all that a backend can be told. -/
def known : Claims where
  userId := some (.number 7)
  userUuid := some "4f1d"
  sub := some "someone"
  roles := []
  permissions := ["read", "", "write"]
  profiles := [.name "a", .number (-1)]
  exp := none

theorem injectIdentity_known : (∀ n ∈ callerNames, Headers.empty.values n = []) ∧
    (injectIdentity known .empty).values "user-id" = [utf8 "7"] ∧
    (injectIdentity known .empty).values "user-uuid" = [utf8 "4f1d"] ∧
    (injectIdentity known .empty).values "profile-ids" = [utf8 "a,-1"] ∧
    (injectIdentity known .empty).values "permissions" = [utf8 "read,,write"] ∧
    ∀ n ∈ callerNames, [] ∉ (injectIdentity known .empty).values n := by
  have hnone : ∀ n ∈ callerNames, Headers.empty.values n = [] := by decide
  obtain ⟨hid, huuid, hprofiles, hpermissions, -, hempty⟩ := injectIdentity_exact known hnone
  rw [hid, huuid, hprofiles, hpermissions]
  exact ⟨hnone, by decide +kernel, by decide +kernel, by decide +kernel, by decide +kernel,
    hempty.mpr (by decide +kernel)⟩

/-- Claims with nothing but a permission without a name. -/
def unnamed : Claims where
  userId := none
  userUuid := none
  sub := none
  roles := []
  permissions := [""]
  profiles := []
  exp := none

/-- A field is set although there is nothing to say in it, and its value is empty. -/
theorem injectIdentity_unnamed : (∀ n ∈ callerNames, Headers.empty.values n = []) ∧
    join "," unnamed.permissions = "" ∧
    (injectIdentity unnamed .empty).values "permissions" = [[]] := by
  decide +kernel

end Forwarding
end Gateway
