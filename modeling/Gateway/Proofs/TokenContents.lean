import Gateway.Proofs.Base64Bytes
import Gateway.Proofs.TokenReadings
import Gateway.Proofs.WrittenJson

/-! # Contents of tokens: the claims that were written into one are read from it -/
namespace Gateway
open Text Record

/-- Numbers of 64 bits with a sign are what issuers name by. -/
def Identifier.Fits : Identifier → Prop
  | .number n => Word.isSigned n = true
  | .name _ => True

/-- Claims whose numbers have 64 bits with a sign. -/
structure Claims.Fits (c : Claims) : Prop where
  userId : ∀ i ∈ c.userId, i.Fits
  profiles : ∀ i ∈ c.profiles, i.Fits
  exp : ∀ n ∈ c.exp, Word.isSigned n = true

theorem Json.isWord_of_isSigned {n : Int} (h : Word.isSigned n = true) : Json.IsWord n := by
  rw [Word.isSigned, Bool.and_eq_true, decide_eq_true_eq, decide_eq_true_eq] at h
  exact ⟨h.1, Int.lt_trans h.2 (by decide)⟩

theorem Record.signed64?_int {n : Int} (h : Word.isSigned n = true) :
    signed64? (Json.int n) = some n := by
  show (some n).filter Word.isSigned = some n
  rw [Option.filter_some, if_pos h]

namespace Identifier

/-- A text stays a text, also where it looks like a number. -/
theorem decode?_encode {i : Identifier} (h : i.Fits) : decode? i.encode = some i := by
  cases i with
  | number n =>
    show ((signed64? (Json.int n)).map number).or _ = _
    rw [signed64?_int h]
    rfl
  | name s => rfl

theorem isNull_encode (i : Identifier) : i.encode.isNull = false := by cases i <;> rfl

theorem plain_encode {i : Identifier} (h : i.Fits) : i.encode.Plain := by
  cases i with
  | number n => exact .int (Json.isWord_of_isSigned h)
  | name s => exact .text s

end Identifier

namespace Claims

theorem given_presentField {α : Type} (name : String) (f : α → Json) (o : Option α) (s : Slot) :
    given (presentField name f o) s = if s.admits name then (o.map f).toList else [] := by
  have htoList : presentField name f o = (o.map fun a => (name, f a)).toList := by
    cases o <;> rfl
  rw [htoList, given_toList]

theorem plain_of_mem_presentField {α : Type} {name : String} {f : α → Json} {o : Option α}
    (h : ∀ a ∈ o, (f a).Plain) {p : String × Json} (hp : p ∈ presentField name f o) :
    p.2.Plain := by
  cases o with
  | none => cases hp
  | some a =>
    obtain rfl := List.mem_singleton.mp hp
    exact h a rfl

theorem decodeProfile?_encode {i : Identifier} (h : i.Fits) :
    decodeProfile? (encodeProfile i) = some i := by
  obtain ⟨r, hr, hvalues⟩ : ∃ r, collect? (slotsOf ["id"]) (encodeProfile i) = some r ∧
      (slotsOf ["id"]).map (fun s => r.value? s.name) = [some i.encode] :=
    exists_collect? (by decide) rfl
  simp only [slotsOf, List.map_cons, List.map_nil, List.cons.injEq, and_true] at hvalues
  simp only [decodeProfile?, hr, Option.bind_eq_bind, Option.bind_some,
    required_of_value? hvalues, Identifier.decode?_encode h]

theorem decode?_encode {c : Claims} (h : c.Fits) : decode? c.encode = some c := by
  obtain ⟨r, hr, hvalues⟩ : ∃ r, collect? slots c.encode = some r ∧
      slots.map (fun s => r.value? s.name) =
        [c.userId.map Identifier.encode, c.userUuid.map .text, c.sub.map .text,
          some (.ofTexts c.roles), some (.ofTexts c.permissions),
          some (.list (c.profiles.map encodeProfile)), c.exp.map .int] := by
    refine exists_collect? (by decide) ?_
    simp [slots, given_append, given_presentField, given_cons, Slot.admits]
  simp only [slots, List.map_cons, List.map_nil, List.cons.injEq, and_true] at hvalues
  obtain ⟨hid, huuid, hsub, hroles, hpermissions, hprofiles, hexp⟩ := hvalues
  simp only [decode?, hr,
    optional_of_value? hid (fun i hi => Identifier.decode?_encode (h.userId i hi))
      Identifier.isNull_encode,
    optional_of_text huuid, optional_of_text hsub, withDefault_of_value? _ hroles,
    withDefault_of_value? _ hpermissions, withDefault_of_value? _ hprofiles, listOf_texts,
    listOf_map fun i hi => decodeProfile?_encode (h.profiles i hi),
    optional_of_value? hexp (fun n hn => signed64?_int (h.exp n hn)) (fun _ => rfl),
    Option.bind_eq_bind, Option.bind_some, Option.pure_def]

theorem plain_encode {c : Claims} (h : c.Fits) : c.encode.Plain := by
  refine .record fun f hf => ?_
  simp only [List.mem_append, List.mem_cons, List.not_mem_nil, or_false] at hf
  rcases hf with (((hf | hf) | hf) | rfl | rfl | rfl) | hf
  · exact plain_of_mem_presentField (fun i hi => Identifier.plain_encode (h.userId i hi)) hf
  · exact plain_of_mem_presentField (fun s _ => .text s) hf
  · exact plain_of_mem_presentField (fun s _ => .text s) hf
  · exact .texts _
  · exact .texts _
  · refine .list fun x hx => ?_
    obtain ⟨i, hi, rfl⟩ := List.mem_map.mp hx
    exact .record (List.forall_mem_singleton.mpr (Identifier.plain_encode (h.profiles i hi)))
  · exact plain_of_mem_presentField (fun n hn => .int (Json.isWord_of_isSigned (h.exp n hn))) hf

end Claims

namespace Credential

/-- Padding at the end is cut off, however much there is. -/
theorem withoutPadding_append_replicate {cs : List Char} (h : '=' ∉ cs) (n : Nat) :
    withoutPadding (cs ++ List.replicate n '=') = cs := by
  have hpadding : ∀ c ∈ List.replicate n '=', (c == '=') = true := fun c hc => by
    rw [List.eq_of_mem_replicate hc]
    rfl
  rw [withoutPadding, List.reverse_append, List.reverse_replicate,
    List.dropWhile_append_of_pos hpadding]
  exact withoutPadding_of_not_mem h

/-- A token with claims between a header and a signature, and with padding after the claims. -/
def carrying (c : Claims) (header signature : String) (padding : Nat) : String :=
  header ++ "." ++ (Base64.encodeText (utf8 c.encode.render) ++
    String.ofList (List.replicate padding '=')) ++ "." ++ signature

theorem toList_carrying (c : Claims) (header signature : String) (padding : Nat) :
    (carrying c header signature padding).toList =
      header.toList ++ '.' :: ((byteChars (Base64.encode (utf8 c.encode.render)) ++
        List.replicate padding '=') ++ '.' :: signature.toList) := by
  simp [carrying, Base64.encodeText, latin1]

theorem ne_of_mem_byteChars_encode {bs : Bytes} {ch : Char}
    (h : ch ∈ byteChars (Base64.encode bs)) : ch ≠ '.' ∧ ch ≠ '=' := by
  obtain ⟨b, hb, rfl⟩ := List.mem_map.mp h
  obtain ⟨-, hdot, hequals⟩ := Base64.isPart_of_mem_encode hb
  constructor <;> intro heq
  · exact hdot (UInt8.toNat_inj.mp (by rw [← toNat_byteChar b, heq]; rfl))
  · exact hequals (UInt8.toNat_inj.mp (by rw [← toNat_byteChar b, heq]; rfl))

theorem claims_carrying {c : Claims} (h : c.Fits) {header signature : String}
    (hheader : '.' ∉ header.toList) (hsignature : '.' ∉ signature.toList) (padding : Nat) :
    claims (carrying c header signature padding) = .ok c := by
  have hequals : '=' ∉ byteChars (Base64.encode (utf8 c.encode.render)) :=
    fun hmem => (ne_of_mem_byteChars_encode hmem).2 rfl
  have hdot : '.' ∉ byteChars (Base64.encode (utf8 c.encode.render)) ++
      List.replicate padding '=' := by
    rw [List.mem_append, not_or]
    exact ⟨fun hmem => (ne_of_mem_byteChars_encode hmem).1 rfl,
      fun hmem => absurd (List.eq_of_mem_replicate hmem) (by decide)⟩
  have hbytes : utf8 (String.ofList (byteChars (Base64.encode (utf8 c.encode.render)))) =
      Base64.encode (utf8 c.encode.render) :=
    utf8_latin1 fun b hb => (Base64.isPart_of_mem_encode hb).1
  rw [claims, toList_carrying, splitChars_append_cons _ hheader, splitChars_append_cons _ hdot,
    splitChars_of_not_mem hsignature]
  dsimp only
  rw [withoutPadding_append_replicate hequals, hbytes, Base64.decode_encode]
  dsimp only
  rw [(Claims.plain_encode h).readLoosely_render, Option.bind_some, Claims.decode?_encode h]

/-- A token is refused for the number of its parts if it has another number of dots than two, and
only then. -/
theorem claims_eq_error_iff (token : String) :
    claims token = .error (.malformed "expected three dot-separated parts") ↔
      token.toList.count '.' ≠ 2 := by
  have hlength := length_splitChars '.' token.toList
  have hother : ∀ m : String, "payload is not base64url: " ++ m ≠
      "expected three dot-separated parts" := by
    intro m h
    have hchars := congrArg String.toList h
    rw [String.toList_append] at hchars
    cases hchars
  rw [claims]
  split
  · next x y z hparts =>
    rw [hparts] at hlength
    refine iff_of_false (fun h => ?_) fun h => h (Nat.succ.inj hlength).symm
    split at h
    · exact hother _ (Denial.malformed.inj (Except.error.inj h))
    · split at h
      · cases h
      · exact absurd (Denial.malformed.inj (Except.error.inj h)) (by decide)
  · next hparts =>
    refine iff_of_true rfl fun hcount => ?_
    rw [hcount] at hlength
    obtain ⟨x, y, z, hxyz⟩ := List.length_eq_three.mp hlength
    exact hparts x y z hxyz

/-- Claims outlive being written into a token, whatever stands before and after them and however
far they are padded, and a token with another number of dots than two is malformed. -/
theorem claims_roundtrip :
    (∀ (c : Claims) (header signature : String) (padding : Nat), c.Fits → '.' ∉ header.toList →
      '.' ∉ signature.toList → claims (carrying c header signature padding) = .ok c) ∧
    ∀ token : String, claims token = .error (.malformed "expected three dot-separated parts") ↔
      token.toList.count '.' ≠ 2 :=
  ⟨fun _ _ _ padding h hheader hsignature => claims_carrying h hheader hsignature padding,
    claims_eq_error_iff⟩

/-- Claims with a text that looks like a number, the least number of 64 bits, and characters that
are escaped or have more than one byte. -/
def awkwardClaims : Claims where
  userId := some (.name "42")
  userUuid := none
  sub := some "a\"b\\c\nd\x01e"
  roles := ["", "größe", "名"]
  permissions := []
  profiles := [.number (-0x8000000000000000), .name "7"]
  exp := some 0x7fffffffffffffff

theorem claims_roundtrip_awkward :
    awkwardClaims.Fits ∧ '.' ∉ "header".toList ∧ '.' ∉ "=".toList ∧
      claims (carrying awkwardClaims "header" "=" 3) = .ok awkwardClaims :=
  have hfits : awkwardClaims.Fits := {
    userId := by rintro i ⟨⟩; trivial
    profiles := List.forall_mem_cons.mpr ⟨rfl, List.forall_mem_singleton.mpr trivial⟩
    exp := by rintro n ⟨⟩; decide }
  ⟨hfits, by decide, by decide, claims_roundtrip.1 _ _ _ 3 hfits (by decide) (by decide)⟩

end Credential
end Gateway
