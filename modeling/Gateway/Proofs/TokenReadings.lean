import Gateway.Auth.Credential
import Gateway.Auth.Signed
import Gateway.Proofs.Prefixes
import Gateway.Proofs.Records
import Gateway.Proofs.Validated
import Mathlib.Data.List.DropRight

/-! # Two readings of a token: for its claims alone, and with its signature and its date -/
namespace Gateway
open Text Record

namespace Text

/-- Cutting is at the first separator. -/
theorem cutChars_eq_some {sep : Char} {cs before after : List Char}
    (h : cutChars sep cs = (before, some after)) : cs = before ++ sep :: after ∧ sep ∉ before := by
  induction cs generalizing before with
  | nil => cases h
  | cons c cs ih =>
    rw [cutChars] at h
    split_ifs at h with hc
    · cases h
      exact ⟨by rw [hc, List.nil_append], List.not_mem_nil⟩
    · cases hcut : cutChars sep cs with
      | mk a b =>
        rw [hcut] at h
        cases h
        obtain ⟨hcs, ha⟩ := ih hcut
        exact ⟨by rw [List.cons_append, ← hcs], List.not_mem_cons_of_ne_of_not_mem (Ne.symm hc) ha⟩

end Text

namespace Base64

/-- The bytes that stand for values. -/
def IsCode (bs : Bytes) : Prop := ∀ b ∈ bs, (value? b).isSome = true

theorem valueAt_eq_ok {b : UInt8} {offset n : Nat} (h : valueAt b offset = .ok n) :
    (value? b).isSome = true := by
  rw [valueAt] at h
  split at h
  · next hn => rw [hn]; rfl
  · cases h

theorem mapM_valueAt_eq_ok {offset : Nat} {bs : List (UInt8 × Nat)} {values : List Nat}
    (h : bs.mapM (fun (b, i) => valueAt b (offset + i)) = .ok values) :
    IsCode (bs.map Prod.fst) := by
  induction bs generalizing values with
  | nil => exact fun b hb => nomatch hb
  | cons b bs ih =>
    rw [List.mapM_cons, chain_eq_ok_iff] at h
    obtain ⟨n, hn, h⟩ := h
    obtain ⟨ns, hns, -⟩ := chain_eq_ok_iff.mp h
    exact List.forall_mem_cons.mpr ⟨valueAt_eq_ok hn, ih hns⟩

theorem lastValues_eq_ok {offset : Nat} {bs : Bytes} {values : List Nat}
    (h : lastValues offset bs = .ok values) : IsCode bs := by
  rw [lastValues] at h
  dsimp only at h
  obtain ⟨ns, hns, h⟩ := chain_eq_ok_iff.mp h
  split_ifs at h with hrest
  have hbs : bs = bs.takeWhile (· != equals) := by
    conv_lhs => rw [← List.takeWhile_append_dropWhile (p := (· != equals)) (l := bs),
      List.isEmpty_iff.mp hrest, List.append_nil]
  have hcode := mapM_valueAt_eq_ok hns
  rw [List.zipIdx_map_fst, ← hbs] at hcode
  exact hcode

theorem decodeFrom_eq_ok {offset : Nat} {bs out : Bytes} (h : decodeFrom offset bs = .ok out) :
    IsCode bs := by
  induction offset, bs using decodeFrom.induct generalizing out with
  | case1 offset b₁ b₂ b₃ b₄ b₅ rest ih =>
    rw [decodeFrom] at h
    obtain ⟨a, ha, h⟩ := chain_eq_ok_iff.mp h
    obtain ⟨b, hb, h⟩ := chain_eq_ok_iff.mp h
    obtain ⟨c, hc, h⟩ := chain_eq_ok_iff.mp h
    obtain ⟨d, hd, h⟩ := chain_eq_ok_iff.mp h
    obtain ⟨tail, htail, -⟩ := chain_eq_ok_iff.mp h
    have hrest : IsCode (b₅ :: rest) := ih htail
    simp only [IsCode, List.forall_mem_cons] at hrest ⊢
    exact ⟨valueAt_eq_ok ha, valueAt_eq_ok hb, valueAt_eq_ok hc, valueAt_eq_ok hd, hrest⟩
  | case2 offset bs hshort =>
    rw [decodeFrom.eq_2 offset bs hshort] at h
    obtain ⟨values, hvalues, -⟩ := chain_eq_ok_iff.mp h
    exact lastValues_eq_ok hvalues

/-- Only symbols of the alphabet can be decoded, and no padding. -/
theorem decode_eq_ok {bs out : Bytes} (h : decode bs = .ok out) : IsCode bs := by
  rw [decode] at h
  split at h
  · split_ifs at h
    exact decodeFrom_eq_ok h
  · next hbs =>
    rw [List.getLast?_eq_none_iff] at hbs
    rw [hbs]
    exact fun b hb => nomatch hb

/-- A character whose byte is no symbol does not stand in a text that can be decoded. -/
theorem not_mem_of_decode {s : String} {out : Bytes} (h : decode (utf8 s) = .ok out) {c : Char}
    {b : UInt8} (hc : String.utf8EncodeChar c = [b]) (hb : value? b = none) : c ∉ s.toList := by
  intro hmem
  have hmem : b ∈ utf8 s := by
    rw [utf8_eq, List.mem_flatMap]
    exact ⟨c, hmem, by rw [hc]; exact List.mem_singleton_self b⟩
  have hsome := decode_eq_ok h b hmem
  rw [hb] at hsome
  cases hsome

end Base64

theorem Credential.withoutPadding_of_not_mem {cs : List Char} (h : '=' ∉ cs) :
    withoutPadding cs = cs := by
  refine List.rdropWhile_eq_self_iff.mpr fun hne hlast => ?_
  rw [beq_iff_eq] at hlast
  exact h (hlast ▸ List.getLast_mem hne)

namespace Record

theorem isSome_of_mapM {α β : Type} {f : α → Option β} {xs : List α} {ys : List β}
    (h : xs.mapM f = some ys) : ∀ x ∈ xs, (f x).isSome = true := by
  induction xs generalizing ys with
  | nil => exact fun x hx => nomatch hx
  | cons x xs ih =>
    simp only [List.mapM_cons, Option.bind_eq_bind, Option.bind_eq_some_iff] at h
    obtain ⟨y, hy, ys', hys, -⟩ := h
    exact List.forall_mem_cons.mpr ⟨Option.isSome_of_eq_some hy, ih hys⟩

end Record

namespace Claims

/-- The fields that claims are read from. -/
theorem decode?_eq_some {ν : Type} [Source ν] {x : ν} {c : Claims} (h : decode? x = some c) :
    ∃ r, collect? slots x = some r ∧
      r.withDefault "permissions" [] (listOf Source.text?) = some c.permissions ∧
      r.optional "exp" signed64? = some c.exp := by
  simp only [decode?, Option.bind_eq_bind, Option.bind_eq_some_iff] at h
  obtain ⟨r, hr, _, -, _, -, _, -, _, -, permissions, hpermissions, _, -, exp, hexp, h⟩ := h
  cases h
  exact ⟨r, hr, hpermissions, hexp⟩

end Claims

namespace Signed

theorem cutLast?_eq_some {cs before after : List Char} (h : cutLast? cs = some (before, after)) :
    cs = before ++ '.' :: after ∧ '.' ∉ after := by
  rw [cutLast?] at h
  split at h
  · next rear front hcut =>
    cases h
    obtain ⟨hcs, hrear⟩ := cutChars_eq_some hcut
    refine ⟨?_, fun hmem => hrear (List.mem_reverse.mp hmem)⟩
    rw [← List.reverse_reverse cs, hcs, List.reverse_append, List.reverse_cons, List.append_assoc,
      List.singleton_append]
  · cases h

/-- The parts of a token, whose header may hold dots of its own. -/
theorem parts?_eq_some {token : String} {p : Parts} (h : parts? token = some p) :
    token.toList = p.header.toList ++ '.' :: (p.payload.toList ++ '.' :: p.signature.toList) ∧
      '.' ∉ p.payload.toList ∧ '.' ∉ p.signature.toList := by
  simp only [parts?, Option.bind_eq_bind, Option.bind_eq_some_iff, Prod.exists] at h
  obtain ⟨message, signature, hmessage, header, payload, hpayload, hp⟩ := h
  cases hp
  obtain ⟨htoken, hsignature⟩ := cutLast?_eq_some hmessage
  obtain ⟨hcut, hpayload⟩ := cutLast?_eq_some hpayload
  simp only [String.toList_ofList]
  exact ⟨by rw [htoken, hcut, List.append_assoc, List.cons_append], hpayload, hsignature⟩

/-- What was read of a token that is good under a secret at a time, and what it passed. -/
structure Verified (key token : String) (now : Nat) (claims : Claims) where
  parts : Parts
  header : Json
  payload : Json
  terms : Terms
  parts_eq : parts? token = some parts
  header_eq : jsonOf parts.header = .ok header
  algorithm_eq : algorithm? header = some "HS256"
  signature_eq : signature key parts.message = parts.signature
  payload_eq : jsonOf parts.payload = .ok payload
  claims_eq : Claims.decode? payload = some claims
  terms_eq : terms? payload = some terms
  check_eq : check now terms = .ok ()

theorem decode_eq_ok {key token : String} {now : Nat} {claims : Claims}
    (h : decode key token now = .ok claims) : Nonempty (Verified key token now claims) := by
  rw [decode] at h
  cases hp : parts? token with
  | none => rw [hp] at h; cases h
  | some p =>
    rw [hp] at h
    obtain ⟨header, hheader, h⟩ := chain_eq_ok_iff.mp h
    cases halgorithm : algorithm? header with
    | none => rw [halgorithm] at h; cases h
    | some algorithm =>
      rw [halgorithm] at h
      dsimp only at h
      split at h
      · cases h
      · next hname =>
        rw [not_not.mp hname] at halgorithm
        split at h
        · cases h
        · next hsignature =>
          obtain ⟨payload, hpayload, h⟩ := chain_eq_ok_iff.mp h
          split at h
          · next hclaims hterms =>
            obtain ⟨_, hcheck, h⟩ := chain_eq_ok_iff.mp h
            cases h
            exact ⟨p, header, payload, _, hp, hheader, halgorithm, not_not.mp hsignature,
              hpayload, hclaims, hterms, hcheck⟩
          · cases h

theorem jsonOf_eq_ok {part : String} {j : Json} (h : jsonOf part = .ok j) :
    ∃ bytes, Base64.decode (utf8 part) = .ok bytes ∧ Json.readLoosely bytes = some j := by
  rw [jsonOf] at h
  split at h
  · cases h
  · next bytes hbytes =>
    split at h
    · next hread =>
      cases h
      exact ⟨bytes, hbytes, hread⟩
    · cases h

/-- What is verified is also what the token says when nobody verifies it. -/
theorem claims_of_decode {key token : String} {now : Nat} {claims : Claims}
    (h : decode key token now = .ok claims) : Credential.claims token = .ok claims := by
  obtain ⟨hv⟩ := decode_eq_ok h
  obtain ⟨_, hheader, -⟩ := jsonOf_eq_ok hv.header_eq
  obtain ⟨bytes, hbytes, hread⟩ := jsonOf_eq_ok hv.payload_eq
  obtain ⟨htoken, hpayload, hsignature⟩ := parts?_eq_some hv.parts_eq
  -- What can be decoded has no dots, which would part it, and no padding, which would be cut off.
  have hdots : '.' ∉ hv.parts.header.toList :=
    Base64.not_mem_of_decode hheader (b := 46) (by decide) rfl
  have hequals : '=' ∉ hv.parts.payload.toList :=
    Base64.not_mem_of_decode hbytes (b := 61) (by decide) rfl
  rw [Credential.claims, htoken, splitChars_append_cons _ hdots, splitChars_append_cons _ hpayload,
    splitChars_of_not_mem hsignature]
  dsimp only
  rw [Credential.withoutPadding_of_not_mem hequals, String.ofList_toList, hbytes]
  dsimp only
  rw [hread, Option.bind_some, hv.claims_eq]

theorem terms?_eq_some {payload : Json} {t : Terms} (h : terms? payload = some t) :
    ∃ r, collectWhole? termSlots payload = some r ∧ t.exp = (r.value? "exp").bind Json.nat? ∧
      t.audience = ((r.value? "aud").map isAudience).getD false := by
  simp only [terms?, Option.bind_eq_bind, Option.bind_eq_some_iff] at h
  obtain ⟨r, hr, h⟩ := h
  split at h
  · cases h
  · cases h
    exact ⟨r, hr, rfl, rfl⟩

theorem nat?_eq_some {x : Json} {n : Nat} (h : x.nat? = some n) : x = .int n := by
  cases x with
  | int k => cases k <;> cases h; rfl
  | _ => cases h

/-- As a list, terms are all given. -/
theorem eq_of_collectWhole? {xs : List Json} {r : Opened Json}
    (h : collectWhole? termSlots (.list xs) = some r) : ∃ a b c d e, xs = [a, b, c, d, e] := by
  simp only [collectWhole?, collect?, Source.items?, Source.fields?, Json.items?,
    Option.bind_some, listed] at h
  split_ifs at h with hless hmore
  have hlength : xs.length = 5 := by
    simp only [Source.surplus, Bool.not_false, Bool.and_true, decide_eq_true_eq] at hmore
    exact Nat.le_antisymm (Nat.le_of_not_lt hmore) (Nat.le_of_not_lt hless)
  match xs, hlength with
  | [a, b, c, d, e], _ => exact ⟨a, b, c, d, e, rfl⟩

theorem isAudience_of_texts {x : Json} {texts : List String}
    (h : listOf Source.text? x = some texts) : isAudience x = true := by
  cases x with
  | list xs => exact List.all_eq_true.mpr (isSome_of_mapM h)
  | _ => cases h

/-- Claims and terms are one payload read twice. They agree on the date, and a list that can be read
as both is meant for an audience. -/
theorem exp_eq_of_terms {payload : Json} {claims : Claims} {t : Terms} {exp : Nat}
    (hclaims : Claims.decode? payload = some claims) (hterms : terms? payload = some t)
    (haudience : t.audience = false) (hexp : t.exp = some exp) : claims.exp = some (exp : Int) := by
  obtain ⟨r, hr, hpermissions, hdate⟩ := Claims.decode?_eq_some hclaims
  obtain ⟨r', hr', hexp', haud⟩ := terms?_eq_some hterms
  cases payload with
  | record fields =>
    have hvalue : r.value? "exp" = r'.value? "exp" := by
      rw [value?_named hr, value?_named hr']
      rfl
    rw [hexp, ← hvalue] at hexp'
    obtain ⟨x, hx, hn⟩ := Option.bind_eq_some_iff.mp hexp'.symm
    obtain rfl := nat?_eq_some hn
    simp only [Opened.optional, hx, Source.isAbsent, Json.isNull, Bool.false_eq_true, if_false,
      Option.map_eq_some_iff, signed64?, Option.filter_eq_some_iff] at hdate
    obtain ⟨n, ⟨hint, -⟩, hdate⟩ := hdate
    cases hint
    exact hdate.symm
  | list xs =>
    obtain ⟨a, b, c, d, e, rfl⟩ := eq_of_collectWhole? hr'
    cases hr
    cases hr'
    have hlist : listOf Source.text? e = some claims.permissions := hpermissions
    have hmeant : t.audience = isAudience e := haud
    rw [isAudience_of_texts hlist, haudience] at hmeant
    cases hmeant
  | _ => cases hr

theorem check_eq_ok {now : Nat} {t : Terms} (h : check now t = .ok ()) :
    ∃ exp, t.exp = some exp ∧ now ≤ exp ∧ t.audience = false := by
  rw [check] at h
  split at h
  · cases h
  · next exp hexp =>
    split_ifs at h with hpast haudience
    exact ⟨exp, hexp, Nat.le_of_not_lt hpast, Bool.eq_false_iff.mpr haudience⟩

/-- A good token says when it expires, and it has not expired in an earlier second. -/
theorem exp_of_decode {key token : String} {now : Nat} {claims : Claims}
    (h : decode key token now = .ok claims) :
    ∃ exp : Int, claims.exp = some exp ∧ (now : Int) ≤ exp := by
  obtain ⟨hv⟩ := decode_eq_ok h
  obtain ⟨exp, hexp, hnow, haudience⟩ := check_eq_ok hv.check_eq
  exact ⟨exp, exp_eq_of_terms hv.claims_eq hv.terms_eq haudience hexp, Int.ofNat_le.mpr hnow⟩

end Signed
end Gateway
