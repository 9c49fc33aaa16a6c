import Gateway.Proofs.AddressCharacters
import Gateway.Proofs.HeaderFields
import Gateway.Proofs.HeaderTexts
import Gateway.Proofs.TextPieces

/-! # The forwarded chain: which of the addresses that a request has come by are told to a backend -/
namespace Gateway
open Text

theorem IsAddressCharacter.isSolid {c : Char} (h : IsAddressCharacter c) :
    c ≠ ',' ∧ isBlank c = false ∧ 32 ≤ c.toNat ∧ c.toNat < 127 :=
  h.imp (P := fun c => c ≠ ',' ∧ isBlank c = false ∧ 32 ≤ c.toNat ∧ c.toNat < 127) (by decide)

namespace Forwarding
open Headers
variable {h : Headers}

/-- The addresses between the commas of a text, without the blanks around them. -/
def hopsIn (text : String) : List String := ((split ',' text).map trim).filter (!·.isEmpty)

/-- The addresses in the lines of a field, in order. -/
def hops (lines : List Bytes) : List String := (lines.filterMap text?).flatMap hopsIn

theorem hops_append (lines others : List Bytes) :
    hops (lines ++ others) = hops lines ++ hops others := by
  rw [hops, List.filterMap_append, List.flatMap_append, hops, hops]

theorem hops_of_text? {line : Bytes} {text : String} (h : text? line = some text) :
    hops [line] = hopsIn text := by
  rw [hops, List.filterMap_cons_some h, List.filterMap_nil, List.flatMap_singleton]

theorem hopsIn_append_comma (text rest : String) :
    hopsIn (text ++ ", " ++ rest) = hopsIn text ++ hopsIn (" " ++ rest) := by
  have hsplit : split ',' (text ++ ", " ++ rest) = split ',' text ++ split ',' (" " ++ rest) := by
    rw [split, split, split, ← List.map_append, ← splitChars_append_sep, String.toList_append,
      String.toList_append, String.toList_append, List.append_assoc]
    rfl
  rw [hopsIn, hsplit, List.map_append, List.filter_append, hopsIn, hopsIn]

/-- A text without comma is one address, if it is any. -/
theorem hopsIn_of_not_mem {text : String} (h : ',' ∉ text.toList) :
    hopsIn text = [trim text].filter (!·.isEmpty) := by
  rw [hopsIn, split, splitChars_of_not_mem h, List.map_singleton, List.map_singleton,
    String.ofList_toList]

theorem hopsIn_of_allBlank {text : String} (h : allBlank text = true) : hopsIn text = [] := by
  have hcomma : ',' ∉ text.toList := fun hmem => absurd (List.all_eq_true.mp h _ hmem) (by decide)
  rw [hopsIn_of_not_mem hcomma, trim_of_allBlank h]
  rfl

/-- An address is found as it was written. -/
theorem hopsIn_render {ip : Ip} (h : ip.IsAddress) : hopsIn ip.render = [ip.render] := by
  have hsolid := fun c hc => (ip.isAddressText_render c hc).isSolid
  have hne : ip.render ≠ "" := fun hempty => Ip.render_ne_nil h (String.toList_eq_nil_iff.mpr hempty)
  rw [hopsIn_of_not_mem fun hmem => (hsolid _ hmem).1 rfl, trim_eq_self fun c hc => (hsolid c hc).2.1]
  simpa using hne

theorem hopsIn_space_render {ip : Ip} (h : ip.IsAddress) : hopsIn (" " ++ ip.render) = [ip.render] := by
  have hcomma : ',' ∉ (" " ++ ip.render).toList := by
    rw [String.toList_append]
    refine List.not_mem_append (by decide) fun hmem => ?_
    exact (ip.isAddressText_render _ hmem).isSolid.1 rfl
  rw [hopsIn_of_not_mem hcomma, trim_space_append, ← hopsIn_of_not_mem, hopsIn_render h]
  exact fun hmem => (ip.isAddressText_render _ hmem).isSolid.1 rfl

theorem isVisible_render (ip : Ip) : IsVisible ip.render.toList :=
  fun c hc => .inr (ip.isAddressText_render c hc).isSolid.2.2

/-- The first line of the chain, if it can be read. -/
theorem hops_take_one (h : Headers) :
    hops ((h.values "x-forwarded-for").take 1) =
      match h.readable? "x-forwarded-for" with
      | some existing => hopsIn existing
      | none => [] := by
  rw [readable?, first?]
  cases h.values "x-forwarded-for" with
  | nil => rfl
  | cons line lines =>
    rw [List.take_succ_cons, List.take_zero, List.head?_cons, Option.bind_some]
    cases htext : text? line with
    | none => rw [hops, List.filterMap_cons_none htext]; rfl
    | some text => exact hops_of_text? htext

theorem isVisible_chain (h : Headers) (peer : Socket) : IsVisible (chain h peer).toList := by
  have hpeer := isVisible_render peer.ip
  unfold chain
  split
  · next existing hexisting =>
    split_ifs
    · exact hpeer
    · have hcomma : IsVisible ", ".toList := forall_mem_of_all (by decide)
      rw [String.toList_append, String.toList_append]
      exact List.forall_mem_append.mpr
        ⟨List.forall_mem_append.mpr ⟨isVisible_of_readable? hexisting, hcomma⟩, hpeer⟩
  · exact hpeer

/-- The chain is the first line's with the peer at its end. -/
theorem hopsIn_chain (h : Headers) {peer : Socket} (hpeer : peer.ip.IsAddress) :
    hopsIn (chain h peer) =
      hops ((h.values "x-forwarded-for").take 1) ++ [peer.ip.render] := by
  rw [hops_take_one, chain]
  cases h.readable? "x-forwarded-for" with
  | none => rw [hopsIn_render hpeer, List.nil_append]
  | some existing =>
    dsimp only
    split_ifs with hblank
    · rw [hopsIn_of_allBlank hblank, hopsIn_render hpeer, List.nil_append]
    · rw [hopsIn_append_comma, hopsIn_space_render hpeer]

theorem chain_congr {g : Headers}
    (hgh : g.values "x-forwarded-for" = h.values "x-forwarded-for") (peer : Socket) :
    chain g peer = chain h peer := by
  have hreadable : g.readable? "x-forwarded-for" = h.readable? "x-forwarded-for" := by
    rw [readable?, readable?, first?, first?, hgh]
  rw [chain, chain, hreadable]

theorem values_applyForwarding_chain (h : Headers) (peer : Socket) (tls : Bool) :
    (applyForwarding h (some peer) tls).values "x-forwarded-for" = [utf8 (chain h peer)] := by
  have hold : ((setIfAny "x-real-ip" (clientIp h (some peer))
      (setIfAny "x-forwarded-host" (h.readable? "host") h)).set "x-forwarded-proto"
        (protocol h tls)).values "x-forwarded-for" = h.values "x-forwarded-for" := by
    rw [values_set_of_ne (by decide), values_setIfAny_of_ne (by decide),
      values_setIfAny_of_ne (by decide)]
  rw [applyForwarding]
  dsimp only
  rw [chain_congr hold, Headers.set, if_pos (isLegal_of_isVisible (isVisible_chain h peer)),
    values_insert_self]

/-- A backend is told one chain. It is the one of the first line that came in, with the peer at its
end, and so it has every address that came in exactly if the other lines had none. -/
theorem chain_of_first_line (h : Headers) {peer : Socket} (hpeer : peer.ip.IsAddress) (tls : Bool) :
    ∃ line, (applyForwarding h (some peer) tls).values "x-forwarded-for" = [line] ∧
      hops [line] = hops ((h.values "x-forwarded-for").take 1) ++ [peer.ip.render] ∧
      (hops [line] = hops (h.values "x-forwarded-for") ++ [peer.ip.render] ↔
        hops ((h.values "x-forwarded-for").drop 1) = []) := by
  have hline : hops [utf8 (chain h peer)] =
      hops ((h.values "x-forwarded-for").take 1) ++ [peer.ip.render] := by
    rw [hops_of_text? (text?_eq_some_iff.mpr ⟨rfl, isVisible_chain h peer⟩), hopsIn_chain h hpeer]
  refine ⟨_, values_applyForwarding_chain h peer tls, hline, ?_⟩
  have hall := hops_append ((h.values "x-forwarded-for").take 1) ((h.values "x-forwarded-for").drop 1)
  rw [List.take_append_drop] at hall
  rw [hline, hall, List.append_left_inj, List.self_eq_append_right]

/-- A peer on a local network. -/
def nearPeer : Socket := ⟨.v4 [10, 0, 0, 2], 4000⟩

theorem isAddress_nearPeer : nearPeer.ip.IsAddress := ⟨rfl, by decide⟩

/-- The lines of one chain. -/
def chained (lines : List String) : Headers :=
  ⟨lines.map fun line => ("x-forwarded-for", utf8 line)⟩

/-- Nothing is lost with a second line that has no address. -/
theorem chain_beside_bare_line : nearPeer.ip.IsAddress ∧
    ∃ line, (applyForwarding (chained ["1.1.1.1,\t, ::1", " , "]) (some nearPeer) false).values
        "x-forwarded-for" = [line] ∧
      hops [line] = hops ((chained ["1.1.1.1,\t, ::1", " , "]).values "x-forwarded-for") ++
        [nearPeer.ip.render] := by
  obtain ⟨line, hline, -, hall⟩ :=
    chain_of_first_line (chained ["1.1.1.1,\t, ::1", " , "]) isAddress_nearPeer false
  exact ⟨isAddress_nearPeer, line, hline, hall.mpr (by decide +kernel)⟩

/-- A second line with an address is lost, readable as it is. -/
theorem chain_loses_second_line :
    (∀ line ∈ (chained ["1.1.1.1", "2.2.2.2"]).values "x-forwarded-for",
      (text? line).isSome = true) ∧
    nearPeer.ip.IsAddress ∧
    (applyForwarding (chained ["1.1.1.1", "2.2.2.2"]) (some nearPeer) false).values
      "x-forwarded-for" = [utf8 "1.1.1.1, 10.0.0.2"] ∧
    hops [utf8 "1.1.1.1, 10.0.0.2"] ≠
      hops ((chained ["1.1.1.1", "2.2.2.2"]).values "x-forwarded-for") ++ [nearPeer.ip.render] :=
  ⟨by decide +kernel, isAddress_nearPeer, by decide +kernel, by decide +kernel⟩

end Forwarding
end Gateway
