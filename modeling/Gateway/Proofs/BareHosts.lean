import Gateway.Proofs.Validated
import Gateway.Url.Reader
import Mathlib.Data.List.TakeWhile

/-! # Bare hosts: how a URL is read that names nothing but a host, of one character at the least -/
namespace Gateway
open Text

namespace Unicode.Normal

theorem le_first_classesFrom {start : Nat} {ns : List Nat} :
    ∀ r ∈ classesFrom start ns, start ≤ r.1.first := by
  induction start, ns using classesFrom.induct with
  | case1 start gap more k rest ih =>
    rw [classesFrom]
    refine List.forall_mem_cons.mpr ⟨Nat.le_add_right start gap, fun r hr => ?_⟩
    have hfirst := ih r hr
    omega
  | case2 start ns hns =>
    rw [classesFrom]
    · exact fun r hr => nomatch hr
    · exact hns

/-- All classes come after the first gap. -/
theorem gap_le_first_classesFrom {gap : Nat} {ns : List Nat} :
    ∀ r ∈ classesFrom 0 (gap :: ns), gap ≤ r.1.first := by
  match ns with
  | [] => exact fun r hr => nomatch hr
  | [more] => exact fun r hr => nomatch hr
  | more :: k :: rest =>
    rw [classesFrom]
    refine List.forall_mem_cons.mpr ⟨Nat.le_add_left _ _, fun r hr => ?_⟩
    have hfirst := le_first_classesFrom r hr
    omega

theorem take_one_combiningClasses : (numbers combiningClasses).take 1 = [0x300] := rfl

theorem le_first_classes : ∀ r ∈ classes, 0x300 ≤ r.1.first := by
  have hsplit := List.take_append_drop 1 (numbers combiningClasses)
  rw [take_one_combiningClasses] at hsplit
  rw [classes, ← hsplit, List.singleton_append]
  exact gap_le_first_classesFrom

/-- What comes before the first mark starts a new unit. -/
theorem combiningClass_of_lt {n : Nat} (h : n < 0x300) : combiningClass n = 0 := by
  have hnone : classes.find? (fun r => r.1.first ≤ n && n ≤ r.1.last) = none := by
    rw [List.find?_eq_none]
    intro r hr
    have hfirst := le_first_classes r hr
    simp only [Bool.and_eq_true, decide_eq_true_eq, not_and, Nat.not_le]
    omega
  -- The table must not be looked through, which other ways to unfold try.
  delta combiningClass
  rw [hnone]

theorem order_singleton {n : Nat} (h : n < 0x300) : order [] [n] = [n] := by
  have hsorted : order.sorted [] = [] := by rw [order.sorted, List.mergeSort_nil, List.map_nil]
  unfold order
  rw [if_pos (combiningClass_of_lt h), order, hsorted, List.nil_append]

theorem recompose_singleton {n : Nat} (h : n < 0x300) : recompose none [] 0 [n] = [n] := by
  unfold recompose
  exact if_pos (combiningClass_of_lt h)

theorem decompose_of_lt (fuel : Nat) {n : Nat} (h : n < 0xC0) : decompose (fuel + 1) n = [n] := by
  unfold decompose
  exact if_pos h

theorem compose_singleton {c : Char} (h : c.toNat < 0xC0) : compose [c] = [c] := by
  have hn : c.toNat < 0x300 := by omega
  rw [compose, List.flatMap_singleton, decompose_of_lt 7 h, order_singleton hn,
    recompose_singleton hn, List.map_singleton, Char.ofNat_toNat]

end Unicode.Normal

namespace Idna
open Unicode

/-- A character of ASCII that a name may hold is a name in its ASCII form. -/
theorem toAscii?_singleton {c : Char} (h : c.toNat < 128) (hlower : c.toLower = c) (hdot : c ≠ '.')
    (hforbidden : isForbidden c = false) (hleft : isRightToLeft [c] = false) :
    toAscii? [c] = some [c] := by
  have hspelled : [c].mapM spell? = some [[c]] := by simp [spell?, h, hlower]
  have hcomposed := Normal.compose_singleton (show c.toNat < 0xC0 by omega)
  have hpieces : splitChars '.' [c] = [[c]] := by
    rw [splitChars, if_neg hdot]
    rfl
  have hlabels : [[c]].mapM unicodeLabel? = some [[c]] := by
    simp [unicodeLabel?, isAscii, h, hforbidden, asciiMark]
  simp [toAscii?, hspelled, hcomposed, hpieces, hlabels, hleft, asciiLabel, isAscii, h]

theorem isRightToLeft_brace : isRightToLeft ['\x7b'] = false := by decide +kernel

end Idna

namespace Url
variable {cs : List Char}

/-- A name that is no number is a host, once it is in its ASCII form. -/
theorem readDomain_of_toAscii? {s : String} {name : List Char}
    (hdecoded : ofUtf8? (Percent.decode (utf8 (String.ofList cs))) = some s)
    (hname : Idna.toAscii? s.toList = some name) (hne : name ≠ [])
    (hnumber : Address.endsInNumber name = false) :
    readDomain cs = .ok (.domain (String.ofList name)) := by
  obtain ⟨c, name, rfl⟩ := List.exists_cons_of_ne_nil hne
  simp only [readDomain, hdecoded, Option.bind_some, hname, hnumber, Bool.false_eq_true, if_false]

theorem readHost_of_bracketed? (h : bracketed? cs = .ok none) : readHost cs = readDomain cs := by
  rw [readHost, h]
  rfl

theorem readPort_nil (scheme : String) : readPort scheme [] = .ok none := by
  simp [readPort, decimal]

/-- An authority without a user and a port. -/
theorem readAuthority_of_readHost {host : Host} (scheme : String) (hne : cs ≠ [])
    (huser : cutUser cs = (none, cs)) (hcut : cutHost false cs = (cs, []))
    (hhost : readHost cs = .ok host) :
    readAuthority scheme .web cs = .ok ⟨"", none, some host, none⟩ := by
  have hempty : cs.isEmpty = false := List.isEmpty_eq_false_iff.mpr hne
  have hweb : Kind.web.isSpecial = true := rfl
  simp only [readAuthority, huser, hcut, hweb, if_true, hempty, hhost, List.drop_nil, readPort_nil]
  rfl

/-- A URL ends with its host if nothing in it ends an authority. -/
theorem readWithAuthority_of_readHost {host : Host} (scheme : String) (hne : cs ≠ [])
    (hends : cs.all (!endsAuthority true ·) = true) (huser : cutUser cs = (none, cs))
    (hcut : cutHost false cs = (cs, [])) (hhost : readHost cs = .ok host) :
    readWithAuthority scheme .web cs =
      .ok ⟨scheme, some ⟨"", none, some host, none⟩, "/", none, none⟩ := by
  have hweb : Kind.web.isSpecial = true := rfl
  rw [List.all_eq_true] at hends
  simp only [readWithAuthority, hweb, List.takeWhile_eq_self_iff.mpr hends,
    List.dropWhile_eq_nil_iff.mpr hends, List.isEmpty_nil, Bool.not_true, Bool.and_false,
    Bool.false_eq_true, if_false, readAuthority_of_readHost scheme hne huser hcut hhost]
  rfl

/-- A URL of the web that names nothing but a host. -/
theorem read_of_readHost {s scheme : String} {host : Host}
    (hscheme : cutScheme? (clean s.toList) = some (scheme, '/' :: '/' :: cs))
    (hweb : Kind.ofScheme scheme = .web) (hne : cs ≠ [])
    (hends : cs.all (!endsAuthority true ·) = true) (huser : cutUser cs = (none, cs))
    (hcut : cutHost false cs = (cs, [])) (hhost : readHost cs = .ok host) :
    read s = .ok ⟨scheme, some ⟨"", none, some host, none⟩, "/", none, none⟩ := by
  have hslashes : ('/' :: '/' :: cs).dropWhile (isSlash true) = cs := by
    obtain ⟨c, rest, rfl⟩ := List.exists_cons_of_ne_nil hne
    have hc : endsAuthority true c = false := by
      rw [List.all_cons, Bool.and_eq_true, Bool.not_eq_true'] at hends
      exact hends.1
    simp only [endsAuthority, Bool.or_eq_false_iff] at hc
    have hslash : isSlash true '/' = true := rfl
    rw [List.dropWhile_cons_of_pos hslash, List.dropWhile_cons_of_pos hslash,
      List.dropWhile_cons_of_neg (ne_true_of_eq_false hc.1.1)]
  simp only [read, hscheme, hweb, hslashes]
  exact readWithAuthority_of_readHost scheme hne hends huser hcut hhost

/-- A brace names a host. -/
theorem readHost_brace : readHost ['\x7b'] = .ok (.domain "\x7b") := by
  have hdecoded : ofUtf8? (Percent.decode (utf8 (String.ofList ['\x7b']))) = some "\x7b" := by
    decide +kernel
  have hname : Idna.toAscii? "\x7b".toList = some ['\x7b'] :=
    Idna.toAscii?_singleton (by decide) (by decide) (by decide) (by decide)
      Idna.isRightToLeft_brace
  rw [readHost_of_bracketed? rfl]
  exact readDomain_of_toAscii? hdecoded hname (List.cons_ne_nil _ _) rfl

end Url
end Gateway
