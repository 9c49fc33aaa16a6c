import Gateway.Proofs.WebTargets
import Mathlib.Data.List.TakeWhile

/-! # Readings of URIs: the forms of a request's target, and where an authority ends -/
namespace Gateway
open Text

namespace Text

/-- A beginning that passes a test is cut off as a whole, where what follows it starts by failing. -/
theorem cut_append {p : Char → Bool} {cs rest : List Char} (hcs : ∀ c ∈ cs, p c = true)
    (hrest : ∀ c, rest.head? = some c → p c = false) :
    (cs ++ rest).takeWhile p = cs ∧ (cs ++ rest).dropWhile p = rest := by
  rw [List.takeWhile_append_of_pos hcs, List.dropWhile_append_of_pos hcs]
  cases rest with
  | nil => exact ⟨List.append_nil cs, rfl⟩
  | cons c rest =>
    have hc : ¬p c = true := by rw [hrest c rfl]; exact Bool.false_ne_true
    rw [List.takeWhile_cons_of_neg hc, List.dropWhile_cons_of_neg hc, List.append_nil]
    exact ⟨rfl, rfl⟩

end Text

namespace Uri

theorem not_endsPath (c : Char) : (c != '?' && c != '#') = !Url.endsPath c := by
  rw [Url.endsPath, Bool.not_or]
  rfl

/-- The text of a query after its path. -/
def queryText : Option String → List Char
  | some q => '?' :: q.toList
  | none => []

/-- The query after a path, up to a number sign. -/
def queryAfter : List Char → Option String
  | '?' :: rest => some (String.ofList (rest.takeWhile (· != '#')))
  | _ => none

theorem queryAfter_eq_none {cs : List Char} (h : ∀ rest, cs ≠ '?' :: rest) :
    queryAfter cs = none := by
  unfold queryAfter
  split
  · next rest => exact absurd rfl (h rest)
  · rfl

theorem readTail_eq_ok {cs : List Char} {path : String} {query : Option String}
    (h : readTail cs = .ok (path, query)) : path.toList = cs.takeWhile (!Url.endsPath ·) ∧
      query = queryAfter (cs.dropWhile (!Url.endsPath ·)) := by
  simp only [readTail, not_endsPath] at h
  split_ifs at h
  split at h
  · next rest hrest =>
    split_ifs at h
    cases h
    rw [hrest]
    exact ⟨String.toList_ofList, rfl⟩
  · next hrest =>
    cases h
    exact ⟨String.toList_ofList, (queryAfter_eq_none hrest).symm⟩

/-- A text that can be a query as it is. -/
def IsQueryText (cs : List Char) : Prop := ∀ c ∈ cs, isQueryCharacter c = true

/-- What is read of a path and of a query has their characters alone. -/
theorem isPathText_of_readTail {cs : List Char} {path : String} {query : Option String}
    (h : readTail cs = .ok (path, query)) :
    Url.IsPathText path.toList ∧ ∀ q, query = some q → IsQueryText q.toList := by
  unfold readTail at h
  dsimp only at h
  split_ifs at h with hpath
  rw [Bool.not_eq_true', Bool.not_eq_false, List.all_eq_true] at hpath
  split at h
  · split_ifs at h with hquery
    cases h
    rw [String.toList_ofList]
    refine ⟨hpath, fun q hq => ?_⟩
    cases hq
    rw [String.toList_ofList]
    exact List.all_eq_true.mp hquery
  · cases h
    rw [String.toList_ofList]
    exact ⟨hpath, fun q hq => nomatch hq⟩

/-- A query ends before a number sign. -/
theorem not_mem_of_readTail {cs : List Char} {path q : String}
    (h : readTail cs = .ok (path, some q)) : '#' ∉ q.toList := by
  have hquery := (readTail_eq_ok h).2
  unfold queryAfter at hquery
  split at hquery
  · cases hquery
    rw [String.toList_ofList]
    exact fun hmem => absurd (List.mem_takeWhile_imp hmem) (by decide)
  · cases hquery

theorem staysInPath_of_readTail {cs : List Char} {path : String} {query : Option String}
    (h : readTail cs = .ok (path, query)) : Url.StaysInPath path.toList := by
  intro c hc
  rw [(readTail_eq_ok h).1] at hc
  have hin := List.mem_takeWhile_imp (p := (!Url.endsPath ·)) hc
  exact (Bool.not_eq_true' _).mp hin

/-- A path ends where its query starts. -/
theorem cut_queryText {path : List Char} (hpath : Url.StaysInPath path) (query : Option String) :
    (path ++ queryText query).takeWhile (!Url.endsPath ·) = path ∧
      (path ++ queryText query).dropWhile (!Url.endsPath ·) = queryText query := by
  refine cut_append (p := (!Url.endsPath ·)) (fun c hc => (Bool.not_eq_true' _).mpr (hpath c hc)) ?_
  cases query with
  | none => exact fun c hc => nomatch hc
  | some q =>
    intro c hc
    cases hc
    rfl

theorem takeWhile_query {q : String} (h : '#' ∉ q.toList) :
    q.toList.takeWhile (· != '#') = q.toList := by
  refine List.takeWhile_eq_self_iff.mpr fun c hc => bne_iff_ne.mpr ?_
  rintro rfl
  exact h hc

/-- A path and a query are read as they were written. -/
theorem readTail_append {path : List Char} {query : Option String} (hpath : Url.StaysInPath path)
    (hquery : ∀ q, query = some q → '#' ∉ q.toList) {tail : String} {found : Option String}
    (h : readTail (path ++ queryText query) = .ok (tail, found)) :
    tail = String.ofList path ∧ found = query := by
  obtain ⟨htake, hdrop⟩ := cut_queryText hpath query
  obtain ⟨htail, hfound⟩ := readTail_eq_ok h
  rw [htake] at htail
  rw [hdrop] at hfound
  refine ⟨String.toList_inj.mp (htail.trans String.toList_ofList.symm), ?_⟩
  cases query with
  | none => exact hfound
  | some q =>
    rw [hfound]
    show some (String.ofList (q.toList.takeWhile (· != '#'))) = some q
    rw [takeWhile_query (hquery q rfl), String.ofList_toList]

/-- A path and a query that have their characters alone can be read. -/
theorem readTail_of_isPathText {path : List Char} {query : Option String}
    (hpath : Url.IsPathText path) (hquery : ∀ q, query = some q → IsQueryText q.toList) :
    readTail (path ++ queryText query) = .ok (String.ofList path, query) := by
  obtain ⟨htake, hdrop⟩ := cut_queryText hpath.staysInPath query
  have hall : path.all isPathCharacter = true := List.all_eq_true.mpr hpath
  simp only [readTail, not_endsPath, htake, hdrop, hall, Bool.not_true, Bool.false_eq_true, if_false]
  cases query with
  | none => rfl
  | some q =>
    have hmark : '#' ∉ q.toList := fun hmem => absurd (hquery q rfl '#' hmem) (by decide)
    simp only [queryText]
    rw [takeWhile_query hmark, if_pos (List.all_eq_true.mpr (hquery q rfl)), String.ofList_toList]

theorem readFull_eq_ok {cs : List Char} {u : Uri} (h : readFull cs = .ok u) :
    ∃ scheme rest, cutScheme cs = .ok (scheme, rest) ∧ u.scheme = scheme ∧
      u.authority = some (String.ofList (rest.takeWhile (!endsAuthority ·))) ∧
      (scheme = none ∧ u.tail = "" ∧ u.query = none ∨ scheme.isSome = true ∧
        readTail (rest.dropWhile (!endsAuthority ·)) = .ok (u.tail, u.query)) := by
  obtain ⟨⟨scheme, rest⟩, hcut, h⟩ := chain_eq_ok_iff.mp h
  obtain ⟨_, -, h⟩ := chain_eq_ok_iff.mp h
  refine ⟨scheme, rest, hcut, ?_⟩
  cases scheme with
  | none =>
    dsimp only at h
    split_ifs at h
    cases h
    exact ⟨rfl, rfl, .inl ⟨rfl, rfl, rfl⟩⟩
  | some scheme =>
    dsimp only at h
    split_ifs at h
    obtain ⟨⟨path, query⟩, htail, h⟩ := chain_eq_ok_iff.mp h
    cases h
    exact ⟨rfl, rfl, .inr ⟨rfl, htail⟩⟩

/-- The three ways to read a text: as an asterisk, as a path, or from its scheme or authority on. -/
theorem read_eq_ok {s : String} {u : Uri} (h : read s = .ok u) :
    (s.toList = ['*'] ∧ u = ⟨none, none, "*", none⟩) ∨
      (∃ cs, s.toList = '/' :: cs ∧ u.scheme = none ∧ u.authority = none ∧
        readTail s.toList = .ok (u.tail, u.query)) ∨
      readFull s.toList = .ok u := by
  unfold read at h
  dsimp only at h
  split_ifs at h
  · obtain ⟨_, h, -⟩ := chain_eq_ok_iff.mp h
    cases h
  split at h
  · cases h
  · next hs =>
    cases h
    exact .inl ⟨hs, rfl⟩
  · cases h
  · cases h
  · next cs hs =>
    obtain ⟨⟨path, query⟩, htail, h⟩ := chain_eq_ok_iff.mp h
    cases h
    exact .inr (.inl ⟨cs, hs, rfl, rfl, hs ▸ htail⟩)
  · exact .inr (.inr h)

theorem cutScheme_web {scheme : String} (h : scheme = "http" ∨ scheme = "https")
    (rest : List Char) :
    cutScheme (scheme.toList ++ ("://".toList ++ rest)) = .ok (some scheme, rest) := by
  rcases h with rfl | rfl
  all_goals rfl

/-- A URI of the web is read if its authority can be, provided that there is something in it and that
the tail can be read. -/
theorem readFull_web {scheme : String} {place tail : List Char} {path : String}
    {query : Option String} (hscheme : scheme = "http" ∨ scheme = "https")
    (hplace : ∀ c ∈ place, endsAuthority c = false)
    (htail : ∀ c, tail.head? = some c → endsAuthority c = true) (hne : place ≠ [])
    (hread : readTail tail = .ok (path, query)) :
    readFull (scheme.toList ++ ("://".toList ++ (place ++ tail))) =
      (checkAuthority place).map fun _ =>
        ⟨some scheme, some (String.ofList place), path, query⟩ := by
  obtain ⟨htake, hdrop⟩ := cut_append (p := (!endsAuthority ·))
    (fun c hc => (Bool.not_eq_true' _).mpr (hplace c hc))
    (fun c hc => (Bool.not_eq_false' _).mpr (htail c hc))
  have hempty : place.isEmpty = false := List.isEmpty_eq_false_iff.mpr hne
  simp only [readFull, cutScheme_web hscheme, bind, Except.bind, htake, hdrop]
  cases checkAuthority place with
  | error e => rfl
  | ok _ =>
    simp only [hempty, hread]
    rfl

/-- A text of the web is read from its scheme on. -/
theorem read_eq_readFull {s scheme : String} {rest : List Char}
    (hscheme : scheme = "http" ∨ scheme = "https") (hs : s.toList = scheme.toList ++ rest)
    (hlength : s.utf8ByteSize ≤ maxLength) : read s = readFull s.toList := by
  have hhead : ∃ cs, s.toList = 'h' :: cs := by
    rw [hs]
    rcases hscheme with rfl | rfl
    · exact ⟨_, rfl⟩
    · exact ⟨_, rfl⟩
  obtain ⟨cs, hcs⟩ := hhead
  rw [read, if_neg (Nat.not_lt.mpr hlength), hcs]
  rfl

/-- A URI of the web: its authority goes as far as nothing ends it, and all else is its tail. -/
theorem read_web {s scheme : String} {place tail : List Char} {u : Uri}
    (hscheme : scheme = "http" ∨ scheme = "https")
    (hs : s.toList = scheme.toList ++ ("://".toList ++ (place ++ tail)))
    (hplace : ∀ c ∈ place, endsAuthority c = false)
    (htail : ∀ c, tail.head? = some c → endsAuthority c = true) (h : read s = .ok u) :
    u.scheme = some scheme ∧ u.authority = some (String.ofList place) ∧
      readTail tail = .ok (u.tail, u.query) := by
  have hhead : s.toList.head? = some 'h' := by
    rw [hs]
    rcases hscheme with rfl | rfl <;> rfl
  have hfull : readFull s.toList = .ok u := by
    rcases read_eq_ok h with ⟨hone, -⟩ | ⟨cs, hslash, -⟩ | hfull
    · rw [hone] at hhead
      cases hhead
    · rw [hslash] at hhead
      cases hhead
    · exact hfull
  obtain ⟨found, rest, hcut, hfound, hauthority, hrest⟩ := readFull_eq_ok hfull
  rw [hs, cutScheme_web hscheme] at hcut
  cases hcut
  obtain ⟨htake, hdrop⟩ := cut_append (p := (!endsAuthority ·))
    (fun c hc => (Bool.not_eq_true' _).mpr (hplace c hc))
    (fun c hc => (Bool.not_eq_false' _).mpr (htail c hc))
  rw [htake] at hauthority
  rw [hdrop] at hrest
  rcases hrest with ⟨hnone, -⟩ | ⟨-, hrest⟩
  · cases hnone
  · exact ⟨hfound, hauthority, hrest⟩

/-- What a request can ask for: the server as a whole, nothing but a place, or a path there. -/
inductive Form (u : Uri) : Prop
  | asterisk (path : u.path = "*") (query : u.query = none)
  | authority (path : u.path = "") (query : u.query = none)
  | path (path : Url.IsPath u.path.toList) (query : ∀ q, u.query = some q → '#' ∉ q.toList)

theorem endsAuthority_eq (c : Char) : endsAuthority c = (c == '/' || Url.endsPath c) :=
  Bool.or_assoc _ _ _

/-- Between an authority and a query there is a path, or nothing. -/
theorem isPath_of_readTail {cs : List Char} {path : String} {query : Option String}
    (h : readTail cs = .ok (path, query)) (hcs : ∀ c, cs.head? = some c → endsAuthority c = true)
    (hne : path ≠ "") : Url.IsPath path.toList := by
  refine ⟨?_, staysInPath_of_readTail h⟩
  have hpath := (readTail_eq_ok h).1
  have hnil : path.toList ≠ [] := fun hnil => hne (String.toList_eq_nil_iff.mp hnil)
  cases cs with
  | nil => exact absurd hpath hnil
  | cons c cs =>
    rw [hpath, List.takeWhile_cons] at hnil
    rw [hpath, List.takeWhile_cons]
    split_ifs at hnil ⊢ with hc
    · have hends : endsAuthority c = true := hcs c rfl
      rw [endsAuthority_eq, (Bool.not_eq_true' _).mp hc, Bool.or_false, beq_iff_eq] at hends
      rw [hends, List.head?_cons]
    · exact absurd rfl hnil

theorem path_of_ne {u : Uri} (h : u.tail ≠ "") : u.path = u.tail := by
  rw [path, String.isEmpty_eq_false_iff.mpr h, Bool.false_and]
  rfl

theorem path_of_isSome {u : Uri} (h : u.scheme.isSome = true) :
    u.path = if u.tail.isEmpty then "/" else u.tail := by
  rw [path, h, Bool.true_or, Bool.and_true]

/-- Every text that can be read asks in one of these forms. -/
theorem form_of_read {s : String} {u : Uri} (h : read s = .ok u) : u.Form := by
  rcases read_eq_ok h with ⟨-, rfl⟩ | ⟨cs, hs, -, -, htail⟩ | hfull
  · exact .asterisk rfl rfl
  -- A path from a slash on.
  · have hslash : ∀ c, s.toList.head? = some c → endsAuthority c = true := by
      rw [hs]
      intro c hc
      cases hc
      rfl
    have hne : u.tail ≠ "" := by
      intro hempty
      have hpath := (readTail_eq_ok htail).1
      rw [hs, hempty] at hpath
      cases hpath
    refine .path ?_ fun q hq => not_mem_of_readTail (hq ▸ htail)
    rw [path_of_ne hne]
    exact isPath_of_readTail htail hslash hne
  · obtain ⟨scheme, rest, -, hscheme, -, htail⟩ := readFull_eq_ok hfull
    rcases htail with ⟨hnone, htail, hquery⟩ | ⟨hsome, htail⟩
    · refine .authority ?_ hquery
      rw [path, htail, hscheme, hnone, hquery]
      rfl
    · have hends : ∀ c, (rest.dropWhile (!endsAuthority ·)).head? = some c →
          endsAuthority c = true := by
        intro c hc
        have hstop := List.head?_dropWhile_not (!endsAuthority ·) rest
        rw [hc] at hstop
        exact (Bool.not_eq_false' _).mp hstop
      refine .path ?_ fun q hq => not_mem_of_readTail (hq ▸ htail)
      rw [path_of_isSome (hscheme ▸ hsome)]
      split_ifs with hempty
      · exact Url.isPath_root
      · exact isPath_of_readTail htail hends fun h => hempty (String.isEmpty_iff.mpr h)

end Uri
end Gateway
