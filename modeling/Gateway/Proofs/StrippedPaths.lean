import Gateway.Dispatch
import Gateway.Proofs.Resolution

/-! # Stripped paths: a prefix comes off a path in whole segments -/
namespace Gateway
open Text

namespace Text
variable {sep c : Char} {cs : List Char}

/-- Only a text that starts with the separator, or an empty one, has an empty first piece. -/
theorem head?_of_splitChars {rest : List (List Char)} (h : splitChars sep cs = [] :: rest)
    (hc : cs.head? = some c) : c = sep := by
  cases cs with
  | nil => cases hc
  | cons a cs =>
    cases hc
    by_contra hne
    obtain ⟨piece, pieces, hcs⟩ := List.exists_cons_of_ne_nil (splitChars_ne_nil sep cs)
    rw [splitChars, if_neg hne, hcs] at h
    cases h

/-- Only a text that ends with the separator, or an empty one, has an empty last piece. -/
theorem getLast?_of_splitChars {whole : List (List Char)} (h : splitChars sep cs = whole ++ [[]])
    (hc : cs.getLast? = some c) : c = sep := by
  obtain ⟨front, rfl⟩ := List.getLast?_eq_some_iff.mp hc
  by_contra hne
  have hone : splitChars sep [c] = [[c]] := by simp [splitChars, hne]
  obtain ⟨before, last, first, rest, -, hlast, hboth⟩ := splitChars_append sep front [c]
  rw [hone] at hlast
  cases hlast
  obtain ⟨-, hpiece⟩ := List.append_inj' (h.symm.trans hboth) rfl
  simp at hpiece

end Text

theorem segments_ofList (cs : List Char) : segments (String.ofList cs) =
    ((splitChars '/' cs).filter (!·.isEmpty)).map String.ofList := by
  rw [segments, String.toList_ofList]

theorem segments_slash (cs : List Char) :
    segments (String.ofList ('/' :: cs)) = segments (String.ofList cs) := by
  rw [segments_ofList, segments_ofList, splitChars, if_pos rfl]
  rfl

/-- Slashes in front of a path make no segments. -/
theorem segments_dropWhile_slash (cs : List Char) :
    segments (String.ofList (cs.dropWhile (· == '/'))) = segments (String.ofList cs) := by
  induction cs with
  | nil => rfl
  | cons c cs ih =>
    by_cases hc : c = '/'
    · subst hc
      rw [segments_slash, ← ih]
      rfl
    · rw [List.dropWhile_cons_of_neg (by simpa using hc)]

/-- Where a path starts with a prefix, in characters and in segments, the segments of the path are
those of the prefix and those of the rest, and the two do not meet inside a segment. -/
theorem segments_append_of_isPrefix {pre rest : List Char}
    (h : segments (String.ofList pre) <+: segments (String.ofList (pre ++ rest))) :
    segments (String.ofList (pre ++ rest)) =
        segments (String.ofList pre) ++ segments (String.ofList rest) ∧
      ∀ c d, pre.getLast? = some c → rest.head? = some d → c = '/' ∨ d = '/' := by
  obtain ⟨whole, last, first, others, hpre, hrest, hboth⟩ := splitChars_append '/' pre rest
  simp only [segments_ofList, hpre, hrest, hboth, List.filter_append, List.map_append] at h ⊢
  cases last with
  | nil => exact ⟨by simp, fun c d hc _ => Or.inl (getLast?_of_splitChars hpre hc)⟩
  | cons a last =>
    -- The prefix ends inside a segment or with it, and that segment is one of the path too.
    have hsame : String.ofList (a :: last) = String.ofList (a :: last ++ first) := by
      simpa using (List.prefix_append_right_inj _).mp h
    obtain rfl : first = [] := by simpa using String.ofList_inj.mp hsame
    exact ⟨by simp, fun c d _ hd => Or.inr (head?_of_splitChars hrest hd)⟩

namespace Forwarding

/-- A path that starts with a prefix, without it. -/
theorem stripPrefix_append (pre rest : List Char) :
    stripPrefix (String.ofList (pre ++ rest)) (String.ofList pre) =
      String.ofList ('/' :: rest.dropWhile (· == '/')) := by
  have hpre : pre.isPrefixOf (pre ++ rest) = true :=
    List.isPrefixOf_iff_prefix.mpr (List.prefix_append pre rest)
  rw [stripPrefix, String.toList_ofList, String.toList_ofList]
  simp only [hpre, if_true, List.drop_left]

/-- Taking off a prefix that is one of bytes only can cut a segment. -/
example : stripPrefix "/apiv2/x" "/api" = "/v2/x" := by decide +kernel

end Forwarding

theorem Snapshot.Holds.serves_of_resolve {s : Snapshot} {m : Contents} (h : s.Holds m)
    {ps : Patterns} {l : Lookup} {r : Route} (hr : s.resolve ps l = some r) : r.Serves ps l := by
  rw [resolve_eq_find?] at hr
  have hmem := List.mem_of_find?_eq_some hr
  have hadmits := List.find?_some hr
  exact ((h.mem_tried_and_admits_iff ps l r).mp ⟨hmem, hadmits⟩).2

namespace Operation
open Forwarding

/-- After any history of a table, a route that is found for a request and strips its prefix takes
whole segments off the path, those of the prefix, and leaves one slash in front of the others. -/
theorem stripped_after (ops : List Operation) (ps : Patterns) (l : Lookup) {r : Route} {p : String}
    (hr : (after ops).resolve ps l = some r) (hp : r.pathPrefix = some p)
    (hstrip : r.stripPrefix = true) :
    Dispatch.forwardPath r l.path = stripPrefix l.path p ∧
    (∃ rest, (stripPrefix l.path p).toList = '/' :: rest ∧ rest.head? ≠ some '/') ∧
    segments (stripPrefix l.path p) = (segments l.path).drop (segments p).length ∧
    segments p <+: segments l.path ∧
    ∃ rest, p.toList ++ rest = l.path.toList ∧
      ∀ c d, p.toList.getLast? = some c → rest.head? = some d → c = '/' ∨ d = '/' := by
  have hserves := (holds_after ops).serves_of_resolve hr
  have hsegments := hserves.segments p hp
  obtain ⟨rest, hrest⟩ := (utf8_isPrefix_iff p l.path).mp (hserves.bytes p hp)
  have hpath : l.path = String.ofList (p.toList ++ rest) := by rw [hrest, String.ofList_toList]
  have hpre : p = String.ofList p.toList := String.ofList_toList.symm
  have hstripped : stripPrefix l.path p = String.ofList ('/' :: rest.dropWhile (· == '/')) := by
    rw [hpath, hpre, String.toList_ofList, stripPrefix_append]
  rw [hpath, hpre, String.toList_ofList] at hsegments
  obtain ⟨hsplit, hcut⟩ := segments_append_of_isPrefix hsegments
  refine ⟨?_, ⟨rest.dropWhile (· == '/'), ?_, ?_⟩, ?_, hserves.segments p hp, rest, hrest, hcut⟩
  · rw [Dispatch.forwardPath, hp]
    simp only [hstrip, if_true]
  · rw [hstripped, String.toList_ofList]
  · intro hhead
    have := List.head?_dropWhile_not (· == '/') rest
    simp [hhead] at this
  · rw [hstripped, segments_slash, segments_dropWhile_slash, hpath, hsplit, ← hpre,
      List.drop_left]

/-- A route that strips a prefix with a slash at its end. -/
def strippingRoute : Route :=
  { Route.plain "api" ⟨none, some "/api/", none, none⟩ with stripPrefix := true }

theorem stripped_after_load :
    (after [load [strippingRoute]]).resolve (fun _ => none) ⟨none, "/api//v1//x", "GET"⟩ =
        some strippingRoute ∧
      segments (stripPrefix "/api//v1//x" "/api/") = ["v1", "x"] := by
  have hvalid : strippingRoute.IsValidated :=
    ⟨⟨"api", none, ⟨none, some "/api/", none, []⟩, none, none, "http://[::1]", true, none, 0⟩, rfl⟩
  have hserves : strippingRoute.Serves (fun _ => none) ⟨none, "/api//v1//x", "GET"⟩ := by
    refine ⟨(fun _ h => nomatch h), fun p hp => ?_, fun p hp => ?_, (fun _ h => nomatch h),
      (fun _ h => nomatch h)⟩
    · cases hp
      decide +kernel
    · cases hp
      decide +kernel
  have hr := Snapshot.resolve_build_singleton hvalid hserves
  obtain ⟨-, -, hsegments, -⟩ := stripped_after [load [strippingRoute]] _ _ hr rfl rfl
  exact ⟨hr, hsegments.trans (by decide +kernel)⟩

end Operation
end Gateway
