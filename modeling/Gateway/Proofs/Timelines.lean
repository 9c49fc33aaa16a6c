import Gateway.Duration
import Mathlib.Data.List.Basic

/-! # Timelines: clocks that move on, and records kept in the order in which they were made -/
namespace Gateway

/-- What can happen to the clocks. -/
inductive Tick
  /-- Time passes on both. -/
  | pass (span : Duration)
  /-- The date is put right, forward or back. The steady clock knows nothing of it. -/
  | adjust (date : Duration)
  deriving DecidableEq, Repr

namespace Moment

def tick (m : Moment) : Tick → Moment
  | .pass span => m.after span
  | .adjust date => { m with date }

theorem steady_le_tick (m : Moment) (t : Tick) :
    m.steady.nanos ≤ (m.tick t).steady.nanos := by
  cases t with
  | pass span => exact Nat.le_add_right _ _
  | adjust date => exact Nat.le_refl _

end Moment

/-- A list with a new record at its end is divided at that record, or at one that was there before. -/
theorem concat_eq_append_cons {α : Type} {xs earlier later : List α} {x y : α}
    (h : xs ++ [x] = earlier ++ y :: later) :
    (earlier = xs ∧ y = x ∧ later = []) ∨
      ∃ between, later = between ++ [x] ∧ xs = earlier ++ y :: between := by
  rcases List.eq_nil_or_concat later with rfl | ⟨between, z, rfl⟩
  · obtain ⟨rfl, hx⟩ := List.append_inj' h rfl
    cases hx
    exact Or.inl ⟨rfl, rfl, rfl⟩
  · rw [List.concat_eq_append, ← List.cons_append, ← List.append_assoc] at h
    obtain ⟨hxs, hx⟩ := List.append_inj' h rfl
    cases hx
    exact Or.inr ⟨between, List.concat_eq_append, hxs⟩

/-- Each record of a list stands in a relation to the records before it. -/
def EachAfter {α : Type} (p : List α → α → Prop) (xs : List α) : Prop :=
  ∀ earlier x later, xs = earlier ++ x :: later → p earlier x

namespace EachAfter
variable {α : Type} {p : List α → α → Prop} {xs : List α}

theorem nil (p : List α → α → Prop) : EachAfter p [] := by
  intro earlier x later h
  cases earlier <;> cases h

/-- A new record has only to stand in the relation itself: those before it see nothing of it. -/
theorem concat (h : EachAfter p xs) {x : α} (hx : p xs x) : EachAfter p (xs ++ [x]) := by
  intro earlier y later hsplit
  obtain ⟨rfl, rfl, -⟩ | ⟨between, -, hxs⟩ := concat_eq_append_cons hsplit
  · exact hx
  · exact h earlier y between hxs

theorem of_mem (h : EachAfter p xs) {x : α} (hx : x ∈ xs) : ∃ earlier, p earlier x := by
  obtain ⟨earlier, later, hsplit⟩ := List.append_of_mem hx
  exact ⟨earlier, h earlier x later hsplit⟩

end EachAfter

/-- A run beside the same run with some of its steps taken out: what a step that stays keeps when it
is done in both, and what a step that is taken out keeps when it is done in one, holds at the end. -/
theorem foldl_filter {α β : Type} {R : β → β → Prop} {f : β → α → β} {p : α → Bool}
    (hboth : ∀ {s s' a}, R s s' → p a = true → R (f s a) (f s' a))
    (hone : ∀ {s s' a}, R s s' → p a = false → R (f s a) s') {s s' : β} (h : R s s')
    (as : List α) : R (as.foldl f s) ((as.filter p).foldl f s') := by
  induction as generalizing s s' with
  | nil => exact h
  | cons a as ih =>
    cases ha : p a with
    | true =>
      rw [List.filter_cons_of_pos ha]
      exact ih (hboth h ha)
    | false =>
      rw [List.filter_cons_of_neg (ne_true_of_eq_false ha)]
      exact ih (hone h ha)

end Gateway
