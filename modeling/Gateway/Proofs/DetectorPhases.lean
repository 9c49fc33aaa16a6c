import Gateway.Proofs.KeptHints

/-! # The course of a detector: the phases that it shows, its end, and fetches that fail -/
namespace Gateway

namespace Phase

/-- The phases that can come next. -/
def next : Phase → List Phase
  | idle => [fetching, stopped]
  | fetching => [idle, diffing]
  | diffing => [idle, applying]
  | applying => [idle, stopped]
  | stopped => []

/-- A phase that is shown after another one. The same phase can be shown again. -/
def Follows (a b : Phase) : Prop := b = a ∨ b ∈ a.next

instance (a b : Phase) : Decidable (a.Follows b) := inferInstanceAs (Decidable (_ ∨ _))

end Phase

namespace Detector

/-- The phases that a first load shows. -/
def loadPhases (fetched : Fetched) (table : Snapshot) : List Phase :=
  match check fetched table with
  | (.error _, phase) => [.fetching, phase]
  | (.ok none, phase) => [.fetching, phase, .idle]
  | (.ok (some _), phase) => [.fetching, phase, .applying, .idle]

/-- A first load applies what its check finds. -/
theorem initialLoad_eq (fetched : Fetched) (table : Snapshot) :
    initialLoad fetched table =
      match (check fetched table).1 with
      | .ok change =>
        let table := change.elim table table.apply
        (.ok table.size, table)
      | .error fault => (.error fault, table) := by
  cases fetched with
  | error fault => rfl
  | ok routes =>
    simp only [initialLoad, check, Snapshot.reconcile]
    cases table.diff routes <;> rfl

theorem isChain_loadPhases (fetched : Fetched) (table : Snapshot) :
    (.idle :: loadPhases fetched table).IsChain Phase.Follows := by
  cases fetched with
  | error fault => exact (by decide : [Phase.idle, .fetching, .idle].IsChain Phase.Follows)
  | ok routes =>
    simp only [loadPhases, check]
    cases table.diff routes with
    | none => exact (by decide : [Phase.idle, .fetching, .diffing, .idle].IsChain Phase.Follows)
    | some c =>
      exact (by decide : [Phase.idle, .fetching, .diffing, .applying, .idle].IsChain Phase.Follows)

theorem getLast?_loadPhases (fetched : Fetched) (table : Snapshot) :
    (loadPhases fetched table).getLast? = some .idle := by
  cases fetched with
  | error fault => rfl
  | ok routes =>
    simp only [loadPhases, check]
    cases table.diff routes <;> rfl

/-- What can happen while a detector works: an event, or whoever takes the changes goes away. -/
inductive Occurrence
  | event (e : Event)
  | deserted
  deriving Repr

def Occurrence.isOwn : Occurrence → Bool
  | event e => e.isOwn
  | deserted => false

namespace State
variable {s t u : State} {o : Occurrence} {os : List Occurrence}

/-- Nobody takes changes any more, and those on their way are lost. -/
def desert (s : State) : State := { s with feed := { s.feed with queue := [] }, received := false }

def occur? (s : State) : Occurrence → Option State
  | .event e => s.step? e
  | .deserted => some s.desert

/-- The state after what happened, if it can happen. -/
def play? (s : State) (os : List Occurrence) : Option State := os.foldlM occur? s

theorem play?_append (s : State) (os os' : List Occurrence) :
    s.play? (os ++ os') = (s.play? os).bind fun t => t.play? os' := List.foldlM_append

theorem play?_cons (s : State) (o : Occurrence) (os : List Occurrence) :
    s.play? (o :: os) = (s.occur? o).bind fun t => t.play? os := rfl

/-- The phases that are shown, one after each thing that happens. -/
def shown (s : State) : List Occurrence → List Phase
  | [] => []
  | o :: os =>
    match s.occur? o with
    | some t => t.position.phase :: t.shown os
    | none => []

/-- The source was asked once more. -/
def asked (s : State) : State := { s with fetches := s.fetches + 1 }

/-- What rouses a detector takes a hint, or leaves everything as it is. -/
def heard (s : State) : Event → State
  | .hinted => { s with hints := s.hints.map Mailbox.take }
  | _ => s

/-- What can happen in a state, and what the position is afterwards. -/
inductive Turns (s : State) : Occurrence → State → Prop
  | others {o : Occurrence} {t : State} (hown : o.isOwn = false)
      (hposition : t.position = s.position) (hfetches : t.fetches = s.fetches)
      (hqueue : t.feed.queue <:+ s.feed.queue) : Turns s o t
  | wakes {e : Event} (hwaiting : s.position = .waiting) (hwake : e = .ticked ∨ e = .hinted) :
      Turns s (.event e) ((s.heard e).moveTo .roused)
  | deafens (hwaiting : s.position = .waiting) : Turns s (.event .deafened) { s with hints := none }
  | begins (hroused : s.position = .roused) : Turns s (.event .began) (s.asked.moveTo .fetching)
  | fetches {result : Fetched} {p : Position} (hfetching : s.position = .fetching)
      (hp : p = .waiting ∨ ∃ routes, p = .diffing routes) :
      Turns s (.event (.fetched result)) (s.moveTo p)
  | compares {routes : List Route} {p : Position} (hdiffing : s.position = .diffing routes)
      (hp : p = .waiting ∨ ∃ c, p = .sending c) : Turns s (.event .compared) (s.moveTo p)
  | sends {c : Change} (hsending : s.position = .sending c) :
      Turns s (.event .sent) ((s.push c).moveTo .waiting)
  | stops {e : Event} (hown : e.isOwn = true)
      (hposition : s.position = .waiting ∨ ∃ c, s.position = .sending c) :
      Turns s (.event e) (s.moveTo .stopped)

theorem turns_of_occur? (h : s.occur? o = some t) : s.Turns o t := by
  obtain ⟨position, feed, capacity, received, hints, fetches⟩ := s
  cases o with
  | deserted =>
    cases h
    exact .others rfl rfl rfl List.nil_suffix
  | event e =>
    cases e with
    | posted | closed =>
      cases h
      exact .others rfl rfl rfl List.suffix_rfl
    | updated =>
      simp only [occur?, step?] at h
      split_ifs at h
      cases h
      refine .others rfl rfl rfl ?_
      rw [Feed.queue_update]
      exact List.tail_suffix _
    | ticked =>
      simp only [occur?, step?] at h
      split_ifs at h with hposition
      cases hposition
      cases h
      exact .wakes rfl (.inl rfl)
    | hinted =>
      cases position <;> cases hints <;> simp only [occur?, step?, reduceCtorEq] at h
      split_ifs at h
      cases h
      exact .wakes rfl (.inr rfl)
    | deafened =>
      cases position <;> cases hints <;> simp only [occur?, step?, reduceCtorEq] at h
      split_ifs at h
      cases h
      exact .deafens rfl
    | began =>
      simp only [occur?, step?] at h
      split_ifs at h with hposition
      cases hposition
      cases h
      exact .begins rfl
    | fetched result =>
      simp only [occur?, step?] at h
      split_ifs at h with hposition
      cases hposition
      cases result with
      | ok routes =>
        cases h
        exact .fetches rfl (.inr ⟨routes, rfl⟩)
      | error fault =>
        cases h
        exact .fetches rfl (.inl rfl)
    | compared =>
      cases position <;> simp only [occur?, step?, reduceCtorEq] at h
      split at h
      next c hdiff =>
        cases h
        exact .compares rfl (.inr ⟨c, rfl⟩)
      next hdiff =>
        cases h
        exact .compares rfl (.inl rfl)
    | sent =>
      cases position <;> simp only [occur?, step?, reduceCtorEq] at h
      split_ifs at h
      cases h
      exact .sends rfl
    | refused =>
      cases position <;> simp only [occur?, step?, reduceCtorEq] at h
      split_ifs at h
      cases h
      exact .stops rfl (.inr ⟨_, rfl⟩)
    | cancelled =>
      cases position <;> simp only [occur?, step?, reduceCtorEq] at h
      case waiting =>
        cases h
        exact .stops rfl (.inl rfl)
      case sending c =>
        cases h
        exact .stops rfl (.inr ⟨c, rfl⟩)

theorem follows_of_turns (h : s.Turns o t) : s.position.phase.Follows t.position.phase := by
  cases h with
  | others _ hposition => exact .inl (congrArg Position.phase hposition)
  | wakes hwaiting =>
    rw [hwaiting]
    exact .inl rfl
  | deafens => exact .inl rfl
  | begins hroused =>
    rw [hroused]
    exact (by decide : Phase.Follows .idle .fetching)
  | fetches hfetching hp =>
    rw [hfetching]
    rcases hp with rfl | ⟨routes, rfl⟩
    · exact (by decide : Phase.Follows .fetching .idle)
    · exact (by decide : Phase.Follows .fetching .diffing)
  | compares hdiffing hp =>
    rw [hdiffing]
    rcases hp with rfl | ⟨c, rfl⟩
    · exact (by decide : Phase.Follows .diffing .idle)
    · exact (by decide : Phase.Follows .diffing .applying)
  | sends hsending =>
    rw [hsending]
    exact (by decide : Phase.Follows .applying .idle)
  | stops _ hposition =>
    rcases hposition with hposition | ⟨c, hposition⟩ <;> rw [hposition]
    · exact (by decide : Phase.Follows .idle .stopped)
    · exact (by decide : Phase.Follows .applying .stopped)

theorem isChain_shown (s : State) (os : List Occurrence) :
    (s.position.phase :: s.shown os).IsChain Phase.Follows := by
  induction os generalizing s with
  | nil => exact List.isChain_singleton _
  | cons o os ih =>
    rw [shown]
    cases hstep : s.occur? o with
    | none => exact List.isChain_singleton _
    | some t => exact List.isChain_cons_cons.mpr ⟨follows_of_turns (turns_of_occur? hstep), ih t⟩

/-- A detector that has stopped stays so: it does nothing, and what it has sent is taken at most. -/
structure Rests (s : State) (os : List Occurrence) (t : State) : Prop where
  stopped : t.position = .stopped
  fetches : t.fetches = s.fetches
  queue : t.feed.queue <:+ s.feed.queue
  others : ∀ o ∈ os, o.isOwn = false

theorem rests_of_turns (hstopped : s.position = .stopped) (h : s.Turns o t) : s.Rests [o] t := by
  cases h with
  | others hown hposition hfetches hqueue =>
    exact ⟨hposition.trans hstopped, hfetches, hqueue, by simpa using hown⟩
  | wakes hposition | deafens hposition | begins hposition | fetches hposition
  | compares hposition | sends hposition =>
    rw [hstopped] at hposition
    cases hposition
  | stops _ hposition =>
    rw [hstopped] at hposition
    rcases hposition with hposition | ⟨c, hposition⟩ <;> cases hposition

theorem rests_of_play? (hstopped : s.position = .stopped) (h : s.play? os = some t) :
    s.Rests os t := by
  induction os generalizing s with
  | nil =>
    cases h
    exact ⟨hstopped, rfl, List.suffix_rfl, List.forall_mem_nil _⟩
  | cons o os ih =>
    rw [play?_cons] at h
    obtain ⟨u, hu, h⟩ := Option.bind_eq_some_iff.mp h
    have hstep := rests_of_turns hstopped (turns_of_occur? hu)
    have hrest := ih hstep.stopped h
    have ho : o.isOwn = false := hstep.others o (List.mem_singleton_self o)
    exact ⟨hrest.stopped, hrest.fetches.trans hstep.fetches, hrest.queue.trans hstep.queue,
      List.forall_mem_cons.mpr ⟨ho, hrest.others⟩⟩

/-- What others do does not depend on where the detector stands, and leaves it there. -/
theorem occur?_moveTo (ho : o.isOwn = false) (p : Position) (s : State) :
    (s.moveTo p).occur? o = (s.occur? o).map (moveTo p) := by
  cases o with
  | deserted => rfl
  | event e =>
    cases e with
    | posted | closed => rfl
    | updated =>
      simp only [occur?, step?]
      rw [apply_ite (Option.map (moveTo p))]
      rfl
    | ticked | hinted | deafened | began | fetched | compared | sent | refused | cancelled =>
      cases ho

theorem play?_moveTo (hos : ∀ o ∈ os, o.isOwn = false) (p : Position) (s : State) :
    (s.moveTo p).play? os = (s.play? os).map (moveTo p) := by
  induction os generalizing s with
  | nil => rfl
  | cons o os ih =>
    obtain ⟨ho, hos⟩ := List.forall_mem_cons.mp hos
    rw [play?_cons, play?_cons, occur?_moveTo ho]
    cases s.occur? o with
    | none => rfl
    | some t => exact ih hos t

/-- How often the source was asked has no effect. -/
theorem occur?_asked (o : Occurrence) (s : State) :
    s.asked.occur? o = (s.occur? o).map asked := by
  obtain ⟨position, feed, capacity, received, hints, fetches⟩ := s
  cases o with
  | deserted => rfl
  | event e =>
    cases e with
    | posted | closed => rfl
    | ticked | updated | began =>
      simp only [occur?, step?]
      rw [apply_ite (Option.map asked)]
      rfl
    | hinted | deafened =>
      cases position <;> cases hints <;> try rfl
      simp only [occur?, step?]
      rw [apply_ite (Option.map asked)]
      rfl
    | fetched result =>
      simp only [occur?, step?]
      rw [apply_ite (Option.map asked)]
      cases result <;> rfl
    | compared =>
      cases position <;> try rfl
      next routes =>
        simp only [occur?, step?, asked]
        cases feed.table.diff routes <;> rfl
    | sent | refused =>
      cases position <;> try rfl
      simp only [occur?, step?]
      rw [apply_ite (Option.map asked)]
      rfl
    | cancelled => cases position <;> rfl

theorem play?_asked (os : List Occurrence) (s : State) :
    s.asked.play? os = (s.play? os).map asked := by
  induction os generalizing s with
  | nil => rfl
  | cons o os ih =>
    rw [play?_cons, play?_cons, occur?_asked]
    cases s.occur? o with
    | none => rfl
    | some t => exact ih t

theorem position_of_play? (hos : ∀ o ∈ os, o.isOwn = false) (h : s.play? os = some t) :
    t.position = s.position := by
  have hmoved := play?_moveTo hos s.position s
  rw [show s.moveTo s.position = s from rfl, h, Option.map_some] at hmoved
  exact (congrArg position (Option.some.inj hmoved) :)

/-- A position that is not the first one was taken with the last thing that the detector did. -/
theorem exists_last_own (h : s.play? os = some t) (hposition : t.position ≠ s.position) :
    ∃ before o after u v, os = before ++ o :: after ∧ o.isOwn = true ∧
      (∀ o ∈ after, o.isOwn = false) ∧ s.play? before = some u ∧ u.occur? o = some v ∧
      v.play? after = some t := by
  induction os using List.reverseRecOn generalizing t with
  | nil =>
    cases h
    exact absurd rfl hposition
  | append_singleton os o ih =>
    rw [play?_append] at h
    obtain ⟨w, hw, h⟩ := Option.bind_eq_some_iff.mp h
    rw [play?_cons] at h
    obtain ⟨x, hx, h⟩ := Option.bind_eq_some_iff.mp h
    cases h
    cases ho : o.isOwn with
    | true => exact ⟨os, o, [], w, t, rfl, ho, List.forall_mem_nil _, hw, hx, rfl⟩
    | false =>
      have hkept : t.position = w.position := by
        have hlast : w.play? [o] = some t := by
          rw [play?_cons, hx]
          rfl
        exact position_of_play? (by simpa using ho) hlast
      rw [hkept] at hposition
      obtain ⟨before, o', after, u, v, rfl, ho', hafter, hu, hv, hrest⟩ := ih hw hposition
      refine ⟨before, o', after ++ [o], u, v, by simp, ho', ?_, hu, hv, ?_⟩
      · exact List.forall_mem_append.mpr ⟨hafter, by simpa using ho⟩
      · rw [play?_append, hrest, Option.bind_some, play?_cons, hx]
        rfl

theorem began_of_fetching (h : s.Turns o t) (ho : o.isOwn = true) (ht : t.position = .fetching) :
    o = .event .began ∧ s.position = .roused := by
  cases h with
  | others hown => exact nomatch ho.symm.trans hown
  | begins hroused => exact ⟨rfl, hroused⟩
  | deafens hwaiting => exact nomatch hwaiting.symm.trans ht
  | fetches _ hp | compares _ hp =>
    cases ht
    rcases hp with hp | ⟨_, hp⟩ <;> cases hp
  | wakes | sends | stops => cases ht

theorem woken_of_roused (h : s.Turns o t) (ho : o.isOwn = true) (ht : t.position = .roused) :
    ∃ wake, o = .event wake ∧ (wake = .ticked ∨ wake = .hinted) ∧ s.position = .waiting ∧
      t = (s.heard wake).moveTo .roused := by
  cases h with
  | others hown => exact nomatch ho.symm.trans hown
  | wakes hwaiting hwake => exact ⟨_, rfl, hwake, hwaiting, rfl⟩
  | deafens hwaiting => exact nomatch hwaiting.symm.trans ht
  | fetches _ hp | compares _ hp =>
    cases ht
    rcases hp with hp | ⟨_, hp⟩ <;> cases hp
  | begins | sends | stops => cases ht

/-- A round up to its fetch: something rouses the detector, and it asks the source. -/
structure Round (s : State) (os : List Occurrence) where
  quiet : List Occurrence
  wake : Event
  stirred : List Occurrence
  meanwhile : List Occurrence
  /-- The state in which the detector was roused. -/
  roused : State
  split : os = quiet ++ .event wake :: (stirred ++ .event .began :: meanwhile)
  hwake : wake = .ticked ∨ wake = .hinted
  others : ∀ o ∈ stirred ++ meanwhile, o.isOwn = false
  before : s.play? quiet = some roused
  waiting : roused.position = .waiting
  wakes : roused.occur? (.event wake) = some ((roused.heard wake).moveTo .roused)

theorem exists_round (hstart : s.position = .waiting) (h : s.play? os = some t)
    (hfetching : t.position = .fetching) : Nonempty (s.Round os) := by
  obtain ⟨before, o, meanwhile, w, v, rfl, ho, hmeanwhile, hw, hv, hrest⟩ :=
    exists_last_own h (by rw [hfetching, hstart]; decide)
  have hvfetching : v.position = .fetching :=
    (position_of_play? hmeanwhile hrest).symm.trans hfetching
  obtain ⟨rfl, hroused⟩ := began_of_fetching (turns_of_occur? hv) ho hvfetching
  obtain ⟨quiet, o, stirred, u, x, rfl, ho, hstirred, hu, hx, hrest⟩ :=
    exists_last_own hw (by rw [hroused, hstart]; decide)
  have hxroused : x.position = .roused := (position_of_play? hstirred hrest).symm.trans hroused
  obtain ⟨wake, rfl, hwake, hwaiting, rfl⟩ := woken_of_roused (turns_of_occur? hx) ho hxroused
  exact ⟨⟨quiet, wake, stirred, meanwhile, u, by simp, hwake,
    List.forall_mem_append.mpr ⟨hstirred, hmeanwhile⟩, hu, hwaiting, hx⟩⟩

theorem position_heard (s : State) (e : Event) : (s.heard e).position = s.position := by
  cases e <;> rfl

/-- Without a round whose fetch fails, everything else is the same. -/
theorem Round.play?_failed (r : s.Round os) (fault : RepositoryFault) (after : List Occurrence) :
    s.play? (os ++ .event (.fetched (.error fault)) :: after) =
      ((r.roused.heard r.wake).play? (r.stirred ++ r.meanwhile ++ after)).map asked := by
  obtain ⟨quiet, wake, stirred, meanwhile, u, rfl, hwake, hothers, hu, hwaiting, hwakes⟩ := r
  obtain ⟨hstirred, hmeanwhile⟩ := List.forall_mem_append.mp hothers
  simp only [List.append_assoc, List.cons_append, play?_append, play?_cons, hu, hwakes,
    Option.bind_some, play?_moveTo hstirred]
  cases hx : (u.heard wake).play? stirred with
  | none => rfl
  | some x =>
    have hbegan : (x.moveTo .roused).occur? (.event .began) = some (x.moveTo .fetching).asked := rfl
    simp only [Option.map_some, Option.bind_some, hbegan, play?_asked, play?_moveTo hmeanwhile]
    cases hy : x.play? meanwhile with
    | none => rfl
    | some y =>
      have hy : y.position = .waiting := by
        rw [position_of_play? hmeanwhile hy, position_of_play? hstirred hx, position_heard,
          hwaiting]
      have hfailed : (y.moveTo .fetching).asked.occur? (.event (.fetched (.error fault))) =
          some (y.moveTo .waiting).asked := rfl
      rw [← hy] at hfailed
      simp only [Option.map_some, Option.bind_some, hfailed]
      exact play?_asked after y

/-- A detector that starts to work after a first load. -/
def startLoaded (fetched : Fetched) (table : Snapshot) (capacity : Nat) (received : Bool)
    (hints : Option Mailbox) : State :=
  start (initialLoad fetched table).2 capacity received hints

/-- Whatever happens after a first load with any result: a detector shows one phase after the other
as they follow, and once it has stopped it does nothing. A fetch that fails leaves everything as if
what began its round had been heard and nothing done, only that the source was asked. A first load
that fails leaves the table as it is. -/
theorem course_lawful {fetched : Fetched} {table : Snapshot} {capacity : Nat} {received : Bool}
    {hints : Option Mailbox}
    (hrun : (startLoaded fetched table capacity received hints).play? os = some t) :
    (.idle :: (loadPhases fetched table ++
        (startLoaded fetched table capacity received hints).shown os)).IsChain Phase.Follows ∧
      (∀ before after u, os = before ++ after →
        (startLoaded fetched table capacity received hints).play? before = some u →
          u.position.phase = .stopped → u.Rests after t) ∧
      (∀ before fault after, os = before ++ .event (.fetched (.error fault)) :: after →
        ∃ r : (startLoaded fetched table capacity received hints).Round before, ∀ rest,
          (startLoaded fetched table capacity received hints).play?
              (before ++ .event (.fetched (.error fault)) :: rest) =
            ((r.roused.heard r.wake).play? (r.stirred ++ r.meanwhile ++ rest)).map asked) ∧
      ∀ fault, fetched = .error fault →
        initialLoad fetched table = (.error fault, table) ∧
          (loadPhases fetched table).getLast? = some .idle := by
  refine ⟨?_, ?_, ?_, ?_⟩
  · have hshown := isChain_shown (startLoaded fetched table capacity received hints) os
    rw [List.isChain_cons] at hshown
    rw [← List.cons_append]
    refine List.isChain_append.mpr ⟨isChain_loadPhases fetched table, hshown.2, ?_⟩
    intro last hlast first hfirst
    rw [List.getLast?_cons, getLast?_loadPhases] at hlast
    cases hlast
    exact hshown.1 first hfirst
  · rintro before after u rfl hu hphase
    rw [play?_append, hu] at hrun
    have hstopped : u.position = .stopped := by
      cases hposition : u.position <;> rw [hposition] at hphase <;> first | rfl | cases hphase
    exact rests_of_play? hstopped hrun
  · rintro before fault after rfl
    rw [play?_append] at hrun
    obtain ⟨v, hv, hrun⟩ := Option.bind_eq_some_iff.mp hrun
    rw [play?_cons] at hrun
    obtain ⟨w, hw, -⟩ := Option.bind_eq_some_iff.mp hrun
    have hfetching : v.position = .fetching := by
      simp only [occur?, step?] at hw
      split_ifs at hw with hposition
      exact hposition
    obtain ⟨r⟩ := exists_round rfl hv hfetching
    exact ⟨r, fun rest => r.play?_failed fault rest⟩
  · rintro fault rfl
    exact ⟨initialLoad_eq _ _, getLast?_loadPhases _ _⟩

/-- A hint leads to a fetch that fails, the one who takes the changes goes away in the meantime, and
the detector is cancelled. -/
def overheard : List Occurrence :=
  [.event .posted, .event .hinted, .event .began, .deserted, .event (.fetched (.error (.io ""))),
    .event .cancelled]

theorem course_lawful_overheard :
    ∃ t, (startLoaded (.error (.io "")) .empty 1 true (some (Mailbox.empty 1))).play? overheard =
        some t ∧ t.fetches = 1 ∧ t.Rests [] t ∧
      [Phase.idle, .fetching, .idle, .idle, .idle, .fetching, .fetching, .idle, .stopped].IsChain
        Phase.Follows := by
  obtain ⟨t, ht⟩ : ∃ t, (startLoaded (.error (.io "")) .empty 1 true
      (some (Mailbox.empty 1))).play? overheard = some t := ⟨_, rfl⟩
  obtain ⟨hchain, hrests, -, -⟩ := course_lawful ht
  refine ⟨t, ht, ?_, hrests overheard [] t (List.append_nil _).symm ht ?_, hchain⟩ <;>
  · cases ht
    rfl

end State
end Detector
end Gateway
