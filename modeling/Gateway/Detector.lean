import Gateway.Change
import Gateway.Duration
import Gateway.Repository

/-! # Keeping the route table up to date with its source -/
namespace Gateway

/-- What the detector shows of its progress. -/
inductive Phase
  | idle
  | fetching
  | diffing
  | applying
  | stopped
  deriving DecidableEq, Repr

/-- Hints that the source may have changed, up to a number that are kept. -/
structure Mailbox where
  pending : Nat
  capacity : Nat
  isOpen : Bool
  deriving DecidableEq, Repr

namespace Mailbox

def empty (capacity : Nat) : Mailbox := ⟨0, capacity, true⟩

/-- Leaves a hint, unless there are as many as can be kept. -/
def post (m : Mailbox) : Mailbox :=
  if m.isOpen && m.pending < m.capacity then { m with pending := m.pending + 1 } else m

def close (m : Mailbox) : Mailbox := { m with isOpen := false }

def take (m : Mailbox) : Mailbox := { m with pending := m.pending - 1 }

end Mailbox

/-- The table and the changes that are on their way to it, oldest first. -/
structure Feed where
  table : Snapshot
  queue : List Change

namespace Feed

def empty : Feed := ⟨.empty, []⟩

/-- Sends the difference between the table and a fetched list on its way. -/
def tick (fetched : List Route) (f : Feed) : Feed :=
  match f.table.diff fetched with
  | some c => { f with queue := f.queue ++ [c] }
  | none => f

/-- Applies the oldest change. -/
def update (f : Feed) : Feed :=
  match f.queue with
  | c :: cs => ⟨f.table.apply c, cs⟩
  | [] => f

end Feed

namespace Detector

/-- Where the detector stands between two steps. -/
inductive Position
  | waiting
  /-- About to fetch. -/
  | roused
  | fetching
  | diffing (fetched : List Route)
  /-- With a change to send that may have to wait for room. -/
  | sending (change : Change)
  | stopped
  deriving DecidableEq, Repr

def Position.phase : Position → Phase
  | waiting => .idle
  | roused => .idle
  | fetching => .fetching
  | diffing _ => .diffing
  | sending _ => .applying
  | stopped => .stopped

/-- A detector at work and what it shares with others. -/
structure State where
  position : Position
  feed : Feed
  /-- How many changes can be on their way. -/
  capacity : Nat
  /-- Whether anyone takes the changes. -/
  received : Bool
  /-- The hints, as long as the detector listens to them. -/
  hints : Option Mailbox
  /-- How often the source was asked. -/
  fetches : Nat

inductive Event
  /-- Someone leaves a hint. -/
  | posted
  /-- There will be no more hints. -/
  | closed
  | ticked
  /-- The detector takes a hint. -/
  | hinted
  /-- The detector finds that there are no more hints. -/
  | deafened
  | began
  | fetched (result : Fetched)
  | compared
  | sent
  /-- The detector finds that nobody takes the change. -/
  | refused
  | cancelled
  /-- The oldest change is applied. -/
  | updated
  deriving Repr

def Event.isTick : Event → Bool
  | ticked => true
  | _ => false

namespace State

/-- A detector that starts to work on a table. -/
def start (table : Snapshot) (capacity : Nat) (received : Bool) (hints : Option Mailbox) : State :=
  ⟨.waiting, ⟨table, []⟩, max capacity 1, received, hints, 0⟩

def moveTo (p : Position) (s : State) : State := { s with position := p }

def hasRoom (s : State) : Bool := s.feed.queue.length < s.capacity

def push (c : Change) (s : State) : State :=
  { s with feed := { s.feed with queue := s.feed.queue ++ [c] } }

/-- The state after an event, if the event can happen. -/
def step? (s : State) : Event → Option State
  | .posted => some { s with hints := s.hints.map Mailbox.post }
  | .closed => some { s with hints := s.hints.map Mailbox.close }
  | .ticked => if s.position = .waiting then some (s.moveTo .roused) else none
  | .hinted =>
    match s.position, s.hints with
    | .waiting, some m =>
      if m.pending = 0 then none else some { s with position := .roused, hints := some m.take }
    | _, _ => none
  | .deafened =>
    match s.position, s.hints with
    | .waiting, some m => if m.pending = 0 && !m.isOpen then some { s with hints := none } else none
    | _, _ => none
  | .began =>
    if s.position = .roused then some { s.moveTo .fetching with fetches := s.fetches + 1 } else none
  | .fetched result =>
    if s.position = .fetching then
      match result with
      | .ok routes => some (s.moveTo (.diffing routes))
      | .error _ => some (s.moveTo .waiting)
    else none
  | .compared =>
    match s.position with
    | .diffing routes =>
      match s.feed.table.diff routes with
      | some c => some (s.moveTo (.sending c))
      | none => some (s.moveTo .waiting)
    | _ => none
  | .sent =>
    match s.position with
    | .sending c => if s.received && s.hasRoom then some ((s.push c).moveTo .waiting) else none
    | _ => none
  | .refused =>
    match s.position with
    | .sending _ => if s.received then none else some (s.moveTo .stopped)
    | _ => none
  | .cancelled =>
    match s.position with
    | .waiting => some (s.moveTo .stopped)
    | .sending _ => some (s.moveTo .stopped)
    | _ => none
  | .updated => if s.feed.queue.isEmpty then none else some { s with feed := s.feed.update }

end State

/-- What a fetch and a comparison find, and the phase that they end in. -/
def check (fetched : Fetched) (table : Snapshot) :
    Except RepositoryFault (Option Change) × Phase :=
  match fetched with
  | .ok routes => (.ok (table.diff routes), .diffing)
  | .error e => (.error e, .idle)

/-- The first load goes straight to the table. Its result is the number of routes. -/
def initialLoad (fetched : Fetched) (table : Snapshot) : Except RepositoryFault Nat × Snapshot :=
  match fetched with
  | .ok routes =>
    let table := table.reconcile routes
    (.ok table.size, table)
  | .error e => (.error e, table)

end Detector
end Gateway
