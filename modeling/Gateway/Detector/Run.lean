import Gateway.Detector

/-! # Detectors at work in the course of time -/
namespace Gateway.Detector

def defaultInterval : Duration := .ofSecs 30

/-- A span of zero means the default. -/
def intervalOf (span : Duration) : Duration := if span.isZero then defaultInterval else span

/-- A timer that goes off at equal spans. When it is attended to late, the next span starts then. -/
structure Timer where
  next : Duration
  period : Duration
  deriving DecidableEq, Repr

namespace Timer

/-- A delay that still counts as in time. -/
def tolerance : Duration := .ofMillis 5

def start (now period : Duration) : Timer := ⟨now.add period, period⟩

def isDue (now : Duration) (t : Timer) : Bool := t.next.nanos ≤ now.nanos

def attend (now : Duration) (t : Timer) : Timer :=
  let late := t.next.nanos + tolerance.nanos < now.nanos
  { t with next := (if late then now else t.next).add t.period }

end Timer

/-- A detector with its timer, its cancellation and perhaps someone who applies the changes. -/
structure Run where
  state : State
  timer : Timer
  cancelled : Bool
  /-- Whether changes are applied as they come. -/
  attended : Bool

namespace Run

def isRunning (r : Run) : Bool := r.state.position != .stopped

/-- Whether the one who applies the changes is still there. -/
def isUpdating (r : Run) : Bool := r.attended && (r.isRunning || !r.state.feed.queue.isEmpty)

/-- What the updater has to do. -/
def update? (r : Run) : Option Event :=
  if r.attended && !r.state.feed.queue.isEmpty then some .updated else none

/-- What happens next, if no time passes and each fetch has the same result. -/
def next? (now : Duration) (fetched : Fetched) (r : Run) : Option Event :=
  match r.state.position with
  | .roused => some .began
  | .fetching => some (.fetched fetched)
  | .diffing _ => some .compared
  | .sending _ =>
    if r.cancelled then some .cancelled
    else if !r.state.received then some .refused
    else if r.state.hasRoom then some .sent
    else r.update?
  | .waiting =>
    if r.cancelled then some .cancelled
    else if r.timer.isDue now then some .ticked
    else match r.state.hints with
      | some m =>
        if m.pending > 0 then some .hinted else if m.isOpen then r.update? else some .deafened
      | none => r.update?
  | .stopped => r.update?

def advance (now : Duration) (e : Event) (r : Run) : Option Run :=
  (r.state.step? e).map fun state =>
    { r with state, timer := if e.isTick then r.timer.attend now else r.timer }

/-- Lets everything happen that can, in so many steps at most. -/
def settle (now : Duration) (fetched : Fetched) : Nat → Run → Run
  | 0, r => r
  | fuel + 1, r =>
    match (r.next? now fetched).bind fun e => r.advance now e with
    | some r => settle now fetched fuel r
    | none => r

end Run
end Gateway.Detector
