/-! # Lengths of time in nanoseconds, and points in time -/
namespace Gateway

structure Duration where
  nanos : Nat
  deriving DecidableEq, Repr, Inhabited

namespace Duration

def perSecond : Nat := 1000000000

def ofSecs (n : Nat) : Duration := ⟨n * perSecond⟩

def ofMillis (n : Nat) : Duration := ⟨n * 1000000⟩

def zero : Duration := ⟨0⟩

def secs (d : Duration) : Nat := d.nanos / perSecond

/-- The part below one second. -/
def subsec (d : Duration) : Nat := d.nanos % perSecond

def isZero (d : Duration) : Bool := d.nanos == 0

def add (d e : Duration) : Duration := ⟨d.nanos + e.nanos⟩

/-- A whole number and a fraction of `width` digits, the fraction without its last zeros. -/
def fractional (whole fraction width : Nat) : String :=
  let digits :=
    List.replicate (width - (Nat.toDigits 10 fraction).length) '0' ++ Nat.toDigits 10 fraction
  let shown := (digits.reverse.dropWhile (· == '0')).reverse
  if fraction = 0 then toString whole else toString whole ++ "." ++ String.ofList shown

/-- The length in the largest unit that it fills. -/
def display (d : Duration) : String :=
  if d.nanos ≥ perSecond then fractional d.secs d.subsec 9 ++ "s"
  else if d.nanos ≥ 1000000 then fractional (d.nanos / 1000000) (d.nanos % 1000000) 6 ++ "ms"
  else if d.nanos ≥ 1000 then fractional (d.nanos / 1000) (d.nanos % 1000) 3 ++ "µs"
  else toString d.nanos ++ "ns"

end Duration

/-- A point in time on two clocks: a steady one that measures spans, and one that tells the date,
counted from the start of 1970. -/
structure Moment where
  steady : Duration
  date : Duration
  deriving DecidableEq, Repr

/-- The moment when both clocks have moved on. -/
def Moment.after (m : Moment) (d : Duration) : Moment := ⟨m.steady.add d, m.date.add d⟩

/-- Ticks that come at equal spans after a start. A tick that was not taken stays due. -/
structure Ticker where
  start : Duration
  period : Duration
  taken : Nat
  deriving DecidableEq, Repr

namespace Ticker

/-- When the next tick comes. -/
def next (t : Ticker) : Duration := ⟨t.start.nanos + (t.taken + 1) * t.period.nanos⟩

/-- How many ticks have come by now without being taken. -/
def due (t : Ticker) (now : Duration) : Nat :=
  (now.nanos - t.start.nanos) / t.period.nanos - t.taken

def take (t : Ticker) (count : Nat) : Ticker := { t with taken := t.taken + count }

end Ticker
end Gateway
