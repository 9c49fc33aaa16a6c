import Gateway.Duration
import Gateway.Text

/-! # Reading durations written as numbers with units, such as 1m 30s or 2.5h -/
namespace Gateway.Duration
open Text

inductive Fault
  | empty
  | expectedNumber (offset : Nat)
  | invalidCharacter (offset : Nat)
  | unknownUnit (unit : String)
  | missingUnit (value : Nat)
  | overflow
  deriving DecidableEq, Repr

def Fault.message : Fault → String
  | .empty => "value was empty"
  | .expectedNumber offset => "expected number at " ++ toString offset
  | .invalidCharacter offset => "invalid character at " ++ toString offset
  | .unknownUnit unit => "unknown time unit \"" ++ unit ++ "\", supported units: ns, us/µs, ms, " ++
      "sec, min, hours, days, weeks, months, years (and few variations)"
  | .missingUnit value => "time unit needed, for example " ++ toString value ++ "sec or " ++
      toString value ++ "ms"
  | .overflow => "number is too large or cannot be represented without a lack of precision " ++
      "(values below 1ns are not supported)"

/-- A unit counts whole seconds, or nanoseconds. A fraction of it is read at `grain` steps a unit,
`coarse` telling whether a step is a second. A unit without steps has no fractions. -/
structure TimeUnit where
  seconds : Nat
  nanos : Nat
  grain : Nat
  coarse : Bool
  deriving DecidableEq, Repr

def TimeUnit.ofSeconds (n : Nat) : TimeUnit := ⟨n, 0, n, true⟩

def TimeUnit.ofName? : String → Option TimeUnit
  | "nanos" | "nsec" | "ns" => some ⟨0, 1, 0, false⟩
  | "usec" | "us" | "µs" => some ⟨0, 1000, 1000, false⟩
  | "millis" | "msec" | "ms" => some ⟨0, 1000000, 1000000, false⟩
  | "seconds" | "second" | "secs" | "sec" | "s" => some ⟨1, 0, 1000000000, false⟩
  | "minutes" | "minute" | "min" | "mins" | "m" => some ⟨60, 0, 60000000000, false⟩
  | "hours" | "hour" | "hrs" | "hr" | "h" => some (.ofSeconds 3600)
  | "days" | "day" | "d" => some (.ofSeconds 86400)
  | "weeks" | "week" | "wks" | "wk" | "w" => some (.ofSeconds 604800)
  | "months" | "month" | "M" => some (.ofSeconds 2630016)
  | "years" | "year" | "yrs" | "yr" | "y" => some (.ofSeconds 31557600)
  | _ => none

/-- Counts are 64-bit words. -/
def wordLimit : Nat := 18446744073709551616

def word (n : Nat) : Except Fault Nat := if n < wordLimit then .ok n else .error .overflow

/-- The digits after a point: their value and the power of ten below it. -/
structure Fraction where
  numerator : Nat
  denominator : Nat
  deriving DecidableEq, Repr

def extend (d : Duration) (seconds nanos : Nat) : Except Fault Duration := do
  let n ← word (d.subsec + nanos)
  let s ← word (seconds + n / perSecond)
  let t ← word (d.secs + s)
  return ⟨t * perSecond + n % perSecond⟩

/-- Adds `n` units, and a fraction of one if it is a whole number of steps. -/
def addUnits (d : Duration) (n : Nat) (fraction : Option Fraction) (name : String) :
    Except Fault Duration := do
  match TimeUnit.ofName? name with
  | none => .error (if name.isEmpty then .missingUnit n else .unknownUnit name)
  | some u =>
    let d ← extend d (← word (n * u.seconds)) (← word (n * u.nanos))
    match fraction with
    | none => return d
    | some f =>
      if u.grain = 0 then .error .overflow
      else
        let steps ← word (f.numerator * u.grain)
        if steps % f.denominator ≠ 0 then .error .overflow
        else if u.coarse then extend d (steps / f.denominator) 0
        else extend d 0 (steps / f.denominator)

def isUnitLetter (c : Char) : Bool := c.isAlpha || c == 'µ'

/-- What the reader is in the middle of. -/
inductive Stage
  | start
  | number (n : Nat)
  /-- `last` is the offset after the last character that belongs to the fraction. -/
  | fraction (n : Nat) (f : Fraction) (last : Nat)
  | unit (n : Nat) (f : Option Fraction) (name : List Char)
  deriving Repr

def readFraction (f : Fraction) (c : Char) : Except Fault Fraction := do
  return ⟨← word (f.numerator * 10 + digitValue c), ← word (f.denominator * 10)⟩

/-- Reads on from the byte `offset`; `sum` is what the units before it add up to. -/
def readFrom (sum : Duration) (any : Bool) : Stage → Nat → List Char → Except Fault Duration
  | .start, _, [] => if any then .ok sum else .error .empty
  | .number n, _, [] => addUnits sum n none ""
  | .fraction n f last, _, [] =>
    if f.denominator = 1 then .error (.invalidCharacter last) else addUnits sum n (some f) ""
  | .unit n f name, _, [] => addUnits sum n f (String.ofList name)
  | .start, offset, c :: cs =>
    let next := offset + c.utf8Size
    if isDigit c then readFrom sum true (.number (digitValue c)) next cs
    else if isBlank c then readFrom sum any .start next cs
    else .error (.expectedNumber offset)
  | .number n, offset, c :: cs => do
    let next := offset + c.utf8Size
    if isDigit c then readFrom sum true (.number (← word (n * 10 + digitValue c))) next cs
    else if isBlank c then readFrom sum true (.number n) next cs
    else if isUnitLetter c then readFrom sum true (.unit n none [c]) next cs
    else if c == '.' then readFrom sum true (.fraction n ⟨0, 1⟩ offset) next cs
    else .error (.invalidCharacter offset)
  | .fraction n f last, offset, c :: cs => do
    let next := offset + c.utf8Size
    if isDigit c then readFrom sum true (.fraction n (← readFraction f c) next) next cs
    else if isBlank c then readFrom sum true (.fraction n f next) next cs
    else if isUnitLetter c then
      if f.denominator = 1 then .error (.invalidCharacter last)
      else readFrom sum true (.unit n (some f) [c]) next cs
    else .error (.invalidCharacter last)
  | .unit n f name, offset, c :: cs => do
    let next := offset + c.utf8Size
    if isDigit c then
      readFrom (← addUnits sum n f (String.ofList name)) true (.number (digitValue c)) next cs
    else if isBlank c then
      readFrom (← addUnits sum n f (String.ofList name)) true .start next cs
    else if isUnitLetter c then readFrom sum true (.unit n f (name ++ [c])) next cs
    else .error (.invalidCharacter offset)

/-- A lone zero needs no unit. -/
def read (s : String) : Except Fault Duration :=
  if s = "0" then .ok zero else readFrom zero false .start 0 s.toList

end Gateway.Duration
