import Gateway.Text

/-! # Numbers of double precision as decimals -/
namespace Gateway.Double
open Text

/-- A positive finite number `mantissa · 2 ^ exponent`, with the whole mantissa of its precision. -/
structure Parts where
  mantissa : Nat
  exponent : Int
  deriving DecidableEq, Repr

/-- The highest bit of a whole mantissa. -/
def leadingBit : Nat := 0x10000000000000

def parts (x : Float) : Parts :=
  let bits : Nat := x.toBits.toNat
  let field : Nat := bits / leadingBit % 0x800
  let fraction : Nat := bits % leadingBit
  if field = 0 then ⟨fraction, -1074⟩ else ⟨leadingBit + fraction, (field : Int) - 1075⟩

/-- A decimal `digits · 10 ^ exponent`. -/
structure Decimal where
  digits : Nat
  exponent : Int
  deriving DecidableEq, Repr

/-- The factor that the power of a base contributes above, or below, the line of a fraction. -/
def above (base : Nat) (e : Int) : Nat := Nat.pow base e.toNat

def below (base : Nat) (e : Int) : Nat := Nat.pow base (-e).toNat

/-- Whether `quarters · 2 ^ (p.exponent - 2)` lies below a decimal, at it, or above it. -/
def compareQuarters (p : Parts) (quarters : Nat) (d : Decimal) : Ordering :=
  let e := p.exponent - 2
  compare (quarters * above 2 e * below 10 d.exponent)
    (d.digits * above 10 d.exponent * below 2 e)

/-- Whether a decimal rounds to the number: it lies between the midpoints to the two neighbours, or
at one of them if the mantissa is even. -/
def roundsFrom (p : Parts) (d : Decimal) : Bool :=
  let atLow := p.mantissa = leadingBit && p.exponent > -1074
  let low := compareQuarters p (4 * p.mantissa - if atLow then 1 else 2) d
  let high := compareQuarters p (4 * p.mantissa + 2) d
  let even := p.mantissa % 2 = 0
  (low == .lt || (even && low == .eq)) && (high == .gt || (even && high == .eq))

/-- The largest multiple of a power of ten that is not above the number. -/
def floorAt (p : Parts) (e : Int) : Decimal :=
  ⟨p.mantissa * above 2 p.exponent * below 10 e / (below 2 p.exponent * above 10 e), e⟩

/-- Whether the number is nearer to the next decimal of the grid than to this one. -/
def nearerNext (p : Parts) (d : Decimal) : Bool :=
  compareQuarters p (8 * p.mantissa) ⟨2 * d.digits + 1, d.exponent⟩ == .gt

/-- The decimal of a grid that rounds to the number and is nearest to it. -/
def onGrid? (p : Parts) (e : Int) : Option Decimal :=
  let d := floorAt p e
  let next : Decimal := ⟨d.digits + 1, e⟩
  match roundsFrom p d, roundsFrom p next with
  | true, true => some (if nearerNext p d then next else d)
  | true, false => some d
  | false, true => some next
  | false, false => none

/-- The exponents of the grids with one digit, two digits and so on. -/
def grids (p : Parts) : List Int :=
  let size : Int := (Nat.toDigits 10 (floorAt p (-330)).digits).length - 330
  (List.range 18).map fun (n : Nat) => size - (n : Int)

/-- The decimal with the fewest digits that rounds to the number. -/
def shortest (p : Parts) : Decimal := ((grids p).findSome? (onGrid? p)).getD ⟨0, 0⟩

/-- A decimal written out without an exponent. -/
def Decimal.render (d : Decimal) : String :=
  let ds := Nat.toDigits 10 d.digits
  if d.exponent ≥ 0 then String.ofList (ds ++ List.replicate d.exponent.toNat '0')
  else
    let places := (-d.exponent).toNat
    let ds := padded (places + 1) ds
    let whole := ds.take (ds.length - places)
    let fraction := (ds.drop (ds.length - places)).reverse.dropWhile (· == '0') |>.reverse
    String.ofList (whole ++ if fraction.isEmpty then [] else '.' :: fraction)

def isNegative (x : Float) : Bool := x.toBits.toNat ≥ 0x8000000000000000

/-- The shortest decimal that reads back as the number. -/
def render (x : Float) : String :=
  if x.isNaN then "NaN"
  else (if isNegative x then "-" else "") ++
    (if x.isInf then "inf" else if x == 0 then "0" else (shortest (parts x)).render)

/-- A number nearest to a decimal. -/
def ofDecimal (d : Decimal) : Float :=
  let size : Int := (Nat.toDigits 10 d.digits).length + d.exponent
  if d.digits = 0 || size < -330 then 0
  else if size > 330 then 1 / 0
  else Float.ofScientific d.digits (d.exponent < 0) d.exponent.natAbs

def exponent? (cs : List Char) : Option Int :=
  match cs with
  | [] => some 0
  | c :: cs =>
    if c ≠ 'e' && c ≠ 'E' then none
    else
      let (negative, ds) := match cs with
        | '-' :: ds => (true, ds)
        | '+' :: ds => (false, ds)
        | ds => (false, ds)
      if ds.isEmpty || !ds.all isDigit then none
      else some (if negative then -(decimal ds : Int) else decimal ds)

/-- A decimal, with a digit before or after the point, or a word for infinity or for no number. -/
def magnitude? (cs : List Char) : Option Float :=
  let word := lowerAscii (String.ofList cs)
  if word == "inf" || word == "infinity" then some (1 / 0)
  else if word == "nan" then some (0 / 0)
  else
    let whole := cs.takeWhile isDigit
    let rest := cs.dropWhile isDigit
    let (fraction, rest) := match rest with
      | '.' :: rest => (rest.takeWhile isDigit, rest.dropWhile isDigit)
      | rest => ([], rest)
    let ds := whole ++ fraction
    if ds.isEmpty then none
    else (exponent? rest).map fun e => ofDecimal ⟨decimal ds, e - fraction.length⟩

def read? (s : String) : Option Float :=
  match s.toList with
  | '-' :: cs => (magnitude? cs).map (- ·)
  | '+' :: cs => magnitude? cs
  | cs => magnitude? cs

end Gateway.Double
