/-!
The fewest decimal digits that read back to a floating-point number of 64 bits. The reals that
round to a number form an interval; of the decimal grids, from coarse to fine, the first with a
point in the interval wins, and on it the point nearest to the number.
-/

namespace ClickHouse.Decimal

/-- Two to a power; one for a negative power. -/
def twoTo (power : Int) : Nat :=
  Nat.pow 2 power.toNat

def tenTo (power : Int) : Nat :=
  Nat.pow 10 power.toNat

/-- A finite magnitude, `mantissa` times two to the power `exponent`. -/
structure Magnitude where
  mantissa : Nat
  exponent : Int
  /-- The gap below is half the gap above. -/
  narrowBelow : Bool
  deriving DecidableEq, Repr

def Magnitude.ofBits (bits : UInt64) : Magnitude :=
  let biased := ((bits >>> 52) &&& 0x7FF).toNat
  let fraction := (bits &&& 0xFFFFFFFFFFFFF).toNat
  if biased = 0 then ⟨fraction, -1074, false⟩
  else ⟨twoTo 52 + fraction, (biased : Int) - 1075, fraction = 0 && 1 < biased⟩

/-- `digits` times ten to the power `exponent`. -/
structure Scaled where
  digits : Nat
  exponent : Int
  deriving DecidableEq, Repr

/-- Compares `left * 10 ^ ten` with `right * 2 ^ two`. -/
def compareScaled (left : Nat) (ten : Int) (right : Nat) (two : Int) : Ordering :=
  compare (left * tenTo ten * twoTo (-two)) (right * twoTo two * tenTo (-ten))

/-- Whether a decimal lies among the reals that round to a magnitude. The ends belong to it when
the mantissa is even. -/
def Magnitude.readsBack (magnitude : Magnitude) (decimal : Scaled) : Bool :=
  let low := 4 * magnitude.mantissa - (if magnitude.narrowBelow then 1 else 2)
  let high := 4 * magnitude.mantissa + 2
  let closed := magnitude.mantissa % 2 = 0
  let atLow := compareScaled decimal.digits decimal.exponent low (magnitude.exponent - 2)
  let atHigh := compareScaled decimal.digits decimal.exponent high (magnitude.exponent - 2)
  (atLow = .gt || (closed && atLow = .eq)) && (atHigh = .lt || (closed && atHigh = .eq))

inductive Tie where
  | up
  | even
  deriving DecidableEq, Repr

/-- The largest multiple of `10 ^ ten` that is at most the magnitude, in units of that power. -/
def Magnitude.floorAt (magnitude : Magnitude) (ten : Int) : Nat :=
  magnitude.mantissa * twoTo magnitude.exponent * tenTo (-ten) /
    (tenTo ten * twoTo (-magnitude.exponent))

def Magnitude.leadingPower (magnitude : Magnitude) : Int :=
  let whole := magnitude.floorAt 0
  if 0 < whole then ((Nat.toDigits 10 whole).length : Int) - 1
  else
    let denominator := twoTo (-magnitude.exponent)
    let power : Int := (Nat.toDigits 10 (denominator / magnitude.mantissa)).length
    if magnitude.mantissa * tenTo (power - 1) = denominator then 1 - power else -power

/-- The better of the two neighbours of a magnitude on the grid of `10 ^ ten`, if one reads
back. -/
def Magnitude.onGrid? (tie : Tie) (magnitude : Magnitude) (ten : Int) : Option Scaled :=
  let lower := magnitude.floorAt ten
  let below := magnitude.readsBack ⟨lower, ten⟩
  let above := magnitude.readsBack ⟨lower + 1, ten⟩
  if below && above then
    match compareScaled (2 * lower + 1) ten (2 * magnitude.mantissa) magnitude.exponent with
    | .gt => some ⟨lower, ten⟩
    | .lt => some ⟨lower + 1, ten⟩
    | .eq =>
      if tie = .even && lower % 2 = 0 then some ⟨lower, ten⟩ else some ⟨lower + 1, ten⟩
  else if below then some ⟨lower, ten⟩
  else if above then some ⟨lower + 1, ten⟩
  else none

/-- Tries `attempts` grids, each ten times as fine as the one before. -/
def Magnitude.search (tie : Tie) (magnitude : Magnitude) : Nat → Int → Scaled
  | 0, ten => ⟨magnitude.floorAt ten, ten⟩
  | attempts + 1, ten =>
    match magnitude.onGrid? tie ten with
    | some decimal => decimal
    | none => magnitude.search tie attempts (ten - 1)

/-- The shortest decimal of a positive magnitude; seventeen digits always suffice. -/
def Magnitude.shortest (tie : Tie) (magnitude : Magnitude) : Scaled :=
  magnitude.search tie 17 magnitude.leadingPower

end ClickHouse.Decimal
