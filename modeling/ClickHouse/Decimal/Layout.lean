import ClickHouse.Decimal.Shortest

/-!
Floating-point numbers as text: the digits of the shortest decimal, laid out in positional or in
exponent notation.
-/

namespace ClickHouse.Decimal

/-- Significant digits, the first of which stands for `10 ^ leading`. -/
structure Digits where
  digits : List Char
  leading : Int
  deriving DecidableEq, Repr

def dropTrailingZeros : List Char → List Char
  | [] => []
  | digit :: rest =>
    match dropTrailingZeros rest with
    | [] => if digit = '0' then [] else [digit]
    | kept => digit :: kept

def Scaled.toDigits (decimal : Scaled) : Digits :=
  let all := Nat.toDigits 10 decimal.digits
  ⟨dropTrailingZeros all, decimal.exponent + (all.length : Int) - 1⟩

def zeros (count : Nat) : List Char :=
  List.replicate count '0'

/-- Positional notation; the fraction is empty for a whole number. -/
def Digits.positional (number : Digits) : List Char × List Char :=
  if number.leading < 0 then
    (['0'], zeros (-number.leading - 1).toNat ++ number.digits)
  else
    let places := number.leading.toNat + 1
    (number.digits.take places ++ zeros (places - number.digits.length),
      number.digits.drop places)

def Digits.scientific (number : Digits) : List Char :=
  let point :=
    match number.digits with
    | [] => []
    | [only] => [only]
    | first :: rest => first :: '.' :: rest
  let sign := if number.leading < 0 then '-' else '+'
  point ++ 'e' :: sign :: Nat.toDigits 10 number.leading.natAbs

def isNegative (number : Float) : Bool :=
  number.toBits >>> 63 = 1

/-- The digits of a finite number other than zero. -/
def digitsOf (tie : Tie) (number : Float) : Digits :=
  ((Magnitude.ofBits number.toBits).shortest tie).toDigits

def isZero (number : Float) : Bool :=
  (Magnitude.ofBits number.toBits).mantissa = 0

def withSign (number : Float) (text : List Char) : String :=
  String.ofList (if isNegative number then '-' :: text else text)

/-- The text of a number in a statement: positional, without a point when it is whole; zero keeps
its sign. -/
def plain (number : Float) : String :=
  if number.isNaN then "nan"
  else if number.isInf then if isNegative number then "-inf" else "inf"
  else if isZero number then withSign number ['0']
  else
    match (digitsOf .up number).positional with
    | (whole, []) => withSign number whole
    | (whole, fraction) => withSign number (whole ++ '.' :: fraction)

/-- The text of a finite number in JSON: positional with a fraction when the first digit stands
for a power between -5 and 15, exponent notation beyond. -/
def jsonText (number : Float) : String :=
  if isZero number then withSign number ['0', '.', '0']
  else
    let digits := digitsOf .even number
    if -5 ≤ digits.leading ∧ digits.leading ≤ 15 then
      match digits.positional with
      | (whole, []) => withSign number (whole ++ ['.', '0'])
      | (whole, fraction) => withSign number (whole ++ '.' :: fraction)
    else withSign number digits.scientific

end ClickHouse.Decimal
