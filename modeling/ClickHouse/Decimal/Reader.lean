/-!
Reading integers and floating-point numbers from text.
-/

namespace ClickHouse.Decimal

def isDigits (text : List Char) : Bool :=
  !text.isEmpty && text.all Char.isDigit

def naturalOf (digits : List Char) : Nat :=
  Nat.ofDigitChars 10 digits 0

def splitSign : List Char → Bool × List Char
  | '-' :: rest => (true, rest)
  | '+' :: rest => (false, rest)
  | text => (false, text)

def signed (negative : Bool) (magnitude : Nat) : Int :=
  if negative then -(magnitude : Int) else magnitude

def readInt64? (text : List Char) : Option Int :=
  let (negative, digits) := splitSign text
  if isDigits digits then
    let value := signed negative (naturalOf digits)
    if -9223372036854775808 ≤ value ∧ value ≤ 9223372036854775807 then some value else none
  else none

/-- An integer with an optional plus sign, in the range of unsigned numbers of 64 bits. -/
def readUInt64? (text : List Char) : Option Nat :=
  let digits :=
    match text with
    | '+' :: rest => rest
    | _ => text
  if isDigits digits ∧ naturalOf digits < 18446744073709551616 then some (naturalOf digits)
  else none

/-- An integer of any size; underscores may stand after the first digit. -/
def readBigInt? (text : List Char) : Option Int :=
  match splitSign text with
  | (negative, first :: rest) =>
    if first.isDigit && rest.all (fun c => c.isDigit || c = '_') then
      some (signed negative (naturalOf ((first :: rest).filter Char.isDigit)))
    else none
  | (_, []) => none

/-- The number nearest to `digits * 10 ^ exponent`. A first digit beyond the range of the format
gives infinity or zero without raising ten to a large power. -/
def nearest (digits : Nat) (exponent : Int) : Float :=
  let leading := ((Nat.toDigits 10 digits).length : Int) + exponent
  if digits = 0 ∨ leading < -400 then 0.0
  else if 400 < leading then 1.0 / 0.0
  else if exponent < 0 then Float.ofScientific digits true exponent.natAbs
  else Float.ofScientific digits false exponent.natAbs

def readExponent? (text : List Char) : Option Int :=
  let (negative, digits) := splitSign text
  if isDigits digits then some (signed negative (naturalOf digits)) else none

/-- A number without sign: digits on at least one side of a point, and an exponent. -/
def readUnsignedFloat? (text : List Char) : Option Float :=
  let whole := text.takeWhile Char.isDigit
  let afterWhole := text.dropWhile Char.isDigit
  let (fraction, rest) :=
    match afterWhole with
    | '.' :: tail => (tail.takeWhile Char.isDigit, tail.dropWhile Char.isDigit)
    | _ => ([], afterWhole)
  if whole.isEmpty && fraction.isEmpty then none
  else
    let digits := naturalOf (whole ++ fraction)
    let scale := -(fraction.length : Int)
    match rest with
    | [] => some (nearest digits scale)
    | mark :: tail =>
      if mark = 'e' ∨ mark = 'E' then
        match readExponent? tail with
        | some exponent => some (nearest digits (scale + exponent))
        | none => none
      else none

/-- A number with an optional sign, or a word for infinity or for no number, in any case. -/
def readFloat? (text : List Char) : Option Float :=
  let (negative, rest) := splitSign text
  let word := String.ofList (rest.map Char.toLower)
  let magnitude :=
    if word = "inf" ∨ word = "infinity" then some (1.0 / 0.0)
    else if word = "nan" then some (0.0 / 0.0)
    else readUnsignedFloat? rest
  if negative then magnitude.map fun value => -value else magnitude

end ClickHouse.Decimal
