import ClickHouse.Decimal.Reader
import ClickHouse.Text.Hex
import ClickHouse.Toml

/-!
Bare values of TOML: truth values, numbers, dates and times.
-/

namespace ClickHouse.Toml

/-- Digits of a base with single underscores between them. -/
def digits? (isDigit : Char → Bool) : List Char → Option (List Char)
  | [] => none
  | [c] => if isDigit c then some [c] else none
  | c :: '_' :: rest => if isDigit c then (digits? isDigit rest).map (c :: ·) else none
  | c :: rest => if isDigit c then (digits? isDigit rest).map (c :: ·) else none

def valueIn (base : Nat) (digits : List Char) : Nat :=
  digits.foldl (fun value c => value * base + (Text.hexValue? c).getD 0) 0

def inRange? (value : Int) : Option Int :=
  if -9223372036854775808 ≤ value ∧ value ≤ 9223372036854775807 then some value else none

def isBaseDigit (base : Nat) (c : Char) : Bool :=
  (Text.hexValue? c).any fun value => value < base

def readBase? (base : Nat) (text : List Char) : Option Int :=
  (digits? (isBaseDigit base) text).bind fun digits => inRange? (valueIn base digits)

def hasLeadingZero (digits : List Char) : Bool :=
  digits.head? = some '0' && 1 < digits.length

def readDecimal? (text : List Char) : Option Int :=
  let (negative, rest) := Decimal.splitSign text
  match digits? Char.isDigit rest with
  | none => none
  | some digits =>
    if hasLeadingZero digits then none
    else inRange? (Decimal.signed negative (Decimal.naturalOf digits))

def readInteger? (text : List Char) : Option Int :=
  match text with
  | '0' :: 'x' :: rest => readBase? 16 rest
  | '0' :: 'o' :: rest => readBase? 8 rest
  | '0' :: 'b' :: rest => readBase? 2 rest
  | _ => readDecimal? text

def readExponent? (text : List Char) : Option Int :=
  let (negative, rest) := Decimal.splitSign text
  (digits? Char.isDigit rest).map fun digits =>
    Decimal.signed negative (Decimal.naturalOf digits)

def isExponentMark (c : Char) : Bool :=
  c = 'e' || c = 'E'

/-- A number with a fraction, an exponent or both; it has to be in the range of the format. -/
def readFinite? (text : List Char) : Option Float := do
  let (mantissa, tail) := (text.takeWhile fun c => !isExponentMark c,
    text.dropWhile fun c => !isExponentMark c)
  let exponent ← match tail with
    | [] => some 0
    | _ :: rest => readExponent? rest
  let whole ← digits? Char.isDigit (mantissa.takeWhile fun c => c ≠ '.')
  let fraction ← match mantissa.dropWhile fun c => c ≠ '.' with
    | [] => if tail.isEmpty then none else some []
    | _ :: rest => digits? Char.isDigit rest
  let value := Decimal.nearest (Decimal.naturalOf (whole ++ fraction))
    (exponent - (fraction.length : Int))
  if hasLeadingZero whole || value.isInf then none else some value

def readFloat? (text : List Char) : Option Float :=
  let (negative, rest) := Decimal.splitSign text
  let magnitude :=
    if rest = "inf".toList then some (1.0 / 0.0)
    else if rest = "nan".toList then some (0.0 / 0.0)
    else readFinite? rest
  if negative then magnitude.map fun value => -value else magnitude

/-- Passes over two digits whose value is in a range. -/
def dropPair? (low high : Nat) : List Char → Option (List Char)
  | tens :: ones :: rest =>
    let value := Decimal.naturalOf [tens, ones]
    if tens.isDigit && ones.isDigit && low ≤ value && value ≤ high then some rest else none
  | _ => none

def dropMark? (mark : Char) : List Char → Option (List Char)
  | c :: rest => if c = mark then some rest else none
  | [] => none

def dropDate? (text : List Char) : Option (List Char) := do
  let rest ← dropPair? 0 99 text
  let rest ← dropPair? 0 99 rest
  let rest ← dropMark? '-' rest
  let rest ← dropPair? 1 12 rest
  let rest ← dropMark? '-' rest
  dropPair? 1 31 rest

def dropFraction? : List Char → Option (List Char)
  | '.' :: rest =>
    if (rest.takeWhile Char.isDigit).isEmpty then none else some (rest.dropWhile Char.isDigit)
  | rest => some rest

def dropTime? (text : List Char) : Option (List Char) := do
  let rest ← dropPair? 0 24 text
  let rest ← dropMark? ':' rest
  let rest ← dropPair? 0 59 rest
  let rest ← dropMark? ':' rest
  let rest ← dropPair? 0 59 rest
  dropFraction? rest

def dropOffset? (text : List Char) : Option (List Char) := do
  let rest ← dropPair? 0 99 text
  let rest ← dropMark? ':' rest
  dropPair? 0 99 rest

def isOffset (text : List Char) : Bool :=
  match text with
  | [] => true
  | [c] => c = 'Z' || c = 'z'
  | sign :: rest => (sign = '+' || sign = '-') && dropOffset? rest = some []

def isDateTime (text : List Char) : Bool :=
  match dropDate? text with
  | some [] => true
  | some (mark :: rest) =>
    (mark = 'T' || mark = 't' || mark = ' ') && (dropTime? rest).any isOffset
  | none => dropTime? text = some []

/-- A fraction of a second without the zeros at its end; at most nine digits count. -/
def fractionText (digits : List Char) : List Char :=
  match ((digits.take 9).reverse.dropWhile fun c => c = '0').reverse with
  | [] => []
  | kept => '.' :: kept

/-- The written form: a capital letter between date and time, and one for the zero offset. -/
def dateTimeText (text : List Char) : String :=
  let plain := text.map fun c => if c = ' ' then 'T' else c.toUpper
  match plain.dropWhile fun c => c ≠ '.' with
  | [] => String.ofList plain
  | _ :: rest =>
    String.ofList ((plain.takeWhile fun c => c ≠ '.') ++
      fractionText (rest.takeWhile Char.isDigit) ++ rest.dropWhile Char.isDigit)

def readBare? (text : List Char) : Option Toml :=
  if text = "true".toList then some (.boolean true)
  else if text = "false".toList then some (.boolean false)
  else if isDateTime text then some (.dateTime (dateTimeText text))
  else
    match readInteger? text with
    | some value => some (.integer value)
    | none => (readFloat? text).map .float

end ClickHouse.Toml
