import ClickHouse.Text.Blank

/-!
Dates of the proleptic Gregorian calendar and times of day. A leap second is a count of nanoseconds
from 10^9 upwards; any second can have one, but it is read only behind the second 59.
-/

namespace ClickHouse

structure Date where
  year : Int
  month : Nat
  day : Nat
  deriving DecidableEq, Repr, Inhabited

structure DateTime where
  date : Date
  hour : Nat
  minute : Nat
  second : Nat
  nanosecond : Nat
  deriving DecidableEq, Repr, Inhabited

namespace Date

def isLeapYear (year : Int) : Bool :=
  year % 4 = 0 && (year % 100 ≠ 0 || year % 400 = 0)

def daysIn (year : Int) (month : Nat) : Nat :=
  if month = 2 then if isLeapYear year then 29 else 28
  else if month = 4 ∨ month = 6 ∨ month = 9 ∨ month = 11 then 30
  else 31

/-- The years that are represented are -262143 to 262142. -/
def IsValid (date : Date) : Prop :=
  -262143 ≤ date.year ∧ date.year ≤ 262142 ∧ 1 ≤ date.month ∧ date.month ≤ 12 ∧
    1 ≤ date.day ∧ date.day ≤ daysIn date.year date.month

instance (date : Date) : Decidable date.IsValid := by
  unfold IsValid
  infer_instance

end Date

namespace Calendar

def padded (width value : Nat) : String :=
  let digits := Nat.toDigits 10 value
  String.ofList (List.replicate (width - digits.length) '0' ++ digits)

/-- At least four digits; a sign stands before a negative year and before one above 9999. -/
def yearText (year : Int) : String :=
  if year < 0 then "-" ++ padded 4 year.natAbs
  else if 9999 < year then "+" ++ padded 4 year.natAbs
  else padded 4 year.natAbs

def dateText (date : Date) : String :=
  yearText date.year ++ "-" ++ padded 2 date.month ++ "-" ++ padded 2 date.day

/-- The fewest of three, six or nine digits that are exact; none for a whole second. -/
def fractionText (nanosecond : Nat) : String :=
  let fraction := nanosecond % 1000000000
  if fraction = 0 then ""
  else if fraction % 1000000 = 0 then "." ++ padded 3 (fraction / 1000000)
  else if fraction % 1000 = 0 then "." ++ padded 6 (fraction / 1000)
  else "." ++ padded 9 fraction

def secondText (time : DateTime) : String :=
  padded 2 (if time.nanosecond < 1000000000 then time.second else time.second + 1)

def dateTimeText (time : DateTime) : String :=
  dateText time.date ++ " " ++ padded 2 time.hour ++ ":" ++ padded 2 time.minute ++ ":" ++
    secondText time ++ fractionText time.nanosecond

def skipBlanks (text : List Char) : List Char :=
  text.dropWhile Text.isBlank

/-- A number of one to `width` digits. -/
def readDigits? (width : Nat) (text : List Char) : Option (Nat × List Char) :=
  let digits := (text.take width).takeWhile Char.isDigit
  if digits.isEmpty then none
  else some (Nat.ofDigitChars 10 digits 0, text.drop digits.length)

/-- A field of one or two digits with blanks before it. -/
def readField? (text : List Char) : Option (Nat × List Char) :=
  readDigits? 2 (skipBlanks text)

/-- A year of one to four digits, or of any number of digits after a sign. -/
def readYear? (text : List Char) : Option (Int × List Char) :=
  match skipBlanks text with
  | '-' :: rest => (readDigits? rest.length rest).map fun (year, rest) => (-(year : Int), rest)
  | '+' :: rest => (readDigits? rest.length rest).map fun (year, rest) => ((year : Int), rest)
  | rest => (readDigits? 4 rest).map fun (year, rest) => ((year : Int), rest)

def readMarked? (mark : Char) : List Char → Option (Nat × List Char)
  | c :: rest => if c = mark then readField? rest else none
  | [] => none

def readDatePart? (text : List Char) : Option (Date × List Char) :=
  match readYear? text with
  | none => none
  | some (year, rest) =>
    match readMarked? '-' rest with
    | none => none
    | some (month, rest) =>
      match readMarked? '-' rest with
      | none => none
      | some (day, rest) => some (⟨year, month, day⟩, rest)

def readDate? (text : List Char) : Option Date :=
  match readDatePart? text with
  | some (date, []) => if date.IsValid then some date else none
  | _ => none

/-- The nanoseconds of a fraction, which is cut after nine digits; none at the end of the text. -/
def readFraction? : List Char → Option Nat
  | [] => some 0
  | '.' :: rest =>
    if !rest.isEmpty && rest.all Char.isDigit then
      let digits := rest.take 9
      some (Nat.ofDigitChars 10 digits 0 * Nat.pow 10 (9 - digits.length))
    else none
  | _ => none

/-- The second 60 is a leap second. -/
def withSecond? (date : Date) (hour minute second nanosecond : Nat) : Option DateTime :=
  if date.IsValid ∧ hour ≤ 23 ∧ minute ≤ 59 ∧ second ≤ 60 then
    if second = 60 then some ⟨date, hour, minute, 59, 1000000000 + nanosecond⟩
    else some ⟨date, hour, minute, second, nanosecond⟩
  else none

/-- A date and a time, with or without blanks between them and with or without a fraction. -/
def readDateTime? (text : List Char) : Option DateTime :=
  match readDatePart? text with
  | none => none
  | some (date, rest) =>
    match readField? rest with
    | none => none
    | some (hour, rest) =>
      match readMarked? ':' rest with
      | none => none
      | some (minute, rest) =>
        match readMarked? ':' rest with
        | none => none
        | some (second, rest) =>
          match readFraction? rest with
          | none => none
          | some nanosecond => withSecond? date hour minute second nanosecond

end Calendar

end ClickHouse
