import ClickHouse.Json
import ClickHouse.Text.Hex

/-!
Reading JSON text. A text is one value with only blanks around it. Containers nest at most 127
deep.
-/

namespace ClickHouse.Json

def isJsonBlank (c : Char) : Bool :=
  c = ' ' || c = '\n' || c = '\t' || c = '\r'

def skipBlanks (text : List Char) : List Char :=
  text.dropWhile isJsonBlank

def dropText? : List Char → List Char → Option (List Char)
  | [], rest => some rest
  | _ :: _, [] => none
  | expected :: more, c :: rest => if expected = c then dropText? more rest else none

/-- Appends digits to a number while it stays below two to the power 64; the digits that are left
over follow. -/
def fitDigits : Nat → List Char → Nat × List Char
  | value, [] => (value, [])
  | value, digit :: rest =>
    let next := value * 10 + (digit.toNat - 48)
    if next < 18446744073709551616 then fitDigits next rest else (value, digit :: rest)

def powerOfTen (exponent : Nat) : Float :=
  Float.ofScientific 1 false exponent

/-- Scales by powers of ten of at most 308 each; a result beyond the largest number is refused. -/
def scale? : Nat → Float → Int → Option Float
  | 0, _, _ => some 0.0
  | steps + 1, value, exponent =>
    if exponent.natAbs ≤ 308 then
      if 0 ≤ exponent then
        let scaled := value * powerOfTen exponent.natAbs
        if scaled.isInf then none else some scaled
      else some (value / powerOfTen exponent.natAbs)
    else if value == 0.0 then some value
    else if 0 ≤ exponent then none
    else scale? steps (value / powerOfTen 308) (exponent + 308)

def applySign (negative : Bool) (value : Float) : Number :=
  .float (if negative then -value else value)

def scaledNumber? (negative : Bool) (digits : Nat) (exponent : Int) : Option Number :=
  (scale? 4 (Float.ofNat digits) exponent).map (applySign negative)

/-- A whole number without exponent. Negative zero is no integer. -/
def wholeNumber? (negative : Bool) : Nat × List Char → Option Number
  | (digits, []) =>
    if negative then
      if 0 < digits ∧ digits ≤ 9223372036854775808 then some (.integer (-(digits : Int)))
      else some (applySign true (Float.ofNat digits))
    else some (.integer digits)
  | (digits, left) => scaledNumber? negative digits left.length

def readExponent? (negative : Bool) (digits : Nat) (exponent : Int) (text : List Char) :
    Option (Number × List Char) :=
  let (down, rest) :=
    match text with
    | '+' :: rest => (false, rest)
    | '-' :: rest => (true, rest)
    | _ => (false, text)
  let written := rest.takeWhile Char.isDigit
  if written.isEmpty then none
  else
    let after := rest.dropWhile Char.isDigit
    let size := Nat.ofDigitChars 10 written 0
    let number :=
      if 2147483647 < size then
        if digits = 0 ∨ down then some (applySign negative 0.0) else none
      else scaledNumber? negative digits (if down then exponent - size else exponent + size)
    number.map fun value => (value, after)

def isExponentMark (c : Char) : Bool :=
  c = 'e' || c = 'E'

def readNumberTail? (negative : Bool) (whole : Nat × List Char) :
    List Char → Option (Number × List Char)
  | '.' :: rest =>
    let written := rest.takeWhile Char.isDigit
    let after := rest.dropWhile Char.isDigit
    if written.isEmpty then none
    else
      let (digits, left) := fitDigits whole.1 written
      let exponent : Int := (whole.2.length : Int) - ((written.length - left.length : Nat) : Int)
      match after with
      | mark :: tail =>
        if isExponentMark mark then readExponent? negative digits exponent tail
        else (scaledNumber? negative digits exponent).map fun value => (value, after)
      | [] => (scaledNumber? negative digits exponent).map fun value => (value, [])
  | mark :: tail =>
    if isExponentMark mark then readExponent? negative whole.1 whole.2.length tail
    else (wholeNumber? negative whole).map fun value => (value, mark :: tail)
  | [] => (wholeNumber? negative whole).map fun value => (value, [])

def readMagnitude? (negative : Bool) : List Char → Option (Number × List Char)
  | [] => none
  | first :: rest =>
    if first = '0' then
      match rest with
      | next :: _ => if next.isDigit then none else readNumberTail? negative (0, []) rest
      | [] => readNumberTail? negative (0, []) rest
    else if first.isDigit then
      let written := first :: rest.takeWhile Char.isDigit
      readNumberTail? negative (fitDigits 0 written) (rest.dropWhile Char.isDigit)
    else none

def readNumber? : List Char → Option (Number × List Char)
  | '-' :: rest => readMagnitude? true rest
  | text => readMagnitude? false text

def readHex4? : List Char → Option (Nat × List Char)
  | a :: b :: c :: d :: rest =>
    match Text.hexValue? a, Text.hexValue? b, Text.hexValue? c, Text.hexValue? d with
    | some a, some b, some c, some d => some (((a * 16 + b) * 16 + c) * 16 + d, rest)
    | _, _, _, _ => none
  | _ => none

/-- The character that a four-digit escape denotes; the two halves of a pair belong together. -/
def readUnicodeEscape? (text : List Char) : Option (Char × List Char) :=
  match readHex4? text with
  | none => none
  | some (unit, rest) =>
    if 0xDC00 ≤ unit ∧ unit ≤ 0xDFFF then none
    else if 0xD800 ≤ unit ∧ unit ≤ 0xDBFF then
      match rest with
      | '\\' :: 'u' :: rest =>
        match readHex4? rest with
        | none => none
        | some (low, rest) =>
          if 0xDC00 ≤ low ∧ low ≤ 0xDFFF then
            some (Char.ofNat (0x10000 + (unit - 0xD800) * 0x400 + (low - 0xDC00)), rest)
          else none
      | _ => none
    else some (Char.ofNat unit, rest)

def simpleEscape? (c : Char) : Option Char :=
  if c = '\x22' ∨ c = '\\' ∨ c = '/' then some c
  else if c = 'b' then some '\x08'
  else if c = 'f' then some '\x0c'
  else if c = 'n' then some '\n'
  else if c = 'r' then some '\r'
  else if c = 't' then some '\t'
  else none

def readStringTail? : Nat → List Char → Option (List Char × List Char)
  | 0, _ => none
  | _ + 1, [] => none
  | fuel + 1, c :: rest =>
    if c = '\x22' then some ([], rest)
    else if c = '\\' then
      match rest with
      | [] => none
      | escape :: rest =>
        let read :=
          if escape = 'u' then readUnicodeEscape? rest
          else (simpleEscape? escape).map fun value => (value, rest)
        match read with
        | none => none
        | some (value, rest) =>
          match readStringTail? fuel rest with
          | none => none
          | some (text, rest) => some (value :: text, rest)
    else if c.toNat < 32 then none
    else
      match readStringTail? fuel rest with
      | none => none
      | some (text, rest) => some (c :: text, rest)

def readString? : List Char → Option (String × List Char)
  | '\x22' :: rest =>
    (readStringTail? (rest.length + 1) rest).map fun (text, rest) => (String.ofList text, rest)
  | _ => none

def readWord? (word : String) (value : Json) (text : List Char) : Option (Json × List Char) :=
  (dropText? word.toList text).map fun rest => (value, rest)

mutual

/-- Reads a value that may hold containers nested `depth` deep. -/
def readValue? : Nat → Nat → List Char → Option (Json × List Char)
  | 0, _, _ => none
  | fuel + 1, depth, text =>
    match skipBlanks text with
    | [] => none
    | '\x22' :: rest => (readString? ('\x22' :: rest)).map fun (text, rest) => (.string text, rest)
    | '[' :: rest =>
      match depth, skipBlanks rest with
      | 0, _ => none
      | _ + 1, ']' :: rest => some (.array [], rest)
      | depth + 1, rest =>
        (readItems? fuel depth rest).map fun (items, rest) => (.array items, rest)
    | '\x7b' :: rest =>
      match depth, skipBlanks rest with
      | 0, _ => none
      | _ + 1, '\x7d' :: rest => some (.object [], rest)
      | depth + 1, rest =>
        (readMembers? fuel depth rest).map fun (members, rest) => (ofMembers members, rest)
    | 'n' :: rest => readWord? "null" .null ('n' :: rest)
    | 't' :: rest => readWord? "true" (.bool true) ('t' :: rest)
    | 'f' :: rest => readWord? "false" (.bool false) ('f' :: rest)
    | c :: rest => (readNumber? (c :: rest)).map fun (value, rest) => (.number value, rest)

def readItems? : Nat → Nat → List Char → Option (List Json × List Char)
  | 0, _, _ => none
  | fuel + 1, depth, text =>
    match readValue? fuel depth text with
    | none => none
    | some (item, rest) =>
      match skipBlanks rest with
      | ']' :: rest => some ([item], rest)
      | ',' :: rest => (readItems? fuel depth rest).map fun (items, rest) => (item :: items, rest)
      | _ => none

def readMembers? : Nat → Nat → List Char → Option (List (String × Json) × List Char)
  | 0, _, _ => none
  | fuel + 1, depth, text =>
    match readString? (skipBlanks text) with
    | none => none
    | some (name, rest) =>
      match skipBlanks rest with
      | ':' :: rest =>
        match readValue? fuel depth rest with
        | none => none
        | some (value, rest) =>
          match skipBlanks rest with
          | '\x7d' :: rest => some ([(name, value)], rest)
          | ',' :: rest =>
            (readMembers? fuel depth rest).map fun (members, rest) =>
              ((name, value) :: members, rest)
          | _ => none
      | _ => none

end

def read? (text : String) : Option Json :=
  match readValue? (2 * text.length + 2) 127 text.toList with
  | some (value, rest) => if (skipBlanks rest).isEmpty then some value else none
  | none => none

end ClickHouse.Json
