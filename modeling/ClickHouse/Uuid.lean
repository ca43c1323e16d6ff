import ClickHouse.Text.Hex

/-!
Universally unique identifiers of 128 bits.
-/

namespace ClickHouse

structure Uuid where
  value : BitVec 128
  deriving DecidableEq, Repr, Inhabited

namespace Uuid

def readHex? : Nat → List Char → Option Nat
  | value, [] => some value
  | value, c :: rest =>
    match Text.hexValue? c with
    | some digit => readHex? (value * 16 + digit) rest
    | none => none

def readSimple? (text : List Char) : Option Uuid :=
  if text.length = 32 then (readHex? 0 text).map fun value => ⟨BitVec.ofNat 128 value⟩ else none

/-- Groups of 8, 4, 4, 4 and 12 digits with hyphens between them. -/
def readHyphenated? (text : List Char) : Option Uuid :=
  if text.length = 36 ∧ text[8]? = some '-' ∧ text[13]? = some '-' ∧ text[18]? = some '-' ∧
      text[23]? = some '-' then
    readSimple? (text.take 8 ++ (text.drop 9).take 4 ++ (text.drop 14).take 4 ++
      (text.drop 19).take 4 ++ text.drop 24)
  else none

/-- Digits alone, hyphenated groups, groups in braces, or groups after the name of the scheme. -/
def read? (text : List Char) : Option Uuid :=
  if text.length = 32 then readSimple? text
  else if text.length = 36 then readHyphenated? text
  else if text.length = 38 ∧ text.head? = some '\x7b' ∧ text.getLast? = some '\x7d' then
    readHyphenated? (text.drop 1).dropLast
  else if text.length = 45 ∧ text.take 9 = "urn:uuid:".toList then
    readHyphenated? (text.drop 9)
  else none

def hexDigits : Nat → Nat → List Char
  | 0, _ => []
  | count + 1, value => hexDigits count (value / 16) ++ [Nat.digitChar (value % 16)]

def render (uuid : Uuid) : String :=
  let digits := hexDigits 32 uuid.value.toNat
  String.ofList (digits.take 8 ++ '-' :: (digits.drop 8).take 4 ++ '-' :: (digits.drop 12).take 4 ++
    '-' :: (digits.drop 16).take 4 ++ '-' :: digits.drop 20)

end Uuid

end ClickHouse
