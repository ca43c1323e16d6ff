import ClickHouse.Text.Casing

/-!
The words of a name, and the name made of them in small letters with underscores between them. A
letter and the marks that combine with it count as one unit.
-/

namespace ClickHouse.Text

/-- Characters that combine with the one before them besides the marks. -/
def isJoined (c : Char) : Bool :=
  let n := c.toNat
  n = 0x200C || n = 0x200D || (0xFF9E ≤ n && n ≤ 0xFF9F) || (0x1F3FB ≤ n && n ≤ 0x1F3FF) ||
    (0xE0020 ≤ n && n ≤ 0xE007F)

/-- A character with the marks that follow it. -/
abbrev TextUnit := List Char

def isControl (c : Char) : Bool :=
  c.toNat < 32 || (127 ≤ c.toNat && c.toNat < 160)

def units : List Char → List TextUnit
  | [] => []
  | c :: rest =>
    match rest, units rest with
    | next :: _, unit :: others =>
      if (isMark next || isJoined next) && !isControl c then (c :: unit) :: others
      else [c] :: unit :: others
    | _, others => [c] :: others

def isUpperUnit (unit : TextUnit) : Bool :=
  upperChars unit ≠ lowerChars unit && unit = upperChars unit

def isLowerUnit (unit : TextUnit) : Bool :=
  upperChars unit ≠ lowerChars unit && unit = lowerChars unit

def isDigitUnit (unit : TextUnit) : Bool :=
  unit.all Char.isDigit

def isSeparator (unit : TextUnit) : Bool :=
  unit = ['_'] || unit = ['-'] || unit = [' ']

/-- Whether a word ends between two units: where the case rises, and between letters and
digits. -/
def breaksBetween (left right : TextUnit) : Bool :=
  (isLowerUnit left && isUpperUnit right) ||
    (isUpperUnit left && isDigitUnit right) || (isDigitUnit left && isUpperUnit right) ||
    (isDigitUnit left && isLowerUnit right) || (isLowerUnit left && isDigitUnit right)

/-- Whether a word ends before the last capital of a run that a small letter follows. -/
def breaksBefore (left middle right : TextUnit) : Bool :=
  isUpperUnit left && isUpperUnit middle && isLowerUnit right

def breaks (left middle : TextUnit) (rest : List TextUnit) : Bool :=
  breaksBetween left middle ||
    match rest with
    | right :: _ => breaksBefore left middle right
    | [] => false

def prependUnit (unit : TextUnit) : List (List Char) → List (List Char)
  | [] => [unit]
  | word :: words => (unit ++ word) :: words

def wordsFrom : List TextUnit → List (List Char)
  | [] => [[]]
  | [unit] => if isSeparator unit then [[], []] else [unit]
  | unit :: next :: rest =>
    let words := wordsFrom (next :: rest)
    if isSeparator unit then [] :: words
    else if !isSeparator next && breaks unit next rest then unit :: words
    else prependUnit unit words

def words (text : String) : List (List Char) :=
  (wordsFrom (units text.toList)).filter fun word => !word.isEmpty

def snakeCase (text : String) : String :=
  String.ofList (List.intercalate ['_'] ((words text).map lowerChars))

end ClickHouse.Text
