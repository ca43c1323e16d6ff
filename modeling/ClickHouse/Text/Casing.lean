import ClickHouse.Text.CaseTable

/-!
Small and capital letters by the full mappings of Unicode. A capital sigma at the end of a word
has a small form of its own.
-/

namespace ClickHouse.Text

def CaseRange.contains (range : CaseRange) (code : Nat) : Bool :=
  range.first ≤ code && code ≤ range.last && (code - range.first) % range.step = 0

def mapCode (ranges : List CaseRange) (code : Nat) : Nat :=
  match ranges.find? fun range => range.contains code with
  | some range => (code + range.offset).toNat
  | none => code

def inRanges (ranges : List (Nat × Nat)) (c : Char) : Bool :=
  ranges.any fun range => range.1 ≤ c.toNat && c.toNat ≤ range.2

def isMark (c : Char) : Bool :=
  128 ≤ c.toNat && inRanges markRanges c

def isSkipped (c : Char) : Bool :=
  isMark c || inRanges skippedRanges c

def isCased (c : Char) : Bool :=
  !isSkipped c && inRanges casedRanges c

def lowerChar (c : Char) : List Char :=
  if c.toNat < 128 then [c.toLower]
  else if c.toNat = 0x130 then ['i', Char.ofNat 0x307]
  else [Char.ofNat (mapCode lowerRanges c.toNat)]

def upperChar (c : Char) : List Char :=
  if c.toNat < 128 then [c.toUpper]
  else
    match upperExpansions.lookup c.toNat with
    | some codes => codes.map Char.ofNat
    | none => [Char.ofNat (mapCode upperRanges c.toNat)]

/-- Whether the next character that is not skipped has a case. -/
def casedFollows : List Char → Bool
  | [] => false
  | c :: rest => if isSkipped c then casedFollows rest else isCased c

/-- The small letters of a text before which a letter with a case stands or not. -/
def lowerFrom : Bool → List Char → List Char
  | _, [] => []
  | inWord, c :: rest =>
    let next := if isSkipped c then inWord else isCased c
    if c.toNat = 0x3A3 then
      Char.ofNat (if inWord && !casedFollows rest then 0x3C2 else 0x3C3) :: lowerFrom next rest
    else lowerChar c ++ lowerFrom next rest

def lowerChars (text : List Char) : List Char :=
  if text.all fun c => c.toNat < 128 then text.map Char.toLower else lowerFrom false text

def upperChars (text : List Char) : List Char :=
  text.flatMap upperChar

def lower (text : String) : String :=
  String.ofList (lowerChars text.toList)

def upper (text : String) : String :=
  String.ofList (upperChars text.toList)

end ClickHouse.Text
