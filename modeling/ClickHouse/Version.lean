import ClickHouse.Text.Blank

/-!
Versions of the server. Three numbers decide the order; a missing one counts as zero, and what
follows them is a tag that does not matter.
-/

namespace ClickHouse

structure Version where
  text : String
  numbers : List Nat
  tag : Option String
  deriving DecidableEq, Repr, Inhabited

namespace Version

def splitDots : List Char → List (List Char)
  | [] => [[]]
  | c :: rest =>
    if c = '.' then [] :: splitDots rest
    else
      match splitDots rest with
      | [] => [[c]]
      | part :: parts => (c :: part) :: parts

/-- The number in front of a component: zero when there is none or it does not fit 32 bits. -/
def component (part : List Char) : Nat :=
  let value := Nat.ofDigitChars 10 (part.takeWhile Char.isDigit) 0
  if value < 4294967296 then value else 0

def read (text : String) : Version :=
  let parts := splitDots (Text.trimChars text.toList)
  ⟨text, (parts.take 3).map component, parts[3]?.map String.ofList⟩

/-- Compares two lists of numbers as if the shorter one went on with zeros. -/
def compareNumbers : List Nat → List Nat → Ordering
  | [], rights => if rights.all fun right => right = 0 then .eq else .lt
  | left :: lefts, rights =>
    (compare left (rights.headD 0)).then (compareNumbers lefts rights.tail)

def order (left right : Version) : Ordering :=
  compareNumbers left.numbers right.numbers

def atLeast (version : Version) (minimum : List Nat) : Bool :=
  compareNumbers version.numbers minimum ≠ .lt

end Version

inductive Feature where
  | delete
  | update
  | engineReflection
  | tableCommentReflection
  deriving DecidableEq, Repr, Inhabited

def Feature.since : Feature → List Nat
  | delete => [1, 1, 54388]
  | update => [18, 12, 14]
  | engineReflection => [18, 16, 0]
  | tableCommentReflection => [21, 6, 0]

end ClickHouse
