import ClickHouse.Identifier
import ClickHouse.Text.Blank

/-!
The target in the statement that made a materialized view: it follows the name of the view, an
identifier of the view and a cluster, if they are given. A word further on is no target.
-/

namespace ClickHouse.ViewTarget

/-- Whether two characters differ in case at most; `letter` is a small letter. -/
def sameLetter (letter c : Char) : Bool :=
  c.toLower = letter || (letter = 's' && c.toNat = 0x17F) || (letter = 'k' && c.toNat = 0x212A)

def dropWord? : List Char → List Char → Option (List Char)
  | [], rest => some rest
  | _ :: _, [] => none
  | letter :: word, c :: rest => if sameLetter letter c then dropWord? word rest else none

def dropBlanks? : List Char → Option (List Char)
  | [] => none
  | c :: rest => if Text.isBlank c then some (rest.dropWhile Text.isBlank) else none

def dropRun? (text : List Char) : Option (List Char) :=
  match text with
  | [] => none
  | c :: _ =>
    if Text.isBlank c then none else some (text.dropWhile fun c => !Text.isBlank c)

def dropWords? : List String → List Char → Option (List Char)
  | [], rest => some rest
  | word :: words, text => do
    let rest ← dropWord? word.toList text
    let rest ← dropBlanks? rest
    dropWords? words rest

def isTargetChar (c : Char) : Bool :=
  c.isAlphanum || c = '_' || c = '.' || c = '\x60' || c.toNat = 0x17F || c.toNat = 0x212A

def readTarget? (text : List Char) : Option (List Char) := do
  let rest ← dropBlanks? text
  let rest ← dropWords? ["to"] rest
  let target := rest.takeWhile isTargetChar
  if target.isEmpty then none else some target

def dropCluster? (text : List Char) : Option (List Char) := do
  let rest ← dropBlanks? text
  let rest ← dropWords? ["on", "cluster"] rest
  dropRun? rest

def dropUuid? (text : List Char) : Option (List Char) := do
  let rest ← dropBlanks? text
  let rest ← dropWords? ["uuid"] rest
  match rest with
  | '\x27' :: inside =>
    match inside.dropWhile fun c => c ≠ '\x27' with
    | _ :: rest => some rest
    | [] => none
  | _ => none

/-- What a part that may be missing leaves, and then the text as it is. -/
def attempt {α : Type} (skip : List Char → Option (List Char)) (next : List Char → Option α)
    (text : List Char) : Option α :=
  ((skip text).bind next).or (next text)

def afterView? (text : List Char) : Option (List Char) := do
  let rest ← dropRun? text
  attempt dropUuid? (attempt dropCluster? readTarget?) rest

def written? (statement : List Char) : Option (List Char) := do
  let text := statement.dropWhile Text.isBlank
  let rest ← (dropWords? ["create"] text).or (dropWords? ["attach"] text)
  let rest ← dropWords? ["materialized", "view"] rest
  attempt (dropWords? ["if", "not", "exists"]) afterView? rest

/-- The table that a target names; the word for inner storage names none. -/
def tableOf? (target : List Char) : Option TableName :=
  let plain := target.filter fun c => c ≠ '\x60'
  if plain.map Char.toUpper = "INNER".toList then none
  else
    match plain.dropWhile fun c => c ≠ '.' with
    | [] => some ⟨String.ofList plain, none⟩
    | _ :: name =>
      some ⟨String.ofList name, some (String.ofList (plain.takeWhile fun c => c ≠ '.'))⟩

def ofStatement? (statement : String) : Option TableName :=
  (written? statement.toList).bind tableOf?

end ClickHouse.ViewTarget
