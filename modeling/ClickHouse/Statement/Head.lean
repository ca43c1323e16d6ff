import ClickHouse.Lexeme.Group

/-!
The head of an insertion: the text up to the keyword that introduces its rows.
-/

namespace ClickHouse.InsertHead

open Lexeme

def isKeyword (lexeme : Lexeme) : Bool :=
  lexeme.kind = .word && lexeme.text.map Char.toUpper = "VALUES".toList

def upToKeyword? : Nat → List Lexeme → Option (List Lexeme)
  | _, [] => none
  | depth, lexeme :: rest =>
    if lexeme.kind.opens then (upToKeyword? (depth + 1) rest).map (lexeme :: ·)
    else if lexeme.kind.closes then (upToKeyword? (depth - 1) rest).map (lexeme :: ·)
    else if depth = 0 && isKeyword lexeme then some [lexeme]
    else (upToKeyword? depth rest).map (lexeme :: ·)

/-- Cuts the rows off; a text without the keyword, or with an open quote, stays as it is. -/
def ofText (text : String) : String :=
  match scan? text.toList with
  | none => text
  | some scan =>
    match upToKeyword? 0 scan.lexemes with
    | none => text
    | some head => String.ofList (sourceOf head)

def warnings (text : String) : List String :=
  match scan text with
  | .ok _ => []
  | .error cause => ["Could not tokenize INSERT statement: " ++ cause.message]

end ClickHouse.InsertHead
