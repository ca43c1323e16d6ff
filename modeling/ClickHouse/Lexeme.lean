/-!
Lexemes of type expressions, engine definitions and statement heads. A lexeme keeps the blanks
that stand before it, so a list of lexemes spells the source it was read from.
-/

namespace ClickHouse

inductive Lexeme.Kind where
  | word
  | literal
  | quoted
  | number
  | openRound
  | closeRound
  | openSquare
  | closeSquare
  | comma
  | equals
  | symbol
  deriving DecidableEq, Repr, BEq, Inhabited

structure Lexeme where
  gap : List Char
  kind : Lexeme.Kind
  text : List Char
  deriving DecidableEq, Repr, Inhabited

namespace Lexeme

def Kind.opens : Kind → Bool
  | openRound | openSquare => true
  | _ => false

def Kind.closes : Kind → Bool
  | closeRound | closeSquare => true
  | _ => false

/-- The part of the input that the lexeme covers, with the blanks before it. -/
def source (lexeme : Lexeme) : List Char :=
  lexeme.gap ++ lexeme.text

def spelling (lexeme : Lexeme) : String :=
  String.ofList lexeme.text

/-- The input that a list of lexemes was read from, up to the end of the last one. -/
def sourceOf (lexemes : List Lexeme) : List Char :=
  lexemes.flatMap source

@[simp] theorem sourceOf_nil : sourceOf [] = [] := rfl

@[simp] theorem sourceOf_cons (lexeme : Lexeme) (rest : List Lexeme) :
    sourceOf (lexeme :: rest) = lexeme.source ++ sourceOf rest := by
  simp [sourceOf]

@[simp] theorem sourceOf_append (left right : List Lexeme) :
    sourceOf (left ++ right) = sourceOf left ++ sourceOf right := by
  simp [sourceOf]

def byteCount : List Char → Nat
  | [] => 0
  | c :: rest => c.utf8Size + byteCount rest

/-- First byte and byte after the last of each lexeme, the first gap starting at `start`. -/
def spansFrom : Nat → List Lexeme → List (Nat × Nat)
  | _, [] => []
  | start, lexeme :: rest =>
    let first := start + byteCount lexeme.gap
    let stop := first + byteCount lexeme.text
    (first, stop) :: spansFrom stop rest

def spans (lexemes : List Lexeme) : List (Nat × Nat) :=
  spansFrom 0 lexemes

end Lexeme

structure Scan where
  lexemes : List Lexeme
  trailing : List Char
  deriving DecidableEq, Repr, Inhabited

def Scan.source (scan : Scan) : List Char :=
  Lexeme.sourceOf scan.lexemes ++ scan.trailing

end ClickHouse
