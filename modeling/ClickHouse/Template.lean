import ClickHouse.Placeholder
import ClickHouse.StatementError

/-!
Templates of statements: pieces of text and bound values. In the written form a value is a named
placeholder and the percent signs of plain text are doubled.
-/

namespace ClickHouse

inductive Piece where
  /-- Text that is written as it is. -/
  | code (text : String)
  /-- Text whose percent signs are doubled. -/
  | plain (text : String)
  | bind (name : String) (value : Value)
  /-- A bound value that the text does not show. -/
  | unwritten (name : String) (value : Value)
  deriving Repr, Inhabited

def Piece.written : Piece → String
  | code text => text
  | plain text => Placeholder.protect text
  | bind name _ => "%(" ++ name ++ ")s"
  | unwritten _ _ => ""

def Piece.binding? : Piece → Option (String × Value)
  | bind name value => some (name, value)
  | unwritten name value => some (name, value)
  | _ => none

abbrev Template := List Piece

namespace Template

def code (text : String) : Template :=
  [.code text]

def plain (text : String) : Template :=
  [.plain text]

def text : Template → String
  | [] => ""
  | piece :: rest => piece.written ++ text rest

def bindings (template : Template) : List (String × Value) :=
  template.filterMap Piece.binding?

/-- The values by name; of two values bound to one name the later one counts. -/
def params (template : Template) : Params :=
  template.bindings.foldl (fun params entry => params.bind entry.1 entry.2) []

def unwritten (template : Template) : Template :=
  template.bindings.map fun entry => .unwritten entry.1 entry.2

def joinWith (separator : String) : List Template → Template
  | [] => []
  | [only] => only
  | first :: second :: rest => first ++ .code separator :: joinWith separator (second :: rest)

def commaList (items : List Template) : Template :=
  joinWith ", " items

def parenthesized (template : Template) : Template :=
  .code "(" :: template ++ [.code ")"]

@[simp] theorem text_nil : text [] = "" := rfl

@[simp] theorem text_cons (piece : Piece) (rest : Template) :
    text (piece :: rest) = piece.written ++ text rest := rfl

@[simp] theorem text_append (left right : Template) :
    text (left ++ right) = left.text ++ right.text := by
  induction left with
  | nil => simp [text]
  | cons piece rest ih =>
      simp only [List.cons_append, text]
      rw [ih, String.append_assoc]

end Template

structure Compiled where
  sql : String
  params : Params
  deriving Repr

def Template.compiled (template : Template) : Compiled :=
  ⟨template.text, template.params⟩

def substitute (sql : String) (params : Params) : Except StatementError String :=
  match Placeholder.fill params (Placeholder.segments sql) with
  | .ok filled => .ok filled
  | .error name => .error (.unboundName name)

/-- The text that a server can run. -/
def Compiled.executable (compiled : Compiled) : Except StatementError String :=
  substitute compiled.sql compiled.params

end ClickHouse
