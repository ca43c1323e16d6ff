import ClickHouse.SyntaxError
import ClickHouse.Lexeme.Scanner
import ClickHouse.Text.Blank
import ClickHouse.Text.Quoted

/-!
Bracketed groups and comma-separated parts. Round and square brackets count alike, and quoted
text is one lexeme, so neither a bracket nor a comma inside a quote matters.
-/

namespace ClickHouse

namespace Lexeme

/-- A group without its opening bracket. -/
structure Group where
  inside : List Lexeme
  close : Lexeme
  after : List Lexeme
  deriving Repr

/-- Splits the lexemes that follow an opening bracket at its partner, `depth` further brackets
being open. -/
def group? : Nat → List Lexeme → Option Group
  | _, [] => none
  | depth, lexeme :: rest =>
    if lexeme.kind.opens then
      match group? (depth + 1) rest with
      | none => none
      | some group => some { group with inside := lexeme :: group.inside }
    else if lexeme.kind.closes then
      match depth with
      | 0 => some ⟨[], lexeme, rest⟩
      | depth + 1 =>
        match group? depth rest with
        | none => none
        | some group => some { group with inside := lexeme :: group.inside }
    else
      match group? depth rest with
      | none => none
      | some group => some { group with inside := lexeme :: group.inside }

def afterOpenRound? : List Lexeme → Option (List Lexeme)
  | [] => none
  | lexeme :: rest => if lexeme.kind = .openRound then some rest else afterOpenRound? rest

def scan (text : String) : Except SyntaxError Scan :=
  match scan? text.toList with
  | some scan => .ok scan
  | none => .error (.unterminated text)

def innerGroup (text : String) : Except SyntaxError (String × String) :=
  match scan text with
  | .error cause => .error cause
  | .ok scan =>
    match afterOpenRound? scan.lexemes with
    | none => .error (.unexpected "'('" text)
    | some rest =>
      match group? 0 rest with
      | none => .error (.unbalanced text)
      | some group =>
        .ok (String.ofList (sourceOf group.inside ++ group.close.gap),
          String.ofList (sourceOf group.after ++ scan.trailing))

def prependToFirst (text : List Char) : List (List Char) → List (List Char)
  | [] => [text]
  | first :: rest => (text ++ first) :: rest

/-- The texts between the commas at depth zero; a stray closing bracket changes no depth. -/
def partsFrom (trailing : List Char) : Nat → List Lexeme → List (List Char)
  | _, [] => [trailing]
  | depth, lexeme :: rest =>
    if lexeme.kind = .comma ∧ depth = 0 then
      lexeme.gap :: partsFrom trailing 0 rest
    else if lexeme.kind.opens then
      prependToFirst lexeme.source (partsFrom trailing (depth + 1) rest)
    else if lexeme.kind.closes then
      prependToFirst lexeme.source (partsFrom trailing (depth - 1) rest)
    else
      prependToFirst lexeme.source (partsFrom trailing depth rest)

/-- The trimmed parts between top-level commas. A blank text has no parts. -/
def splitTopLevel (text : String) : Except SyntaxError (List String) :=
  if text.toList.all Text.isBlank then .ok []
  else
    match scan text with
    | .error cause => .error cause
    | .ok scan =>
      .ok ((partsFrom scan.trailing 0 scan.lexemes).map fun part =>
        String.ofList (Text.trimChars part))

def unquote (text : String) : Except SyntaxError String :=
  match scan text with
  | .error cause => .error cause
  | .ok ⟨[lexeme], _⟩ =>
    if lexeme.kind = .literal then .ok (String.ofList (Text.unquoteChars lexeme.text))
    else .error (.unexpected "quoted string" (Text.trim text))
  | .ok _ => .error (.unexpected "quoted string" (Text.trim text))

end Lexeme

end ClickHouse
