/-!
Single-quoted literals: a backslash stands before every quote and every backslash of the text.
Reading a literal drops its delimiters and takes each escaped character for itself.
-/

namespace ClickHouse.Text

def quoteMark : Char := '\x27'

def escapeMark : Char := '\\'

def escapeChars : List Char → List Char
  | [] => []
  | c :: rest =>
    if c = quoteMark ∨ c = escapeMark then escapeMark :: c :: escapeChars rest
    else c :: escapeChars rest

/-- A backslash gives way to the character after it; at the very end it is dropped. -/
def resolveEscapes : List Char → List Char
  | [] => []
  | [c] => if c = escapeMark then [] else [c]
  | c :: next :: rest =>
    if c = escapeMark then next :: resolveEscapes rest else c :: resolveEscapes (next :: rest)

theorem resolveEscapes_escapeChars (text : List Char) :
    resolveEscapes (escapeChars text) = text := by
  induction text with
  | nil => rfl
  | cons c rest ih =>
      by_cases special : c = quoteMark ∨ c = escapeMark
      · rw [escapeChars, if_pos special, resolveEscapes, if_pos rfl, ih]
      · have plain : c ≠ escapeMark := fun same => special (Or.inr same)
        rw [escapeChars, if_neg special]
        cases tail : escapeChars rest with
        | nil =>
            rw [tail] at ih
            rw [resolveEscapes, if_neg plain, ← ih]
            rfl
        | cons next others =>
            rw [resolveEscapes, if_neg plain, ← tail, ih]

def escape (text : String) : String :=
  String.ofList (escapeChars text.toList)

def quote (text : String) : String :=
  "'" ++ escape text ++ "'"

theorem toList_quote (text : String) :
    (quote text).toList = quoteMark :: (escapeChars text.toList ++ [quoteMark]) := by
  simp [quote, escape, quoteMark]

def unquoteChars (literal : List Char) : List Char :=
  resolveEscapes literal.tail.dropLast

theorem unquoteChars_quote (text : String) :
    unquoteChars (quote text).toList = text.toList := by
  simp [quote, escape, unquoteChars, resolveEscapes_escapeChars]

end ClickHouse.Text
