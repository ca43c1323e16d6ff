import ClickHouse.DefinitionError
import ClickHouse.Placeholder
import ClickHouse.Text.Casing

/-!
Names of tables, columns and aliases. A name that is no plain word, or is reserved, stands
between quote characters; a quote character inside it is doubled.
-/

namespace ClickHouse

inductive QuoteStyle where
  | grave
  | double
  deriving DecidableEq, Repr, Inhabited

def QuoteStyle.mark : QuoteStyle → Char
  | grave => '\x60'
  | double => '\x22'

namespace Identifier

def reservedWords : List String := [
  "all", "analyse", "analyze", "and", "any", "array", "as", "asc", "asymmetric",
  "authorization", "between", "binary", "both", "case", "cast", "check", "collate", "column",
  "constraint", "create", "cross", "current_date", "current_role", "current_time",
  "current_timestamp", "current_user", "default", "deferrable", "desc", "distinct", "do",
  "else", "end", "except", "false", "for", "foreign", "freeze", "from", "full", "grant",
  "group", "having", "ilike", "in", "index", "initially", "inner", "intersect", "into", "is",
  "isnull", "join", "leading", "left", "like", "limit", "localtime", "localtimestamp",
  "natural", "new", "not", "notnull", "null", "off", "offset", "old", "on", "only", "or",
  "order", "outer", "overlaps", "placing", "primary", "references", "right", "select",
  "session_user", "set", "similar", "some", "symmetric", "table", "then", "to", "trailing",
  "true", "union", "unique", "user", "using", "verbose", "when", "where"]
def isReserved (name : String) : Bool :=
  reservedWords.contains (Text.lower name)

def isPlainChar (c : Char) : Bool :=
  c.isAlphanum || c = '_' || c = '$'

/-- Whether a name cannot stand without quotes. The case of its letters does not matter. -/
def requiresQuotes (name : String) : Bool :=
  match name.toList with
  | [] => true
  | first :: rest =>
    isReserved name || first.isDigit || first = '$' || !(first :: rest).all isPlainChar

def doubleMarks (style : QuoteStyle) (name : String) : String :=
  String.ofList (name.toList.flatMap fun c => if c = style.mark then [c, c] else [c])

def reference (style : QuoteStyle) (name : String) : String :=
  if requiresQuotes name then
    style.mark.toString ++ doubleMarks style name ++ style.mark.toString
  else name

/-- The inside of a quoted name in a statement with placeholders. -/
def escaped (style : QuoteStyle) (name : String) : String :=
  Placeholder.protect (doubleMarks style name)

/-- The name as it stands in a statement with placeholders. -/
def quote (style : QuoteStyle) (name : String) : String :=
  Placeholder.protect (reference style name)

def isWordChar (c : Char) : Bool :=
  c.isAlphanum || c = '_'

/-- Letters, digits and underscores, not starting with a digit. -/
def isWord (name : String) : Bool :=
  match name.toList with
  | [] => false
  | first :: rest => !first.isDigit && (first :: rest).all isWordChar

/-- Refuses a name that is no word; `role` says what the name is for. -/
def check (name role : String) : Except DefinitionError Unit :=
  if isWord name then .ok ()
  else
    let reason :=
      match name.toList with
      | [] => "cannot be empty"
      | first :: _ =>
        if first.isDigit then "cannot start with a digit"
        else "contains invalid characters (only alphanumeric and underscore allowed)"
    .error (.invalidIdentifier role name reason)

theorem check_ok_iff (name role : String) : check name role = .ok () ↔ isWord name = true := by
  unfold check
  by_cases word : isWord name = true <;> simp [word]

end Identifier

structure TableName where
  name : String
  schema : Option String
  deriving DecidableEq, Repr, Inhabited

def TableName.reference (style : QuoteStyle) (table : TableName) : String :=
  match table.schema with
  | some schema =>
    Identifier.reference style schema ++ "." ++ Identifier.reference style table.name
  | none => Identifier.reference style table.name

end ClickHouse
