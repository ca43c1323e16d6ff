import ClickHouse.Value.Literal

/-!
Named placeholders in the text of a statement: `%(name)s` stands for a bound value and a doubled
percent sign for a single one. Any other percent sign stands for itself.
-/

namespace ClickHouse

abbrev Params := List (String × Value)

/-- Binds a name; an earlier value of the same name is replaced. -/
def Params.bind (params : Params) (name : String) (value : Value) : Params :=
  (name, value) :: params.filter fun entry => entry.1 ≠ name

namespace Placeholder

inductive Segment where
  | text (chars : List Char)
  | bind (name : List Char)
  deriving DecidableEq, Repr

inductive Progress where
  | outside
  | percent
  | name (chars : List Char)
  | closed (chars : List Char)
  deriving DecidableEq, Repr

def prolongs (name : List Char) (c : Char) : Bool :=
  c.isAlpha || c = '_' || (!name.isEmpty && c.isDigit)

def leave (chars : List Char) (c : Char) : List Segment × Progress :=
  if c = '%' then ([.text chars], .percent) else ([.text (chars ++ [c])], .outside)

def step : Progress → Char → List Segment × Progress
  | .outside, c => leave [] c
  | .percent, c =>
    if c = '%' then ([.text ['%']], .outside)
    else if c = '(' then ([], .name [])
    else leave ['%'] c
  | .name chars, c =>
    if prolongs chars c then ([], .name (chars ++ [c]))
    else if c = ')' ∧ chars ≠ [] then ([], .closed chars)
    else leave ('%' :: '(' :: chars) c
  | .closed chars, c =>
    if c = 's' then ([.bind chars], .outside)
    else leave ('%' :: '(' :: chars ++ [')']) c

/-- The characters that turn out to be no placeholder when the text ends. -/
def unread : Progress → List Char
  | .outside => []
  | .percent => ['%']
  | .name chars => '%' :: '(' :: chars
  | .closed chars => '%' :: '(' :: chars ++ [')']

def segmentsFrom : Progress → List Char → List Segment
  | progress, [] => [.text (unread progress)]
  | progress, c :: rest =>
    let (finished, next) := step progress c
    finished ++ segmentsFrom next rest

def segments (text : String) : List Segment :=
  segmentsFrom .outside text.toList

/-- The text with every bound name replaced by its literal; the first name without a value is
reported. -/
def fill (params : Params) : List Segment → Except String String
  | [] => .ok ""
  | .text chars :: rest =>
    match fill params rest with
    | .error name => .error name
    | .ok filled => .ok (String.ofList chars ++ filled)
  | .bind name :: rest =>
    match params.lookup (String.ofList name) with
    | none => .error (String.ofList name)
    | some value =>
      match fill params rest with
      | .error name => .error name
      | .ok filled => .ok (value.literal ++ filled)

def protect (text : String) : String :=
  String.ofList (text.toList.flatMap fun c => if c = '%' then ['%', '%'] else [c])

end Placeholder

end ClickHouse
