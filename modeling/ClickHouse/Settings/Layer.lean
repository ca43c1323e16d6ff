import ClickHouse.Text.Casing
import ClickHouse.Toml

/-!
Layers of settings. A later layer wins key by key: tables are merged, everything else replaces
what was there.
-/

namespace ClickHouse

abbrev Layer := List (String × Toml)

namespace Layer

def members : Toml → Layer
  | .table entries => entries
  | _ => []

def putMember (name : String) (value : Toml) : Layer → Layer
  | [] => [(name, value)]
  | (other, old) :: rest =>
    if other = name then (other, value) :: rest else (other, old) :: putMember name value rest

theorem lookup_putMember_self (name : String) (value : Toml) (layer : Layer) :
    (putMember name value layer).lookup name = some value := by
  induction layer with
  | nil => simp [putMember]
  | cons entry rest ih =>
      obtain ⟨other, old⟩ := entry
      by_cases same : other = name
      · subst same
        simp [putMember]
      · have differ : (name == other) = false := beq_false_of_ne fun eq => same eq.symm
        simp [putMember, same, List.lookup_cons, differ, ih]

theorem lookup_putMember_of_ne {name other : String} (value : Toml) (layer : Layer)
    (differ : other ≠ name) : (putMember name value layer).lookup other = layer.lookup other := by
  induction layer with
  | nil => simp [putMember, List.lookup_cons, beq_false_of_ne differ]
  | cons entry rest ih =>
      obtain ⟨first, old⟩ := entry
      by_cases same : first = name
      · subst same
        simp [putMember, List.lookup_cons, beq_false_of_ne differ]
      · by_cases found : other = first
        · subst found
          simp [putMember, same]
        · simp [putMember, same, List.lookup_cons, beq_false_of_ne found, ih]

mutual

def overlay : Option Toml → Toml → Toml
  | old, .table entries => overlayAll (old.getD (.table [])) entries
  | _, .string text => .string text
  | _, .integer value => .integer value
  | _, .float value => .float value
  | _, .boolean value => .boolean value
  | _, .dateTime text => .dateTime text
  | _, .array items => .array items

/-- The entries of a table over what stood in its place; only when there are any does a value
that is no table give way. -/
def overlayAll : Toml → List (String × Toml) → Toml
  | base, [] => base
  | base, (name, value) :: rest =>
    overlayAll
      (.table (putMember name (overlay ((members base).lookup name) value) (members base))) rest

end

/-- Sets what a path leads to; everything on the way becomes a table. -/
def setAt (value : Toml) (base : Toml) : List String → Toml
  | [] => base
  | [name] => overlayAll base [(name, value)]
  | name :: next :: path =>
    let inner := ((members base).lookup name).getD (.table [])
    .table (putMember name (setAt value inner (next :: path)) (members base))

def isPathChar (c : Char) : Bool :=
  c.isAlphanum || c = ' ' || c = '_' || c = '-'

def splitLevels : List Char → List (List Char)
  | [] => [[]]
  | c :: rest =>
    if c = '.' then [] :: splitLevels rest
    else
      match splitLevels rest with
      | [] => [[c]]
      | level :: levels => (c :: level) :: levels

/-- The levels of a key; a key that is no path stands for itself. -/
def pathOf (key : String) : List String :=
  let levels := splitLevels key.toList
  if levels.all fun level => !level.isEmpty && level.all isPathChar then
    levels.map String.ofList
  else [key]

def apply (base : Toml) (layer : Layer) : Toml :=
  layer.foldl (fun tree entry => setAt entry.2 tree (pathOf entry.1)) base

def variableStart : List Char :=
  "ch_dialect__".toList

/-- Two underscores stand between levels. -/
def separateLevels : List Char → List Char
  | '_' :: '_' :: rest => '.' :: separateLevels rest
  | c :: rest => c :: separateLevels rest
  | [] => []

def variableKey? (name : String) : Option String :=
  let key := Text.lowerChars name.toList
  if variableStart.isPrefixOf key then
    some (String.ofList (separateLevels (key.drop variableStart.length)))
  else none

def ofEnvironment (environment : List (String × String)) : Layer :=
  environment.filterMap fun (name, text) =>
    (variableKey? name).map fun key => (key, .string text)

end Layer

end ClickHouse
