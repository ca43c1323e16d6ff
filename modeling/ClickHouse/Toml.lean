/-!
Values of TOML documents, and documents under construction.
-/

namespace ClickHouse

inductive Toml where
  | string (text : String)
  | integer (value : Int)
  | float (value : Float)
  | boolean (value : Bool)
  | dateTime (text : String)
  | array (items : List Toml)
  | table (entries : List (String × Toml))
  deriving Repr, Inhabited

namespace Toml

/-- How a table came to be: that decides what may still be added to it. -/
inductive Origin where
  | implicit
  | header
  | dotted
  deriving DecidableEq, Repr, Inhabited

inductive Node where
  | leaf (value : Toml)
  | branch (origin : Origin) (entries : List (String × Node))
  | branches (tables : List (List (String × Node)))
  deriving Repr, Inhabited

abbrev Entries := List (String × Node)

/-- Puts a node in the place of the one of its name, or at the end. -/
def putNode (name : String) (node : Node) : Entries → Entries
  | [] => [(name, node)]
  | (other, old) :: rest =>
    if other = name then (other, node) :: rest else (other, old) :: putNode name node rest

/-- Changes the entries of the table that a header or a dotted name leads to, step by step. -/
def within (origin : Origin) (change : Entries → Option Entries) :
    List String → Entries → Option Entries
  | [], entries => change entries
  | name :: path, entries =>
    match entries.lookup name with
    | none =>
      (within origin change path []).map fun inner => putNode name (.branch origin inner) entries
    | some (.branch found inner) =>
      if origin = .dotted ∧ found = .header then none
      else
        (within origin change path inner).map fun inner =>
          putNode name (.branch found inner) entries
    | some (.branches tables) =>
      match origin, tables.getLast? with
      | .implicit, some inner =>
        (within origin change path inner).map fun inner =>
          putNode name (.branches (tables.dropLast ++ [inner])) entries
      | _, _ => none
    | some (.leaf _) => none

def assign (name : String) (value : Toml) (entries : Entries) : Option Entries :=
  match entries.lookup name with
  | none => some (putNode name (.leaf value) entries)
  | some _ => none

def openTable (name : String) (entries : Entries) : Option Entries :=
  match entries.lookup name with
  | none => some (putNode name (.branch .header []) entries)
  | some (.branch .implicit inner) => some (putNode name (.branch .header inner) entries)
  | some _ => none

def appendTable (name : String) (entries : Entries) : Option Entries :=
  match entries.lookup name with
  | none => some (putNode name (.branches [[]]) entries)
  | some (.branches tables) => some (putNode name (.branches (tables ++ [[]])) entries)
  | some _ => none

inductive Line where
  | header (path : List String) (name : String)
  | arrayHeader (path : List String) (name : String)
  | entry (path : List String) (name : String) (value : Toml)
  deriving Repr

/-- The document after a line, and the table that following entries belong to. -/
def addLine (state : Entries × List String) : Line → Option (Entries × List String)
  | .header path name =>
    (within .implicit (openTable name) path state.1).map fun entries => (entries, path ++ [name])
  | .arrayHeader path name =>
    (within .implicit (appendTable name) path state.1).map fun entries => (entries, path ++ [name])
  | .entry path name value =>
    (within .implicit (within .dotted (assign name value) path) state.2 state.1).map
      fun entries => (entries, state.2)

mutual

def Node.value : Node → Toml
  | .leaf value => value
  | .branch _ entries => .table (entryValues entries)
  | .branches tables => .array (tableValues tables)

def entryValues : List (String × Node) → List (String × Toml)
  | [] => []
  | (name, node) :: rest => (name, node.value) :: entryValues rest

def tableValues : List (List (String × Node)) → List Toml
  | [] => []
  | entries :: rest => .table (entryValues entries) :: tableValues rest

end

def ofLines (lines : List Line) : Option (List (String × Toml)) :=
  (lines.foldlM addLine ([], [])).map fun state => entryValues state.1

end Toml

end ClickHouse
