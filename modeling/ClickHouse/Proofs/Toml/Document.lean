import ClickHouse.Toml

/-!
What a document states. Every line adds to what the lines before it stated and takes nothing back,
so that a document has just the values of its entries, each under the table that stands above it
(`Toml.ofLines_leads`, `Toml.ofLines_leads_iff`).
-/

namespace ClickHouse.Toml

/-- The tables that a name with this node leads into: an array has several. -/
def Node.tables : Node → List Entries
  | .leaf _ => []
  | .branch _ entries => [entries]
  | .branches tables => tables

def States (value : Toml) : List String → Entries → Prop
  | [], _ => False
  | name :: path, entries =>
    ∃ node, entries.lookup name = some node ∧
      (path = [] ∧ node = .leaf value ∨ ∃ inner ∈ node.tables, States value path inner)

def Node.States (value : Toml) (path : List String) (node : Node) : Prop :=
  path = [] ∧ node = .leaf value ∨ ∃ inner ∈ node.tables, Toml.States value path inner

theorem lookup_putNode_self (name : String) (node : Node) (entries : Entries) :
    (putNode name node entries).lookup name = some node := by
  induction entries with
  | nil => simp [putNode]
  | cons entry rest ih =>
      obtain ⟨other, old⟩ := entry
      by_cases same : other = name
      · subst same
        simp [putNode]
      · have differ : (name == other) = false := beq_false_of_ne fun eq => same eq.symm
        simp [putNode, same, List.lookup_cons, differ, ih]

theorem lookup_putNode_of_ne {name other : String} (node : Node) (entries : Entries)
    (differ : other ≠ name) : (putNode name node entries).lookup other = entries.lookup other := by
  induction entries with
  | nil => simp [putNode, List.lookup_cons, beq_false_of_ne differ]
  | cons entry rest ih =>
      obtain ⟨first, old⟩ := entry
      by_cases same : first = name
      · subst same
        simp [putNode, List.lookup_cons, beq_false_of_ne differ]
      · by_cases found : other = first
        · subst found
          simp [putNode, same]
        · simp [putNode, same, List.lookup_cons, beq_false_of_ne found, ih]

theorem states_putNode_self (value : Toml) (name : String) (path : List String) (node : Node)
    (entries : Entries) :
    States value (name :: path) (putNode name node entries) ↔ node.States value path := by
  rw [States, lookup_putNode_self]
  constructor
  · rintro ⟨found, same, states⟩
    obtain rfl := Option.some.inj same
    exact states
  · intro states
    exact ⟨node, rfl, states⟩

theorem states_putNode_of_ne {name other : String} (value : Toml) (path : List String) (node : Node)
    (entries : Entries) (differ : other ≠ name) :
    States value (other :: path) (putNode name node entries) ↔
      States value (other :: path) entries := by
  rw [States, States, lookup_putNode_of_ne node entries differ]

theorem states_of_lookup {name : String} {node : Node} {entries : Entries} (value : Toml)
    (path : List String) (found : entries.lookup name = some node) :
    States value (name :: path) entries ↔ node.States value path := by
  rw [States, found]
  constructor
  · rintro ⟨other, same, states⟩
    obtain rfl := Option.some.inj same
    exact states
  · intro states
    exact ⟨node, rfl, states⟩

theorem not_states_of_lookup {name : String} {entries : Entries} (value : Toml) (path : List String)
    (missing : entries.lookup name = none) : ¬States value (name :: path) entries := by
  rw [States, missing]
  rintro ⟨node, found, -⟩
  cases found

theorem not_states_nil (value : Toml) (path : List String) : ¬States value path [] := by
  cases path with
  | nil => exact id
  | cons name path => exact not_states_of_lookup value path rfl

/-- A change that takes nothing back, and what it adds. -/
def Adds (more : Toml → List String → Prop) (change : Entries → Option Entries) : Prop :=
  ∀ entries result, change entries = some result → ∀ value path,
    (States value path result ↔ States value path entries ∨ more value path)

theorem states_putNode_iff (more : Toml → List String → Prop) {name : String} {node : Node}
    {entries : Entries}
    (own : ∀ value path,
      node.States value path ↔ States value (name :: path) entries ∨ more value path)
    (value : Toml) (path : List String) :
    States value path (putNode name node entries) ↔
      States value path entries ∨ ∃ rest, path = name :: rest ∧ more value rest := by
  cases path with
  | nil => simp [States]
  | cons first path =>
      by_cases same : first = name
      · subst same
        simp [states_putNode_self, own]
      · simp [states_putNode_of_ne value path node entries same, same]

def nothing (_ : Toml) (_ : List String) : Prop :=
  False

theorem adds_nothing_of_putNode {name : String} {node : Node} {entries : Entries}
    (own : ∀ value path, node.States value path ↔ States value (name :: path) entries)
    (value : Toml) (path : List String) :
    States value path (putNode name node entries) ↔
      States value path entries ∨ nothing value path := by
  rw [states_putNode_iff nothing]
  · simp [nothing]
  · intro value path
    rw [own, nothing, or_false]

theorem assign_adds (name : String) (value : Toml) :
    Adds (fun other path => path = [name] ∧ other = value) (assign name value) := by
  intro entries result assigned other path
  unfold assign at assigned
  split at assigned
  · rename_i missing
    obtain rfl := Option.some.inj assigned
    rw [states_putNode_iff fun other path => path = [] ∧ other = value]
    · constructor
      · rintro (old | ⟨rest, rfl, rfl, rfl⟩)
        · exact .inl old
        · exact .inr ⟨rfl, rfl⟩
      · rintro (old | ⟨rfl, rfl⟩)
        · exact .inl old
        · exact .inr ⟨[], rfl, rfl, rfl⟩
    · intro other path
      simp [Node.States, Node.tables, not_states_of_lookup other path missing, eq_comm]
  · cases assigned

theorem openTable_adds (name : String) : Adds nothing (openTable name) := by
  intro entries result opened
  unfold openTable at opened
  split at opened
  · rename_i missing
    obtain rfl := Option.some.inj opened
    refine adds_nothing_of_putNode fun value path => ?_
    simp [Node.States, Node.tables, not_states_of_lookup value path missing, not_states_nil]
  · rename_i inner found
    obtain rfl := Option.some.inj opened
    refine adds_nothing_of_putNode fun value path => ?_
    simp [states_of_lookup value path found, Node.States, Node.tables]
  · cases opened

theorem appendTable_adds (name : String) : Adds nothing (appendTable name) := by
  intro entries result appended
  unfold appendTable at appended
  split at appended
  · rename_i missing
    obtain rfl := Option.some.inj appended
    refine adds_nothing_of_putNode fun value path => ?_
    simp [Node.States, Node.tables, not_states_of_lookup value path missing, not_states_nil]
  · rename_i tables found
    obtain rfl := Option.some.inj appended
    refine adds_nothing_of_putNode fun value path => ?_
    simp [states_of_lookup value path found, Node.States, Node.tables, not_states_nil]
  · cases appended

theorem states_putNode_below {more : Toml → List String → Prop} {name : String} {node : Node}
    {entries : Entries} {path : List String}
    (own : ∀ value names, node.States value names ↔
      States value (name :: names) entries ∨ ∃ rest, names = path ++ rest ∧ more value rest)
    (value : Toml) (names : List String) :
    States value names (putNode name node entries) ↔
      States value names entries ∨ ∃ rest, names = name :: path ++ rest ∧ more value rest := by
  rw [states_putNode_iff (fun value names => ∃ rest, names = path ++ rest ∧ more value rest) own]
  constructor
  · rintro (old | ⟨rest, rfl, added, rfl, states⟩)
    · exact .inl old
    · exact .inr ⟨added, rfl, states⟩
  · rintro (old | ⟨added, rfl, states⟩)
    · exact .inl old
    · exact .inr ⟨path ++ added, rfl, added, rfl, states⟩

/-- What a change adds to a table is added to the whole under the names that lead there. -/
theorem within_adds {more : Toml → List String → Prop} {change : Entries → Option Entries}
    (origin : Origin) (adds : Adds more change) (path : List String) :
    Adds (fun value names => ∃ rest, names = path ++ rest ∧ more value rest)
      (within origin change path) := by
  induction path with
  | nil =>
      intro entries result changed value names
      rw [adds entries result changed]
      simp
  | cons name path ih =>
      intro entries result changed
      rw [within.eq_def] at changed
      dsimp only at changed
      split at changed
      · rename_i missing
        obtain ⟨inner, below, rfl⟩ := Option.map_eq_some_iff.mp changed
        refine states_putNode_below fun value names => ?_
        simp [Node.States, Node.tables, ih [] inner below, not_states_nil,
          not_states_of_lookup value names missing]
      · rename_i found inner isBranch
        split at changed
        · cases changed
        · obtain ⟨table, below, rfl⟩ := Option.map_eq_some_iff.mp changed
          refine states_putNode_below fun value names => ?_
          simp [states_of_lookup value names isBranch, Node.States, Node.tables,
            ih inner table below]
      · rename_i tables isArray
        split at changed
        · rename_i last isLast
          obtain ⟨table, below, rfl⟩ := Option.map_eq_some_iff.mp changed
          obtain ⟨front, rfl⟩ := List.getLast?_eq_some_iff.mp isLast
          refine states_putNode_below fun value names => ?_
          rw [List.dropLast_concat, states_of_lookup value names isArray]
          simp [Node.States, Node.tables, ih last table below, or_and_right, exists_or, or_assoc]
        · cases changed
      · cases changed

def Line.heading (above : List String) : Line → List String
  | .header path name => path ++ [name]
  | .arrayHeader path name => path ++ [name]
  | .entry _ _ _ => above

def Line.told (above : List String) : Line → List (List String × Toml)
  | .header _ _ => []
  | .arrayHeader _ _ => []
  | .entry path name value => [(above ++ path ++ [name], value)]

/-- The entries of a document with the whole path of each. -/
def told : List String → List Line → List (List String × Toml)
  | _, [] => []
  | above, line :: rest => line.told above ++ told (line.heading above) rest

theorem addLine_states {state next : Entries × List String} {line : Line}
    (added : addLine state line = some next) :
    next.2 = line.heading state.2 ∧
    ∀ value names, States value names next.1 ↔
      States value names state.1 ∨ (names, value) ∈ line.told state.2 := by
  obtain ⟨entries, above⟩ := state
  cases line with
  | header path name =>
      obtain ⟨result, opened, rfl⟩ := Option.map_eq_some_iff.mp added
      refine ⟨rfl, fun value names => ?_⟩
      rw [within_adds .implicit (openTable_adds name) path entries result opened]
      simp [nothing, Line.told]
  | arrayHeader path name =>
      obtain ⟨result, appended, rfl⟩ := Option.map_eq_some_iff.mp added
      refine ⟨rfl, fun value names => ?_⟩
      rw [within_adds .implicit (appendTable_adds name) path entries result appended]
      simp [nothing, Line.told]
  | entry path name value =>
      obtain ⟨result, assigned, rfl⟩ := Option.map_eq_some_iff.mp added
      refine ⟨rfl, fun other names => ?_⟩
      have inner := within_adds .dotted (assign_adds name value) path
      rw [within_adds .implicit inner above entries result assigned, Line.told,
        List.mem_singleton, Prod.mk.injEq]
      constructor
      · rintro (old | ⟨_, rfl, _, rfl, rfl, rfl⟩)
        · exact .inl old
        · exact .inr ⟨(List.append_assoc ..).symm, rfl⟩
      · rintro (old | ⟨rfl, rfl⟩)
        · exact .inl old
        · exact .inr ⟨path ++ [name], List.append_assoc .., [name], rfl, rfl, rfl⟩

theorem foldlM_addLine_states (lines : List Line) {state last : Entries × List String}
    (read : lines.foldlM addLine state = some last) (value : Toml) (names : List String) :
    States value names last.1 ↔
      States value names state.1 ∨ (names, value) ∈ told state.2 lines := by
  induction lines generalizing state with
  | nil =>
      obtain rfl := Option.some.inj read
      simp [told]
  | cons line rest ih =>
      rw [List.foldlM_cons, Option.bind_eq_bind, Option.bind_eq_some_iff] at read
      obtain ⟨next, added, others⟩ := read
      obtain ⟨heading, states⟩ := addLine_states added
      rw [ih others, states, told, heading, List.mem_append, or_assoc]

def asTable? : Toml → Option (List (String × Toml))
  | .table entries => some entries
  | _ => none

def innerTables : Toml → List (List (String × Toml))
  | .table entries => [entries]
  | .array items => items.filterMap asTable?
  | _ => []

/-- Whether a value is found by these names; an array leads into each of its tables. -/
def Leads (value : Toml) : List String → Toml → Prop
  | [], found => found = value
  | name :: path, found =>
    ∃ entries ∈ found.innerTables, ∃ next, entries.lookup name = some next ∧ Leads value path next

theorem lookup_entryValues (name : String) (entries : Entries) :
    (entryValues entries).lookup name = (entries.lookup name).map Node.value := by
  induction entries with
  | nil => rfl
  | cons entry rest ih =>
      obtain ⟨other, node⟩ := entry
      rw [entryValues, List.lookup_cons, List.lookup_cons, ih]
      cases name == other <;> rfl

theorem tableValues_eq_map (tables : List Entries) :
    tableValues tables = tables.map fun entries => .table (entryValues entries) := by
  induction tables with
  | nil => rfl
  | cons entries rest ih => rw [tableValues, ih, List.map_cons]

theorem innerTables_value (node : Node) (isBranch : ∀ value, node ≠ .leaf value) :
    node.value.innerTables = node.tables.map entryValues := by
  cases node with
  | leaf value => exact absurd rfl (isBranch value)
  | branch origin entries => rfl
  | branches tables =>
      rw [Node.value, innerTables, tableValues_eq_map, List.filterMap_map]
      exact congrFun List.filterMap_eq_map tables

theorem leads_value_cons_iff {node : Node} (isBranch : ∀ value, node ≠ .leaf value)
    (value : Toml) (name : String) (path : List String) :
    Leads value (name :: path) node.value ↔
      ∃ entries ∈ node.tables, ∃ next, entries.lookup name = some next ∧
        Leads value path next.value := by
  rw [Leads, innerTables_value node isBranch]
  constructor
  · rintro ⟨_, isTable, next, found, leads⟩
    obtain ⟨entries, member, rfl⟩ := List.mem_map.mp isTable
    rw [lookup_entryValues] at found
    obtain ⟨node, isNode, rfl⟩ := Option.map_eq_some_iff.mp found
    exact ⟨entries, member, node, isNode, leads⟩
  · rintro ⟨entries, member, next, found, leads⟩
    refine ⟨entryValues entries, List.mem_map_of_mem member, next.value, ?_, leads⟩
    rw [lookup_entryValues, found]
    rfl

theorem leads_of_states {value : Toml} {path : List String} {node : Node}
    (states : node.States value path) : Leads value path node.value := by
  induction path generalizing node with
  | nil =>
      obtain ⟨-, rfl⟩ | ⟨inner, -, none⟩ := states
      · rfl
      · cases none
  | cons name path ih =>
      obtain ⟨none, -⟩ | ⟨inner, member, next, found, states⟩ := states
      · cases none
      · have isBranch : ∀ value, node ≠ .leaf value := by
          rintro value rfl
          cases member
        rw [leads_value_cons_iff isBranch]
        exact ⟨inner, member, next, found, ih states⟩

def IsPlain : Toml → Prop
  | .array _ => False
  | .table _ => False
  | _ => True

/-- A value that is no table is found in an entry, or inside the value of one. -/
theorem states_of_leads {value : Toml} {path : List String} {node : Node} (plain : value.IsPlain)
    (leads : Leads value path node.value) :
    ∃ front own rest, path = front ++ rest ∧ node.States own front ∧ Leads value rest own := by
  induction path generalizing node with
  | nil =>
      cases node with
      | leaf own => exact ⟨[], own, [], rfl, .inl ⟨rfl, rfl⟩, leads⟩
      | branch origin entries =>
          obtain rfl : Toml.table (entryValues entries) = value := leads
          cases plain
      | branches tables =>
          obtain rfl : Toml.array (tableValues tables) = value := leads
          cases plain
  | cons name path ih =>
      by_cases isLeaf : ∃ own, node = .leaf own
      · obtain ⟨own, rfl⟩ := isLeaf
        exact ⟨[], own, name :: path, rfl, .inl ⟨rfl, rfl⟩, leads⟩
      · rw [leads_value_cons_iff fun value same => isLeaf ⟨value, same⟩] at leads
        obtain ⟨inner, member, next, found, leads⟩ := leads
        obtain ⟨front, own, rest, rfl, states, behind⟩ := ih leads
        exact ⟨name :: front, own, rest, rfl, .inr ⟨inner, member, next, found, states⟩, behind⟩

theorem leads_append {value own : Toml} {front rest : List String} {found : Toml}
    (first : Leads own front found) (behind : Leads value rest own) :
    Leads value (front ++ rest) found := by
  induction front generalizing found with
  | nil =>
      obtain rfl : found = own := first
      exact behind
  | cons name front ih =>
      obtain ⟨entries, member, next, isNext, leads⟩ := first
      exact ⟨entries, member, next, isNext, ih leads⟩

theorem states_root_iff {lines : List Line} {last : Entries × List String}
    (read : lines.foldlM addLine ([], []) = some last) (value : Toml) (path : List String) :
    (Node.branch .header last.1).States value path ↔ (path, value) ∈ told [] lines := by
  have states := foldlM_addLine_states lines read value path
  rw [Node.States, Node.tables]
  simp [states, not_states_nil]

/-- Nothing that a document states is lost. -/
theorem ofLines_leads {lines : List Line} {entries : List (String × Toml)}
    (read : ofLines lines = some entries) :
    ∀ entry ∈ told [] lines, Leads entry.2 entry.1 (.table entries) := by
  obtain ⟨last, steps, rfl⟩ := Option.map_eq_some_iff.mp read
  intro entry member
  exact leads_of_states ((states_root_iff steps entry.2 entry.1).mpr member)

/-- A document has no values but those of its entries. -/
theorem ofLines_leads_iff {lines : List Line} {entries : List (String × Toml)}
    (read : ofLines lines = some entries) (value : Toml) (plain : value.IsPlain)
    (path : List String) :
    Leads value path (.table entries) ↔
      ∃ entry ∈ told [] lines, ∃ rest, path = entry.1 ++ rest ∧ Leads value rest entry.2 := by
  constructor
  · intro leads
    obtain ⟨last, steps, rfl⟩ := Option.map_eq_some_iff.mp read
    have inside : Leads value path (Node.branch .header last.1).value := leads
    obtain ⟨front, own, rest, rfl, states, behind⟩ := states_of_leads plain inside
    exact ⟨(front, own), (states_root_iff steps own front).mp states, rest, rfl, behind⟩
  · rintro ⟨entry, member, rest, rfl, behind⟩
    exact leads_append (ofLines_leads read entry member) behind

end ClickHouse.Toml
