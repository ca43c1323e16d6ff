import ClickHouse.Proofs.Toml.Document
import ClickHouse.Toml.Reader
import Mathlib.Data.List.Nodup

/-!
No document that has a value names a thing twice: not at its top, and not in any table inside of it
(`Toml.namesOnce_of_read`).
-/

namespace ClickHouse.Toml

inductive NamesOnce : Toml → Prop
  | plain {value : Toml} (isPlain : value.IsPlain) : NamesOnce value
  | array {items : List Toml} (each : ∀ item ∈ items, NamesOnce item) : NamesOnce (.array items)
  | table {entries : List (String × Toml)} (names : (entries.map Prod.fst).Nodup)
      (each : ∀ entry ∈ entries, NamesOnce entry.2) : NamesOnce (.table entries)

inductive Node.NamesOnce : Node → Prop
  | leaf {value : Toml} (once : value.NamesOnce) : Node.NamesOnce (.leaf value)
  | branch {origin : Origin} {entries : Entries} (names : (entries.map Prod.fst).Nodup)
      (each : ∀ entry ∈ entries, Node.NamesOnce entry.2) : Node.NamesOnce (.branch origin entries)
  | branches {tables : List Entries} (names : ∀ entries ∈ tables, (entries.map Prod.fst).Nodup)
      (each : ∀ entries ∈ tables, ∀ entry ∈ entries, Node.NamesOnce entry.2) :
      Node.NamesOnce (.branches tables)

structure EntriesOnce (entries : Entries) : Prop where
  names : (entries.map Prod.fst).Nodup
  each : ∀ entry ∈ entries, entry.2.NamesOnce

theorem entriesOnce_nil : EntriesOnce [] :=
  ⟨List.nodup_nil, by simp⟩

theorem Node.namesOnce_iff_tables {node : Node} (isBranch : ∀ value, node ≠ .leaf value) :
    node.NamesOnce ↔ ∀ entries ∈ node.tables, EntriesOnce entries := by
  constructor
  · rintro (_ | ⟨names, each⟩ | ⟨names, each⟩) entries member
    · cases member
    · obtain rfl := List.mem_singleton.mp member
      exact ⟨names, each⟩
    · exact ⟨names entries member, each entries member⟩
  · intro once
    cases node with
    | leaf value => exact absurd rfl (isBranch value)
    | branch origin entries =>
        obtain ⟨names, each⟩ := once entries (List.mem_singleton_self _)
        exact .branch names each
    | branches tables =>
        exact .branches (fun entries member => (once entries member).names)
          fun entries member => (once entries member).each

theorem mem_of_lookup {α : Type} {name : String} {value : α} {entries : List (String × α)}
    (found : entries.lookup name = some value) : (name, value) ∈ entries := by
  obtain ⟨before, after, rfl, -⟩ := List.lookup_eq_some_iff.mp found
  simp

theorem names_putNode (name : String) (node : Node) (entries : Entries) :
    ∀ other, other ∈ (putNode name node entries).map Prod.fst ↔
      other = name ∨ other ∈ entries.map Prod.fst := by
  intro other
  induction entries with
  | nil => simp [putNode]
  | cons entry rest ih =>
      obtain ⟨first, old⟩ := entry
      by_cases same : first = name
      · subst same
        simp [putNode]
      · rw [putNode, if_neg same, List.map_cons, List.mem_cons, ih]
        simp only [List.map_cons, List.mem_cons]
        tauto

theorem EntriesOnce.putNode {entries : Entries} (once : EntriesOnce entries) (name : String)
    {node : Node} (own : node.NamesOnce) : EntriesOnce (putNode name node entries) := by
  induction entries with
  | nil =>
      refine ⟨List.nodup_singleton _, fun entry member => ?_⟩
      obtain rfl := List.mem_singleton.mp member
      exact own
  | cons entry rest ih =>
      obtain ⟨first, old⟩ := entry
      obtain ⟨names, each⟩ := once
      rw [List.map_cons, List.nodup_cons] at names
      obtain ⟨fresh, distinct⟩ := names
      obtain ⟨head, others⟩ := List.forall_mem_cons.mp each
      by_cases same : first = name
      · rw [Toml.putNode, if_pos same]
        refine ⟨List.nodup_cons.mpr ⟨fresh, distinct⟩, ?_⟩
        exact List.forall_mem_cons.mpr ⟨own, others⟩
      · obtain ⟨namesBehind, eachBehind⟩ := ih ⟨distinct, others⟩
        rw [Toml.putNode, if_neg same]
        refine ⟨List.nodup_cons.mpr ⟨?_, namesBehind⟩, List.forall_mem_cons.mpr ⟨head, eachBehind⟩⟩
        rw [names_putNode]
        rintro (isName | member)
        · exact same isName
        · exact fresh member

def Keeps (change : Entries → Option Entries) : Prop :=
  ∀ entries result, EntriesOnce entries → change entries = some result → EntriesOnce result

theorem assign_keeps (name : String) {value : Toml} (once : value.NamesOnce) :
    Keeps (assign name value) := by
  intro entries result before assigned
  unfold assign at assigned
  split at assigned
  · obtain rfl := Option.some.inj assigned
    exact before.putNode name (.leaf once)
  · cases assigned

theorem openTable_keeps (name : String) : Keeps (openTable name) := by
  intro entries result before opened
  unfold openTable at opened
  split at opened
  · obtain rfl := Option.some.inj opened
    exact before.putNode name (.branch List.nodup_nil (by simp))
  · rename_i inner found
    obtain rfl := Option.some.inj opened
    obtain _ | ⟨names, each⟩ := before.each _ (mem_of_lookup found)
    exact before.putNode name (.branch names each)
  · cases opened

theorem appendTable_keeps (name : String) : Keeps (appendTable name) := by
  intro entries result before appended
  unfold appendTable at appended
  split at appended
  · obtain rfl := Option.some.inj appended
    refine before.putNode name ((Node.namesOnce_iff_tables (by simp)).mpr fun entries member => ?_)
    obtain rfl := List.mem_singleton.mp member
    exact entriesOnce_nil
  · rename_i tables found
    obtain rfl := Option.some.inj appended
    have old := before.each _ (mem_of_lookup found)
    rw [Node.namesOnce_iff_tables (by simp)] at old
    refine before.putNode name ((Node.namesOnce_iff_tables (by simp)).mpr fun entries member => ?_)
    obtain earlier | new := List.mem_append.mp member
    · exact old entries earlier
    · obtain rfl := List.mem_singleton.mp new
      exact entriesOnce_nil
  · cases appended

theorem within_keeps {change : Entries → Option Entries} (origin : Origin) (keeps : Keeps change)
    (path : List String) : Keeps (within origin change path) := by
  induction path with
  | nil => exact keeps
  | cons name path ih =>
      intro entries result before changed
      rw [within.eq_def] at changed
      dsimp only at changed
      split at changed
      · obtain ⟨inner, below, rfl⟩ := Option.map_eq_some_iff.mp changed
        obtain ⟨names, each⟩ := ih [] inner entriesOnce_nil below
        exact before.putNode name (.branch names each)
      · rename_i found inner isBranch
        split at changed
        · cases changed
        · obtain ⟨table, below, rfl⟩ := Option.map_eq_some_iff.mp changed
          obtain _ | ⟨names, each⟩ := before.each _ (mem_of_lookup isBranch)
          obtain ⟨names, each⟩ := ih inner table ⟨names, each⟩ below
          exact before.putNode name (.branch names each)
      · rename_i tables isArray
        split at changed
        · rename_i last isLast
          obtain ⟨table, below, rfl⟩ := Option.map_eq_some_iff.mp changed
          obtain ⟨front, rfl⟩ := List.getLast?_eq_some_iff.mp isLast
          have old := before.each _ (mem_of_lookup isArray)
          rw [Node.namesOnce_iff_tables (by simp)] at old
          refine before.putNode name ((Node.namesOnce_iff_tables (by simp)).mpr ?_)
          intro entries member
          rw [List.dropLast_concat] at member
          obtain earlier | new := List.mem_append.mp member
          · exact old entries (List.mem_append_left _ earlier)
          · obtain rfl := List.mem_singleton.mp new
            exact ih last _ (old last (by simp [Node.tables])) below
        · cases changed
      · cases changed

theorem entryValues_eq_map (entries : Entries) :
    entryValues entries = entries.map fun entry => (entry.1, entry.2.value) := by
  induction entries with
  | nil => rfl
  | cons entry rest ih => rw [entryValues, ih, List.map_cons]

theorem names_entryValues (entries : Entries) :
    (entryValues entries).map Prod.fst = entries.map Prod.fst := by
  rw [entryValues_eq_map, List.map_map]
  rfl

theorem namesOnce_entryValues {entries : Entries} (names : (entries.map Prod.fst).Nodup)
    (each : ∀ entry ∈ entries, entry.2.value.NamesOnce) :
    (Toml.table (entryValues entries)).NamesOnce := by
  refine .table (by rwa [names_entryValues]) fun entry member => ?_
  rw [entryValues_eq_map] at member
  obtain ⟨node, isNode, rfl⟩ := List.mem_map.mp member
  exact each node isNode

theorem Node.NamesOnce.value {node : Node} (once : node.NamesOnce) : node.value.NamesOnce := by
  induction once with
  | leaf once => exact once
  | branch names _ values => exact namesOnce_entryValues names values
  | branches names _ values =>
      refine .array fun item member => ?_
      rw [tableValues_eq_map] at member
      obtain ⟨entries, isTable, rfl⟩ := List.mem_map.mp member
      exact namesOnce_entryValues (names entries isTable) (values entries isTable)

theorem EntriesOnce.value {entries : Entries} (once : EntriesOnce entries) :
    (Toml.table (entryValues entries)).NamesOnce :=
  namesOnce_entryValues once.names fun entry member => (once.each entry member).value

theorem isPlain_readBare? {text : List Char} {value : Toml} (read : readBare? text = some value) :
    value.IsPlain := by
  unfold readBare? at read
  split at read
  · obtain rfl := Option.some.inj read
    trivial
  · split at read
    · obtain rfl := Option.some.inj read
      trivial
    · split at read
      · obtain rfl := Option.some.inj read
        trivial
      · split at read
        · obtain rfl := Option.some.inj read
          trivial
        · obtain ⟨number, -, rfl⟩ := Option.map_eq_some_iff.mp read
          trivial

theorem isPlain_readBareValue? {text : List Char} {value : Toml} {rest : List Char}
    (read : readBareValue? text = some (value, rest)) : value.IsPlain := by
  unfold readBareValue? at read
  dsimp only at read
  obtain joined | ⟨-, alone⟩ := Option.or_eq_some_iff.mp read
  · split at joined
    · split at joined
      · obtain ⟨found, isBare, same⟩ := Option.map_eq_some_iff.mp joined
        obtain ⟨rfl, -⟩ := Prod.mk.inj same
        exact isPlain_readBare? isBare
      · cases joined
    · cases joined
  · obtain ⟨found, isBare, same⟩ := Option.map_eq_some_iff.mp alone
    obtain ⟨rfl, -⟩ := Prod.mk.inj same
    exact isPlain_readBare? isBare

structure ReadsOnce (fuel : Nat) : Prop where
  value : ∀ text found rest, readValue? fuel text = some (found, rest) → found.NamesOnce
  items : ∀ text found rest, readItems? fuel text = some (found, rest) →
    ∀ item ∈ found, item.NamesOnce
  inline : ∀ entries text found rest, EntriesOnce entries →
    readInline? fuel entries text = some (found, rest) → EntriesOnce found

theorem readsOnce_value {fuel : Nat} (once : ReadsOnce fuel) (text : List Char) (found : Toml)
    (rest : List Char) (read : readValue? (fuel + 1) text = some (found, rest)) :
    found.NamesOnce := by
  rw [readValue?.eq_def] at read
  dsimp only at read
  split at read
  · cases read
  · obtain ⟨⟨items, behind⟩, inside, same⟩ := Option.map_eq_some_iff.mp read
    obtain ⟨rfl, rfl⟩ := Prod.mk.inj same
    exact .array (once.items _ _ _ inside)
  · split at read
    · obtain ⟨rfl, rfl⟩ := Prod.mk.inj (Option.some.inj read)
      exact .table List.nodup_nil (by simp)
    · obtain ⟨⟨entries, behind⟩, inside, same⟩ := Option.map_eq_some_iff.mp read
      obtain ⟨rfl, rfl⟩ := Prod.mk.inj same
      exact (once.inline _ _ _ _ entriesOnce_nil inside).value
  · split at read
    · obtain ⟨⟨text, behind⟩, inside, same⟩ := Option.map_eq_some_iff.mp read
      obtain ⟨rfl, rfl⟩ := Prod.mk.inj same
      exact .plain trivial
    · exact .plain (isPlain_readBareValue? read)

theorem readsOnce_items {fuel : Nat} (once : ReadsOnce fuel) (text : List Char)
    (found : List Toml) (rest : List Char)
    (read : readItems? (fuel + 1) text = some (found, rest)) :
    ∀ item ∈ found, item.NamesOnce := by
  rw [readItems?.eq_def] at read
  dsimp only at read
  split at read
  · obtain ⟨rfl, rfl⟩ := Prod.mk.inj (Option.some.inj read)
    intro item member
    cases member
  · split at read
    · cases read
    · rename_i first behind isValue
      have head := once.value _ _ _ isValue
      split at read
      · obtain ⟨⟨items, last⟩, inside, same⟩ := Option.map_eq_some_iff.mp read
        obtain ⟨rfl, rfl⟩ := Prod.mk.inj same
        exact List.forall_mem_cons.mpr ⟨head, once.items _ _ _ inside⟩
      · obtain ⟨rfl, rfl⟩ := Prod.mk.inj (Option.some.inj read)
        intro item member
        obtain rfl := List.mem_singleton.mp member
        exact head
      · cases read

theorem readsOnce_inline {fuel : Nat} (once : ReadsOnce fuel) (entries : Entries)
    (text : List Char) (found : Entries) (rest : List Char) (before : EntriesOnce entries)
    (read : readInline? (fuel + 1) entries text = some (found, rest)) : EntriesOnce found := by
  rw [readInline?.eq_def] at read
  dsimp only at read
  split at read
  · cases read
  · rename_i path name behind isPath
    split at read
    · split at read
      · cases read
      · rename_i value last isValue
        split at read
        · cases read
        · rename_i more added
          have own := assign_keeps name (once.value _ _ _ isValue)
          have after := within_keeps .dotted own path entries more before added
          split at read
          · exact once.inline _ _ _ _ after read
          · obtain ⟨rfl, rfl⟩ := Prod.mk.inj (Option.some.inj read)
            exact after
          · cases read
    · cases read

theorem readsOnce (fuel : Nat) : ReadsOnce fuel := by
  induction fuel with
  | zero =>
      constructor
      · intro text found rest read
        rw [readValue?.eq_def] at read
        cases read
      · intro text found rest read
        rw [readItems?.eq_def] at read
        cases read
      · intro entries text found rest _ read
        rw [readInline?.eq_def] at read
        cases read
  | succ fuel once =>
      exact ⟨readsOnce_value once, readsOnce_items once, readsOnce_inline once⟩

def Line.NamesOnce : Line → Prop
  | .header _ _ => True
  | .arrayHeader _ _ => True
  | .entry _ _ value => value.NamesOnce

theorem namesOnce_readHeader? {text : List Char} {line : Line} {rest : List Char}
    (read : readHeader? text = some (line, rest)) : line.NamesOnce := by
  unfold readHeader? at read
  split at read
  · split at read
    · obtain ⟨rfl, rfl⟩ := Prod.mk.inj (Option.some.inj read)
      trivial
    · cases read
  · split at read
    · obtain ⟨rfl, rfl⟩ := Prod.mk.inj (Option.some.inj read)
      trivial
    · cases read

theorem namesOnce_readLine? {text : List Char} {line : Line} {rest : List Char}
    (read : readLine? text = some (line, rest)) : line.NamesOnce := by
  unfold readLine? at read
  split at read
  · exact namesOnce_readHeader? read
  · unfold readEntry? at read
    split at read
    · obtain ⟨⟨value, behind⟩, isValue, same⟩ := Option.map_eq_some_iff.mp read
      obtain ⟨rfl, rfl⟩ := Prod.mk.inj same
      exact (readsOnce _).value _ _ _ isValue
    · cases read

theorem namesOnce_readLines? (fuel : Nat) {text : List Char} {lines : List Line}
    (read : readLines? fuel text = some lines) : ∀ line ∈ lines, line.NamesOnce := by
  induction fuel generalizing text lines with
  | zero => cases read
  | succ fuel ih =>
      rw [readLines?.eq_def] at read
      dsimp only at read
      split at read
      · obtain rfl := Option.some.inj read
        intro line member
        cases member
      · split at read
        · cases read
        · rename_i line behind isLine
          have first := namesOnce_readLine? isLine
          split at read
          · obtain rfl := Option.some.inj read
            intro other member
            obtain rfl := List.mem_singleton.mp member
            exact first
          · split at read
            · cases read
            · obtain ⟨others, isRest, rfl⟩ := Option.map_eq_some_iff.mp read
              exact List.forall_mem_cons.mpr ⟨first, ih isRest⟩

theorem addLine_keeps {state next : Entries × List String} {line : Line}
    (once : line.NamesOnce) (before : EntriesOnce state.1)
    (added : addLine state line = some next) : EntriesOnce next.1 := by
  obtain ⟨entries, above⟩ := state
  cases line with
  | header path name =>
      obtain ⟨result, opened, rfl⟩ := Option.map_eq_some_iff.mp added
      exact within_keeps .implicit (openTable_keeps name) path entries result before opened
  | arrayHeader path name =>
      obtain ⟨result, appended, rfl⟩ := Option.map_eq_some_iff.mp added
      exact within_keeps .implicit (appendTable_keeps name) path entries result before appended
  | entry path name value =>
      obtain ⟨result, assigned, rfl⟩ := Option.map_eq_some_iff.mp added
      have inner := within_keeps .dotted (assign_keeps name once) path
      exact within_keeps .implicit inner above entries result before assigned

theorem foldlM_addLine_keeps (lines : List Line) (once : ∀ line ∈ lines, line.NamesOnce)
    {state last : Entries × List String} (before : EntriesOnce state.1)
    (read : lines.foldlM addLine state = some last) : EntriesOnce last.1 := by
  induction lines generalizing state with
  | nil =>
      obtain rfl := Option.some.inj read
      exact before
  | cons line rest ih =>
      obtain ⟨first, others⟩ := List.forall_mem_cons.mp once
      rw [List.foldlM_cons, Option.bind_eq_bind, Option.bind_eq_some_iff] at read
      obtain ⟨next, added, behind⟩ := read
      exact ih others (addLine_keeps first before added) behind

theorem namesOnce_of_read {text : String} {entries : List (String × Toml)}
    (read : read? text = some entries) : (Toml.table entries).NamesOnce := by
  obtain ⟨lines, isLines, isDocument⟩ := Option.bind_eq_some_iff.mp read
  obtain ⟨last, steps, rfl⟩ := Option.map_eq_some_iff.mp isDocument
  have once := namesOnce_readLines? _ isLines
  exact (foldlM_addLine_keeps lines once entriesOnce_nil steps).value

end ClickHouse.Toml
