import ClickHouse.Proofs.Statement.InsertHead
import ClickHouse.Proofs.Value.Inert

/-!
Insertions without their rows. Which compiled insertions are cut behind their own keyword, and so
become the statement that is compiled without rows (`Statement.stripped_eq_head_iff`).
-/

namespace ClickHouse

open Lexeme

namespace Insert

def protectNames (insert : Insert) : Insert where
  table := ⟨Placeholder.protect insert.table.name, insert.table.schema.map Placeholder.protect⟩
  columns := insert.columns.map Placeholder.protect
  rows := insert.rows

theorem tableNames_protectNames (insert : Insert) :
    insert.protectNames.table.names = insert.table.names.map Placeholder.protect := by
  obtain ⟨⟨name, schema⟩, columns, rows⟩ := insert
  cases schema <;> simp [protectNames, TableName.names]

theorem names_protectNames (insert : Insert) :
    insert.protectNames.names = insert.names.map Placeholder.protect := by
  rw [names, tableNames_protectNames, names, List.map_append]
  rfl

theorem protect_headText (quoting : QuoteStyle) (insert : Insert) :
    Placeholder.protect (insert.headText quoting) = insert.protectNames.headText quoting := by
  have name (name : String) : Placeholder.protect (Identifier.reference quoting name) =
      Identifier.reference quoting (Placeholder.protect name) := Identifier.quote_eq quoting name
  have fixed (text : String) (free : ∀ c ∈ text.toList, c ≠ '%') :=
    Placeholder.protect_of_free text free
  obtain ⟨⟨last, schema⟩, columns, rows⟩ := insert
  have table : Placeholder.protect (TableName.reference quoting ⟨last, schema⟩) =
      TableName.reference quoting ⟨Placeholder.protect last, schema.map Placeholder.protect⟩ := by
    cases schema with
    | none => exact name last
    | some schema =>
        simp [TableName.reference, Placeholder.protect_append, name, fixed "." (by simp)]
  have opening := fixed "INSERT INTO " (by simp)
  have keyword := fixed " VALUES" (by simp)
  cases columns with
  | nil =>
      simp [headText, protectNames, Placeholder.protect_append, table, opening, keyword]
  | cons first rest =>
      simp [headText, protectNames, Placeholder.protect_append, table, opening, keyword, name,
        KeepsLiterals.protect.commaList, fixed " " (by simp), fixed "(" (by simp),
        fixed ")" (by simp), Function.comp_def]

end Insert

theorem literals_eq_map (items : List Value) : Value.literals items = items.map Value.literal := by
  induction items with
  | nil => rfl
  | cons value rest ih => rw [Value.literals, ih, List.map_cons]

theorem mem_itemLeaves {leaf : Value} {items : List Value} (member : leaf ∈ itemLeaves items) :
    ∃ value ∈ items, leaf ∈ value.leaves := by
  induction items with
  | nil => contradiction
  | cons value rest ih =>
      rw [itemLeaves, List.mem_append] at member
      rcases member with first | others
      · exact ⟨value, by simp, first⟩
      · obtain ⟨other, isItem, isLeaf⟩ := ih others
        exact ⟨other, by simp [isItem], isLeaf⟩

namespace Insert

def RowsReadable (insert : Insert) : Prop :=
  ∃ scan, Lexeme.scan (Placeholder.protect insert.rowsText) = .ok scan

theorem toList_protect_rowsText (insert : Insert) :
    (Placeholder.protect insert.rowsText).toList =
      if insert.rows.isEmpty then [] else
        ' ' :: (Placeholder.protect (Text.commaList (insert.rows.map rowText))).toList := by
  obtain ⟨table, columns, rows⟩ := insert
  cases rows with
  | nil => rfl
  | cons first rest =>
      have space : Placeholder.protect " " = " " := rfl
      simp [rowsText, Placeholder.protect_append, space]

theorem separates_rows (insert : Insert) :
    Separates (Placeholder.protect insert.rowsText).toList := by
  rw [toList_protect_rowsText]
  split
  · exact separates_nil
  · exact separates_gap ' ' _ rfl

theorem rowsText_eq_empty_iff (insert : Insert) :
    Placeholder.protect insert.rowsText = "" ↔ insert.rows = [] := by
  rw [← String.toList_eq_nil_iff, toList_protect_rowsText]
  cases insert.rows <;> simp

/-- Only the text of a decimal can keep rows from being read. -/
theorem rowsReadable_of_exact (insert : Insert)
    (exact : ∀ row ∈ insert.rows, ∀ value ∈ row, ∀ leaf ∈ value.leaves, leaf.isDecimal = false) :
    insert.RowsReadable := by
  have leaves : ∀ leaf ∈ itemLeaves (insert.rows.map Value.tuple), leaf.isDecimal = false := by
    intro leaf member
    obtain ⟨tuple, isTuple, inTuple⟩ := mem_itemLeaves member
    obtain ⟨row, isRow, rfl⟩ := List.mem_map.mp isTuple
    obtain ⟨value, isValue, isLeaf⟩ := mem_itemLeaves inTuple
    exact exact row isRow value isValue leaf isLeaf
  have texts : Value.literals (insert.rows.map Value.tuple) = insert.rows.map rowText := by
    rw [literals_eq_map, List.map_map]
    exact List.map_congr_left fun row _ => by
      rw [Function.comp_apply, Value.literal, rowText, literals_eq_map]
  have inscribed := (itemsInscribe (insert.rows.map Value.tuple) KeepsLiterals.protect
    Placeholder.protect_quote leaves).commaList
  rw [texts, ← KeepsLiterals.protect.commaList] at inscribed
  obtain ⟨lexemes, found, -⟩ := inscribed
  have rows : ∃ lexemes,
      HasChosen Kind.isFirm (Placeholder.protect insert.rowsText).toList lexemes := by
    rw [toList_protect_rowsText]
    split
    · exact ⟨_, .nil⟩
    · exact ⟨_, .gap transparent_firm rfl found⟩
  obtain ⟨_, whole⟩ := rows
  obtain ⟨scan, scanned, -⟩ := whole.scanned
  exact ⟨scan, scan_of_scan? scanned⟩

theorem isSome_scan?_rows_iff (insert : Insert) :
    (scan? (Placeholder.protect insert.rowsText).toList).isSome = true ↔ insert.RowsReadable := by
  constructor
  · intro read
    obtain ⟨scan, scanned⟩ := Option.isSome_iff_exists.mp read
    exact ⟨scan, scan_of_scan? scanned⟩
  · rintro ⟨scan, scanned⟩
    rw [scan?_of_scan scanned]
    rfl

end Insert

/-- Cutting a compiled insertion at its keyword gives the statement without its rows exactly when
all its names are sealed, the name of the table does not have the keyword in it and the rows can be
read, as they can without decimals; or when there are no rows and some name is not sealed, so that
the statement cannot be read and stays as it is. -/
theorem Statement.stripped_eq_head_iff (dialect : Dialect) (inlineValues : Bool) (insert : Insert) :
    ∃ compiled head, Statement.compile dialect inlineValues (.insert insert) = .ok compiled ∧
      Statement.compile dialect inlineValues (.insert { insert with rows := [] }) = .ok head ∧
      (InsertHead.ofText compiled.sql = head.sql ↔
        ((∀ name ∈ insert.names, Identifier.isSealed dialect.quoting name = true) ∧
          (∀ name ∈ insert.table.names,
            InsertHead.mentions (Identifier.quote dialect.quoting name) = false) ∧
          insert.RowsReadable) ∨
        ((∃ name ∈ insert.names, Identifier.isSealed dialect.quoting name = false) ∧
          insert.rows = [])) ∧
      ((∀ row ∈ insert.rows, ∀ value ∈ row, ∀ leaf ∈ value.leaves, leaf.isDecimal = false) →
        insert.RowsReadable) := by
  refine ⟨_, _, rfl, rfl, ?_, insert.rowsReadable_of_exact⟩
  have whole : ((insert.sql (dialect.style inlineValues)).compiled).sql =
      insert.protectNames.headText dialect.quoting ++ Placeholder.protect insert.rowsText := by
    rw [← Insert.protect_headText, ← Placeholder.protect_append]
    exact Insert.text_sql _ insert
  have head : ((Insert.sql (dialect.style inlineValues) { insert with rows := [] }).compiled).sql =
      insert.protectNames.headText dialect.quoting := by
    rw [← Insert.protect_headText]
    refine (Insert.text_sql _ { insert with rows := [] }).trans ?_
    rw [Insert.rowsText, String.append_empty]
    rfl
  rw [whole, head]
  by_cases isSealed : ∀ name ∈ insert.names, Identifier.isSealed dialect.quoting name = true
  · have written : ∀ name ∈ insert.protectNames.names,
        Identifier.isSealed dialect.quoting name = true := by
      rw [Insert.names_protectNames, List.forall_mem_map]
      intro name member
      rw [Identifier.isSealed_protect]
      exact isSealed name member
    have mentions : insert.protectNames.tableMentions dialect.quoting = false ↔
        ∀ name ∈ insert.table.names,
          InsertHead.mentions (Identifier.quote dialect.quoting name) = false := by
      rw [Insert.tableMentions, Insert.tableNames_protectNames]
      simp [Identifier.quote_eq]
    rw [Insert.ofText_sealed written insert.separates_rows, Insert.isSome_scan?_rows_iff, mentions]
    constructor
    · exact fun cut => .inl ⟨isSealed, cut⟩
    · rintro (⟨-, cut⟩ | ⟨⟨name, member, leaks⟩, -⟩)
      · exact cut
      · exact absurd (isSealed name member) (by simp [leaks])
  · have leaks : ∃ name ∈ insert.names, Identifier.isSealed dialect.quoting name = false := by
      simpa using isSealed
    have written : ∃ name ∈ insert.protectNames.names,
        Identifier.isSealed dialect.quoting name = false := by
      obtain ⟨name, member, isLeak⟩ := leaks
      refine ⟨Placeholder.protect name, ?_, (Identifier.isSealed_protect _ name).trans isLeak⟩
      rw [Insert.names_protectNames]
      exact List.mem_map_of_mem member
    rw [Insert.ofText_unsealed written, Insert.rowsText_eq_empty_iff]
    constructor
    · exact fun none => .inr ⟨leaks, none⟩
    · rintro (⟨all, -⟩ | ⟨-, none⟩)
      · exact absurd all isSealed
      · exact none

/-- The keyword is not reserved, so it can be the name of a table and stand there bare. -/
theorem Statement.stripped_ne_head_of_values_table : ∃ compiled head,
    Statement.compile .standard true (.insert ⟨⟨"values", none⟩, ["x"], [[.int 1]]⟩) =
      .ok compiled ∧
    Statement.compile .standard true (.insert ⟨⟨"values", none⟩, ["x"], []⟩) = .ok head ∧
    InsertHead.ofText compiled.sql = "INSERT INTO values" ∧
    head.sql = "INSERT INTO values (x) VALUES" := by
  refine ⟨_, _, rfl, rfl, ?_, ?_⟩
  · decide
  · decide

/-- A backslash in a name takes the first of two marks: what is left of the name is read as if it
stood outside, and a mark in a row closes what the name has opened. -/
example : Identifier.reference .double "a\\\") values" = "\"a\\\"\") values\"" ∧
    Value.literal (.string "\"'") = "'\"\\''" ∧
    InsertHead.ofText "INSERT INTO t (\"a\\\"\") values\") VALUES ('\"\\'')" =
      "INSERT INTO t (\"a\\\"\") values" := by
  decide

end ClickHouse
