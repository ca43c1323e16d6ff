import ClickHouse.Proofs.Statement.Executable
import ClickHouse.Proofs.Statement.InsertHead
import ClickHouse.Proofs.Table.Boundaries

/-!
The rows of an insertion, read back from the text that a server runs. The head of the statement
ends with the keyword before the rows, what follows it splits into one group for each row, and the
inside of a group splits into the literals of the row (`Statement.insert_recovers_rows`).
-/

namespace ClickHouse

open Lexeme

namespace InsertHead

theorem ofText_append {head after : String} {lexemes more : List Lexeme}
    (scanned : scan? head.toList = some ⟨lexemes, []⟩)
    (found : ∀ rest, upToKeyword? 0 (lexemes ++ rest) = some lexemes)
    (separates : Separates after.toList) (scannedAfter : scan? after.toList = some ⟨more, []⟩) :
    ofText (head ++ after) = head := by
  have whole := scan?_append_some scanned separates scannedAfter
  have source : sourceOf lexemes = head.toList := by
    simpa [Scan.source] using scan_source _ _ scanned
  rw [ofText, String.toList_append, whole]
  simp only [found, source, String.ofList_toList]

end InsertHead

namespace Insert

def isValues (name : String) : Prop :=
  name.toList.map Char.toUpper = "VALUES".toList

theorem not_mentions_word {quoting : QuoteStyle} {name : String}
    (word : Identifier.isWord name = true) (other : ¬isValues name) :
    InsertHead.mentions (Identifier.reference quoting name) = false := by
  obtain ⟨kind, isName, spelled⟩ := spells_reference quoting name word
  rw [InsertHead.mentions, scan?_spells kind _ spelled]
  rcases isName with rfl | rfl
  · have notKeyword : (Identifier.reference quoting name).toList.map Char.toUpper ≠
        "VALUES".toList := by
      rcases Identifier.reference_of_isWord quoting name word with bare | marked
      · rw [bare]
        exact other
      · rw [marked]
        cases quoting <;> simp [QuoteStyle.mark]
    simpa [InsertHead.isKeyword] using notKeyword
  · rfl

theorem isSealed_word (quoting : QuoteStyle) {name : String}
    (word : Identifier.isWord name = true) : Identifier.isSealed quoting name = true :=
  Identifier.sealedFrom_of_free _ _ fun c member =>
    (Identifier.free_of_isWordChar c (Identifier.isWordChar_of_isWord name word c member)).2.2.2.1

theorem scan?_headText (quoting : QuoteStyle) (insert : Insert)
    (name : Identifier.isWord insert.table.name = true)
    (schema : ∀ schema ∈ insert.table.schema, Identifier.isWord schema = true)
    (columns : ∀ column ∈ insert.columns, Identifier.isWord column = true)
    (otherName : ¬isValues insert.table.name)
    (otherSchema : ∀ schema ∈ insert.table.schema, ¬isValues schema) :
    ∃ lexemes, scan? (insert.headText quoting).toList = some ⟨lexemes, []⟩ ∧
      ∀ rest, InsertHead.upToKeyword? 0 (lexemes ++ rest) = some lexemes := by
  have words : ∀ part ∈ insert.table.names, Identifier.isWord part = true ∧ ¬isValues part := by
    intro part member
    rcases List.mem_append.mp member with ofSchema | ofName
    · have isSchema : part ∈ insert.table.schema := by simpa using ofSchema
      exact ⟨schema part isSchema, otherSchema part isSchema⟩
    · obtain rfl : part = insert.table.name := by simpa using ofName
      exact ⟨name, otherName⟩
  have isSealed : ∀ part ∈ insert.names, Identifier.isSealed quoting part = true :=
    List.forall_mem_append.mpr ⟨fun part member => isSealed_word quoting (words part member).1,
      fun column member => isSealed_word quoting (columns column member)⟩
  have free : insert.tableMentions quoting = false := by
    rw [tableMentions, List.any_eq_false]
    intro part member
    simp [not_mentions_word (words part member).1 (words part member).2]
  obtain ⟨before, keyword, scanned, ends, depth⟩ := scan?_sealedHead isSealed
  rw [free] at depth
  exact ⟨_, scanned, InsertHead.upToKeyword?_ends depth ends⟩

end Insert

theorem innerGroup_group (items : List String) (each : ∀ item ∈ items, IsItem item) :
    innerGroup ("(" ++ Text.commaList items ++ ")") = .ok (Text.commaList items, "") := by
  have lead : scan? "".toList = some ⟨[], []⟩ := rfl
  exact innerGroup_commaList (by simp) lead (by simp) (fun item member => (each item member).isPart)
    rfl

section

variable {row : List Value} (simple : ∀ value ∈ row, value.isSimple = true)

include simple

theorem isItem_literals : ∀ literal ∈ row.map Value.literal, IsItem literal := by
  intro literal member
  obtain ⟨value, isValue, rfl⟩ := List.mem_map.mp member
  exact (value.guarded .unchanged (simple value isValue)).isItem

theorem rowText_recovers : ∃ inside, Insert.rowText row = "(" ++ inside ++ ")" ∧
    innerGroup (Insert.rowText row) = .ok (inside, "") ∧
    splitTopLevel inside = .ok (row.map Value.literal) :=
  ⟨_, rfl, innerGroup_group _ (isItem_literals simple),
    splitTopLevel_items _ (isItem_literals simple)⟩

end

namespace Insert

variable {insert : Insert} (simple : ∀ row ∈ insert.rows, ∀ value ∈ row, value.isSimple = true)

include simple

theorem isItem_rows : ∀ text ∈ insert.rows.map rowText, IsItem text := by
  intro text member
  obtain ⟨row, isRow, rfl⟩ := List.mem_map.mp member
  exact isItem_group _ (isItem_literals (simple row isRow))

/-- What follows the keyword is separated from it and splits into the rows. -/
theorem rowsText_splits : ∃ lexemes, scan? insert.rowsText.toList = some ⟨lexemes, []⟩ ∧
    Separates insert.rowsText.toList ∧
    splitTopLevel insert.rowsText = .ok (insert.rows.map rowText) := by
  obtain ⟨lexemes, scanned, -, nonempty⟩ := scan?_items _ (isItem_rows simple)
  cases rows : insert.rows with
  | nil =>
      refine ⟨[], ?_, ?_, ?_⟩ <;> rw [rowsText, rows]
      · rfl
      · exact separates_nil
      · rfl
  | cons first rest =>
      have text : insert.rowsText = " " ++ Text.commaList (insert.rows.map rowText) := by
        rw [rowsText, rows]
      have characters : insert.rowsText.toList =
          ' ' :: (Text.commaList (insert.rows.map rowText)).toList := by
        simp [text]
      refine ⟨indented lexemes, ?_, ?_, ?_⟩
      · rw [characters]
        exact scan?_space (nonempty (by simp [rows])) scanned
      · rw [characters]
        exact separates_gap ' ' _ rfl
      · rw [text, splitTopLevel_space _ _ scanned, splitTopLevel_items _ (isItem_rows simple), rows]

end Insert

/-- An insertion into a table and columns with words for names, none of the words before the rows
being their keyword, whose values are neither decimals nor maps, nor have such parts: the server
runs a text that splits behind the keyword into one group for each row, and the inside of each
group splits into the literals of the row. -/
theorem Statement.insert_recovers_rows (dialect : Dialect) (inlineValues : Bool) (insert : Insert)
    (name : Identifier.isWord insert.table.name = true)
    (schema : ∀ schema ∈ insert.table.schema, Identifier.isWord schema = true)
    (columns : ∀ column ∈ insert.columns, Identifier.isWord column = true)
    (otherName : ¬Insert.isValues insert.table.name)
    (otherSchema : ∀ schema ∈ insert.table.schema, ¬Insert.isValues schema)
    (simple : ∀ row ∈ insert.rows, ∀ value ∈ row, value.isSimple = true) :
    ∃ compiled text before after parts,
      Statement.compile dialect inlineValues (.insert insert) = .ok compiled ∧
      compiled.executable = .ok text ∧ text = before ++ " VALUES" ++ after ∧
      InsertHead.ofText text = before ++ " VALUES" ∧ splitTopLevel after = .ok parts ∧
      List.Forall₂ (fun row part => ∃ inside, part = "(" ++ inside ++ ")" ∧
        innerGroup part = .ok (inside, "") ∧
        splitTopLevel inside = .ok (row.map Value.literal)) insert.rows parts := by
  obtain ⟨lexemes, scanned, found⟩ := insert.scan?_headText dialect.quoting name schema columns
    otherName otherSchema
  obtain ⟨more, scannedRows, separates, parts⟩ := Insert.rowsText_splits simple
  have inline : ∀ piece ∈ insert.sql (dialect.style inlineValues), piece.binding? = none :=
    List.filterMap_eq_nil_iff.mp (insert.sql_made dialect.quoting).unbound
  have runs : substitute (insert.sql (dialect.style inlineValues)).text [] =
      .ok (insert.headText dialect.quoting ++ insert.rowsText) := by
    rw [Placeholder.substitute_nil_iff, Insert.text_sql]
    exact (Placeholder.Keeps.protect _).passes_iff.mpr trivial
  refine ⟨_, insert.headText dialect.quoting ++ insert.rowsText, _, insert.rowsText,
    insert.rows.map Insert.rowText, rfl, ?_, rfl,
    InsertHead.ofText_append scanned found separates scannedRows, parts, ?_⟩
  · rw [Template.compiled, Compiled.executable, Template.params_of_inline _ inline]
    exact runs
  · rw [List.forall₂_map_right_iff, List.forall₂_same]
    exact fun row member => rowText_recovers (simple row member)

namespace Orders

def insertion : Insert where
  table := ⟨"order", some "shop"⟩
  columns := ["id", "note", "values"]
  rows := [[.uint 1, .string "it's 100%), (2, 'VALUES", .array [.tuple [.null, .string "a, [b"]]],
    [], [.bool true, .string "\\", .array []]]

end Orders

theorem Statement.insert_recovers_orders : ∃ compiled text before after parts,
    Statement.compile .standard true (.insert Orders.insertion) = .ok compiled ∧
    compiled.executable = .ok text ∧ text = before ++ " VALUES" ++ after ∧
    InsertHead.ofText text = before ++ " VALUES" ∧ splitTopLevel after = .ok parts ∧
    List.Forall₂ (fun row part => ∃ inside, part = "(" ++ inside ++ ")" ∧
      innerGroup part = .ok (inside, "") ∧
      splitTopLevel inside = .ok (row.map Value.literal)) Orders.insertion.rows parts := by
  refine Statement.insert_recovers_rows .standard true Orders.insertion (by decide)
    (by rintro _ ⟨⟩; decide) (by decide) ?_ ?_ (by decide)
  · simp [Insert.isValues, Orders.insertion]
  · simp [Insert.isValues, Orders.insertion]

end ClickHouse
