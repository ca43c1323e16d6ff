import ClickHouse.Proofs.Catalog.Memory
import ClickHouse.Proofs.Catalog.Recreation
import ClickHouse.Proofs.Engine.UnknownFormat

/-!
What a table is described as by a server that answers with arbitrary rows. A type, a codec or an
engine that cannot be read costs no more than itself; only a row of engines that holds something
else than texts and a file of an unknown format keep a table from being described
(`describe_fails_iff_refused`).
-/

namespace ClickHouse

namespace Catalog

def answering (rows : List Compiled → Compiled → List Row) : Server := fun before statement =>
  .ok (rows before statement)

section

variable (dialect : Dialect) (rows : List Compiled → Compiled → List Row)
  (before : List Compiled) (table : TableName)

def engineStatements : List Compiled :=
  if dialect.supports .engineReflection then [engineStatement table] else []

def engineRow? : Option Row :=
  if dialect.supports .engineReflection then (rows before (engineStatement table)).head? else none

def columnRows : List Row :=
  rows (before ++ engineStatements dialect table) (columnsStatement dialect table)

def columnNames : List String :=
  (columnRows dialect rows before table).map fun row => row.text "name"

end

structure ReadFrom (row : Row) (column : DescribedColumn) : Prop where
  name : ∀ text, row.cell? "name" = some (.string text) → column.name = text
  unnamed : (∀ text, row.cell? "name" ≠ some (.string text)) → column.name = ""
  type : ∀ type, DataType.read (row.text "type") = .ok type → column.type = type
  unreadableType : ∀ cause, DataType.read (row.text "type") = .error cause →
    column.type = .unrecognized (row.text "type")
  codecs : ∀ parts, codecParts (Text.trim (row.text "codec_expression")) = .ok parts →
    column.codecs = parts
  unreadableCodecs : ∀ cause,
    codecParts (Text.trim (row.text "codec_expression")) = .error cause → column.codecs = []

def engineFields : List String :=
  ["engine", "engine_full", "partition_key", "sorting_key", "primary_key", "sampling_key"]

/-- Whether a row has a cell of the name that is no text. -/
def IsForeign (row : Row) (field : String) : Prop :=
  ∃ cell, row.cell? field = some cell ∧ ∀ text, cell ≠ .string text

def recordOf (row : Row) : EngineRecord :=
  ⟨row.text "engine", row.text "engine_full", row.text "partition_key", row.text "sorting_key",
    row.text "primary_key", row.text "sampling_key"⟩

def engineIn (columns : List String) (row : Row) : Option Engine :=
  ((recordOf row).read columns).toOption.join

/-- Whether a row about an engine keeps its table from being described. -/
def IsRefused (columns : List String) (row : Row) : Prop :=
  (∃ field ∈ engineFields, IsForeign row field) ∨
    ∃ format, (recordOf row).read columns = .error (.unknownFormat format)

/-- Whether the engine of a table is asked for and its row keeps the table from being described. -/
def Refused (dialect : Dialect) (rows : List Compiled → Compiled → List Row)
    (before : List Compiled) (table : TableName) : Prop :=
  ∃ row ∈ engineRow? dialect rows before table,
    IsRefused (columnNames dialect rows before table) row

structure DescribedFrom (dialect : Dialect) (rows : List Compiled → Compiled → List Row)
    (before : List Compiled) (table : TableName) (described : DescribedTable) : Prop where
  name : described.name = table.name
  schema : described.schema = table.schema
  columns : List.Forall₂ ReadFrom (columnRows dialect rows before table) described.columns
  engine : described.engine = (engineRow? dialect rows before table).bind
    (engineIn (columnNames dialect rows before table))

theorem text_of_cell {row : Row} {name text : String} (cell : row.cell? name = some (.string text)) :
    row.text name = text := by
  rw [Row.text, Row.string?, cell]
  rfl

theorem text_of_no_text {row : Row} {name : String}
    (noText : ∀ text, row.cell? name ≠ some (.string text)) : row.text name = "" := by
  rw [Row.text, Row.string?]
  cases found : row.cell? name with
  | none => rfl
  | some cell =>
      cases cell with
      | string text => exact absurd found (noText text)
      | _ => rfl

theorem codecs_of_parts {text : String} {parts : List String}
    (readable : codecParts (Text.trim text) = .ok parts) : (codecs text).1 = parts := by
  have filled : Text.trim text ≠ "" := by
    intro empty
    rw [empty] at readable
    contradiction
  simp only [codecs, if_neg filled, readable]

theorem codecs_of_unreadable {text : String} {cause : SyntaxError}
    (unreadable : codecParts (Text.trim text) = .error cause) : (codecs text).1 = [] := by
  rw [codecs]
  split
  · rfl
  · simp only [unreadable]

theorem readFrom_column (row : Row) : ReadFrom row (column row).1 := by
  constructor
  · intro text cell
    simp only [column]
    exact text_of_cell cell
  · intro noText
    simp only [column]
    exact text_of_no_text noText
  · intro type readable
    simp only [column, columnType, readable]
  · intro cause unreadable
    simp only [column, columnType, unreadable]
  · intro parts readable
    simp only [column]
    exact codecs_of_parts readable
  · intro cause unreadable
    simp only [column]
    exact codecs_of_unreadable unreadable

theorem recordField_of_text {row : Row} {field : String} (isText : ¬IsForeign row field) :
    recordField row field = .ok (row.text field) := by
  rw [recordField]
  cases found : row.cell? field with
  | none => rw [text_of_no_text (by simp [found])]
  | some cell =>
      cases cell with
      | string text => rw [text_of_cell found]
      | _ => exact absurd ⟨_, found, by simp⟩ isText

theorem not_isForeign_of_recordField {row : Row} {field text : String}
    (read : recordField row field = .ok text) : ¬IsForeign row field := by
  rintro ⟨cell, found, foreign⟩
  rw [recordField, found] at read
  cases cell with
  | string text => exact foreign text rfl
  | _ => contradiction

theorem engineRecordOf_of_texts {row : Row}
    (texts : ¬∃ field ∈ engineFields, IsForeign row field) :
    engineRecordOf row = .ok (recordOf row) := by
  have each : ∀ field ∈ engineFields, recordField row field = .ok (row.text field) :=
    fun field member => recordField_of_text fun foreign => texts ⟨field, member, foreign⟩
  simp only [engineFields, List.forall_mem_cons] at each
  obtain ⟨engine, definition, partition, sorting, primary, sampling, _⟩ := each
  simp only [engineRecordOf, engine, definition, partition, sorting, primary, sampling,
    Bind.bind, Except.bind, pure, Except.pure, recordOf]

/-- Each of the texts is asked for, so no foreign cell is passed over. -/
theorem engineRecordOf_of_foreign {row : Row}
    (foreign : ∃ field ∈ engineFields, IsForeign row field) :
    ∃ failure, engineRecordOf row = .error failure := by
  cases read : engineRecordOf row with
  | error failure => exact ⟨failure, rfl⟩
  | ok record =>
      exfalso
      obtain ⟨_, engine, read⟩ := bind_eq_ok read
      obtain ⟨_, definition, read⟩ := bind_eq_ok read
      obtain ⟨_, partition, read⟩ := bind_eq_ok read
      obtain ⟨_, sorting, read⟩ := bind_eq_ok read
      obtain ⟨_, primary, read⟩ := bind_eq_ok read
      obtain ⟨_, sampling, _⟩ := bind_eq_ok read
      obtain ⟨field, member, isForeign⟩ := foreign
      simp only [engineFields, List.mem_cons, List.not_mem_nil, or_false] at member
      rcases member with rfl | rfl | rfl | rfl | rfl | rfl
      · exact not_isForeign_of_recordField engine isForeign
      · exact not_isForeign_of_recordField definition isForeign
      · exact not_isForeign_of_recordField partition isForeign
      · exact not_isForeign_of_recordField sorting isForeign
      · exact not_isForeign_of_recordField primary isForeign
      · exact not_isForeign_of_recordField sampling isForeign

def recordIn : Option Row → Except Failure (Option EngineRecord)
  | none => .ok none
  | some row => (engineRecordOf row).map some

theorem recordIn_of_texts (row : Option Row)
    (texts : ∀ known ∈ row, ¬∃ field ∈ engineFields, IsForeign known field) :
    recordIn row = .ok (row.map recordOf) := by
  cases row with
  | none => rfl
  | some row =>
      rw [recordIn, engineRecordOf_of_texts (texts row rfl)]
      rfl

section

variable {α β : Type} {server : Server} {before : List Compiled}

theorem result_andThen_of_ok {query : CatalogQuery α} (next : α → CatalogQuery β) {first : α}
    (done : (query.run server before).result = .ok first) :
    ((andThen query next).run server before).result =
      ((next first).run server (before ++ (query.run server before).executed)).result := by
  rw [andThen, Dialogue.run_bind]
  dsimp only
  rw [done]

theorem result_andThen_of_error {query : CatalogQuery α} (next : α → CatalogQuery β)
    {failure : Failure} (failed : (query.run server before).result = .error failure) :
    ((andThen query next).run server before).result = .error failure := by
  rw [andThen, Dialogue.run_bind]
  dsimp only
  rw [failed]
  rfl

theorem result_engineOf_refused {record : EngineRecord} {columns : List String} {format : String}
    (table : String) (refused : record.read columns = .error (.unknownFormat format)) :
    ((engineOf table columns (some record)).run server before).result =
      .error (.definition (.unknownFormat format)) := by
  rw [engineOf, refused]
  rfl

theorem result_engineOf_engineIn (table : String) (columns : List String) (row : Option Row)
    (passed : ∀ known ∈ row, ∀ format,
      (recordOf known).read columns ≠ .error (.unknownFormat format)) :
    ((engineOf table columns (row.map recordOf)).run server before).result =
      .ok (row.bind (engineIn columns)) := by
  cases row with
  | none => rfl
  | some row =>
      rw [Option.map_some, Option.bind_some, engineOf, engineIn]
      cases read : (recordOf row).read columns with
      | ok engine =>
          dsimp only
          rw [Dialogue.run_reporting]
          rfl
      | error cause =>
          cases cause with
          | unknownFormat format => exact absurd read (passed row rfl format)
          | _ => rfl

end

section

variable (dialect : Dialect) (rows : List Compiled → Compiled → List Row)
  (before : List Compiled) (table : TableName)

theorem run_engineRecord :
    (engineRecord dialect table).run (answering rows) before =
      ⟨recordIn (engineRow? dialect rows before table), engineStatements dialect table, []⟩ := by
  by_cases supported : dialect.supports .engineReflection = true
  · simp only [engineRecord, engineRow?, engineStatements, if_pos supported, withRows,
      Dialogue.run, answering, engineStatement]
    cases rows before _ with
    | nil => rfl
    | cons row rest => rfl
  · simp only [engineRecord, engineRow?, engineStatements, if_neg supported]
    rfl

theorem result_columns :
    ((columns dialect table).run (answering rows)
      (before ++ engineStatements dialect table)).result =
        .ok ((columnRows dialect rows before table).map fun row => (column row).1) := by
  simp only [columns, withRows, Dialogue.run, answering, Dialogue.run_reporting]
  rw [List.map_map]
  rfl

theorem result_tableComment :
    ∃ comment, ((tableComment dialect table).run (answering rows) before).result = .ok comment := by
  rw [tableComment]
  split
  · exact ⟨_, rfl⟩
  · exact ⟨_, rfl⟩

theorem names_described :
    ((columnRows dialect rows before table).map fun row => (column row).1).map
      DescribedColumn.name = columnNames dialect rows before table := by
  rw [List.map_map]
  rfl

variable {dialect rows before table}

theorem result_describe_of_texts
    (texts : ∀ row ∈ engineRow? dialect rows before table,
      ¬∃ field ∈ engineFields, IsForeign row field) :
    ∃ since, ((describe dialect table).run (answering rows) before).result =
      ((andThen (engineOf table.name (columnNames dialect rows before table)
          ((engineRow? dialect rows before table).map recordOf)) fun engine =>
        andThen (tableComment dialect table) fun comment =>
          .done (.ok ⟨table.name, table.schema,
            (columnRows dialect rows before table).map fun row => (column row).1, engine,
            comment⟩)).run (answering rows) since).result := by
  have ran := run_engineRecord dialect rows before table
  rw [recordIn_of_texts _ texts] at ran
  rw [describe, result_andThen_of_ok _ (by rw [ran]), ran,
    result_andThen_of_ok _ (result_columns dialect rows before table), names_described]
  exact ⟨_, rfl⟩

theorem describe_of_refused {row : Row} (isRow : engineRow? dialect rows before table = some row)
    (refused : IsRefused (columnNames dialect rows before table) row) :
    ∃ failure, ((describe dialect table).run (answering rows) before).result = .error failure := by
  by_cases foreign : ∃ field ∈ engineFields, IsForeign row field
  · have ran := run_engineRecord dialect rows before table
    obtain ⟨failure, failed⟩ := engineRecordOf_of_foreign foreign
    refine ⟨failure, result_andThen_of_error _ ?_⟩
    rw [ran, isRow, recordIn, failed]
    rfl
  · have texts : ∀ known ∈ engineRow? dialect rows before table,
        ¬∃ field ∈ engineFields, IsForeign known field := by
      intro known isKnown
      obtain rfl := Option.some.inj (isRow.symm.trans isKnown)
      exact foreign
    obtain ⟨format, unknown⟩ := refused.resolve_left foreign
    obtain ⟨since, same⟩ := result_describe_of_texts texts
    refine ⟨.definition (.unknownFormat format), ?_⟩
    rw [same, isRow, Option.map_some]
    exact result_andThen_of_error _ (result_engineOf_refused _ unknown)

theorem describe_of_not_refused (passed : ¬Refused dialect rows before table) :
    ∃ described,
      ((describe dialect table).run (answering rows) before).result = .ok described ∧
      DescribedFrom dialect rows before table described := by
  have texts : ∀ row ∈ engineRow? dialect rows before table,
      ¬∃ field ∈ engineFields, IsForeign row field :=
    fun row isRow foreign => passed ⟨row, isRow, .inl foreign⟩
  have known : ∀ row ∈ engineRow? dialect rows before table, ∀ format,
      (recordOf row).read (columnNames dialect rows before table) ≠
        .error (.unknownFormat format) :=
    fun row isRow format unknown => passed ⟨row, isRow, .inr ⟨format, unknown⟩⟩
  obtain ⟨since, same⟩ := result_describe_of_texts texts
  rw [same, result_andThen_of_ok _ (result_engineOf_engineIn _ _ _ known)]
  obtain ⟨comment, came⟩ := result_tableComment dialect rows _ table
  rw [result_andThen_of_ok _ came]
  refine ⟨_, rfl, rfl, rfl, ?_, rfl⟩
  rw [List.forall₂_map_right_iff, List.forall₂_same]
  exact fun row _ => readFrom_column row

end

end Catalog

open Catalog

/-- Over a server that answers every statement with rows, the description of a table that is not
remembered fails exactly when the row about its engine is refused; otherwise it is made from the
rows. A definition is refused for its format only when it can be read as one of a file. -/
theorem CatalogMemory.describe_fails_iff_refused (dialect : Dialect)
    (rows : List Compiled → Compiled → List Row) (before : List Compiled)
    (memory : CatalogMemory) (key : MemoryKey) (unknown : memory.lookup? key = none) :
    ((∃ failure, ((memory.describe dialect key).run (answering rows) before).result.1 =
      .error failure) ↔ Refused dialect rows before key.table) ∧
    (¬Refused dialect rows before key.table → ∃ described,
      ((memory.describe dialect key).run (answering rows) before).result.1 = .ok described ∧
      DescribedFrom dialect rows before key.table described) ∧
    ∀ row columns format, (recordOf row).read columns = .error (.unknownFormat format) →
      ∃ head,
        EngineDefinition.head (recordOf row) (Text.trim (row.text "engine_full")) = .ok head ∧
        head.name = "File" ∧ EngineDefinition.formatName head = format ∧
        ∀ known : FileFormat, known.name ≠ format := by
  have asked : ((memory.describe dialect key).run (answering rows) before).result.1 =
      ((Catalog.describe dialect key.table).run (answering rows) before).result := by
    rw [run_describe_unknown (answering rows) before unknown]
  rw [asked]
  refine ⟨?_, describe_of_not_refused, ?_⟩
  · constructor
    · rintro ⟨failure, failed⟩
      by_contra passed
      obtain ⟨described, came, _⟩ := describe_of_not_refused passed
      rw [came] at failed
      contradiction
    · rintro ⟨row, isRow, refused⟩
      exact describe_of_refused isRow refused
  · intro row columns format refused
    exact (EngineRecord.read_eq_unknownFormat_iff _ _ _).mp refused

namespace Damage

def row (definition : Json) : Row :=
  [("name", .string "day"), ("type", .string "Date("), ("codec_expression", .string "CODEC("),
    ("engine_full", definition)]

def rows (definition : Json) : List Compiled → Compiled → List Row := fun _ _ =>
  [row definition]

def key : MemoryKey :=
  ⟨"local", "events", none⟩

theorem read_row :
    (recordOf (row (.string "Buffer(1)"))).read ["day"] =
      .error (.invalidParameters "Buffer expects 9 to 12 parameters, got 1") :=
  rfl

theorem not_refused : ¬Refused Dialect.standard (rows (.string "Buffer(1)")) [] key.table := by
  rintro ⟨_, ⟨⟩, ⟨field, member, cell, found, foreign⟩ | ⟨format, unknown⟩⟩
  · simp only [engineFields, List.mem_cons, List.not_mem_nil, or_false] at member
    rcases member with rfl | rfl | rfl | rfl | rfl | rfl
    · contradiction
    · exact foreign _ (Option.some.inj found).symm
    · contradiction
    · contradiction
    · contradiction
    · contradiction
  · exact absurd (read_row.symm.trans unknown) (by simp)

end Damage

/-- A definition that is null fails; one that cannot be read is left out. -/
theorem CatalogMemory.describe_fails_iff_refused_damage :
    CatalogMemory.empty.lookup? Damage.key = none ∧
    (∃ failure, ((CatalogMemory.empty.describe Dialect.standard Damage.key).run
      (answering (Damage.rows .null)) []).result.1 = .error failure) ∧
    ∃ described, ((CatalogMemory.empty.describe Dialect.standard Damage.key).run
      (answering (Damage.rows (.string "Buffer(1)"))) []).result.1 = .ok described ∧
      described.engine = none ∧ described.columns.length = 1 := by
  have onNull := CatalogMemory.describe_fails_iff_refused Dialect.standard (Damage.rows .null) []
    CatalogMemory.empty Damage.key rfl
  have onText := CatalogMemory.describe_fails_iff_refused Dialect.standard
    (Damage.rows (.string "Buffer(1)")) [] CatalogMemory.empty Damage.key rfl
  have refused : Refused Dialect.standard (Damage.rows .null) [] Damage.key.table :=
    ⟨_, rfl, .inl ⟨"engine_full", by simp [engineFields], .null, rfl, by simp⟩⟩
  obtain ⟨described, came, made⟩ := onText.2.1 Damage.not_refused
  refine ⟨rfl, onNull.1.mpr refused, described, came, ?_, made.columns.length_eq.symm⟩
  rw [made.engine]
  have unread := congrArg (fun read => read.toOption.join) Damage.read_row
  exact unread

end ClickHouse
