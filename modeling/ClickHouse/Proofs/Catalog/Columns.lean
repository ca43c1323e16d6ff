import ClickHouse.Catalog
import ClickHouse.Proofs.DataType.Canonical
import ClickHouse.Proofs.Engine.RoundTrip
import ClickHouse.Table.Ddl
import Mathlib.Data.List.Forall2

/-!
Columns as a catalog describes them. What is read of a description is written like the column
that it describes.
-/

namespace ClickHouse

open Lexeme

/-- A visible text without blanks at its ends, whose brackets are closed and whose commas stand
between brackets. -/
structure IsCodec (codec : String) : Prop where
  visible : codec ≠ ""
  trimmed : Text.trim codec = codec
  contained : ∃ scan, Lexeme.scan codec = .ok scan ∧
    Contained Kind.endsPart 0 scan.lexemes = true

theorem IsCodec.isItem {codec : String} (isCodec : IsCodec codec) : IsItem codec := by
  obtain ⟨first, last⟩ := Text.trimChars_ends codec.toList
  have characters : Text.trimChars codec.toList = codec.toList := by
    have trimmed := congrArg String.toList isCodec.trimmed
    simpa [Text.trim] using trimmed
  rw [characters] at first last
  obtain ⟨⟨lexemes, trailing⟩, scanned, contained⟩ := isCodec.contained
  have scanned := scan?_of_scan scanned
  have source := scan_source _ _ scanned
  obtain rfl := trailing_eq_nil scanned last
  refine ⟨⟨lexemes, ?_, scanned, contained⟩, first, last⟩
  rintro rfl
  have empty : codec.toList = [] := source.symm
  exact isCodec.visible (by simpa using empty)

def codecText : List String → String
  | [] => ""
  | codecs => "CODEC(" ++ Text.commaList codecs ++ ")"

theorem innerGroup_codecText (codecs : List String) (each : ∀ codec ∈ codecs, IsItem codec) :
    innerGroup ("CODEC(" ++ Text.commaList codecs ++ ")") = .ok (Text.commaList codecs, "") := by
  have lead := scan?_spells .word "CODEC".toList (by decide)
  exact innerGroup_commaList (by simp) lead (by simp) (fun codec member => (each codec member).isPart)
    rfl

theorem trim_codecText (inside : String) :
    Text.trim ("CODEC(" ++ inside ++ ")") = "CODEC(" ++ inside ++ ")" := by
  have shape : "CODEC(" ++ inside ++ ")" = "CODEC" ++ ("(" ++ inside ++ ")") ++ "" := by
    rw [← String.toList_inj]
    simp
  rw [shape]
  exact trim_group "CODEC" inside "" (by decide) (by simp)

theorem codecs_codecText (codecs : List String) (each : ∀ codec ∈ codecs, IsCodec codec) :
    Catalog.codecs (codecText codecs) = (codecs, []) := by
  cases codecs with
  | nil => rfl
  | cons first rest =>
      have items : ∀ codec ∈ first :: rest, IsItem codec :=
        fun codec member => (each codec member).isItem
      have filled : "CODEC(" ++ Text.commaList (first :: rest) ++ ")" ≠ "" := by
        intro empty
        have characters := congrArg String.toList empty
        simp at characters
      change Catalog.codecs ("CODEC(" ++ Text.commaList (first :: rest) ++ ")") = _
      rw [Catalog.codecs, trim_codecText, if_neg filled, Catalog.codecParts,
        innerGroup_codecText _ items]
      simp only [bind, Except.bind, splitTopLevel_items _ items]

namespace Column

def defaultTexts (column : Column) : String × String :=
  match column.effectiveDefault? with
  | some (kind, .raw text) => (kind.keyword, text)
  | _ => ("", "")

/-- Whether the catalog can say all that a column is defined by. -/
structure Reflectable (column : Column) : Prop where
  type : column.type.isExpressible = true
  default : ∀ kind expr, column.effectiveDefault? = some (kind, expr) → ∃ text, expr = .raw text
  codecs : ∀ codec ∈ column.codecs, IsCodec codec
  after : column.after = none
  comment : column.comment ≠ some ""

end Column

structure DescribesColumn (row : Row) (column : Column) : Prop where
  name : row.text "name" = column.name
  type : row.text "type" = column.type.render
  defaultType : row.text "default_type" = column.defaultTexts.1
  defaultExpression : row.text "default_expression" = column.defaultTexts.2
  codecs : row.text "codec_expression" = codecText column.codecs
  comment : row.text "comment" = column.comment.getD ""

def Column.row (column : Column) : Row :=
  [("name", .string column.name), ("type", .string column.type.render),
    ("default_type", .string column.defaultTexts.1),
    ("default_expression", .string column.defaultTexts.2),
    ("comment", .string (column.comment.getD "")),
    ("codec_expression", .string (codecText column.codecs))]

theorem describesColumn_row (column : Column) : DescribesColumn column.row column where
  name := rfl
  type := rfl
  defaultType := rfl
  defaultExpression := rfl
  codecs := rfl
  comment := rfl

theorem nonEmpty?_of_text {cell comment : Option String} (filled : comment ≠ some "")
    (isText : cell.getD "" = comment.getD "") : Catalog.nonEmpty? cell = comment := by
  cases comment with
  | none =>
      cases cell with
      | none => rfl
      | some text =>
          obtain rfl : text = "" := isText
          rfl
  | some text =>
      have nonempty : text ≠ "" := by simpa using filled
      cases cell with
      | none => exact absurd isText.symm nonempty
      | some other =>
          obtain rfl : other = text := isText
          simp [Catalog.nonEmpty?, nonempty]

theorem effectiveDefault?_toColumn (described : DescribedColumn) :
    described.toColumn.effectiveDefault? =
      described.default.map fun entry => (entry.1, .raw entry.2) := by
  unfold DescribedColumn.toColumn
  cases described.default with
  | none => rfl
  | some entry =>
      obtain ⟨kind, text⟩ := entry
      cases kind <;> rfl

theorem default_defaultTexts (column : Column)
    (isRaw : ∀ kind expr, column.effectiveDefault? = some (kind, expr) →
      ∃ text, expr = .raw text) :
    (((DefaultKind.ofKeyword? column.defaultTexts.1).map fun kind =>
      (kind, column.defaultTexts.2)).map fun entry => (entry.1, Expr.raw entry.2)) =
        column.effectiveDefault? := by
  unfold Column.defaultTexts
  cases effective : column.effectiveDefault? with
  | none => rfl
  | some entry =>
      obtain ⟨kind, expr⟩ := entry
      obtain ⟨text, rfl⟩ := isRaw kind expr effective
      simp [DefaultKind.ofKeyword?_keyword]

theorem columnType_render (name : String) (type : DataType)
    (expressible : type.isExpressible = true) :
    (Catalog.columnType name type.render).1 = type.canonical := by
  have read := (DataType.writes_render type expressible).read
  rw [Catalog.columnType, read]

def Column.described (column : Column) : DescribedColumn where
  name := column.name
  type := column.type.canonical
  default := (DefaultKind.ofKeyword? column.defaultTexts.1).map fun kind =>
    (kind, column.defaultTexts.2)
  codecs := column.codecs
  comment := column.comment

theorem column_described {row : Row} {column : Column} (reflectable : column.Reflectable)
    (describes : DescribesColumn row column) : (Catalog.column row).1 = column.described := by
  have type := columnType_render column.name column.type reflectable.type
  have codecs := codecs_codecText column.codecs reflectable.codecs
  have comment := nonEmpty?_of_text reflectable.comment describes.comment
  rw [← describes.type] at type
  rw [← describes.codecs] at codecs
  simp only [Catalog.column, type, codecs, comment, describes.name, describes.defaultType,
    describes.defaultExpression, Column.described]

theorem columns_described {rows : List Row} {columns : List Column}
    (describes : List.Forall₂ DescribesColumn rows columns)
    (reflectable : ∀ column ∈ columns, column.Reflectable) :
    rows.map (fun row => (Catalog.column row).1) = columns.map Column.described := by
  induction describes with
  | nil => rfl
  | cons describes _ ih =>
      obtain ⟨first, others⟩ := List.forall_mem_cons.mp reflectable
      rw [List.map_cons, List.map_cons, column_described first describes, ih others]

/-- A described column is defined like the column itself: its type is written the same way, and
its default is raw text either way. -/
theorem columnSpec_described (quoting : QuoteStyle) (column : Column)
    (reflectable : column.Reflectable) :
    Ddl.columnSpec quoting column.described.toColumn = Ddl.columnSpec quoting column := by
  have effective : column.described.toColumn.effectiveDefault? = column.effectiveDefault? := by
    rw [effectiveDefault?_toColumn]
    exact default_defaultTexts column reflectable.default
  have parts : column.described.toColumn.name = column.name ∧
      column.described.toColumn.type = column.type.canonical ∧
      column.described.toColumn.codecs = column.codecs ∧
      column.described.toColumn.after = none ∧
      column.described.toColumn.comment = column.comment := by
    unfold DescribedColumn.toColumn
    cases column.described.default with
    | none => exact ⟨rfl, rfl, rfl, rfl, rfl⟩
    | some entry =>
        obtain ⟨kind, text⟩ := entry
        cases kind <;> exact ⟨rfl, rfl, rfl, rfl, rfl⟩
  obtain ⟨name, type, codecs, after, comment⟩ := parts
  unfold Ddl.columnSpec
  rw [effective, name, type, codecs, after, comment, reflectable.after,
    DataType.render_canonical]

theorem columnSpecs_described (quoting : QuoteStyle) (columns : List Column)
    (reflectable : ∀ column ∈ columns, column.Reflectable) :
    Ddl.columnSpecs quoting ((columns.map Column.described).map DescribedColumn.toColumn) =
      Ddl.columnSpecs quoting columns := by
  induction columns with
  | nil => rfl
  | cons column rest ih =>
      obtain ⟨first, others⟩ := List.forall_mem_cons.mp reflectable
      rw [List.map_cons, List.map_cons, Ddl.columnSpecs, Ddl.columnSpecs,
        columnSpec_described quoting column first, ih others]

theorem columnSpecs_reflectable (quoting : QuoteStyle) (columns : List Column)
    (reflectable : ∀ column ∈ columns, column.Reflectable) :
    ∃ templates, Ddl.columnSpecs quoting columns = .ok templates := by
  induction columns with
  | nil => exact ⟨[], rfl⟩
  | cons column rest ih =>
      obtain ⟨first, others⟩ := List.forall_mem_cons.mp reflectable
      obtain ⟨restSql, restOk⟩ := ih others
      obtain ⟨defaultSql, defaultOk⟩ : ∃ template,
          Ddl.defaultClause quoting column.effectiveDefault? = .ok template := by
        cases effective : column.effectiveDefault? with
        | none => exact ⟨[], rfl⟩
        | some entry =>
            obtain ⟨kind, expr⟩ := entry
            obtain ⟨text, rfl⟩ := first.default kind expr effective
            exact ⟨_, rfl⟩
      rw [Ddl.columnSpecs, Ddl.columnSpec, defaultOk, restOk]
      exact ⟨_, rfl⟩

end ClickHouse
