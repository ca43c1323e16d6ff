import ClickHouse.Proofs.Catalog.Columns
import ClickHouse.Proofs.Engine.Scanned
import ClickHouse.Proofs.Value.Literal

/-!
The column list of a table definition. Splitting the first group of the statement at its commas
gives the definitions of the columns, one part for each; and no column is marked NOT NULL or
PRIMARY KEY, whatever its labels, comments and default strings hold, unless a codec says so
(`Ddl.createTable_keeps_columns`).
-/

namespace ClickHouse

open Lexeme

/-- What may stand behind a definition: nothing, or a clause behind a space. -/
inductive Trailing : List String → String → Prop
  | none : Trailing [] ""
  | clause {texts : List String} {text : String} : GuardedClause texts text →
      Trailing texts (" " ++ text)

theorem Trailing.congr {texts : List String} {text other : String} (trailing : Trailing texts text)
    (same : other.toList = text.toList) : Trailing texts other := by
  rw [String.toList_inj.mp same]
  exact trailing

theorem Trailing.scanned {texts : List String} {text : String} (trailing : Trailing texts text) :
    ∃ lexemes, Separates text.toList ∧ scan? text.toList = some ⟨lexemes, []⟩ := by
  cases trailing with
  | none => exact ⟨[], separates_nil, rfl⟩
  | clause clause =>
      obtain ⟨lexemes, reads, _⟩ := clause
      have scanned := scan?_space reads.nonempty reads.scanned
      rw [String.toList_append]
      exact ⟨_, separates_gap ' ' _ rfl, scanned⟩

theorem Lexeme.Guarded.trailing {texts others : List String} {first second : String}
    (left : Guarded texts first) (right : Trailing others second) :
    Guarded (texts ++ others) (first ++ second) := by
  cases right with
  | none =>
      rw [List.append_nil, String.append_empty]
      exact left
  | clause clause =>
      rw [← String.append_assoc]
      exact left.join clause

theorem IsCodec.guarded {codec : String} (isCodec : IsCodec codec) : Guarded [codec] codec := by
  obtain ⟨lexemes, reads⟩ := isCodec.isItem.reads
  have source : sourceOf lexemes = codec.toList := by
    simpa [Scan.source] using scan_source _ _ reads.scanned
  have confines := Confines.text lexemes
  rw [source, String.ofList_toList, isCodec.trimmed] at confines
  exact ⟨lexemes, reads, confines⟩

theorem guarded_codecs (codecs : List String) (each : ∀ codec ∈ codecs, IsCodec codec) :
    GuardedItems codecs codecs := by
  induction codecs with
  | nil => exact .nil
  | cons codec rest ih =>
      obtain ⟨first, others⟩ := List.forall_mem_cons.mp each
      exact .cons first.guarded (ih others)

theorem guarded_reference (quoting : QuoteStyle) (name : String)
    (isWord : Identifier.isWord name = true) :
    Guarded [] (Identifier.reference quoting name) := by
  obtain ⟨kind, _, spelled⟩ := spells_reference quoting name isWord
  exact guarded_lexeme kind (isItem_reference quoting name isWord) spelled

/-- Whether the names in a column are words, its default is a simple value and its codecs can be
told apart in a list. -/
structure Column.IsDelimited (column : Column) : Prop where
  name : Identifier.isWord column.name = true
  type : column.type.isNamed = true
  default : ∀ kind expr, column.effectiveDefault? = some (kind, expr) →
    ∃ value : Value, expr = .literal value ∧ value.isSimple = true
  codecs : ∀ codec ∈ column.codecs, IsCodec codec
  after : ∀ name ∈ column.after, Identifier.isWord name = true

namespace Ddl

variable (quoting : QuoteStyle)

theorem trailing_default {column : Column} (delimited : column.IsDelimited) :
    ∃ template, defaultClause quoting column.effectiveDefault? = .ok template ∧
      Trailing [] template.text := by
  cases effective : column.effectiveDefault? with
  | none => exact ⟨[], rfl, .none⟩
  | some entry =>
      obtain ⟨kind, expr⟩ := entry
      obtain ⟨value, rfl, simple⟩ := delimited.default kind expr effective
      have neutral : isNeutral kind.keyword = true := by cases kind <;> decide
      refine ⟨_, rfl, (Trailing.clause ((value.guarded .protect simple).keyword _ neutral)).congr ?_⟩
      simp [Template.plain, Piece.written]

theorem trailing_comment (comment : Option String) : Trailing [] (commentClause comment).text := by
  cases comment with
  | none => exact .none
  | some comment =>
      have clause := (guarded_quoted .protect comment).keyword "COMMENT" (by decide)
      refine (Trailing.clause clause).congr ?_
      simp [commentClause, commentLiteral, Template.plain, Piece.written]

theorem trailing_codecs (codecs : List String) (each : ∀ codec ∈ codecs, IsCodec codec) :
    Trailing codecs (codecClause codecs).text := by
  cases codecs with
  | nil => exact .none
  | cons codec rest =>
      have clause : GuardedClause (codec :: rest)
          ("CODEC(" ++ Text.commaList (codec :: rest) ++ ")") :=
        (guarded_codecs _ each).call "CODEC" (by decide) (by simp)
      refine (Trailing.clause clause).congr ?_
      simp [codecClause]

theorem trailing_after (after : Option String)
    (areWords : ∀ name ∈ after, Identifier.isWord name = true) :
    Trailing [] (afterClause quoting after).text := by
  cases after with
  | none => exact .none
  | some name =>
      have guarded := guarded_reference quoting name (areWords name rfl)
      have clause := guarded.keyword "AFTER" (by decide)
      refine (Trailing.clause clause).congr ?_
      simp [afterClause, Piece.written, inlineStyle, text_name _ name (areWords name rfl)]

/-- The definition of a column is one item, in which markers stand in its codecs only. -/
theorem columnSpec_guarded {column : Column} (delimited : column.IsDelimited) :
    ∃ spec, columnSpec quoting column = .ok spec ∧ Guarded column.codecs spec.text := by
  obtain ⟨defaultSql, defaultOk, trailingDefault⟩ := trailing_default quoting delimited
  have type := Trailing.clause (column.type.clause delimited.type)
  have spec := ((((guarded_reference quoting column.name delimited.name).trailing type).trailing
    trailingDefault).trailing (trailing_comment column.comment)).trailing
      (trailing_codecs column.codecs delimited.codecs) |>.trailing
        (trailing_after quoting column.after delimited.after)
  refine ⟨_, by rw [columnSpec, defaultOk]; rfl, ?_⟩
  -- a word holds no percent sign, so its name is written in a template as it is
  simpa [text_name _ column.name delimited.name, Piece.written, inlineStyle,
    String.append_assoc] using spec

theorem columnSpecs_guarded (columns : List Column)
    (delimited : ∀ column ∈ columns, column.IsDelimited) :
    ∃ specs, columnSpecs quoting columns = .ok specs ∧
      GuardedItems (columns.flatMap Column.codecs) (specs.map Template.text) ∧
      List.Forall₂ (fun column part => ∃ spec, columnSpec quoting column = .ok spec ∧
        spec.text = part) columns (specs.map Template.text) := by
  induction columns with
  | nil => exact ⟨[], rfl, .nil, .nil⟩
  | cons column rest ih =>
      obtain ⟨first, others⟩ := List.forall_mem_cons.mp delimited
      obtain ⟨spec, specOk, guarded⟩ := columnSpec_guarded quoting first
      obtain ⟨specs, specsOk, guardedRest, each⟩ := ih others
      refine ⟨spec :: specs, ?_, .cons guarded guardedRest, .cons ⟨spec, specOk, rfl⟩ each⟩
      simp [columnSpecs, specOk, specsOk, bind, Except.bind, pure, Except.pure]

end Ddl

theorem not_openRound_of_scan {text : List Char} {scan : Scan} (scanned : scan? text = some scan)
    (free : '(' ∉ text) : ∀ lexeme ∈ scan.lexemes, lexeme.kind ≠ .openRound := by
  intro lexeme member isOpening
  obtain ⟨spelled, inside⟩ := spelled_of_scan scanned lexeme member
  rw [isOpening] at spelled
  exact free (inside '(' (by simp [text_openRound spelled]))

theorem innerGroup_items {before after : String} {items : List String} {lead more : Scan}
    (scanned : scan? before.toList = some lead) (free : '(' ∉ before.toList)
    (each : ∀ item ∈ items, IsItem item) (scannedAfter : scan? after.toList = some more) :
    innerGroup (before ++ " " ++ ("(" ++ Text.commaList items ++ ")") ++ after) =
      .ok (Text.commaList items, after) := by
  have blank : scan? [' '] = some ⟨[], [' ']⟩ := rfl
  have spaced := scan?_append_indent scanned (separates_gap ' ' [] rfl) blank
  have shape : before.toList ++ [' '] = (before ++ " ").toList := by simp
  rw [shape] at spaced
  exact innerGroup_commaList (by simp) spaced (not_openRound_of_scan spaced (by simpa using free))
    (fun item member => (each item member).isPart) scannedAfter

/-- A text that can be scanned and in which no group begins. -/
structure Ungrouped (text : String) : Prop where
  scanned : ∃ lexemes, lexemes ≠ [] ∧ scan? text.toList = some ⟨lexemes, []⟩
  free : '(' ∉ text.toList

theorem Ungrouped.join {first second : String} (left : Ungrouped first) (right : Ungrouped second) :
    Ungrouped (first ++ " " ++ second) := by
  obtain ⟨lexemes, nonempty, scanned⟩ := left.scanned
  obtain ⟨others, nonemptyRight, scannedRight⟩ := right.scanned
  have characters : (first ++ " " ++ second).toList = first.toList ++ ' ' :: second.toList := by
    simp
  have joined := scan?_append_some scanned (separates_gap ' ' _ rfl)
    (scan?_space nonemptyRight scannedRight)
  rw [← characters] at joined
  refine ⟨⟨_, List.append_ne_nil_of_left_ne_nil nonempty _, joined⟩, ?_⟩
  rw [characters]
  simp [left.free, right.free]

theorem ungrouped_word (word : String) (isWord : Identifier.isWord word = true) :
    Ungrouped word := by
  refine ⟨⟨_, List.cons_ne_nil _ _, scan?_spells .word _ (spells_word word isWord)⟩, ?_⟩
  intro round
  exact absurd (Identifier.isWordChar_of_isWord word isWord _ round) (by decide)

theorem reference_free (quoting : QuoteStyle) (name : String)
    (isWord : Identifier.isWord name = true) :
    '(' ∉ (Identifier.reference quoting name).toList := by
  have notInName : '(' ∉ name.toList := (ungrouped_word name isWord).free
  rcases Identifier.reference_of_isWord quoting name isWord with bare | marked
  · rw [bare]
    exact notInName
  · rw [marked]
    cases quoting <;> simp [QuoteStyle.mark, notInName]

theorem ungrouped_reference (quoting : QuoteStyle) (name : String)
    (isWord : Identifier.isWord name = true) :
    Ungrouped (Identifier.reference quoting name) := by
  obtain ⟨kind, _, spelled⟩ := spells_reference quoting name isWord
  exact ⟨⟨_, List.cons_ne_nil _ _, scan?_spells kind _ spelled⟩,
    reference_free quoting name isWord⟩

theorem symbol_endsBefore {kind : Kind} (isName : kind = .word ∨ kind = .quoted) {text : List Char}
    (spelled : kind.spells text = true) (more : List Char) :
    Kind.symbol.EndsBefore (text ++ more) := by
  intro c head
  cases text with
  | nil => simp [Kind.spells] at spelled
  | cons first rest =>
      obtain rfl : first = c := by simpa using head
      rcases isName with rfl | rfl
      · simp only [Kind.spells, Bool.and_eq_true] at spelled
        simp [Kind.prolongs, isSymbolPart, isWordPart_eq, spelled.1]
      · simp only [Kind.spells, Bool.and_eq_true, decide_eq_true_eq] at spelled
        simp [Kind.prolongs, isSymbolPart, spelled.1]

theorem scan?_table (quoting : QuoteStyle) (table : TableName)
    (name : Identifier.isWord table.name = true)
    (schema : ∀ schema ∈ table.schema, Identifier.isWord schema = true) :
    ∃ lexemes, lexemes ≠ [] ∧ scan? (table.reference quoting).toList = some ⟨lexemes, []⟩ := by
  obtain ⟨last, first⟩ := table
  obtain ⟨lastKind, isLastName, lastSpelled⟩ := spells_reference quoting last name
  cases first with
  | none => exact ⟨_, List.cons_ne_nil _ _, scan?_spells lastKind _ lastSpelled⟩
  | some first =>
      have isWord := schema first rfl
      obtain ⟨kind, isName, spelled⟩ := spells_reference quoting first isWord
      have firstEnds : kind.EndsBefore ('.' :: (Identifier.reference quoting last).toList) := by
        rintro c ⟨⟩
        rcases isName with rfl | rfl <;> rfl
      have lexemes : Legible [] [⟨[], kind, (Identifier.reference quoting first).toList⟩,
          ⟨[], .symbol, ['.']⟩, ⟨[], lastKind, (Identifier.reference quoting last).toList⟩] :=
        ⟨⟨rfl, spelled, by simpa [Lexeme.source] using firstEnds⟩,
          ⟨rfl, rfl, by simpa [Lexeme.source] using symbol_endsBefore isLastName lastSpelled []⟩,
          ⟨rfl, lastSpelled, by simp [Kind.EndsBefore]⟩, trivial⟩
      have characters : sourceOf [⟨[], kind, (Identifier.reference quoting first).toList⟩,
          ⟨[], .symbol, ['.']⟩, ⟨[], lastKind, (Identifier.reference quoting last).toList⟩] ++ [] =
            (TableName.reference quoting ⟨last, some first⟩).toList := by
        simp [Lexeme.source, TableName.reference]
      have scanned := scan?_legible _ [] lexemes rfl
      rw [characters] at scanned
      exact ⟨_, List.cons_ne_nil _ _, scanned⟩

theorem ungrouped_table (quoting : QuoteStyle) (table : TableName)
    (name : Identifier.isWord table.name = true)
    (schema : ∀ schema ∈ table.schema, Identifier.isWord schema = true) :
    Ungrouped (table.reference quoting) := by
  obtain ⟨lexemes, nonempty, scanned⟩ := scan?_table quoting table name schema
  refine ⟨⟨lexemes, nonempty, scanned⟩, ?_⟩
  obtain ⟨last, first⟩ := table
  cases first with
  | none => exact reference_free quoting last name
  | some first => simp [TableName.reference, reference_free, name, schema first rfl]

theorem text_table (style : SqlStyle) (table : TableName)
    (name : Identifier.isWord table.name = true)
    (schema : ∀ schema ∈ table.schema, Identifier.isWord schema = true) :
    (Sql.table style table).text = table.reference style.quoting := by
  have unchanged (name : String) (isWord : Identifier.isWord name = true) :
      Placeholder.protect (Identifier.reference style.quoting name) =
        Identifier.reference style.quoting name := by
    simpa [Sql.name, Template.plain, Piece.written] using text_name style name isWord
  obtain ⟨last, first⟩ := table
  cases first with
  | none => simpa [Sql.table, Template.plain, Piece.written, TableName.reference] using
      unchanged last name
  | some first =>
      have dot : Placeholder.protect "." = "." := rfl
      simp [Sql.table, Template.plain, Piece.written, TableName.reference,
        Placeholder.protect_append, unchanged last name, unchanged first (schema first rfl), dot]

namespace Ddl

theorem ungrouped_object (quoting : QuoteStyle) {table : Table}
    (name : Identifier.isWord table.name = true)
    (schema : ∀ schema ∈ table.schema, Identifier.isWord schema = true)
    (cluster : ∀ cluster ∈ table.cluster, Identifier.isWord cluster = true) :
    Ungrouped (object quoting table.tableName table.cluster).text := by
  have named := ungrouped_table quoting table.tableName name schema
  have text := text_table (inlineStyle quoting) table.tableName name schema
  rw [object, Template.text_append, text]
  cases isCluster : table.cluster with
  | none => simpa [clusterClause, inlineStyle] using named
  | some onCluster =>
      have isWord := cluster onCluster isCluster
      have whole := ((named.join (ungrouped_word "ON" (by decide))).join
        (ungrouped_word "CLUSTER" (by decide))).join (ungrouped_reference quoting onCluster isWord)
      simpa [clusterClause, text_name _ onCluster isWord, inlineStyle, Piece.written,
        String.append_assoc] using whole

theorem ungrouped_head (quoting : QuoteStyle) {table : Table} (ifNotExists : Bool)
    (name : Identifier.isWord table.name = true)
    (schema : ∀ schema ∈ table.schema, Identifier.isWord schema = true)
    (cluster : ∀ cluster ∈ table.cluster, Identifier.isWord cluster = true) :
    Ungrouped ("CREATE TABLE " ++ (optional ifNotExists "IF NOT EXISTS ").text ++
      (object quoting table.tableName table.cluster).text) := by
  have keywords := (ungrouped_word "CREATE" (by decide)).join (ungrouped_word "TABLE" (by decide))
  have object := ungrouped_object quoting name schema cluster
  cases ifNotExists with
  | false => simpa [optional, String.append_assoc] using keywords.join object
  | true =>
      have guarded := (((keywords.join (ungrouped_word "IF" (by decide))).join
        (ungrouped_word "NOT" (by decide))).join (ungrouped_word "EXISTS" (by decide))).join object
      simpa [optional, String.append_assoc] using guarded

theorem scan?_after (engine : String) (comment : Option String) {lexemes : List Lexeme}
    (nonempty : lexemes ≠ []) (scanned : scan? engine.toList = some ⟨lexemes, []⟩) :
    ∃ more, scan? (" ENGINE = " ++ engine ++ (commentClause comment).text).toList =
      some ⟨more, []⟩ := by
  have equals : scan? ('=' :: ' ' :: engine.toList) =
      some ⟨⟨[], .equals, ['=']⟩ :: indented lexemes, []⟩ :=
    scan?_mark_some rfl (scan?_space nonempty scanned)
  have word := scan?_spells .word "ENGINE".toList (by decide)
  have clause := scan?_space (by simp)
    (scan?_append_some word (separates_gap ' ' _ rfl) (scan?_space (by simp) equals))
  obtain ⟨others, separates, scannedComment⟩ := (trailing_comment comment).scanned
  have whole := scan?_append_some clause separates scannedComment
  exact ⟨_, by simpa using whole⟩

/-- The first group of the statement that creates a table splits into the definitions of its
columns, one part for each. It is made of the codecs, in order, and of stretches between them
without a marker, so no column is marked but by the text of one of its codecs. -/
theorem createTable_keeps_columns (quoting : QuoteStyle) (table : Table) (ifNotExists : Bool)
    (engine : Engine) (hasEngine : table.engine = some engine) (known : List String)
    (record : EngineRecord) (describes : record.Describes known engine)
    (name : Identifier.isWord table.name = true)
    (schema : ∀ schema ∈ table.schema, Identifier.isWord schema = true)
    (cluster : ∀ cluster ∈ table.cluster, Identifier.isWord cluster = true)
    (delimited : ∀ column ∈ table.columns, column.IsDelimited) :
    ∃ template inside after parts scan, createTable quoting table ifNotExists = .ok template ∧
      innerGroup template.text = .ok (inside, after) ∧ splitTopLevel inside = .ok parts ∧
      List.Forall₂ (fun column part => ∃ spec, columnSpec quoting column = .ok spec ∧
        spec.text = part) table.columns parts ∧
      Lexeme.scan inside = .ok scan ∧
      Confines (table.columns.flatMap Column.codecs) scan.lexemes ∧
      MarkersWithin (table.columns.flatMap Column.codecs) scan.lexemes := by
  obtain ⟨specs, specsOk, guarded, each⟩ := columnSpecs_guarded quoting table.columns delimited
  obtain ⟨engineSql, lexemes, engineOk, nonempty, scannedEngine⟩ :=
    EngineRecord.Describes.isScanned describes (inlineStyle quoting)
  -- no group begins in the names, so the columns are the first one
  obtain ⟨head, nonemptyHead, scannedHead⟩ :=
    (ungrouped_head quoting ifNotExists name schema cluster).scanned
  have free := (ungrouped_head quoting ifNotExists name schema cluster).free
  obtain ⟨more, scannedAfter⟩ := scan?_after engineSql.text table.comment nonempty scannedEngine
  have group := innerGroup_items scannedHead free guarded.isItem scannedAfter
  obtain ⟨inner, scannedInner, _, confines⟩ := guarded.scanned
  obtain ⟨template, compiles, text⟩ : ∃ template,
      createTable quoting table ifNotExists = .ok template ∧ template.text =
        "CREATE TABLE " ++ (optional ifNotExists "IF NOT EXISTS ").text ++
          (object quoting table.tableName table.cluster).text ++ " " ++
            ("(" ++ Text.commaList (specs.map Template.text) ++ ")") ++
              (" ENGINE = " ++ engineSql.text ++ (commentClause table.comment).text) := by
    simp only [createTable, hasEngine, storage, specsOk, engineOk, bind, Except.bind, pure,
      Except.pure]
    refine ⟨_, rfl, ?_⟩
    simp only [Template.text_append, Template.text_cons, Template.text_parenthesized,
      Template.text_commaList, Piece.written, List.cons_append, String.append_assoc]
  refine ⟨template, _, _, _, ⟨inner, []⟩, compiles, (congrArg innerGroup text).trans group,
    splitTopLevel_items _ guarded.isItem, each, ?_, confines, confines.markersWithin⟩
  rw [Lexeme.scan, scannedInner]

end Ddl

namespace Visits

def column : Column :=
  { Column.ofType "PRIMARY" (.tuple [(some "NOT", .enumeration .bits8 [("NOT NULL), (", 1)]),
      (some "KEY", .aggregateFunction "NOT" [.nullable .float64])]) with
    serverDefault := some (.literal (.array [.null, .string "PRIMARY KEY, it\x27s"])),
    codecs := ["NOT NULL", "ZSTD(1)"], after := some "NOT", comment := some "100% NOT NULL, ",
    inPrimaryKey := true }

def engine : Engine :=
  .mergeTree ⟨.plain, none, [], [.named "PRIMARY"], [], [], [], []⟩

def table : Table where
  name := "visits"
  schema := some "stats"
  columns := [column, .ofType "KEY" .string]
  engine := some engine
  cluster := some "main"
  comment := some "NOT NULL"

theorem isDelimited : ∀ column ∈ table.columns, column.IsDelimited := by
  intro column member
  simp only [table, List.mem_cons, List.not_mem_nil, or_false] at member
  rcases member with rfl | rfl
  · refine ⟨by decide, by decide, ?_, ?_, by rintro _ ⟨⟩; decide⟩
    · rintro kind expr ⟨⟩
      exact ⟨_, rfl, rfl⟩
    · intro codec isCodec
      simp only [Visits.column, List.mem_cons, List.not_mem_nil, or_false] at isCodec
      rcases isCodec with rfl | rfl
      · exact ⟨by decide, by decide, _, rfl, by decide⟩
      · exact ⟨by decide, by decide, _, rfl, by decide⟩
  · exact ⟨by decide, rfl, by simp [Column.effectiveDefault?, Column.ofType],
      by simp [Column.ofType], by simp [Column.ofType]⟩

end Visits

theorem Ddl.createTable_keeps_visits :
    ∃ template inside after parts scan,
      Ddl.createTable .grave Visits.table true = .ok template ∧
      innerGroup template.text = .ok (inside, after) ∧ splitTopLevel inside = .ok parts ∧
      List.Forall₂ (fun column part => ∃ spec, Ddl.columnSpec .grave column = .ok spec ∧
        spec.text = part) Visits.table.columns parts ∧
      Lexeme.scan inside = .ok scan ∧ Confines ["NOT NULL", "ZSTD(1)"] scan.lexemes ∧
      MarkersWithin ["NOT NULL", "ZSTD(1)"] scan.lexemes :=
  Ddl.createTable_keeps_columns .grave Visits.table true Visits.engine rfl ["PRIMARY", "KEY"]
    ⟨"MergeTree", "", "", "\x60PRIMARY\x60", "", ""⟩
    ⟨by decide, rfl, rfl, ⟨[], rfl, by decide, rfl⟩,
      ⟨[("PRIMARY", true)], rfl, by decide, by decide⟩, ⟨[], rfl, by decide, rfl⟩,
      ⟨[], rfl, by decide, rfl⟩⟩
    (by decide) (by rintro _ ⟨⟩; decide) (by rintro _ ⟨⟩; decide) Visits.isDelimited

end ClickHouse
