import ClickHouse.Proofs.Table.Contents

/-!
Statements about tables and views when their placeholders are filled in, though they have none.
Every string that is written as a literal comes through as one if the types and the literals among
the parameters of engines and retention rules do (`Ddl.Request.keeps_literals_iff`); one that holds
a percent sign need not.
-/

namespace ClickHouse

open Placeholder

def Column.contents (column : Column) : Contents :=
  .type column.type ++ (.join (column.effectiveDefault?.toList.map fun entry => entry.2.contents) ++
    .join (column.comment.toList.map .literal) ++ .join (column.codecs.map .code))

theorem Faithful.before {contents : Contents} {template : Template}
    (faithful : Faithful contents template) : FaithfulBefore contents template := by
  refine ⟨faithful.quotes, fun sound next _ percent => ?_⟩
  have single : Keeps True [next] [next] := .of_free (by simp [Ne.symm percent])
  exact ((faithful.keeps sound).append single).congr (by simp)

def Spaced (template : Template) : Prop :=
  ∀ c ∈ template.text.toList.head?, c = ' '

namespace Spaced

variable {template more : Template}

theorem append (spaced : Spaced template) (following : Spaced more) :
    Spaced (template ++ more) := by
  intro c first
  rw [Template.text_append, String.toList_append, List.head?_append] at first
  cases head : template.text.toList.head? with
  | none => exact following c (by simpa [head] using first)
  | some d =>
      obtain rfl : d = c := by simpa [head] using first
      exact spaced d head

theorem empty : Spaced [] := by
  simp [Spaced]

theorem space (text : String) (template : Template) :
    Spaced (.code (" " ++ text) :: template) := by
  simp [Spaced, Piece.written]

end Spaced

namespace FaithfulBefore

variable {contents others : Contents} {template more : Template}

theorem typed (type : DataType) (following : Faithful others more) (spaced : Spaced more) :
    FaithfulBefore (.type type ++ others) (.code (" " ++ type.render) :: more) := by
  refine ⟨?_, fun sound next last percent => ?_⟩
  · have quotes := ((Quotes.text [' ']).append type.quotes).append following.quotes
    change Quotes (type.strings ++ others.strings) _
    simpa [Template.filled, Piece.filled] using quotes
  · have single : Keeps True [next] [next] := .of_free (by simp [Ne.symm percent])
    have space : Keeps True [' '] [' '] := .of_free (by decide)
    have rest := (following.keeps (Contents.sound_append.mp sound).2).append single
    have other : (more.text.toList ++ [next]).head? ≠ some 's' := by
      intro first
      rw [List.head?_append] at first
      cases head : more.text.toList.head? with
      | none => exact last (by simpa [head] using first)
      | some c =>
          have blank := spaced c head
          simp [head, blank] at first
    have keeps := space.append (rest.render_append type (by simp) other)
    have condition : True ∧ Kept type.render.toList ∧ others.AllKept ∧ True ↔
        (Contents.type type ++ others).AllKept := by
      rw [Contents.allKept_append]
      simp [Contents.AllKept, Contents.type]
    simpa [Piece.written, Template.filled, Piece.filled] using keeps.congr condition

theorem prepend (faithful : Faithful contents template) (following : FaithfulBefore others more) :
    FaithfulBefore (contents ++ others) (template ++ more) := by
  refine ⟨?_, fun sound next last percent => ?_⟩
  · rw [Template.filled_append]
    exact faithful.quotes.append following.quotes
  · obtain ⟨soundLeft, soundRight⟩ := Contents.sound_append.mp sound
    rw [Template.text_append, String.toList_append, Template.filled_append, List.append_assoc,
      List.append_assoc]
    exact ((faithful.keeps soundLeft).append (following.keeps soundRight next last percent)).congr
      Contents.allKept_append.symm

theorem comma (faithful : FaithfulBefore contents template)
    (following : FaithfulBefore others more) :
    FaithfulBefore (contents ++ others) (template ++ .code ", " :: more) := by
  have space : Keeps True [' '] [' '] := .of_free (by decide)
  refine ⟨?_, fun sound next last percent => ?_⟩
  · have quotes := faithful.quotes.append ((Quotes.text ", ".toList).append following.quotes)
    change Quotes (contents.strings ++ others.strings) _
    simpa [Template.filled, Piece.filled] using quotes
  · obtain ⟨soundLeft, soundRight⟩ := Contents.sound_append.mp sound
    have first := faithful.keeps soundLeft ',' (by decide) (by decide)
    have rest := space.append (following.keeps soundRight next last percent)
    have condition : contents.AllKept ∧ True ∧ others.AllKept ↔ (contents ++ others).AllKept := by
      rw [Contents.allKept_append, true_and]
    simpa [Piece.written, Template.filled, Piece.filled] using
      (first.append rest).congr condition

theorem parenthesized (faithful : FaithfulBefore contents template) :
    Faithful contents template.parenthesized := by
  have opening : Keeps True ['('] ['('] := .of_free (by decide)
  refine ⟨?_, fun sound => ?_⟩
  · have quotes := (Quotes.text ['(']).append (faithful.quotes.append (.text [')']))
    simpa [Template.parenthesized, Template.filled, Piece.filled] using quotes
  · have keeps := opening.append (faithful.keeps sound ')' (by decide) (by decide))
    simpa [Template.parenthesized, Piece.written, Template.filled, Piece.filled] using
      keeps.congr (by simp)

/-- A statement comes through exactly when its texts with single percent signs do. -/
theorem substitute_iff (faithful : FaithfulBefore contents template) (sound : contents.Sound) :
    substitute template.text [] = .ok (String.ofList template.filled) ↔ contents.AllKept := by
  rw [substitute_nil_iff, String.toList_ofList, ← passes_space]
  exact (faithful.keeps sound ' ' (by decide) (by decide)).passes_iff

end FaithfulBefore

inductive FaithfulColumns : Contents → List Template → Prop
  | nil : FaithfulColumns .empty []
  | cons {contents others first rest} : FaithfulBefore contents first →
      FaithfulColumns others rest → FaithfulColumns (contents ++ others) (first :: rest)

theorem FaithfulColumns.commaList {contents : Contents} {items : List Template}
    (faithful : FaithfulColumns contents items) :
    FaithfulBefore contents (Template.commaList items) := by
  induction faithful with
  | nil => exact Faithful.empty.before
  | @cons contents others first rest isFaithful faithfulRest ih =>
      cases faithfulRest with
      | nil =>
          rw [Contents.append_empty]
          exact isFaithful
      | cons second more => exact isFaithful.comma ih

section

variable (quoting : QuoteStyle)

theorem name_faithful (name : String) :
    Faithful .empty (Sql.name (Ddl.inlineStyle quoting) name) :=
  .plain _

theorem defaultClause_faithful (default : Option (DefaultKind × Expr)) :
    IfOk (fun template => Spaced template ∧
        Faithful (.join (default.toList.map fun entry => entry.2.contents)) template)
      (Ddl.defaultClause quoting default) := by
  cases default with
  | none => exact ⟨.empty, Faithful.empty⟩
  | some entry =>
      obtain ⟨kind, expression⟩ := entry
      apply (expression.faithful quoting).bind
      intro template faithful
      refine ⟨?_, ?_⟩
      · rw [String.append_assoc]
        exact Spaced.space _ _
      · have item := FaithfulItems.cons faithful .nil
        exact item.commaList.code_cons _ (by cases kind <;> decide)

theorem commentClause_faithful (comment : Option String) :
    Spaced (Ddl.commentClause comment) ∧
      Faithful (.join (comment.toList.map .literal)) (Ddl.commentClause comment) := by
  cases comment with
  | none => exact ⟨.empty, Faithful.empty⟩
  | some comment =>
      have item := FaithfulItems.cons (Faithful.literal comment) .nil
      exact ⟨Spaced.space "COMMENT " _, item.commaList.code_cons " COMMENT " (by decide)⟩

theorem join_codes (codes : List String) :
    Contents.join (codes.map .code) = ⟨[], [], [], codes⟩ := by
  induction codes with
  | nil => rfl
  | cons code rest ih =>
      rw [Contents.join] at ih
      rw [Contents.join, List.map_cons, List.foldr_cons, ih]
      rfl

theorem codecClause_faithful (codecs : List String) :
    Spaced (Ddl.codecClause codecs) ∧
      Faithful (.join (codecs.map .code)) (Ddl.codecClause codecs) := by
  cases codecs with
  | nil => exact ⟨.empty, Faithful.empty⟩
  | cons first rest =>
      refine ⟨?_, ?_⟩
      · have shape : Ddl.codecClause (first :: rest) =
            [.code (" " ++ ("CODEC(" ++ Text.commaList (first :: rest) ++ ")"))] := by
          simp [Ddl.codecClause, Template.code, ← String.append_assoc]
        rw [shape]
        exact .space _ _
      · rw [join_codes]
        refine ⟨.text _, fun sound => ?_⟩
        have free : '%' ∉ (" CODEC(" ++ Text.commaList (first :: rest) ++ ")").toList :=
          free_append _ _ (free_append _ _ (by decide)
            (free_joinWith ", " _ (by decide) sound.2)) (by decide)
        exact (Faithful.word _ free).keeps ⟨sound.1, by simp [Contents.empty]⟩

theorem afterClause_faithful (after : Option String) :
    Spaced (Ddl.afterClause quoting after) ∧ Faithful .empty (Ddl.afterClause quoting after) := by
  cases after with
  | none => exact ⟨.empty, Faithful.empty⟩
  | some column =>
      have named := name_faithful quoting column
      exact ⟨Spaced.space "AFTER " _, named.code_cons " AFTER " (by decide)⟩

theorem columnSpec_faithful (column : Column) :
    IfOk (FaithfulBefore column.contents) (Ddl.columnSpec quoting column) := by
  apply (defaultClause_faithful quoting column.effectiveDefault?).bind
  intro default given
  obtain ⟨spacedComment, comment⟩ := commentClause_faithful column.comment
  obtain ⟨spacedCodecs, codecs⟩ := codecClause_faithful column.codecs
  obtain ⟨spacedAfter, after⟩ := afterClause_faithful quoting column.after
  have rest := ((given.2.append comment).append codecs).append_tail after
  have spaced := ((given.1.append spacedComment).append spacedCodecs).append spacedAfter
  have typed := FaithfulBefore.typed column.type rest spaced
  have named := typed.prepend (name_faithful quoting column.name)
  change FaithfulBefore (.empty ++ column.contents) _
  simpa only [Column.contents, List.append_assoc, List.cons_append] using named

theorem columnSpecs_faithful (columns : List Column) :
    IfOk (FaithfulColumns (.join (columns.map Column.contents)))
      (Ddl.columnSpecs quoting columns) := by
  induction columns with
  | nil => exact FaithfulColumns.nil
  | cons column rest ih =>
      apply (columnSpec_faithful quoting column).bind
      intro first faithful
      apply ih.bind
      intro items others
      exact FaithfulColumns.cons faithful others

theorem object_faithful (name : TableName) (cluster : Option String) :
    Faithful .empty (Ddl.object quoting name cluster) := by
  cases cluster with
  | none => exact (Faithful.plain _).append_tail .empty
  | some cluster =>
      exact (Faithful.plain _).append_tail
        ((name_faithful quoting cluster).code_cons " ON CLUSTER " (by decide))

theorem optional_faithful (present : Bool) (text : String) (free : '%' ∉ text.toList) :
    Faithful .empty (Ddl.optional present text) := by
  cases present with
  | false => exact .empty
  | true => exact .word text free

end

def Table.contents (table : Table) : Contents :=
  .join (table.columns.map Column.contents) ++ .join (table.engine.toList.map Engine.contents) ++
    .join (table.comment.toList.map .literal)

def ViewStorage.contents : ViewStorage → Contents
  | .target _ => .empty
  | .inner columns engine => .join (columns.map Column.contents) ++ engine.contents

def MaterializedView.contents (view : MaterializedView) : Contents :=
  view.storage.contents ++ view.select.contents

inductive Ddl.Request where
  | createTable (table : Table) (ifNotExists : Bool)
  | createView (view : MaterializedView) (ifNotExists : Bool)
  | dropTable (table : Table) (ifExists : Bool)
  | dropView (view : MaterializedView) (ifExists : Bool)
  | addColumn (table : Table) (column : Column)
  | modifyColumn (table : Table) (column : Column)
  | dropColumn (table : Table) (column : String)
  | commentColumn (table : Table) (column comment : String)

namespace Ddl.Request

def sql (quoting : QuoteStyle) : Request → Sql
  | createTable table ifNotExists => Ddl.createTable quoting table ifNotExists
  | createView view ifNotExists => Ddl.createView quoting view ifNotExists
  | dropTable table ifExists => .ok (Ddl.dropTable quoting table ifExists)
  | dropView view ifExists => .ok (Ddl.dropView quoting view ifExists)
  | addColumn table column => Ddl.addColumn quoting table column
  | modifyColumn table column => Ddl.modifyColumn quoting table column
  | dropColumn table column => .ok (Ddl.dropColumn quoting table column)
  | commentColumn table column comment => .ok (Ddl.commentColumn quoting table column comment)

def contents : Request → Contents
  | createTable table _ => table.contents
  | createView view _ => view.contents
  | addColumn _ column => column.contents
  | modifyColumn _ column => column.contents
  | commentColumn _ _ comment => .literal comment
  | dropTable _ _ | dropView _ _ | dropColumn _ _ => .empty

end Ddl.Request

section

variable (quoting : QuoteStyle)

theorem storage_faithful (columns : List Column) (engine : Engine) :
    IfOk (Faithful (.join (columns.map Column.contents) ++ engine.contents))
      (Ddl.storage quoting columns engine) := by
  apply (columnSpecs_faithful quoting columns).bind
  intro specs columns
  apply (engine.faithful quoting).bind
  intro template faithful
  have clause := faithful.code_cons " ENGINE = " (by decide)
  exact (columns.commaList.parenthesized.append clause).code_cons " " (by decide)

theorem createTable_faithful (table : Table) (ifNotExists : Bool) :
    IfOk (Faithful table.contents) (Ddl.createTable quoting table ifNotExists) := by
  unfold Ddl.createTable Table.contents
  cases table.engine with
  | none => trivial
  | some engine =>
      apply (storage_faithful quoting table.columns engine).bind
      intro template storage
      have opening := (optional_faithful ifNotExists "IF NOT EXISTS " (by decide)).append
        (object_faithful quoting table.tableName table.cluster)
      have comment := (commentClause_faithful table.comment).2
      rw [Option.toList_some, List.map_singleton, Contents.join_single]
      exact ((opening.append storage).append comment).code_cons "CREATE TABLE " (by decide)

theorem viewStorage_faithful (storage : ViewStorage) :
    IfOk (Faithful storage.contents) (Ddl.viewStorage quoting storage) := by
  cases storage with
  | target table => exact (Faithful.plain _).code_cons " TO " (by decide)
  | inner columns engine => exact storage_faithful quoting columns engine

theorem createView_faithful (view : MaterializedView) (ifNotExists : Bool) :
    IfOk (Faithful view.contents) (Ddl.createView quoting view ifNotExists) := by
  apply (view.select.faithful quoting).bind
  intro select selects
  apply (viewStorage_faithful quoting view.storage).bind
  intro template storage
  have opening := (optional_faithful ifNotExists "IF NOT EXISTS " (by decide)).append
    (object_faithful quoting view.tableName view.cluster)
  have populate := optional_faithful view.populate " POPULATE" (by decide)
  have query := selects.code_cons " AS " (by decide)
  have body := ((opening.append storage).append_tail populate).append query
  exact body.code_cons "CREATE MATERIALIZED VIEW " (by decide)

theorem drop_faithful (kind : String) (free : '%' ∉ kind.toList) (name : TableName)
    (cluster : Option String) (ifExists : Bool) :
    Faithful .empty (Ddl.drop quoting kind name cluster ifExists) := by
  have opening := (optional_faithful ifExists "IF EXISTS " (by decide)).append
    (object_faithful quoting name cluster)
  exact opening.code_cons _ (free_append _ _ (free_append _ _ (by decide) free) (by decide))

theorem alter_faithful {contents : Contents} {action : Template} (table : Table)
    (faithful : FaithfulBefore contents action) :
    FaithfulBefore contents (Ddl.alter quoting table action) := by
  have object := object_faithful quoting table.tableName table.cluster
  have opening := (object.append_code " " (by decide)).code_cons "ALTER TABLE " (by decide)
  have whole := faithful.prepend opening
  change FaithfulBefore (.empty ++ contents) _
  simpa [Ddl.alter] using whole

theorem Ddl.Request.faithful (request : Request) :
    IfOk (FaithfulBefore request.contents) (request.sql quoting) := by
  have before {contents : Contents} {result : Sql} (ifOk : IfOk (Faithful contents) result) :
      IfOk (FaithfulBefore contents) result := by
    cases result with
    | error error => trivial
    | ok template => exact Faithful.before ifOk
  cases request with
  | createTable table ifNotExists => exact before (createTable_faithful quoting table ifNotExists)
  | createView view ifNotExists => exact before (createView_faithful quoting view ifNotExists)
  | dropTable | dropView => exact (drop_faithful quoting _ (by decide) _ _ _).before
  | addColumn table column =>
      apply (columnSpec_faithful quoting column).bind
      intro spec faithful
      exact alter_faithful quoting table (faithful.prepend (.word "ADD COLUMN " (by decide)))
  | modifyColumn table column =>
      apply (columnSpec_faithful quoting column).bind
      intro spec faithful
      exact alter_faithful quoting table (faithful.prepend (.word "MODIFY COLUMN " (by decide)))
  | dropColumn table column =>
      exact alter_faithful quoting table
        ((name_faithful quoting column).code_cons "DROP COLUMN " (by decide)).before
  | commentColumn table column comment =>
      have named := (name_faithful quoting column).code_cons "COMMENT COLUMN " (by decide)
      exact alter_faithful quoting table
        (named.append ((Faithful.literal comment).code_cons " " (by decide))).before

end

/-- A statement about a table or a view: each of its strings stands as a literal in the text that
it means, and its placeholders are filled in without an error and with this text exactly when each
text with single percent signs comes through by itself. -/
theorem Ddl.Request.keeps_literals_iff (quoting : QuoteStyle) (request : Request)
    (sound : request.contents.Sound) (template : Template)
    (compiles : request.sql quoting = .ok template) :
    Quotes request.contents.strings template.filled ∧
      (substitute template.text [] = .ok (String.ofList template.filled) ↔
        request.contents.AllKept) := by
  have faithful := (request.faithful quoting).of_ok compiles
  exact ⟨faithful.quotes, faithful.substitute_iff sound⟩

theorem Contents.allKept_of_free (contents : Contents)
    (free : ∀ text ∈ contents.undoubled, '%' ∉ text) : contents.AllKept :=
  fun text member => (Keeps.of_free (free text member)).passes_iff.mpr trivial

namespace Hits

def table (label path : String) : Table where
  name := "t"
  schema := none
  columns := [{ Column.ofType "x" (.enumeration .bits8 [(label, 1)]) with comment := some "9%" }]
  engine := some (.mergeTree ⟨.plain, some ⟨path, "r"⟩, [], [], [], [], [], []⟩)
  cluster := none
  comment := none

theorem contents_eq (label path : String) : (table label path).contents =
    ⟨[label, "9%", path, "r"], [(DataType.enumeration .bits8 [(label, 1)]).render.toList,
      (Text.quote path).toList, (Text.quote "r").toList], [], []⟩ :=
  rfl

end Hits

theorem Ddl.Request.substitute_hits :
    let request := createTable (Hits.table "'" "/") false
    let statement :=
      "CREATE TABLE t (x Enum8('\\'' = 1) COMMENT '9%') ENGINE = ReplicatedMergeTree('/', 'r')"
    ∃ template, request.sql .double = .ok template ∧
      Quotes ["'", "9%", "/", "r"] template.filled ∧
      substitute template.text [] = .ok statement := by
  intro request statement
  have contents := Hits.contents_eq "'" "/"
  have sound : request.contents.Sound := by
    change (Hits.table "'" "/").contents.Sound
    rw [contents]
    exact ⟨by simp [AllPlain], by simp⟩
  have kept : request.contents.AllKept := by
    refine Contents.allKept_of_free _ ?_
    change ∀ text ∈ (Hits.table "'" "/").contents.undoubled, '%' ∉ text
    rw [contents]
    decide
  have compiles : request.sql .double = .ok _ := rfl
  obtain ⟨quotes, passes⟩ := Ddl.Request.keeps_literals_iff .double request sound _ compiles
  exact ⟨_, compiles, quotes, passes.mpr kept⟩

/-- A label that spells a placeholder makes a statement fail, and a path with a pair of percent
signs loses one of them. -/
theorem Ddl.Request.corrupts_hits :
    (∃ template, (addColumn (Hits.table "" "")
        (.ofType "y" (.enumeration .bits8 [("%(p)s", 1)]))).sql .double = .ok template ∧
      template.text = "ALTER TABLE t ADD COLUMN y Enum8('%(p)s' = 1)" ∧
      substitute template.text [] = .error (.unboundName "p")) ∧
    ∃ template, (createTable (Hits.table "a" "/%%/t") false).sql .double = .ok template ∧
      substitute template.text [] = .ok ("CREATE TABLE t (x Enum8('a' = 1) COMMENT '9%') " ++
        "ENGINE = ReplicatedMergeTree('/%/t', 'r')") := by
  have label : substitute "ALTER TABLE t ADD COLUMN y Enum8('%(p)s' = 1)" [] =
      .error (.unboundName "p") := rfl
  exact ⟨⟨_, rfl, rfl, label⟩, _, rfl, (substitute_nil_iff _ _).mpr (by decide +kernel)⟩

end ClickHouse
