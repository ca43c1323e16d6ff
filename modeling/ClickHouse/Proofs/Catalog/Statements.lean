import ClickHouse.Catalog
import ClickHouse.Proofs.Engine.Parameters
import ClickHouse.Proofs.Template.Percent
import ClickHouse.Proofs.Value.Literal
import Mathlib.Data.List.Forall2

/-!
The statements that questions to the catalog run. Whatever the names in a question are, each
statement is its fixed text with every name written as a string or as an identifier
(`CatalogQuestion.executed_addresses`).
-/

namespace ClickHouse

inductive StatementPart where
  | text (text : String)
  | string (name : String)
  | identifier (name : String)
  deriving DecidableEq, Repr, Inhabited

namespace StatementPart

/-- How a part is written. A name as a string is one literal that reads as the name; a name as an
identifier is the name alone or between quote marks. -/
inductive WrittenAs (style : QuoteStyle) : StatementPart → String → Prop
  | text (text : String) : WrittenAs style (.text text) text
  | string {name : String} (inside : String) :
      Lexeme.unquote ("'" ++ inside ++ "'") = .ok name →
        WrittenAs style (.string name) ("'" ++ inside ++ "'")
  | bare {name : String} : Identifier.requiresQuotes name = false →
      WrittenAs style (.identifier name) name
  | marked {name : String} : Identifier.requiresQuotes name = true →
      WrittenAs style (.identifier name) (style.mark.toString ++
        String.ofList (name.toList.flatMap fun c => if c = style.mark then [c, c] else [c]) ++
          style.mark.toString)

def Spell (style : QuoteStyle) (parts : List StatementPart) (text : String) : Prop :=
  ∃ written, List.Forall₂ (WrittenAs style) parts written ∧ text = String.join written

/-- The piece that a part is written with, where the names of strings are bound. -/
inductive Templated (style : QuoteStyle) (params : Params) : StatementPart → Piece → Prop
  | text (text : String) : Templated style params (.text text) (.plain text)
  | string {name : String} (key : String) : Identifier.isWord key = true →
      params.lookup key = some (.string name) →
        Templated style params (.string name) (.bind key (.string name))
  | identifier (name : String) :
      Templated style params (.identifier name) (.plain (Identifier.reference style name))

variable {style : QuoteStyle} {params : Params} {parts : List StatementPart} {template : Template}

theorem Templated.percentOnlyIn (templated : List.Forall₂ (Templated style params) parts template) :
    PercentOnlyIn [] template := by
  induction templated with
  | nil => exact .nil
  | cons first _ ih =>
      cases first with
      | text text => exact .plain text ih
      | string key word _ => exact .bind key _ word ih
      | identifier name => exact .plain _ ih

theorem Templated.known (templated : List.Forall₂ (Templated style params) parts template) :
    ∀ entry ∈ template.bindings, entry.1 ∈ params.names := by
  induction templated with
  | nil => simp [Template.bindings]
  | cons first _ ih =>
      cases first with
      | text | identifier => simpa [Template.bindings, Piece.binding?] using ih
      | string key _ bound =>
          rw [Template.bindings_value _ _ _ rfl, List.forall_mem_cons]
          obtain ⟨earlier, later, rfl, -⟩ := List.lookup_eq_some_iff.mp bound
          exact ⟨by simp [Params.names], ih⟩

theorem Templated.writtenAs {part : StatementPart} {piece : Piece}
    (templated : Templated style params part piece) :
    WrittenAs style part (String.ofList (piece.content (Placeholder.valueOf params))) := by
  cases templated with
  | text text => simpa [Piece.content] using WrittenAs.text text
  | @string name key _ bound =>
      have literal : String.ofList ((Piece.bind key (.string name)).content
          (Placeholder.valueOf params)) = "'" ++ Text.escape name ++ "'" := by
        simp [Piece.content, Placeholder.valueOf, bound, Value.literal, Text.quote,
          String.append_assoc]
      rw [literal]
      exact .string _ (EngineDefinition.unquote_quote name)
  | identifier name =>
      rw [Piece.content, String.ofList_toList, Identifier.reference]
      split
      · rename_i quoted
        exact .marked quoted
      · rename_i bare
        exact .bare (by simpa using bare)

/-- Filling in the values gives the text of the parts. -/
theorem Templated.executable {statement : Compiled} (template : Template)
    (templated : List.Forall₂ (Templated style statement.params) parts template)
    (isText : statement.sql = template.text) :
    ∃ text, statement.executable = .ok text ∧ Spell style parts text := by
  have percents := Templated.percentOnlyIn templated
  have disciplined : Placeholder.Disciplined statement.params.names statement.sql.toList := by
    rw [isText]
    exact (percents.decides _ (Templated.known templated)).disciplined_iff.mpr (by simp)
  refine ⟨_, disciplined.executable, template.map fun piece =>
    String.ofList (piece.content (Placeholder.valueOf statement.params)), ?_, ?_⟩
  · exact (List.forall₂_map_right_iff).mpr (templated.imp fun _ _ => Templated.writtenAs)
  · rw [isText, percents.shown_text (by simp), ← String.toList_inj]
    simp [Template.content, List.flatMap_map]

end StatementPart

inductive CatalogQuestion where
  | tableNames (schema : Option String)
  | viewNames (schema : Option String)
  | hasTable (table : TableName)
  | columns (table : TableName)
  | tableComment (table : TableName)
  | engineRecord (table : TableName)
  | describeView (view : TableName)
  deriving DecidableEq, Repr, Inhabited

namespace CatalogQuestion

open StatementPart

def executed (dialect : Dialect) (server : Server) (before : List Compiled) :
    CatalogQuestion → List Compiled
  | tableNames schema => ((Catalog.tableNames schema).run server before).executed
  | viewNames schema => ((Catalog.viewNames schema).run server before).executed
  | hasTable table => ((Catalog.hasTable dialect table).run server before).executed
  | columns table => ((Catalog.columns dialect table).run server before).executed
  | tableComment table => ((Catalog.tableComment dialect table).run server before).executed
  | engineRecord table => ((Catalog.engineRecord dialect table).run server before).executed
  | describeView view => ((Catalog.describeView view).run server before).executed

def isSupported (dialect : Dialect) : CatalogQuestion → Bool
  | tableComment _ => dialect.supports .tableCommentReflection
  | engineRecord _ => dialect.supports .engineReflection
  | _ => true

def filterParts (column : String) : Option String → List StatementPart
  | some schema => [.text (column ++ " = "), .string schema]
  | none => [.text (column ++ " = currentDatabase()")]

def tableParts (table : TableName) : List StatementPart :=
  match table.schema with
  | some schema => [.identifier schema, .text ".", .identifier table.name]
  | none => [.identifier table.name]

def rowParts (fields : String) (table : TableName) : List StatementPart :=
  .text ("SELECT " ++ fields ++ " FROM system.tables WHERE ") ::
    filterParts "database" table.schema ++ [.text " AND name = ", .string table.name]

def statements : CatalogQuestion → List (List StatementPart)
  | tableNames schema =>
    [.text "SELECT name FROM system.tables WHERE " :: filterParts "database" schema ++
      [.text (" AND engine NOT LIKE '%View'" ++
        " AND NOT startsWith(name, '.inner') ORDER BY name")]]
  | viewNames schema =>
    [.text "SELECT name FROM system.tables WHERE " :: filterParts "database" schema ++
      [.text " AND engine LIKE '%View' ORDER BY name"]]
  | hasTable table => [.text "EXISTS TABLE " :: tableParts table]
  | columns table => [.text "DESCRIBE TABLE " :: tableParts table]
  | tableComment table => [rowParts "comment" table]
  | engineRecord table =>
    [rowParts "engine, engine_full, partition_key, sorting_key, primary_key, sampling_key" table]
  | describeView view =>
    [rowParts "create_table_query, uuid" view,
      .text "SELECT engine FROM system.databases WHERE " :: filterParts "name" view.schema]

def compiled (dialect : Dialect) : CatalogQuestion → List Compiled
  | tableNames schema => [Catalog.tableNamesStatement schema]
  | viewNames schema => [Catalog.viewNamesStatement schema]
  | hasTable table =>
    [Catalog.withoutParams ("EXISTS TABLE " ++ Catalog.quoted dialect table)]
  | columns table =>
    [Catalog.withoutParams ("DESCRIBE TABLE " ++ Catalog.quoted dialect table)]
  | tableComment table => [Catalog.namedTable "comment" table]
  | engineRecord table =>
    [Catalog.namedTable
      "engine, engine_full, partition_key, sorting_key, primary_key, sampling_key" table]
  | describeView view =>
    [Catalog.viewStatement view, Catalog.databaseEngineStatement view.schema]

variable {style : QuoteStyle} {params : Params}

def filterPieces (column : String) : Option String → Template
  | some schema => [.plain (column ++ " = "), .bind "schema" (.string schema)]
  | none => [.plain (column ++ " = currentDatabase()")]

theorem templated_filter (column : String) (schema : Option String)
    (bound : ∀ name ∈ schema, params.lookup "schema" = some (.string name)) :
    List.Forall₂ (Templated style params) (filterParts column schema)
      (filterPieces column schema) := by
  cases schema with
  | none => exact .cons (.text _) .nil
  | some schema =>
      exact .cons (.text _) (.cons (.string "schema" (by decide) (bound schema rfl)) .nil)

theorem text_filterPieces (column : String) (schema : Option String)
    (plain : Placeholder.protect column = column) :
    (filterPieces column schema).text = (Catalog.schemaFilter column schema).1 := by
  have equals : Placeholder.protect " = " = " = " := rfl
  have current : Placeholder.protect " = currentDatabase()" = " = currentDatabase()" := rfl
  cases schema with
  | none =>
      simp only [filterPieces, Catalog.schemaFilter, Template.text_cons, Template.text_nil,
        Piece.written, Placeholder.protect_append, plain, current, String.append_empty]
  | some schema =>
      simp only [filterPieces, Catalog.schemaFilter, Template.text_cons, Template.text_nil,
        Piece.written, Placeholder.protect_append, plain, equals, String.append_empty,
        String.append_assoc, String.append_right_inj]
      rfl

theorem executable_where (style : QuoteStyle) (opening column : String)
    (schema : Option String) (more : Params) (ending : List StatementPart) (endingPieces : Template)
    (plainOpening : Placeholder.protect opening = opening)
    (plainColumn : Placeholder.protect column = column)
    (templated : List.Forall₂
      (Templated style ((Catalog.schemaFilter column schema).2 ++ more)) ending endingPieces) :
    ∃ text, (Compiled.mk (opening ++ (Catalog.schemaFilter column schema).1 ++ endingPieces.text)
        ((Catalog.schemaFilter column schema).2 ++ more)).executable = .ok text ∧
      Spell style (.text opening :: filterParts column schema ++ ending) text := by
  have bound : ∀ name ∈ schema,
      ((Catalog.schemaFilter column schema).2 ++ more).lookup "schema" = some (.string name) := by
    rintro name rfl
    rfl
  refine Templated.executable (.plain opening :: filterPieces column schema ++ endingPieces) ?_ ?_
  · exact List.rel_append (.cons (.text _) (templated_filter column schema bound)) templated
  · simp [text_filterPieces column schema plainColumn, Piece.written, plainOpening,
      String.append_assoc]

theorem executable_row (fields key opening ending : String) (table : TableName)
    (isOpening : opening = "SELECT " ++ fields ++ " FROM system.tables WHERE ")
    (plain : Placeholder.protect opening = opening) (word : Identifier.isWord key = true)
    (other : key ≠ "schema") (isEnding : ending = " AND name = " ++ ("%(" ++ key ++ ")s")) :
    ∃ text, (Compiled.mk (opening ++ (Catalog.schemaFilter "database" table.schema).1 ++ ending)
        ((Catalog.schemaFilter "database" table.schema).2 ++
          [(key, .string table.name)])).executable = .ok text ∧
      Spell style (rowParts fields table) text := by
  have named : Placeholder.protect " AND name = " = " AND name = " := rfl
  have bound : ((Catalog.schemaFilter "database" table.schema).2 ++
      [(key, Value.string table.name)]).lookup key = some (.string table.name) := by
    cases table.schema <;>
      simp [Catalog.schemaFilter, List.lookup_cons, beq_false_of_ne other]
  have result := executable_where style opening "database" table.schema
    [(key, .string table.name)] [.text " AND name = ", .string table.name]
    [.plain " AND name = ", .bind key (.string table.name)] plain rfl
    (.cons (.text _) (.cons (.string key word bound) .nil))
  simpa only [rowParts, ← isOpening, Template.text_cons, Template.text_nil, Piece.written, named,
    isEnding, String.append_empty] using result

theorem executable_table (dialect : Dialect) (opening : String) (table : TableName)
    (plain : Placeholder.protect opening = opening) :
    ∃ text, (Catalog.withoutParams (opening ++ Catalog.quoted dialect table)).executable =
        .ok text ∧
      Spell dialect.quoting (.text opening :: tableParts table) text := by
  rcases table with ⟨name, _ | schema⟩
  · refine Templated.executable [.plain opening,
      .plain (Identifier.reference dialect.quoting name)]
      (.cons (.text _) (.cons (.identifier _) .nil)) ?_
    simp [Catalog.withoutParams, Catalog.quoted, TableName.reference, Piece.written, plain]
  · refine Templated.executable [.plain opening,
      .plain (Identifier.reference dialect.quoting schema), .plain ".",
      .plain (Identifier.reference dialect.quoting name)]
      (.cons (.text _) (.cons (.identifier _) (.cons (.text _) (.cons (.identifier _) .nil)))) ?_
    simp [Catalog.withoutParams, Catalog.quoted, TableName.reference, Piece.written, plain,
      Placeholder.protect_append, String.append_assoc]

theorem executable_tables (ending written : String) (schema : Option String)
    (isWritten : Placeholder.protect ending = written) :
    ∃ text, (Compiled.mk ("SELECT name FROM system.tables WHERE " ++
        (Catalog.schemaFilter "database" schema).1 ++ written)
        (Catalog.schemaFilter "database" schema).2).executable = .ok text ∧
      Spell style (.text "SELECT name FROM system.tables WHERE " ::
        filterParts "database" schema ++ [.text ending]) text := by
  have result := executable_where style "SELECT name FROM system.tables WHERE "
    "database" schema [] [.text ending] [.plain ending] rfl rfl (.cons (.text _) .nil)
  simpa only [Template.text_cons, Template.text_nil, Piece.written, isWritten,
    String.append_empty, List.append_nil] using result

theorem executable_compiled (dialect : Dialect) (question : CatalogQuestion) :
    List.Forall₂ (fun statement parts => ∃ text, statement.executable = .ok text ∧
      Spell dialect.quoting parts text) (question.compiled dialect) question.statements := by
  cases question with
  | tableNames schema => exact .cons (executable_tables _ _ schema rfl) .nil
  | viewNames schema => exact .cons (executable_tables _ _ schema rfl) .nil
  | hasTable table =>
      exact .cons (executable_table dialect "EXISTS TABLE " table rfl) .nil
  | columns table =>
      exact .cons (executable_table dialect "DESCRIBE TABLE " table rfl) .nil
  | tableComment table =>
      exact .cons (executable_row _ "table" _ _ table rfl rfl rfl (by decide) rfl) .nil
  | engineRecord table =>
      exact .cons (executable_row _ "table" _ _ table rfl rfl rfl (by decide) rfl) .nil
  | describeView view =>
      have engine := executable_where dialect.quoting
        "SELECT engine FROM system.databases WHERE " "name" view.schema [] [] [] rfl rfl .nil
      rw [Template.text_nil, String.append_empty, List.append_nil, List.append_nil] at engine
      exact .cons (executable_row _ "view" _ _ view rfl rfl rfl (by decide) rfl)
        (.cons engine .nil)

theorem executed_withRows {α : Type} (server : Server) (before : List Compiled)
    (statement : Compiled) (next : List Row → CatalogQuery α) :
    ((Catalog.withRows statement next).run server before).executed = [statement] ∨
      ∃ rows, ((Catalog.withRows statement next).run server before).executed =
        statement :: ((next rows).run server (before ++ [statement])).executed := by
  rw [Catalog.withRows, Dialogue.run]
  cases server before statement with
  | error error => exact Or.inl rfl
  | ok rows => exact Or.inr ⟨rows, rfl⟩

theorem executed_alone {α : Type} (server : Server) (before : List Compiled)
    (statement : Compiled) (next : List Row → CatalogQuery α)
    (silent : ∀ rows, ((next rows).run server (before ++ [statement])).executed = []) :
    ((Catalog.withRows statement next).run server before).executed = [statement] := by
  rcases executed_withRows server before statement next with alone | ⟨rows, further⟩
  · exact alone
  · rw [further, silent rows]

theorem executed_prefix (dialect : Dialect) (server : Server) (before : List Compiled)
    (question : CatalogQuestion) :
    question.executed dialect server before <+: question.compiled dialect ∧
      (question.executed dialect server before = [] ↔ question.isSupported dialect = false) := by
  have single {statement : Compiled} {statements : List Compiled} (alone : statements = [statement])
      (supported : question.isSupported dialect = true) :
      statements <+: [statement] ∧ (statements = [] ↔ question.isSupported dialect = false) := by
    rw [alone, supported]
    exact ⟨List.prefix_rfl, by simp⟩
  cases question with
  | tableNames schema => exact single (executed_alone _ _ _ _ fun rows => rfl) rfl
  | viewNames schema => exact single (executed_alone _ _ _ _ fun rows => rfl) rfl
  | hasTable table => exact single (executed_alone _ _ _ _ fun rows => rfl) rfl
  | columns table =>
      refine single (executed_alone _ _ _ _ fun rows => ?_) rfl
      rw [Dialogue.run_reporting]
      rfl
  | tableComment table =>
      by_cases supported : dialect.supports .tableCommentReflection = true
      · rw [executed, Catalog.tableComment, if_pos supported]
        exact single (executed_alone _ _ _ _ fun rows => rfl) supported
      · rw [executed, Catalog.tableComment, if_neg supported]
        exact ⟨List.nil_prefix, by simpa [isSupported, Dialogue.run] using supported⟩
  | engineRecord table =>
      by_cases supported : dialect.supports .engineReflection = true
      · rw [executed, Catalog.engineRecord, if_pos supported]
        exact single (executed_alone _ _ _ _ fun rows => by cases rows <;> rfl) supported
      · rw [executed, Catalog.engineRecord, if_neg supported]
        exact ⟨List.nil_prefix, by simpa [isSupported, Dialogue.run] using supported⟩
  | describeView view =>
      -- the second statement is run only for a view without a target
      rw [executed, Catalog.describeView]
      rcases executed_withRows server before (Catalog.viewStatement view) _ with alone | ⟨rows, run⟩
      · rw [alone]
        exact ⟨⟨_, rfl⟩, by simp [isSupported]⟩
      · rw [run]
        refine ⟨List.cons_prefix_cons.mpr ⟨rfl, ?_⟩, by simp [isSupported]⟩
        cases rows with
        | nil => exact List.nil_prefix
        | cons row others =>
            dsimp only
            split
            · exact List.nil_prefix
            · exact (single (executed_alone _ _ _ _ fun rows => rfl) rfl).1

/-- Every statement that a question runs comes to its fixed text with each name as one literal of
that name or as the identifier of that name. -/
theorem executed_addresses (dialect : Dialect) (server : Server) (before : List Compiled)
    (question : CatalogQuestion) :
    (question.executed dialect server before = [] ↔ question.isSupported dialect = false) ∧
      List.Forall₂ (fun statement parts => ∃ text, statement.executable = .ok text ∧
          Spell dialect.quoting parts text)
        (question.executed dialect server before)
        (question.statements.take (question.executed dialect server before).length) := by
  obtain ⟨isPrefix, asked⟩ := executed_prefix dialect server before question
  refine ⟨asked, ?_⟩
  have first := List.forall₂_take (question.executed dialect server before).length
    (executable_compiled dialect question)
  rwa [← List.prefix_iff_eq_take.mp isPrefix] at first

end CatalogQuestion

end ClickHouse
