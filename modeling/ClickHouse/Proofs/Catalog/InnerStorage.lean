import ClickHouse.Proofs.Catalog.ViewTarget

/-!
Views with storage of their own. What follows the name of such a view, and its cluster, is a
bracket; the reader of targets gets no further than that, whatever is written behind it.
-/

namespace ClickHouse

namespace ViewTarget

structure IsRun (text : List Char) : Prop where
  nonempty : text ≠ []
  solid : ∀ c ∈ text, Text.isBlank c = false

theorem IsRun.visible {text : List Char} (run : IsRun text) (rest : List Char) :
    ∀ c ∈ (text ++ rest).head?, Text.isBlank c = false :=
  visible_append run.nonempty fun c first => run.solid c (List.mem_of_mem_head? first)

theorem isRun_reference (style : QuoteStyle) (name : String)
    (solid : ∀ c ∈ name.toList, Text.isBlank c = false) :
    IsRun (Identifier.reference style name).toList :=
  ⟨reference_ne_nil name, visible_reference name solid⟩

theorem isRun_table (style : QuoteStyle) (table : TableName)
    (solidName : ∀ c ∈ table.name.toList, Text.isBlank c = false)
    (solidSchema : ∀ schema ∈ table.schema, ∀ c ∈ schema.toList, Text.isBlank c = false) :
    IsRun (table.reference style).toList := by
  have name := isRun_reference style table.name solidName
  rcases table with ⟨_, _ | schema⟩
  · exact name
  · have schemaRun := isRun_reference style schema (solidSchema schema rfl)
    refine ⟨by simp [TableName.reference], fun c member => ?_⟩
    simp only [TableName.reference, String.toList_append, List.mem_append] at member
    rcases member with (inSchema | dot) | inName
    · exact schemaRun.solid c inSchema
    · obtain rfl : c = '.' := by simpa using dot
      decide
    · exact name.solid c inName

theorem IsRun.protect {text : String} (run : IsRun text.toList) :
    IsRun (Placeholder.protect text).toList := by
  rw [Placeholder.protect, String.toList_ofList]
  constructor
  · intro empty
    obtain ⟨c, member⟩ := List.exists_mem_of_ne_nil _ run.nonempty
    have none_written := List.flatMap_eq_nil_iff.mp empty c member
    split at none_written <;> contradiction
  · intro c member
    obtain ⟨d, member, written⟩ := List.mem_flatMap.mp member
    have same : c = d := by
      split at written <;> simp_all
    exact same ▸ run.solid d member

def onRun : Option (List Char) → List Char → List Char
  | none, rest => rest
  | some run, rest => ' ' :: ("ON".toList ++ ' ' :: ("CLUSTER".toList ++ ' ' :: (run ++ rest)))

def bracketed (more : List Char) : List Char :=
  ' ' :: '(' :: more

/-- No word that could come before a target starts with a bracket. -/
theorem none_of_bracketed (more : List Char) :
    dropUuid? (bracketed more) = none ∧ dropCluster? (bracketed more) = none ∧
      readTarget? (bracketed more) = none := by
  have others := none_of_word ('(' :: more) (by simp [Text.isBlank])
  exact ⟨others.1 (by simp [dropWord?, sameLetter]), others.2.1 (by simp [dropWord?, sameLetter]),
    others.2.2 (by simp [dropWord?, sameLetter])⟩

theorem attempt_bracketed (cluster : Option (List Char)) (more : List Char)
    (runs : ∀ run ∈ cluster, IsRun run) :
    attempt dropUuid? (attempt dropCluster? readTarget?) (onRun cluster (bracketed more)) =
      none := by
  obtain ⟨bracketUuid, bracketCluster, bracketTarget⟩ := none_of_bracketed more
  cases cluster with
  | none => rw [onRun, attempt_of_none bracketUuid, attempt_of_none bracketCluster, bracketTarget]
  | some run =>
      have solid : IsRun run := runs run rfl
      have others := none_of_word ("ON".toList ++ ' ' :: ("CLUSTER".toList ++
        ' ' :: (run ++ bracketed more))) (visible_word (by decide))
      have noUuid : dropUuid? (onRun (some run) (bracketed more)) = none :=
        others.1 (by simp [dropWord?, sameLetter])
      have noTarget : readTarget? (onRun (some run) (bracketed more)) = none :=
        others.2.2 (by simp [dropWord?, sameLetter])
      have skipped : dropCluster? (onRun (some run) (bracketed more)) = some (bracketed more) := by
        rw [dropCluster?, onRun, dropBlanks?_space _ (visible_word (by decide))]
        simp only [Option.bind_eq_bind, Option.bind_some]
        rw [dropWords?_cons "on" _ _ _ (by rfl) (visible_word (by decide)),
          dropWords?_cons "cluster" _ _ _ (by rfl) (solid.visible _)]
        exact dropRun?_append _ _ solid.nonempty solid.solid (by simp [bracketed, Text.isBlank])
      rw [attempt_of_none noUuid, attempt_of_some skipped noTarget, bracketTarget]

theorem onRun_bracketed (cluster : Option (List Char)) (more : List Char) :
    ∃ c rest, onRun cluster (bracketed more) = ' ' :: c :: rest ∧ Text.isBlank c = false ∧
      dropWord? "not".toList (c :: rest) = none := by
  cases cluster with
  | none => exact ⟨'(', more, rfl, by decide, by simp [dropWord?, sameLetter]⟩
  | some run => exact ⟨'O', _, rfl, by decide, by simp [dropWord?, sameLetter]⟩

theorem afterView?_bracketed {view : List Char} (cluster : Option (List Char)) (more : List Char)
    (name : IsRun view) (runs : ∀ run ∈ cluster, IsRun run) :
    afterView? (view ++ onRun cluster (bracketed more)) = none := by
  obtain ⟨c, rest, shape, -, -⟩ := onRun_bracketed cluster more
  have passed := dropRun?_append view (onRun cluster (bracketed more)) name.nonempty name.solid
    (by simp [shape, Text.isBlank])
  rw [afterView?, passed]
  exact attempt_bracketed cluster more runs

def bracketedStatement (ifNotExists : Bool) (view : List Char) (cluster : Option (List Char))
    (more : List Char) : List Char :=
  "CREATE".toList ++ ' ' :: ("MATERIALIZED".toList ++ ' ' :: ("VIEW".toList ++
    ' ' :: ifNew ifNotExists (view ++ onRun cluster (bracketed more))))

theorem written?_bracketed (ifNotExists : Bool) {view : List Char} (cluster : Option (List Char))
    (more : List Char) (name : IsRun view) (runs : ∀ run ∈ cluster, IsRun run) :
    written? (bracketedStatement ifNotExists view cluster more) = none := by
  have unfound := afterView?_bracketed cluster more name runs
  have visible : ∀ c ∈ (ifNew ifNotExists (view ++ onRun cluster (bracketed more))).head?,
      Text.isBlank c = false := by
    cases ifNotExists with
    | false => exact name.visible _
    | true => exact visible_word (by decide)
  rw [bracketedStatement, written?, dropWhile_of_head _ _ (visible_word (by decide)),
    dropWords?_cons "create" _ _ _ (by rfl) (visible_word (by decide)), dropWords?,
    Option.some_or, Option.bind_eq_bind, Option.bind_some,
    dropWords?_cons "materialized" _ _ _ (by rfl) (visible_word (by decide)),
    dropWords?_cons "view" _ _ _ (by rfl) visible, dropWords?]
  simp only [Option.bind_some]
  cases ifNotExists with
  | false =>
      obtain ⟨c, rest, shape, visible, differs⟩ := onRun_bracketed cluster more
      rw [ifNew, attempt_of_none, unfound]
      rw [shape]
      exact dropWords?_run_none "if" "not" ["exists"] _ _ _ (by simp; decide) name.solid visible
        differs
  | true =>
      have skipped : dropWords? ["if", "not", "exists"]
          (ifNew true (view ++ onRun cluster (bracketed more))) =
            some (view ++ onRun cluster (bracketed more)) := by
        rw [ifNew, dropWords?_cons "if" _ _ _ (by rfl) (visible_word (by decide)),
          dropWords?_cons "not" _ _ _ (by rfl) (visible_word (by decide)),
          dropWords?_cons "exists" _ _ _ (by rfl) (name.visible _), dropWords?]
      rw [attempt_of_some skipped (afterView?_ifNew _), unfound]

def innerHead (quoting : QuoteStyle) (view : MaterializedView) (ifNotExists : Bool) : Template :=
  .code "CREATE MATERIALIZED VIEW " :: Ddl.optional ifNotExists "IF NOT EXISTS " ++
    Ddl.object quoting view.tableName view.cluster ++ [.code " ", .code "("]

theorem createView_inner {quoting : QuoteStyle} {view : MaterializedView} {columns : List Column}
    {engine : Engine} {ifNotExists : Bool} {template : Template}
    (stored : view.storage = .inner columns engine)
    (compiles : Ddl.createView quoting view ifNotExists = .ok template) :
    ∃ rest, template = innerHead quoting view ifNotExists ++ rest := by
  unfold Ddl.createView at compiles
  rw [stored, Ddl.viewStorage, Ddl.storage] at compiles
  obtain ⟨query, -, compiles⟩ := bind_eq_ok compiles
  obtain ⟨storageSql, stores, compiles⟩ := bind_eq_ok compiles
  obtain ⟨columnsSql, -, stores⟩ := bind_eq_ok stores
  obtain ⟨engineSql, -, stores⟩ := bind_eq_ok stores
  obtain rfl := Except.ok.inj stores
  obtain rfl := Except.ok.inj compiles
  exact ⟨_, by simp [innerHead, Template.parenthesized]; rfl⟩

theorem percentOnlyIn_innerHead (quoting : QuoteStyle) (view : MaterializedView)
    (ifNotExists : Bool) :
    PercentOnlyIn [] (innerHead quoting view ifNotExists) := by
  have opening := (PercentOnlyIn.code_cons "CREATE MATERIALIZED VIEW " (by decide)
    (percentOnlyIn_optional ifNotExists "IF NOT EXISTS " (by decide))).append
    (percentOnlyIn_object quoting view.tableName view.cluster)
  have closing : PercentOnlyIn [] [.code " ", .code "("] :=
    .code_cons " " (by decide) (.code_cons "(" (by decide) .nil)
  exact opening.append closing

theorem bindings_innerHead (quoting : QuoteStyle) (view : MaterializedView) (ifNotExists : Bool) :
    (innerHead quoting view ifNotExists).bindings = [] := by
  rcases view with ⟨name, schema, select, storage, populate, cluster⟩
  cases ifNotExists <;> cases cluster <;> rfl

/-- The head as it is written and as it reads once its placeholders are filled. -/
theorem shown_innerHead (quoting : QuoteStyle) (view : MaterializedView) (ifNotExists : Bool)
    (more : List Char) :
    (innerHead quoting view ifNotExists).text.toList ++ more = bracketedStatement ifNotExists
        (Placeholder.protect (view.tableName.reference quoting)).toList
        (view.cluster.map fun cluster =>
          (Placeholder.protect (Identifier.reference quoting cluster)).toList) more ∧
      (innerHead quoting view ifNotExists).content (fun _ => []) ++ more =
        bracketedStatement ifNotExists (view.tableName.reference quoting).toList
          (view.cluster.map fun cluster => (Identifier.reference quoting cluster).toList) more := by
  rcases view with ⟨name, schema, select, storage, populate, cluster⟩
  cases ifNotExists <;> cases cluster <;>
    simp [innerHead, Template.content, Piece.content, Piece.written, Ddl.optional, Ddl.object,
      Ddl.clusterClause, Sql.table, Sql.name, Template.plain, Template.code, ifNew, onRun,
      bracketed, bracketedStatement, Ddl.inlineStyle]

theorem ofStatement?_inner {quoting : QuoteStyle} {view : MaterializedView}
    {columns : List Column} {engine : Engine} {ifNotExists : Bool} {template : Template}
    {statement : String} (stored : view.storage = .inner columns engine)
    (compiles : Ddl.createView quoting view ifNotExists = .ok template)
    (states : statement = template.text ∨ substitute template.text [] = .ok statement)
    (solidName : ∀ c ∈ view.name.toList, Text.isBlank c = false)
    (solidSchema : ∀ schema ∈ view.schema, ∀ c ∈ schema.toList, Text.isBlank c = false)
    (solidCluster : ∀ name ∈ view.cluster, ∀ c ∈ name.toList, Text.isBlank c = false) :
    ofStatement? statement = none := by
  obtain ⟨query, rfl⟩ := createView_inner stored compiles
  have name : IsRun (view.tableName.reference quoting).toList :=
    isRun_table _ view.tableName solidName solidSchema
  have cluster : ∀ given ∈ view.cluster, IsRun (Identifier.reference quoting given).toList :=
    fun given found => isRun_reference _ given (solidCluster given found)
  have unread : written? statement.toList = none := by
    rcases states with rfl | runs
    · rw [Template.text_append, String.toList_append, (shown_innerHead quoting view _ _).1]
      exact written?_bracketed _ _ _ name.protect (by simpa using fun given found =>
        (cluster given found).protect)
    · rw [Placeholder.substitute_nil_iff, Template.text_append, String.toList_append] at runs
      have keeps := (percentOnlyIn_innerHead quoting view ifNotExists).keeps
        (bindings_innerHead quoting view ifNotExists) (fun _ => [])
      obtain ⟨first, rest, passes, -, shape⟩ :=
        (Placeholder.passes_append (Or.inl keeps.outside) _).mp runs
      obtain rfl := passes.unique (keeps.passes_iff.mpr (by simp))
      rw [shape, (shown_innerHead quoting view _ _).2]
      exact written?_bracketed _ _ _ name (by simpa using cluster)
  rw [ofStatement?, unread]
  rfl

end ViewTarget

namespace Catalog

theorem describeView_of_no_target {server : Server} {before : List Compiled} {view : TableName}
    {row : Row} {others databases : List Row}
    (answers : server before (viewStatement view) = .ok (row :: others))
    (missing : ViewTarget.ofStatement? (row.text "create_table_query") = none)
    (answersEngine : server (before ++ [viewStatement view])
      (databaseEngineStatement view.schema) = .ok databases) :
    ((describeView view).run server before).result = .ok ⟨view.name, view.schema,
      .inner (innerName ((databases.head?.map fun database => database.text "engine").getD "")
        (row.text "uuid") view.name), row.text "create_table_query"⟩ := by
  simp [describeView, withRows, Dialogue.run, answers, missing, answersEngine]

/-- A view without a target is never taken for one with a target. -/
theorem describeView_inner (quoting : QuoteStyle) (server : Server) (before : List Compiled)
    (view : MaterializedView) (columns : List Column) (engine : Engine) (ifNotExists : Bool)
    (template : Template) (statement : String) (row : Row) (others databases : List Row)
    (stored : view.storage = .inner columns engine)
    (compiles : Ddl.createView quoting view ifNotExists = .ok template)
    (states : statement = template.text ∨ substitute template.text [] = .ok statement)
    (answers : server before (viewStatement view.tableName) = .ok (row :: others))
    (records : row.text "create_table_query" = statement)
    (answersEngine : server (before ++ [viewStatement view.tableName])
      (databaseEngineStatement view.schema) = .ok databases)
    (solidName : ∀ c ∈ view.name.toList, Text.isBlank c = false)
    (solidSchema : ∀ schema ∈ view.schema, ∀ c ∈ schema.toList, Text.isBlank c = false)
    (solidCluster : ∀ name ∈ view.cluster, ∀ c ∈ name.toList, Text.isBlank c = false) :
    ((describeView view.tableName).run server before).result = .ok
      { name := view.name
        schema := view.schema
        storage := .inner
          (if (databases.head?.map fun database => database.text "engine") = some "Atomic" then
            ".inner_id." ++ row.text "uuid"
          else ".inner." ++ view.name)
        statement := statement } := by
  have missing : ViewTarget.ofStatement? (row.text "create_table_query") = none :=
    records ▸ ViewTarget.ofStatement?_inner stored compiles states solidName solidSchema
      solidCluster
  rw [describeView_of_no_target answers missing answersEngine, records]
  cases databases with
  | nil => simp [innerName, MaterializedView.tableName]
  | cons database rest =>
      by_cases atomic : database.text "engine" = "Atomic" <;>
        simp [innerName, MaterializedView.tableName, atomic]

namespace Archive

/-- A view on a cluster whose rows move to another disk, and whose text has the words in it that
a reader of targets looks for. -/
def view : MaterializedView where
  name := "archive"
  schema := some "live"
  select :=
    { Select.ofColumns [.raw "'UUID' AS to"] with
      source := some (.table ⟨"t", none⟩ none)
      condition := some (.raw "note = ' TO other ON CLUSTER c'") }
  storage := .inner
    [{ Column.ofType "day" (.date) with comment := some "moves TO disk" }]
    (.mergeTree
      { merging := .plain
        replication := none
        partitionBy := []
        orderBy := [.named "day"]
        primaryKey := []
        sampleBy := []
        retention := [⟨.raw "day + 30", some (.toDisk "cold")⟩]
        settings := [] })
  populate := true
  cluster := some "main"

def server (statement : String) : Server := fun before _ =>
  match before with
  | [] => .ok [[("create_table_query", .string statement), ("uuid", .string "0-1")]]
  | _ => .ok [[("engine", .string "Atomic")]]

end Archive

theorem describeView_archive :
    ∃ template, Ddl.createView .double Archive.view true = .ok template ∧
      ((describeView ⟨"archive", some "live"⟩).run (Archive.server template.text) []).result =
        .ok ⟨"archive", some "live", .inner ".inner_id.0-1", template.text⟩ := by
  have compiles : Ddl.createView .double Archive.view true = .ok _ := rfl
  exact ⟨_, compiles, describeView_inner .double (Archive.server _) [] Archive.view _ _ true _ _
    _ [] _ rfl compiles (Or.inl rfl) rfl rfl rfl (by simp [Archive.view, Text.isBlank])
    (by simp [Archive.view, Text.isBlank]) (by simp [Archive.view, Text.isBlank])⟩

end Catalog

end ClickHouse
