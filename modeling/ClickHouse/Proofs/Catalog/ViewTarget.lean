import ClickHouse.Proofs.Catalog.TargetClause
import ClickHouse.Proofs.Outcome
import ClickHouse.Proofs.Placeholder.Passing
import ClickHouse.Table.Ddl

/-!
The target of a materialized view, read back from the statement that made the view. The reader
knows letters, digits, underscores and dots only, so of a target that needs quotes it takes the
part before the first other character. A name before the target is passed over up to its first
blank, so what is written behind that may be taken for the target instead
(`Catalog.describeView_target_iff`).
-/

namespace ClickHouse

namespace ViewTarget

def isNameChar (c : Char) : Bool :=
  isTargetChar c && c ≠ '\x60'

/-- Whether the reader can tell a target from what it takes for one: the schema ends at the first
dot, and the word for inner storage is no table. -/
def isReadable (target : TableName) : Bool :=
  match target.schema with
  | none =>
    target.name.toList.all (fun c => isNameChar c && c ≠ '.') &&
      target.name.toList.map Char.toUpper ≠ "INNER".toList
  | some schema =>
    schema.toList.all (fun c => isNameChar c && c ≠ '.') && target.name.toList.all isNameChar

theorem filter_of_name (name : List Char) (plain : ∀ c ∈ name, isNameChar c = true) :
    name.filter (fun c => c ≠ '\x60') = name := by
  refine List.filter_eq_self.mpr fun c member => ?_
  have part := plain c member
  rw [isNameChar, Bool.and_eq_true] at part
  exact part.2

section

variable {text plain : List Char} (unmarked : text.filter (fun c => c ≠ '\x60') = plain)

include unmarked

theorem tableOf?_inner (inner : plain.map Char.toUpper = "INNER".toList) :
    tableOf? text = none := by
  rw [tableOf?, unmarked, if_pos inner]

theorem tableOf?_name (outer : plain.map Char.toUpper ≠ "INNER".toList) (noDot : '.' ∉ plain) :
    tableOf? text = some ⟨String.ofList plain, none⟩ := by
  have passed : plain.dropWhile (fun c => c ≠ '.') = [] := by
    rw [← List.append_nil plain, List.dropWhile_append_of_pos]
    · rfl
    · exact fun c member => decide_eq_true (ne_of_mem_of_not_mem member noDot)
  rw [tableOf?, unmarked, if_neg outer, passed]

theorem tableOf?_dot (schema name : List Char) (shape : plain = schema ++ '.' :: name)
    (noDot : '.' ∉ schema) :
    tableOf? text = some ⟨String.ofList name, some (String.ofList schema)⟩ := by
  have outer : plain.map Char.toUpper ≠ "INNER".toList := by
    intro same
    have dot : '.' ∈ "INNER".toList := by
      rw [← same, shape, List.map_append, List.map_cons]
      exact List.mem_append_right _ (List.mem_cons_self ..)
    exact absurd dot (by decide)
  have passed : ∀ c ∈ schema, decide (c ≠ '.') = true :=
    fun c member => decide_eq_true (ne_of_mem_of_not_mem member noDot)
  rw [tableOf?, unmarked, if_neg outer, shape, List.dropWhile_append_of_pos passed,
    List.takeWhile_append_of_pos passed]
  simp

end

theorem plain_without_dot (name : List Char) (plain : ∀ c ∈ name, isNameChar c = true) :
    name.all (fun c => isNameChar c && c ≠ '.') = true ↔ '.' ∉ name := by
  rw [List.all_eq_true]
  exact ⟨fun each inside => absurd (each '.' inside) (by simp),
    fun noDot c member => by simp [plain c member, ne_of_mem_of_not_mem member noDot]⟩

theorem tableOf?_written (target : TableName)
    (plainName : ∀ c ∈ target.name.toList, isNameChar c = true)
    (plainSchema : ∀ schema ∈ target.schema, ∀ c ∈ schema.toList, isNameChar c = true) :
    tableOf? (written target) = some target ↔ isReadable target = true := by
  rcases target with ⟨name, _ | schema⟩
  · have unmarked : (written ⟨name, none⟩).filter (fun c => c ≠ '\x60') = name.toList :=
      (filter_reference name).trans (filter_of_name _ plainName)
    rw [isReadable, Bool.and_eq_true, plain_without_dot _ plainName, decide_eq_true_eq]
    by_cases inner : name.toList.map Char.toUpper = "INNER".toList
    · simp [tableOf?_inner unmarked inner, inner]
    by_cases dot : '.' ∈ name.toList
    · obtain ⟨before, after, shape, noDot⟩ := List.eq_append_cons_of_mem dot
      simp [tableOf?_dot unmarked before after shape noDot, dot]
    · exact iff_of_true (by simp [tableOf?_name unmarked inner dot]) ⟨dot, inner⟩
  · have plainSchema := plainSchema schema rfl
    have unmarked : (written ⟨name, some schema⟩).filter (fun c => c ≠ '\x60') =
        schema.toList ++ '.' :: name.toList := by
      rw [written_of_schema, List.filter_append, List.filter_cons_of_pos (by decide),
        filter_reference, filter_reference, filter_of_name _ plainName,
        filter_of_name _ plainSchema]
    rw [isReadable, Bool.and_eq_true, plain_without_dot _ plainSchema, List.all_eq_true,
      and_iff_left plainName]
    by_cases dot : '.' ∈ schema.toList
    · -- the schema would have to end before its own dot
      obtain ⟨before, after, shape, noDot⟩ := List.eq_append_cons_of_mem dot
      have read := tableOf?_dot unmarked before (after ++ '.' :: name.toList) (by simp [shape])
        noDot
      refine iff_of_false (fun same => ?_) (fun absent => absent dot)
      simp only [read, Option.some.injEq, TableName.mk.injEq] at same
      rw [← same.2, String.toList_ofList] at dot
      exact noDot dot
    · simp [tableOf?_dot unmarked _ _ rfl dot, dot]

theorem mem_of_tableOf? {text : List Char} {table : TableName} (read : tableOf? text = some table) :
    (∀ c ∈ table.name.toList, c ∈ text ∧ c ≠ '\x60') ∧
      ∀ schema ∈ table.schema, ∀ c ∈ schema.toList, c ∈ text ∧ c ≠ '\x60' := by
  have part {c : Char} (member : c ∈ text.filter (fun c => c ≠ '\x60')) :
      c ∈ text ∧ c ≠ '\x60' := by
    simpa using member
  rw [tableOf?] at read
  split at read
  · contradiction
  · split at read
    · obtain rfl := Option.some.inj read
      exact ⟨fun c member => part (by simpa using member), by simp⟩
    · rename_i dot name after
      obtain rfl := Option.some.inj read
      refine ⟨fun c member => part ?_, fun schema given c member => part ?_⟩
      · refine (List.dropWhile_suffix (· ≠ '.')).subset ?_
        rw [after]
        exact List.mem_cons_of_mem _ (by simpa using member)
      · obtain rfl := Option.some.inj given
        exact (List.takeWhile_prefix _).subset (by simpa using member)

theorem takeWhile_written (target : TableName)
    (plainName : ∀ c ∈ target.name.toList, isNameChar c = true)
    (plainSchema : ∀ schema ∈ target.schema, ∀ c ∈ schema.toList, isNameChar c = true) :
    (written target).takeWhile isTargetChar = written target := by
  have isTarget (c : Char) (plain : isNameChar c = true) : isTargetChar c = true := by
    rw [isNameChar, Bool.and_eq_true] at plain
    exact plain.1
  rw [← List.append_nil (written target), List.takeWhile_append_of_pos, List.takeWhile_nil]
  intro c member
  rcases mem_written target c member with inName | ⟨schema, given, inSchema⟩ | rfl | rfl
  · exact isTarget c (plainName c inName)
  · exact isTarget c (plainSchema schema given c inSchema)
  · decide
  · decide

theorem isNameChar_of_isReadable {target : TableName} (readable : isReadable target = true) :
    (∀ c ∈ target.name.toList, isNameChar c = true) ∧
      ∀ schema ∈ target.schema, ∀ c ∈ schema.toList, isNameChar c = true := by
  rcases target with ⟨name, _ | schema⟩
  · simp only [isReadable, Bool.and_eq_true, List.all_eq_true] at readable
    exact ⟨fun c member => (readable.1 c member).1, by simp⟩
  · simp only [isReadable, Bool.and_eq_true, List.all_eq_true] at readable
    refine ⟨readable.2, fun other given c member => ?_⟩
    obtain rfl := Option.some.inj given
    exact (readable.1 c member).1

theorem read_iff (target : TableName) :
    (readPart? target).bind tableOf? = some target ↔ isReadable target = true := by
  have whole (plainName : ∀ c ∈ target.name.toList, isNameChar c = true)
      (plainSchema : ∀ schema ∈ target.schema, ∀ c ∈ schema.toList, isNameChar c = true) :
      (readPart? target).bind tableOf? = some target ↔ isReadable target = true := by
    rw [readPart?, takeWhile_written target plainName plainSchema,
      if_neg (by simpa using written_ne_nil target)]
    exact tableOf?_written target plainName plainSchema
  constructor
  · intro read
    -- what is read holds no other characters, so neither do the names
    obtain ⟨text, found, named⟩ := Option.bind_eq_some_iff.mp read
    have shape : text = (written target).takeWhile isTargetChar := by
      rw [readPart?] at found
      split at found
      · contradiction
      · exact (Option.some.inj found).symm
    have isName (c : Char) (part : c ∈ text ∧ c ≠ '\x60') : isNameChar c = true := by
      rw [shape] at part
      simp [isNameChar, part.2, List.all_eq_true.mp List.all_takeWhile c part.1]
    obtain ⟨inName, inSchema⟩ := mem_of_tableOf? named
    exact (whole (fun c member => isName c (inName c member))
      (fun schema given c member => isName c (inSchema schema given c member))).mp read
  · intro readable
    obtain ⟨plainName, plainSchema⟩ := isNameChar_of_isReadable readable
    exact (whole plainName plainSchema).mpr readable

def head (view : MaterializedView) (target : TableName) (ifNotExists : Bool) : Template :=
  .code "CREATE MATERIALIZED VIEW " :: Ddl.optional ifNotExists "IF NOT EXISTS " ++
    Ddl.object .grave view.tableName view.cluster ++
    .code " TO " :: Sql.table (Ddl.inlineStyle .grave) target ++
    Ddl.optional view.populate " POPULATE" ++ [.code " AS "]

theorem percentOnlyIn_optional (present : Bool) (text : String) (free : '%' ∉ text.toList) :
    PercentOnlyIn [] (Ddl.optional present text) := by
  cases present with
  | false => exact .nil
  | true => exact PercentOnlyIn.code_cons text free .nil

theorem percentOnlyIn_object (quoting : QuoteStyle) (name : TableName) (cluster : Option String) :
    PercentOnlyIn [] (Ddl.object quoting name cluster) := by
  refine .plain _ ?_
  cases cluster with
  | none => exact .nil
  | some cluster => exact PercentOnlyIn.code_cons " ON CLUSTER " (by decide) (.plain _ .nil)

theorem percentOnlyIn_head (view : MaterializedView) (target : TableName) (ifNotExists : Bool) :
    PercentOnlyIn [] (head view target ifNotExists) := by
  have opening := (PercentOnlyIn.code_cons "CREATE MATERIALIZED VIEW " (by decide)
    (percentOnlyIn_optional ifNotExists "IF NOT EXISTS " (by decide))).append
    (percentOnlyIn_object .grave view.tableName view.cluster)
  have storage : PercentOnlyIn [] (.code " TO " :: Sql.table (Ddl.inlineStyle .grave) target) :=
    PercentOnlyIn.code_cons " TO " (by decide) (.plain _ .nil)
  have ending := (percentOnlyIn_optional view.populate " POPULATE" (by decide)).append
    (PercentOnlyIn.code_cons " AS " (by decide) .nil)
  simpa [head] using (opening.append storage).append ending

theorem bindings_head (view : MaterializedView) (target : TableName) (ifNotExists : Bool) :
    (head view target ifNotExists).bindings = [] := by
  rcases view with ⟨name, schema, select, storage, populate, cluster⟩
  cases ifNotExists <;> cases populate <;> cases cluster <;> rfl

theorem content_head (view : MaterializedView) (target : TableName) (ifNotExists : Bool)
    (query : List Char) :
    ∃ more, (head view target ifNotExists).content (fun _ => []) ++ query =
      headText ifNotExists view.tableName view.cluster target more := by
  rcases view with ⟨name, schema, select, storage, populate, cluster⟩
  refine ⟨(if populate then "POPULATE ".toList else []) ++ "AS ".toList ++ query, ?_⟩
  cases ifNotExists <;> cases populate <;> cases cluster <;>
    simp [head, Template.content, Piece.content, Ddl.optional, Ddl.object, Ddl.clusterClause,
      Sql.table, Sql.name, Template.plain, Template.code, headText, ifNew, onCluster, toTarget,
      written, Ddl.inlineStyle]

theorem createView_target {view : MaterializedView} {target : TableName} {ifNotExists : Bool}
    {template : Template} (stored : view.storage = .target target)
    (compiles : Ddl.createView .grave view ifNotExists = .ok template) :
    ∃ query, template = head view target ifNotExists ++ query := by
  unfold Ddl.createView at compiles
  rw [stored] at compiles
  obtain ⟨query, -, compiles⟩ := bind_eq_ok compiles
  refine ⟨query, ?_⟩
  simpa [Ddl.viewStorage, head] using (Except.ok.inj compiles).symm

theorem toList_createView {view : MaterializedView} {target : TableName} {ifNotExists : Bool}
    {template : Template} {statement : String} (stored : view.storage = .target target)
    (compiles : Ddl.createView .grave view ifNotExists = .ok template)
    (runs : substitute template.text [] = .ok statement) :
    ∃ more, statement.toList = headText ifNotExists view.tableName view.cluster target more := by
  obtain ⟨query, rfl⟩ := createView_target stored compiles
  rw [Placeholder.substitute_nil_iff, Template.text_append, String.toList_append] at runs
  have keeps := (percentOnlyIn_head view target ifNotExists).keeps
    (bindings_head view target ifNotExists) (fun _ => [])
  obtain ⟨first, rest, passes, -, shape⟩ :=
    (Placeholder.passes_append (Or.inl keeps.outside) _).mp runs
  obtain rfl := passes.unique (keeps.passes_iff.mpr (by simp))
  obtain ⟨more, content⟩ := content_head view target ifNotExists rest
  exact ⟨more, shape.trans content⟩

theorem ofStatement?_of_isSolid {ifNotExists : Bool} {view : TableName} {cluster : Option String}
    {target : TableName} {more : List Char} {statement : String}
    (states : statement.toList = headText ifNotExists view cluster target more)
    (solid : IsSolid view cluster) : ofStatement? statement = (readPart? target).bind tableOf? := by
  rw [ofStatement?, states, written?_of_isSolid target more solid]

theorem ofStatement?_eq_some_iff {ifNotExists : Bool} {view : TableName} {cluster : Option String}
    {target : TableName} {more : List Char} {statement : String}
    (states : statement.toList = headText ifNotExists view cluster target more) :
    ofStatement? statement = some target ↔
      IsSolid view cluster ∧ isReadable target = true ∨
        ∃ read, Strays view cluster target more read ∧ tableOf? read = some target := by
  by_cases solid : IsSolid view cluster
  · rw [ofStatement?_of_isSolid states solid, read_iff]
    constructor
    · exact fun readable => .inl ⟨solid, readable⟩
    · rintro (⟨_, readable⟩ | ⟨read, strays, _⟩)
      · exact readable
      · exact absurd solid strays.not_isSolid
  · rw [ofStatement?, states, Option.bind_eq_some_iff]
    simp only [written?_eq_some_iff target more _ solid]
    constructor
    · exact .inr
    · rintro (⟨isSolid, _⟩ | found)
      · contradiction
      · exact found

end ViewTarget

namespace Catalog

section

variable {server : Server} {before : List Compiled} {view : TableName} {row : Row}
  {others : List Row} (answers : server before (viewStatement view) = .ok (row :: others))

include answers

theorem describeView_of_target {target : TableName}
    (found : ViewTarget.ofStatement? (row.text "create_table_query") = some target) :
    ((describeView view).run server before).result =
      .ok ⟨view.name, view.schema, .target target, row.text "create_table_query"⟩ := by
  simp [describeView, withRows, Dialogue.run, answers, found]

theorem inner_of_no_target {described : DescribedView}
    (missing : ViewTarget.ofStatement? (row.text "create_table_query") = none)
    (done : ((describeView view).run server before).result = .ok described) :
    ∃ name, described.storage = .inner name := by
  simp only [describeView, withRows, Dialogue.run, answers, missing] at done
  split at done
  · simp [Dialogue.run] at done
  · obtain rfl := Except.ok.inj done
    exact ⟨_, rfl⟩

end

/-- The target of a view is found again exactly when the reader knows all its characters and comes
to it, since no name before it holds a blank; or when a name with a blank happens to lead the reader
to the same table. -/
theorem describeView_target_iff (server : Server) (before : List Compiled)
    (view : MaterializedView) (target : TableName) (ifNotExists : Bool) (template : Template)
    (statement : String) (row : Row) (others : List Row)
    (stored : view.storage = .target target)
    (compiles : Ddl.createView .grave view ifNotExists = .ok template)
    (runs : substitute template.text [] = .ok statement)
    (answers : server before (viewStatement view.tableName) = .ok (row :: others))
    (records : row.text "create_table_query" = statement) :
    ∃ more, statement.toList =
        ViewTarget.headText ifNotExists view.tableName view.cluster target more ∧
      ((∃ described, ((describeView view.tableName).run server before).result = .ok described ∧
          described.storage = .target target) ↔
        ViewTarget.IsSolid view.tableName view.cluster ∧ ViewTarget.isReadable target = true ∨
          ∃ read, ViewTarget.Strays view.tableName view.cluster target more read ∧
            ViewTarget.tableOf? read = some target) := by
  obtain ⟨more, states⟩ := ViewTarget.toList_createView stored compiles runs
  refine ⟨more, states, ?_⟩
  rw [← ViewTarget.ofStatement?_eq_some_iff states, ← records]
  constructor
  · rintro ⟨described, done, isTarget⟩
    cases found : ViewTarget.ofStatement? (row.text "create_table_query") with
    | none =>
        obtain ⟨name, isInner⟩ := inner_of_no_target answers found done
        rw [isInner] at isTarget
        contradiction
    | some table =>
        rw [describeView_of_target answers found] at done
        obtain rfl := Except.ok.inj done
        exact congrArg some (DescribedStorage.target.inj isTarget)
  · intro found
    exact ⟨_, describeView_of_target answers found, rfl⟩

namespace Feed

def view (target : TableName) : MaterializedView where
  name := "feed"
  schema := some "live"
  select := { Select.ofColumns [.named "a"] with source := some (.table ⟨"t", none⟩ none) }
  storage := .target target
  populate := true
  cluster := some "main"

def statement (target : String) : String :=
  "CREATE MATERIALIZED VIEW IF NOT EXISTS live.feed ON CLUSTER main TO " ++ target ++
    " POPULATE AS SELECT a FROM t"

def server (statement : String) : Server := fun _ _ =>
  .ok [[("create_table_query", .string statement)]]

theorem isSolid (target : TableName) :
    ViewTarget.IsSolid (view target).tableName (view target).cluster :=
  ⟨by simp [view, MaterializedView.tableName, Text.isBlank],
    by simp [view, MaterializedView.tableName, Text.isBlank], by simp [view, Text.isBlank]⟩

end Feed

/-- A view whose own name leads the reader to its target. -/
example : ViewTarget.ofStatement? "CREATE MATERIALIZED VIEW \x60a to t b\x60 TO t AS SELECT 1" =
    some ⟨"t", none⟩ := by
  decide

theorem describeView_feed :
    ∃ described, ((describeView ⟨"feed", some "live"⟩).run
      (Feed.server (Feed.statement "stats.daily")) []).result = .ok described ∧
        described.storage = .target ⟨"daily", some "stats"⟩ := by
  have compiles : Ddl.createView .grave (Feed.view ⟨"daily", some "stats"⟩) true = .ok _ := rfl
  have runs := Placeholder.substitute_of_free (Feed.statement "stats.daily") (by decide)
  obtain ⟨more, -, found⟩ := describeView_target_iff (Feed.server (Feed.statement "stats.daily")) []
    (Feed.view ⟨"daily", some "stats"⟩) _ true _ _
    [("create_table_query", .string (Feed.statement "stats.daily"))] [] rfl compiles runs rfl rfl
  exact found.mpr (.inl ⟨Feed.isSolid _, by decide⟩)

/-- Of a target with a blank the part before it is taken for another table. -/
theorem describeView_loses_target :
    ∃ template, Ddl.createView .grave (Feed.view ⟨"my target", none⟩) true = .ok template ∧
      substitute template.text [] = .ok (Feed.statement "\x60my target\x60") ∧
      ((describeView ⟨"feed", some "live"⟩).run
        (Feed.server (Feed.statement "\x60my target\x60")) []).result =
          .ok ⟨"feed", some "live", .target ⟨"my", none⟩, Feed.statement "\x60my target\x60"⟩ := by
  have compiles : Ddl.createView .grave (Feed.view ⟨"my target", none⟩) true = .ok _ := rfl
  have runs := Placeholder.substitute_of_free (Feed.statement "\x60my target\x60") (by decide)
  refine ⟨_, compiles, runs, ?_⟩
  obtain ⟨more, states⟩ := ViewTarget.toList_createView rfl compiles runs
  have read := ViewTarget.ofStatement?_of_isSolid states (Feed.isSolid _)
  have answers : Feed.server (Feed.statement "\x60my target\x60") [] (viewStatement
      ⟨"feed", some "live"⟩) = .ok [[("create_table_query",
        .string (Feed.statement "\x60my target\x60"))]] := rfl
  exact describeView_of_target answers (read.trans (by decide))

end Catalog

end ClickHouse
