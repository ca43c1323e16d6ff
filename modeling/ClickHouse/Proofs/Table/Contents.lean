import ClickHouse.Proofs.Outcome
import ClickHouse.Proofs.Placeholder.Passing
import ClickHouse.Proofs.Query.Printing
import ClickHouse.Table.Ddl

/-!
What goes into the statements about tables and views, and what comes out when their placeholders
are filled in. Every string that is written as a literal stands in what comes out as one, as long
as the texts whose percent signs are not doubled come through by themselves: the types, and the
literals among the parameters of engines and retention rules.
-/

namespace ClickHouse

open Placeholder

structure Contents where
  strings : List String
  /-- The texts that are written with single percent signs. -/
  undoubled : List (List Char)
  spellings : List Spelling
  /-- Texts that are no literals and are written as they are given. -/
  codes : List String

namespace Contents

def empty : Contents :=
  ⟨[], [], [], []⟩

def append (left right : Contents) : Contents :=
  ⟨left.strings ++ right.strings, left.undoubled ++ right.undoubled,
    left.spellings ++ right.spellings, left.codes ++ right.codes⟩

instance : Append Contents :=
  ⟨append⟩

def join (contents : List Contents) : Contents :=
  contents.foldr append empty

def literal (string : String) : Contents :=
  ⟨[string], [], [], []⟩

/-- A literal with single percent signs. -/
def parameter (string : String) : Contents :=
  ⟨[string], [(Text.quote string).toList], [], []⟩

def type (type : DataType) : Contents :=
  ⟨type.strings, [type.render.toList], [], []⟩

def code (text : String) : Contents :=
  ⟨[], [], [], [text]⟩

/-- Whether names are words and no percent sign stands in a kind of join, a codec or a setting. -/
def Sound (contents : Contents) : Prop :=
  AllPlain contents.spellings ∧ ∀ text ∈ contents.codes, '%' ∉ text.toList

def AllKept (contents : Contents) : Prop :=
  ∀ text ∈ contents.undoubled, Kept text

theorem sound_append {left right : Contents} :
    (left ++ right).Sound ↔ left.Sound ∧ right.Sound := by
  change AllPlain (left.spellings ++ right.spellings) ∧ (∀ text ∈ left.codes ++ right.codes, _) ↔ _
  rw [allPlain_append, List.forall_mem_append]
  exact and_and_and_comm

theorem allKept_append {left right : Contents} :
    (left ++ right).AllKept ↔ left.AllKept ∧ right.AllKept :=
  List.forall_mem_append

theorem append_empty (contents : Contents) : contents ++ empty = contents := by
  change Contents.append contents empty = contents
  simp [append, empty]

theorem join_single (contents : Contents) : join [contents] = contents :=
  append_empty contents

end Contents

/-- A template in which the strings stand as literals, and which comes through exactly when the
texts with single percent signs do. -/
structure Faithful (contents : Contents) (template : Template) : Prop where
  quotes : Quotes contents.strings template.filled
  keeps : contents.Sound → Keeps contents.AllKept template.text.toList template.filled

/-- The same of a template that may end with a type, before another character than the last one of
a placeholder. -/
structure FaithfulBefore (contents : Contents) (template : Template) : Prop where
  quotes : Quotes contents.strings template.filled
  keeps : contents.Sound → ∀ next, next ≠ 's' → next ≠ '%' →
    Keeps contents.AllKept (template.text.toList ++ [next]) (template.filled ++ [next])

inductive FaithfulItems : Contents → List Template → Prop
  | nil : FaithfulItems .empty []
  | cons {contents others first rest} : Faithful contents first → FaithfulItems others rest →
      FaithfulItems (contents ++ others) (first :: rest)

namespace Faithful

variable {contents others : Contents} {template more : Template}

theorem empty : Faithful .empty [] :=
  ⟨.text _, fun _ => Keeps.empty.congr (by simp [Contents.AllKept, Contents.empty])⟩

theorem append (faithful : Faithful contents template) (following : Faithful others more) :
    Faithful (contents ++ others) (template ++ more) := by
  refine ⟨?_, fun sound => ?_⟩
  · rw [Template.filled_append]
    exact faithful.quotes.append following.quotes
  · obtain ⟨soundLeft, soundRight⟩ := Contents.sound_append.mp sound
    rw [Template.text_append, String.toList_append, Template.filled_append]
    exact ((faithful.keeps soundLeft).append (following.keeps soundRight)).congr
      Contents.allKept_append.symm

theorem append_tail (faithful : Faithful contents template) (following : Faithful .empty more) :
    Faithful contents (template ++ more) := by
  have together := faithful.append following
  rwa [Contents.append_empty] at together

theorem word (text : String) (free : '%' ∉ text.toList) : Faithful .empty (Template.code text) := by
  refine ⟨.text _, fun _ => ?_⟩
  have keeps : Keeps True text.toList text.toList := .of_free free
  simpa [Template.code, Piece.written, Template.filled, Piece.filled] using
    keeps.congr (by simp [Contents.AllKept, Contents.empty])

theorem code_cons (faithful : Faithful contents template) (text : String)
    (free : '%' ∉ text.toList) : Faithful contents (.code text :: template) :=
  (word text free).append faithful

theorem plain (text : String) : Faithful .empty (Template.plain text) := by
  refine ⟨.text _, fun _ => ?_⟩
  have keeps := Keeps.protect text
  simpa [Template.plain, Piece.written, Template.filled, Piece.filled] using
    keeps.congr (by simp [Contents.AllKept, Contents.empty])

theorem code (text : String) : Faithful (.code text) (Template.code text) := by
  refine ⟨.text _, fun sound => ?_⟩
  have free : '%' ∉ text.toList := sound.2 text (by simp [Contents.code])
  have keeps : Keeps True text.toList text.toList := .of_free free
  simpa [Template.code, Piece.written, Template.filled, Piece.filled] using
    keeps.congr (by simp [Contents.AllKept, Contents.code])

theorem literal (string : String) :
    Faithful (.literal string) (Template.plain (Text.quote string)) := by
  refine ⟨?_, fun sound => (plain (Text.quote string)).keeps ⟨sound.1, sound.2⟩⟩
  simpa [Contents.literal, Template.plain, Template.filled, Piece.filled] using Quotes.quote string

theorem outside_quote (string : String) :
    (Placeholder.run .outside (Text.quote string).toList).2 = .outside := by
  have shape : (Text.quote string).toList =
      ('\x27' :: (Text.escape string).toList) ++ ['\x27'] := by
    simp [Text.quote]
  rw [shape, run_append]
  change (step (Placeholder.run .outside _).2 '\x27').2 = .outside
  cases (Placeholder.run .outside ('\x27' :: (Text.escape string).toList)).2 with
  | outside | percent | closed => rfl
  | name chars =>
      have mark : prolongs chars '\x27' = false := by simp [prolongs]
      simp [step, mark, leave]

theorem parameter (string : String) :
    Faithful (.parameter string) (Sql.literalParameter string) := by
  refine ⟨?_, fun _ => ?_⟩
  · simpa [Contents.parameter, Sql.literalParameter, Template.code, Template.filled, Piece.filled]
      using Quotes.quote string
  · have keeps := Keeps.of_outside (outside_quote string)
    simpa [Sql.literalParameter, Template.code, Piece.written, Template.filled, Piece.filled] using
      keeps.congr (by simp [Contents.AllKept, Contents.parameter])

theorem append_code (faithful : Faithful contents template) (text : String)
    (free : '%' ∉ text.toList) : Faithful contents (template ++ [.code text]) :=
  faithful.append_tail (word text free)

theorem plain_cons (faithful : Faithful contents template) (text : String) :
    Faithful contents (.plain text :: template) :=
  (plain text).append faithful

theorem parenthesized (faithful : Faithful contents template) :
    Faithful contents template.parenthesized :=
  (faithful.append_code ")" (by decide)).code_cons "(" (by decide)

end Faithful

namespace FaithfulItems

variable {contents others : Contents} {items more : List Template}

theorem commaList (faithful : FaithfulItems contents items) :
    Faithful contents (Template.commaList items) := by
  induction faithful with
  | nil => exact .empty
  | @cons contents others first rest isFaithful faithfulRest ih =>
      cases faithfulRest with
      | nil =>
          rw [Contents.append_empty]
          exact isFaithful
      | cons second more => exact isFaithful.append (ih.code_cons ", " (by decide))

theorem listClause (faithful : FaithfulItems contents items) (keyword : String)
    (free : '%' ∉ keyword.toList) : Faithful contents (Sql.listClause keyword items) := by
  have joined := faithful.commaList
  cases faithful with
  | nil => exact joined
  | cons first rest => exact joined.code_cons keyword free

theorem append (faithful : FaithfulItems contents items) (following : FaithfulItems others more) :
    FaithfulItems (contents ++ others) (items ++ more) := by
  induction faithful with
  | nil => exact following
  | @cons contents inner first rest isFaithful _ ih =>
      have assoc : contents ++ inner ++ others = contents ++ (inner ++ others) := by
        change Contents.append (Contents.append contents inner) others =
          Contents.append contents (Contents.append inner others)
        simp [Contents.append]
      rw [assoc]
      exact .cons isFaithful ih

theorem single {template : Template} (faithful : Faithful contents template) :
    FaithfulItems contents [template] := by
  have item := FaithfulItems.cons faithful .nil
  rwa [Contents.append_empty] at item

end FaithfulItems

theorem Template.filled_of_unbound {template : Template} (unbound : template.bindings = []) :
    template.filled = template.content fun _ => [] := by
  rw [Template.filled, Template.content, List.flatMap_def, List.flatMap_def]
  congr 1
  refine List.map_congr_left fun piece member => ?_
  cases piece with
  | code | plain | unwritten => rfl
  | bind name value =>
      have bound : (name, value) ∈ template.bindings := List.mem_filterMap.mpr ⟨_, member, rfl⟩
      rw [unbound] at bound
      contradiction

def Expr.contents (expression : Expr) : Contents :=
  ⟨expression.ingredients.flatMap Ingredient.strings,
    (typesOf expression.spellings).map fun type => type.render.toList, expression.spellings, []⟩

def Select.contents (select : Select) : Contents :=
  ⟨select.ingredients.flatMap Ingredient.strings,
    (typesOf select.spellings).map fun type => type.render.toList, select.spellings, []⟩

theorem MadeOf.faithful {makeup : Makeup} {bound literal : Template}
    (made : MadeOf makeup bound literal) :
    Faithful ⟨makeup.ingredients.flatMap Ingredient.strings,
      (typesOf makeup.spellings).map fun type => type.render.toList, makeup.spellings, []⟩
      literal := by
  refine ⟨made.quotes, fun sound => ?_⟩
  obtain ⟨-, percents⟩ := made.percentOnlyIn sound.1
  rw [Template.filled_of_unbound made.unbound]
  exact (percents.keeps made.unbound fun _ => []).congr (by simp [Contents.AllKept])

def RetentionAction.contents : RetentionAction → Contents
  | delete => .empty
  | toDisk disk => .parameter disk
  | toVolume volume => .parameter volume

def RetentionRule.contents (rule : RetentionRule) : Contents :=
  rule.moment.contents ++ .join (rule.action.toList.map RetentionAction.contents)

def Replication.strings (replication : Replication) : List String :=
  [replication.path, replication.replica]

def Merging.contents : Merging → Contents
  | graphite config => .parameter config
  | _ => .empty

def MergeTree.parameterContents (tree : MergeTree) : Contents :=
  .join ((tree.replication.toList.flatMap Replication.strings).map .parameter) ++
    tree.merging.contents

def MergeTree.clauseContents (tree : MergeTree) : Contents :=
  .join (tree.partitionBy.map Expr.contents) ++ .join (tree.orderBy.map Expr.contents) ++
    .join (tree.primaryKey.map Expr.contents) ++ .join (tree.sampleBy.map Expr.contents) ++
    .join (tree.retention.map RetentionRule.contents) ++
    .join (tree.settings.map fun setting => .code (setting.1 ++ "=" ++ setting.2))

def DistributedTable.contents (distributed : DistributedTable) : Contents :=
  .join ([distributed.cluster, distributed.database, distributed.table].map .parameter) ++
    .join (distributed.shardingKey.toList.map Expr.contents)

def BufferTable.contents (buffer : BufferTable) : Contents :=
  .join ([buffer.database, buffer.table].map .parameter)

def Engine.contents : Engine → Contents
  | mergeTree tree => tree.parameterContents ++ tree.clauseContents
  | distributed table => table.contents
  | buffer table => table.contents
  | file _ | log | tinyLog | memory | null | view | materializedView => .empty

section

variable (quoting : QuoteStyle)

theorem Expr.faithful (expression : Expr) :
    IfOk (Faithful expression.contents) (expression.sql (Ddl.inlineStyle quoting)) := by
  apply IfOk.intro
  intro template written
  obtain ⟨_, _, made⟩ := (expression.sql_made quoting).of_right written
  exact made.made.faithful

theorem Select.faithful (select : Select) :
    IfOk (Faithful select.contents) (select.sql (Ddl.inlineStyle quoting)) := by
  apply IfOk.intro
  intro template written
  obtain ⟨_, _, made⟩ := (select.sql_made quoting).of_right written
  exact made.faithful

theorem sqlItems_faithful (keys : List Expr) :
    IfOk (FaithfulItems (.join (keys.map Expr.contents)))
      (sqlItems (Ddl.inlineStyle quoting) keys) := by
  induction keys with
  | nil => exact FaithfulItems.nil
  | cons key rest ih =>
      apply (key.faithful quoting).bind
      intro first faithful
      apply ih.bind
      intro items others
      exact FaithfulItems.cons faithful others

theorem keyClause_faithful (keyword : String) (free : '%' ∉ keyword.toList) (keys : List Expr) :
    IfOk (Faithful (.join (keys.map Expr.contents)))
      (Sql.keyClause (Ddl.inlineStyle quoting) keyword keys) := by
  match keys with
  | [] => exact Faithful.empty
  | [key] =>
      apply (key.faithful quoting).bind
      intro template faithful
      have single := FaithfulItems.cons faithful .nil
      exact single.commaList.code_cons keyword free
  | first :: second :: rest =>
      apply (sqlItems_faithful quoting (first :: second :: rest)).bind
      intro items faithful
      exact faithful.commaList.parenthesized.code_cons keyword free

theorem RetentionAction.faithful (action : RetentionAction) :
    Faithful action.contents action.sql := by
  cases action with
  | delete => exact .word " DELETE" (by decide)
  | toDisk disk => exact (Faithful.parameter disk).code_cons " TO DISK " (by decide)
  | toVolume volume => exact (Faithful.parameter volume).code_cons " TO VOLUME " (by decide)

theorem RetentionRule.faithful (rule : RetentionRule) :
    IfOk (Faithful rule.contents) (rule.sql (Ddl.inlineStyle quoting)) := by
  obtain ⟨moment, action⟩ := rule
  apply (moment.faithful quoting).bind
  intro template faithful
  cases action with
  | none =>
      change Faithful (moment.contents ++ .empty) _
      rwa [Contents.append_empty]
  | some action =>
      have item := FaithfulItems.cons action.faithful .nil
      exact faithful.append item.commaList

theorem sqlRetention_faithful (rules : List RetentionRule) :
    IfOk (FaithfulItems (.join (rules.map RetentionRule.contents)))
      (sqlRetention (Ddl.inlineStyle quoting) rules) := by
  induction rules with
  | nil => exact FaithfulItems.nil
  | cons rule rest ih =>
      apply (rule.faithful quoting).bind
      intro first faithful
      apply ih.bind
      intro items others
      exact FaithfulItems.cons faithful others

theorem settings_faithful (settings : List (String × String)) :
    FaithfulItems (.join (settings.map fun setting => .code (setting.1 ++ "=" ++ setting.2)))
      (settings.map settingSql) := by
  induction settings with
  | nil => exact .nil
  | cons setting rest ih => exact .cons (.code _) ih

theorem MergeTree.clauses_faithful (tree : MergeTree) :
    IfOk (Faithful tree.clauseContents) (tree.clauses (Ddl.inlineStyle quoting)) := by
  apply (keyClause_faithful quoting " PARTITION BY " (by decide) tree.partitionBy).bind
  intro _ partitionBy
  apply (keyClause_faithful quoting " ORDER BY " (by decide) tree.orderBy).bind
  intro _ orderBy
  apply (keyClause_faithful quoting " PRIMARY KEY " (by decide) tree.primaryKey).bind
  intro _ primaryKey
  apply (keyClause_faithful quoting " SAMPLE BY " (by decide) tree.sampleBy).bind
  intro _ sampleBy
  apply (sqlRetention_faithful quoting tree.retention).bind
  intro _ rules
  have keys := ((partitionBy.append orderBy).append primaryKey).append sampleBy
  have retention := rules.listClause " TTL " (by decide)
  have settings := (settings_faithful tree.settings).listClause " SETTINGS " (by decide)
  exact (keys.append retention).append settings

theorem names_faithful (names : List String) :
    FaithfulItems .empty (names.map fun column => Sql.name (Ddl.inlineStyle quoting) column) := by
  induction names with
  | nil => exact .nil
  | cons name rest ih => exact FaithfulItems.cons (.plain _) ih

theorem literals_faithful (strings : List String) :
    FaithfulItems (.join (strings.map .parameter)) (strings.map Sql.literalParameter) := by
  induction strings with
  | nil => exact .nil
  | cons string rest ih => exact .cons (.parameter string) ih

theorem Merging.faithful (merging : Merging) :
    FaithfulItems merging.contents (merging.parameters (Ddl.inlineStyle quoting)) := by
  cases merging with
  | plain | aggregating => exact .nil
  | summing columns =>
      cases columns with
      | nil => exact .nil
      | cons first rest =>
          exact .single (names_faithful quoting (first :: rest)).commaList.parenthesized
  | replacing version => exact names_faithful quoting version.toList
  | collapsing sign => exact names_faithful quoting [sign]
  | versionedCollapsing sign version => exact names_faithful quoting [sign, version]
  | graphite config => exact .single (.parameter config)

theorem numbers_faithful (numbers : List UInt64) :
    FaithfulItems .empty (numbers.map fun value => Template.code (Sql.number value)) := by
  induction numbers with
  | nil => exact .nil
  | cons value rest ih => exact FaithfulItems.cons (.word _ (free_repr value.toNat)) ih

theorem MergeTree.parameters_faithful (tree : MergeTree) :
    FaithfulItems tree.parameterContents (tree.parameters (Ddl.inlineStyle quoting)) := by
  obtain ⟨merging, replication, _⟩ := tree
  cases replication with
  | none => exact (literals_faithful []).append (merging.faithful quoting)
  | some replication =>
      exact (literals_faithful replication.strings).append (merging.faithful quoting)

theorem DistributedTable.faithful (distributed : DistributedTable) :
    IfOk (FaithfulItems distributed.contents)
      (distributed.parameters (Ddl.inlineStyle quoting)) := by
  obtain ⟨cluster, database, table, shardingKey⟩ := distributed
  have names := literals_faithful [cluster, database, table]
  cases shardingKey with
  | none => exact names.append .nil
  | some key =>
      apply (key.faithful quoting).bind
      intro template faithful
      exact names.append (FaithfulItems.cons faithful .nil)

theorem BufferTable.faithful (buffer : BufferTable) :
    FaithfulItems buffer.contents buffer.parameters :=
  (literals_faithful [buffer.database, buffer.table]).append (numbers_faithful _)

theorem free_engineName (tree : MergeTree) : '%' ∉ tree.name.toList := by
  have free : '%' ∉ tree.merging.name.toList := by
    cases tree.merging <;> simp only [Merging.name] <;> decide
  unfold MergeTree.name
  split
  · exact free_append _ _ (by decide) free
  · exact free

theorem Engine.faithful (engine : Engine) :
    IfOk (Faithful engine.contents) (engine.sql (Ddl.inlineStyle quoting)) := by
  cases engine with
  | mergeTree tree =>
      have parameters := (tree.parameters_faithful quoting).commaList.parenthesized
      apply (tree.clauses_faithful quoting).bind
      intro template clauses
      exact (parameters.append clauses).code_cons tree.name (free_engineName tree)
  | distributed table =>
      have items := table.faithful quoting
      simp only [Engine.sql, Engine.parameters?]
      cases written : table.parameters (Ddl.inlineStyle quoting) with
      | error error => trivial
      | ok parameters =>
          exact (items.of_ok written).commaList.parenthesized.code_cons "Distributed" (by decide)
  | buffer table => exact table.faithful.commaList.parenthesized.code_cons "Buffer" (by decide)
  | file format =>
      have item := FaithfulItems.single (.word format.name (by cases format <;> decide))
      exact item.commaList.parenthesized.code_cons "File" (by decide)
  | log | tinyLog | memory | null | view | materializedView => exact Faithful.word _ (by decide)

end

end ClickHouse
