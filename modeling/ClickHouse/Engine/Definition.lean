import ClickHouse.Decimal.Reader
import ClickHouse.Engine
import ClickHouse.Lexeme.Group

/-!
Reading an engine from what the catalog says of a table: the full definition and the texts of its
keys. A family that is not known is no error.
-/

namespace ClickHouse

structure EngineRecord where
  engine : String
  definition : String
  partitionKey : String
  sortingKey : String
  primaryKey : String
  samplingKey : String
  deriving DecidableEq, Repr, Inhabited

def EngineRecord.fields (record : EngineRecord) : List (String × String) :=
  [("engine", record.engine), ("engine_full", record.definition),
    ("partition_key", record.partitionKey), ("sorting_key", record.sortingKey),
    ("primary_key", record.primaryKey), ("sampling_key", record.samplingKey)]

namespace EngineDefinition

open Lexeme

abbrev Reading (α : Type) := Except DefinitionError α

def malformed {α : Type} : Except SyntaxError α → Reading α
  | .ok result => .ok result
  | .error cause => .error (.malformedEngine cause)

def stripMarks (isMark : Char → Bool) (text : List Char) : List Char :=
  ((text.dropWhile isMark).reverse.dropWhile isMark).reverse

/-- The content of a parameter: a literal is resolved, quotes around a name are dropped. -/
def parameterText (parameter : String) : String :=
  let trimmed := Text.trim parameter
  if trimmed.toList.head? = some '\x27' then
    match unquote trimmed with
    | .ok text => text
    | .error _ => String.ofList (stripMarks (fun c => c = '\x27') trimmed.toList)
  else String.ofList (stripMarks (fun c => c = '\x60' || c = '\x22') trimmed.toList)

/-- A key that names a column is that column; any other key is kept as it is written. -/
def keyOf (columns : List String) (key : String) : Expr :=
  let trimmed := Text.trim key
  let name := String.ofList (stripMarks (fun c => c = '\x60') trimmed.toList)
  if columns.contains name then .named name else .raw trimmed

def keysOf (columns : List String) (keys : String) : Reading (List Expr) :=
  match splitTopLevel keys with
  | .error cause => .error (.malformedEngine cause)
  | .ok parts => .ok (parts.map (keyOf columns))

inductive Clause where
  | partitionBy
  | orderBy
  | primaryKey
  | sampleBy
  | ttl
  | settings
  deriving DecidableEq, Repr, Inhabited

def Clause.words : Clause → List String
  | partitionBy => ["PARTITION", "BY"]
  | orderBy => ["ORDER", "BY"]
  | primaryKey => ["PRIMARY", "KEY"]
  | sampleBy => ["SAMPLE", "BY"]
  | ttl => ["TTL"]
  | settings => ["SETTINGS"]

def Clause.all : List Clause :=
  [partitionBy, orderBy, primaryKey, sampleBy, ttl, settings]

def dropWords? : List String → List Lexeme → Option (List Lexeme)
  | [], rest => some rest
  | _ :: _, [] => none
  | word :: words, lexeme :: rest =>
    if lexeme.kind = .word ∧ lexeme.spelling = word then dropWords? words rest else none

/-- The clause whose keyword stands first. -/
def clauseAt? (lexemes : List Lexeme) : Option Clause :=
  Clause.all.find? fun clause => (dropWords? clause.words lexemes).isSome

/-- The clauses and their bodies, in order, after the lexemes before the first clause. The count
says how many lexemes of a keyword are still to be passed over. -/
def splitClausesFrom : Nat → Nat → List Lexeme → List Lexeme × List (Clause × List Lexeme)
  | _, _, [] => ([], [])
  | skip + 1, depth, _ :: rest => splitClausesFrom skip depth rest
  | 0, depth, lexeme :: rest =>
    if lexeme.kind.opens then
      let (body, clauses) := splitClausesFrom 0 (depth + 1) rest
      (lexeme :: body, clauses)
    else if lexeme.kind.closes then
      let (body, clauses) := splitClausesFrom 0 (depth - 1) rest
      (lexeme :: body, clauses)
    else
      match (if depth = 0 then clauseAt? (lexeme :: rest) else none) with
      | some clause =>
        let (body, clauses) := splitClausesFrom (clause.words.length - 1) depth rest
        ([], (clause, body) :: clauses)
      | none =>
        let (body, clauses) := splitClausesFrom 0 depth rest
        (lexeme :: body, clauses)

def splitClauses (text : String) : Except SyntaxError (List (Clause × String)) :=
  match scan text with
  | .error cause => .error cause
  | .ok scan =>
    .ok ((splitClausesFrom 0 0 scan.lexemes).2.map fun entry =>
      (entry.1, String.ofList (Text.trimChars (sourceOf entry.2))))

/-- The body of a clause; of several the last one counts. -/
def bodyOf? (clauses : List (Clause × String)) (clause : Clause) : Option String :=
  clauses.reverse.lookup clause

def splitLast? (marker : List Char) : List Char → Option (List Char × List Char)
  | [] => none
  | c :: rest =>
    match splitLast? marker rest with
    | some (before, after) => some (c :: before, after)
    | none =>
      if marker.isPrefixOf (c :: rest) then some ([], (c :: rest).drop marker.length) else none

def rawTrimmed (text : List Char) : Expr :=
  .raw (String.ofList (Text.trimChars text))

def retentionRule (text : String) : RetentionRule :=
  let chars := Text.trimChars text.toList
  if " DELETE".toList.isSuffixOf chars then
    ⟨rawTrimmed (chars.take (chars.length - 7)), some .delete⟩
  else
    match splitLast? " TO DISK ".toList chars with
    | some (moment, disk) =>
      ⟨rawTrimmed moment, some (.toDisk (parameterText (String.ofList disk)))⟩
    | none =>
      match splitLast? " TO VOLUME ".toList chars with
      | some (moment, volume) =>
        ⟨rawTrimmed moment, some (.toVolume (parameterText (String.ofList volume)))⟩
      | none => ⟨.raw (String.ofList chars), none⟩

/-- A key and a value with the first equals sign between them. -/
def setting? (text : String) : Option (String × String) :=
  let chars := text.toList
  let key := chars.takeWhile fun c => c ≠ '='
  match chars.dropWhile fun c => c ≠ '=' with
  | [] => none
  | _ :: value =>
    some (String.ofList (Text.trimChars key), String.ofList (Text.trimChars value))

def settingsIn (clauses : List (Clause × String)) : Reading (List (String × String)) :=
  match bodyOf? clauses .settings with
  | none => .ok []
  | some body =>
    match splitTopLevel body with
    | .error cause => .error (.malformedEngine cause)
    | .ok parts => .ok (settingsOf (parts.filterMap setting?))

def retentionIn (clauses : List (Clause × String)) : Reading (List RetentionRule) :=
  match bodyOf? clauses .ttl with
  | none => .ok []
  | some body =>
    match splitTopLevel body with
    | .error cause => .error (.malformedEngine cause)
    | .ok parts => .ok (parts.map retentionRule)

/-- The parameter at a position, which a family cannot do without. -/
def required (family role : String) (parameters : List String) (index : Nat) : Reading String :=
  match parameters[index]? with
  | some parameter => .ok (parameterText parameter)
  | none => .error (.invalidParameters (family ++ " requires a " ++ role ++ " parameter"))

/-- The inside of a parenthesized text; any other text as it is. -/
def withoutParentheses (text : String) : String :=
  match (Text.trimChars text.toList) with
  | '(' :: rest =>
    if rest.getLast? = some ')' then String.ofList rest.dropLast
    else String.ofList ('(' :: rest)
  | chars => String.ofList chars

def summedColumns (parameters : List String) : Reading (List String) :=
  match parameters with
  | [] => .ok []
  | first :: _ =>
    match splitTopLevel (withoutParentheses first) with
    | .error cause => .error (.malformedEngine cause)
    | .ok parts => .ok (parts.map parameterText)

def merging? (name : String) (parameters : List String) : Option (Reading Merging) :=
  if name = "MergeTree" then some (.ok .plain)
  else if name = "AggregatingMergeTree" then some (.ok .aggregating)
  else if name = "SummingMergeTree" then
    some ((summedColumns parameters).map .summing)
  else if name = "ReplacingMergeTree" then
    some (.ok (.replacing (parameters.head?.map parameterText)))
  else if name = "CollapsingMergeTree" then
    some ((required name "sign" parameters 0).map .collapsing)
  else if name = "VersionedCollapsingMergeTree" then
    some (do
      let sign ← required name "sign" parameters 0
      let version ← required name "version" parameters 1
      return .versionedCollapsing sign version)
  else if name = "GraphiteMergeTree" then
    some ((required name "config name" parameters 0).map .graphite)
  else none

def isMergeTree (name : String) : Bool :=
  (merging? name []).isSome

def unreplicated? (name : String) : Option String :=
  if "Replicated".toList.isPrefixOf name.toList then some (String.ofList (name.toList.drop 10))
  else none

def mergeTree (record : EngineRecord) (columns : List String) (merging : Merging)
    (replication : Option Replication) (tail : String) : Reading MergeTree := do
  let clauses ← malformed (splitClauses tail)
  let settings ← settingsIn clauses
  let retention ← retentionIn clauses
  let partitionBy ← keysOf columns record.partitionKey
  let orderBy ← keysOf columns record.sortingKey
  let primaryKey ← keysOf columns record.primaryKey
  let sampleBy ← keysOf columns record.samplingKey
  return ⟨merging, replication, partitionBy, orderBy, primaryKey, sampleBy, retention, settings⟩

def bufferNumber (parameters : List String) (index : Nat) : Reading UInt64 :=
  let parameter := parameters[index]?.getD ""
  match Decimal.readUInt64? (Text.trimChars parameter.toList) with
  | some value => .ok (UInt64.ofNat value)
  | none => .error (.invalidParameters ("Buffer parameter " ++ parameter ++ " is not a number"))

def bufferNumber? (parameters : List String) (index : Nat) : Reading (Option UInt64) :=
  if index < parameters.length then (bufferNumber parameters index).map some else .ok none

def buffer (parameters : List String) : Reading BufferTable := do
  if parameters.length < 9 ∨ 12 < parameters.length then
    .error (.invalidParameters
      ("Buffer expects 9 to 12 parameters, got " ++ Nat.repr parameters.length))
  let layers ← bufferNumber parameters 2
  let minTime ← bufferNumber parameters 3
  let maxTime ← bufferNumber parameters 4
  let minRows ← bufferNumber parameters 5
  let maxRows ← bufferNumber parameters 6
  let minBytes ← bufferNumber parameters 7
  let maxBytes ← bufferNumber parameters 8
  let flushTime ← bufferNumber? parameters 9
  let flushRows ← bufferNumber? parameters 10
  let flushBytes ← bufferNumber? parameters 11
  return {
    database := parameterText (parameters[0]?.getD "")
    table := parameterText (parameters[1]?.getD "")
    layers, minTime, maxTime, minRows, maxRows, minBytes, maxBytes, flushTime, flushRows,
    flushBytes }

def distributed (whole : String) (columns : List String) :
    List String → Reading DistributedTable
  | cluster :: database :: table :: rest =>
    .ok ⟨parameterText cluster, parameterText database, parameterText table,
      rest.head?.map (keyOf columns)⟩
  | _ =>
    .error (.invalidParameters ("Distributed expects at least 3 parameters: " ++ whole))

structure Head where
  name : String
  parameters : List String
  tail : String
  deriving Repr

def head (record : EngineRecord) (whole : String) : Reading Head := do
  let scan ← malformed (scan whole)
  match scan.lexemes with
  | [] => return ⟨Text.trim record.engine, [], ""⟩
  | first :: rest =>
    if first.kind = .word then
      match rest with
      | [] => return ⟨first.spelling, [], String.ofList scan.trailing⟩
      | next :: inside =>
        if next.kind = .openRound then
          match group? 0 inside with
          | none =>
            .error (.invalidParameters ("unbalanced parentheses in '" ++ whole ++ "'"))
          | some group =>
            let parameters ← malformed
              (splitTopLevel (String.ofList (sourceOf group.inside ++ group.close.gap)))
            return ⟨first.spelling, parameters,
              String.ofList (sourceOf group.after ++ scan.trailing)⟩
        else
          return ⟨first.spelling, [], String.ofList (sourceOf (next :: inside) ++ scan.trailing)⟩
    else
      .error (.invalidParameters ("expected an engine name, found '" ++ first.spelling ++ "'"))

/-- A member of the merge-tree family with its replication; none for another family. -/
def mergeTreeOf? (record : EngineRecord) (columns : List String) (head : Head) :
    Option (Reading MergeTree) :=
  match unreplicated? head.name with
  | none =>
    (merging? head.name head.parameters).map fun reading => do
      let merging ← reading
      mergeTree record columns merging none head.tail
  | some name =>
    match head.parameters with
    | path :: replica :: parameters =>
      (merging? name parameters).map fun reading => do
        let merging ← reading
        mergeTree record columns merging
          (some ⟨parameterText path, parameterText replica⟩) head.tail
    | _ =>
      if isMergeTree name then
        some (.error (.invalidParameters
          (head.name ++ " requires a path and a replica name")))
      else none

def ofHead (record : EngineRecord) (columns : List String) (whole : String) (head : Head) :
    Reading (Option Engine) :=
  if head.name = "File" then
    (FileFormat.ofName ((head.parameters.head?.map parameterText).getD "")).map
      fun format => some (.file format)
  else if head.name = "Distributed" then
    (distributed whole columns head.parameters).map fun table => some (.distributed table)
  else if head.name = "Buffer" then
    (buffer head.parameters).map fun table => some (.buffer table)
  else if head.name = "Log" then .ok (some .log)
  else if head.name = "TinyLog" then .ok (some .tinyLog)
  else if head.name = "Memory" then .ok (some .memory)
  else if head.name = "Null" then .ok (some .null)
  else if head.name = "View" then .ok (some .view)
  else if head.name = "MaterializedView" then .ok (some .materializedView)
  else
    match mergeTreeOf? record columns head with
    | none => .ok none
    | some reading => reading.map fun tree => some (.mergeTree tree)

end EngineDefinition

open EngineDefinition

def EngineRecord.read (record : EngineRecord) (columns : List String) :
    Except DefinitionError (Option Engine) := do
  let whole := Text.trim record.definition
  let head ← head record whole
  ofHead record columns whole head

def EngineRecord.warnings (record : EngineRecord) (columns : List String) : List String :=
  match record.read columns, head record (Text.trim record.definition) with
  | .ok none, .ok head =>
    ["Unknown engine '" ++ head.name ++ "', leaving table engine empty"]
  | _, _ => []

end ClickHouse
