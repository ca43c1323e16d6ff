import ClickHouse.Engine.Definition
import ClickHouse.Proofs.Outcome

/-!
Which definitions of engines name a format that is not known. Only the family of files has formats,
so every error of another family is one that a catalog can pass over (`read_eq_unknownFormat_iff`).
-/

namespace ClickHouse

open Lexeme

def DefinitionError.IsFormatless (error : DefinitionError) : Prop :=
  ∀ format, error ≠ .unknownFormat format

theorem FileFormat.mem_all (format : FileFormat) : format ∈ all := by
  cases format <;> decide

theorem FileFormat.ofName_eq_error_iff (name : String) (error : DefinitionError) :
    ofName name = .error error ↔
      error = .unknownFormat name ∧ ∀ format : FileFormat, format.name ≠ name := by
  rw [ofName]
  cases found : all.find? fun format => format.name = name with
  | some format =>
      have known := List.find?_some found
      simp only [decide_eq_true_eq] at known
      simp only [reduceCtorEq, false_iff, not_and]
      intro _ absent
      exact absent format known
  | none =>
      have absent : ∀ format : FileFormat, format.name ≠ name := by
        intro format same
        have excluded := List.find?_eq_none.mp found format (mem_all format)
        simp [same] at excluded
      simp only [Except.error.injEq]
      constructor
      · intro same
        exact ⟨same.symm, absent⟩
      · rintro ⟨same, _⟩
        exact same.symm

namespace EngineDefinition

abbrev Formatless {α : Type} (reading : Reading α) : Prop :=
  FailsOnly DefinitionError.IsFormatless reading

theorem formatless_ok {α : Type} (value : α) : Formatless (.ok value) :=
  trivial

theorem formatless_malformedEngine {α : Type} (cause : SyntaxError) :
    Formatless (.error (.malformedEngine cause) : Reading α) := by
  intro format
  simp

theorem formatless_invalidParameters {α : Type} (reason : String) :
    Formatless (.error (.invalidParameters reason) : Reading α) := by
  intro format
  simp

theorem formatless_malformed {α : Type} (result : Except SyntaxError α) :
    Formatless (malformed result) := by
  cases result with
  | ok value => exact formatless_ok value
  | error cause => exact formatless_malformedEngine cause

theorem formatless_head (record : EngineRecord) (whole : String) :
    Formatless (head record whole) := by
  apply (formatless_malformed _).bind
  intro scan
  split
  · exact formatless_ok _
  · split
    · split
      · exact formatless_ok _
      · split
        · split
          · exact formatless_invalidParameters _
          · exact (formatless_malformed _).bind fun _ => formatless_ok _
        · exact formatless_ok _
    · exact formatless_invalidParameters _

theorem formatless_keysOf (columns : List String) (keys : String) :
    Formatless (keysOf columns keys) := by
  rw [keysOf]
  split
  · exact formatless_malformedEngine _
  · exact formatless_ok _

theorem formatless_settingsIn (clauses : List (Clause × String)) :
    Formatless (settingsIn clauses) := by
  rw [settingsIn]
  split
  · exact formatless_ok _
  · split
    · exact formatless_malformedEngine _
    · exact formatless_ok _

theorem formatless_retentionIn (clauses : List (Clause × String)) :
    Formatless (retentionIn clauses) := by
  rw [retentionIn]
  split
  · exact formatless_ok _
  · split
    · exact formatless_malformedEngine _
    · exact formatless_ok _

theorem formatless_mergeTree (record : EngineRecord) (columns : List String) (merging : Merging)
    (replication : Option Replication) (tail : String) :
    Formatless (mergeTree record columns merging replication tail) := by
  apply (formatless_malformed _).bind
  intro clauses
  apply (formatless_settingsIn clauses).bind
  intro settings
  apply (formatless_retentionIn clauses).bind
  intro retention
  apply (formatless_keysOf columns record.partitionKey).bind
  intro partitionBy
  apply (formatless_keysOf columns record.sortingKey).bind
  intro orderBy
  apply (formatless_keysOf columns record.primaryKey).bind
  intro primaryKey
  apply (formatless_keysOf columns record.samplingKey).bind
  intro sampleBy
  exact formatless_ok _

theorem formatless_required (family role : String) (parameters : List String) (index : Nat) :
    Formatless (required family role parameters index) := by
  rw [required]
  split
  · exact formatless_ok _
  · exact formatless_invalidParameters _

theorem formatless_summedColumns (parameters : List String) :
    Formatless (summedColumns parameters) := by
  rw [summedColumns.eq_def]
  split
  · exact formatless_ok _
  · split
    · exact formatless_malformedEngine _
    · exact formatless_ok _

theorem formatless_merging? (name : String) (parameters : List String)
    (reading : Reading Merging) (member : merging? name parameters = some reading) :
    Formatless reading := by
  have required := formatless_required name
  rw [merging?] at member
  split at member
  · obtain rfl := Option.some.inj member
    exact formatless_ok _
  split at member
  · obtain rfl := Option.some.inj member
    exact formatless_ok _
  split at member
  · obtain rfl := Option.some.inj member
    exact (formatless_summedColumns parameters).map _
  split at member
  · obtain rfl := Option.some.inj member
    exact formatless_ok _
  split at member
  · obtain rfl := Option.some.inj member
    exact (required _ _ _).map _
  split at member
  · obtain rfl := Option.some.inj member
    exact (required _ _ _).bind fun _ => (required _ _ _).bind fun _ => formatless_ok _
  split at member
  · obtain rfl := Option.some.inj member
    exact (required _ _ _).map _
  · contradiction

theorem formatless_mergeTreeOf? (record : EngineRecord) (columns : List String) (head : Head)
    (reading : Reading MergeTree) (member : mergeTreeOf? record columns head = some reading) :
    Formatless reading := by
  rw [mergeTreeOf?] at member
  split at member
  · obtain ⟨merging, isMember, rfl⟩ := Option.map_eq_some_iff.mp member
    exact (formatless_merging? _ _ _ isMember).bind fun _ => formatless_mergeTree _ _ _ _ _
  · split at member
    · obtain ⟨merging, isMember, rfl⟩ := Option.map_eq_some_iff.mp member
      exact (formatless_merging? _ _ _ isMember).bind fun _ => formatless_mergeTree _ _ _ _ _
    · split at member
      · obtain rfl := Option.some.inj member
        exact formatless_invalidParameters _
      · contradiction

theorem formatless_bufferNumber (parameters : List String) (index : Nat) :
    Formatless (bufferNumber parameters index) := by
  rw [bufferNumber]
  split
  · exact formatless_ok _
  · exact formatless_invalidParameters _

theorem formatless_bufferNumber? (parameters : List String) (index : Nat) :
    Formatless (bufferNumber? parameters index) := by
  rw [bufferNumber?]
  split
  · exact (formatless_bufferNumber parameters index).map _
  · exact formatless_ok _

theorem formatless_buffer (parameters : List String) : Formatless (buffer parameters) := by
  have number := fun index => formatless_bufferNumber parameters index
  have number? := fun index => formatless_bufferNumber? parameters index
  rw [buffer]
  split
  · exact formatless_invalidParameters _
  · apply (number 2).bind
    intro layers
    apply (number 3).bind
    intro minTime
    apply (number 4).bind
    intro maxTime
    apply (number 5).bind
    intro minRows
    apply (number 6).bind
    intro maxRows
    apply (number 7).bind
    intro minBytes
    apply (number 8).bind
    intro maxBytes
    apply (number? 9).bind
    intro flushTime
    apply (number? 10).bind
    intro flushRows
    apply (number? 11).bind
    intro flushBytes
    exact formatless_ok _

theorem formatless_distributed (whole : String) (columns parameters : List String) :
    Formatless (distributed whole columns parameters) := by
  rw [distributed.eq_def]
  split
  · exact formatless_ok _
  · exact formatless_invalidParameters _

def formatName (head : Head) : String :=
  (head.parameters.head?.map parameterText).getD ""

theorem formatless_ofHead (record : EngineRecord) (columns : List String) (whole : String)
    (head : Head) (isOther : head.name ≠ "File") :
    Formatless (ofHead record columns whole head) := by
  rw [ofHead, if_neg isOther]
  split
  · exact (formatless_distributed whole columns head.parameters).map _
  split
  · exact (formatless_buffer head.parameters).map _
  iterate 6
    split
    · exact formatless_ok _
  split
  · exact formatless_ok _
  · rename_i reading member
    exact (formatless_mergeTreeOf? record columns head reading member).map _

theorem ofHead_eq_unknownFormat_iff (record : EngineRecord) (columns : List String)
    (whole : String) (head : Head) (format : String) :
    ofHead record columns whole head = .error (.unknownFormat format) ↔
      head.name = "File" ∧ formatName head = format ∧
        ∀ known : FileFormat, known.name ≠ format := by
  by_cases isFile : head.name = "File"
  · rw [ofHead, if_pos isFile, map_eq_error_iff]
    constructor
    · intro refused
      obtain ⟨same, absent⟩ := (FileFormat.ofName_eq_error_iff _ _).mp refused
      obtain rfl := DefinitionError.unknownFormat.inj same
      exact ⟨isFile, rfl, absent⟩
    · rintro ⟨_, rfl, absent⟩
      exact (FileFormat.ofName_eq_error_iff _ _).mpr ⟨rfl, absent⟩
  · have other := formatless_ofHead record columns whole head isFile
    constructor
    · intro refused
      exact absurd rfl (other.of_error refused format)
    · rintro ⟨isName, _⟩
      exact absurd isName isFile

end EngineDefinition

open EngineDefinition

/-- A definition is refused for its format when it can be read as one of a file whose format has
no known name, and only then. -/
theorem EngineRecord.read_eq_unknownFormat_iff (record : EngineRecord) (columns : List String)
    (format : String) :
    record.read columns = .error (.unknownFormat format) ↔
      ∃ head, EngineDefinition.head record (Text.trim record.definition) = .ok head ∧
        head.name = "File" ∧ formatName head = format ∧
        ∀ known : FileFormat, known.name ≠ format := by
  have formatless := formatless_head record (Text.trim record.definition)
  rw [EngineRecord.read]
  cases readable : EngineDefinition.head record (Text.trim record.definition) with
  | error cause =>
      constructor
      · intro refused
        exact absurd (Except.error.inj refused) (formatless.of_error readable format)
      · rintro ⟨head, ⟨⟩, _⟩
  | ok head =>
      simp only [bind, Except.bind, Except.ok.injEq, exists_eq_left']
      exact ofHead_eq_unknownFormat_iff record columns _ head format

end ClickHouse
