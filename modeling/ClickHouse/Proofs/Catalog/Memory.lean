import ClickHouse.Proofs.Catalog.Recreation
import Mathlib.Data.List.Induction

/-!
A memory over a run of requests and clearings. A request whose table has been described since the
last clearing is answered with that table and without a question; any other request is answered
as by a memory that is new (`answer_remembers`).
-/

namespace ClickHouse.CatalogMemory

/-- A request comes with the answers that its connection will give. -/
inductive Step where
  | request (key : MemoryKey) (server : Server)
  | clear

def Step.apply (dialect : Dialect) (memory : CatalogMemory) : Step → CatalogMemory
  | request key server => ((memory.describe dialect key).run server []).result.2
  | clear => empty

/-- The memory after some steps, empty before the first. -/
def after (dialect : Dialect) (steps : List Step) : CatalogMemory :=
  steps.foldl (Step.apply dialect) empty

def answer (dialect : Dialect) (steps : List Step) (key : MemoryKey) (server : Server) :
    Transcript (Except Failure DescribedTable) :=
  let transcript := ((after dialect steps).describe dialect key).run server []
  ⟨transcript.result.1, transcript.executed, transcript.warnings⟩

/-- A request for the key came to the table, and nothing has been cleared since. -/
def DescribedSince (dialect : Dialect) (steps : List Step) (key : MemoryKey)
    (table : DescribedTable) : Prop :=
  ∃ earlier server later, steps = earlier ++ .request key server :: later ∧
    Step.clear ∉ later ∧ (answer dialect earlier key server).result = .ok table

/-- The first request for the key that has succeeded since the last clearing came to the table. -/
def FirstDescribedSince (dialect : Dialect) (steps : List Step) (key : MemoryKey)
    (table : DescribedTable) : Prop :=
  ∃ earlier server later, steps = earlier ++ .request key server :: later ∧
    Step.clear ∉ later ∧ (answer dialect earlier key server).result = .ok table ∧
    ∀ other, ¬DescribedSince dialect earlier key other

def Step.concerns (key : MemoryKey) : Step → Bool
  | request other _ => other = key
  | clear => true

section

variable {dialect : Dialect} {memory : CatalogMemory} {steps : List Step} {key : MemoryKey}
  {table : DescribedTable}

def retain (memory : CatalogMemory) (key : MemoryKey) :
    Except Failure DescribedTable → CatalogMemory
  | .ok table => memory.remember key table
  | .error _ => memory

theorem run_describe_known (server : Server) (known : memory.lookup? key = some table) :
    (memory.describe dialect key).run server [] = ⟨(.ok table, memory), [], []⟩ := by
  rw [describe, known]
  rfl

theorem run_describe_unknown (server : Server) (before : List Compiled)
    (unknown : memory.lookup? key = none) :
    (memory.describe dialect key).run server before =
      let asked := (Catalog.describe dialect key.table).run server before
      ⟨(asked.result, memory.retain key asked.result), asked.executed, asked.warnings⟩ := by
  rw [describe, unknown]
  dsimp only
  rw [Dialogue.run_bind]
  cases result : ((Catalog.describe dialect key.table).run server before).result with
  | ok table => simp [result, Dialogue.run, retain]
  | error failure => simp [result, Dialogue.run, retain]

theorem answer_known (server : Server) (known : (after dialect steps).lookup? key = some table) :
    answer dialect steps key server = ⟨.ok table, [], []⟩ := by
  rw [answer, run_describe_known server known]

theorem answer_unknown (server : Server) (unknown : (after dialect steps).lookup? key = none) :
    answer dialect steps key server = (Catalog.describe dialect key.table).run server [] := by
  rw [answer, run_describe_unknown server [] unknown]

theorem after_append (step : Step) :
    after dialect (steps ++ [step]) = step.apply dialect (after dialect steps) := by
  simp [after]

theorem after_request_known (server : Server)
    (known : (after dialect steps).lookup? key = some table) :
    after dialect (steps ++ [.request key server]) = after dialect steps := by
  rw [after_append, Step.apply, run_describe_known server known]

theorem after_request_unknown (server : Server)
    (unknown : (after dialect steps).lookup? key = none) :
    after dialect (steps ++ [.request key server]) =
      (after dialect steps).retain key (answer dialect steps key server).result := by
  rw [after_append, Step.apply, run_describe_unknown server [] unknown,
    answer_unknown server unknown]

theorem lookup?_clear : (after dialect (steps ++ [.clear])).lookup? key = none := by
  rw [after_append]
  rfl

theorem lookup?_request (server : Server) :
    (after dialect (steps ++ [.request key server])).lookup? key =
      (answer dialect steps key server).result.toOption := by
  cases found : (after dialect steps).lookup? key with
  | some table =>
      rw [after_request_known server found, answer_known server found]
      exact found
  | none =>
      rw [after_request_unknown server found]
      cases (answer dialect steps key server).result with
      | ok table => exact lookup?_remember _ key table found
      | error failure => exact found

theorem lookup?_request_of_ne (other : MemoryKey) (server : Server) (differs : other ≠ key) :
    (after dialect (steps ++ [.request other server])).lookup? key =
      (after dialect steps).lookup? key := by
  cases found : (after dialect steps).lookup? other with
  | some table => rw [after_request_known server found]
  | none =>
      rw [after_request_unknown server found]
      cases (answer dialect steps other server).result with
      | ok table => exact lookup?_remember_of_ne _ key other table differs
      | error failure => rfl

theorem lookup?_step (step : Step) (kept : step ≠ .clear)
    (known : (after dialect steps).lookup? key = some table) :
    (after dialect (steps ++ [step])).lookup? key = some table := by
  cases step with
  | clear => contradiction
  | request other server =>
      by_cases same : other = key
      · subst same
        rw [lookup?_request, answer_known server known]
        rfl
      · rw [lookup?_request_of_ne other server same]
        exact known

theorem lookup?_of_describedSince (described : DescribedSince dialect steps key table) :
    (after dialect steps).lookup? key = some table := by
  obtain ⟨earlier, server, later, rfl, kept, came⟩ := described
  induction later using List.reverseRecOn with
  | nil =>
      rw [lookup?_request, came]
      rfl
  | append_singleton later step ih =>
      simp only [List.mem_append, List.mem_singleton, not_or] at kept
      have known := lookup?_step step (Ne.symm kept.2) (ih kept.1)
      simpa using known

theorem FirstDescribedSince.step (first : FirstDescribedSince dialect steps key table)
    (step : Step) (kept : step ≠ .clear) :
    FirstDescribedSince dialect (steps ++ [step]) key table := by
  obtain ⟨earlier, server, later, rfl, notCleared, came, none⟩ := first
  refine ⟨earlier, server, later ++ [step], by simp, ?_, came, none⟩
  simp [notCleared, Ne.symm kept]

theorem firstDescribedSince_of_lookup? (known : (after dialect steps).lookup? key = some table) :
    FirstDescribedSince dialect steps key table := by
  induction steps using List.reverseRecOn generalizing table with
  | nil => contradiction
  | append_singleton steps step ih =>
      cases step with
      | clear =>
          rw [lookup?_clear] at known
          contradiction
      | request other server =>
          by_cases same : other = key
          · subst same
            rw [lookup?_request] at known
            cases found : (after dialect steps).lookup? other with
            | some old =>
                rw [answer_known server found] at known
                obtain rfl : old = table := by simpa [Except.toOption] using known
                exact (ih found).step _ (by simp)
            | none =>
                refine ⟨steps, server, [], rfl, by simp, ?_, ?_⟩
                · cases result : (answer dialect steps other server).result with
                  | ok new =>
                      rw [result] at known
                      obtain rfl : new = table := by simpa [Except.toOption] using known
                      rfl
                  | error failure =>
                      rw [result] at known
                      contradiction
                · intro old described
                  rw [lookup?_of_describedSince described] at found
                  contradiction
          · rw [lookup?_request_of_ne other server same] at known
            exact (ih known).step _ (by simp)

theorem FirstDescribedSince.describedSince (first : FirstDescribedSince dialect steps key table) :
    DescribedSince dialect steps key table := by
  obtain ⟨earlier, server, later, split, kept, came, _⟩ := first
  exact ⟨earlier, server, later, split, kept, came⟩

theorem answer_congr {others : List Step} (server : Server)
    (agree : (after dialect steps).lookup? key = (after dialect others).lookup? key) :
    answer dialect steps key server = answer dialect others key server := by
  cases found : (after dialect others).lookup? key with
  | some table =>
      rw [answer_known server found, answer_known server (agree.trans found)]
  | none =>
      rw [answer_unknown server found, answer_unknown server (agree.trans found)]

/-- Requests for other keys leave no trace under the key. -/
theorem lookup?_filter (dialect : Dialect) (steps : List Step) (key : MemoryKey) :
    (after dialect (steps.filter (Step.concerns key))).lookup? key =
      (after dialect steps).lookup? key := by
  induction steps using List.reverseRecOn with
  | nil => rfl
  | append_singleton steps step ih =>
      rw [List.filter_append]
      cases step with
      | clear =>
          rw [lookup?_clear]
          exact lookup?_clear
      | request other server =>
          by_cases same : other = key
          · subst same
            have concerned : [Step.request other server].filter (Step.concerns other) =
                [.request other server] := by
              simp [Step.concerns]
            rw [concerned, lookup?_request, lookup?_request, answer_congr server ih]
          · have unconcerned : [Step.request other server].filter (Step.concerns key) = [] := by
              simp [Step.concerns, same]
            rw [unconcerned, List.append_nil, lookup?_request_of_ne other server same]
            exact ih

end

/-- Between two clearings every success for a key is the first one, which a later request is
answered with and without a question. Before the first success a request is answered as by a new
memory; a failure is not kept; and requests for other keys make no difference. -/
theorem answer_remembers (dialect : Dialect) (steps : List Step) (key : MemoryKey)
    (server : Server) :
    (∀ table, DescribedSince dialect steps key table →
      FirstDescribedSince dialect steps key table ∧
        answer dialect steps key server = ⟨.ok table, [], []⟩) ∧
    ((∀ table, ¬DescribedSince dialect steps key table) →
      answer dialect steps key server = answer dialect [] key server) ∧
    (∀ failure, (answer dialect steps key server).result = .error failure →
      after dialect (steps ++ [.request key server]) = after dialect steps) ∧
    answer dialect (steps.filter (Step.concerns key)) key server =
      answer dialect steps key server := by
  refine ⟨?_, ?_, ?_, answer_congr server (lookup?_filter dialect steps key)⟩
  · intro table described
    have known := lookup?_of_describedSince described
    exact ⟨firstDescribedSince_of_lookup? known, answer_known server known⟩
  · intro none
    apply answer_congr
    cases found : (after dialect steps).lookup? key with
    | none => rfl
    | some table => exact absurd (firstDescribedSince_of_lookup? found).describedSince (none table)
  · intro failure failed
    cases found : (after dialect steps).lookup? key with
    | some table => exact after_request_known server found
    | none => rw [after_request_unknown server found, failed, retain]

namespace Outage

def key : MemoryKey :=
  ⟨"local", Events.table.tableName⟩

def down : Server := fun _ _ =>
  .error (.network "connection refused")

def up : Server :=
  Events.table.server Events.record

def earlier : List Step :=
  [.request key up, .clear, .request key down]

def later : List Step :=
  [.request ⟨"other", key.table⟩ down]

theorem described_events :
    DescribedSince Dialect.standard (earlier ++ .request key up :: later) key
      Events.table.described := by
  have unknown : (after Dialect.standard earlier).lookup? key = none := rfl
  refine ⟨earlier, up, later, rfl, by simp [later], ?_⟩
  rw [answer_unknown up unknown]
  exact Catalog.settles_describe rfl Events.reflectable Events.reports
    (describes_server Dialect.standard Events.table Events.record) []

end Outage

/-- The events are described after a failure and remembered when the server is down. -/
theorem answer_remembers_outage :
    DescribedSince Dialect.standard (Outage.earlier ++ .request Outage.key Outage.up :: Outage.later)
      Outage.key Events.table.described ∧
    Events.table.described.columns.map DescribedColumn.name = ["day", "size"] ∧
    Events.table.described.engine = some Events.engine ∧
    answer Dialect.standard (Outage.earlier ++ .request Outage.key Outage.up :: Outage.later)
      Outage.key Outage.down = ⟨.ok Events.table.described, [], []⟩ :=
  ⟨Outage.described_events, rfl, rfl,
    ((answer_remembers _ _ _ _).1 _ Outage.described_events).2⟩

end ClickHouse.CatalogMemory
