import ClickHouse.Proofs.Statement.Printing

/-!
Which statements can be compiled: those that do not offend themselves and in which nothing that is
written offends (`Statement.compile_succeeds_iff`). An insertion always can.
-/

namespace ClickHouse

/-- A statement is compiled exactly when it is no change that the server or its form forbids and
nothing that occurs in what it is written from offends; an insertion always is. -/
theorem Statement.compile_succeeds_iff (dialect : Dialect) (inlineValues : Bool)
    (statement : Statement) :
    ((∃ compiled, statement.compile dialect inlineValues = .ok compiled) ↔
      ¬statement.Offends dialect ∧
        ∀ part ∈ statement.parts, ∀ node, Occurs node part → ¬node.Offends) ∧
    ∀ addition, ∃ compiled,
      (Statement.insert addition).compile dialect inlineValues = .ok compiled := by
  refine ⟨?_, fun addition => ⟨_, rfl⟩⟩
  have succeeds : (∃ template, statement.sql dialect (dialect.style inlineValues) = .ok template) ↔
      ¬statement.Offends dialect ∧ AllClean statement.parts := by
    obtain ⟨bound, literal⟩ := (statement.sql_made dialect.quoting dialect).exists_ok_iff
    cases inlineValues with
    | false => exact bound
    | true => exact literal
  unfold AllClean Clean at succeeds
  rw [← succeeds, Statement.compile]
  cases statement.sql dialect (dialect.style inlineValues) with
  | ok template => simp
  | error error => simp

end ClickHouse
