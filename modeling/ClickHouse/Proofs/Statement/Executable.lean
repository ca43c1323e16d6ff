import ClickHouse.Proofs.Statement.Printing

/-!
What a server runs, with bound values filled in and with literals written from the start. The two
texts are the same exactly when no sign stands right before a bound negative value and no text
that is written as it is spells a placeholder (`Statement.executable_eq_iff`).
-/

namespace ClickHouse

/-- A statement that compiles with bound values compiles with literals. The server runs the same
text for both just when no sign comes right before a bound negative value and the text with
literals spells no placeholder. -/
theorem Statement.executable_eq_iff (dialect : Dialect) (statement : Statement)
    (consistent : Consistent statement.parameters) (bound : Compiled)
    (compiles : statement.compile dialect false = .ok bound) :
    ∃ literal, statement.compile dialect true = .ok literal ∧
      ((∃ text, bound.executable = .ok text ∧ literal.executable = .ok text) ↔
        statement.signsGuarded = true ∧ Placeholder.holdsPlaceholder literal.sql = false) := by
  have prints := statement.sql_made dialect.quoting dialect
  unfold Statement.compile Dialect.style at *
  generalize statement.sql dialect ⟨dialect.quoting, false⟩ = result at *
  generalize statement.sql dialect ⟨dialect.quoting, true⟩ = resultLiteral at *
  cases prints with
  | error error _ => contradiction
  | ok _ _ made =>
      obtain rfl := Except.ok.inj compiles
      have inScope : entries statement.ingredients ⊆ statement.parameters := by
        rw [statement.parameters_eq]
        exact List.Subset.refl _
      exact ⟨_, rfl, (made.inlinesTo inScope).agree_iff consistent⟩

/-- A negative value away from signs, and a positive one behind a sign and elsewhere. -/
theorem Statement.executable_eq_of_signs_guarded :
    let statement := Statement.select { Select.ofColumns [.negate (.param "p" (.int 1))] with
      condition := some (.binary .lt (.param "q" (.int (-1))) (.param "p" (.int 1))) }
    Consistent statement.parameters ∧ ∃ literal,
      statement.compile .standard false =
        .ok ⟨"SELECT -%(p)s WHERE %(q)s < %(p)s", [("p", .int 1), ("q", .int (-1))]⟩ ∧
      statement.compile .standard true = .ok literal ∧
      ∃ text, Compiled.executable
          ⟨"SELECT -%(p)s WHERE %(q)s < %(p)s", [("p", .int 1), ("q", .int (-1))]⟩ = .ok text ∧
        literal.executable = .ok text := by
  intro statement
  have consistent : Consistent [("p", Value.int 1), ("q", Value.int (-1)), ("p", Value.int 1)] :=
    ⟨by decide, by simp⟩
  have compilesBound : statement.compile .standard false =
      .ok ⟨"SELECT -%(p)s WHERE %(q)s < %(p)s", [("p", .int 1), ("q", .int (-1))]⟩ := by rfl
  obtain ⟨literal, compiles, agree⟩ :=
    Statement.executable_eq_iff .standard statement consistent _ compilesBound
  refine ⟨consistent, literal, compilesBound, compiles, agree.mpr ⟨by rfl, ?_⟩⟩
  rw [← Except.ok.inj compiles]
  rfl

/-- A sign before a bound negative value starts a comment; before the literal it does not. -/
theorem Statement.executable_ne_of_negated_negative :
    let statement := Statement.select (Select.ofColumns [.negate (.param "p" (.int (-1)))])
    Consistent statement.parameters ∧
      statement.compile .standard false = .ok ⟨"SELECT -%(p)s", [("p", .int (-1))]⟩ ∧
      Compiled.executable ⟨"SELECT -%(p)s", [("p", .int (-1))]⟩ = .ok "SELECT --1" ∧
      statement.compile .standard true = .ok ⟨"SELECT -(-1)", []⟩ ∧
      Compiled.executable ⟨"SELECT -(-1)", []⟩ = .ok "SELECT -(-1)" := by
  have consistent : Consistent [("p", Value.int (-1))] := ⟨by decide, by simp⟩
  exact ⟨consistent, by rfl, by rfl, by rfl, by rfl⟩

end ClickHouse
