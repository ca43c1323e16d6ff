import ClickHouse.Proofs.Statement.Printing

/-!
The percent signs of compiled statements. Whatever columns, aliases, tables, literals and raw text
a statement holds, its text is disciplined exactly when the types that it writes are
(`Statement.disciplined_iff_types`): a type is written without doubling its percent signs.
-/

namespace ClickHouse

open Sql Placeholder

theorem Statement.percentOnlyIn (dialect : Dialect) (inlineValues : Bool) (statement : Statement)
    (plain : AllPlain statement.spellings) (template : Template)
    (written : statement.sql dialect (dialect.style inlineValues) = .ok template) :
    PercentOnlyIn (typesOf statement.spellings) template := by
  have prints := statement.sql_made dialect.quoting dialect
  cases inlineValues with
  | false =>
      obtain ⟨_, _, made⟩ := prints.of_left written
      exact (made.percentOnlyIn plain).1
  | true =>
      obtain ⟨_, _, made⟩ := prints.of_right written
      exact (made.percentOnlyIn plain).2

theorem PercentOnlyIn.executable {types : List DataType} {template : Template}
    (percents : PercentOnlyIn types template) (free : ∀ type ∈ types, '%' ∉ type.render.toList) :
    Disciplined template.params.names template.text.toList ∧
      template.compiled.executable =
        .ok (String.ofList (template.content (valueOf template.params))) := by
  have disciplined := percents.disciplined_iff.mpr fun type member => .of_free (free type member)
  refine ⟨disciplined, ?_⟩
  rw [Disciplined.executable disciplined]
  exact congrArg (fun shown => Except.ok (String.ofList shown))
    (percents.shown_text free (valueOf template.params))

/-- A statement whose function, parameter and value names are words, and whose kinds of joins hold
no percent sign: of its compiled text every percent sign is doubled or part of a placeholder with
a value exactly when that is so of each type that it writes, and then filling in the values never
fails. If moreover the types hold no percent sign, the server runs all user text as it was given,
with each value as its literal. -/
theorem Statement.disciplined_iff_types (dialect : Dialect) (inlineValues : Bool)
    (statement : Statement) (plain : AllPlain statement.spellings) (compiled : Compiled)
    (compiles : statement.compile dialect inlineValues = .ok compiled) :
    (Disciplined compiled.params.names compiled.sql.toList ↔
      ∀ type ∈ typesOf statement.spellings,
        Disciplined compiled.params.names type.render.toList) ∧
    (Disciplined compiled.params.names compiled.sql.toList →
      ∃ text, compiled.executable = .ok text) ∧
    ((∀ type ∈ typesOf statement.spellings, '%' ∉ type.render.toList) →
      Disciplined compiled.params.names compiled.sql.toList ∧
      ∃ template, statement.sql dialect (dialect.style inlineValues) = .ok template ∧
        compiled.executable =
          .ok (String.ofList (template.content (valueOf compiled.params)))) := by
  unfold Statement.compile at compiles
  split at compiles
  · contradiction
  · rename_i template written
    obtain rfl := Except.ok.inj compiles
    have percents := statement.percentOnlyIn dialect inlineValues plain template written
    refine ⟨percents.disciplined_iff, fun disciplined => ⟨_, Disciplined.executable disciplined⟩,
      fun free => ?_⟩
    obtain ⟨disciplined, executable⟩ := percents.executable free
    exact ⟨disciplined, template, written, executable⟩

/-- Percent signs in a column, an operator and raw text, beside a bound value and a type. -/
theorem Statement.disciplined_percent_in_text :
    let statement := Statement.select (Select.ofColumns
      [.binary .mod (.named "a%b") (.param "p" (.int 7)), .raw "'%(p)s'", .cast (.named "x") .uuid])
    let compiled : Compiled :=
      ⟨"SELECT \"a%%b\" %% %(p)s, '%%(p)s', CAST(x AS UUID)", [("p", .int 7)]⟩
    AllPlain statement.spellings ∧ statement.compile .standard false = .ok compiled ∧
      Disciplined ["p"] compiled.sql.toList ∧
      compiled.executable = .ok "SELECT \"a%b\" % 7, '%(p)s', CAST(x AS UUID)" := by
  intro statement compiled
  have plain : AllPlain statement.spellings := by
    have written : statement.spellings = [.name "p", .type .uuid] := rfl
    rw [written, allPlain_cons, allPlain_cons]
    exact ⟨(by decide : Identifier.isWord "p" = true), trivial, by simp [AllPlain]⟩
  have compiles : statement.compile .standard false = .ok compiled := rfl
  have free : ∀ type ∈ typesOf statement.spellings, '%' ∉ type.render.toList := by
    have types : typesOf statement.spellings = [.uuid] := rfl
    rw [types]
    simpa using (by decide : '%' ∉ DataType.uuid.render.toList)
  obtain ⟨disciplined, template, written, executable⟩ :=
    (Statement.disciplined_iff_types .standard false statement plain compiled compiles).2.2 free
  refine ⟨plain, compiles, disciplined, executable.trans ?_⟩
  obtain rfl := Except.ok.inj written
  rfl

/-- The label of an enumeration that spells a placeholder is taken for one. -/
theorem Statement.not_disciplined_percent_in_label :
    let statement := Statement.select (Select.ofColumns
      [.cast (.named "x") (.enumeration .bits8 [("%(p)s", 1)])])
    let compiled : Compiled := ⟨"SELECT CAST(x AS Enum8('%(p)s' = 1))", []⟩
    AllPlain statement.spellings ∧ statement.compile .standard false = .ok compiled ∧
      ¬Disciplined compiled.params.names compiled.sql.toList ∧
      compiled.executable = .error (.unboundName "p") := by
  intro statement compiled
  have plain : AllPlain statement.spellings := by
    have written : statement.spellings =
        [.type (.enumeration .bits8 [("%(p)s", 1)])] := rfl
    rw [written, allPlain_cons]
    exact ⟨trivial, by simp [AllPlain]⟩
  have fails : Compiled.executable ⟨"SELECT CAST(x AS Enum8('%(p)s' = 1))", []⟩ =
      .error (.unboundName "p") := by rfl
  refine ⟨plain, rfl, fun disciplined => ?_, fails⟩
  have succeeds : (Except.error (.unboundName "p") : Except StatementError String) = .ok _ :=
    fails.symm.trans (Disciplined.executable disciplined)
  simp at succeeds

end ClickHouse
