import ClickHouse.Row
import ClickHouse.Template

/-!
Dialogues with a server: what is asked next may depend on every answer so far. A server may
answer one statement differently at different times, so its answer depends on the statements that
were run before.
-/

namespace ClickHouse

abbrev Answer := Except DatabaseError (List Row)

inductive Dialogue (α : Type) where
  | done (result : α)
  | ask (statement : Compiled) (next : Answer → Dialogue α)
  | warn (warning : String) (next : Dialogue α)

/-- A server: the statements run before, the statement, and the answer to it. -/
abbrev Server := List Compiled → Compiled → Answer

structure Transcript (α : Type) where
  result : α
  executed : List Compiled
  warnings : List String

namespace Dialogue

def bind {α β : Type} : Dialogue α → (α → Dialogue β) → Dialogue β
  | done result, continue_ => continue_ result
  | ask statement next, continue_ => ask statement fun answer => (next answer).bind continue_
  | warn warning next, continue_ => warn warning (next.bind continue_)

instance : Monad Dialogue where
  pure := done
  bind := bind

def reporting {α : Type} (warnings : List String) (next : Dialogue α) : Dialogue α :=
  warnings.foldr warn next

def run {α : Type} (server : Server) : List Compiled → Dialogue α → Transcript α
  | _, done result => ⟨result, [], []⟩
  | before, ask statement next =>
    let rest := run server (before ++ [statement]) (next (server before statement))
    { rest with executed := statement :: rest.executed }
  | before, warn warning next =>
    let rest := run server before next
    { rest with warnings := warning :: rest.warnings }

theorem run_reporting {α : Type} (server : Server) (before : List Compiled)
    (warnings : List String) (next : Dialogue α) :
    (reporting warnings next).run server before =
      { next.run server before with
        warnings := warnings ++ (next.run server before).warnings } := by
  induction warnings with
  | nil => rfl
  | cons warning rest ih =>
      simp only [reporting, List.foldr_cons, run] at ih ⊢
      rw [ih]
      rfl

theorem run_bind {α β : Type} (server : Server) (first : Dialogue α) (continue_ : α → Dialogue β) :
    ∀ before, (first.bind continue_).run server before =
      let left := first.run server before
      let right := (continue_ left.result).run server (before ++ left.executed)
      ⟨right.result, left.executed ++ right.executed, left.warnings ++ right.warnings⟩ := by
  induction first with
  | done result => intro before; simp [bind, run]
  | ask statement next ih =>
      intro before
      simp [bind, run, ih, List.append_assoc]
  | warn warning next ih =>
      intro before
      simp [bind, run, ih]

end Dialogue

end ClickHouse
