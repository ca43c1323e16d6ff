/-!
Computations that can fail. Of a single one, its result has a property if there is a result, or
its error has one if there is an error; two of them side by side fail alike, or their results are
related.
-/

namespace ClickHouse

/-- Results that fail with the same error or have related values. -/
inductive AgreeUpTo {ε α β : Type} (related : α → β → Prop) : Except ε α → Except ε β → Prop
  | ok {left : α} {right : β} : related left right → AgreeUpTo related (.ok left) (.ok right)
  | error (error : ε) : AgreeUpTo related (.error error) (.error error)

theorem AgreeUpTo.bind {ε α β γ δ : Type} {related : α → β → Prop} {relatedNext : γ → δ → Prop}
    {left : Except ε α} {right : Except ε β} {next : α → Except ε γ} {nextRight : β → Except ε δ}
    (agree : AgreeUpTo related left right)
    (following : ∀ a b, related a b → AgreeUpTo relatedNext (next a) (nextRight b)) :
    AgreeUpTo relatedNext (left >>= next) (right >>= nextRight) := by
  cases agree with
  | ok holds => exact following _ _ holds
  | error error => exact .error error

theorem AgreeUpTo.same {ε α : Type} (result : Except ε α) : AgreeUpTo (· = ·) result result := by
  cases result with
  | ok value => exact .ok rfl
  | error error => exact .error error

theorem bind_eq_ok {ε α β : Type} {result : Except ε α} {next : α → Except ε β} {value : β}
    (done : result >>= next = .ok value) : ∃ inner, result = .ok inner ∧ next inner = .ok value := by
  cases result with
  | ok inner => exact ⟨inner, rfl, done⟩
  | error error => contradiction

theorem map_eq_error_iff {ε α β : Type} {result : Except ε α} {convert : α → β} {error : ε} :
    result.map convert = .error error ↔ result = .error error := by
  cases result with
  | ok value => simp [Except.map]
  | error other => simp [Except.map]

theorem map_eq_ok_iff {ε α β : Type} {result : Except ε α} {convert : α → β} {value : β} :
    result.map convert = .ok value ↔ ∃ inner, result = .ok inner ∧ convert inner = value := by
  cases result with
  | ok inner => simp [Except.map]
  | error error => simp [Except.map]

theorem map_injective {ε α β : Type} {convert : α → β}
    (injective : ∀ first second, convert first = convert second → first = second)
    {left right : Except ε α} (same : left.map convert = right.map convert) : left = right := by
  cases left with
  | ok first =>
      obtain ⟨second, rfl, equal⟩ := map_eq_ok_iff.mp same.symm
      rw [injective second first equal]
  | error error => exact (map_eq_error_iff.mp same.symm).symm

def IfOk {ε α : Type} (holds : α → Prop) : Except ε α → Prop
  | .ok value => holds value
  | .error _ => True

theorem IfOk.intro {ε α : Type} {holds : α → Prop} {result : Except ε α}
    (each : ∀ value, result = .ok value → holds value) : IfOk holds result := by
  cases result with
  | ok value => exact each value rfl
  | error error => trivial

theorem IfOk.bind {ε α β : Type} {holds : α → Prop} {holdsNext : β → Prop}
    {result : Except ε α} {next : α → Except ε β} (ifOk : IfOk holds result)
    (following : ∀ value, holds value → IfOk holdsNext (next value)) :
    IfOk holdsNext (result >>= next) := by
  cases result with
  | ok value => exact following value ifOk
  | error error => trivial

def FailsOnly {ε α : Type} (holds : ε → Prop) : Except ε α → Prop
  | .ok _ => True
  | .error error => holds error

theorem FailsOnly.bind {ε α β : Type} {holds : ε → Prop} {result : Except ε α}
    {next : α → Except ε β} (fails : FailsOnly holds result)
    (following : ∀ value, FailsOnly holds (next value)) : FailsOnly holds (result >>= next) := by
  cases result with
  | ok value => exact following value
  | error error => exact fails

theorem FailsOnly.map {ε α β : Type} {holds : ε → Prop} {result : Except ε α}
    (fails : FailsOnly holds result) (convert : α → β) : FailsOnly holds (result.map convert) := by
  cases result with
  | ok value => trivial
  | error error => exact fails

theorem FailsOnly.of_error {ε α : Type} {holds : ε → Prop} {result : Except ε α} {error : ε}
    (fails : FailsOnly holds result) (failed : result = .error error) : holds error := by
  subst failed
  exact fails

theorem IfOk.mono {ε α : Type} {holds wider : α → Prop} {result : Except ε α}
    (ifOk : IfOk holds result) (widens : ∀ value, holds value → wider value) :
    IfOk wider result := by
  cases result with
  | ok value => exact widens value ifOk
  | error error => trivial

theorem IfOk.mapM {ε α β : Type} {holds : β → Prop} {convert : α → Except ε β} {items : List α}
    (each : ∀ item ∈ items, IfOk holds (convert item)) :
    IfOk (fun values => ∀ value ∈ values, holds value) (items.mapM convert) := by
  induction items with
  | nil =>
      intro value member
      contradiction
  | cons item rest ih =>
      have first := each item List.mem_cons_self
      have others := ih fun item member => each item (List.mem_cons_of_mem _ member)
      rw [List.mapM_cons]
      apply first.bind
      intro value ofValue
      apply others.bind
      intro values ofValues other member
      rcases List.mem_cons.mp member with rfl | later
      · exact ofValue
      · exact ofValues other later

theorem IfOk.of_ok {ε α : Type} {holds : α → Prop} {result : Except ε α} {value : α}
    (ifOk : IfOk holds result) (done : result = .ok value) : holds value := by
  subst done
  exact ifOk

end ClickHouse
