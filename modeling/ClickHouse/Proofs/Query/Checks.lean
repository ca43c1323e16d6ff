import ClickHouse.Proofs.Query.Makeup
import ClickHouse.Proofs.Query.Offences

/-!
What the checks of a printer let through, with bound values and with literals: both results are
there unless something offends. Words, numbers and types are spelled on the way.
-/

namespace ClickHouse

open Sql

/-- Two results that are there, and related, unless there is an offence or something in the parts
offends; then both fail alike. -/
inductive PrintsUnless {α β : Type} (offence : Prop) (parts : List Node) (related : α → β → Prop) :
    Except StatementError α → Except StatementError β → Prop
  | ok {left : α} {right : β} : ¬offence → AllClean parts → related left right →
      PrintsUnless offence parts related (.ok left) (.ok right)
  | error (error : StatementError) : ¬(¬offence ∧ AllClean parts) →
      PrintsUnless offence parts related (.error error) (.error error)

namespace PrintsUnless

variable {α β γ δ : Type} {related : α → β → Prop} {relatedNext : γ → δ → Prop}
variable {offence other : Prop} {parts others : List Node}
variable {left : Except StatementError α} {right : Except StatementError β}
variable {next : α → Except StatementError γ} {nextRight : β → Except StatementError δ}

theorem of_ok {left : α} {right : β} (isRelated : related left right) :
    PrintsUnless False [] related (.ok left) (.ok right) :=
  .ok id (fun _ member => absurd member List.not_mem_nil) isRelated

theorem of_error {offence : Prop} (offends : offence) (parts : List Node) (error : StatementError) :
    PrintsUnless offence parts related (.error error) (.error error) :=
  .error error fun sound => sound.1 offends

theorem congr (prints : PrintsUnless offence parts related left right) (same : offence ↔ other) :
    PrintsUnless other parts related left right := by
  rwa [← propext same]

theorem check (first : PrintsUnless offence parts related left right)
    (following : ∀ a b, related a b →
      PrintsUnless other others relatedNext (next a) (nextRight b)) :
    PrintsUnless (offence ∨ other) (parts ++ others) relatedNext (left >>= next)
      (right >>= nextRight) := by
  cases first with
  | @ok left right sound clean isRelated =>
      have rest := following left right isRelated
      change PrintsUnless _ _ _ (next left) (nextRight right)
      generalize next left = result, nextRight right = resultRight at rest ⊢
      cases rest with
      | ok soundNext cleanNext isRelatedNext =>
          refine .ok ?_ ((allClean_append _ _).mpr ⟨clean, cleanNext⟩) isRelatedNext
          rintro (offends | offends)
          · exact sound offends
          · exact soundNext offends
      | error error fails =>
          refine .error error fun ⟨soundBoth, cleanBoth⟩ => fails ⟨?_, ?_⟩
          · exact fun offends => soundBoth (.inr offends)
          · exact ((allClean_append _ _).mp cleanBoth).2
  | error error fails =>
      refine .error error fun ⟨soundBoth, cleanBoth⟩ => fails ⟨?_, ?_⟩
      · exact fun offends => soundBoth (.inl offends)
      · exact ((allClean_append _ _).mp cleanBoth).1

theorem bind (first : PrintsUnless False parts related left right)
    (following : ∀ a b, related a b →
      PrintsUnless other others relatedNext (next a) (nextRight b)) :
    PrintsUnless other (parts ++ others) relatedNext (left >>= next) (right >>= nextRight) :=
  (first.check following).congr (by simp)

theorem andThen (first : PrintsUnless offence parts related left right)
    (following : ∀ a b, related a b →
      PrintsUnless False others relatedNext (next a) (nextRight b)) :
    PrintsUnless offence (parts ++ others) relatedNext (left >>= next) (right >>= nextRight) :=
  (first.check following).congr (by simp)

theorem finish (first : PrintsUnless False parts related left right)
    (following : ∀ a b, related a b → PrintsUnless other [] relatedNext (next a) (nextRight b)) :
    PrintsUnless other parts relatedNext (left >>= next) (right >>= nextRight) := by
  have whole := first.bind following
  rwa [List.append_nil] at whole

theorem of_sound (prints : PrintsUnless False parts related left right) (sound : ¬other) :
    PrintsUnless other parts related left right :=
  prints.congr (iff_of_false id sound)

theorem whole {node : Node} (prints : PrintsUnless node.Offends node.parts related left right) :
    PrintsUnless False [node] related left right := by
  have sound_iff : (¬False ∧ AllClean [node]) ↔ ¬node.Offends ∧ AllClean node.parts := by
    rw [← clean_iff, AllClean, List.forall_mem_singleton]
    exact and_iff_right id
  cases prints with
  | ok sound clean isRelated =>
      obtain ⟨_, clean⟩ := sound_iff.mpr ⟨sound, clean⟩
      exact .ok id clean isRelated
  | error error fails => exact .error error (mt sound_iff.mp fails)

theorem same {result : Except StatementError α} {holds : α → Prop}
    (succeeds : (∃ value, result = .ok value) ↔ ¬offence)
    (each : ∀ value, result = .ok value → holds value) :
    PrintsUnless offence [] (fun value other => value = other ∧ holds value) result result := by
  cases result with
  | ok value =>
      have sound := succeeds.mp ⟨value, rfl⟩
      exact (of_ok ⟨rfl, each value rfl⟩).of_sound sound
  | error error =>
      refine .error error fun ⟨sound, _⟩ => ?_
      obtain ⟨value, impossible⟩ := succeeds.mpr sound
      cases impossible

theorem of_left (prints : PrintsUnless offence parts related left right) {value : α}
    (done : left = .ok value) : ∃ beside, right = .ok beside ∧ related value beside := by
  cases prints with
  | ok _ _ isRelated =>
      obtain rfl := Except.ok.inj done
      exact ⟨_, rfl, isRelated⟩
  | error error _ => contradiction

theorem of_right (prints : PrintsUnless offence parts related left right) {value : β}
    (done : right = .ok value) : ∃ beside, left = .ok beside ∧ related beside value := by
  cases prints with
  | ok _ _ isRelated =>
      obtain rfl := Except.ok.inj done
      exact ⟨_, rfl, isRelated⟩
  | error error _ => contradiction

/-- Either of the two results is there just when nothing offends. -/
theorem exists_ok_iff (prints : PrintsUnless offence parts related left right) :
    ((∃ value, left = .ok value) ↔ ¬offence ∧ AllClean parts) ∧
      ((∃ value, right = .ok value) ↔ ¬offence ∧ AllClean parts) := by
  cases prints with
  | ok sound clean _ =>
      exact ⟨iff_of_true ⟨_, rfl⟩ ⟨sound, clean⟩, iff_of_true ⟨_, rfl⟩ ⟨sound, clean⟩⟩
  | error error fails => exact ⟨iff_of_false (by simp) fails, iff_of_false (by simp) fails⟩

end PrintsUnless

theorem free_append (left right : String) (freeLeft : '%' ∉ left.toList)
    (freeRight : '%' ∉ right.toList) : '%' ∉ (left ++ right).toList := by
  rw [String.toList_append, List.mem_append, not_or]
  exact ⟨freeLeft, freeRight⟩

theorem free_joinWith (separator : String) (items : List String)
    (freeSeparator : '%' ∉ separator.toList) (free : ∀ item ∈ items, '%' ∉ item.toList) :
    '%' ∉ (Text.joinWith separator items).toList := by
  induction items with
  | nil => simp [Text.joinWith]
  | cons first rest ih =>
      rw [List.forall_mem_cons] at free
      cases rest with
      | nil => exact free.1
      | cons second others =>
          rw [Text.joinWith_cons_cons]
          exact free_append _ _ (free_append _ _ free.1 freeSeparator) (ih free.2)

theorem free_repr (value : Nat) : '%' ∉ (Nat.repr value).toList := by
  intro member
  exact absurd (Lexeme.isDigit_of_mem_repr value '%' member) (by decide)

theorem free_limit (limit offset : UInt64) :
    '%' ∉ (" LIMIT " ++ number limit).toList ∧
      '%' ∉ (" LIMIT " ++ number offset ++ ", " ++ number limit).toList := by
  have counted (count : UInt64) : '%' ∉ (" LIMIT " ++ number count).toList :=
    free_append _ _ (by decide) (free_repr count.toNat)
  exact ⟨counted limit, free_append _ _ (free_append _ _ (counted offset) (by decide))
    (free_repr limit.toNat)⟩

theorem extractor?_free (field function : String) (found : extractor? field = some function) :
    '%' ∉ function.toList := by
  unfold extractor? at found
  dsimp only at found
  split at found
  · obtain rfl := Option.some.inj found
    decide
  split at found
  · obtain rfl := Option.some.inj found
    decide
  split at found
  · obtain rfl := Option.some.inj found
    decide
  · simp at found

namespace Spells

variable {spellings : List Spelling}

theorem between {text : List Char} (spells : Spells spellings text) (before after : String)
    (freeBefore : '%' ∉ before.toList) (freeAfter : '%' ∉ after.toList) :
    Spells spellings (before.toList ++ text ++ after.toList) := by
  have whole := ((Spells.free freeBefore).append spells).append (.free freeAfter)
  rwa [List.nil_append, List.append_nil] at whole

theorem commaList {α : Type} (spelling : α → Spelling) (text : α → String)
    (each : ∀ item, Spells [spelling item] (text item).toList) (items : List α) :
    Spells (items.map spelling) (Text.commaList (items.map text)).toList := by
  induction items with
  | nil => exact .free List.not_mem_nil
  | cons first rest ih =>
      cases rest with
      | nil => exact each first
      | cons second others =>
          have separated := ((each first).append (.free (by decide : '%' ∉ ", ".toList))).append ih
          simpa [Text.commaList, Text.joinWith_cons_cons] using separated

theorem joinWith (words : List String) (free : ∀ word ∈ words, '%' ∉ word.toList) (kind : String)
    (spells : Spells spellings kind.toList) (last : String) (freeLast : '%' ∉ last.toList) :
    Spells spellings (Text.joinWith " " (words ++ [kind, last])).toList := by
  induction words with
  | nil =>
      have freeEnd := free_append " " last (by decide) freeLast
      have ended := spells.between "" (" " ++ last) (by decide) freeEnd
      simpa [Text.joinWith] using ended
  | cons word rest ih =>
      obtain ⟨freeWord, freeRest⟩ := List.forall_mem_cons.mp free
      obtain ⟨second, others, shape⟩ : ∃ second others,
          rest ++ [kind, last] = second :: others := by
        cases rest with
        | nil => exact ⟨kind, [last], rfl⟩
        | cons second others => exact ⟨second, others ++ [kind, last], rfl⟩
      have whole := (ih freeRest).between (word ++ " ") "" (free_append _ _ freeWord (by decide))
        (by decide)
      rw [List.cons_append, shape, Text.joinWith_cons_cons, ← shape]
      simpa using whole

theorem typedNull (type : DataType) : Spells [.type type] (Sql.typedNull type).toList := by
  have closed := Spells.type type
  unfold Sql.typedNull
  split
  · simpa using closed.between "CAST(NULL AS " "" (by decide) (by decide)
  · simpa using closed.between "CAST(NULL AS Nullable(" ")" (by decide) (by decide)

theorem emptyQuery (types : List DataType) :
    Spells (types.map .type) (Sql.emptyQuery types).toList := by
  cases types with
  | nil => exact .free (by decide)
  | cons first rest =>
      have columns := commaList Spelling.type Sql.typedNull typedNull (first :: rest)
      have whole := columns.between "SELECT " " WHERE 1!=1" (by decide) (by decide)
      simpa [Sql.emptyQuery] using whole

end Spells

theorem parameterNames_succeeds_iff (parameters : List LambdaParameter) :
    (∃ names, parameterNames parameters = .ok names) ↔
      ¬∃ name, LambdaParameter.variadic name ∈ parameters ∨ .keyword name ∈ parameters := by
  induction parameters with
  | nil => simp [parameterNames]
  | cons first rest ih =>
      cases first with
      | variadic name =>
          refine iff_of_false (by simp [parameterNames]) (not_not_intro ?_)
          exact ⟨name, .inl List.mem_cons_self⟩
      | keyword name =>
          refine iff_of_false (by simp [parameterNames]) (not_not_intro ?_)
          exact ⟨name, .inr List.mem_cons_self⟩
      | positional name =>
          simp only [List.mem_cons, reduceCtorEq, false_or]
          rw [← ih, parameterNames]
          cases parameterNames rest with
          | ok names => simp
          | error error => simp

theorem parameterNames_eq (parameters : List LambdaParameter) (names : List String)
    (found : parameterNames parameters = .ok names) :
    names = parameters.map LambdaParameter.name := by
  induction parameters generalizing names with
  | nil => exact (Except.ok.inj found).symm
  | cons first rest ih =>
      cases first with
      | variadic name | keyword name => contradiction
      | positional name =>
          unfold parameterNames at found
          split at found
          · contradiction
          · rename_i others foundRest
            rw [← Except.ok.inj found, ih others foundRest]
            rfl

theorem joinKind_succeeds_iff (options : JoinOptions) :
    (∃ kind, joinKind options = .ok kind) ↔ ¬options.Conflict := by
  unfold joinKind
  split
  · rename_i joinType given
    split
    · rename_i conflict
      exact iff_of_false (by simp) (not_not_intro ⟨conflict.1, joinType, given, conflict.2⟩)
    · rename_i noConflict
      refine iff_of_true ⟨_, rfl⟩ ?_
      rintro ⟨isOuter, other, isType, isInner⟩
      obtain rfl := Option.some.inj (given.symm.trans isType)
      exact noConflict ⟨isOuter, isInner⟩
  · rename_i given
    have sound : ¬options.Conflict := by simp [JoinOptions.Conflict, given]
    split
    · exact iff_of_true ⟨_, rfl⟩ sound
    split
    · exact iff_of_true ⟨_, rfl⟩ sound
    · exact iff_of_true ⟨_, rfl⟩ sound

theorem joinKind_spells (options : JoinOptions) (kind : String)
    (found : joinKind options = .ok kind) :
    Spells (options.joinType.toList.map .joinType) kind.toList := by
  unfold joinKind at found
  split at found
  · rename_i joinType given
    split at found
    · contradiction
    · rw [given, ← Except.ok.inj found]
      exact .joinType joinType
  · rename_i given
    rw [given]
    split at found
    · rw [← Except.ok.inj found]
      exact .free (by decide)
    split at found
    · rw [← Except.ok.inj found]
      exact .free (by decide)
    · rw [← Except.ok.inj found]
      exact .free (by decide)

theorem joinWords_made (options : JoinOptions) :
    PrintsUnless options.Conflict []
      (fun words other => words = other ∧
        Spells (options.joinType.toList.map .joinType) words.toList)
      (joinWords options) (joinWords options) := by
  apply PrintsUnless.same
  · rw [← joinKind_succeeds_iff, joinWords]
    cases joinKind options with
    | ok kind => simp
    | error error => simp
  · intro words found
    unfold joinWords at found
    split at found
    · contradiction
    · rename_i kind foundKind
      obtain rfl := Except.ok.inj found
      refine Spells.joinWith _ ?_ kind (joinKind_spells options kind foundKind) "JOIN" (by decide)
      intro word member
      simp only [List.mem_append, Option.mem_toList, Option.map_eq_some_iff] at member
      rcases member with (isGlobal | ⟨strictness, _, rfl⟩) | isFull
      · split at isGlobal
        · obtain rfl := List.mem_singleton.mp isGlobal
          decide
        · contradiction
      · cases strictness <;> decide
      · split at isFull
        · obtain rfl := List.mem_singleton.mp isFull
          decide
        · contradiction

theorem limitClause_made (limit offset : Option UInt64) :
    PrintsUnless (offset ≠ none ∧ limit = none) [] (MadeOf .empty) (limitClause limit offset)
      (limitClause limit offset) := by
  cases offset with
  | none =>
      refine PrintsUnless.of_sound ?_ (by simp)
      cases limit with
      | none => exact .of_ok .nil
      | some limit => exact .of_ok (.word _ (free_limit limit limit).1)
  | some offset =>
      cases limit with
      | none => exact .of_error ⟨by simp, rfl⟩ _ _
      | some limit =>
          refine PrintsUnless.of_sound ?_ (by simp)
          exact .of_ok (.word _ (free_limit limit offset).2)

theorem limitByClause_made (limitBy : LimitBy) (makeup : Makeup) (bound literal : Template)
    (made : MadeOf makeup bound literal) :
    PrintsUnless limitBy.Offends []
      (MadeOf (if limitBy.limit = none then .unwritten .bound makeup.ingredients else makeup))
      (limitByClause limitBy.limit limitBy.offset bound)
      (limitByClause limitBy.limit limitBy.offset literal) := by
  obtain ⟨limit, offset, keys⟩ := limitBy
  cases limit with
  | none =>
      cases offset with
      | none => exact (PrintsUnless.of_ok made.unwritten).of_sound (by simp [LimitBy.Offends])
      | some offset => exact .of_error ⟨by simp, rfl⟩ _ _
  | some limit =>
      refine PrintsUnless.of_sound ?_ (by simp [LimitBy.Offends])
      cases offset with
      | none =>
          exact .of_ok (made.code_cons _ (free_append _ _ (free_limit limit limit).1 (by decide)))
      | some offset =>
          exact .of_ok (made.code_cons _ (free_append _ _ (free_limit limit offset).2 (by decide)))

theorem groupClause_made (modifier : Option GroupModifier) (makeup : Makeup)
    (bound literal : List Template) (made : MadeOfItems makeup bound literal) :
    PrintsUnless (bound = [] ∧ modifier ≠ none) [] (MadeOf makeup) (groupClause modifier bound)
      (groupClause modifier literal) := by
  have keys := made.listClause " GROUP BY " (by decide)
  cases made with
  | nil =>
      cases modifier with
      | none => exact (PrintsUnless.of_ok keys).of_sound (by simp)
      | some modifier => exact .of_error ⟨rfl, by simp⟩ _ _
  | cons first others =>
      refine PrintsUnless.of_sound ?_ (by simp)
      cases modifier with
      | none => exact .of_ok keys
      | some modifier => exact .of_ok (keys.append_code _ (by cases modifier <;> decide))

end ClickHouse
