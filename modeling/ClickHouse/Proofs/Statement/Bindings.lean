import ClickHouse.Proofs.Statement.Executable
import ClickHouse.Proofs.Statement.Percent

/-!
What becomes of the values that are bound in a statement. A name has one value, and joins without
a source are left out with all that is in them; apart from that every value is found under its
name, and the server runs a text with each value as its literal in the place where it is bound
(`Statement.keeps_values_iff`).
-/

namespace ClickHouse

open Sql Placeholder

def Piece.placeholder? : Piece → Option (String × Value)
  | bind name value => some (name, value)
  | _ => none

def Template.placeholders (template : Template) : List (String × Value) :=
  template.filterMap Piece.placeholder?

/-- The values that are bound for a statement, whether its text shows them or not. -/
def boundEntries (ingredients : List Ingredient) : List (String × Value) :=
  ingredients.filterMap Ingredient.bound?

def writtenEntries (ingredients : List Ingredient) : List (String × Value) :=
  ingredients.filterMap Ingredient.written?

theorem boundEntries_unwritten (ingredients : List Ingredient) :
    boundEntries (ingredients.filterMap (Ingredient.unwritten .bound)) =
      boundEntries ingredients := by
  rw [boundEntries, List.filterMap_filterMap]
  refine congrArg (ingredients.filterMap ·) (funext fun ingredient => ?_)
  rcases ingredient with value | ⟨_ | _ | _, name, value⟩ | type <;> rfl

theorem boundEntries_dropped (ingredients : List Ingredient) :
    boundEntries (ingredients.filterMap (Ingredient.unwritten .dropped)) = [] := by
  rw [boundEntries, List.filterMap_filterMap, List.filterMap_eq_nil_iff]
  intro ingredient _
  rcases ingredient with value | ⟨_ | _ | _, name, value⟩ | type <;> rfl

theorem writtenEntries_unwritten (fate : Fate) (left : fate ≠ .written)
    (ingredients : List Ingredient) :
    writtenEntries (ingredients.filterMap (Ingredient.unwritten fate)) = [] := by
  rw [writtenEntries, List.filterMap_filterMap, List.filterMap_eq_nil_iff]
  intro ingredient _
  rcases ingredient with value | ⟨_ | _ | _, name, value⟩ | type <;> cases fate <;> trivial

theorem Template.unwritten_bindings (template : Template) :
    template.unwritten.bindings = template.bindings := by
  simp [Template.unwritten, Template.bindings, List.filterMap_map, Function.comp_def,
    Piece.binding?]

theorem Template.unwritten_placeholders (template : Template) :
    template.unwritten.placeholders = [] := by
  simp [Template.unwritten, Template.placeholders, List.filterMap_map, Function.comp_def,
    Piece.placeholder?]

theorem MadeOf.bindings {makeup : Makeup} {bound literal : Template}
    (made : MadeOf makeup bound literal) :
    bound.bindings = boundEntries makeup.ingredients ∧
      bound.placeholders = writtenEntries makeup.ingredients := by
  induction made with
  | nil | plain | literal | param => exact ⟨rfl, rfl⟩
  | @code spellings text _ _ =>
      have none (binding? : Ingredient → Option (String × Value))
          (skips : ∀ type, binding? (.type type) = none) :
          ((typesOf spellings).map Ingredient.type).filterMap binding? = [] := by
        simp [skips]
      exact ⟨(none _ fun _ => rfl).symm, (none _ fun _ => rfl).symm⟩
  | sign sign isAtomic _ _ _ ih =>
      rw [Template.bindings, Template.placeholders, filterMap_sign _ fun _ => rfl,
        filterMap_sign _ fun _ => rfl]
      exact ih
  | unwritten _ ih =>
      rw [Template.unwritten_bindings, Template.unwritten_placeholders, ih.1, Makeup.unwritten,
        boundEntries_unwritten, writtenEntries_unwritten .bound (by decide)]
      exact ⟨rfl, rfl⟩
  | dropped ingredients =>
      rw [Makeup.unwritten, boundEntries_dropped, writtenEntries_unwritten .dropped (by decide)]
      exact ⟨rfl, rfl⟩
  | append _ _ ih ihMore =>
      simp only [Template.bindings, Template.placeholders, boundEntries, writtenEntries,
        Makeup.append_eq, Makeup.append, List.filterMap_append] at *
      exact ⟨by rw [ih.1, ihMore.1], by rw [ih.2, ihMore.2]⟩

/-- Whether equal names have equal values. -/
def Agree (entries : List (String × Value)) : Prop :=
  ∀ entry ∈ entries, ∀ other ∈ entries, entry.1 = other.1 → entry.2 = other.2

theorem mem_of_lookup_foldl (entries : List (String × Value)) (params : Params) (name : String)
    (value : Value)
    (found : (entries.foldl (fun params entry => params.bind entry.1 entry.2) params).lookup name =
      some value) :
    params.lookup name = some value ∨ (name, value) ∈ entries := by
  induction entries generalizing params with
  | nil => exact Or.inl found
  | cons entry rest ih =>
      rcases ih _ found with earlier | later
      · rw [Params.lookup_bind] at earlier
        split at earlier
        · rename_i same
          obtain rfl := Option.some.inj earlier
          subst same
          exact Or.inr (List.mem_cons_self ..)
        · exact Or.inl earlier
      · exact Or.inr (List.mem_cons_of_mem _ later)

/-- Values are found under their names if they agree, and nothing else is found. -/
theorem Template.lookup_params_iff (template : Template) (agree : Agree template.bindings)
    (entry : String × Value) :
    template.params.lookup entry.1 = some entry.2 ↔ entry ∈ template.bindings := by
  constructor
  · intro found
    rcases mem_of_lookup_foldl _ _ _ _ found with earlier | isBound
    · simp at earlier
    · exact isBound
  · intro isBound
    exact lookup_foldl_bind _ _ _ _ (fun other member same => agree other member entry isBound same)
      (Or.inr ⟨entry, isBound, rfl⟩)

/-- With its values a template shows each as its own literal. -/
theorem Template.content_params (template : Template) (agree : Agree template.bindings) :
    template.content (valueOf template.params) = template.filled := by
  have shown : ∀ piece ∈ template, piece.content (valueOf template.params) = piece.filled := by
    intro piece member
    cases piece with
    | code text | plain text | unwritten name value => rfl
    | bind name value =>
        have isBound : (name, value) ∈ template.bindings :=
          List.mem_filterMap.mpr ⟨_, member, rfl⟩
        have found := (template.lookup_params_iff agree (name, value)).mpr isBound
        simp only [Piece.content, Piece.filled, valueOf, String.ofList_toList] at found ⊢
        rw [found]
  rw [Template.content, Template.filled, List.flatMap_def, List.flatMap_def,
    List.map_congr_left shown]

theorem boundEntries_subset (ingredients : List Ingredient) :
    boundEntries ingredients ⊆ entries ingredients := by
  intro entry member
  obtain ⟨ingredient, isIngredient, isEntry⟩ := List.mem_filterMap.mp member
  refine List.mem_filterMap.mpr ⟨ingredient, isIngredient, ?_⟩
  rcases ingredient with value | ⟨_ | _ | _, name, value⟩ | type
  · contradiction
  · exact isEntry
  · exact isEntry
  · contradiction
  · contradiction

theorem sql_of_compile {dialect : Dialect} {inlineValues : Bool} {statement : Statement}
    {compiled : Compiled} (compiles : statement.compile dialect inlineValues = .ok compiled) :
    ∃ template, statement.sql dialect (dialect.style inlineValues) = .ok template ∧
      compiled = template.compiled := by
  unfold Statement.compile at compiles
  split at compiles
  · contradiction
  · rename_i template written
    exact ⟨template, written, (Except.ok.inj compiles).symm⟩

/-- Every bound value of a statement is found under its name exactly when equal names have equal
values and none of the values is left out with a join that has no source. Where equal names have
equal values, and function and value names are words and no percent sign stands in types and kinds
of joins, the server runs the text with each value as its own literal in its place: the values of
the text are those of the statement in their order, the keys of a limit that is not written
apart. -/
theorem Statement.keeps_values_iff (dialect : Dialect) (statement : Statement)
    (compiled : Compiled) (compiles : statement.compile dialect false = .ok compiled) :
    ((∀ entry ∈ statement.parameters, compiled.params.lookup entry.1 = some entry.2) ↔
      Agree statement.parameters ∧
        statement.parameters ⊆ boundEntries statement.ingredients) ∧
    (AllPlain statement.spellings →
      (∀ type ∈ typesOf statement.spellings, '%' ∉ type.render.toList) →
      Agree statement.parameters →
      ∃ template, statement.sql dialect (dialect.style false) = .ok template ∧
        template.placeholders = writtenEntries statement.ingredients ∧
        compiled.executable = .ok (String.ofList template.filled)) := by
  have within : boundEntries statement.ingredients ⊆ statement.parameters := by
    rw [statement.parameters_eq]
    exact boundEntries_subset _
  obtain ⟨template, written, rfl⟩ := sql_of_compile compiles
  obtain ⟨_, _, made⟩ := (statement.sql_made dialect.quoting dialect).of_left written
  have bindings : template.bindings = boundEntries statement.ingredients := made.bindings.1
  -- what the template binds is among the values of the statement
  have agree_bindings (agree : Agree statement.parameters) : Agree template.bindings := by
    rw [bindings]
    exact fun entry member other isOther same =>
      agree entry (within member) other (within isOther) same
  constructor
  · constructor
    · intro found
      constructor
      · intro entry member other isOther same
        have first := found entry member
        rw [same] at first
        exact Option.some.inj (first.symm.trans (found other isOther))
      · intro entry member
        -- what is found has been bound, since the values start from none
        have isBound := mem_of_lookup_foldl _ _ _ _ (found entry member)
        rw [bindings] at isBound
        simpa using isBound
    · rintro ⟨agree, bound⟩ entry member
      apply (template.lookup_params_iff (agree_bindings agree) entry).mpr
      rw [bindings]
      exact bound member
  · intro plain free agree
    have percents := statement.percentOnlyIn dialect false plain template written
    obtain ⟨-, executable⟩ := percents.executable free
    rw [template.content_params (agree_bindings agree)] at executable
    exact ⟨template, written, made.bindings.2, executable⟩

/-- Equal values of one name, and a value in the keys of a limit that is not written. -/
theorem Statement.keeps_values_of_equal :
    let statement := Statement.select { Select.ofColumns [.param "p" (.int 1)] with
      condition := some (.binary .eq (.named "a") (.param "p" (.int 1)))
      limitBy := some ⟨none, none, [.param "q" (.int 2)]⟩ }
    let compiled : Compiled :=
      ⟨"SELECT %(p)s WHERE a = %(p)s", [("q", .int 2), ("p", .int 1)]⟩
    statement.compile .standard false = .ok compiled ∧
      statement.parameters = [("p", .int 1), ("p", .int 1), ("q", .int 2)] ∧
      (∀ entry ∈ statement.parameters, compiled.params.lookup entry.1 = some entry.2) ∧
      compiled.executable = .ok "SELECT 1 WHERE a = 1" := by
  intro statement compiled
  have parameters : statement.parameters = [("p", .int 1), ("p", .int 1), ("q", .int 2)] := rfl
  have bound : boundEntries statement.ingredients =
      [("p", .int 1), ("p", .int 1), ("q", .int 2)] := rfl
  have agree : Agree statement.parameters := by
    rw [parameters]
    simp [Agree]
  have spellings : statement.spellings = [.name "p", .name "p"] := rfl
  have plain : AllPlain statement.spellings := by
    have word : Identifier.isWord "p" = true := by decide
    rw [spellings, allPlain_cons, allPlain_cons]
    exact ⟨word, word, by simp [AllPlain]⟩
  have free : ∀ type ∈ typesOf statement.spellings, '%' ∉ type.render.toList := by
    rw [spellings]
    simp [typesOf, Spelling.type?]
  obtain ⟨found, runs⟩ := Statement.keeps_values_iff .standard statement compiled rfl
  refine ⟨rfl, parameters, found.mpr ⟨agree, ?_⟩, ?_⟩
  · rw [parameters, bound]
    exact fun entry member => member
  · obtain ⟨template, written, -, executable⟩ := runs plain free agree
    obtain rfl := Except.ok.inj written
    exact executable

/-- Of two values of one name only the later one is found, and a join without a source takes its
values with it. -/
theorem Statement.loses_values :
    (let statement := Statement.select { Select.ofColumns [.param "p" (.int 1)] with
      condition := some (.binary .eq (.named "a") (.param "p" (.int 2))) }
    let compiled : Compiled := ⟨"SELECT %(p)s WHERE a = %(p)s", [("p", .int 2)]⟩
    statement.compile .standard false = .ok compiled ∧
      ("p", .int 1) ∈ statement.parameters ∧ compiled.params.lookup "p" ≠ some (.int 1) ∧
      compiled.executable = .ok "SELECT 2 WHERE a = 2") ∧
    (let statement := Statement.select { Select.ofColumns [.named "a"] with
      joins := [⟨.table ⟨"t", none⟩ none, some (.param "p" (.int 1)), .none⟩] }
    let compiled : Compiled := ⟨"SELECT a", []⟩
    statement.compile .standard false = .ok compiled ∧
      ("p", .int 1) ∈ statement.parameters ∧ compiled.params.lookup "p" = none ∧
      compiled.executable = .ok "SELECT a") := by
  refine ⟨⟨rfl, List.mem_cons_self .., fun same => ?_, rfl⟩,
    ⟨rfl, List.mem_cons_self .., rfl, rfl⟩⟩
  have values : some (Value.int 2) = some (.int 1) := same
  simp at values

end ClickHouse
