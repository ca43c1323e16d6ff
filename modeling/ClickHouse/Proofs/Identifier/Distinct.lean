import ClickHouse.Proofs.Placeholder.Passing

/-!
Written names tell tables apart. A bare name ends before the first character that no bare name
has, a quoted one at the first mark that is not doubled, so what stands before a dot or at the end
of a text is the reference of one name only (`Identifier.reference_unique`).
-/

namespace ClickHouse

namespace Identifier

/-- What can stand behind a name: nothing, or the dot between a schema and a table. -/
def Follows (text : List Char) : Prop :=
  ∀ c ∈ text.head?, c = '.'

def doubled (mark : Char) (name : List Char) : List Char :=
  name.flatMap fun c => if c = mark then [c, c] else [c]

section

variable {mark c : Char} {name : List Char}

@[simp] theorem doubled_nil : doubled mark [] = [] := rfl

@[simp] theorem doubled_cons_mark :
    doubled mark (mark :: name) = mark :: mark :: doubled mark name := by
  simp [doubled]

theorem doubled_cons (other : c ≠ mark) : doubled mark (c :: name) = c :: doubled mark name := by
  simp [doubled, other]

theorem head?_doubled (rest : List Char) : (doubled mark (c :: name) ++ rest).head? = some c := by
  by_cases isMark : c = mark <;> simp [doubled, isMark]

end

theorem toList_doubleMarks (style : QuoteStyle) (name : String) :
    (doubleMarks style name).toList = doubled style.mark name.toList := by
  rw [doubleMarks, String.toList_ofList, doubled]

theorem toList_reference_quoted (style : QuoteStyle) (name : String)
    (quoted : requiresQuotes name = true) :
    (reference style name).toList =
      style.mark :: (doubled style.mark name.toList ++ [style.mark]) := by
  simp [reference, quoted, toList_doubleMarks]

theorem reference_bare (style : QuoteStyle) (name : String)
    (bare : requiresQuotes name = false) : reference style name = name := by
  simp [reference, bare]

theorem mark_ne_dot (style : QuoteStyle) : style.mark ≠ '.' := by
  cases style <;> decide

theorem not_isPlainChar_mark (style : QuoteStyle) : isPlainChar style.mark = false := by
  cases style <;> decide

theorem doubled_unique (mark : Char) (name other rest more : List Char)
    (single : rest.head? ≠ some mark) (singleMore : more.head? ≠ some mark)
    (same : doubled mark name ++ mark :: rest = doubled mark other ++ mark :: more) :
    name = other ∧ rest = more := by
  induction name generalizing other with
  | nil =>
      cases other with
      | nil => simpa using same
      | cons d others =>
          by_cases isMark : d = mark
          · -- the single mark would be the first of two
            subst isMark
            simp only [doubled_nil, doubled_cons_mark, List.nil_append, List.cons_append,
              List.cons.injEq, true_and] at same
            simp [same] at single
          · simp only [doubled_nil, doubled_cons isMark, List.nil_append, List.cons_append,
              List.cons.injEq] at same
            exact absurd same.1.symm isMark
  | cons c names ih =>
      cases other with
      | nil =>
          by_cases isMark : c = mark
          · subst isMark
            simp only [doubled_nil, doubled_cons_mark, List.nil_append, List.cons_append,
              List.cons.injEq, true_and] at same
            simp [← same] at singleMore
          · simp only [doubled_nil, doubled_cons isMark, List.nil_append, List.cons_append,
              List.cons.injEq] at same
            exact absurd same.1 isMark
      | cons d others =>
          have first : c = d := by
            simpa only [head?_doubled, Option.some.injEq] using congrArg List.head? same
          subst first
          have following :
              doubled mark names ++ mark :: rest = doubled mark others ++ mark :: more := by
            by_cases isMark : c = mark
            · subst isMark
              simpa only [doubled_cons_mark, List.cons_append, List.cons.injEq, true_and] using same
            · simpa only [doubled_cons isMark, List.cons_append, List.cons.injEq, true_and] using same
          obtain ⟨rfl, tails⟩ := ih others following
          exact ⟨rfl, tails⟩

theorem bare_unique (name other rest more : List Char) (plain : name.all isPlainChar = true)
    (plainOther : other.all isPlainChar = true) (follows : Follows rest)
    (followsMore : Follows more) (same : name ++ rest = other ++ more) :
    name = other ∧ rest = more := by
  have ends (text tail : List Char) (plain : text.all isPlainChar = true) (follows : Follows tail) :
      (text ++ tail).takeWhile isPlainChar = text := by
    rw [List.takeWhile_append_of_pos (List.all_eq_true.mp plain)]
    cases tail with
    | nil => simp
    | cons c others =>
        obtain rfl : c = '.' := follows c rfl
        simp [isPlainChar]
  obtain rfl : name = other := by
    rw [← ends name rest plain follows, ← ends other more plainOther followsMore, same]
  exact ⟨rfl, List.append_cancel_left same⟩

theorem bare_ne_quoted (style : QuoteStyle) (name : String) (rest more : List Char)
    (bare : requiresQuotes name = false) (same : name.toList ++ rest = style.mark :: more) :
    False := by
  obtain ⟨nonempty, plain⟩ := isPlainChar_of_not_requiresQuotes name bare
  cases characters : name.toList with
  | nil => exact nonempty (by simpa using characters)
  | cons c others =>
      rw [characters] at same plain
      obtain ⟨rfl, -⟩ := List.cons.inj same
      rw [List.all_cons, not_isPlainChar_mark style, Bool.false_and] at plain
      contradiction

/-- A reference can be told from what follows it, and its name from the reference. -/
theorem reference_unique (style : QuoteStyle) (name other : String) (rest more : List Char)
    (follows : Follows rest) (followsMore : Follows more)
    (same : (reference style name).toList ++ rest = (reference style other).toList ++ more) :
    name = other ∧ rest = more := by
  cases quoted : requiresQuotes name <;> cases quotedOther : requiresQuotes other
  · rw [reference_bare style name quoted, reference_bare style other quotedOther] at same
    obtain ⟨-, plain⟩ := isPlainChar_of_not_requiresQuotes name quoted
    obtain ⟨-, plainOther⟩ := isPlainChar_of_not_requiresQuotes other quotedOther
    obtain ⟨characters, tails⟩ :=
      bare_unique _ _ rest more plain plainOther follows followsMore same
    exact ⟨String.toList_injective characters, tails⟩
  · rw [reference_bare style name quoted, toList_reference_quoted style other quotedOther] at same
    exact (bare_ne_quoted style name rest _ quoted same).elim
  · rw [toList_reference_quoted style name quoted, reference_bare style other quotedOther] at same
    exact (bare_ne_quoted style other more _ quotedOther same.symm).elim
  · have single (text : List Char) (follows : Follows text) : text.head? ≠ some style.mark :=
      fun isMark => mark_ne_dot style (follows _ isMark)
    rw [toList_reference_quoted style name quoted,
      toList_reference_quoted style other quotedOther] at same
    obtain ⟨characters, tails⟩ := doubled_unique style.mark _ _ rest more (single rest follows)
      (single more followsMore) (by simpa using same)
    exact ⟨String.toList_injective characters, tails⟩

end Identifier

theorem TableName.reference_injective (style : QuoteStyle) :
    Function.Injective (TableName.reference style) := by
  intro table other same
  obtain ⟨name, schema⟩ := table
  obtain ⟨otherName, otherSchema⟩ := other
  have nothing : Identifier.Follows [] := by simp [Identifier.Follows]
  have dot (text : List Char) : Identifier.Follows ('.' :: text) := by simp [Identifier.Follows]
  have characters := congrArg String.toList same
  have unique := Identifier.reference_unique style
  cases schema with
  | none =>
      cases otherSchema with
      | none =>
          obtain ⟨rfl, -⟩ := unique name otherName [] [] nothing nothing
            (by simpa [reference] using characters)
          rfl
      | some second =>
          obtain ⟨-, tails⟩ := unique name second [] _ nothing (dot _)
            (by simpa [reference] using characters)
          contradiction
  | some first =>
      cases otherSchema with
      | none =>
          obtain ⟨-, tails⟩ := unique first otherName _ [] (dot _) nothing
            (by simpa [reference] using characters)
          contradiction
      | some second =>
          obtain ⟨rfl, tails⟩ := unique first second _ _ (dot _) (dot _)
            (by simpa [reference] using characters)
          obtain ⟨rfl, -⟩ := unique name otherName [] [] nothing nothing (by simpa using tails)
          rfl

/-- No two tables are written alike, whatever characters their names and schemas hold: neither in a
statement with placeholders nor in the statement that a server runs, in which their percent signs
are single again. -/
theorem TableName.written_eq_iff (style : QuoteStyle) (table other : TableName) :
    (Placeholder.protect (table.reference style) = Placeholder.protect (other.reference style) ↔
      table = other) ∧
    substitute (Placeholder.protect (table.reference style)) [] = .ok (table.reference style) ∧
    (substitute (Placeholder.protect (table.reference style)) [] =
      substitute (Placeholder.protect (other.reference style)) [] ↔ table = other) := by
  have filled (table : TableName) : substitute (Placeholder.protect (table.reference style)) [] =
      .ok (table.reference style) := by
    rw [Placeholder.substitute_nil_iff]
    exact (Placeholder.Keeps.protect _).passes_iff.mpr trivial
  have distinct : substitute (Placeholder.protect (table.reference style)) [] =
      substitute (Placeholder.protect (other.reference style)) [] ↔ table = other := by
    rw [filled, filled, Except.ok.injEq]
    exact (reference_injective style).eq_iff
  refine ⟨⟨fun same => distinct.mp (congrArg (substitute · []) same), ?_⟩, filled table, distinct⟩
  rintro rfl
  rfl

example : (⟨"a.b", none⟩ : TableName).reference .grave = "`a.b`" ∧
    (⟨"b", some "a"⟩ : TableName).reference .grave = "a.b" := by
  decide

end ClickHouse
