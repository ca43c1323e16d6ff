import ClickHouse.Proofs.Placeholder.Filling

/-!
Templates of one statement with bound values and with literals in their places. The two differ in
nothing but the values, or the second puts parentheses around a negative value that the first
leaves bare behind a sign; which of the two it is, decides whether they show the same text
(`InlinesTo.agree_iff`).
-/

namespace ClickHouse

open Placeholder

def Piece.inlined : Piece → Template
  | code text => [.code text]
  | plain text => [.plain text]
  | bind _ value => [.plain value.literal]
  | unwritten _ _ => []

namespace Template

def inlined (template : Template) : Template :=
  template.flatMap Piece.inlined

@[simp] theorem inlined_nil : inlined [] = [] := rfl

@[simp] theorem inlined_cons (piece : Piece) (rest : Template) :
    inlined (piece :: rest) = piece.inlined ++ inlined rest := by
  simp [inlined]

@[simp] theorem inlined_append (left right : Template) :
    inlined (left ++ right) = left.inlined ++ right.inlined := by
  simp [inlined]

/-- Whether a negative value stands behind a sign in one template and in parentheses in the
other, and nothing differs before that. -/
def Diverges (bound literal : Template) : Prop :=
  ∃ (before rest more : Template) (sign name : String) (value : Value),
    bound = before ++ .code sign :: .bind name value :: rest ∧
    literal = before.inlined ++ .code sign :: .code "(" :: more ∧
    (sign = "-" ∨ sign = "NOT ") ∧ value.literal.toList.head? = some '-'

end Template

/-- What a template may hold: text that does not end on a single percent sign, and values of the
given scope. -/
def Piece.Admitted (scope : List (String × Value)) : Piece → Prop
  | code text => text.toList.getLast? ≠ some '%'
  | plain _ => True
  | bind name value => (name, value) ∈ scope
  | unwritten name value => (name, value) ∈ scope

open Template

theorem getLast?_append_ne (text ending : String)
    (last : ending.toList.getLast?.any (· ≠ '%') = true) :
    (text ++ ending).toList.getLast? ≠ some '%' := by
  obtain ⟨c, isLast, notPercent⟩ := (Option.any_eq_true _ _).mp last
  simpa [List.getLast?_append, isLast] using notPercent

/-- The template of a statement with bound values and the one with literals. -/
structure InlinesTo (agree : Bool) (scope : List (String × Value)) (bound literal : Template) :
    Prop where
  same : agree = true → literal = bound.inlined
  differ : agree = false → Diverges bound literal
  admitted : ∀ piece ∈ bound, piece.Admitted scope
  inline : ∀ piece ∈ literal, piece.binding? = none

def Template.Fixed (template : Template) : Prop :=
  ∀ piece ∈ template, (piece.Admitted [] ∧ piece.binding? = none)

namespace InlinesTo

variable {agree agreeRight : Bool} {scope : List (String × Value)}
variable {bound literal boundRight literalRight : Template}

theorem fixed (template : Template) (isFixed : template.Fixed) :
    InlinesTo true scope template template := by
  refine ⟨?_, by simp, ?_, fun piece member => (isFixed piece member).2⟩
  · intro _
    induction template with
    | nil => rfl
    | cons piece rest ih =>
        have others := ih fun other member => isFixed other (List.mem_cons_of_mem _ member)
        have inline := (isFixed piece (by simp)).2
        cases piece with
        | code text | plain text => simp [Piece.inlined, ← others]
        | bind name value | unwritten name value => contradiction
  · intro piece member
    obtain ⟨admitted, inline⟩ := isFixed piece member
    cases piece with
    | code text | plain text => exact admitted
    | bind name value | unwritten name value => contradiction

theorem append (left : InlinesTo agree scope bound literal)
    (right : InlinesTo agreeRight scope boundRight literalRight) :
    InlinesTo (agree && agreeRight) scope (bound ++ boundRight) (literal ++ literalRight) := by
  refine ⟨?_, ?_, ?_, ?_⟩
  · intro both
    obtain ⟨agrees, agreesRight⟩ := Bool.and_eq_true_iff.mp both
    rw [left.same agrees, right.same agreesRight, inlined_append]
  · intro notBoth
    cases agrees : agree with
    | false =>
        obtain ⟨before, rest, more, sign, name, value, rfl, rfl, isSign, negative⟩ :=
          left.differ agrees
        exact ⟨before, rest ++ boundRight, more ++ literalRight, sign, name, value, by simp,
          by simp, isSign, negative⟩
    | true =>
        obtain ⟨before, rest, more, sign, name, value, rfl, rfl, isSign, negative⟩ :=
          right.differ (by simpa [agrees] using notBoth)
        rw [left.same agrees]
        exact ⟨bound ++ before, rest, more, sign, name, value, by simp, by simp, isSign, negative⟩
  · simpa [or_imp, forall_and] using And.intro left.admitted right.admitted
  · simpa [or_imp, forall_and] using And.intro left.inline right.inline

theorem code_cons (text : String) (last : text.toList.getLast? ≠ some '%')
    (inlines : InlinesTo agree scope bound literal) :
    InlinesTo agree scope (.code text :: bound) (.code text :: literal) := by
  have isFixed : Template.Fixed [.code text] := by
    intro piece member
    obtain rfl : piece = .code text := by simpa using member
    exact ⟨last, rfl⟩
  simpa using (fixed [.code text] isFixed).append inlines

theorem code (text : String) (last : text.toList.getLast? ≠ some '%') :
    InlinesTo true scope [.code text] [.code text] :=
  code_cons text last (fixed [] (by simp [Template.Fixed]))

theorem append_code (text : String) (last : text.toList.getLast? ≠ some '%')
    (inlines : InlinesTo agree scope bound literal) :
    InlinesTo agree scope (bound ++ [.code text]) (literal ++ [.code text]) := by
  simpa using inlines.append (code text last)

theorem parenthesized (inlines : InlinesTo agree scope bound literal) :
    InlinesTo agree scope bound.parenthesized literal.parenthesized :=
  code_cons "(" (by decide) (append_code ")" (by decide) inlines)

theorem plain (text : String) : InlinesTo true scope (Template.plain text) (Template.plain text) :=
  fixed _ (by simp [Template.Fixed, Template.plain, Piece.Admitted, Piece.binding?])

theorem empty : InlinesTo true scope [] [] :=
  fixed [] (by simp [Template.Fixed])

theorem unwritten (inlines : InlinesTo agree scope bound literal) :
    InlinesTo true scope bound.unwritten literal.unwritten := by
  have literalEmpty : literal.unwritten = [] := by
    rw [Template.unwritten, List.map_eq_nil_iff, Template.bindings, List.filterMap_eq_nil_iff]
    exact inlines.inline
  rw [literalEmpty]
  refine ⟨?_, by simp, ?_, by simp⟩
  · intro _
    simp [Template.unwritten, Template.inlined, List.flatMap_map, Piece.inlined]
  · intro piece member
    obtain ⟨entry, isEntry, rfl⟩ := List.mem_map.mp member
    obtain ⟨origin, isOrigin, binding⟩ := List.mem_filterMap.mp isEntry
    have admitted := inlines.admitted origin isOrigin
    cases origin with
    | code text | plain text => contradiction
    | bind name value | unwritten name value =>
        obtain rfl : (name, value) = entry := by simpa [Piece.binding?] using binding
        exact admitted

end InlinesTo

theorem Params.lookup_bind (params : Params) (name other : String) (value : Value) :
    (params.bind name value).lookup other =
      if other = name then some value else params.lookup other := by
  have kept : other ≠ name →
      (params.filter fun entry => entry.1 ≠ name).lookup other = params.lookup other := by
    intro different
    induction params with
    | nil => rfl
    | cons entry rest ih =>
        obtain ⟨key, stored⟩ := entry
        by_cases same : key = name
        · have skipped : (other == key) = false := by simp [same, different]
          rw [List.filter_cons_of_neg (by simp [same]), ih, List.lookup_cons, skipped]
        · rw [List.filter_cons_of_pos (by simpa using same), List.lookup_cons, List.lookup_cons, ih]
  by_cases same : other = name
  · simp [Params.bind, same]
  · have skipped : (other == name) = false := by simp [same]
    rw [Params.bind, List.lookup_cons, skipped, if_neg same]
    exact kept same

theorem lookup_foldl_bind (entries : List (String × Value)) (params : Params) (name : String)
    (value : Value) (consistent : ∀ entry ∈ entries, entry.1 = name → entry.2 = value)
    (found : params.lookup name = some value ∨ ∃ entry ∈ entries, entry.1 = name) :
    (entries.foldl (fun params entry => params.bind entry.1 entry.2) params).lookup name =
      some value := by
  induction entries generalizing params with
  | nil => simpa using found
  | cons entry rest ih =>
      rw [List.foldl_cons]
      refine ih _ (fun other member => consistent other (List.mem_cons_of_mem _ member)) ?_
      rw [Params.lookup_bind]
      by_cases same : name = entry.1
      · left
        rw [if_pos same, consistent entry (by simp) same.symm]
      · rw [if_neg same]
        rcases found with found | ⟨other, member, named⟩
        · exact Or.inl found
        · rcases List.mem_cons.mp member with rfl | member
          · exact absurd named.symm same
          · exact Or.inr ⟨other, member, named⟩

/-- Whether names are words and equal names have equal values. -/
structure Consistent (scope : List (String × Value)) : Prop where
  words : ∀ entry ∈ scope, Identifier.isWord entry.1 = true
  values : ∀ entry ∈ scope, ∀ other ∈ scope, entry.1 = other.1 → entry.2 = other.2

theorem lookup_params (scope : List (String × Value)) (consistent : Consistent scope)
    (template : Template) (admitted : ∀ piece ∈ template, piece.Admitted scope) (name : String)
    (value : Value) (member : .bind name value ∈ template) :
    template.params.lookup name = some value := by
  have inScope : ∀ entry ∈ template.bindings, entry ∈ scope := by
    intro entry isBound
    obtain ⟨piece, isPiece, binding⟩ := List.mem_filterMap.mp isBound
    have admitted := admitted piece isPiece
    cases piece with
    | code text | plain text => contradiction
    | bind name value | unwritten name value =>
        obtain rfl : (name, value) = entry := by simpa [Piece.binding?] using binding
        exact admitted
  refine lookup_foldl_bind template.bindings [] name value (fun entry isBound named => ?_)
    (Or.inr ⟨(name, value), List.mem_filterMap.mpr ⟨_, member, rfl⟩, rfl⟩)
  exact consistent.values entry (inScope entry isBound) (name, value) (admitted _ member) named

theorem not_isBind_of_noBind (segments : List Segment) (noBind : segments.any Segment.isBind = false)
    (name : List Char) : Segment.bind name ∉ segments := by
  intro member
  have isBind := List.any_eq_false.mp noBind _ member
  simp [Segment.isBind] at isBind

theorem Placeholder.Alike.piece {value : List Char → List Char} (piece : Piece)
    (settled : ∀ text, piece = .code text → text.toList.getLast? ≠ some '%')
    (stands : ∀ name bound, piece = .bind name bound →
      Identifier.isWord name = true ∧ value name.toList = bound.literal.toList)
    {left right : Reading} (alike : Alike left right) (notPercent : left.progress ≠ .percent)
    (noBind : (run right.progress (Template.text piece.inlined).toList).1.any Segment.isBind =
      false) :
    Alike (left.advance value piece.written.toList)
        (right.advance value (Template.text piece.inlined).toList) ∧
      (left.advance value piece.written.toList).progress ≠ .percent ∧
      ∀ name, .bind name ∈ (run left.progress piece.written.toList).1 →
        ∃ bound, piece = .bind (String.ofList name) bound := by
  cases piece with
  | code text =>
      have shape : Template.text (Piece.code text).inlined = text := by
        simp [Piece.inlined, Piece.written]
      rw [shape] at noBind ⊢
      obtain ⟨alike', noBindLeft⟩ := alike.advance value text.toList noBind
      refine ⟨alike', run_ne_percent _ _ notPercent (settled text rfl), fun name member => ?_⟩
      exact absurd member (not_isBind_of_noBind _ noBindLeft name)
  | plain text =>
      have shape : Template.text (Piece.plain text).inlined = protect text := by
        simp [Piece.inlined, Piece.written]
      rw [shape] at noBind ⊢
      obtain ⟨alike', noBindLeft⟩ := alike.advance value (protect text).toList noBind
      refine ⟨alike', ?_, fun name member => ?_⟩
      · have characters : (protect text).toList =
            text.toList.flatMap fun c => if c = '%' then ['%', '%'] else [c] := by
          simp [protect]
        rw [characters] at noBindLeft
        rw [Piece.written, characters]
        exact (run_protect value left.progress text.toList notPercent noBindLeft).1
      · exact absurd member (not_isBind_of_noBind _ noBindLeft name)
  | bind name bound =>
      have shape : Template.text (Piece.bind name bound).inlined = protect bound.literal := by
        simp [Piece.inlined, Piece.written]
      rw [shape] at noBind ⊢
      obtain ⟨word, standsFor⟩ := stands name bound rfl
      obtain ⟨alike', advanced⟩ :=
        alike.advance_bind name bound.literal word notPercent standsFor noBind
      refine ⟨alike', by rw [Piece.written, advanced]; simp, fun other member => ?_⟩
      rw [Piece.written, run_bind left.progress name word notPercent] at member
      obtain rfl : other = name.toList := by simpa using member
      exact ⟨bound, by rw [String.ofList_toList]⟩
  | unwritten name bound =>
      refine ⟨by simpa [Piece.written, Piece.inlined, Reading.advance, run, shown] using alike, ?_, ?_⟩
      · simpa [Piece.written, Reading.advance, run] using notPercent
      · simp [Piece.written, run]

theorem Placeholder.Alike.template (value : List Char → List Char) (template : Template)
    (settled : ∀ text, .code text ∈ template → text.toList.getLast? ≠ some '%')
    (stands : ∀ name bound, .bind name bound ∈ template →
      Identifier.isWord name = true ∧ value name.toList = bound.literal.toList)
    {left right : Reading} (alike : Alike left right) (notPercent : left.progress ≠ .percent)
    (noBind : (run right.progress template.inlined.text.toList).1.any Segment.isBind = false) :
    Alike (left.advance value template.text.toList)
        (right.advance value template.inlined.text.toList) ∧
      (left.advance value template.text.toList).progress ≠ .percent ∧
      ∀ name, .bind name ∈ (run left.progress template.text.toList).1 →
        ∃ bound, .bind (String.ofList name) bound ∈ template := by
  induction template generalizing left right with
  | nil =>
      simpa [run] using And.intro alike notPercent
  | cons piece rest ih =>
      simp only [text_cons, inlined_cons, text_append, String.toList_append] at noBind ⊢
      rw [run_append, List.any_append, Bool.or_eq_false_iff] at noBind
      obtain ⟨noBindPiece, noBindRest⟩ := noBind
      obtain ⟨alike', notPercent', bindsPiece⟩ := alike.piece piece
        (fun text same => settled text (by simp [same]))
        (fun name bound same => stands name bound (by simp [same])) notPercent noBindPiece
      obtain ⟨alikeRest, notPercentRest, bindsRest⟩ :=
        ih (fun text member => settled text (List.mem_cons_of_mem _ member))
          (fun name bound member => stands name bound (List.mem_cons_of_mem _ member))
          alike' notPercent' (by simpa [Reading.advance] using noBindRest)
      rw [Reading.advance_append, Reading.advance_append, run_append]
      refine ⟨alikeRest, notPercentRest, fun name member => ?_⟩
      rcases List.mem_append.mp member with member | member
      · obtain ⟨bound, rfl⟩ := bindsPiece name member
        exact ⟨bound, by simp⟩
      · obtain ⟨bound, isPiece⟩ := bindsRest name member
        exact ⟨bound, List.mem_cons_of_mem _ isPiece⟩

theorem Compiled.executable_of_bound (compiled : Compiled)
    (bound : ∀ name, .bind name ∈ segments compiled.sql →
      (compiled.params.lookup (String.ofList name)).isSome = true) :
    compiled.executable =
      .ok (String.ofList (shown (valueOf compiled.params) (segments compiled.sql))) := by
  rw [Compiled.executable, substitute, fill_of_bound _ _ bound]

theorem Compiled.bound_of_executable (compiled : Compiled) (text : String)
    (executable : compiled.executable = .ok text) :
    ∀ name, .bind name ∈ segments compiled.sql →
      (compiled.params.lookup (String.ofList name)).isSome = true := by
  rw [Compiled.executable, substitute] at executable
  split at executable
  · rename_i filled isFilled
    exact bound_of_fill _ _ filled isFilled
  · contradiction

theorem Compiled.executable_toList (compiled : Compiled) (text : String)
    (executable : compiled.executable = .ok text) :
    text.toList =
      (Reading.start.advance (valueOf compiled.params) compiled.sql.toList).content := by
  rw [compiled.executable_of_bound (compiled.bound_of_executable text executable),
    Except.ok.injEq] at executable
  rw [← executable, String.toList_ofList, Reading.content_start]

/-! Behind a sign with a negative value the two texts part: one of them starts a comment. -/

namespace Placeholder.Reading

theorem outside_of_sign (reading : Reading) (value : List Char → List Char) (template : Template)
    (sign : String) (isSign : sign = "-" ∨ sign = "NOT ") :
    (reading.advance value (template ++ [Piece.code sign]).text.toList).progress = .outside := by
  obtain ⟨before, c, characters, isEnd⟩ : ∃ before c,
      (template ++ [Piece.code sign]).text.toList = before ++ [c] ∧ (c = '-' ∨ c = ' ') := by
    rcases isSign with rfl | rfl
    · exact ⟨template.text.toList, '-', by simp [Piece.written], Or.inl rfl⟩
    · exact ⟨template.text.toList ++ ['N', 'O', 'T'], ' ', by simp [Piece.written], Or.inr rfl⟩
  rw [characters]
  exact run_outside _ before c isEnd

variable (value : List Char → List Char) {reading : Reading}

theorem content_bind (outside : reading.progress = .outside) {name : String} {bound : Value}
    (word : Identifier.isWord name = true)
    (standsFor : value name.toList = bound.literal.toList) (rest : List Char) :
    ∃ tail, (reading.advance value (("%(" ++ name ++ ")s").toList ++ rest)).content =
      reading.content ++ (bound.literal.toList ++ tail) := by
  rw [advance_append, advance_bind value _ name bound.literal word (by simp [outside]) standsFor]
  obtain ⟨tail, shows⟩ :=
    content_advance value ⟨reading.content ++ bound.literal.toList, .outside⟩ rest
  exact ⟨tail, by rw [shows, List.append_assoc]⟩

theorem content_parenthesis (outside : reading.progress = .outside) (rest : List Char) :
    ∃ tail, (reading.advance value ('(' :: rest)).content = reading.content ++ '(' :: tail := by
  have content : reading.content = reading.shown := by
    rw [Reading.content, outside]
    exact List.append_nil _
  obtain ⟨tail, shows⟩ := content_advance value ⟨reading.shown ++ ['('], .outside⟩ rest
  have opens : reading.advance value ['('] = ⟨reading.shown ++ ['('], .outside⟩ := by
    rw [advance_singleton, outside]
    rfl
  refine ⟨tail, ?_⟩
  rw [← List.singleton_append, advance_append, opens, shows, content, List.append_assoc,
    List.singleton_append]

end Placeholder.Reading

theorem Template.params_of_inline (template : Template)
    (inline : ∀ piece ∈ template, piece.binding? = none) : template.params = [] := by
  have none : template.bindings = [] := by
    rw [Template.bindings, List.filterMap_eq_nil_iff]
    exact inline
  rw [Template.params, none]
  rfl

/-- A text without bound values is executable only if it holds no placeholder. -/
theorem noPlaceholder_of_executable {text : String} (template : Template)
    (inline : ∀ piece ∈ template, piece.binding? = none)
    (executable : template.compiled.executable = .ok text) :
    holdsPlaceholder template.text = false := by
  rw [holdsPlaceholder, List.any_eq_false]
  intro segment member isBind
  cases segment with
  | text chars => contradiction
  | bind name =>
      have bound := template.compiled.bound_of_executable _ executable name member
      simp [Template.compiled, template.params_of_inline inline] at bound

theorem noBind_of_noPlaceholder (text : String) (none : holdsPlaceholder text = false) :
    (run .outside text.toList).1.any Segment.isBind = false := by
  rw [holdsPlaceholder, segments, segmentsFrom_eq_run, List.any_append,
    Bool.or_eq_false_iff] at none
  exact none.1

theorem shown_of_noBind (value other : List Char → List Char) (segments : List Segment)
    (noBind : segments.any Segment.isBind = false) : shown value segments = shown other segments := by
  induction segments with
  | nil => rfl
  | cons segment rest ih =>
      rw [List.any_cons, Bool.or_eq_false_iff] at noBind
      cases segment with
      | text chars => rw [shown, shown, ih noBind.2]
      | bind name => exact absurd noBind.1 (by simp [Segment.isBind])

theorem Placeholder.Alike.start : Alike .start .start :=
  ⟨Or.inl rfl, rfl⟩

namespace InlinesTo

variable {agree : Bool} {scope : List (String × Value)} {bound literal : Template}

theorem settled (inlines : InlinesTo agree scope bound literal) :
    ∀ text, .code text ∈ bound → text.toList.getLast? ≠ some '%' :=
  fun _ member => inlines.admitted _ member

theorem stands (inlines : InlinesTo agree scope bound literal) (consistent : Consistent scope) :
    ∀ name value, .bind name value ∈ bound →
      Identifier.isWord name = true ∧
        valueOf bound.params name.toList = value.literal.toList := by
  intro name value member
  refine ⟨consistent.words _ (inlines.admitted _ member), ?_⟩
  rw [valueOf, String.ofList_toList,
    lookup_params scope consistent bound inlines.admitted name value member]

/-- Templates that agree show the same text, unless text that is written as it is spells a
placeholder. -/
theorem executable_of_agree (inlines : InlinesTo true scope bound literal)
    (consistent : Consistent scope) (none : holdsPlaceholder literal.text = false) :
    ∃ text, bound.compiled.executable = .ok text ∧ literal.compiled.executable = .ok text := by
  have noBind := noBind_of_noPlaceholder _ none
  rw [inlines.same rfl] at noBind
  obtain ⟨alike, _, binds⟩ := Alike.start.template (valueOf bound.params) bound inlines.settled
    (inlines.stands consistent) (by simp [Reading.start]) noBind
  have boundNames : ∀ name, .bind name ∈ segments bound.text →
      (bound.params.lookup (String.ofList name)).isSome = true := by
    intro name member
    rw [segments, segmentsFrom_eq_run] at member
    obtain ⟨value, isPiece⟩ := binds name (by simpa [Reading.start] using member)
    rw [lookup_params scope consistent bound inlines.admitted _ value isPiece]
    rfl
  have literalNames : ∀ name, .bind name ∈ segments literal.text →
      (literal.params.lookup (String.ofList name)).isSome = true := by
    intro name member
    exact absurd member (not_isBind_of_noBind _ none name)
  refine ⟨_, bound.compiled.executable_of_bound boundNames, ?_⟩
  rw [literal.compiled.executable_of_bound literalNames]
  have content := alike.content
  rw [Reading.content_start, ← inlines.same rfl, Reading.content_start] at content
  rw [Except.ok.injEq]
  change String.ofList (shown (valueOf literal.params) (segments literal.text)) =
    String.ofList (shown (valueOf bound.params) (segments bound.text))
  rw [content]
  exact congrArg String.ofList (shown_of_noBind _ _ _ none)

/-- A negative value without parentheses and the same value in parentheses part the two texts. -/
theorem not_executable_of_diverges (inlines : InlinesTo false scope bound literal)
    (consistent : Consistent scope) (text : String)
    (executable : bound.compiled.executable = .ok text)
    (executableLiteral : literal.compiled.executable = .ok text) : False := by
  have none := noPlaceholder_of_executable literal inlines.inline executableLiteral
  have noBind := noBind_of_noPlaceholder _ none
  have characters := bound.compiled.executable_toList text executable
  have charactersLiteral : text.toList =
      (Reading.start.advance (valueOf bound.params) literal.text.toList).content := by
    rw [Reading.content_start, shown_of_noBind (valueOf bound.params) (valueOf literal.params) _ none,
      ← Reading.content_start]
    exact literal.compiled.executable_toList text executableLiteral
  change text.toList = (Reading.start.advance (valueOf bound.params) bound.text.toList).content
    at characters
  have stands := inlines.stands consistent
  have settled := inlines.settled
  obtain ⟨before, rest, more, sign, name, value, shape, shapeLiteral, isSign, negative⟩ :=
    inlines.differ rfl
  generalize valueOf bound.params = values at *
  obtain ⟨word, standsFor⟩ := stands name value (by simp [shape])
  have boundText : bound.text.toList = (before ++ [Piece.code sign]).text.toList ++
      (("%(" ++ name ++ ")s").toList ++ rest.text.toList) := by
    simp [shape, Piece.written]
  have literalText : literal.text.toList =
      (before ++ [Piece.code sign]).inlined.text.toList ++ '(' :: more.text.toList := by
    simp [shapeLiteral, Piece.written, Piece.inlined]
  have inBound : ∀ piece ∈ before ++ [Piece.code sign], piece ∈ bound := by
    intro piece member
    rw [shape, List.append_cons]
    exact List.mem_append_left _ member
  rw [literalText, run_append, List.any_append, Bool.or_eq_false_iff] at noBind
  -- up to the sign both templates show the same, and no placeholder has been begun
  obtain ⟨alike, _, _⟩ := Alike.start.template values (before ++ [Piece.code sign])
    (fun text member => settled text (inBound _ member))
    (fun name bound member => stands name bound (inBound _ member)) (by simp [Reading.start])
    noBind.1
  have outside := Reading.start.outside_of_sign values before sign isSign
  have outsideLiteral := Reading.start.outside_of_sign values before.inlined sign isSign
  rw [show before.inlined ++ [Piece.code sign] = (before ++ [Piece.code sign]).inlined by
    simp [Piece.inlined]] at outsideLiteral
  rw [boundText, Reading.advance_append] at characters
  rw [literalText, Reading.advance_append] at charactersLiteral
  obtain ⟨tail, shows⟩ :=
    Reading.content_bind values outside word standsFor rest.text.toList
  obtain ⟨tailLiteral, showsLiteral⟩ :=
    Reading.content_parenthesis values outsideLiteral more.text.toList
  rw [← characters] at shows
  rw [← charactersLiteral, ← alike.content] at showsLiteral
  -- behind the same text stands the minus of the value in one text and a parenthesis in the other
  have heads := congrArg List.head? (List.append_cancel_left (shows.symm.trans showsLiteral))
  rw [List.head?_append, negative] at heads
  simp at heads

theorem agree_iff (inlines : InlinesTo agree scope bound literal)
    (consistent : Consistent scope) :
    (∃ text, bound.compiled.executable = .ok text ∧ literal.compiled.executable = .ok text) ↔
      agree = true ∧ holdsPlaceholder literal.text = false := by
  constructor
  · rintro ⟨text, executable, executableLiteral⟩
    refine ⟨?_, noPlaceholder_of_executable literal inlines.inline executableLiteral⟩
    cases agree with
    | true => rfl
    | false =>
        exact absurd (inlines.not_executable_of_diverges consistent text executable
          executableLiteral) id
  · rintro ⟨rfl, none⟩
    exact inlines.executable_of_agree consistent none

end InlinesTo

end ClickHouse
