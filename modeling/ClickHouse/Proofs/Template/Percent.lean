import ClickHouse.DataType.Printer
import ClickHouse.Proofs.Placeholder.Discipline

/-!
Templates whose text holds no percent signs of its own except in the types that it writes. Such a
template has a disciplined text exactly when the text of each type is disciplined
(`PercentOnlyIn.disciplined_iff`), and without percent signs in the types it shows all that it was
given (`PercentOnlyIn.shown_text`).
-/

namespace ClickHouse

open Placeholder

/-- Whether a text is disciplined, is known from a condition and not changed by what follows. -/
structure Decides (known : List String) (condition : Prop) (text : List Char) : Prop where
  disciplined_iff : Disciplined known text ↔ condition
  initial : ∀ rest, Disciplined known (text ++ rest) → Disciplined known text

namespace Decides

variable {known : List String} {condition other : Prop} {text more : List Char}

theorem of_disciplined (disciplined : Disciplined known text) (holds : condition) :
    Decides known condition text :=
  ⟨iff_of_true disciplined holds, fun _ _ => disciplined⟩

theorem append (left : Decides known condition text) (right : Decides known other more) :
    Decides known (condition ∧ other) (text ++ more) := by
  constructor
  · constructor
    · intro whole
      have first := left.initial more whole
      exact ⟨left.disciplined_iff.mp first, right.disciplined_iff.mp (first.cancel whole)⟩
    · rintro ⟨isLeft, isRight⟩
      exact (left.disciplined_iff.mpr isLeft).append (right.disciplined_iff.mpr isRight)
  · intro rest whole
    rw [List.append_assoc] at whole
    have first := left.initial (more ++ rest) whole
    exact first.append (right.initial rest (first.cancel whole))

theorem congr (decides : Decides known condition text) (same : condition ↔ other) :
    Decides known other text :=
  ⟨decides.disciplined_iff.trans same, decides.initial⟩

end Decides

theorem free_or_closed (type : DataType) :
    '%' ∉ type.render.toList ∨ Closed type.render.toList := by
  have bracket (text : String) : Closed (text ++ ")").toList := by
    simp [Closed]
  cases type with
  | int type =>
      left
      rcases type with ⟨signed, width⟩
      cases signed <;> cases width <;> decide
  | float32 | float64 | bool | date | date32 | string | uuid | ipv4 | ipv6 => exact Or.inl (by decide)
  | unrecognized spelling =>
      left
      change '%' ∉ "Nothing".toList
      decide
  | dateTime timezone =>
      cases timezone with
      | none => exact Or.inl (by decide)
      | some timezone => exact Or.inr (bracket _)
  | dateTime64 precision timezone =>
      cases timezone with
      | none => exact Or.inr (bracket _)
      | some timezone => exact Or.inr (bracket _)
  | decimal | fixedString | enumeration | array | nullable | lowCardinality | tuple | map | nested
  | aggregateFunction | simpleAggregateFunction => exact Or.inr (bracket _)

theorem decides_type (known : List String) (type : DataType) :
    Decides known (Disciplined known type.render.toList) (type.render.toList ++ [')']) := by
  have bracket : Disciplined known [')'] := .of_free (by decide)
  rcases free_or_closed type with free | closed
  · exact .of_disciplined ((Disciplined.of_free free).append bracket) (.of_free free)
  · constructor
    · constructor
      · exact fun whole => .of_closed closed whole
      · exact fun inside => inside.append bracket
    · intro rest whole
      rw [List.append_assoc] at whole
      exact (Disciplined.of_closed closed whole).append bracket

/-- Texts in which the given types stand, each before a closing bracket. Apart from them there is
no percent sign. -/
inductive SpellsTypes : List DataType → List Char → Prop
  | free {text} : '%' ∉ text → SpellsTypes [] text
  | type (type : DataType) : SpellsTypes [type] (type.render.toList ++ [')'])
  | append {types others text more} : SpellsTypes types text → SpellsTypes others more →
      SpellsTypes (types ++ others) (text ++ more)

namespace SpellsTypes

variable {types : List DataType} {text : List Char}

theorem decides (spells : SpellsTypes types text) (known : List String) :
    Decides known (∀ type ∈ types, Disciplined known type.render.toList) text := by
  induction spells with
  | free free => exact .of_disciplined (.of_free free) (by simp)
  | type type => exact (decides_type known type).congr (by simp)
  | append _ _ ih ihMore => exact (ih.append ihMore).congr (by simp [or_imp, forall_and])

theorem free_of_types (spells : SpellsTypes types text)
    (free : ∀ type ∈ types, '%' ∉ type.render.toList) : '%' ∉ text := by
  induction spells with
  | free noPercent => exact noPercent
  | type type => simpa using free
  | append _ _ ih ihMore =>
      rw [List.mem_append, not_or]
      exact ⟨ih fun type member => free type (List.mem_append_left _ member),
        ihMore fun type member => free type (List.mem_append_right _ member)⟩

end SpellsTypes

/-- Templates that write the given types and hold no percent sign apart from them that is not
doubled or part of a placeholder. -/
inductive PercentOnlyIn : List DataType → Template → Prop
  | nil : PercentOnlyIn [] []
  | code {written types rest} (text : String) : SpellsTypes written text.toList →
      PercentOnlyIn types rest → PercentOnlyIn (written ++ types) (.code text :: rest)
  | plain {types rest} (text : String) : PercentOnlyIn types rest →
      PercentOnlyIn types (.plain text :: rest)
  | bind {types rest} (name : String) (value : Value) : Identifier.isWord name = true →
      PercentOnlyIn types rest → PercentOnlyIn types (.bind name value :: rest)
  | unwritten {types rest} (name : String) (value : Value) : PercentOnlyIn types rest →
      PercentOnlyIn types (.unwritten name value :: rest)

theorem Template.bindings_text (piece : Piece) (rest : Template)
    (shown : piece.binding? = none) : Template.bindings (piece :: rest) = Template.bindings rest := by
  simp [Template.bindings, shown]

theorem Template.bindings_value (piece : Piece) (entry : String × Value) (rest : Template)
    (bound : piece.binding? = some entry) :
    Template.bindings (piece :: rest) = entry :: Template.bindings rest := by
  simp [Template.bindings, bound]

namespace PercentOnlyIn

variable {types others : List DataType} {template more : Template}

theorem append (percents : PercentOnlyIn types template)
    (following : PercentOnlyIn others more) :
    PercentOnlyIn (types ++ others) (template ++ more) := by
  induction percents with
  | nil => exact following
  | code text spells _ ih =>
      rw [List.append_assoc]
      exact .code text spells ih
  | plain text _ ih => exact .plain text ih
  | bind name value word _ ih => exact .bind name value word ih
  | unwritten name value _ ih => exact .unwritten name value ih

theorem code_cons (text : String) (free : '%' ∉ text.toList)
    (percents : PercentOnlyIn types template) : PercentOnlyIn types (.code text :: template) :=
  .code text (.free free) percents

theorem append_code (text : String) (free : '%' ∉ text.toList)
    (percents : PercentOnlyIn types template) :
    PercentOnlyIn types (template ++ [.code text]) := by
  simpa using percents.append (code_cons text free .nil)

theorem parenthesized (percents : PercentOnlyIn types template) :
    PercentOnlyIn types template.parenthesized :=
  code_cons "(" (by decide) (append_code ")" (by decide) percents)

theorem unwritten_all (template : Template) : PercentOnlyIn [] template.unwritten := by
  unfold Template.unwritten
  induction template.bindings with
  | nil => exact .nil
  | cons entry rest ih => exact .unwritten entry.1 entry.2 ih

theorem decides (percents : PercentOnlyIn types template) (known : List String)
    (isKnown : ∀ entry ∈ template.bindings, entry.1 ∈ known) :
    Decides known (∀ type ∈ types, Disciplined known type.render.toList)
      template.text.toList := by
  induction percents with
  | nil => exact .of_disciplined .nil (by simp)
  | code text spells _ ih =>
      rw [Template.bindings_text (.code text) _ rfl] at isKnown
      have others := ih isKnown
      rw [Template.text_cons, String.toList_append]
      exact ((spells.decides known).append others).congr (by simp [or_imp, forall_and])
  | plain text _ ih =>
      rw [Template.bindings_text (.plain text) _ rfl] at isKnown
      have others := ih isKnown
      have first : Decides known True (Piece.plain text).written.toList :=
        .of_disciplined (.protect text) trivial
      rw [Template.text_cons, String.toList_append]
      exact (first.append others).congr (by simp)
  | bind name value word _ ih =>
      rw [Template.bindings_value _ (name, value) _ rfl, List.forall_mem_cons] at isKnown
      have others := ih isKnown.2
      have first : Decides known True (Piece.bind name value).written.toList :=
        .of_disciplined (.bind name word isKnown.1) trivial
      rw [Template.text_cons, String.toList_append]
      exact (first.append others).congr (by simp)
  | unwritten name value _ ih =>
      rw [Template.bindings_value _ (name, value) _ rfl, List.forall_mem_cons] at isKnown
      have others := ih isKnown.2
      simpa [Piece.written] using others

end PercentOnlyIn

theorem mem_names_foldl (entries : List (String × Value)) (params : Params) (name : String)
    (found : name ∈ params.names ∨ ∃ entry ∈ entries, entry.1 = name) :
    name ∈ (entries.foldl (fun params entry => params.bind entry.1 entry.2) params).names := by
  induction entries generalizing params with
  | nil => simpa using found
  | cons entry rest ih =>
      refine ih _ ?_
      by_cases same : entry.1 = name
      · exact Or.inl (by simp [Params.bind, Params.names, same])
      · rcases found with found | ⟨other, member, named⟩
        · refine Or.inl ?_
          simp only [Params.names, List.mem_map] at found
          obtain ⟨stored, isStored, rfl⟩ := found
          have kept : stored.1 ≠ entry.1 := Ne.symm same
          simp only [Params.names, Params.bind, List.map_cons, List.mem_cons, List.mem_map,
            List.mem_filter]
          exact Or.inr ⟨stored, ⟨isStored, by simpa using kept⟩, rfl⟩
        · rcases List.mem_cons.mp member with rfl | member
          · exact absurd named same
          · exact Or.inr ⟨other, member, named⟩

theorem Template.names_params (template : Template) :
    ∀ entry ∈ template.bindings, entry.1 ∈ template.params.names :=
  fun entry member => mem_names_foldl template.bindings [] entry.1
    (Or.inr ⟨entry, member, rfl⟩)

/-- No percent sign of the text stands alone exactly when none does in the types. -/
theorem PercentOnlyIn.disciplined_iff {types : List DataType} {template : Template}
    (percents : PercentOnlyIn types template) :
    Disciplined template.params.names template.text.toList ↔
      ∀ type ∈ types, Disciplined template.params.names type.render.toList :=
  (percents.decides _ template.names_params).disciplined_iff

def Piece.content (literal : List Char → List Char) : Piece → List Char
  | code text => text.toList
  | plain text => text.toList
  | bind name _ => literal name.toList
  | unwritten _ _ => []

def Template.content (literal : List Char → List Char) (template : Template) : List Char :=
  template.flatMap (Piece.content literal)

theorem shown_of_free (literal : List Char → List Char) {text : List Char} (free : '%' ∉ text) :
    shown literal (Placeholder.run .outside text).1 = text := by
  induction text with
  | nil => rfl
  | cons c rest ih =>
      simp only [List.mem_cons, not_or] at free
      have single : step .outside c = ([.text [c]], .outside) := by
        simp [step, leave, Ne.symm free.1]
      rw [Placeholder.run, single]
      simp [shown, ih free.2]

theorem shown_protect (literal : List Char → List Char) (text : String) :
    shown literal (Placeholder.run .outside (protect text).toList).1 = text.toList := by
  obtain ⟨outside, names⟩ := (Disciplined.protect text : Disciplined [] _).run
  have noBind : (Placeholder.run .outside (protect text).toList).1.any Segment.isBind = false := by
    rw [List.any_eq_false]
    intro segment member
    cases segment with
    | text chars => simp [Segment.isBind]
    | bind name => exact absurd (names name member) (by simp)
  have characters : (protect text).toList =
      text.toList.flatMap fun c => if c = '%' then ['%', '%'] else [c] := by
    simp [protect]
  rw [characters] at outside noBind ⊢
  obtain ⟨-, shows⟩ := run_protect literal .outside text.toList (by simp) noBind
  simpa [outside, unread] using shows

theorem PercentOnlyIn.shown_text {types : List DataType} {template : Template}
    (percents : PercentOnlyIn types template)
    (free : ∀ type ∈ types, '%' ∉ type.render.toList) (literal : List Char → List Char) :
    shown literal (Placeholder.run .outside template.text.toList).1 = template.content literal := by
  -- every piece is disciplined, so the next one starts outside of a placeholder
  have split {left : String} (outside : (Placeholder.run .outside left.toList).2 = .outside)
      (rest : Template) :
      shown literal (Placeholder.run .outside (left.toList ++ rest.text.toList)).1 =
        shown literal (Placeholder.run .outside left.toList).1 ++
          shown literal (Placeholder.run .outside rest.text.toList).1 := by
    rw [run_append, outside, shown_append]
  induction percents with
  | nil => rfl
  | @code written types rest text spells _ ih =>
      have noPercent := spells.free_of_types fun type member =>
        free type (List.mem_append_left _ member)
      have others := ih fun type member => free type (List.mem_append_right _ member)
      have outside := (Disciplined.of_free noPercent : Disciplined [] _).run.1
      rw [Template.text_cons, String.toList_append]
      change shown literal (Placeholder.run .outside (text.toList ++ rest.text.toList)).1 = _
      rw [split outside, shown_of_free literal noPercent, others]
      rfl
  | @plain types rest text _ ih =>
      have outside := (Disciplined.protect text : Disciplined [] _).run.1
      rw [Template.text_cons, String.toList_append, Piece.written, split outside,
        shown_protect, ih free]
      rfl
  | @bind types rest name value word _ ih =>
      have bound := run_bind .outside name word (by simp)
      have outside : (Placeholder.run .outside ("%(" ++ name ++ ")s").toList).2 = .outside := by
        rw [bound]
      rw [Template.text_cons, String.toList_append, Piece.written, split outside, bound, ih free]
      simp [shown, unread, Template.content, Piece.content]
  | @unwritten types rest name value _ ih =>
      rw [Template.text_cons, String.toList_append, Piece.written]
      simpa [Template.content, Piece.content] using ih free

end ClickHouse
