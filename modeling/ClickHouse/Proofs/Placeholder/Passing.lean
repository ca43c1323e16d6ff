import ClickHouse.Proofs.Template.Percent

/-!
What a text without values becomes when its placeholders are filled in. It passes as long as it
spells no placeholder, and each pair of percent signs becomes a single one; it is kept when it
holds no such pair either. Texts side by side pass each by itself (`passes_append`), so a text
made of plain parts, protected ones and others passes with all of them as they were given exactly
when each of the others is kept (`Keeps.append`).
-/

namespace ClickHouse

namespace Placeholder

/-- Whether a text without values can be filled in, with the given result. -/
def Passes (text result : List Char) : Prop :=
  (run .outside text).1.any Segment.isBind = false ∧
    shown (fun _ => []) (run .outside text).1 ++ unread (run .outside text).2 = result

instance (text result : List Char) : Decidable (Passes text result) :=
  inferInstanceAs (Decidable (_ ∧ _))

def Kept (text : List Char) : Prop :=
  Passes text text

theorem substitute_nil_iff (text result : String) :
    substitute text [] = .ok result ↔ Passes text.toList result.toList := by
  have shape : (run .outside text.toList).1.any Segment.isBind = false →
      (Compiled.executable ⟨text, []⟩ = .ok (String.ofList
        (shown (fun _ => []) (run .outside text.toList).1 ++
          unread (run .outside text.toList).2))) := by
    intro noBind
    have unbound : ∀ name, .bind name ∉ segments text := by
      intro name member
      rw [segments, segmentsFrom_eq_run] at member
      exact not_isBind_of_noBind _ noBind name (by simpa using member)
    rw [Compiled.executable_of_bound _ fun name member => absurd member (unbound name),
      segments, segmentsFrom_eq_run, shown_append, shown_of_noBind _ (fun _ => []) _ noBind]
    simp [shown]
  constructor
  · intro filled
    have noBind : (run .outside text.toList).1.any Segment.isBind = false := by
      rw [List.any_eq_false]
      intro segment member isBind
      cases segment with
      | text chars => contradiction
      | bind name =>
          have inText : .bind name ∈ segments text := by
            rw [segments, segmentsFrom_eq_run]
            exact List.mem_append_left _ member
          have bound := Compiled.bound_of_executable ⟨text, []⟩ result filled name inText
          simp at bound
    refine ⟨noBind, ?_⟩
    have same := (shape noBind).symm.trans filled
    rw [← Except.ok.inj same, String.toList_ofList]
  · rintro ⟨noBind, shows⟩
    have filled := shape noBind
    rwa [shows, String.ofList_toList] at filled

theorem Passes.unique {text result other : List Char} (passes : Passes text result)
    (again : Passes text other) : result = other :=
  passes.2.symm.trans again.2

/-- Whether a placeholder cannot reach from one text into the next. -/
def Parts (left right : List Char) : Prop :=
  (run .outside left).2 = .outside ∨
    (∃ name, (run .outside left).2 = .closed name) ∧ right.head? ≠ some 's'

theorem run_closed (name : List Char) (text : List Char) (other : text.head? ≠ some 's') :
    (run (.closed name) text).1.any Segment.isBind = (run .outside text).1.any Segment.isBind ∧
      shown (fun _ => []) (run (.closed name) text).1 ++ unread (run (.closed name) text).2 =
        unread (.closed name) ++
          (shown (fun _ => []) (run .outside text).1 ++ unread (run .outside text).2) ∧
      (text ≠ [] → (run (.closed name) text).2 = (run .outside text).2) := by
  cases text with
  | nil => exact ⟨rfl, by simp [run, shown, unread], fun nonempty => absurd rfl nonempty⟩
  | cons c rest =>
      have notLast : c ≠ 's' := by simpa using other
      by_cases percent : c = '%'
      · simp [run, step, leave, percent, shown, unread, Segment.isBind]
      · simp [run, step, leave, percent, notLast, shown, unread, Segment.isBind]

theorem passes_append {left right : List Char} (parts : Parts left right) (result : List Char) :
    Passes (left ++ right) result ↔
      ∃ first second, Passes left first ∧ Passes right second ∧ result = first ++ second := by
  have split : ∀ noBind : (run .outside left).1.any Segment.isBind = false,
      (Passes (left ++ right) result ↔ (run .outside right).1.any Segment.isBind = false ∧
        shown (fun _ => []) (run .outside left).1 ++ unread (run .outside left).2 ++
          (shown (fun _ => []) (run .outside right).1 ++ unread (run .outside right).2) =
            result) := by
    intro noBind
    rw [Passes, run_append, List.any_append, noBind, Bool.false_or, shown_append]
    rcases parts with outside | ⟨⟨name, closed⟩, other⟩
    · rw [outside, List.append_assoc]
      simp [unread]
    · obtain ⟨binds, shows, _⟩ := run_closed name right other
      rw [closed, binds, List.append_assoc, shows, List.append_assoc]
  constructor
  · intro passes
    have noBind : (run .outside left).1.any Segment.isBind = false := by
      have whole := passes.1
      rw [run_append, List.any_append, Bool.or_eq_false_iff] at whole
      exact whole.1
    obtain ⟨noBindRight, same⟩ := (split noBind).mp passes
    exact ⟨_, _, ⟨noBind, rfl⟩, ⟨noBindRight, rfl⟩, same.symm⟩
  · rintro ⟨first, second, ⟨noBind, rfl⟩, ⟨noBindRight, rfl⟩, rfl⟩
    exact (split noBind).mpr ⟨noBindRight, rfl⟩

theorem outside_append {left right : List Char} (parts : Parts left right)
    (outside : (run .outside right).2 = .outside) (nonempty : right ≠ []) :
    (run .outside (left ++ right)).2 = .outside := by
  rw [run_append]
  rcases parts with first | ⟨⟨name, closed⟩, other⟩
  · rw [first]
    exact outside
  · rw [closed]
    exact ((run_closed name right other).2.2 nonempty).trans outside

theorem step_space (progress : Progress) :
    step progress ' ' = ([.text (unread progress ++ [' '])], .outside) := by
  cases progress with
  | outside | percent | closed => rfl
  | name chars =>
      have space : prolongs chars ' ' = false := by simp [prolongs]
      simp [step, space, leave, unread]

theorem passes_space (text result : List Char) :
    Passes (text ++ [' ']) (result ++ [' ']) ↔ Passes text result := by
  simp only [Passes, run_append, run, step_space]
  simp [shown_append, shown, unread, Segment.isBind, ← List.append_assoc]

theorem length_step (progress : Progress) (c : Char)
    (noBind : (step progress c).1.any Segment.isBind = false) :
    (shown (fun _ => []) (step progress c).1 ++ unread (step progress c).2).length ≤
        (unread progress ++ [c]).length ∧
      ((shown (fun _ => []) (step progress c).1 ++ unread (step progress c).2).length =
          (unread progress ++ [c]).length →
        shown (fun _ => []) (step progress c).1 ++ unread (step progress c).2 =
          unread progress ++ [c]) := by
  by_cases pair : progress = .percent ∧ c = '%'
  · obtain ⟨rfl, rfl⟩ := pair
    simp [step, shown, unread]
  · have same : shown (fun _ => []) (step progress c).1 ++ unread (step progress c).2 =
        unread progress ++ [c] := by
      by_cases percent : progress = .percent
      · subst percent
        have other : c ≠ '%' := fun same => pair ⟨rfl, same⟩
        by_cases opens : c = '('
        · simp [step, opens, shown, unread]
        · simp [step, other, opens, leave, shown, unread]
      · exact step_conserves _ progress c percent noBind
    exact ⟨Nat.le_of_eq (congrArg List.length same), fun _ => same⟩

theorem length_run (progress : Progress) (text : List Char)
    (noBind : (run progress text).1.any Segment.isBind = false) :
    (shown (fun _ => []) (run progress text).1 ++ unread (run progress text).2).length ≤
        (unread progress ++ text).length ∧
      ((shown (fun _ => []) (run progress text).1 ++ unread (run progress text).2).length =
          (unread progress ++ text).length →
        shown (fun _ => []) (run progress text).1 ++ unread (run progress text).2 =
          unread progress ++ text) := by
  induction text generalizing progress with
  | nil => simp [run, shown]
  | cons c rest ih =>
      rw [run, List.any_append, Bool.or_eq_false_iff] at noBind
      obtain ⟨shorter, unchanged⟩ := length_step progress c noBind.1
      obtain ⟨shorterRest, unchangedRest⟩ := ih _ noBind.2
      simp only [run, shown_append, List.append_assoc, List.length_append, List.length_cons,
        List.length_nil] at *
      refine ⟨by omega, fun same => ?_⟩
      rw [unchangedRest (by omega), ← List.append_assoc, unchanged (by omega)]
      simp

theorem Passes.length_le {text result : List Char} (passes : Passes text result) :
    result.length ≤ text.length := by
  obtain ⟨noBind, rfl⟩ := passes
  exact (length_run .outside text noBind).1

theorem Passes.kept_of_length {text result : List Char} (passes : Passes text result)
    (same : result.length = text.length) : result = text := by
  obtain ⟨noBind, rfl⟩ := passes
  exact (length_run .outside text noBind).2 same

/-- Whether a text comes through with the given content exactly under a condition, comes through
no longer in any case, and leaves what follows to itself. -/
structure Keeps (condition : Prop) (text content : List Char) : Prop where
  passes_iff : Passes text content ↔ condition
  bounded : ∀ result, Passes text result → result.length ≤ content.length
  outside : (run .outside text).2 = .outside

namespace Keeps

variable {condition other : Prop} {text content more moreContent : List Char}

theorem of_passes (passes : Passes text content) (outside : (run .outside text).2 = .outside) :
    Keeps True text content :=
  ⟨iff_of_true passes trivial, fun _ again => passes.unique again ▸ Nat.le_refl _, outside⟩

theorem congr (keeps : Keeps condition text content) (same : condition ↔ other) :
    Keeps other text content :=
  ⟨keeps.passes_iff.trans same, keeps.bounded, keeps.outside⟩

theorem of_shown (outside : (run .outside text).2 = .outside)
    (noBind : (run .outside text).1.any Segment.isBind = false)
    (shows : shown (fun _ => []) (run .outside text).1 = content) : Keeps True text content := by
  refine of_passes ⟨noBind, ?_⟩ outside
  rw [outside, shows]
  exact List.append_nil _

theorem empty : Keeps True [] [] :=
  of_passes ⟨rfl, rfl⟩ rfl

theorem noBind_of_disciplined (disciplined : Disciplined [] text) :
    (run .outside text).1.any Segment.isBind = false := by
  rw [List.any_eq_false]
  intro segment member isBind
  cases segment with
  | text chars => contradiction
  | bind name => exact absurd (disciplined.run.2 name member) (by simp)

theorem of_free (free : '%' ∉ text) : Keeps True text text :=
  have disciplined : Disciplined [] text := .of_free free
  of_shown disciplined.run.1 (noBind_of_disciplined disciplined) (shown_of_free _ free)

theorem protect (text : String) :
    Keeps True (Placeholder.protect text).toList text.toList :=
  have disciplined : Disciplined [] (Placeholder.protect text).toList := .protect text
  of_shown disciplined.run.1 (noBind_of_disciplined disciplined) (shown_protect _ text)

theorem of_outside (outside : (run .outside text).2 = .outside) : Keeps (Kept text) text text :=
  ⟨Iff.rfl, fun _ passes => passes.length_le, outside⟩

theorem held_append {held : List Char} (parts : Parts held more)
    (following : Keeps other more moreContent) (nonempty : more ≠ []) :
    Keeps (Kept held ∧ other) (held ++ more) (held ++ moreContent) := by
  refine ⟨?_, ?_, outside_append parts following.outside nonempty⟩
  · rw [passes_append parts]
    constructor
    · rintro ⟨first, second, passes, passesMore, same⟩
      have shorter := passes.length_le
      have shorterMore := following.bounded second passesMore
      have lengths := congrArg List.length same
      rw [List.length_append, List.length_append] at lengths
      obtain rfl := passes.kept_of_length (by omega)
      obtain rfl := List.append_cancel_left same
      exact ⟨passes, following.passes_iff.mp passesMore⟩
    · rintro ⟨kept, holds⟩
      exact ⟨held, moreContent, kept, following.passes_iff.mpr holds, rfl⟩
  · intro result whole
    obtain ⟨first, second, passes, passesMore, rfl⟩ := (passes_append parts result).mp whole
    have shorter := passes.length_le
    have shorterMore := following.bounded second passesMore
    rw [List.length_append, List.length_append]
    omega

theorem append (keeps : Keeps condition text content) (following : Keeps other more moreContent) :
    Keeps (condition ∧ other) (text ++ more) (content ++ moreContent) := by
  have parts : Parts text more := Or.inl keeps.outside
  refine ⟨?_, ?_, ?_⟩
  · rw [passes_append parts]
    constructor
    · rintro ⟨first, second, passes, passesMore, same⟩
      have shorter := keeps.bounded first passes
      have shorterMore := following.bounded second passesMore
      have lengths := congrArg List.length same
      rw [List.length_append, List.length_append] at lengths
      obtain ⟨rfl, rfl⟩ := List.append_inj same (by omega)
      exact ⟨keeps.passes_iff.mp passes, following.passes_iff.mp passesMore⟩
    · rintro ⟨holds, holdsMore⟩
      exact ⟨_, _, keeps.passes_iff.mpr holds, following.passes_iff.mpr holdsMore, rfl⟩
  · intro result whole
    obtain ⟨first, second, passes, passesMore, rfl⟩ := (passes_append parts result).mp whole
    have shorter := keeps.bounded first passes
    have shorterMore := following.bounded second passesMore
    rw [List.length_append, List.length_append]
    omega
  · rw [run_append, keeps.outside]
    exact following.outside

end Keeps

theorem substitute_of_free (text : String) (free : '%' ∉ text.toList) :
    substitute text [] = .ok text :=
  (substitute_nil_iff text text).mpr ((Keeps.of_free free).passes_iff.mpr trivial)

end Placeholder

open Placeholder

theorem closed_run (progress : Progress) (text : List Char) :
    (Placeholder.run progress (text ++ [')'])).2 = .outside ∨
      ∃ name, (Placeholder.run progress (text ++ [')'])).2 = .closed name := by
  rw [run_append]
  change (step (Placeholder.run progress text).2 ')').2 = .outside ∨
    ∃ name, (step (Placeholder.run progress text).2 ')').2 = .closed name
  cases (Placeholder.run progress text).2 with
  | outside => exact Or.inl rfl
  | percent => exact Or.inl rfl
  | name chars =>
      have bracket : prolongs chars ')' = false := by simp [prolongs]
      by_cases empty : chars = []
      · subst empty
        exact Or.inl (by simp [step, bracket, leave])
      · exact Or.inr ⟨chars, by simp [step, bracket, empty]⟩
  | closed chars => exact Or.inl rfl

/-- A placeholder cannot reach out of a type, whatever follows it. -/
theorem DataType.parts_render (type : DataType) {following : List Char}
    (other : following.head? ≠ some 's') : Parts type.render.toList following := by
  rcases free_or_closed type with free | closed
  · exact Or.inl (Disciplined.of_free free : Disciplined [] _).run.1
  · rcases List.eq_nil_or_concat type.render.toList with empty | ⟨text, last, shape⟩
    · rw [empty]
      exact Or.inl rfl
    · obtain rfl : last = ')' := closed last (by simp [shape])
      rw [shape, List.concat_eq_append]
      rcases closed_run .outside text with outside | ends
      · exact Or.inl outside
      · exact Or.inr ⟨ends, other⟩

theorem Placeholder.Keeps.render_append {condition : Prop} {more moreContent : List Char}
    (type : DataType) (following : Keeps condition more moreContent) (nonempty : more ≠ [])
    (other : more.head? ≠ some 's') :
    Keeps (Kept type.render.toList ∧ condition) (type.render.toList ++ more)
      (type.render.toList ++ moreContent) :=
  held_append (type.parts_render other) following nonempty

theorem SpellsTypes.keeps {types : List DataType} {text : List Char}
    (spells : SpellsTypes types text) :
    Keeps (∀ type ∈ types, Kept type.render.toList) text text := by
  induction spells with
  | free free => exact (Keeps.of_free free).congr (by simp)
  | type type =>
      have bracket : Keeps True [')'] [')'] := .of_free (by decide)
      exact (bracket.render_append type (by simp) (by decide)).congr (by simp)
  | append _ _ ih ihMore => exact (ih.append ihMore).congr (by simp [or_imp, forall_and])

/-- A template without bound values comes through exactly when its types do. -/
theorem PercentOnlyIn.keeps {types : List DataType} {template : Template}
    (percents : PercentOnlyIn types template)
    (unbound : template.bindings = []) (literal : List Char → List Char) :
    Keeps (∀ type ∈ types, Kept type.render.toList) template.text.toList
      (template.content literal) := by
  induction percents with
  | nil => exact Keeps.empty.congr (by simp)
  | @code written types rest text spells _ ih =>
      have others := ih (by rwa [Template.bindings_text _ _ rfl] at unbound)
      rw [Template.text_cons, String.toList_append]
      exact (spells.keeps.append others).congr (by simp [or_imp, forall_and])
  | @plain types rest text _ ih =>
      have others := ih (by rwa [Template.bindings_text _ _ rfl] at unbound)
      rw [Template.text_cons, String.toList_append]
      exact ((Keeps.protect text).append others).congr (by simp)
  | bind name value _ _ _ => simp [Template.bindings, Piece.binding?] at unbound
  | unwritten name value _ _ => simp [Template.bindings, Piece.binding?] at unbound

end ClickHouse
