import ClickHouse.Proofs.Placeholder.Passing

/-!
Templates made of given segments, with the percent signs of their texts doubled. However the
segments touch, a template is read back as what it was made of: the same characters and the same
names in the same order (`run_written`).
-/

namespace ClickHouse

namespace Placeholder

def Segment.written : Segment → String
  | text chars => protect (String.ofList chars)
  | bind name => "%(" ++ String.ofList name ++ ")s"

def written : List Segment → String
  | [] => ""
  | segment :: rest => segment.written ++ written rest

def Segment.name? : Segment → Option String
  | text _ => none
  | bind name => some (String.ofList name)

def names (segments : List Segment) : List String :=
  segments.filterMap Segment.name?

theorem names_append (left right : List Segment) :
    names (left ++ right) = names left ++ names right :=
  List.filterMap_append

theorem names_of_noBind (segments : List Segment) (noBind : segments.any Segment.isBind = false) :
    names segments = [] := by
  rw [names, List.filterMap_eq_nil_iff]
  intro segment member
  cases segment with
  | text chars => rfl
  | bind name => exact absurd member (not_isBind_of_noBind segments noBind name)

theorem run_segment (value : List Char → List Char) (segment : Segment)
    (word : ∀ name ∈ segment.name?, Identifier.isWord name = true) :
    (run .outside segment.written.toList).2 = .outside ∧
      shown value (run .outside segment.written.toList).1 = shown value [segment] ∧
      names (run .outside segment.written.toList).1 = names [segment] := by
  cases segment with
  | text chars =>
      have disciplined : Disciplined [] (protect (String.ofList chars)).toList := .protect _
      have noBind := Keeps.noBind_of_disciplined disciplined
      refine ⟨disciplined.run.1, ?_, names_of_noBind _ noBind⟩
      rw [Segment.written, shown_protect]
      simp [shown]
  | bind name =>
      have bound := run_bind .outside (String.ofList name) (word _ rfl) (by simp)
      rw [Segment.written, bound, String.toList_ofList]
      exact ⟨rfl, rfl, rfl⟩

theorem run_written (value : List Char → List Char) (segments : List Segment)
    (words : ∀ name ∈ names segments, Identifier.isWord name = true) :
    (run .outside (written segments).toList).2 = .outside ∧
      shown value (run .outside (written segments).toList).1 = shown value segments ∧
      names (run .outside (written segments).toList).1 = names segments := by
  induction segments with
  | nil => simp [written, run]
  | cons segment rest ih =>
      have split : names (segment :: rest) = names [segment] ++ names rest :=
        names_append [segment] rest
      rw [split, List.forall_mem_append] at words
      obtain ⟨outside, shows, named⟩ := run_segment value segment fun name isName =>
        words.1 name (by simpa [names] using isName)
      obtain ⟨outsideRest, showsRest, namedRest⟩ := ih words.2
      rw [written, String.toList_append, run_append, outside]
      refine ⟨outsideRest, ?_, ?_⟩
      · rw [shown_append, shows, showsRest, ← shown_append, List.singleton_append]
      · rw [names_append, named, namedRest, split]

theorem fill_eq (params : Params) (segments : List Segment) :
    fill params segments =
      match (names segments).find? fun name => (params.lookup name).isNone with
      | none => .ok (String.ofList (shown (valueOf params) segments))
      | some name => .error name := by
  induction segments with
  | nil => rfl
  | cons segment rest ih =>
      cases segment with
      | text chars =>
          have same : names (.text chars :: rest) = names rest := rfl
          rw [fill, ih, same]
          cases (names rest).find? fun name => (params.lookup name).isNone <;> simp [shown]
      | bind name =>
          have first : names (.bind name :: rest) = String.ofList name :: names rest := rfl
          rw [fill, first, List.find?_cons]
          cases found : params.lookup (String.ofList name) with
          | none => simp
          | some value =>
              rw [ih, Option.isNone_some]
              cases (names rest).find? fun name => (params.lookup name).isNone <;>
                simp [shown, valueOf, found]

end Placeholder

open Placeholder

/-- Filling in a template that was made of texts and named values, the percent signs of the texts
doubled: the result is the texts and the literals of the values one after the other, unless a
value is missing, and then the first one that is missing is reported. -/
theorem substitute_written (segments : List Segment) (params : Params)
    (words : ∀ name ∈ names segments, Identifier.isWord name = true) :
    substitute (written segments) params =
      match (names segments).find? fun name => (params.lookup name).isNone with
      | none => .ok (String.ofList (shown (valueOf params) segments))
      | some name => .error (.unboundName name) := by
  obtain ⟨outside, shows, named⟩ := run_written (valueOf params) segments words
  have read : Placeholder.segments (written segments) =
      (run .outside (written segments).toList).1 ++ [.text []] := by
    rw [Placeholder.segments, segmentsFrom_eq_run, outside]
    rfl
  have filled := fill_eq params (Placeholder.segments (written segments))
  rw [read, names_append, shown_append, named, shows] at filled
  have nothing : names [.text []] = [] ∧ shown (valueOf params) [.text []] = [] := ⟨rfl, rfl⟩
  rw [nothing.1, nothing.2, List.append_nil, List.append_nil] at filled
  rw [substitute, read, filled]
  cases (names segments).find? fun name => (params.lookup name).isNone <;> rfl

namespace Touching

def segments : List Segment :=
  [.text "100%".toList, .bind "p".toList, .text "%%(x)s".toList, .bind "q".toList,
    .text "(p)s".toList]

def params : Params :=
  [("p", .string "%(q)s")]

end Touching

theorem substitute_written_touching :
    substitute (written Touching.segments) Touching.params = .error (.unboundName "q") ∧
    substitute (written Touching.segments) (("q", .uint 7) :: Touching.params) =
      .ok "100%'%(q)s'%%(x)s7(p)s" :=
  ⟨substitute_written Touching.segments Touching.params (by decide),
    substitute_written Touching.segments (("q", .uint 7) :: Touching.params) (by decide)⟩

end ClickHouse
