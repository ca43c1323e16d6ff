import ClickHouse.Proofs.Identifier.Reference
import ClickHouse.Proofs.Template.Inlined

/-!
Texts in which no percent sign stands alone: each belongs to a doubled one or to a placeholder
whose name is known. Such texts can be told apart from what follows them (`Disciplined.cancel`),
and filling in the values of the known names never fails (`Disciplined.executable`).
-/

namespace ClickHouse

namespace Placeholder

/-- From left to right, every percent sign belongs to a doubled one or to a placeholder of a known
name. -/
inductive Disciplined (known : List String) : List Char → Prop
  | nil : Disciplined known []
  | char {c rest} : c ≠ '%' → Disciplined known rest → Disciplined known (c :: rest)
  | doubled {rest} : Disciplined known rest → Disciplined known ('%' :: '%' :: rest)
  | placeholder {rest} (name : String) : Identifier.isWord name = true → name ∈ known →
      Disciplined known rest →
      Disciplined known ('%' :: '(' :: (name.toList ++ ')' :: 's' :: rest))

namespace Disciplined

variable {known : List String} {left right text rest : List Char}

theorem append (disciplined : Disciplined known left) (following : Disciplined known right) :
    Disciplined known (left ++ right) := by
  induction disciplined with
  | nil => exact following
  | char other _ ih => exact .char other ih
  | doubled _ ih => exact .doubled ih
  | placeholder name word isKnown _ ih =>
      simpa using Disciplined.placeholder name word isKnown ih

theorem of_free (free : '%' ∉ text) : Disciplined known text := by
  induction text with
  | nil => exact .nil
  | cons c rest ih =>
      simp only [List.mem_cons, not_or] at free
      exact .char (Ne.symm free.1) (ih free.2)

theorem protect (text : String) : Disciplined known (Placeholder.protect text).toList := by
  rw [Placeholder.protect, String.toList_ofList]
  induction text.toList with
  | nil => exact .nil
  | cons c rest ih =>
      rw [List.flatMap_cons]
      split
      · exact .doubled ih
      · rename_i other
        exact .char other ih

theorem bind (name : String) (word : Identifier.isWord name = true) (isKnown : name ∈ known) :
    Disciplined known ("%(" ++ name ++ ")s").toList := by
  simpa using Disciplined.placeholder name word isKnown (Disciplined.nil : Disciplined known [])

end Disciplined

theorem not_mem_of_isWord (name : String) (word : Identifier.isWord name = true) (c : Char)
    (notPart : Identifier.isWordChar c = false) : c ∉ name.toList := by
  intro member
  rw [Identifier.isWordChar_of_isWord name word c member] at notPart
  contradiction

/-- A name ends where the first closing bracket stands. -/
theorem name_unique (name other : String) (word : Identifier.isWord name = true)
    (otherWord : Identifier.isWord other = true) (rest more : List Char)
    (same : name.toList ++ ')' :: rest = other.toList ++ ')' :: more) :
    name = other ∧ rest = more := by
  have isClose (text : String) (isWord : Identifier.isWord text = true) (tail : List Char) :
      (text.toList ++ ')' :: tail).takeWhile (· ≠ ')') = text.toList := by
    rw [List.takeWhile_append_of_pos]
    · simp
    · intro c member
      have notClose := not_mem_of_isWord text isWord ')' (by decide)
      simp only [ne_eq, decide_not, Bool.not_eq_true', decide_eq_false_iff_not]
      rintro rfl
      exact notClose member
  have names : name.toList = other.toList := by
    rw [← isClose name word rest, ← isClose other otherWord more, same]
  obtain rfl := String.toList_injective names
  simpa using same

namespace Disciplined

variable {known : List String} {left right text rest : List Char}

theorem of_char {c : Char} (other : c ≠ '%') (disciplined : Disciplined known (c :: rest)) :
    Disciplined known rest := by
  cases disciplined with
  | char _ following => exact following
  | doubled | placeholder => contradiction

theorem of_doubled (disciplined : Disciplined known ('%' :: '%' :: rest)) :
    Disciplined known rest := by
  cases disciplined with
  | char other => contradiction
  | doubled following => exact following

theorem of_placeholder {name : String} (word : Identifier.isWord name = true)
    (disciplined : Disciplined known ('%' :: '(' :: (name.toList ++ ')' :: 's' :: rest))) :
    Disciplined known rest := by
  generalize shape : name.toList ++ ')' :: 's' :: rest = inside at disciplined
  cases disciplined with
  | char other => contradiction
  | placeholder other otherWord _ following =>
      obtain ⟨-, tail⟩ := name_unique name other word otherWord _ _ shape
      obtain ⟨-, rfl⟩ := List.cons.inj tail
      exact following

theorem cancel (disciplined : Disciplined known left)
    (whole : Disciplined known (left ++ right)) : Disciplined known right := by
  induction disciplined with
  | nil => exact whole
  | char other _ ih => exact ih (whole.of_char other)
  | doubled _ ih => exact ih whole.of_doubled
  | placeholder name word _ _ ih =>
      refine ih (of_placeholder word ?_)
      simpa using whole

end Disciplined

/-- A text after which a closing bracket starts no placeholder: it is empty or ends with one. -/
def Closed (text : List Char) : Prop :=
  ∀ c ∈ text.getLast?, c = ')'

theorem Closed.of_append (left : List Char) {right : List Char} (closed : Closed (left ++ right)) :
    Closed right := by
  intro c last
  refine closed c ?_
  rw [List.getLast?_append, Option.mem_def.mp last]
  rfl

/-- A placeholder that starts in a closed text before a closing bracket ends in it. -/
theorem placeholder_inside {name : String} (word : Identifier.isWord name = true)
    {text rest more : List Char} (closed : Closed text)
    (same : text ++ ')' :: rest = '%' :: '(' :: (name.toList ++ ')' :: 's' :: more)) :
    ∃ between, text = '%' :: '(' :: (name.toList ++ ')' :: 's' :: between) ∧
      more = between ++ ')' :: rest := by
  have split : text ++ ')' :: rest = ('%' :: '(' :: (name.toList ++ [')', 's'])) ++ more := by
    simpa using same
  rcases List.append_eq_append_iff.mp split with ⟨between, holds, tail⟩ | ⟨between, rfl, tail⟩
  · -- the placeholder would hold two closing brackets
    exfalso
    have single : ('%' :: '(' :: (name.toList ++ [')', 's'])).count ')' = 1 := by
      have none := List.count_eq_zero.mpr (not_mem_of_isWord name word ')' (by decide))
      simp [none]
    cases between with
    | nil =>
        have last := closed 's'
        rw [List.append_nil] at holds
        rw [← holds] at last
        exact absurd (last (by simp [List.getLast?_cons])) (by decide)
    | cons c others =>
        obtain ⟨rfl, -⟩ := List.cons.inj tail
        cases isLast : text.getLast? with
        | none =>
            rw [List.getLast?_eq_none_iff] at isLast
            simp [isLast] at holds
        | some c =>
            have member := List.count_pos_iff.mpr (List.mem_of_getLast? (closed c isLast ▸ isLast))
            rw [holds, List.count_append, List.count_cons_self] at single
            omega
  · exact ⟨between, by simp, tail⟩

theorem Disciplined.of_closed {known : List String} {text rest : List Char} (closed : Closed text)
    (whole : Disciplined known (text ++ ')' :: rest)) : Disciplined known text := by
  generalize shape : text ++ ')' :: rest = all at whole
  induction whole generalizing text with
  | nil => simp at shape
  | @char c following other _ ih =>
      cases text with
      | nil => exact .nil
      | cons d more =>
          obtain ⟨rfl, tail⟩ := List.cons.inj shape
          exact .char other (ih (Closed.of_append [d] closed) tail)
  | @doubled following _ ih =>
      match text with
      | [] => exact .nil
      | [d] =>
          obtain ⟨rfl, -⟩ := List.cons.inj shape
          exact absurd (closed '%' rfl) (by decide)
      | d :: e :: more =>
          simp only [List.cons_append, List.cons.injEq] at shape
          obtain ⟨rfl, rfl, tail⟩ := shape
          exact .doubled (ih (Closed.of_append ['%', '%'] closed) tail)
  | @placeholder following name word isKnown _ ih =>
      obtain ⟨between, rfl, tail⟩ := placeholder_inside word closed shape
      have inner : Closed between := by
        refine Closed.of_append ('%' :: '(' :: (name.toList ++ [')', 's'])) ?_
        simpa using closed
      exact .placeholder name word isKnown (ih inner tail.symm)

theorem Disciplined.run {known : List String} {text : List Char}
    (disciplined : Disciplined known text) :
    (Placeholder.run .outside text).2 = .outside ∧
      ∀ name, .bind name ∈ (Placeholder.run .outside text).1 → String.ofList name ∈ known := by
  induction disciplined with
  | nil => simp [Placeholder.run]
  | @char c rest other _ ih =>
      have single : step .outside c = ([.text [c]], .outside) := by simp [step, leave, other]
      rw [Placeholder.run, single]
      simpa using ih
  | @doubled rest _ ih =>
      have pair : Placeholder.run .outside ['%', '%'] = ([.text [], .text ['%']], .outside) := rfl
      have split := run_append .outside ['%', '%'] rest
      rw [pair] at split
      rw [show '%' :: '%' :: rest = ['%', '%'] ++ rest from rfl, split]
      simpa using ih
  | @placeholder rest name word isKnown _ ih =>
      have bound := run_bind .outside name word (by simp)
      have split := run_append .outside ("%(" ++ name ++ ")s").toList rest
      rw [bound] at split
      have characters : '%' :: '(' :: (name.toList ++ ')' :: 's' :: rest) =
          ("%(" ++ name ++ ")s").toList ++ rest := by
        simp
      rw [characters, split]
      refine ⟨ih.1, ?_⟩
      intro other member
      simp only [List.cons_append, List.nil_append, List.mem_cons, reduceCtorEq, false_or,
        Segment.bind.injEq] at member
      rcases member with rfl | member
      · rwa [String.ofList_toList]
      · exact ih.2 other member

end Placeholder

open Placeholder

def Params.names (params : Params) : List String :=
  params.map Prod.fst

theorem Params.lookup_isSome (params : Params) (name : String) (known : name ∈ params.names) :
    (params.lookup name).isSome = true := by
  induction params with
  | nil => simp [names] at known
  | cons entry rest ih =>
      obtain ⟨key, value⟩ := entry
      rw [List.lookup_cons]
      split
      · rfl
      · rename_i different
        refine ih ?_
        have other : name ≠ key := by simpa using different
        simpa [names, other] using known

theorem Placeholder.Disciplined.executable {compiled : Compiled}
    (disciplined : Disciplined compiled.params.names compiled.sql.toList) :
    compiled.executable = .ok (String.ofList (shown (valueOf compiled.params)
      (Placeholder.run .outside compiled.sql.toList).1)) := by
  obtain ⟨outside, known⟩ := disciplined.run
  have segmented : segments compiled.sql =
      (Placeholder.run .outside compiled.sql.toList).1 ++ [.text []] := by
    rw [segments, segmentsFrom_eq_run, outside]
    rfl
  rw [compiled.executable_of_bound, segmented, shown_append]
  · simp [shown]
  · intro name member
    rw [segmented] at member
    exact compiled.params.lookup_isSome _ (known name (by simpa using member))

end ClickHouse
