import ClickHouse.Identifier

/-!
Names as they stand in a statement: alone, or between quote marks.
-/

namespace ClickHouse

theorem flatMap_of_single (spell : Char → List Char) (text : List Char)
    (single : ∀ c ∈ text, spell c = [c]) : text.flatMap spell = text := by
  induction text with
  | nil => rfl
  | cons c rest ih =>
      have others := ih fun d member => single d (List.mem_cons_of_mem _ member)
      rw [List.flatMap_cons, single c (by simp), others, List.singleton_append]

namespace Identifier

theorem isWordChar_of_isWord (name : String) (word : isWord name = true) :
    ∀ c ∈ name.toList, isWordChar c = true := by
  unfold isWord at word
  split at word
  · contradiction
  · rename_i first rest characters
    rw [Bool.and_eq_true, List.all_eq_true] at word
    rw [characters]
    exact word.2

theorem ne_empty_of_isWord (name : String) (word : isWord name = true) : name ≠ "" := by
  rintro rfl
  contradiction

theorem free_of_isWordChar (c : Char) (part : isWordChar c = true) :
    c ≠ '\x60' ∧ c ≠ '\x22' ∧ c ≠ '\x27' ∧ c ≠ '\\' ∧ c ≠ '%' := by
  refine ⟨?_, ?_, ?_, ?_, ?_⟩ <;>
    · rintro rfl
      revert part
      decide

theorem isPlainChar_of_isWordChar (c : Char) (part : isWordChar c = true) :
    isPlainChar c = true := by
  rw [isWordChar] at part
  simp only [isPlainChar, part, Bool.true_or]

theorem isPlainChar_of_not_requiresQuotes (name : String) (plain : requiresQuotes name = false) :
    name ≠ "" ∧ name.toList.all isPlainChar = true := by
  unfold requiresQuotes at plain
  split at plain
  · contradiction
  · rename_i first rest characters
    simp only [Bool.or_eq_false_iff, Bool.not_eq_false'] at plain
    rw [characters]
    exact ⟨by rintro rfl; contradiction, plain.2⟩

theorem doubleMarks_of_isWord (style : QuoteStyle) (name : String) (word : isWord name = true) :
    doubleMarks style name = name := by
  have single : ∀ c ∈ name.toList, (if c = style.mark then [c, c] else [c]) = [c] := by
    intro c member
    obtain ⟨notGrave, notDouble, _⟩ := free_of_isWordChar c (isWordChar_of_isWord name word c member)
    rw [if_neg]
    cases style <;> assumption
  rw [doubleMarks, flatMap_of_single _ _ single, String.ofList_toList]

theorem reference_of_isWord (style : QuoteStyle) (name : String) (word : isWord name = true) :
    reference style name = name ∨
      reference style name = style.mark.toString ++ name ++ style.mark.toString := by
  unfold reference
  split
  · rw [doubleMarks_of_isWord style name word]
    exact Or.inr rfl
  · exact Or.inl rfl

end Identifier

theorem Placeholder.protect_of_free (text : String) (free : ∀ c ∈ text.toList, c ≠ '%') :
    Placeholder.protect text = text := by
  have single : ∀ c ∈ text.toList, (if c = '%' then ['%', '%'] else [c]) = [c] :=
    fun c member => if_neg (free c member)
  rw [Placeholder.protect, flatMap_of_single _ _ single, String.ofList_toList]

end ClickHouse
