import ClickHouse.Text.Blank

/-!
Trimming leaves a text alone when its first and its last character are visible, and leaves no
text with another one at its ends.
-/

namespace ClickHouse.Text

theorem trimRight_append_visible (text : List Char) (last : Char) (visible : isBlank last = false) :
    trimRight (text ++ [last]) = text ++ [last] := by
  induction text with
  | nil => simp [trimRight, visible]
  | cons c rest ih =>
      rw [List.cons_append, trimRight, ih]
      cases rest <;> rfl

theorem trimLeft_of_head (text : List Char) (first : ∀ c ∈ text.head?, isBlank c = false) :
    trimLeft text = text := by
  cases text with
  | nil => rfl
  | cons c rest => simp [trimLeft, first c rfl]

theorem trimChars_space (text : List Char) : trimChars (' ' :: text) = trimChars text := by
  have blank : isBlank ' ' = true := by decide
  rw [trimChars, trimLeft, List.dropWhile_cons_of_pos blank]
  rfl

theorem trimChars_of_ends (text : List Char) (first : ∀ c ∈ text.head?, isBlank c = false)
    (last : ∀ c ∈ text.getLast?, isBlank c = false) : trimChars text = text := by
  rw [trimChars, trimLeft_of_head text first]
  rcases text.eq_nil_or_concat with rfl | ⟨before, c, rfl⟩
  · rfl
  · rw [List.concat_eq_append] at last ⊢
    exact trimRight_append_visible before c (last c (by simp))

theorem first_trimLeft (text : List Char) :
    ∀ c ∈ (trimLeft text).head?, isBlank c = false := by
  unfold trimLeft
  induction text with
  | nil => simp
  | cons first rest ih =>
      by_cases blank : isBlank first = true
      · rw [List.dropWhile_cons_of_pos blank]
        exact ih
      · rw [List.dropWhile_cons_of_neg blank]
        rintro c ⟨⟩
        simpa using blank

theorem head?_trimRight (text : List Char) : ∀ c ∈ (trimRight text).head?, c ∈ text.head? := by
  cases text with
  | nil => simp [trimRight]
  | cons first rest =>
      rw [trimRight]
      split
      · split <;> simp
      · simp

theorem last_trimRight (text : List Char) :
    ∀ c ∈ (trimRight text).getLast?, isBlank c = false := by
  induction text with
  | nil => simp [trimRight]
  | cons first rest ih =>
      rw [trimRight]
      split
      · split
        · simp
        · rename_i visible
          simpa using visible
      · rename_i notEmpty
        intro c last
        apply ih c
        obtain ⟨d, others, shape⟩ := List.exists_cons_of_ne_nil notEmpty
        rw [shape] at last ⊢
        simpa using last

theorem trimChars_ends (text : List Char) :
    (∀ c ∈ (trimChars text).head?, isBlank c = false) ∧
      ∀ c ∈ (trimChars text).getLast?, isBlank c = false := by
  constructor
  · intro c head
    exact first_trimLeft text c (head?_trimRight (trimLeft text) c head)
  · exact last_trimRight (trimLeft text)

theorem trimChars_of_blank (text : List Char) (blank : text.all isBlank = true) :
    trimChars text = [] := by
  rw [trimChars, trimRight_eq_nil_iff]
  intro c member
  exact List.all_eq_true.mp blank c ((List.dropWhile_sublist _).mem member)

theorem mem_trimRight {text : List Char} {c : Char} (member : c ∈ text)
    (visible : isBlank c = false) : c ∈ trimRight text := by
  induction text with
  | nil => contradiction
  | cons first rest ih =>
      rw [trimRight]
      rcases List.mem_cons.mp member with rfl | later
      · split
        · simp [visible]
        · simp
      · have kept := ih later
        split
        · rename_i empty
          rw [empty] at kept
          contradiction
        · exact List.mem_cons_of_mem _ kept

theorem mem_trimChars {text : List Char} {c : Char} (member : c ∈ text)
    (visible : isBlank c = false) : c ∈ trimChars text := by
  apply mem_trimRight _ visible
  induction text with
  | nil => contradiction
  | cons first rest ih =>
      by_cases blank : isBlank first = true
      · rw [trimLeft, List.dropWhile_cons_of_pos blank]
        apply ih
        rcases List.mem_cons.mp member with rfl | later
        · rw [visible] at blank
          contradiction
        · exact later
      · rw [trimLeft, List.dropWhile_cons_of_neg blank]
        exact member

theorem isAlpha_iff (c : Char) : c.isAlpha = true ↔
    (65 ≤ c.toNat ∧ c.toNat ≤ 90) ∨ (97 ≤ c.toNat ∧ c.toNat ≤ 122) := by
  change (decide (65 ≤ c.val ∧ c.val ≤ 90) || (decide (97 ≤ c.val) && decide (c.val ≤ 122))) =
    true ↔ _
  simp only [Bool.or_eq_true, Bool.and_eq_true, decide_eq_true_eq, UInt32.le_iff_toNat_le]
  exact Iff.rfl

theorem isDigit_iff (c : Char) : c.isDigit = true ↔ 48 ≤ c.toNat ∧ c.toNat ≤ 57 := by
  change (decide (48 ≤ c.val) && decide (c.val ≤ 57)) = true ↔ _
  simp only [Bool.and_eq_true, decide_eq_true_eq, UInt32.le_iff_toNat_le]
  exact Iff.rfl

theorem not_isBlank_of_isAlphanum (c : Char) (plain : c.isAlphanum = true) : isBlank c = false := by
  rw [Char.isAlphanum, Bool.or_eq_true, isAlpha_iff, isDigit_iff] at plain
  simp only [isBlank, Bool.or_eq_false_iff, Bool.and_eq_false_iff, decide_eq_false_iff_not,
    beq_eq_false_iff_ne]
  omega

end ClickHouse.Text
