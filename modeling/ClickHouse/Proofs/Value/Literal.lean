import ClickHouse.Proofs.DataType.Guarded
import ClickHouse.Value.Literal

/-!
Literals of values among the items of a list. Whatever strings, numbers and times a value holds,
its literal is one item, in which no two words stand side by side (`Value.guarded`). This holds of
the literal with its percent signs doubled and of the literal as it is.
-/

namespace ClickHouse

open Lexeme

namespace Placeholder

theorem protect_append (left right : String) :
    protect (left ++ right) = protect left ++ protect right := by
  simp [protect]

def double (c : Char) : List Char :=
  if c = '%' then ['%', '%'] else [c]

theorem flatMap_double_escapeChars (text : List Char) :
    (Text.escapeChars text).flatMap double = Text.escapeChars (text.flatMap double) := by
  induction text with
  | nil => rfl
  | cons c rest ih =>
      by_cases special : c = Text.quoteMark ∨ c = Text.escapeMark
      · -- neither the mark nor the character it escapes is a percent sign
        have single : double c = [c] ∧ double Text.escapeMark = [Text.escapeMark] := by
          rcases special with rfl | rfl <;> decide
        rw [Text.escapeChars, if_pos special]
        simp only [List.flatMap_cons, single.1, single.2, ih, List.singleton_append]
        rw [Text.escapeChars, if_pos special]
      · rw [Text.escapeChars, if_neg special, List.flatMap_cons, List.flatMap_cons, ih]
        by_cases percent : c = '%'
        · subst percent
          rfl
        · rw [double, if_neg percent, List.singleton_append, List.singleton_append,
            Text.escapeChars, if_neg special]

theorem protect_quote (text : String) : protect (Text.quote text) = Text.quote (protect text) := by
  have mark : protect "'" = "'" := rfl
  have inside : protect (Text.escape text) = Text.escape (protect text) := by
    have chars := flatMap_double_escapeChars text.toList
    rw [protect, Text.escape, Text.escape, protect, String.toList_ofList, String.toList_ofList]
    exact congrArg String.ofList chars
  rw [Text.quote, protect_append, protect_append, inside, mark, Text.quote]

end Placeholder

/-- A way to write text that changes nothing but percent signs and leaves quotes closed. -/
structure KeepsLiterals (write : String → String) : Prop where
  append : ∀ left right, write (left ++ right) = write left ++ write right
  quote : ∀ text, ∃ other, write (Text.quote text) = Text.quote other
  free : ∀ text : String, (∀ c ∈ text.toList, c ≠ '%') → write text = text

theorem KeepsLiterals.protect : KeepsLiterals Placeholder.protect :=
  ⟨Placeholder.protect_append, fun text => ⟨_, Placeholder.protect_quote text⟩,
    Placeholder.protect_of_free⟩

theorem KeepsLiterals.unchanged : KeepsLiterals id :=
  ⟨fun _ _ => rfl, fun text => ⟨text, rfl⟩, fun _ _ => rfl⟩

section

variable {write : String → String} (keeps : KeepsLiterals write)

include keeps

theorem KeepsLiterals.commaList (items : List String) :
    write (Text.commaList items) = Text.commaList (items.map write) := by
  induction items with
  | nil => exact keeps.free "" (by simp)
  | cons first rest ih =>
      cases rest with
      | nil => rfl
      | cons second more =>
          have comma : write ", " = ", " := keeps.free ", " (by simp)
          simp only [Text.commaList, Text.joinWith_cons_cons, List.map_cons] at ih ⊢
          rw [keeps.append, keeps.append, comma, ih]

theorem KeepsLiterals.numeric (text : String) (numeric : text.toList.all isNumeric = true) :
    write text = text := by
  refine keeps.free text fun c member => ?_
  rintro rfl
  exact absurd (List.all_eq_true.mp numeric '%' member) (by decide)

theorem KeepsLiterals.natural (value : Nat) : write (Nat.repr value) = Nat.repr value :=
  keeps.numeric _ (all_isNumeric_repr value)

theorem KeepsLiterals.integer (value : Int) : write (toString value) = toString value :=
  keeps.numeric _ (all_isNumeric_integer value)

end

namespace Decimal

theorem mem_dropTrailingZeros (text : List Char) : ∀ c ∈ dropTrailingZeros text, c ∈ text := by
  induction text with
  | nil => simp [dropTrailingZeros]
  | cons digit rest ih =>
      intro c member
      rw [dropTrailingZeros] at member
      split at member
      · split at member
        · contradiction
        · simp_all
      · rename_i kept _
        rcases List.mem_cons.mp member with rfl | member
        · exact List.mem_cons_self
        · exact List.mem_cons_of_mem _ (ih c member)

theorem isDigit_digitsOf (tie : Tie) (number : Float) :
    ∀ c ∈ (digitsOf tie number).digits, c.isDigit = true := by
  intro c member
  have inAll := mem_dropTrailingZeros _ c member
  exact Nat.isDigit_of_mem_toDigits (by decide) (by decide) inAll

theorem isDigit_zeros (count : Nat) : ∀ c ∈ zeros count, c.isDigit = true := by
  intro c member
  obtain ⟨_, rfl⟩ := List.mem_replicate.mp member
  rfl

theorem Digits.positional_digits (number : Digits)
    (digits : ∀ c ∈ number.digits, c.isDigit = true) :
    number.positional.1 ≠ [] ∧ (∀ c ∈ number.positional.1, c.isDigit = true) ∧
      ∀ c ∈ number.positional.2, c.isDigit = true := by
  unfold positional
  split
  · refine ⟨by simp, by simp, fun c member => ?_⟩
    exact (List.mem_append.mp member).elim (isDigit_zeros _ c) (digits c)
  · refine ⟨?_, fun c member => ?_, fun c member => digits c (List.mem_of_mem_drop member)⟩
    · intro empty
      rw [List.append_eq_nil_iff, List.take_eq_nil_iff] at empty
      obtain ⟨noPlaces | noDigits, noZeros⟩ := empty
      · omega
      · simp [zeros, noDigits] at noZeros
    · exact (List.mem_append.mp member).elim (fun inside => digits c (List.mem_of_mem_take inside))
        (isDigit_zeros _ c)

theorem withSign_numeric (number : Float) (text : List Char) (nonempty : text ≠ [])
    (numeric : text.all isNumeric = true) :
    withSign number text ≠ "" ∧ (withSign number text).toList.all isNumeric = true := by
  unfold withSign
  split
  · exact ⟨by simp, by simpa [isNumeric] using numeric⟩
  · exact ⟨by simp [nonempty], by simpa using numeric⟩

theorem plain_cases (number : Float) : plain number ∈ ["nan", "inf", "-inf"] ∨
    (plain number ≠ "" ∧ (plain number).toList.all isNumeric = true) := by
  obtain ⟨nonempty, whole, fraction⟩ :=
    (digitsOf .up number).positional_digits (isDigit_digitsOf .up number)
  have wholeNumeric : (digitsOf .up number).positional.1.all isNumeric = true :=
    List.all_eq_true.mpr fun c member => isNumeric_of_isDigit c (whole c member)
  have fractionNumeric : (digitsOf .up number).positional.2.all isNumeric = true :=
    List.all_eq_true.mpr fun c member => isNumeric_of_isDigit c (fraction c member)
  unfold plain
  -- not a number, infinity, zero, a whole number and a number with a fraction
  split
  · exact Or.inl (by simp)
  split
  · exact Or.inl (by split <;> simp)
  split
  · exact Or.inr (withSign_numeric number _ (by simp) (by decide))
  split
  · rename_i digits shape
    rw [shape] at nonempty wholeNumeric
    exact Or.inr (withSign_numeric number _ nonempty wholeNumeric)
  · rename_i digits places _ shape
    rw [shape] at wholeNumeric fractionNumeric
    refine Or.inr (withSign_numeric number _ (by simp) ?_)
    rw [List.all_append, wholeNumeric, List.all_cons, fractionNumeric]
    rfl

end Decimal

theorem guarded_minusInfinity : Guarded [] "-inf" := by
  have reads : ReadsAs "-inf" [⟨[], .symbol, ['-']⟩, ⟨[], .word, "inf".toList⟩] :=
    ⟨by simp, by decide, by decide, by rintro c ⟨⟩; decide, by rintro c ⟨⟩; decide⟩
  exact ⟨_, reads, .free (by decide)⟩

section

variable {write : String → String} (keeps : KeepsLiterals write)

include keeps

theorem guarded_float (number : Float) : Guarded [] (write (Decimal.plain number)) := by
  rcases Decimal.plain_cases number with named | ⟨nonempty, numeric⟩
  · simp only [List.mem_cons, List.not_mem_nil, or_false] at named
    rcases named with same | same | same <;> rw [same, keeps.free _ (by simp)]
    · exact guarded_word "nan" (by decide)
    · exact guarded_word "inf" (by decide)
    · exact guarded_minusInfinity
  · rw [keeps.numeric _ numeric]
    exact guarded_numeric _ nonempty numeric

theorem guarded_quoted (text : String) : Guarded [] (write (Text.quote text)) := by
  obtain ⟨other, written⟩ := keeps.quote text
  rw [written]
  exact guarded_literal other

end

def isUnescaped (c : Char) : Bool :=
  c ≠ Text.quoteMark && c ≠ Text.escapeMark

theorem quote_of_unescaped (text : String) (free : text.toList.all isUnescaped = true) :
    "'" ++ text ++ "'" = Text.quote text := by
  have same : Text.escapeChars text.toList = text.toList := by
    generalize text.toList = characters at free
    induction characters with
    | nil => rfl
    | cons c rest ih =>
        simp only [List.all_cons, Bool.and_eq_true, isUnescaped, ne_eq, decide_not,
          Bool.not_eq_true', decide_eq_false_iff_not] at free
        rw [Text.escapeChars, if_neg (by simp [free.1]), ih free.2]
  rw [Text.quote, Text.escape, same, String.ofList_toList]

theorem isUnescaped_of_isDigit (c : Char) (digit : c.isDigit = true) : isUnescaped c = true := by
  have notQuote : c ≠ Text.quoteMark := by
    rintro rfl
    contradiction
  have notEscape : c ≠ Text.escapeMark := by
    rintro rfl
    contradiction
  simp [isUnescaped, notQuote, notEscape]

theorem all_isUnescaped_padded (width value : Nat) :
    (Calendar.padded width value).toList.all isUnescaped = true := by
  rw [List.all_eq_true]
  intro c member
  simp only [Calendar.padded, String.toList_ofList, List.mem_append, List.mem_replicate] at member
  rcases member with ⟨_, rfl⟩ | member
  · decide
  · exact isUnescaped_of_isDigit c (Nat.isDigit_of_mem_toDigits (by decide) (by decide) member)

theorem all_isUnescaped_dateText (date : Date) :
    (Calendar.dateText date).toList.all isUnescaped = true := by
  have year : (Calendar.yearText date.year).toList.all isUnescaped = true := by
    unfold Calendar.yearText
    split
    · rw [String.toList_append, List.all_append, all_isUnescaped_padded]
      rfl
    split
    · rw [String.toList_append, List.all_append, all_isUnescaped_padded]
      rfl
    · exact all_isUnescaped_padded _ _
  simp only [Calendar.dateText, String.toList_append, List.all_append, year,
    all_isUnescaped_padded]
  rfl

theorem all_isUnescaped_dateTimeText (time : DateTime) :
    (Calendar.dateTimeText time).toList.all isUnescaped = true := by
  have fraction : (Calendar.fractionText time.nanosecond).toList.all isUnescaped = true := by
    unfold Calendar.fractionText
    simp only
    split
    · rfl
    split
    · rw [String.toList_append, List.all_append, all_isUnescaped_padded]
      rfl
    split
    · rw [String.toList_append, List.all_append, all_isUnescaped_padded]
      rfl
    · rw [String.toList_append, List.all_append, all_isUnescaped_padded]
      rfl
  simp only [Calendar.dateTimeText, Calendar.secondText, String.toList_append, List.all_append,
    fraction, all_isUnescaped_dateText, all_isUnescaped_padded]
  rfl

theorem isUnescaped_digitChar : ∀ digit < 16, isUnescaped (Nat.digitChar digit) = true := by
  decide

theorem isUnescaped_hexDigits (count value : Nat) :
    ∀ c ∈ Uuid.hexDigits count value, isUnescaped c = true := by
  induction count generalizing value with
  | zero => simp [Uuid.hexDigits]
  | succ count ih =>
      intro c member
      rcases List.mem_append.mp member with member | member
      · exact ih _ c member
      · obtain rfl : c = Nat.digitChar (value % 16) := by simpa using member
        exact isUnescaped_digitChar _ (Nat.mod_lt _ (by decide))

theorem all_isUnescaped_uuid (uuid : Uuid) : uuid.render.toList.all isUnescaped = true := by
  have digits : ∀ c ∈ Uuid.hexDigits 32 uuid.value.toNat, isUnescaped c = true :=
    isUnescaped_hexDigits 32 _
  have taken (start count : Nat) :
      (((Uuid.hexDigits 32 uuid.value.toNat).drop start).take count).all isUnescaped = true :=
    List.all_eq_true.mpr fun c member =>
      digits c (List.mem_of_mem_drop (List.mem_of_mem_take member))
  have first := taken 0 8
  have last : ((Uuid.hexDigits 32 uuid.value.toNat).drop 20).all isUnescaped = true :=
    List.all_eq_true.mpr fun c member => digits c (List.mem_of_mem_drop member)
  rw [List.drop_zero] at first
  simp only [Uuid.render, String.toList_ofList, List.all_append, List.all_cons, first, taken, last]
  rfl

theorem guarded_unescaped {write : String → String} (keeps : KeepsLiterals write) (text : String)
    (free : text.toList.all isUnescaped = true) : Guarded [] (write ("'" ++ text ++ "'")) := by
  rw [quote_of_unescaped text free]
  exact guarded_quoted keeps text

mutual

/-- Whether a value has neither decimals nor maps among its parts. -/
def Value.isSimple : Value → Bool
  | .decimal _ | .map _ => false
  | .array items => itemsSimple items
  | .tuple items => itemsSimple items
  | _ => true

def itemsSimple : List Value → Bool
  | [] => true
  | value :: rest => value.isSimple && itemsSimple rest

end

theorem KeepsLiterals.bracketed {write : String → String} (keeps : KeepsLiterals write)
    (opening closing : Char) (items : List String)
    (free : opening ≠ '%' ∧ closing ≠ '%') :
    (write (opening.toString ++ Text.commaList items ++ closing.toString)).toList =
      opening :: ((Text.commaList (items.map write)).toList ++ [closing]) := by
  rw [keeps.append, keeps.append, keeps.commaList, keeps.free opening.toString (by simp [free.1]),
    keeps.free closing.toString (by simp [free.2])]
  simp

mutual

theorem Value.guarded {write : String → String} (value : Value) (keeps : KeepsLiterals write)
    (simple : value.isSimple = true) : Guarded [] (write value.literal) := by
  cases value with
  | null =>
      rw [Value.literal, keeps.free "NULL" (by simp)]
      exact guarded_word "NULL" (by decide)
  | bool value =>
      cases value
      · exact keeps.natural 0 ▸ guarded_natural 0
      · exact keeps.natural 1 ▸ guarded_natural 1
  | int value =>
      rw [Value.literal, keeps.integer]
      exact guarded_integer _
  | uint value =>
      rw [Value.literal, keeps.natural]
      exact guarded_natural _
  | bigInt value =>
      rw [Value.literal, keeps.integer]
      exact guarded_integer _
  | float value => exact guarded_float keeps value
  | decimal text => contradiction
  | string text => exact guarded_quoted keeps text
  | date value => exact guarded_unescaped keeps _ (all_isUnescaped_dateText value)
  | dateTime value => exact guarded_unescaped keeps _ (all_isUnescaped_dateTimeText value)
  | uuid value => exact guarded_unescaped keeps _ (all_isUnescaped_uuid value)
  | array items =>
      have shape := keeps.bracketed '[' ']' (Value.literals items) (by decide)
      exact (literals_guarded items keeps simple).bracketed rfl rfl (by decide) shape
  | tuple items =>
      have shape := keeps.bracketed '(' ')' (Value.literals items) (by decide)
      exact (literals_guarded items keeps simple).bracketed rfl rfl (by decide) shape
  | map entries => contradiction

theorem literals_guarded {write : String → String} (items : List Value)
    (keeps : KeepsLiterals write) (simple : itemsSimple items = true) :
    GuardedItems [] ((Value.literals items).map write) := by
  cases items with
  | nil => exact .nil
  | cons value rest =>
      rw [itemsSimple, Bool.and_eq_true] at simple
      exact .cons (value.guarded keeps simple.1) (literals_guarded rest keeps simple.2)

end

end ClickHouse
