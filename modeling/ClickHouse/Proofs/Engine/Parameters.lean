import ClickHouse.Engine.Definition
import ClickHouse.Engine.Sql
import ClickHouse.Proofs.Identifier.Reference
import ClickHouse.Proofs.Lexeme.Item

/-!
How the parameters of an engine are written, each as one item, and what is read from each.
-/

namespace ClickHouse

open Lexeme

open Identifier

theorem isItem_word (name : String) (word : isWord name = true) : IsItem name :=
  isItem_plain name (ne_empty_of_isWord name word) <| List.all_eq_true.mpr fun c member =>
    isPlainChar_of_isWordChar c (isWordChar_of_isWord name word c member)

theorem quoteKind?_mark (style : QuoteStyle) : quoteKind? style.mark = some .quoted := by
  cases style <;> rfl

theorem ne_mark_of_isWord (style : QuoteStyle) (name : String) (word : isWord name = true) :
    ∀ c ∈ name.toList, c ≠ style.mark ∧ c ≠ '\\' := by
  intro c member
  obtain ⟨notGrave, notDouble, _, notEscape, _⟩ :=
    free_of_isWordChar c (isWordChar_of_isWord name word c member)
  cases style
  · exact ⟨notGrave, notEscape⟩
  · exact ⟨notDouble, notEscape⟩

theorem isItem_marked (style : QuoteStyle) (name : String) (word : isWord name = true) :
    IsItem (style.mark.toString ++ name ++ style.mark.toString) :=
  isItem_quoted style.mark name (quoteKind?_mark style) (ne_mark_of_isWord style name word)

theorem isItem_reference (style : QuoteStyle) (name : String) (word : isWord name = true) :
    IsItem (reference style name) := by
  rcases reference_of_isWord style name word with bare | marked
  · rw [bare]
    exact isItem_word name word
  · rw [marked]
    exact isItem_marked style name word

theorem spells_reference (style : QuoteStyle) (name : String) (word : isWord name = true) :
    ∃ kind : Kind, (kind = .word ∨ kind = .quoted) ∧
      kind.spells (reference style name).toList = true := by
  rcases reference_of_isWord style name word with bare | marked
  · rw [bare]
    exact ⟨.word, Or.inl rfl, spells_word name word⟩
  · have spelled := spells_quoted style.mark name.toList (quoteKind?_mark style)
      (ne_mark_of_isWord style name word)
    exact ⟨.quoted, Or.inr rfl, by simpa [marked] using spelled⟩

namespace EngineDefinition

theorem dropWhile_of_free (isMark : Char → Bool) (text : List Char)
    (free : ∀ c ∈ text, isMark c = false) : text.dropWhile isMark = text := by
  cases text with
  | nil => rfl
  | cons c rest => simp [free c]

theorem stripMarks_of_free (isMark : Char → Bool) (text : List Char)
    (free : ∀ c ∈ text, isMark c = false) : stripMarks isMark text = text := by
  rw [stripMarks, dropWhile_of_free isMark text free,
    dropWhile_of_free isMark text.reverse (by simpa using free), List.reverse_reverse]

theorem stripMarks_marked (isMark : Char → Bool) (mark : Char) (text : List Char)
    (isMarked : isMark mark = true) (free : ∀ c ∈ text, isMark c = false) :
    stripMarks isMark (mark :: (text ++ [mark])) = text := by
  have left : (mark :: (text ++ [mark])).dropWhile isMark =
      (text ++ [mark]).dropWhile isMark := by
    simp [isMarked]
  cases text with
  | nil => simp [stripMarks, isMarked]
  | cons c rest =>
      have kept : (c :: rest ++ [mark]).dropWhile isMark = c :: rest ++ [mark] := by
        simp [free c]
      rw [stripMarks, left, kept, List.reverse_append, List.reverse_singleton,
        List.singleton_append, List.dropWhile_cons_of_pos isMarked,
        dropWhile_of_free isMark _ (by simpa [or_comm] using free), List.reverse_reverse]

theorem unquote_quote (text : String) : unquote (Text.quote text) = .ok text := by
  rw [unquote, Lexeme.scan, scan?_spells .literal _ (spells_literal text)]
  simp [Text.unquoteChars_quote]

theorem parameterText_quote (text : String) : parameterText (Text.quote text) = text := by
  have trimmed := (isItem_literal text).trim
  have opens : (Text.quote text).toList.head? = some '\x27' := by simp [Text.quote]
  rw [parameterText, trimmed, if_pos opens, unquote_quote]

theorem parameterText_of_word (name : String) (word : isWord name = true) :
    parameterText name = name := by
  have trimmed := (isItem_word name word).trim
  have free := isWordChar_of_isWord name word
  have noQuote : name.toList.head? ≠ some '\x27' := fun head =>
    (free_of_isWordChar _ (free _ (List.mem_of_head? head))).2.2.1 rfl
  have noMarks : ∀ c ∈ name.toList, (c = '\x60' || c = '\x22') = false := by
    intro c member
    obtain ⟨notGrave, notDouble, _⟩ := free_of_isWordChar c (free c member)
    simp [notGrave, notDouble]
  rw [parameterText, trimmed, if_neg noQuote, stripMarks_of_free _ _ noMarks,
    String.ofList_toList]

theorem parameterText_marked (style : QuoteStyle) (name : String) (word : isWord name = true) :
    parameterText (style.mark.toString ++ name ++ style.mark.toString) = name := by
  have trimmed := (isItem_marked style name word).trim
  have characters : (style.mark.toString ++ name ++ style.mark.toString).toList =
      style.mark :: (name.toList ++ [style.mark]) := by
    simp
  have noQuote : (style.mark.toString ++ name ++ style.mark.toString).toList.head? ≠
      some '\x27' := by
    rw [characters, List.head?_cons]
    cases style <;> decide
  have noMarks : ∀ c ∈ name.toList, (c = '\x60' || c = '\x22') = false := by
    intro c member
    obtain ⟨notGrave, notDouble, _⟩ :=
      free_of_isWordChar c (isWordChar_of_isWord name word c member)
    simp [notGrave, notDouble]
  rw [parameterText, trimmed, if_neg noQuote, characters,
    stripMarks_marked _ style.mark _ (by cases style <;> rfl) noMarks, String.ofList_toList]

theorem parameterText_reference (style : QuoteStyle) (name : String) (word : isWord name = true) :
    parameterText (reference style name) = name := by
  rcases reference_of_isWord style name word with bare | marked
  · rw [bare, parameterText_of_word name word]
  · rw [marked, parameterText_marked style name word]

theorem keyOf_plain (columns : List String) (name : String) (item : IsItem name)
    (free : ∀ c ∈ name.toList, c ≠ '\x60') (known : name ∈ columns) :
    keyOf columns name = .named name := by
  have noMarks : ∀ c ∈ name.toList, decide (c = '\x60') = false :=
    fun c member => decide_eq_false (free c member)
  rw [keyOf, item.trim, stripMarks_of_free _ _ noMarks, String.ofList_toList,
    if_pos (by simpa using known)]

theorem keyOf_marked (columns : List String) (name : String) (word : isWord name = true)
    (known : name ∈ columns) :
    keyOf columns (QuoteStyle.grave.mark.toString ++ name ++ QuoteStyle.grave.mark.toString) =
      .named name := by
  have trimmed := (isItem_marked .grave name word).trim
  have characters :
      (QuoteStyle.grave.mark.toString ++ name ++ QuoteStyle.grave.mark.toString).toList =
        '\x60' :: (name.toList ++ ['\x60']) := by
    simp [QuoteStyle.mark]
  have noMarks : ∀ c ∈ name.toList, decide (c = '\x60') = false := by
    intro c member
    exact decide_eq_false (free_of_isWordChar c (isWordChar_of_isWord name word c member)).1
  rw [keyOf, trimmed, characters, stripMarks_marked _ '\x60' _ rfl noMarks, String.ofList_toList,
    if_pos (by simpa using known)]

theorem readUInt64?_repr (value : UInt64) :
    Decimal.readUInt64? (Nat.repr value.toNat).toList = some value.toNat := by
  have digits := isDigit_of_mem_repr value.toNat
  have restored : Decimal.naturalOf (Nat.repr value.toNat).toList = value.toNat := by
    rw [Decimal.naturalOf, Nat.toList_repr, Nat.ofDigitChars_ten_toDigits]
  have areDigits : Decimal.isDigits (Nat.repr value.toNat).toList = true := by
    rw [Decimal.isDigits, Bool.and_eq_true, List.all_eq_true]
    exact ⟨by simp, digits⟩
  have fits : value.toNat < 18446744073709551616 := value.toNat_lt
  unfold Decimal.readUInt64?
  split
  · rename_i rest plus
    have sign := digits '+' (by simp [plus])
    contradiction
  · simp only [restored, areDigits, fits, and_self, if_true]

theorem bufferNumber_repr (parameters : List String) (index : Nat) (value : UInt64)
    (found : parameters[index]? = some (Sql.number value)) :
    bufferNumber parameters index = .ok value := by
  have trimmed := (isItem_number value.toNat).trimChars
  rw [bufferNumber, found]
  simp only [Option.getD_some, Sql.number, trimmed, readUInt64?_repr, UInt64.ofNat_toNat]

end EngineDefinition

end ClickHouse
