import ClickHouse.Proofs.DataType.RoundTrip
import ClickHouse.Proofs.Lexeme.Marker

/-!
Types among the items of a list. Whatever labels and timezones a type holds, its text is one item,
whose first word is the name of a family; names of fields stand before such a word and names of
functions before a comma or a bracket, so a marker cannot arise (`DataType.clause`).
-/

namespace ClickHouse

open Lexeme

theorem guarded_word (word : String) (isWord : Identifier.isWord word = true) : Guarded [] word :=
  guarded_lexeme .word (isItem_word word isWord) (spells_word word isWord)

theorem guarded_literal (text : String) : Guarded [] (Text.quote text) :=
  guarded_lexeme .literal (isItem_literal text) (spells_literal text)

def isNumeric (c : Char) : Bool :=
  c.isDigit || c = '-' || c = '.'

theorem isRunPart_of_isNumeric (c : Char) (numeric : isNumeric c = true) :
    isRunPart c = true ∧ Text.isBlank c = false ∧ isWordStart c = false := by
  have shape : c.isDigit = true ∨ c = '-' ∨ c = '.' := by
    simpa [isNumeric, or_assoc] using numeric
  rcases shape with digit | rfl | rfl
  · have part : isWordPart c = true := by simp [isWordPart_eq, digit]
    obtain ⟨notGap, notMark, notQuote⟩ := not_mark_of_isWordPart c part
    exact ⟨by simp [isRunPart, notGap, notMark, notQuote], not_isBlank_of_isWordPart c part,
      not_isWordStart_of_isDigit c digit⟩
  · decide
  · decide

theorem guarded_numeric (text : String) (nonempty : text ≠ "")
    (numeric : text.toList.all isNumeric = true) : Guarded [] text := by
  have each : ∀ c ∈ text.toList, isNumeric c = true := List.all_eq_true.mp numeric
  obtain ⟨lexemes, reads⟩ := (isItem_runs text nonempty fun c member =>
    ⟨(isRunPart_of_isNumeric c (each c member)).1,
      (isRunPart_of_isNumeric c (each c member)).2.1⟩).reads
  refine ⟨lexemes, reads, .free (markerFree_of_no_word lexemes ?_)⟩
  intro lexeme member isWord
  obtain ⟨spelled, inside⟩ := spelled_of_scan reads.scanned lexeme member
  rw [isWord] at spelled
  cases characters : lexeme.text with
  | nil => simp [characters, Kind.spells] at spelled
  | cons c rest =>
      have start : isWordStart c = true := by
        simp only [characters, Kind.spells, Bool.and_eq_true] at spelled
        exact spelled.1
      have notStart := (isRunPart_of_isNumeric c (each c (inside c (by simp [characters])))).2.2
      simp [start] at notStart

theorem isNumeric_of_isDigit (c : Char) (digit : c.isDigit = true) : isNumeric c = true := by
  simp [isNumeric, digit]

theorem all_isNumeric_repr (value : Nat) : (Nat.repr value).toList.all isNumeric = true :=
  List.all_eq_true.mpr fun c member => isNumeric_of_isDigit c (isDigit_of_mem_repr value c member)

theorem guarded_natural (value : Nat) : Guarded [] (Nat.repr value) :=
  guarded_lexeme .number (isItem_number value) (spells_number value)

theorem all_isNumeric_integer (value : Int) : (toString value).toList.all isNumeric = true := by
  by_cases negative : value < 0
  · rw [DataType.toString_of_neg value negative, String.toList_append, List.all_append,
      all_isNumeric_repr]
    rfl
  · rw [DataType.toString_of_nonneg value negative]
    exact all_isNumeric_repr _

theorem guarded_integer (value : Int) : Guarded [] (toString value) := by
  by_cases negative : value < 0
  · refine guarded_numeric _ ?_ (all_isNumeric_integer value)
    rw [DataType.toString_of_neg value negative]
    intro empty
    have characters := congrArg String.toList empty
    simp at characters
  · rw [DataType.toString_of_nonneg value negative]
    exact guarded_natural _

namespace DataType

mutual

def isNamed : DataType → Bool
  | array item => item.isNamed
  | nullable inner => inner.isNamed
  | lowCardinality inner => inner.isNamed
  | tuple elements => elementsNamed elements
  | map key value => key.isNamed && value.isNamed
  | nested fields => fieldsNamed fields
  | aggregateFunction function arguments => Identifier.isWord function && argumentsNamed arguments
  | simpleAggregateFunction function arguments =>
    Identifier.isWord function && argumentsNamed arguments
  | _ => true

def elementsNamed : List (Option String × DataType) → Bool
  | [] => true
  | (name, type) :: rest => name.all Identifier.isWord && type.isNamed && elementsNamed rest

def fieldsNamed : List (String × DataType) → Bool
  | [] => true
  | (name, type) :: rest => Identifier.isWord name && type.isNamed && fieldsNamed rest

def argumentsNamed : List DataType → Bool
  | [] => true
  | type :: rest => type.isNamed && argumentsNamed rest

end

theorem clause_family (name : String) (neutral : isNeutral name = true) :
    GuardedClause [] name := by
  obtain ⟨reads, -, notClosing⟩ := clause_word neutral
  refine ⟨_, reads, .free rfl, ?_⟩
  rintro first ⟨⟩
  exact notClosing

theorem isNeutral_intType (type : IntType) : isNeutral type.name = true := by
  obtain ⟨signed, width⟩ := type
  cases signed <;> cases width <;> decide

theorem isNeutral_enumWidth (width : EnumWidth) : isNeutral width.familyName = true := by
  cases width <;> decide

theorem clause_one {text argument : String} (family : String) (neutral : isNeutral family = true)
    (guarded : Guarded [] argument)
    (shape : text.toList = family.toList ++ '(' :: (argument.toList ++ [')'])) :
    GuardedClause [] text :=
  GuardedItems.call family (.cons guarded .nil) neutral shape

theorem clause_two {text first second : String} (family : String)
    (neutral : isNeutral family = true) (left : Guarded [] first) (right : Guarded [] second)
    (shape : text.toList =
      family.toList ++ '(' :: (first.toList ++ ',' :: ' ' :: (second.toList ++ [')']))) :
    GuardedClause [] text := by
  refine GuardedItems.call family (.cons left (.cons right .nil)) neutral ?_
  rw [shape, commaList_toList]
  simp [moreItems]

theorem guarded_member (member : String × Int16) : Guarded [] (renderMember member) := by
  have written : renderMember member =
      Text.quote member.1 ++ " " ++ ("=" ++ " " ++ toString member.2.toInt) := by
    rw [← String.toList_inj]
    simp [renderMember]
  rw [written]
  exact (guarded_literal member.1).join (guarded_integer member.2.toInt).equals

theorem guarded_members (members : List (String × Int16)) :
    GuardedItems [] (members.map renderMember) := by
  induction members with
  | nil => exact .nil
  | cons member rest ih => exact .cons (guarded_member member) ih

mutual

theorem clause (type : DataType) (named : type.isNamed = true) : GuardedClause [] type.render := by
  cases type with
  | int type => exact clause_family _ (isNeutral_intType type)
  | float32 => exact clause_family "Float32" (by decide)
  | float64 => exact clause_family "Float64" (by decide)
  | bool => exact clause_family "UInt8" (by decide)
  | date => exact clause_family "Date" (by decide)
  | date32 => exact clause_family "Date32" (by decide)
  | string => exact clause_family "String" (by decide)
  | uuid => exact clause_family "UUID" (by decide)
  | ipv4 => exact clause_family "IPv4" (by decide)
  | ipv6 => exact clause_family "IPv6" (by decide)
  | unrecognized spelling => exact clause_family "Nothing" (by decide)
  | decimal precision scale =>
      exact clause_two "Decimal" (by decide) (guarded_natural precision.toNat)
        (guarded_natural scale.toNat) (by simp)
  | dateTime timezone =>
      cases timezone with
      | none => exact clause_family "DateTime" (by decide)
      | some timezone =>
          exact clause_one "DateTime" (by decide) (guarded_literal timezone) (by simp)
  | dateTime64 precision timezone =>
      cases timezone with
      | none =>
          exact clause_one "DateTime64" (by decide) (guarded_natural precision.toNat) (by simp)
      | some timezone =>
          exact clause_two "DateTime64" (by decide) (guarded_natural precision.toNat)
            (guarded_literal timezone) (by simp)
  | fixedString length =>
      exact clause_one "FixedString" (by decide) (guarded_natural length.toNat) (by simp)
  | enumeration width members =>
      exact (guarded_members members).call width.familyName (isNeutral_enumWidth width) (by simp)
  | array item => exact clause_one "Array" (by decide) (item.clause named).guarded (by simp)
  | nullable inner =>
      exact clause_one "Nullable" (by decide) (inner.clause named).guarded (by simp)
  | lowCardinality inner =>
      exact clause_one "LowCardinality" (by decide) (inner.clause named).guarded (by simp)
  | tuple elements => exact (guarded_elements elements named).call "Tuple" (by decide) (by simp)
  | map key value =>
      rw [isNamed, Bool.and_eq_true] at named
      exact clause_two "Map" (by decide) (key.clause named.1).guarded
        (value.clause named.2).guarded (by simp)
  | nested fields => exact (guarded_fields fields named).call "Nested" (by decide) (by simp)
  | aggregateFunction function arguments =>
      rw [isNamed, Bool.and_eq_true] at named
      have items := GuardedItems.cons (guarded_word function named.1)
        (guarded_arguments arguments named.2)
      exact items.call "AggregateFunction" (by decide) (by simp)
  | simpleAggregateFunction function arguments =>
      rw [isNamed, Bool.and_eq_true] at named
      have items := GuardedItems.cons (guarded_word function named.1)
        (guarded_arguments arguments named.2)
      exact items.call "SimpleAggregateFunction" (by decide) (by simp)

theorem guarded_elements (elements : List (Option String × DataType))
    (named : elementsNamed elements = true) : GuardedItems [] (renderElements elements) := by
  cases elements with
  | nil => exact .nil
  | cons element rest =>
      obtain ⟨name, type⟩ := element
      rw [elementsNamed, Bool.and_eq_true, Bool.and_eq_true] at named
      have others := guarded_elements rest named.2
      cases name with
      | none => exact .cons (type.clause named.1.2).guarded others
      | some name => exact .cons ((guarded_word name named.1.1).join (type.clause named.1.2)) others

theorem guarded_fields (fields : List (String × DataType)) (named : fieldsNamed fields = true) :
    GuardedItems [] (renderFields fields) := by
  cases fields with
  | nil => exact .nil
  | cons field rest =>
      obtain ⟨name, type⟩ := field
      rw [fieldsNamed, Bool.and_eq_true, Bool.and_eq_true] at named
      exact .cons ((guarded_word name named.1.1).join (type.clause named.1.2))
        (guarded_fields rest named.2)

theorem guarded_arguments (arguments : List DataType) (named : argumentsNamed arguments = true) :
    GuardedItems [] (renderArguments arguments) := by
  cases arguments with
  | nil => exact .nil
  | cons type rest =>
      rw [argumentsNamed, Bool.and_eq_true] at named
      exact .cons (type.clause named.1).guarded (guarded_arguments rest named.2)

end

end DataType

end ClickHouse
