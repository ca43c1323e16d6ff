import ClickHouse.Proofs.DataType.Canonical
import ClickHouse.Proofs.Lexeme.Nesting

/-!
Nesting of type expressions. The reader takes groups of unknown families and functions of
aggregates as they stand and counts both kinds of brackets alike there; everything else of an
accepted text is nested. So an accepted text is nested exactly when the texts that its type keeps
are (`read_nested`).
-/

namespace ClickHouse.DataType

open Lexeme

mutual

/-- The texts that a type keeps as they are written: unknown types and functions of aggregates. -/
def keptTexts : DataType → List String
  | array item => item.keptTexts
  | nullable inner => inner.keptTexts
  | lowCardinality inner => inner.keptTexts
  | tuple elements => keptInElements elements
  | map key value => key.keptTexts ++ value.keptTexts
  | nested fields => keptInFields fields
  | aggregateFunction function arguments => function :: keptInArguments arguments
  | simpleAggregateFunction function arguments => function :: keptInArguments arguments
  | unrecognized spelling => [spelling]
  | _ => []

def keptInElements : List (Option String × DataType) → List String
  | [] => []
  | (_, type) :: rest => type.keptTexts ++ keptInElements rest

def keptInFields : List (String × DataType) → List String
  | [] => []
  | (_, type) :: rest => type.keptTexts ++ keptInFields rest

def keptInArguments : List DataType → List String
  | [] => []
  | type :: rest => type.keptTexts ++ keptInArguments rest

end

theorem keptInElements_fields (fields : List (String × DataType)) :
    keptInElements (fields.map fun field => (some field.1, field.2)) = keptInFields fields := by
  induction fields with
  | nil => rfl
  | cons field rest ih => simp [keptInElements, keptInFields, ih]

theorem keptTexts_ofName (name : String) :
    (ofName name).keptTexts = [] ∨ (ofName name).keptTexts = [name] := by
  unfold ofName
  repeat' split
  all_goals first | exact .inl rfl | exact .inr rfl

/-- Whether lexemes are nested inside of `outer` exactly when some texts are nested. -/
def NestsAs (outer : List Kind) (lexemes : List Lexeme) (texts : List String) : Prop :=
  ∀ rest, Lexeme.nested outer (lexemes ++ rest) = true ↔
    (∀ text ∈ texts, IsNested text) ∧ Lexeme.nested outer rest = true

namespace NestsAs

variable {outer : List Kind} {left right lexemes : List Lexeme} {texts others : List String}

theorem nil : NestsAs outer [] [] := by
  simp [NestsAs]

theorem append (nests : NestsAs outer left texts) (following : NestsAs outer right others) :
    NestsAs outer (left ++ right) (texts ++ others) := by
  intro rest
  rw [List.append_assoc, nests, following, List.forall_mem_append, and_assoc]

theorem plain {lexeme : Lexeme} {kind : Kind} (isKind : lexeme.kind = kind)
    (free : kind.opens = false ∧ kind.closes = false) (nests : NestsAs outer lexemes texts) :
    NestsAs outer (lexeme :: lexemes) texts := by
  intro rest
  obtain rfl := isKind
  rw [List.cons_append, nested_plain free.1 free.2, nests]

theorem round {opening closing : Lexeme} (opens : opening.kind = .openRound)
    (closes : closing.kind = .closeRound) (nests : NestsAs (.openRound :: outer) lexemes texts) :
    NestsAs outer (opening :: (lexemes ++ [closing])) texts := by
  intro rest
  have isOpening : opening.kind.opens = true := by rw [opens]; rfl
  have isClosing : closing.kind.closes = true := by rw [closes]; rfl
  rw [List.cons_append, nested_opening isOpening, opens, List.append_assoc, nests,
    List.singleton_append, nested_closing isClosing, closes]
  rfl

theorem verbatim {barred : Kind → Bool} (named : lexemes ≠ []) (legible : Legible [] lexemes)
    (contained : Contained barred 0 lexemes = true)
    (guarded : ∀ kind : Kind, kind.closes = true → barred kind = false →
      outer.head?.map Kind.partner ≠ some kind) :
    NestsAs outer lexemes [String.ofList (verbatim lexemes)] := by
  intro rest
  have through := nested_through barred [] outer lexemes rest contained guarded
  rw [List.nil_append] at through
  have kept : IsNested (String.ofList (DataType.verbatim lexemes)) ↔
      Lexeme.nested [] lexemes = true := by
    cases lexemes with
    | nil => contradiction
    | cons first more =>
        rw [isNested_iff (by rw [String.toList_ofList]; exact scan?_verbatim first more legible)]
        rfl
  rw [through, Bool.and_eq_true, List.forall_mem_singleton, kept]

end NestsAs

theorem DerivesSign.nestsAs {outer : List Kind} {sign lexemes : List Lexeme} {negative : Bool}
    {texts : List String} (derives : DerivesSign sign negative)
    (nests : NestsAs outer lexemes texts) : NestsAs outer (sign ++ lexemes) texts := by
  cases derives with
  | none => exact nests
  | plus mark isMark _ => exact nests.plain isMark ⟨rfl, rfl⟩
  | minus mark isMark _ => exact nests.plain isMark ⟨rfl, rfl⟩

theorem DerivesMember.nestsAs {outer : List Kind} {lexemes : List Lexeme}
    {member : String × Int16} (derives : DerivesMember lexemes member) :
    NestsAs outer lexemes [] := by
  obtain ⟨label, equals, number, isLabel, isEquals, sign, isNumber, _⟩ := derives
  have value : NestsAs outer _ [] := sign.nestsAs (NestsAs.nil.plain isNumber ⟨rfl, rfl⟩)
  exact (value.plain isEquals ⟨rfl, rfl⟩).plain isLabel ⟨rfl, rfl⟩

theorem DerivesMembers.nestsAs {outer : List Kind} {lexemes : List Lexeme}
    {members : List (String × Int16)} (derives : DerivesMembers lexemes members) :
    NestsAs outer lexemes [] := by
  induction derives with
  | one member => exact member.nestsAs
  | cons comma member isComma _ ih => exact member.nestsAs.append (ih.plain isComma ⟨rfl, rfl⟩)

theorem nestsAs_label {outer : List Kind} {lexemes : List Lexeme} {texts : List String}
    (label : Option Lexeme) (isWord : ∀ word ∈ label, word.kind = .word)
    (nests : NestsAs outer lexemes texts) : NestsAs outer (label.toList ++ lexemes) texts := by
  cases label with
  | none => exact nests
  | some word => exact nests.plain (isWord word rfl) ⟨rfl, rfl⟩

theorem nestsAs_function {outer : List Kind} {function : List Lexeme} (named : function ≠ [])
    (legible : Legible [] function) (contained : Contained endsFunction 0 function = true) :
    NestsAs (.openRound :: outer) function [String.ofList (verbatim function)] := by
  refine .verbatim named legible contained fun kind closes free => ?_
  rintro ⟨⟩
  simp [endsFunction, Kind.partner] at free

mutual

theorem Derives.nestsAs : ∀ {lexemes : List Lexeme} {type : DataType}, Derives lexemes type →
    Legible [] lexemes → ∀ outer, NestsAs outer lexemes type.keptTexts
  | _, _, .name word isWord, legible, outer => by
      rcases keptTexts_ofName word.spelling with none | kept
      · rw [none]
        exact NestsAs.nil.plain isWord ⟨rfl, rfl⟩
      · have contained : Contained Kind.closes 0 [word] = true := by
          simp [Contained, Kind.depthAfter, isWord, Kind.closes, Kind.opens]
        have itself : String.ofList (verbatim [word]) = word.spelling := by
          simp [verbatim, Lexeme.spelling]
        rw [kept, ← itself]
        exact .verbatim (by simp) legible contained (by simp +contextual)
  | _, _, .known _ _ _ isWord opens closes _ arguments, legible, outer =>
      ((arguments.nestsAs legible.tail.tail.left outer).round opens closes).plain isWord ⟨rfl, rfl⟩
  | _, _, .unknown word opening closing inside isWord opens closes _ contained, legible, outer => by
      have group := contained_group Kind.closes opening closing inside (by rw [opens]; rfl)
        (by rw [closes]; rfl) (by rw [opens]; rfl) contained
      have whole : Contained Kind.closes 0 (word :: opening :: (inside ++ [closing])) = true := by
        simpa [Contained, Kind.depthAfter, isWord, Kind.closes, Kind.opens] using group
      exact .verbatim (by simp) legible whole (by simp +contextual)

theorem DerivesArguments.nestsAs : ∀ {family : Family} {lexemes : List Lexeme} {type : DataType},
    DerivesArguments family lexemes type → Legible [] lexemes →
    ∀ outer, NestsAs (.openRound :: outer) lexemes type.keptTexts
  | _, _, _, .array item, legible, _ => item.nestsAs legible _
  | _, _, _, .nullable inner, legible, _ => inner.nestsAs legible _
  | _, _, _, .lowCardinality inner, legible, _ => inner.nestsAs legible _
  | _, _, _, .fixedString _ isNumber _, _, _ => NestsAs.nil.plain isNumber ⟨rfl, rfl⟩
  | _, _, _, .decimal _ _ _ isPrecision _ isComma isScale _, _, _ =>
      ((NestsAs.nil.plain isScale ⟨rfl, rfl⟩).plain isComma ⟨rfl, rfl⟩).plain isPrecision ⟨rfl, rfl⟩
  | _, _, _, .decimalOf _ _ isScale _, _, _ => NestsAs.nil.plain isScale ⟨rfl, rfl⟩
  | _, _, _, .dateTime _ isTimezone, _, _ => NestsAs.nil.plain isTimezone ⟨rfl, rfl⟩
  | _, _, _, .dateTime64 _ isPrecision _, _, _ => NestsAs.nil.plain isPrecision ⟨rfl, rfl⟩
  | _, _, _, .dateTime64In _ _ _ isPrecision _ isComma isTimezone, _, _ =>
      ((NestsAs.nil.plain isTimezone ⟨rfl, rfl⟩).plain isComma ⟨rfl, rfl⟩).plain isPrecision
        ⟨rfl, rfl⟩
  | _, _, _, .noMembers _, _, _ => .nil
  | _, _, _, .members _ members, _, _ => members.nestsAs
  | _, _, _, .noElements, _, _ => .nil
  | _, _, _, .elements elements, legible, _ => elements.nestsAs legible _
  | _, _, _, .noFields, _, _ => .nil
  | _, _, _, .fields fields, legible, outer => by
      have nests := fields.nestsAs legible (.openRound :: outer)
      rwa [keptInElements_fields] at nests
  | _, _, _, .map _ key isComma value, legible, _ =>
      (key.nestsAs legible.left _).append
        ((value.nestsAs legible.right.tail _).plain isComma ⟨rfl, rfl⟩)
  | _, _, _, .aggregateFunction _ named contained more, legible, _ =>
      (nestsAs_function named legible.left contained).append (more.nestsAs legible.right _)
  | _, _, _, .simpleAggregateFunction _ named contained more, legible, _ =>
      (nestsAs_function named legible.left contained).append (more.nestsAs legible.right _)

theorem DerivesElements.nestsAs : ∀ {lexemes : List Lexeme}
    {elements : List (Option String × DataType)}, DerivesElements lexemes elements →
    Legible [] lexemes → ∀ outer, NestsAs outer lexemes (keptInElements elements)
  | _, _, .one label isWord type, legible, outer => by
      have nests := nestsAs_label label isWord (type.nestsAs legible.right outer)
      simpa [keptInElements] using nests
  | _, _, .cons label _ isWord type isComma others, legible, outer =>
      nestsAs_label label isWord ((type.nestsAs legible.right.left outer).append
        ((others.nestsAs legible.right.right.tail outer).plain isComma ⟨rfl, rfl⟩))

theorem DerivesMore.nestsAs : ∀ {lexemes : List Lexeme} {types : List DataType},
    DerivesMore lexemes types → Legible [] lexemes →
    ∀ outer, NestsAs outer lexemes (keptInArguments types)
  | _, _, .nil, _, _ => .nil
  | _, _, .cons _ isComma type others, legible, outer =>
      ((type.nestsAs legible.tail.left outer).append (others.nestsAs legible.tail.right outer)).plain
        isComma ⟨rfl, rfl⟩

end

theorem isNested_of_read {text : String} {type : DataType} (accepted : read text = .ok type) :
    IsNested text ↔ ∀ kept ∈ type.keptTexts, IsNested kept := by
  obtain ⟨_, scan, scanned, derives⟩ := isExpressionOf_of_read accepted
  obtain ⟨_, legible, _⟩ := (scan?_eq_some_iff _ _).mp (scan?_of_scan scanned)
  have nests := derives.nestsAs legible.alone [] []
  rw [List.append_nil] at nests
  rw [← isNested_trim, isNested_iff (scan?_of_scan scanned), nests]
  exact and_iff_left rfl

/-- Accepted brackets are nested up to what is taken without a look at the kinds of its brackets: of
a type expression the texts that its type keeps, of a grouped text the closing bracket and what
stands in front of it. -/
theorem read_nested (text : String) :
    (∀ type, read text = .ok type → (IsNested text ↔ ∀ kept ∈ type.keptTexts, IsNested kept)) ∧
      ∀ inner rest,
        (IsFirstGroup text inner rest → innerGroup text = .ok (inner, rest)) ∧
        (innerGroup text = .ok (inner, rest) ↔
          ∃ close, (close = ')' ∨ close = ']') ∧ Encloses text inner close rest ∧
            IsBalanced inner.toList) ∧
        ∀ close, Encloses text inner close rest →
          (IsFirstGroup text inner rest ↔ close = ')' ∧ IsNested inner) := by
  refine ⟨fun type => isNested_of_read, fun inner rest => ⟨?_, ?_, ?_⟩⟩
  · rintro ⟨encloses, isNested⟩
    exact encloses.innerGroup (.inl rfl) isNested.isBalanced
  · exact innerGroup_eq_ok_iff text inner rest
  · exact fun close encloses => encloses.isFirstGroup_iff

theorem read_of_scan {text : String} {lexemes : List Lexeme} {type : DataType}
    (visible : Text.trim text ≠ "")
    (scanned : scan? (Text.trim text).toList = some ⟨lexemes, []⟩)
    (taken : readType (Text.trim text) (2 * lexemes.length + 2) lexemes = .ok (type, [])) :
    read text = .ok type := by
  simp only [read, readDetailed, if_neg visible, scan_of_scan? scanned, taken]

def stateText : String :=
  "AggregateFunction(f([1]), Geo(')'))"

def stateLexemes : List Lexeme :=
  [⟨[], .word, "AggregateFunction".toList⟩, ⟨[], .openRound, ['(']⟩, ⟨[], .word, ['f']⟩,
    ⟨[], .openRound, ['(']⟩, ⟨[], .openSquare, ['[']⟩, ⟨[], .number, ['1']⟩,
    ⟨[], .closeSquare, [']']⟩, ⟨[], .closeRound, [')']⟩, ⟨[], .comma, [',']⟩,
    ⟨[' '], .word, "Geo".toList⟩, ⟨[], .openRound, ['(']⟩, ⟨[], .literal, "')'".toList⟩,
    ⟨[], .closeRound, [')']⟩, ⟨[], .closeRound, [')']⟩]

theorem read_nested_state :
    read stateText = .ok (aggregateFunction "f([1])" [unrecognized "Geo(')')"]) ∧
      IsNested stateText ∧ Encloses stateText "f([1]), Geo(')')" ')' "" ∧
      IsNested "f([1]), Geo(')')" ∧ innerGroup stateText = .ok ("f([1]), Geo(')')", "") := by
  have scanned : scan? (Text.trim stateText).toList = some ⟨stateLexemes, []⟩ := by
    decide +kernel
  have accepted : read stateText = .ok (aggregateFunction "f([1])" [unrecognized "Geo(')')"]) :=
    read_of_scan (by decide +kernel) scanned rfl
  have kept : ∀ text ∈ (aggregateFunction "f([1])" [unrecognized "Geo(')')"]).keptTexts,
      IsNested text := by
    simp only [keptTexts, keptInArguments, List.append_nil, List.forall_mem_cons,
      List.not_mem_nil, false_implies, implies_true, and_true]
    exact ⟨⟨_, rfl, rfl⟩, ⟨_, rfl, rfl⟩⟩
  have encloses : Encloses stateText "f([1]), Geo(')')" ')' "" :=
    ⟨"AggregateFunction", rfl, ⟨_, rfl, by decide⟩, _, rfl⟩
  have isNested : IsNested "f([1]), Geo(')')" := ⟨_, rfl, rfl⟩
  obtain ⟨types, groups⟩ := read_nested stateText
  obtain ⟨found, _, isFirst⟩ := groups "f([1]), Geo(')')" ""
  exact ⟨accepted, (types _ accepted).mpr kept, encloses, isNested,
    found ((isFirst ')' encloses).mpr ⟨rfl, isNested⟩)⟩

/-- Both kinds of brackets count alike in an unknown family, in the function of an aggregate and in
a group. -/
theorem read_mixed_brackets :
    (read "Foo([))" = .ok (unrecognized "Foo([))") ∧ ¬IsNested "Foo([))") ∧
      (read "AggregateFunction(sum])" = .ok (aggregateFunction "sum]" []) ∧
        ¬IsNested "AggregateFunction(sum])") ∧
      innerGroup "f(a]" = .ok ("a", "") ∧ ¬IsFirstGroup "f(a]" "a" "" := by
  have family : scan? (Text.trim "Foo([))").toList = some ⟨[⟨[], .word, "Foo".toList⟩,
      ⟨[], .openRound, ['(']⟩, ⟨[], .openSquare, ['[']⟩, ⟨[], .closeRound, [')']⟩,
      ⟨[], .closeRound, [')']⟩], []⟩ := by
    decide +kernel
  have aggregate : scan? (Text.trim "AggregateFunction(sum])").toList =
      some ⟨[⟨[], .word, "AggregateFunction".toList⟩, ⟨[], .openRound, ['(']⟩,
        ⟨[], .word, "sum".toList⟩, ⟨[], .closeSquare, [']']⟩, ⟨[], .closeRound, [')']⟩], []⟩ := by
    decide +kernel
  have unnested (text : String) (lexemes : List Lexeme)
      (scanned : scan? (Text.trim text).toList = some ⟨lexemes, []⟩)
      (mixed : Lexeme.nested [] lexemes = false) : ¬IsNested text := by
    rw [← isNested_trim, isNested_iff scanned, mixed]
    decide
  have square : Encloses "f(a]" "a" ']' "" := ⟨"f", rfl, ⟨_, rfl, by decide⟩, _, rfl⟩
  refine ⟨⟨read_of_scan (by decide +kernel) family rfl, unnested _ _ family rfl⟩,
    ⟨read_of_scan (by decide +kernel) aggregate rfl, unnested _ _ aggregate rfl⟩, rfl, ?_⟩
  rintro ⟨round, _⟩
  exact absurd (square.close_unique round) (by decide)

end ClickHouse.DataType
