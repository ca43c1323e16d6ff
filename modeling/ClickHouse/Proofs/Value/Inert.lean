import ClickHouse.Proofs.Lexeme.Nesting
import ClickHouse.Proofs.Value.Literal

/-!
Literals next to other text. Whatever characters the strings of a value hold, its literal opens and
closes its own quotes and brackets only, and each of its strings is one literal that reads back as
the string (`Value.inscribes`). So the text around it is read as if the value was not there.
-/

namespace ClickHouse

namespace Lexeme

def literalTexts (lexemes : List Lexeme) : List (List Char) :=
  (lexemes.filter fun lexeme => lexeme.kind = .literal).map text

@[simp] theorem literalTexts_append (left right : List Lexeme) :
    literalTexts (left ++ right) = literalTexts left ++ literalTexts right := by
  simp [literalTexts]

theorem literalTexts_chosen (lexemes : List Lexeme) :
    literalTexts (chosen Kind.isFirm lexemes) = literalTexts lexemes := by
  induction lexemes with
  | nil => rfl
  | cons lexeme rest ih =>
      by_cases literal : lexeme.kind = .literal
      · rw [chosen_cons_of_pos (by rw [literal]; rfl)]
        simp only [literalTexts] at ih ⊢
        simp [ungapped, literal, ih]
      · simp only [literalTexts] at ih ⊢
        cases firm : lexeme.kind.isFirm with
        | true => simp [chosen_cons_of_pos firm, ungapped, literal, ih]
        | false => simp [chosen_cons_of_neg firm, literal, ih]

theorem endsBefore_of_firm (text : List Char) (kind : Kind) (firm : kind.isFirm = true) :
    kind.EndsBefore text := by
  intro c _
  revert firm
  cases kind <;> simp [Kind.isFirm, Kind.isRun, Kind.prolongs]

def isSoft (c : Char) : Bool :=
  isGap c || isRunPart c

theorem hasChosen_soft (text : List Char) (soft : text.all isSoft = true) :
    HasChosen Kind.isFirm text [] := by
  induction text with
  | nil => exact .nil
  | cons c rest ih =>
      rw [List.all_cons, Bool.and_eq_true, isSoft, Bool.or_eq_true] at soft
      obtain ⟨blank | part, others⟩ := soft
      · exact .gap transparent_firm blank (ih others)
      · obtain ⟨next, started, isRun⟩ := start_run c part
        exact .passed transparent_firm started isRun (by simp [Kind.isFirm, isRun]) (ih others)

theorem hasChosen_mark (c : Char) (kind : Kind) (mark : markKind? c = some kind) :
    HasChosen Kind.isFirm [c] [⟨[], kind, [c]⟩] := by
  have firm : kind.isFirm = true := by
    unfold markKind? at mark
    repeat' split at mark
    all_goals first | contradiction | (obtain rfl := Option.some.inj mark; rfl)
  exact .mark mark firm .nil

theorem hasChosen_literal (text : String) :
    HasChosen Kind.isFirm (Text.quote text).toList [⟨[], .literal, (Text.quote text).toList⟩] :=
  .of_scan (scan?_spells .literal _ (spells_literal text))

end Lexeme

open Lexeme

/-- Texts that close their quotes and brackets and whose literals read back as the given strings,
in their order. -/
def Inscribes (strings : List String) (text : List Char) : Prop :=
  ∃ lexemes, HasChosen Kind.isFirm text lexemes ∧ nested [] lexemes = true ∧
    (literalTexts lexemes).map Text.unquoteChars = strings.map String.toList

namespace Inscribes

variable {strings others : List String} {text more : List Char}

theorem soft (text : List Char) (isSoft : text.all isSoft = true) : Inscribes [] text :=
  ⟨[], hasChosen_soft text isSoft, rfl, rfl⟩

theorem quote (text : String) : Inscribes [text] (Text.quote text).toList := by
  refine ⟨_, hasChosen_literal text, rfl, ?_⟩
  simp [literalTexts, Text.unquoteChars_quote]

theorem comma : Inscribes [] [','] :=
  ⟨_, hasChosen_mark ',' .comma rfl, rfl, rfl⟩

theorem append (inscribes : Inscribes strings text) (following : Inscribes others more) :
    Inscribes (strings ++ others) (text ++ more) := by
  obtain ⟨left, found, isNested, read⟩ := inscribes
  obtain ⟨right, foundRight, isNestedRight, readRight⟩ := following
  refine ⟨left ++ right, found.append transparent_firm foundRight (endsBefore_of_firm more), ?_, ?_⟩
  · exact (nested_append [] [] left right isNested).trans isNestedRight
  · rw [literalTexts_append, List.map_append, List.map_append, read, readRight]

theorem bracketed (inscribes : Inscribes strings text) {opening closing : Char}
    {opens closes : Kind} (isOpening : markKind? opening = some opens)
    (isClosing : markKind? closing = some closes) (brackets : opens.opens = true)
    (partner : closes = opens.partner) : Inscribes strings (opening :: (text ++ [closing])) := by
  obtain ⟨inside, found, isNested, read⟩ := inscribes
  have whole := (hasChosen_mark opening opens isOpening).append transparent_firm
    (found.append transparent_firm (hasChosen_mark closing closes isClosing) (endsBefore_of_firm _))
    (endsBefore_of_firm _)
  refine ⟨_, whole, nested_group ⟨[], opens, [opening]⟩ ⟨[], closes, [closing]⟩ inside brackets
    partner isNested, ?_⟩
  have notLiteral : opens ≠ .literal ∧ closes ≠ .literal := by
    rw [partner]
    revert brackets
    cases opens <;> decide
  rw [← read]
  simp [literalTexts, notLiteral]

end Inscribes

inductive InscribesItems : List String → List String → Prop
  | nil : InscribesItems [] []
  | cons {strings others first rest} : Inscribes strings first.toList → InscribesItems others rest →
      InscribesItems (strings ++ others) (first :: rest)

theorem InscribesItems.commaList {strings items : List String}
    (inscribes : InscribesItems strings items) :
    Inscribes strings (Text.commaList items).toList := by
  have separator : Inscribes [] ", ".toList := Inscribes.comma.append (.soft [' '] rfl)
  induction inscribes with
  | nil => exact .soft _ rfl
  | @cons strings others first rest isInscribed following ih =>
      cases following with
      | nil =>
          rw [List.append_nil]
          exact isInscribed
      | cons second more =>
          rw [Text.commaList, Text.joinWith_cons_cons]
          simpa [Text.commaList] using (isInscribed.append separator).append ih

mutual

/-- The parts of a value that have no parts, in the order of its literal. -/
def Value.leaves : Value → List Value
  | .array items => itemLeaves items
  | .tuple items => itemLeaves items
  | .map entries => entryLeaves entries
  | leaf => [leaf]

def itemLeaves : List Value → List Value
  | [] => []
  | value :: rest => value.leaves ++ itemLeaves rest

def entryLeaves : List (Value × Value) → List Value
  | [] => []
  | (key, value) :: rest => (key.leaves ++ value.leaves) ++ entryLeaves rest

end

namespace Value

def isDecimal : Value → Bool
  | .decimal _ => true
  | _ => false

def quoted? : Value → Option String
  | .string text => some text
  | .date day => some (Calendar.dateText day)
  | .dateTime time => some (Calendar.dateTimeText time)
  | .uuid identifier => some identifier.render
  | _ => none

def quotedTexts (value : Value) : List String :=
  value.leaves.filterMap quoted?

end Value

theorem isSoft_of_isNumeric (c : Char) (numeric : isNumeric c = true) : isSoft c = true := by
  rw [isSoft, (isRunPart_of_isNumeric c numeric).1, Bool.or_true]

section

variable {write spell : String → String} (keeps : KeepsLiterals write)
  (quotes : ∀ text, write (Text.quote text) = Text.quote (spell text))

include keeps

theorem inscribes_numeric (text : String) (numeric : text.toList.all isNumeric = true) :
    Inscribes [] (write text).toList := by
  rw [keeps.numeric text numeric]
  exact .soft _ (List.all_eq_true.mpr fun c member =>
    isSoft_of_isNumeric c (List.all_eq_true.mp numeric c member))

theorem inscribes_float (number : Float) : Inscribes [] (write (Decimal.plain number)).toList := by
  rcases Decimal.plain_cases number with named | numeric
  · simp only [List.mem_cons, List.not_mem_nil, or_false] at named
    rcases named with same | same | same <;>
      rw [same, keeps.free _ (by simp)] <;>
      exact .soft _ rfl
  · exact inscribes_numeric keeps _ numeric.2

include quotes

omit keeps in
theorem inscribes_unescaped (text : String) (free : text.toList.all isUnescaped = true) :
    Inscribes [spell text] (write ("'" ++ text ++ "'")).toList := by
  rw [quote_of_unescaped text free, quotes]
  exact .quote _

end

mutual

/-- The literal of a value without decimals, in any writing that changes nothing but percent signs:
its strings stand in it as they are spelled. -/
theorem Value.inscribes {write spell : String → String} (value : Value) (keeps : KeepsLiterals write)
    (quotes : ∀ text, write (Text.quote text) = Text.quote (spell text))
    (exact : ∀ leaf ∈ value.leaves, leaf.isDecimal = false) :
    Inscribes (value.quotedTexts.map spell) (write value.literal).toList := by
  cases value with
  | null =>
      rw [Value.literal, keeps.free "NULL" (by simp)]
      exact .soft _ rfl
  | bool value =>
      cases value
      · exact inscribes_numeric keeps "0" rfl
      · exact inscribes_numeric keeps "1" rfl
  | int value => exact inscribes_numeric keeps _ (all_isNumeric_integer _)
  | uint value => exact inscribes_numeric keeps _ (all_isNumeric_repr _)
  | bigInt value => exact inscribes_numeric keeps _ (all_isNumeric_integer _)
  | float value => exact inscribes_float keeps value
  | decimal text =>
      have isExact := exact (.decimal text) (by simp [Value.leaves])
      simp [Value.isDecimal] at isExact
  | string text =>
      rw [Value.literal, quotes]
      exact .quote _
  | date value => exact inscribes_unescaped quotes _ (all_isUnescaped_dateText value)
  | dateTime value => exact inscribes_unescaped quotes _ (all_isUnescaped_dateTimeText value)
  | uuid value => exact inscribes_unescaped quotes _ (all_isUnescaped_uuid value)
  | array items =>
      have shape := keeps.bracketed '[' ']' (Value.literals items) (by decide)
      have inside := (itemsInscribe items keeps quotes exact).commaList
      exact shape ▸ inside.bracketed rfl rfl rfl rfl
  | tuple items =>
      have shape := keeps.bracketed '(' ')' (Value.literals items) (by decide)
      have inside := (itemsInscribe items keeps quotes exact).commaList
      exact shape ▸ inside.bracketed rfl rfl rfl rfl
  | map entries =>
      have shape := keeps.bracketed '\x7b' '\x7d' (Value.entryLiterals entries) (by decide)
      have inside := (entriesInscribe entries keeps quotes exact).commaList
      have whole := ((Inscribes.soft ['\x7b'] rfl).append inside).append (.soft ['\x7d'] rfl)
      exact shape ▸ by simpa [Value.quotedTexts, Value.leaves] using whole

theorem itemsInscribe {write spell : String → String} (items : List Value)
    (keeps : KeepsLiterals write)
    (quotes : ∀ text, write (Text.quote text) = Text.quote (spell text))
    (exact : ∀ leaf ∈ itemLeaves items, leaf.isDecimal = false) :
    InscribesItems (((itemLeaves items).filterMap Value.quoted?).map spell)
      ((Value.literals items).map write) := by
  cases items with
  | nil => exact .nil
  | cons value rest =>
      rw [itemLeaves, List.forall_mem_append] at exact
      have first := value.inscribes keeps quotes exact.1
      have others := itemsInscribe rest keeps quotes exact.2
      rw [itemLeaves, List.filterMap_append, List.map_append]
      exact .cons first others

theorem entriesInscribe {write spell : String → String} (entries : List (Value × Value))
    (keeps : KeepsLiterals write)
    (quotes : ∀ text, write (Text.quote text) = Text.quote (spell text))
    (exact : ∀ leaf ∈ entryLeaves entries, leaf.isDecimal = false) :
    InscribesItems (((entryLeaves entries).filterMap Value.quoted?).map spell)
      ((Value.entryLiterals entries).map write) := by
  cases entries with
  | nil => exact .nil
  | cons entry rest =>
      obtain ⟨key, value⟩ := entry
      rw [entryLeaves, List.forall_mem_append, List.forall_mem_append] at exact
      have isKey := key.inscribes keeps quotes exact.1.1
      have isValue := value.inscribes keeps quotes exact.1.2
      have others := entriesInscribe rest keeps quotes exact.2
      have written : (write (key.literal ++ ": " ++ value.literal)).toList =
          (write key.literal).toList ++ (": ".toList ++ (write value.literal).toList) := by
        rw [keeps.append, keeps.append, keeps.free ": " (by simp)]
        simp
      rw [entryLeaves, List.filterMap_append, List.map_append, List.filterMap_append,
        List.map_append]
      refine .cons ?_ others
      rw [written]
      exact isKey.append ((Inscribes.soft ": ".toList rfl).append isValue)

end

/-- The literal of a value without decimals, wherever it stands between texts that can be read: it
can be read, its brackets are nested, its string literals read back as the strings, dates, times
and identifiers of the value in their order, and the string literals of the whole are those of the
text before it, its own and those of the text behind it. -/
theorem Value.literal_inert (value : Value)
    (exact : ∀ leaf ∈ value.leaves, leaf.isDecimal = false) (before after : String)
    (scanBefore scanAfter : Scan) (readBefore : Lexeme.scan before = .ok scanBefore)
    (readAfter : Lexeme.scan after = .ok scanAfter) :
    ∃ scan whole, Lexeme.scan value.literal = .ok scan ∧ nested [] scan.lexemes = true ∧
      (literalTexts scan.lexemes).map Text.unquoteChars = value.quotedTexts.map String.toList ∧
      Lexeme.scan (before ++ value.literal ++ after) = .ok whole ∧
      literalTexts whole.lexemes =
        literalTexts scanBefore.lexemes ++ literalTexts scan.lexemes ++
          literalTexts scanAfter.lexemes := by
  have inscribes : Inscribes (value.quotedTexts.map id) (id value.literal).toList :=
    value.inscribes .unchanged (fun _ => rfl) exact
  obtain ⟨firm, found, isNested, read⟩ := inscribes
  obtain ⟨scan, scanned, same⟩ := found.scanned
  have foundBefore : HasChosen Kind.isFirm before.toList (chosen Kind.isFirm scanBefore.lexemes) :=
    .of_scan (scan?_of_scan readBefore)
  have foundAfter : HasChosen Kind.isFirm after.toList (chosen Kind.isFirm scanAfter.lexemes) :=
    .of_scan (scan?_of_scan readAfter)
  have joined := (foundBefore.append transparent_firm found (endsBefore_of_firm _)).append
    transparent_firm foundAfter (endsBefore_of_firm _)
  obtain ⟨whole, scannedWhole, sameWhole⟩ := joined.scanned
  have text : before.toList ++ (id value.literal).toList ++ after.toList =
      (before ++ value.literal ++ after).toList := by
    simp
  rw [text] at scannedWhole
  subst same
  refine ⟨scan, whole, scan_of_scan? scanned, ?_, ?_, scan_of_scan? scannedWhole, ?_⟩
  · rwa [nested_chosen] at isNested
  · rwa [literalTexts_chosen, List.map_id] at read
  · rw [← literalTexts_chosen whole.lexemes, sameWhole]
    simp only [literalTexts_append, literalTexts_chosen]

namespace Hostile

def value : Value :=
  .map [(.string "it's \\' OR 1=1 --", .array [.tuple [.null, .string "']) /* 'x"], .bool true]),
    (.date ⟨2024, 2, 29⟩, .tuple [.array [], .string "\n\t)](\x7b"])]

end Hostile

theorem Value.literal_inert_hostile :
    (∀ leaf ∈ Hostile.value.leaves, leaf.isDecimal = false) ∧
    ∃ scan whole, Lexeme.scan Hostile.value.literal = .ok scan ∧
      nested [] scan.lexemes = true ∧
      (literalTexts scan.lexemes).map Text.unquoteChars = ["it's \\' OR 1=1 --", "']) /* 'x",
        "2024-02-29", "\n\t)](\x7b"].map String.toList ∧
      Lexeme.scan ("SELECT f('a', " ++ Hostile.value.literal ++ "), 'b'") = .ok whole ∧
      literalTexts whole.lexemes =
        ["'a'".toList] ++ literalTexts scan.lexemes ++ ["'b'".toList] :=
  have exact : ∀ leaf ∈ Hostile.value.leaves, leaf.isDecimal = false := by decide
  ⟨exact, Value.literal_inert Hostile.value exact "SELECT f('a', " "), 'b'" _ _ rfl rfl⟩

end ClickHouse
