import ClickHouse.Proofs.Engine.Parameters

/-!
The parameters of the families as they stand in a definition. They are items between commas, and
each family is read from them (`merging?_texts`, `buffer_texts`, `distributed_texts`).
-/

namespace ClickHouse

open Lexeme EngineDefinition

namespace Template

@[simp] theorem text_code (code : String) : (Template.code code).text = code := by
  simp [Template.code, Piece.written]

theorem text_commaList (items : List Template) :
    (commaList items).text = Text.commaList (items.map text) := by
  induction items with
  | nil => rfl
  | cons first rest ih =>
      cases rest with
      | nil => rfl
      | cons second others =>
          simp only [commaList, Text.commaList, List.map_cons] at ih ⊢
          rw [joinWith, text_append, text_cons, Piece.written, ih, Text.joinWith_cons_cons,
            String.append_assoc]

theorem text_parenthesized (template : Template) :
    template.parenthesized.text = "(" ++ template.text ++ ")" := by
  simp [parenthesized, Piece.written, String.append_assoc]

end Template

theorem text_literalParameter (text : String) :
    (Sql.literalParameter text).text = Text.quote text := by
  simp [Sql.literalParameter]

theorem text_name (style : SqlStyle) (name : String) (word : Identifier.isWord name = true) :
    (Sql.name style name).text = Identifier.reference style.quoting name := by
  have free : ∀ c ∈ (Identifier.reference style.quoting name).toList, c ≠ '%' := by
    have inName : ∀ c ∈ name.toList, c ≠ '%' := fun c member =>
      (Identifier.free_of_isWordChar c (Identifier.isWordChar_of_isWord name word c member)).2.2.2.2
    have notMark : style.quoting.mark ≠ '%' := by cases style.quoting <;> decide
    rcases Identifier.reference_of_isWord style.quoting name word with bare | marked
    · rwa [bare]
    · rw [marked]
      intro c member
      have shape : c = style.quoting.mark ∨ c ∈ name.toList ∨ c = style.quoting.mark := by
        simpa using member
      rcases shape with rfl | member | rfl
      · exact notMark
      · exact inName c member
      · exact notMark
  simp [Sql.name, Template.plain, Piece.written, Placeholder.protect_of_free _ free]

theorem map_text_name (style : SqlStyle) (names : List String)
    (areWords : ∀ name ∈ names, Identifier.isWord name = true) :
    (names.map (Sql.name style)).map Template.text =
      names.map (Identifier.reference style.quoting) := by
  rw [List.map_map]
  exact List.map_congr_left fun name member => text_name style name (areWords name member)

def Merging.columns : Merging → List String
  | summing columns => columns
  | replacing version => version.toList
  | collapsing sign => [sign]
  | versionedCollapsing sign version => [sign, version]
  | plain | aggregating | graphite _ => []

def Merging.texts (style : SqlStyle) (merging : Merging) : List String :=
  (merging.parameters style).map Template.text

theorem withoutParentheses_group (inside : String) :
    withoutParentheses ("(" ++ inside ++ ")") = inside := by
  have characters : ("(" ++ inside ++ ")").toList = '(' :: (inside.toList ++ [')']) := by
    simp
  have trimmed : Text.trimChars ('(' :: (inside.toList ++ [')'])) =
      '(' :: (inside.toList ++ [')']) := by
    refine Text.trimChars_of_ends _ ?_ ?_
    · rintro c ⟨⟩
      decide
    · rw [← List.cons_append, List.getLast?_concat]
      rintro c ⟨⟩
      decide
  rw [withoutParentheses, characters, trimmed]
  simp

theorem map_parameterText (quoting : QuoteStyle) (names : List String)
    (areWords : ∀ name ∈ names, Identifier.isWord name = true) :
    (names.map (Identifier.reference quoting)).map parameterText = names := by
  induction names with
  | nil => rfl
  | cons name rest ih =>
      have others := ih fun other member => areWords other (List.mem_cons_of_mem _ member)
      rw [List.map_cons, List.map_cons, others, parameterText_reference quoting name
        (areWords name (by simp))]

theorem isItem_references (quoting : QuoteStyle) (names : List String)
    (areWords : ∀ name ∈ names, Identifier.isWord name = true) :
    ∀ item ∈ names.map (Identifier.reference quoting), IsItem item := by
  intro item member
  obtain ⟨name, isName, rfl⟩ := List.mem_map.mp member
  exact isItem_reference quoting name (areWords name isName)

theorem texts_columns (style : SqlStyle) (merging : Merging)
    (areWords : ∀ name ∈ merging.columns, Identifier.isWord name = true)
    (bare : merging.parameters style = merging.columns.map (Sql.name style)) :
    merging.texts style = merging.columns.map (Identifier.reference style.quoting) ∧
      (∀ item ∈ merging.texts style, IsItem item) ∧
      (merging.texts style).map parameterText = merging.columns := by
  have texts : merging.texts style = merging.columns.map (Identifier.reference style.quoting) := by
    rw [Merging.texts, bare, map_text_name style _ areWords]
  refine ⟨texts, ?_, ?_⟩
  · rw [texts]
    exact isItem_references style.quoting _ areWords
  · rw [texts, map_parameterText style.quoting _ areWords]

theorem summing_texts (style : SqlStyle) (columns : List String)
    (areWords : ∀ name ∈ columns, Identifier.isWord name = true) :
    (∀ item ∈ (Merging.summing columns).texts style, IsItem item) ∧
      merging? "SummingMergeTree" ((Merging.summing columns).texts style) =
        some (.ok (.summing columns)) := by
  cases columns with
  | nil => exact ⟨by simp [Merging.texts, Merging.parameters], rfl⟩
  | cons first rest =>
      have items := isItem_references style.quoting (first :: rest) areWords
      have parts := splitTopLevel_items _ items
      have names := map_parameterText style.quoting (first :: rest) areWords
      have texts : (Merging.summing (first :: rest)).texts style =
          ["(" ++ Text.commaList ((first :: rest).map (Identifier.reference style.quoting)) ++
            ")"] := by
        rw [← map_text_name style _ areWords, ← Template.text_commaList,
          ← Template.text_parenthesized]
        rfl
      rw [texts]
      refine ⟨by simpa using isItem_group _ items, ?_⟩
      have summed : summedColumns ["(" ++ Text.commaList
          ((first :: rest).map (Identifier.reference style.quoting)) ++ ")"] =
            .ok (first :: rest) := by
        rw [summedColumns, withoutParentheses_group, parts]
        simp only [names]
      rw [List.map_cons] at summed ⊢
      simp [merging?, summed, Except.map]

theorem merging?_texts (style : SqlStyle) (merging : Merging)
    (areWords : ∀ name ∈ merging.columns, Identifier.isWord name = true) :
    (∀ item ∈ merging.texts style, IsItem item) ∧
      merging? merging.name (merging.texts style) = some (.ok merging) := by
  cases merging with
  | plain | aggregating => exact ⟨by simp [Merging.texts, Merging.parameters], rfl⟩
  | summing columns => exact summing_texts style columns areWords
  | replacing version =>
      cases version with
      | none => exact ⟨by simp [Merging.texts, Merging.parameters], rfl⟩
      | some column =>
          obtain ⟨texts, items, names⟩ := texts_columns style _ areWords rfl
          refine ⟨items, ?_⟩
          simp only [texts, Merging.columns, Option.toList_some, List.map_cons, List.map_nil,
            List.cons.injEq, and_true] at names ⊢
          simp [merging?, Merging.name, names]
  | collapsing sign =>
      obtain ⟨texts, items, names⟩ := texts_columns style _ areWords rfl
      refine ⟨items, ?_⟩
      simp only [texts, Merging.columns, List.map_cons, List.map_nil, List.cons.injEq,
        and_true] at names ⊢
      simp [merging?, Merging.name, required, Except.map, names]
  | versionedCollapsing sign version =>
      obtain ⟨texts, items, names⟩ := texts_columns style _ areWords rfl
      refine ⟨items, ?_⟩
      simp only [texts, Merging.columns, List.map_cons, List.map_nil, List.cons.injEq,
        and_true] at names ⊢
      simp [merging?, Merging.name, required, bind, Except.bind, pure, Except.pure, names.1,
        names.2]
  | graphite config =>
      have texts : (Merging.graphite config).texts style = [Text.quote config] := by
        simp [Merging.texts, Merging.parameters, text_literalParameter]
      rw [texts]
      refine ⟨by simpa using isItem_literal config, ?_⟩
      simp [merging?, Merging.name, required, Except.map, parameterText_quote]

/-- The thresholds as they are read back: one that is missing before a given one is zero. -/
def BufferTable.filled (table : BufferTable) : BufferTable :=
  { table with
    flushTime := table.flushTime <|>
      (if table.flushRows.isSome || table.flushBytes.isSome then some 0 else none)
    flushRows := table.flushRows <|> (if table.flushBytes.isSome then some 0 else none) }

def BufferTable.numbers (table : BufferTable) : List UInt64 :=
  [table.layers, table.minTime, table.maxTime, table.minRows, table.maxRows, table.minBytes,
    table.maxBytes] ++ table.flushThresholds

theorem texts_buffer (table : BufferTable) :
    table.parameters.map Template.text =
      Text.quote table.database :: Text.quote table.table :: table.numbers.map Sql.number := by
  simp [BufferTable.parameters, BufferTable.numbers, text_literalParameter]

theorem flushThresholds_filled (table : BufferTable) :
    table.flushThresholds.length ≤ 3 ∧ table.flushThresholds[0]? = table.filled.flushTime ∧
      table.flushThresholds[1]? = table.filled.flushRows ∧
      table.flushThresholds[2]? = table.filled.flushBytes := by
  obtain ⟨_, _, _, _, _, _, _, _, _, flushTime, flushRows, flushBytes⟩ := table
  cases flushTime <;> cases flushRows <;> cases flushBytes <;>
    simp [BufferTable.flushThresholds, BufferTable.filled]

theorem bufferNumber_numbers (database name : String) (values : List UInt64) (index : Nat)
    (value : UInt64) (found : values[index]? = some value) :
    bufferNumber (database :: name :: values.map Sql.number) (index + 2) = .ok value :=
  bufferNumber_repr _ _ value (by simp [found])

theorem bufferNumber?_numbers (database name : String) (values : List UInt64) (index : Nat) :
    bufferNumber? (database :: name :: values.map Sql.number) (index + 2) = .ok values[index]? := by
  cases found : values[index]? with
  | none =>
      have outside : values.length ≤ index := by simpa using found
      rw [bufferNumber?, if_neg (by simp; omega)]
  | some value =>
      have inside : index < values.length := (List.getElem?_eq_some_iff.mp found).1
      rw [bufferNumber?, if_pos (by simp; omega), bufferNumber_numbers _ _ values index value found]
      rfl

theorem buffer_numbers (table : BufferTable) :
    buffer (Text.quote table.database :: Text.quote table.table ::
      table.numbers.map Sql.number) = .ok table.filled := by
  obtain ⟨few, time, rows, bytes⟩ := flushThresholds_filled table
  have number :=
    bufferNumber_numbers (Text.quote table.database) (Text.quote table.table) table.numbers
  have threshold :=
    bufferNumber?_numbers (Text.quote table.database) (Text.quote table.table) table.numbers
  have length : ¬((table.numbers.map Sql.number).length + 2 < 9 ∨
      12 < (table.numbers.map Sql.number).length + 2) := by
    simp only [BufferTable.numbers, List.length_map, List.length_append, List.length_cons,
      List.length_nil]
    omega
  have layers : bufferNumber _ 2 = .ok table.layers := number 0 _ rfl
  have minTime : bufferNumber _ 3 = .ok table.minTime := number 1 _ rfl
  have maxTime : bufferNumber _ 4 = .ok table.maxTime := number 2 _ rfl
  have minRows : bufferNumber _ 5 = .ok table.minRows := number 3 _ rfl
  have maxRows : bufferNumber _ 6 = .ok table.maxRows := number 4 _ rfl
  have minBytes : bufferNumber _ 7 = .ok table.minBytes := number 5 _ rfl
  have maxBytes : bufferNumber _ 8 = .ok table.maxBytes := number 6 _ rfl
  have flushTime : bufferNumber? _ 9 = .ok table.filled.flushTime :=
    (threshold 7).trans (congrArg Except.ok time)
  have flushRows : bufferNumber? _ 10 = .ok table.filled.flushRows :=
    (threshold 8).trans (congrArg Except.ok rows)
  have flushBytes : bufferNumber? _ 11 = .ok table.filled.flushBytes :=
    (threshold 9).trans (congrArg Except.ok bytes)
  generalize table.numbers.map Sql.number = numbers at *
  simp only [buffer, List.length_cons, length, layers, minTime, maxTime, minRows, maxRows,
    minBytes, maxBytes, flushTime, flushRows, flushBytes, bind, Except.bind, pure, Except.pure,
    if_false, List.getElem?_cons_zero, List.getElem?_cons_succ, Option.getD_some,
    parameterText_quote]
  rfl

theorem buffer_texts (table : BufferTable) :
    (∀ item ∈ table.parameters.map Template.text, IsItem item) ∧
      buffer (table.parameters.map Template.text) = .ok table.filled := by
  rw [texts_buffer]
  refine ⟨?_, buffer_numbers table⟩
  simp only [List.forall_mem_cons, List.forall_mem_map]
  exact ⟨isItem_literal _, isItem_literal _, fun value _ => isItem_number value.toNat⟩

theorem text_name_plain (style : SqlStyle) (name : String)
    (plain : Identifier.requiresQuotes name = false) : (Sql.name style name).text = name := by
  obtain ⟨_, plainChars⟩ := Identifier.isPlainChar_of_not_requiresQuotes name plain
  have free : ∀ c ∈ name.toList, c ≠ '%' := by
    rintro c member rfl
    exact absurd (List.all_eq_true.mp plainChars '%' member) (by decide)
  simp [Sql.name, Template.plain, Piece.written, Identifier.reference, plain,
    Placeholder.protect_of_free _ free]

theorem distributed_texts (style : SqlStyle) (columns : List String) (table : DistributedTable)
    (known : ∀ key ∈ table.shardingKey, ∃ name ∈ columns, key = .named name ∧
      Identifier.requiresQuotes name = false) :
    ∃ parameters, table.parameters style = .ok parameters ∧
      (∀ item ∈ parameters.map Template.text, IsItem item) ∧
      ∀ whole, distributed whole columns (parameters.map Template.text) = .ok table := by
  obtain ⟨cluster, database, name, shardingKey⟩ := table
  cases shardingKey with
  | none =>
      refine ⟨_, rfl, ?_, ?_⟩
      · simp [text_literalParameter, isItem_literal]
      · simp [distributed, text_literalParameter, parameterText_quote]
  | some key =>
      obtain ⟨column, isColumn, rfl, plain⟩ := known key rfl
      obtain ⟨nonempty, plainChars⟩ := Identifier.isPlainChar_of_not_requiresQuotes column plain
      have item := isItem_plain column nonempty plainChars
      have free : ∀ c ∈ column.toList, c ≠ '\x60' := by
        rintro c member rfl
        exact absurd (List.all_eq_true.mp plainChars '\x60' member) (by decide)
      refine ⟨_, rfl, ?_, ?_⟩
      · simp [text_literalParameter, isItem_literal, text_name_plain style column plain, item]
      · simp [distributed, text_literalParameter, parameterText_quote,
          text_name_plain style column plain, keyOf_plain columns column item free isColumn]

theorem isWord_formatName (format : FileFormat) : Identifier.isWord format.name = true := by
  cases format <;> decide

end ClickHouse
