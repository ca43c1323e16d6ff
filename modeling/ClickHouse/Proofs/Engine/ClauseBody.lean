import ClickHouse.Proofs.Engine.KeyClauses

/-!
Bodies of clauses that list items. No clause starts inside an item, so splitting leaves the list
in the clause whose keyword stands before it (`scan?_clauseText`).
-/

namespace ClickHouse.EngineDefinition

open Lexeme

/-- A lexeme that is no bracket and starts no keyword. -/
structure Idle (lexeme : Lexeme) : Prop where
  notOpening : lexeme.kind.opens = false
  notClosing : lexeme.kind.closes = false
  notKeyword : lexeme.kind = .word → ∀ clause : Clause, clause.words.head? ≠ some lexeme.spelling

theorem clauseAt?_idle (lexeme : Lexeme) (rest : List Lexeme) (idle : Idle lexeme) :
    clauseAt? (lexeme :: rest) = none := by
  rw [clauseAt?, List.find?_eq_none]
  intro clause _
  cases words : clause.words with
  | nil => cases clause <;> simp [Clause.words] at words
  | cons word others =>
      have different : ¬(lexeme.kind = .word ∧ lexeme.spelling = word) := by
        rintro ⟨isWord, rfl⟩
        exact idle.notKeyword isWord clause (by rw [words]; rfl)
      simp [dropWords?, different]

theorem idle_word (name : String) (small : ∀ c ∈ name.toList.head?, c.isUpper = false) :
    Idle ⟨[], .word, name.toList⟩ := by
  refine ⟨rfl, rfl, fun _ clause isKeyword => ?_⟩
  obtain ⟨first, starts, capital⟩ : ∃ first, clause.words.head? = some first ∧
      ∃ c ∈ first.toList.head?, c.isUpper = true := by
    cases clause
    · exact ⟨"PARTITION", rfl, 'P', rfl, rfl⟩
    · exact ⟨"ORDER", rfl, 'O', rfl, rfl⟩
    · exact ⟨"PRIMARY", rfl, 'P', rfl, rfl⟩
    · exact ⟨"SAMPLE", rfl, 'S', rfl, rfl⟩
    · exact ⟨"TTL", rfl, 'T', rfl, rfl⟩
    · exact ⟨"SETTINGS", rfl, 'S', rfl, rfl⟩
  obtain ⟨c, isFirst, isUpper⟩ := capital
  obtain rfl : first = name := by
    simpa [Lexeme.spelling] using starts.symm.trans isKeyword
  rw [small c isFirst] at isUpper
  contradiction

/-- Groups, and lexemes outside them that start no keyword. -/
inductive Clauseless : List Lexeme → Prop
  | nil : Clauseless []
  | idle {lexeme : Lexeme} {rest : List Lexeme} :
      Idle lexeme → Clauseless rest → Clauseless (lexeme :: rest)
  | group {keys rest : List Lexeme} :
      Contained endsKeys 0 keys = true → Clauseless rest → Clauseless (keys ++ rest)

namespace Clauseless

theorem append {left right : List Lexeme} (leftFree : Clauseless left)
    (rightFree : Clauseless right) : Clauseless (left ++ right) := by
  induction leftFree with
  | nil => exact rightFree
  | idle isIdle _ ih => exact .idle isIdle ih
  | group contained _ ih =>
      rw [List.append_assoc]
      exact .group contained ih

theorem indented {lexemes : List Lexeme} (free : Clauseless lexemes) :
    Clauseless (Lexeme.indented lexemes) := by
  induction free with
  | nil => exact .nil
  | @idle lexeme rest isIdle others _ =>
      have spaced : Idle { lexeme with gap := ' ' :: lexeme.gap } :=
        ⟨isIdle.notOpening, isIdle.notClosing, isIdle.notKeyword⟩
      exact .idle spaced others
  | @group keys rest contained others ih =>
      by_cases empty : keys = []
      · rw [empty]
        exact ih
      · rw [indented_append keys rest empty]
        rw [← contained_indented] at contained
        exact .group contained others

theorem split {lexemes : List Lexeme} (free : Clauseless lexemes) (rest : List Lexeme) :
    splitClausesFrom 0 0 (lexemes ++ rest) =
      (lexemes ++ (splitClausesFrom 0 0 rest).1, (splitClausesFrom 0 0 rest).2) := by
  induction free with
  | nil => rfl
  | @idle lexeme others isIdle _ ih =>
      simp [splitClausesFrom, isIdle.notOpening, isIdle.notClosing, clauseAt?_idle lexeme _ isIdle,
        ih]
  | @group keys others contained _ ih =>
      rw [List.append_assoc, splitClausesFrom_contained keys _ contained, ih]
      simp

end Clauseless

theorem clauseless_of_idle {lexemes : List Lexeme} (idle : ∀ lexeme ∈ lexemes, Idle lexeme) :
    Clauseless lexemes := by
  induction lexemes with
  | nil => exact .nil
  | cons lexeme rest ih =>
      obtain ⟨first, others⟩ := List.forall_mem_cons.mp idle
      exact .idle first (ih others)

/-! Texts in which no clause starts, whatever stands behind them. -/

def IsClausePart (text : List Char) : Prop :=
  ∃ lexemes, lexemes ≠ [] ∧ scan? text = some ⟨lexemes, []⟩ ∧
    Contained Kind.endsPart 0 lexemes = true ∧ Clauseless lexemes

theorem IsClausePart.append {left right : List Char} (leftPart : IsClausePart left)
    (rightPart : IsClausePart right) (separates : Separates right) :
    IsClausePart (left ++ right) := by
  obtain ⟨lexemes, nonempty, scanned, contained, free⟩ := leftPart
  obtain ⟨others, _, scannedRight, containedRight, freeRight⟩ := rightPart
  refine ⟨lexemes ++ others, List.append_ne_nil_of_left_ne_nil nonempty _, ?_, ?_, ?_⟩
  · exact scan?_append_some scanned separates scannedRight
  · exact contained_append _ 0 lexemes others contained containedRight
  · exact free.append freeRight

theorem IsClausePart.space {text : List Char} (part : IsClausePart text) :
    IsClausePart (' ' :: text) := by
  obtain ⟨lexemes, nonempty, scanned, contained, free⟩ := part
  refine ⟨indented lexemes, ?_, scan?_space nonempty scanned, ?_, free.indented⟩
  · cases lexemes with
    | nil => contradiction
    | cons first rest => exact List.cons_ne_nil _ _
  · rw [contained_indented]
    exact contained

theorem IsClausePart.append_space {left right : List Char} (leftPart : IsClausePart left)
    (rightPart : IsClausePart right) : IsClausePart (left ++ ' ' :: right) :=
  leftPart.append rightPart.space (separates_gap ' ' right rfl)

theorem isClausePart_lexeme {kind : Kind} {text : List Char} (spelled : kind.spells text = true)
    (isPart : kind.endsPart = false) (isIdle : Idle ⟨[], kind, text⟩) : IsClausePart text := by
  have notClosing : kind.closes = false := isIdle.notClosing
  have notOpening : kind.opens = false := isIdle.notOpening
  refine ⟨_, List.cons_ne_nil _ _, scan?_spells kind text spelled, ?_, .idle isIdle .nil⟩
  simp [Contained, Kind.depthAfter, isPart, notOpening, notClosing]

theorem isClausePart_keyword (keyword : String) (word : Identifier.isWord keyword = true)
    (free : ∀ clause : Clause, clause.words.head? ≠ some keyword) :
    IsClausePart keyword.toList := by
  apply isClausePart_lexeme (spells_word keyword word) rfl
  refine ⟨rfl, rfl, fun _ clause isKeyword => free clause ?_⟩
  simpa [Lexeme.spelling] using isKeyword

theorem isClausePart_word (name : String) (word : Identifier.isWord name = true)
    (small : ∀ c ∈ name.toList.head?, c.isUpper = false) : IsClausePart name.toList :=
  isClausePart_lexeme (spells_word name word) rfl (idle_word name small)

theorem isClausePart_reference (quoting : QuoteStyle) (name : String)
    (word : Identifier.isWord name = true)
    (small : ∀ c ∈ name.toList.head?, c.isUpper = false) :
    IsClausePart (Identifier.reference quoting name).toList := by
  rcases Identifier.reference_of_isWord quoting name word with bare | marked
  · rw [bare]
    exact isClausePart_word name word small
  · have spelled := spells_quoted quoting.mark name.toList (quoteKind?_mark quoting)
      (ne_mark_of_isWord quoting name word)
    have characters : (Identifier.reference quoting name).toList =
        quoting.mark :: (name.toList ++ [quoting.mark]) := by
      simp [marked]
    rw [characters]
    exact isClausePart_lexeme spelled rfl ⟨rfl, rfl, by simp⟩

theorem isClausePart_literal (text : String) : IsClausePart (Text.quote text).toList :=
  isClausePart_lexeme (spells_literal text) rfl ⟨rfl, rfl, by simp⟩

theorem isClausePart_arguments (items : List String) (each : ∀ item ∈ items, IsItem item) :
    IsClausePart ("(" ++ Text.commaList items ++ ")").toList := by
  obtain ⟨inside, scanned, _, contained⟩ := scan?_group items each
  have free : Clauseless (⟨[], .openRound, ['(']⟩ :: inside ++ [⟨[], .closeRound, [')']⟩]) := by
    have group := contained_group endsKeys ⟨[], .openRound, ['(']⟩ ⟨[], .closeRound, [')']⟩ inside
      rfl rfl rfl contained
    simpa using Clauseless.group group .nil
  exact ⟨_, List.cons_ne_nil _ _, scanned,
    contained_group Kind.endsPart _ _ inside rfl rfl rfl contained, free⟩

structure IsBodyItem (text : String) : Prop where
  part : IsClausePart text.toList
  first : ∀ c ∈ text.toList.head?, Text.isBlank c = false
  last : ∀ c ∈ text.toList.getLast?, Text.isBlank c = false

theorem IsBodyItem.isItem {text : String} (isBodyItem : IsBodyItem text) : IsItem text := by
  obtain ⟨lexemes, nonempty, scanned, contained, _⟩ := isBodyItem.part
  exact ⟨⟨lexemes, nonempty, scanned, contained⟩, isBodyItem.first, isBodyItem.last⟩

theorem sourceOf_indented (lexemes : List Lexeme) (nonempty : lexemes ≠ []) :
    sourceOf (indented lexemes) = ' ' :: sourceOf lexemes := by
  cases lexemes with
  | nil => contradiction
  | cons first rest => simp [indented, Lexeme.source]

theorem commaList_first (first : String) (rest : List String) (item : IsItem first) :
    ∀ c ∈ (Text.commaList (first :: rest)).toList.head?, Text.isBlank c = false := by
  have nonempty : first.toList ≠ [] := by simpa using item.ne_empty
  obtain ⟨d, others, shape⟩ := List.exists_cons_of_ne_nil nonempty
  rw [commaList_toList, shape]
  rintro _ ⟨⟩
  exact item.first d (by rw [shape]; rfl)

theorem commaList_last (items : List String) (each : ∀ item ∈ items, IsItem item) :
    ∀ c ∈ (Text.commaList items).toList.getLast?, Text.isBlank c = false := by
  induction items with
  | nil => simp [Text.commaList, Text.joinWith]
  | cons first rest ih =>
      have item := each first (by simp)
      have others := ih fun item member => each item (List.mem_cons_of_mem _ member)
      cases rest with
      | nil => exact item.last
      | cons second more =>
          have nonempty : (Text.commaList (second :: more)).toList ≠ [] := by
            rw [commaList_toList]
            have filled := (each second (by simp)).ne_empty
            simp [filled]
          have last := visible_last (first.toList ++ [',', ' ']) _ [] nonempty others (by simp)
          simpa [Text.commaList, Text.joinWith] using last

theorem getLast?_append_of (left right : List Char)
    (leftLast : ∀ c ∈ left.getLast?, Text.isBlank c = false)
    (rightLast : ∀ c ∈ right.getLast?, Text.isBlank c = false) :
    ∀ c ∈ (left ++ right).getLast?, Text.isBlank c = false := by
  cases left with
  | nil => exact rightLast
  | cons first rest => exact visible_last [] (first :: rest) right (by simp) leftLast rightLast

theorem scan?_bodyItems (first : String) (rest : List String)
    (each : ∀ item ∈ first :: rest, IsBodyItem item) :
    ∃ lexemes, lexemes ≠ [] ∧
      scan? (Text.commaList (first :: rest)).toList = some ⟨lexemes, []⟩ ∧
      Clauseless lexemes := by
  induction rest generalizing first with
  | nil =>
      obtain ⟨lexemes, nonempty, scanned, _, free⟩ := (each first (by simp)).part
      exact ⟨lexemes, nonempty, scanned, free⟩
  | cons second rest ih =>
      obtain ⟨lexemes, filled, scanned, _, free⟩ := (each first (by simp)).part
      obtain ⟨others, nonempty, scannedOthers, freeOthers⟩ :=
        ih second fun item member => each item (List.mem_cons_of_mem _ member)
      have joined := scan?_comma_space scanned nonempty scannedOthers
      have characters : (Text.commaList (first :: second :: rest)).toList =
          first.toList ++ ',' :: ' ' :: (Text.commaList (second :: rest)).toList := by
        simp [Text.commaList, Text.joinWith]
      have comma : Idle ⟨[], .comma, [',']⟩ := ⟨rfl, rfl, by simp⟩
      rw [characters]
      exact ⟨_, List.append_ne_nil_of_left_ne_nil filled _, joined,
        free.append (.idle comma freeOthers.indented)⟩

def clauseText (keyword : String) : List String → String
  | [] => ""
  | items => " " ++ keyword ++ " " ++ Text.commaList items

theorem scan?_clauseText (keyword first : String) (rest : List String)
    (isWord : Identifier.isWord keyword = true) (each : ∀ item ∈ first :: rest, IsBodyItem item) :
    ∃ body, scan? (clauseText keyword (first :: rest)).toList =
        some ⟨⟨[' '], .word, keyword.toList⟩ :: body, []⟩ ∧
      Clauseless body ∧
      String.ofList (Text.trimChars (sourceOf body)) = Text.commaList (first :: rest) := by
  obtain ⟨lexemes, nonempty, scanned, free⟩ := scan?_bodyItems first rest each
  have items : ∀ item ∈ first :: rest, IsItem item := fun item member => (each item member).isItem
  have firstVisible := commaList_first first rest (items first (by simp))
  have source : sourceOf lexemes = (Text.commaList (first :: rest)).toList := by
    simpa [Scan.source] using scan_source _ _ scanned
  have behind := scan?_space (by simp) (scan?_append_some
    (scan?_spells .word keyword.toList (spells_word keyword isWord)) (separates_gap ' ' _ rfl)
    (scan?_space nonempty scanned))
  refine ⟨Lexeme.indented lexemes, ?_, free.indented, ?_⟩
  · simpa [clauseText, Lexeme.indented] using behind
  · rw [sourceOf_indented lexemes nonempty, Text.trimChars_space, source]
    rw [Text.trimChars_of_ends _ firstVisible (commaList_last _ items), String.ofList_toList]

theorem separates_clauseText (keyword : String) (items : List String) :
    Separates (clauseText keyword items).toList := by
  cases items with
  | nil => simp [clauseText]
  | cons first rest =>
      have blank : (clauseText keyword (first :: rest)).toList =
          ' ' :: (keyword.toList ++ ' ' :: (Text.commaList (first :: rest)).toList) := by
        simp [clauseText]
      rw [blank]
      exact separates_gap ' ' _ rfl

theorem last_clauseText (keyword : String) (items : List String)
    (each : ∀ item ∈ items, IsItem item) :
    ∀ c ∈ (clauseText keyword items).toList.getLast?, Text.isBlank c = false := by
  cases items with
  | nil => simp [clauseText]
  | cons first rest =>
      have filled : (Text.commaList (first :: rest)).toList ≠ [] := by
        rw [commaList_toList]
        have nonempty := (each first (by simp)).ne_empty
        simp [nonempty]
      have last := visible_last (" " ++ keyword ++ " ").toList _ [] filled
        (commaList_last _ each) (by simp)
      rwa [List.append_nil, ← String.toList_append] at last

def withText (entry : Clause × List Lexeme) : Clause × String :=
  (entry.1, String.ofList (Text.trimChars (sourceOf entry.2)))

theorem clauseAt?_word (clause : Clause) (keyword : String) (rest : List Lexeme)
    (words : clause.words = [keyword]) :
    clauseAt? (⟨[' '], .word, keyword.toList⟩ :: rest) = some clause := by
  cases clause with
  | ttl | settings =>
      obtain rfl : _ = keyword := by simpa [Clause.words] using words
      rfl
  | partitionBy | orderBy | primaryKey | sampleBy => simp [Clause.words] at words

def IsEntryOf (clause : Clause) (items : List String) (entries : List (Clause × List Lexeme)) :
    Prop :=
  items = [] ∧ entries = [] ∨ entries.map withText = [(clause, Text.commaList items)]

structure Splits (clause : Clause) (items : List String) (lexemes after : List Lexeme) : Prop where
  noBody : (splitClausesFrom 0 0 lexemes).1 = []
  completesNone : CompletesNone lexemes
  entries : ∃ entries, IsEntryOf clause items entries ∧
    (splitClausesFrom 0 0 lexemes).2 = entries ++ (splitClausesFrom 0 0 after).2

theorem splits_clauseText (clause : Clause) (keyword : String) (items : List String)
    (more : List Char) (after : List Lexeme) (words : clause.words = [keyword])
    (isWord : Identifier.isWord keyword = true) (each : ∀ item ∈ items, IsBodyItem item)
    (scanned : scan? more = some ⟨after, []⟩) (separates : Separates more)
    (noBody : (splitClausesFrom 0 0 after).1 = []) (completes : CompletesNone after) :
    ∃ lexemes, scan? ((clauseText keyword items).toList ++ more) = some ⟨lexemes, []⟩ ∧
      Splits clause items lexemes after := by
  cases items with
  | nil => exact ⟨after, scanned, noBody, completes, [], .inl ⟨rfl, rfl⟩, rfl⟩
  | cons first rest =>
      obtain ⟨body, scannedClause, free, written⟩ := scan?_clauseText keyword first rest isWord each
      have found := clauseAt?_word clause keyword (body ++ after) words
      have split := splitClausesFrom_clause clause _ (body ++ after) rfl found
      rw [words, List.length_singleton, Nat.sub_self, free.split after, noBody, List.append_nil]
        at split
      refine ⟨_, scan?_append_some scannedClause separates scanned, ?_, ?_, ?_⟩
      · rw [List.cons_append, split]
      · -- the keyword of the clause is no second word of another one
        rintro _ ⟨⟩
        have isKeyword : clause.words = [Lexeme.spelling ⟨[' '], .word, keyword.toList⟩] := by
          simpa [Lexeme.spelling] using words
        revert isKeyword
        generalize Lexeme.spelling _ = spelling
        rintro isKeyword
        cases clause with
        | ttl | settings =>
            obtain rfl : _ = spelling := by simpa [Clause.words] using isKeyword
            decide
        | partitionBy | orderBy | primaryKey | sampleBy => simp [Clause.words] at isKeyword
      · refine ⟨[(clause, body)], .inr ?_, ?_⟩
        · simp [withText, written]
        · rw [List.cons_append, split]
          rfl

/-- The items of a clause, which has an empty body or none when it lists nothing. -/
def Lists (clauses : List (Clause × String)) (clause : Clause) (items : List String) : Prop :=
  (bodyOf? clauses clause).getD "" = Text.commaList items

theorem bodyOf?_mem (clauses : List (Clause × String)) (clause : Clause) (body : String)
    (found : bodyOf? clauses clause = some body) : (clause, body) ∈ clauses := by
  rw [bodyOf?, List.lookup_eq_some_iff] at found
  obtain ⟨before, after, shape, _⟩ := found
  have member : (clause, body) ∈ clauses.reverse := by simp [shape]
  simpa using member

theorem bodyOf?_append (before after : List (Clause × String)) (clause : Clause) :
    bodyOf? (before ++ after) clause = (bodyOf? after clause).or (bodyOf? before clause) := by
  rw [bodyOf?, List.reverse_append, List.lookup_append]
  rfl

theorem lists_nothing (entries : List (Clause × List Lexeme)) (clause : Clause)
    (empty : ∀ entry ∈ entries, entry.1 = clause → entry.2 = []) :
    Lists (entries.map withText) clause [] := by
  rw [Lists]
  cases found : bodyOf? (entries.map withText) clause with
  | none => rfl
  | some body =>
      obtain ⟨entry, member, same⟩ := List.mem_map.mp (bodyOf?_mem _ _ _ found)
      obtain ⟨isClause, rfl⟩ := Prod.mk.inj same
      rw [empty entry member isClause]
      rfl

section

variable {clause other : Clause} {items others : List String} {before : List (Clause × String)}
  {entries : List (Clause × List Lexeme)}

theorem lists_own (lists : Lists before clause []) (own : IsEntryOf clause items entries) :
    Lists (before ++ entries.map withText) clause items := by
  rcases own with ⟨rfl, rfl⟩ | listed
  · simpa using lists
  · rw [Lists, bodyOf?_append, listed]
    simp [bodyOf?]

theorem lists_before (lists : Lists before clause items) (own : IsEntryOf other others entries)
    (differs : clause ≠ other) : Lists (before ++ entries.map withText) clause items := by
  rcases own with ⟨rfl, rfl⟩ | listed
  · simpa using lists
  · have mismatch : (clause == other) = false := beq_false_of_ne differs
    have missing : bodyOf? [(other, Text.commaList others)] clause = none := by
      simp [bodyOf?, List.lookup_cons, mismatch]
    rw [Lists, bodyOf?_append, listed, missing]
    exact lists

end

def tailText (rules settings : List String) : String :=
  clauseText "TTL" rules ++ clauseText "SETTINGS" settings

theorem separates_tailText (rules settings : List String) :
    Separates (tailText rules settings).toList := by
  cases rules with
  | nil => simpa [tailText, clauseText] using separates_clauseText "SETTINGS" settings
  | cons first rest =>
      have blank : (tailText (first :: rest) settings).toList = ' ' :: ("TTL ".toList ++
          ((Text.commaList (first :: rest)).toList ++
            (clauseText "SETTINGS" settings).toList)) := by
        simp [tailText, clauseText]
      rw [blank]
      exact separates_gap ' ' _ rfl

section

variable {rules settings : List String} (eachRule : ∀ item ∈ rules, IsBodyItem item)
  (eachSetting : ∀ item ∈ settings, IsBodyItem item)

include eachRule eachSetting

theorem scan?_tailText :
    ∃ lexemes after, scan? (tailText rules settings).toList = some ⟨lexemes, []⟩ ∧
      Splits .ttl rules lexemes after ∧ Splits .settings settings after [] := by
  obtain ⟨after, scannedSettings, settingsSplit⟩ :=
    splits_clauseText .settings "SETTINGS" settings [] [] rfl rfl eachSetting rfl separates_nil rfl
      (by simp [CompletesNone])
  rw [List.append_nil] at scannedSettings
  obtain ⟨lexemes, scanned, rulesSplit⟩ :=
    splits_clauseText .ttl "TTL" rules _ after rfl rfl eachRule scannedSettings
      (separates_clauseText "SETTINGS" settings) settingsSplit.noBody settingsSplit.completesNone
  exact ⟨lexemes, after, by rw [tailText, String.toList_append, scanned], rulesSplit,
    settingsSplit⟩

theorem last_tailText :
    ∀ c ∈ (tailText rules settings).toList.getLast?, Text.isBlank c = false := by
  rw [tailText, String.toList_append]
  apply getLast?_append_of
  · exact last_clauseText "TTL" rules fun item member => (eachRule item member).isItem
  · exact last_clauseText "SETTINGS" settings fun item member => (eachSetting item member).isItem

theorem splitClauses_tailText (keys : String) (writes : WritesKeys keys.toList) :
    ∃ clauses, splitClauses (keys ++ tailText rules settings) = .ok clauses ∧
      Lists clauses .ttl rules ∧ Lists clauses .settings settings := by
  obtain ⟨keyLexemes, scannedKeys, isKeys⟩ := writes.scanned
  obtain ⟨lexemes, after, scanned, rulesSplit, settingsSplit⟩ := scan?_tailText eachRule eachSetting
  obtain ⟨ruleEntries, ownRules, split⟩ := rulesSplit.entries
  obtain ⟨settingEntries, ownSettings, splitAfter⟩ := settingsSplit.entries
  obtain ⟨_, keyEntries, clauses, empty⟩ := splitClausesFrom_keyClauses keyLexemes lexemes isKeys
    rulesSplit.completesNone rulesSplit.noBody
  have whole := scan?_append_some scannedKeys (separates_tailText rules settings) scanned
  have shape : (splitClausesFrom 0 0 (keyLexemes ++ lexemes)).2.map withText =
      keyEntries.map withText ++ ruleEntries.map withText ++ settingEntries.map withText := by
    rw [clauses, split, splitAfter]
    simp [splitClausesFrom]
  refine ⟨_, by rw [splitClauses, Lexeme.scan, String.toList_append, whole], ?_, ?_⟩
  · change Lists ((splitClausesFrom 0 0 (keyLexemes ++ lexemes)).2.map withText) .ttl rules
    have fromKeys := lists_nothing keyEntries .ttl fun entry member isTtl =>
      empty entry member (by rw [isTtl]; rfl)
    rw [shape]
    exact lists_before (lists_own fromKeys ownRules) ownSettings (by decide)
  · change Lists ((splitClausesFrom 0 0 (keyLexemes ++ lexemes)).2.map withText) .settings settings
    have fromKeys := lists_nothing keyEntries .settings fun entry member isSettings =>
      empty entry member (by rw [isSettings]; rfl)
    rw [shape]
    exact lists_own (lists_before fromKeys ownRules (by decide)) ownSettings

end

/-- What stands behind the parameters of an engine: it can be scanned, and it separates. -/
structure IsTail (text : List Char) : Prop where
  scanned : ∃ lexemes, scan? text = some ⟨lexemes, []⟩
  separates : Separates text
  last : ∀ c ∈ text.getLast?, Text.isBlank c = false

theorem WritesKeys.isTail {keys : String} (writes : WritesKeys keys.toList)
    {rules settings : List String} (eachRule : ∀ item ∈ rules, IsBodyItem item)
    (eachSetting : ∀ item ∈ settings, IsBodyItem item) :
    IsTail (keys ++ tailText rules settings).toList := by
  obtain ⟨keyLexemes, scannedKeys, _⟩ := writes.scanned
  obtain ⟨lexemes, _, scanned, _⟩ := scan?_tailText eachRule eachSetting
  have separatesTail := separates_tailText rules settings
  rw [String.toList_append]
  refine ⟨⟨_, scan?_append_some scannedKeys separatesTail scanned⟩, ?_,
    getLast?_append_of _ _ writes.last (last_tailText eachRule eachSetting)⟩
  cases characters : keys.toList with
  | nil => exact separatesTail
  | cons c rest =>
      have separates := writes.separates
      rw [characters] at separates
      exact separates

end ClickHouse.EngineDefinition
