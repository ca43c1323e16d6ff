import ClickHouse.Proofs.Engine.Parameters

/-!
The key clauses behind the parameters of a merge tree. Splitting them into clauses leaves nothing
for retention rules and settings, also when a column is named like one of their keywords.
-/

namespace ClickHouse.EngineDefinition

open Lexeme

def Clause.listsKeys : Clause → Bool
  | .partitionBy | .orderBy | .primaryKey | .sampleBy => true
  | .ttl | .settings => false

/-- What keeps a lexeme outside groups from starting a clause, and a group from ending early. -/
def endsKeys (kind : Kind) : Bool :=
  kind.closes || kind = .word

/-- A keyword of a key clause with one column or one group behind it, any number of times. -/
inductive KeyClauses : List Lexeme → Prop
  | nil : KeyClauses []
  | name {rest : List Lexeme} (clause : Clause) (first second column : Lexeme) :
      clause.listsKeys = true → first.kind = .word → second.kind = .word →
      clause.words = [first.spelling, second.spelling] → column.kind = .word →
      KeyClauses rest → KeyClauses (first :: second :: column :: rest)
  | group {keys rest : List Lexeme} (clause : Clause) (first second : Lexeme) :
      clause.listsKeys = true → first.kind = .word → second.kind = .word →
      clause.words = [first.spelling, second.spelling] → Contained endsKeys 0 keys = true →
      KeyClauses rest → KeyClauses (first :: second :: (keys ++ rest))

theorem dropWords?_of_not_word (word : String) (words : List String) (lexeme : Lexeme)
    (rest : List Lexeme) (notWord : lexeme.kind ≠ .word) :
    dropWords? (word :: words) (lexeme :: rest) = none := by
  simp [dropWords?, notWord]

theorem clauseAt?_of_not_word (lexeme : Lexeme) (rest : List Lexeme)
    (notWord : lexeme.kind ≠ .word) : clauseAt? (lexeme :: rest) = none := by
  rw [clauseAt?, List.find?_eq_none]
  intro clause _
  cases clause <;> simp [Clause.words, dropWords?_of_not_word _ _ _ _ notWord]

theorem clauseAt?_words (clause : Clause) (first second : Lexeme) (rest : List Lexeme)
    (listsKeys : clause.listsKeys = true) (isFirst : first.kind = .word)
    (isSecond : second.kind = .word) (words : clause.words = [first.spelling, second.spelling]) :
    clauseAt? (first :: second :: rest) = some clause := by
  cases clause with
  | ttl | settings => contradiction
  | partitionBy | orderBy | primaryKey | sampleBy =>
      obtain ⟨spellsFirst, spellsSecond⟩ : _ = first.spelling ∧ _ = second.spelling := by
        simpa [Clause.words] using words
      simp [clauseAt?, Clause.all, Clause.words, dropWords?, isFirst, isSecond, ← spellsFirst,
        ← spellsSecond]

theorem first_of_words (clause : Clause) (first second : String)
    (listsKeys : clause.listsKeys = true) (words : clause.words = [first, second]) :
    first ≠ "BY" ∧ first ≠ "KEY" := by
  cases clause with
  | ttl | settings => contradiction
  | partitionBy | orderBy | primaryKey | sampleBy =>
      obtain ⟨rfl, rfl⟩ : _ = first ∧ _ = second := by simpa [Clause.words] using words
      decide

def CompletesNone (lexemes : List Lexeme) : Prop :=
  ∀ first ∈ lexemes.head?, first.spelling ≠ "BY" ∧ first.spelling ≠ "KEY"

theorem KeyClauses.completesNone {lexemes : List Lexeme} (clauses : KeyClauses lexemes)
    {after : List Lexeme} (completes : CompletesNone after) :
    CompletesNone (lexemes ++ after) := by
  cases clauses with
  | nil => exact completes
  | name clause first second column listsKeys isFirst isSecond words =>
      rintro _ ⟨⟩
      exact first_of_words clause _ _ listsKeys words
  | group clause first second listsKeys isFirst isSecond words =>
      rintro _ ⟨⟩
      exact first_of_words clause _ _ listsKeys words

theorem clauseAt?_column (column : Lexeme) (rest : List Lexeme) (completes : CompletesNone rest)
    (clause : Clause) (found : clauseAt? (column :: rest) = some clause) :
    clause.listsKeys = false ∧ clause.words.length = 1 := by
  have matched := List.find?_some found
  cases clause with
  | ttl | settings => exact ⟨rfl, rfl⟩
  | partitionBy | orderBy | primaryKey | sampleBy =>
      cases rest with
      | nil => simp [Clause.words, dropWords?] at matched
      | cons next others =>
          obtain ⟨notBy, notKey⟩ := completes next rfl
          simp [Clause.words, dropWords?, notBy, notKey] at matched

def startsNone (rest : List Lexeme) : Nat → List Lexeme → Bool
  | _, [] => true
  | depth, lexeme :: others =>
    (0 < depth || (clauseAt? (lexeme :: (others ++ rest))).isNone) &&
      startsNone rest (lexeme.kind.depthAfter depth) others

/-- Splitting passes over lexemes among which no clause starts. -/
theorem splitClausesFrom_passes (depth : Nat) (body rest : List Lexeme)
    (contained : Contained Kind.closes depth body = true)
    (passes : startsNone rest depth body = true) :
    splitClausesFrom 0 depth (body ++ rest) =
      (body ++ (splitClausesFrom 0 0 rest).1, (splitClausesFrom 0 0 rest).2) := by
  induction body generalizing depth with
  | nil =>
      obtain rfl : depth = 0 := by simpa [Contained] using contained
      rfl
  | cons lexeme others ih =>
      rw [Contained, Bool.and_eq_true] at contained
      simp only [startsNone, Bool.and_eq_true, Bool.or_eq_true, decide_eq_true_eq,
        Option.isNone_iff_eq_none] at passes
      have noClause :
          (if depth = 0 then clauseAt? (lexeme :: (others ++ rest)) else none) = none := by
        split
        · rename_i outside
          exact passes.1.resolve_left (by omega)
        · rfl
      have after := ih _ contained.2 passes.2
      unfold Kind.depthAfter at after
      rw [List.cons_append, splitClausesFrom]
      split
      · rename_i opens
        rw [if_pos opens] at after
        rw [after, List.cons_append]
      · rename_i notOpening
        rw [if_neg notOpening] at after
        split
        · rename_i closes
          rw [if_pos closes] at after
          rw [after, List.cons_append]
        · rename_i notClosing
          rw [if_neg notClosing] at after
          rw [noClause, after, List.cons_append]

theorem startsNone_of_contained (depth : Nat) (keys rest : List Lexeme)
    (contained : Contained endsKeys depth keys = true) : startsNone rest depth keys = true := by
  induction keys generalizing depth with
  | nil => rfl
  | cons lexeme others ih =>
      simp only [Contained, Bool.and_eq_true, Bool.or_eq_true, decide_eq_true_eq,
        Bool.not_eq_true'] at contained
      obtain ⟨free, contained⟩ := contained
      simp only [startsNone, ih _ contained, Bool.and_true, Bool.or_eq_true, decide_eq_true_eq,
        Option.isNone_iff_eq_none]
      refine free.imp_right fun notKey => clauseAt?_of_not_word lexeme _ ?_
      intro word
      simp [endsKeys, word] at notKey

theorem splitClausesFrom_contained (keys rest : List Lexeme)
    (contained : Contained endsKeys 0 keys = true) :
    splitClausesFrom 0 0 (keys ++ rest) =
      (keys ++ (splitClausesFrom 0 0 rest).1, (splitClausesFrom 0 0 rest).2) := by
  refine splitClausesFrom_passes 0 keys rest ?_ (startsNone_of_contained 0 keys rest contained)
  refine Contained.weaken (fun kind closes => ?_) 0 keys contained
  rw [endsKeys, closes, Bool.true_or]

theorem splitClausesFrom_clause (clause : Clause) (first : Lexeme) (rest : List Lexeme)
    (isWord : first.kind = .word) (found : clauseAt? (first :: rest) = some clause) :
    splitClausesFrom 0 0 (first :: rest) =
      ([], (clause, (splitClausesFrom (clause.words.length - 1) 0 rest).1) ::
        (splitClausesFrom (clause.words.length - 1) 0 rest).2) := by
  have notOpening : first.kind.opens = false := by rw [isWord]; rfl
  have notClosing : first.kind.closes = false := by rw [isWord]; rfl
  simp [splitClausesFrom, notOpening, notClosing, found]

theorem splitClausesFrom_keyword (clause : Clause) (first second : Lexeme) (rest : List Lexeme)
    (listsKeys : clause.listsKeys = true) (isFirst : first.kind = .word)
    (isSecond : second.kind = .word) (words : clause.words = [first.spelling, second.spelling]) :
    splitClausesFrom 0 0 (first :: second :: rest) =
      ([], (clause, (splitClausesFrom 0 0 rest).1) :: (splitClausesFrom 0 0 rest).2) := by
  have found := clauseAt?_words clause first second rest listsKeys isFirst isSecond words
  rw [splitClausesFrom_clause clause first _ isFirst found, words]
  rfl

/-- Splitting passes over key clauses: of retention rules and settings it finds empty bodies
only, for columns that are named like a keyword. -/
theorem splitClausesFrom_keyClauses (lexemes after : List Lexeme) (clauses : KeyClauses lexemes)
    (completes : CompletesNone after) (noBodyAfter : (splitClausesFrom 0 0 after).1 = []) :
    (splitClausesFrom 0 0 (lexemes ++ after)).1 = [] ∧
      ∃ entries, (splitClausesFrom 0 0 (lexemes ++ after)).2 =
          entries ++ (splitClausesFrom 0 0 after).2 ∧
        ∀ entry ∈ entries, entry.1.listsKeys = false → entry.2 = [] := by
  induction clauses with
  | nil => exact ⟨noBodyAfter, [], rfl, by simp⟩
  | @name rest clause first second column listsKeys isFirst isSecond words isColumn clauses ih =>
      obtain ⟨noBody, entries, split, noRules⟩ := ih
      rw [List.cons_append, List.cons_append, List.cons_append,
        splitClausesFrom_keyword clause first second _ listsKeys isFirst isSecond words]
      refine ⟨rfl, ?_⟩
      cases found : clauseAt? (column :: (rest ++ after)) with
      | some other =>
          -- the column is named like a keyword of one word, and its clause is empty
          obtain ⟨_, oneWord⟩ :=
            clauseAt?_column column _ (clauses.completesNone completes) other found
          rw [splitClausesFrom_clause other column _ isColumn found, oneWord, Nat.sub_self,
            noBody, split]
          refine ⟨(clause, []) :: (other, []) :: entries, rfl, ?_⟩
          intro entry member notKeys
          rcases List.mem_cons.mp member with rfl | member
          · rfl
          rcases List.mem_cons.mp member with rfl | member
          · rfl
          · exact noRules entry member notKeys
      | none =>
          have notOpening : column.kind.opens = false := by rw [isColumn]; rfl
          have notClosing : column.kind.closes = false := by rw [isColumn]; rfl
          simp only [splitClausesFrom, notOpening, notClosing, found, Bool.false_eq_true, if_false,
            if_true, split]
          refine ⟨(clause, _) :: entries, rfl, ?_⟩
          intro entry member notKeys
          rcases List.mem_cons.mp member with rfl | member
          · rw [listsKeys] at notKeys
            contradiction
          · exact noRules entry member notKeys
  | @group keys rest clause first second listsKeys isFirst isSecond words contained clauses ih =>
      obtain ⟨_, entries, split, noRules⟩ := ih
      rw [List.cons_append, List.cons_append, List.append_assoc,
        splitClausesFrom_keyword clause first second _ listsKeys isFirst isSecond words,
        splitClausesFrom_contained keys _ contained, split]
      refine ⟨rfl, (clause, _) :: entries, rfl, ?_⟩
      intro entry member notKeys
      rcases List.mem_cons.mp member with rfl | member
      · rw [listsKeys] at notKeys
        contradiction
      · exact noRules entry member notKeys

def keyText (quoting : QuoteStyle) (keyword : String) : List String → String
  | [] => ""
  | [name] => keyword ++ Identifier.reference quoting name
  | names => keyword ++ ("(" ++ Text.commaList (names.map (Identifier.reference quoting)) ++ ")")

structure WritesKeys (text : List Char) : Prop where
  scanned : ∃ lexemes, scan? text = some ⟨lexemes, []⟩ ∧ KeyClauses lexemes
  separates : Separates text
  last : ∀ c ∈ text.getLast?, Text.isBlank c = false

/-- Keys behind a keyword: one word that is a column, or lexemes that start no clause. -/
def IsKeyBody (lexemes : List Lexeme) : Prop :=
  (∃ column, lexemes = [column] ∧ column.kind = .word) ∨ Contained endsKeys 0 lexemes = true

theorem IsKeyBody.indented {lexemes : List Lexeme} (body : IsKeyBody lexemes) :
    IsKeyBody (Lexeme.indented lexemes) := by
  rcases body with ⟨column, rfl, isWord⟩ | contained
  · exact Or.inl ⟨_, rfl, isWord⟩
  · exact Or.inr (by rw [contained_indented]; exact contained)

theorem scan?_reference (quoting : QuoteStyle) (name : String)
    (word : Identifier.isWord name = true) :
    ∃ lexemes, lexemes ≠ [] ∧
      scan? (Identifier.reference quoting name).toList = some ⟨lexemes, []⟩ ∧
      IsKeyBody lexemes := by
  obtain ⟨kind, isName, spelled⟩ := spells_reference quoting name word
  refine ⟨_, List.cons_ne_nil _ _, scan?_spells kind _ spelled, ?_⟩
  rcases isName with rfl | rfl
  · exact Or.inl ⟨_, rfl, rfl⟩
  · exact Or.inr rfl

theorem visible_last (before body rest : List Char) (nonempty : body ≠ [])
    (last : ∀ c ∈ body.getLast?, Text.isBlank c = false)
    (lastRest : ∀ c ∈ rest.getLast?, Text.isBlank c = false) :
    ∀ c ∈ (before ++ (body ++ rest)).getLast?, Text.isBlank c = false := by
  intro c back
  obtain ⟨d, final⟩ : ∃ d, body.getLast? = some d :=
    ⟨_, List.getLast?_eq_some_getLast nonempty⟩
  rw [List.getLast?_append, List.getLast?_append, final] at back
  cases finalRest : rest.getLast? with
  | none =>
      obtain rfl : d = c := by simpa [finalRest] using back
      exact last d final
  | some e =>
      obtain rfl : e = c := by simpa [finalRest] using back
      exact lastRest e finalRest

theorem writesKeys_cons (clause : Clause) (first second : String) (body rest : List Char)
    (lexemes : List Lexeme) (listsKeys : clause.listsKeys = true)
    (words : clause.words = [first, second]) (isFirst : Identifier.isWord first = true)
    (isSecond : Identifier.isWord second = true) (nonempty : lexemes ≠ [])
    (scanned : scan? body = some ⟨lexemes, []⟩) (isBody : IsKeyBody lexemes)
    (last : ∀ c ∈ body.getLast?, Text.isBlank c = false) (others : WritesKeys rest) :
    WritesKeys (' ' :: (first.toList ++ ' ' :: (second.toList ++ ' ' :: (body ++ rest)))) := by
  obtain ⟨restLexemes, scannedRest, clauses⟩ := others.scanned
  have scannedKeys := scan?_space (List.append_ne_nil_of_left_ne_nil nonempty _)
    (scan?_append_some scanned others.separates scannedRest)
  rw [indented_append _ _ nonempty] at scannedKeys
  have scannedSecond := scan?_space (by simp)
    (scan?_append_some (scan?_spells .word _ (spells_word second isSecond))
      (separates_gap ' ' _ rfl) scannedKeys)
  have scannedFirst := scan?_space (by simp)
    (scan?_append_some (scan?_spells .word _ (spells_word first isFirst))
      (separates_gap ' ' _ rfl) scannedSecond)
  have spelled : clause.words =
      [(⟨[' '], .word, first.toList⟩ : Lexeme).spelling,
        (⟨[' '], .word, second.toList⟩ : Lexeme).spelling] := by
    simp [Lexeme.spelling, words]
  refine ⟨⟨_, scannedFirst, ?_⟩, separates_gap ' ' _ rfl, ?_⟩
  · change KeyClauses (⟨[' '], .word, first.toList⟩ :: ⟨[' '], .word, second.toList⟩ ::
      (Lexeme.indented lexemes ++ restLexemes))
    rcases isBody.indented with ⟨column, single, isColumn⟩ | contained
    · rw [single]
      exact .name clause ⟨[' '], .word, first.toList⟩ ⟨[' '], .word, second.toList⟩ column
        listsKeys rfl rfl spelled isColumn clauses
    · exact .group clause ⟨[' '], .word, first.toList⟩ ⟨[' '], .word, second.toList⟩
        listsKeys rfl rfl spelled contained clauses
  · have bodyNonempty : body ≠ [] := by
      rintro rfl
      cases scanned
      exact absurd rfl nonempty
    have shape : ' ' :: (first.toList ++ ' ' :: (second.toList ++ ' ' :: (body ++ rest))) =
        (' ' :: first.toList ++ ' ' :: second.toList ++ [' ']) ++ (body ++ rest) := by
      simp
    rw [shape]
    exact visible_last _ body rest bodyNonempty last others.last

theorem writesKeys_keyText (quoting : QuoteStyle) (clause : Clause) (keyword first second : String)
    (names : List String) (rest : List Char) (listsKeys : clause.listsKeys = true)
    (words : clause.words = [first, second]) (isFirst : Identifier.isWord first = true)
    (isSecond : Identifier.isWord second = true)
    (spelled : keyword = " " ++ first ++ " " ++ second ++ " ")
    (areWords : ∀ name ∈ names, Identifier.isWord name = true) (others : WritesKeys rest) :
    WritesKeys ((keyText quoting keyword names).toList ++ rest) := by
  have behind (body : String) (lexemes : List Lexeme) (nonempty : lexemes ≠ [])
      (scanned : scan? body.toList = some ⟨lexemes, []⟩) (isBody : IsKeyBody lexemes)
      (item : IsItem body) : WritesKeys ((keyword ++ body).toList ++ rest) := by
    have shape : (keyword ++ body).toList ++ rest =
        ' ' :: (first.toList ++ ' ' :: (second.toList ++ ' ' :: (body.toList ++ rest))) := by
      simp [spelled]
    rw [shape]
    exact writesKeys_cons clause first second body.toList rest lexemes listsKeys words isFirst
      isSecond nonempty scanned isBody item.last others
  match names with
  | [] => simpa [keyText] using others
  | [name] =>
      have word := areWords name (by simp)
      obtain ⟨lexemes, nonempty, scanned, isBody⟩ := scan?_reference quoting name word
      exact behind _ lexemes nonempty scanned isBody (isItem_reference quoting name word)
  | first :: second :: names =>
      have each : ∀ item ∈ (first :: second :: names).map (Identifier.reference quoting),
          IsItem item := by
        intro item member
        obtain ⟨name, isName, rfl⟩ := List.mem_map.mp member
        exact isItem_reference quoting name (areWords name isName)
      obtain ⟨lexemes, scanned, _, contained⟩ := scan?_group _ each
      exact behind _ _ (List.cons_ne_nil _ _) scanned
        (Or.inr (contained_group endsKeys _ _ lexemes rfl rfl rfl contained))
        (isItem_group _ each)

end ClickHouse.EngineDefinition
