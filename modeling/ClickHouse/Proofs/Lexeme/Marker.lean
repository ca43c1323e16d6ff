import ClickHouse.Proofs.Engine.Parameters

/-!
Neighbours among the words of a definition. The words NOT NULL and PRIMARY KEY would change what a
column is; an item keeps them apart if they stand in its free texts only (`Guarded`), and so do
items that are put side by side, into brackets and into lists.
-/

namespace ClickHouse.Lexeme

structure ReadsAs (text : String) (lexemes : List Lexeme) : Prop where
  nonempty : lexemes ≠ []
  scanned : scan? text.toList = some ⟨lexemes, []⟩
  contained : Contained Kind.endsPart 0 lexemes = true
  first : ∀ c ∈ text.toList.head?, Text.isBlank c = false
  last : ∀ c ∈ text.toList.getLast?, Text.isBlank c = false

theorem IsItem.reads {text : String} (item : IsItem text) : ∃ lexemes, ReadsAs text lexemes := by
  obtain ⟨lexemes, nonempty, scanned, contained⟩ := item.scanned
  exact ⟨lexemes, nonempty, scanned, contained, item.first, item.last⟩

namespace ReadsAs

variable {first second text : String} {lexemes others : List Lexeme}

theorem isItem (reads : ReadsAs text lexemes) : IsItem text :=
  ⟨⟨lexemes, reads.nonempty, reads.scanned, reads.contained⟩, reads.first, reads.last⟩

theorem text_ne_nil (reads : ReadsAs text lexemes) : text.toList ≠ [] := by
  simpa using reads.isItem.ne_empty

theorem between {middle : List Char} (left : ReadsAs first lexemes) (right : ReadsAs second others)
    (shape : text.toList = first.toList ++ (middle ++ second.toList)) {more : List Lexeme}
    (scanned : scan? text.toList = some ⟨lexemes ++ more, []⟩)
    (contained : Contained Kind.endsPart 0 more = true) : ReadsAs text (lexemes ++ more) where
  nonempty := List.append_ne_nil_of_left_ne_nil left.nonempty _
  scanned := scanned
  contained := contained_append _ 0 lexemes more left.contained contained
  first := by
    rw [shape, List.head?_append, Option.or_of_isSome (by simpa using left.text_ne_nil)]
    exact left.first
  last := by
    rw [shape, ← List.append_assoc, List.getLast?_append,
      Option.or_of_isSome (by simpa using right.text_ne_nil)]
    exact right.last

theorem join (left : ReadsAs first lexemes) (right : ReadsAs second others) :
    ReadsAs (first ++ " " ++ second) (lexemes ++ indented others) := by
  have shape : (first ++ " " ++ second).toList = first.toList ++ ([' '] ++ second.toList) := by
    simp
  have scanned := scan?_append_some left.scanned (separates_gap ' ' _ rfl)
    (scan?_space right.nonempty right.scanned)
  refine left.between right shape (by rw [shape]; exact scanned) ?_
  rw [contained_indented]
  exact right.contained

theorem append (left : ReadsAs first lexemes) (right : ReadsAs second others)
    (separates : Separates second.toList) : ReadsAs (first ++ second) (lexemes ++ others) := by
  have shape : (first ++ second).toList = first.toList ++ ([] ++ second.toList) := by simp
  refine left.between right shape ?_ right.contained
  rw [shape]
  exact scan?_append_some left.scanned separates right.scanned

theorem bracketed {opening closing : Char} {opens closes : Kind}
    (isOpening : markKind? opening = some opens) (isClosing : markKind? closing = some closes)
    (brackets : opens.opens = true ∧ closes.closes = true) {inside : List Char}
    (shape : text.toList = opening :: (inside ++ [closing]))
    (scanned : scan? inside = some ⟨lexemes, []⟩)
    (contained : Contained Kind.closes 0 lexemes = true) :
    ReadsAs text (⟨[], opens, [opening]⟩ :: lexemes ++ [⟨[], closes, [closing]⟩]) where
  nonempty := List.cons_ne_nil _ _
  scanned := by
    rw [shape]
    exact scan?_mark_some isOpening
      (scan?_append_some scanned (separates_mark closing [] closes isClosing)
        (scan?_mark_some isClosing rfl))
  contained := by
    have free : opens.endsPart = false := by
      have opens := brackets.1
      revert opens
      cases opens <;> decide
    exact contained_group Kind.endsPart ⟨[], opens, [opening]⟩ ⟨[], closes, [closing]⟩ lexemes
      brackets.1 brackets.2 free contained
  first := by
    rw [shape]
    rintro c ⟨⟩
    exact not_isBlank_of_mark opening opens isOpening
  last := by
    rw [shape, ← List.cons_append, List.getLast?_concat]
    rintro c ⟨⟩
    exact not_isBlank_of_mark closing closes isClosing

end ReadsAs

/-- Whether a lexeme is a bare word; the case of its letters does not matter. -/
def isBare (word : String) (lexeme : Lexeme) : Bool :=
  lexeme.kind = .word && lexeme.text.map Char.toLower = word.toList

def opensMarker (lexeme : Lexeme) : Bool :=
  lexeme.isBare "not" || lexeme.isBare "primary"

def closesMarker (lexeme : Lexeme) : Bool :=
  lexeme.isBare "null" || lexeme.isBare "key"

def spellMarker (first second : Lexeme) : Bool :=
  (first.isBare "not" && second.isBare "null") || (first.isBare "primary" && second.isBare "key")

theorem spellMarker_of_first (first second : Lexeme) (free : first.opensMarker = false) :
    spellMarker first second = false := by
  rw [opensMarker, Bool.or_eq_false_iff] at free
  simp [spellMarker, free]

theorem spellMarker_of_second (first second : Lexeme) (free : second.closesMarker = false) :
    spellMarker first second = false := by
  rw [closesMarker, Bool.or_eq_false_iff] at free
  simp [spellMarker, free]

theorem opensMarker_of_not_word (lexeme : Lexeme) (notWord : lexeme.kind ≠ .word) :
    lexeme.opensMarker = false := by
  simp [opensMarker, isBare, notWord]

theorem closesMarker_of_not_word (lexeme : Lexeme) (notWord : lexeme.kind ≠ .word) :
    lexeme.closesMarker = false := by
  simp [closesMarker, isBare, notWord]

def markerFree : List Lexeme → Bool
  | first :: second :: rest => !spellMarker first second && markerFree (second :: rest)
  | _ => true

theorem markerFree_apart (left : List Lexeme) {first second : Lexeme} {right : List Lexeme}
    (free : markerFree (left ++ first :: second :: right) = true) :
    spellMarker first second = false := by
  induction left with
  | nil =>
      simp only [List.nil_append, markerFree, Bool.and_eq_true, Bool.not_eq_true'] at free
      exact free.1
  | cons lexeme rest ih =>
      refine ih ?_
      cases shape : rest ++ first :: second :: right with
      | nil => rfl
      | cons next others =>
          rw [List.cons_append, shape, markerFree, Bool.and_eq_true] at free
          exact free.2

theorem markerFree_of_no_word (lexemes : List Lexeme)
    (noWord : ∀ lexeme ∈ lexemes, lexeme.kind ≠ .word) : markerFree lexemes = true := by
  match lexemes with
  | [] | [_] => rfl
  | first :: second :: rest =>
      have apart := spellMarker_of_first first second
        (opensMarker_of_not_word first (noWord first (by simp)))
      have others := markerFree_of_no_word (second :: rest)
        fun lexeme member => noWord lexeme (List.mem_cons_of_mem _ member)
      simp [markerFree, apart, others]

/-- Lexemes that are made of the given texts, in order, and of stretches without markers between
them: no marker stands outside a text, nor half in it and half outside. -/
inductive Confines : List String → List Lexeme → Prop
  | free {lexemes : List Lexeme} : markerFree lexemes = true → Confines [] lexemes
  | text (lexemes : List Lexeme) : Confines [Text.trim (String.ofList (sourceOf lexemes))] lexemes
  | append {texts others : List String} {left right : List Lexeme} : Confines texts left →
      Confines others right →
      (∀ first ∈ left.getLast?, ∀ second ∈ right.head?, spellMarker first second = false) →
      Confines (texts ++ others) (left ++ right)

/-- Whether every marker stands in a stretch of lexemes that spell one of the texts. -/
def MarkersWithin (texts : List String) (lexemes : List Lexeme) : Prop :=
  ∀ left first second right, lexemes = left ++ first :: second :: right →
    spellMarker first second = true → ∃ before inside following after, left = before ++ inside ∧
      right = following ++ after ∧
        Text.trim (String.ofList (sourceOf (inside ++ first :: second :: following))) ∈ texts

namespace Confines

variable {texts others : List String} {left right lexemes : List Lexeme}

theorem markersWithin (confines : Confines texts lexemes) : MarkersWithin texts lexemes := by
  induction confines with
  | free isFree =>
      rintro left first second right rfl marker
      rw [markerFree_apart left isFree] at marker
      contradiction
  | text lexemes =>
      rintro left first second right rfl _
      exact ⟨[], left, right, [], rfl, (List.append_nil right).symm, by simp⟩
  | @append texts others lexemes more _ _ apart ihLeft ihRight =>
      intro left first second right shape marker
      rcases List.append_eq_append_iff.mp shape with
        ⟨middle, rfl, shapeMore⟩ | ⟨middle, rfl, shapeMiddle⟩
      · obtain ⟨before, inside, following, after, rfl, rfl, isText⟩ :=
          ihRight middle first second right shapeMore marker
        exact ⟨lexemes ++ before, inside, following, after, (List.append_assoc ..).symm, rfl,
          List.mem_append_right _ isText⟩
      · match middle, shapeMiddle with
        | [], shapeMiddle =>
            obtain ⟨before, inside, following, after, empty, rfl, isText⟩ :=
              ihRight [] first second right shapeMiddle.symm marker
            obtain ⟨rfl, rfl⟩ : before = [] ∧ inside = [] := by simpa using empty.symm
            exact ⟨left, [], following, after, (List.append_nil left).symm, rfl,
              List.mem_append_right _ isText⟩
        | [_], shapeMiddle =>
            -- the two words meet where the stretches do
            obtain ⟨rfl, rfl⟩ : first = _ ∧ second :: right = more := by simpa using shapeMiddle
            rw [apart first (by simp) second rfl] at marker
            contradiction
        | _ :: _ :: rest, shapeMiddle =>
            obtain ⟨rfl, rfl, rfl⟩ : first = _ ∧ second = _ ∧ right = rest ++ more := by
              simpa using shapeMiddle
            obtain ⟨before, inside, following, after, rfl, rfl, isText⟩ :=
              ihLeft left first second rest rfl marker
            exact ⟨before, inside, following, after ++ more, rfl, List.append_assoc ..,
              List.mem_append_left _ isText⟩

theorem cons_mark (confines : Confines texts lexemes) (mark : Lexeme)
    (notWord : mark.kind ≠ .word) : Confines texts (mark :: lexemes) := by
  have alone : Confines [] [mark] := .free rfl
  refine alone.append confines ?_
  rintro first ⟨⟩ second _
  exact spellMarker_of_first _ _ (opensMarker_of_not_word mark notWord)

theorem append_mark (confines : Confines texts lexemes) (mark : Lexeme)
    (notWord : mark.kind ≠ .word) : Confines texts (lexemes ++ [mark]) := by
  have alone : Confines [] [mark] := .free rfl
  rw [← List.append_nil texts]
  refine confines.append alone ?_
  rintro first _ second ⟨⟩
  exact spellMarker_of_second _ _ (closesMarker_of_not_word mark notWord)

theorem trim_space (text : List Char) :
    Text.trim (String.ofList (' ' :: text)) = Text.trim (String.ofList text) := by
  simp [Text.trim, Text.trimChars, Text.trimLeft, Text.isBlank]

theorem indented (confines : Confines texts lexemes) : Confines texts (indented lexemes) := by
  induction confines with
  | @free lexemes isFree =>
      refine .free ?_
      match lexemes with
      | [] | [_] | _ :: _ :: _ => exact isFree
  | text lexemes =>
      -- the space comes before the first lexeme of the text, and trimming removes it again
      cases lexemes with
      | nil => exact .text []
      | cons first rest =>
          have same := trim_space (sourceOf (first :: rest))
          rw [← same]
          exact .text (Lexeme.indented (first :: rest))
  | @append texts others left right first second apart ihLeft ihRight =>
      cases left with
      | nil =>
          refine first.append ihRight ?_
          rintro lexeme ⟨⟩
      | cons head rest =>
          rw [indented_append _ _ (List.cons_ne_nil _ _)]
          refine ihLeft.append second ?_
          intro before isLast after isFirst
          cases rest with
          | nil =>
              obtain rfl : _ = before := by simpa [Lexeme.indented] using isLast
              exact apart head rfl after isFirst
          | cons next more =>
              exact apart before (by simpa [Lexeme.indented] using isLast) after isFirst

end Confines

/-- An item in which markers stand inside the given texts only. -/
def Guarded (texts : List String) (text : String) : Prop :=
  ∃ lexemes, ReadsAs text lexemes ∧ Confines texts lexemes

/-- A guarded item that ends no marker, whatever stands before it. -/
def GuardedClause (texts : List String) (text : String) : Prop :=
  ∃ lexemes, ReadsAs text lexemes ∧ Confines texts lexemes ∧
    ∀ first ∈ lexemes.head?, first.closesMarker = false

inductive GuardedItems : List String → List String → Prop
  | nil : GuardedItems [] []
  | cons {texts others items : List String} {first : String} : Guarded texts first →
      GuardedItems others items → GuardedItems (texts ++ others) (first :: items)

def isNeutral (word : String) : Bool :=
  Identifier.isWord word && ["not", "null", "primary", "key"].all fun part =>
    !isBare part ⟨[], .word, word.toList⟩

variable {texts others items : List String} {first second text word : String}

theorem GuardedClause.guarded (clause : GuardedClause texts text) : Guarded texts text := by
  obtain ⟨lexemes, reads, confines, _⟩ := clause
  exact ⟨lexemes, reads, confines⟩

theorem Guarded.isItem (guarded : Guarded texts text) : IsItem text := by
  obtain ⟨lexemes, reads, _⟩ := guarded
  exact reads.isItem

theorem guarded_lexeme (kind : Kind) (item : IsItem text)
    (spelled : kind.spells text.toList = true) : Guarded [] text := by
  obtain ⟨lexemes, reads⟩ := item.reads
  obtain rfl : lexemes = [⟨[], kind, text.toList⟩] := by
    have scanned := scan?_spells kind text.toList spelled
    rw [reads.scanned] at scanned
    simpa using scanned
  exact ⟨_, reads, .free rfl⟩

theorem clause_word (neutral : isNeutral word = true) :
    ReadsAs word [⟨[], .word, word.toList⟩] ∧
      (⟨[], .word, word.toList⟩ : Lexeme).opensMarker = false ∧
      (⟨[], .word, word.toList⟩ : Lexeme).closesMarker = false := by
  simp only [isNeutral, Bool.and_eq_true, List.all_cons, List.all_nil, Bool.not_eq_true'] at neutral
  obtain ⟨isWord, notNot, notNull, notPrimary, notKey, -⟩ := neutral
  obtain ⟨lexemes, reads⟩ := (isItem_word word isWord).reads
  have scanned := scan?_spells .word word.toList (spells_word word isWord)
  obtain rfl : lexemes = [⟨[], .word, word.toList⟩] := by
    rw [reads.scanned] at scanned
    simpa using scanned
  exact ⟨reads, by simp [opensMarker, notNot, notPrimary], by simp [closesMarker, notNull, notKey]⟩

theorem Guarded.join (left : Guarded texts first) (right : GuardedClause others second) :
    Guarded (texts ++ others) (first ++ " " ++ second) := by
  obtain ⟨lexemes, reads, confines⟩ := left
  obtain ⟨following, readsRight, confinesRight, free⟩ := right
  refine ⟨_, reads.join readsRight, confines.append confinesRight.indented ?_⟩
  intro before _ after isFirst
  obtain ⟨head, rest, rfl⟩ := List.exists_cons_of_ne_nil readsRight.nonempty
  obtain rfl : _ = after := by simpa [indented] using isFirst
  exact spellMarker_of_second before _ (free head rfl)

theorem Guarded.behind {lead : Lexeme} (guarded : Guarded texts text) (reads : ReadsAs first [lead])
    (notOpening : lead.opensMarker = false) (notClosing : lead.closesMarker = false) :
    GuardedClause texts (first ++ " " ++ text) := by
  obtain ⟨lexemes, readsText, confines⟩ := guarded
  have alone : Confines [] [lead] := .free rfl
  refine ⟨_, reads.join readsText, alone.append confines.indented ?_, ?_⟩
  · rintro before ⟨⟩ after _
    exact spellMarker_of_first _ after notOpening
  · rintro before ⟨⟩
    exact notClosing

theorem Guarded.keyword (guarded : Guarded texts text) (word : String)
    (neutral : isNeutral word = true) : GuardedClause texts (word ++ " " ++ text) := by
  obtain ⟨reads, notOpening, notClosing⟩ := clause_word neutral
  exact guarded.behind reads notOpening notClosing

theorem Guarded.equals (guarded : Guarded texts text) :
    GuardedClause texts ("=" ++ " " ++ text) := by
  have reads : ReadsAs "=" [⟨[], .equals, ['=']⟩] :=
    ⟨by simp, rfl, rfl, by rintro c ⟨⟩; decide, by rintro c ⟨⟩; decide⟩
  exact guarded.behind reads rfl rfl

namespace GuardedItems

theorem isItem (guarded : GuardedItems texts items) : ∀ item ∈ items, IsItem item := by
  induction guarded with
  | nil => simp
  | cons first _ ih =>
      rintro item member
      rcases List.mem_cons.mp member with rfl | member
      · exact first.isItem
      · exact ih item member

theorem confines (guarded : GuardedItems texts items) :
    ∃ lexemes, scan? (Text.commaList items).toList = some ⟨lexemes, []⟩ ∧
      Confines texts lexemes ∧ (items ≠ [] → lexemes ≠ []) := by
  induction guarded with
  | nil => exact ⟨[], rfl, .free rfl, fun nonempty => absurd rfl nonempty⟩
  | @cons texts others items first isFirst rest ih =>
      obtain ⟨lexemes, reads, confines⟩ := isFirst
      obtain ⟨following, scannedRest, confinesRest, nonemptyRest⟩ := ih
      cases rest with
      | nil =>
          rw [List.append_nil]
          exact ⟨lexemes, reads.scanned, confines, fun _ => reads.nonempty⟩
      | cons second more =>
          have joined := scan?_comma_space reads.scanned (nonemptyRest (by simp)) scannedRest
          have separated := confines.append_mark ⟨[], .comma, [',']⟩ (by decide)
          refine ⟨lexemes ++ [⟨[], .comma, [',']⟩] ++ indented following, ?_,
            separated.append confinesRest.indented ?_, fun _ => by simp⟩
          · rw [commaList_toList] at joined ⊢
            simpa [moreItems] using joined
          · -- the last lexeme before the next item is the comma
            rintro before isLast after _
            obtain rfl : _ = before := by simpa using isLast
            exact spellMarker_of_first _ _ (opensMarker_of_not_word _ (by decide))

theorem scanned (guarded : GuardedItems texts items) :
    ∃ lexemes, scan? (Text.commaList items).toList = some ⟨lexemes, []⟩ ∧
      Contained Kind.closes 0 lexemes = true ∧ Confines texts lexemes := by
  obtain ⟨lexemes, scanned, confines, _⟩ := guarded.confines
  obtain ⟨others, same, contained, _⟩ := scan?_items items guarded.isItem
  obtain rfl : lexemes = others := by
    rw [scanned] at same
    simpa using same
  exact ⟨lexemes, scanned, contained, confines⟩

theorem bracketed {opening closing : Char} {opens closes : Kind}
    (guarded : GuardedItems texts items) (isOpening : markKind? opening = some opens)
    (isClosing : markKind? closing = some closes)
    (brackets : opens.opens = true ∧ closes.closes = true)
    (shape : text.toList = opening :: ((Text.commaList items).toList ++ [closing])) :
    Guarded texts text := by
  obtain ⟨lexemes, scanned, contained, confines⟩ := guarded.scanned
  have notWord (kind : Kind) (bracket : kind.opens = true ∨ kind.closes = true) : kind ≠ .word := by
    rintro rfl
    simp [Kind.opens, Kind.closes] at bracket
  exact ⟨_, ReadsAs.bracketed isOpening isClosing brackets shape scanned contained,
    (confines.cons_mark _ (notWord _ (Or.inl brackets.1))).append_mark _
      (notWord _ (Or.inr brackets.2))⟩

theorem call (name : String) (guarded : GuardedItems texts items) (neutral : isNeutral name = true)
    (shape : text.toList = name.toList ++ '(' :: ((Text.commaList items).toList ++ [')'])) :
    GuardedClause texts text := by
  obtain ⟨readsName, -, notClosing⟩ := clause_word neutral
  obtain ⟨lexemes, scanned, contained, confines⟩ := guarded.scanned
  have characters : ("(" ++ Text.commaList items ++ ")").toList =
      '(' :: ((Text.commaList items).toList ++ [')']) := by
    simp
  have group := ReadsAs.bracketed rfl rfl (by decide) characters scanned contained
  have separates : Separates ("(" ++ Text.commaList items ++ ")").toList := by
    rw [characters]
    exact separates_mark '(' _ .openRound rfl
  have inBrackets := (confines.cons_mark ⟨[], .openRound, ['(']⟩ (by decide)).append_mark
    ⟨[], .closeRound, [')']⟩ (by decide)
  have alone : Confines [] [⟨[], .word, name.toList⟩] := .free rfl
  obtain rfl : name ++ ("(" ++ Text.commaList items ++ ")") = text := by
    rw [← String.toList_inj, String.toList_append, characters, shape]
  refine ⟨_, readsName.append group separates, alone.append inBrackets ?_, ?_⟩
  · rintro before ⟨⟩ after isFirst
    obtain rfl : _ = after := by simpa using isFirst
    exact spellMarker_of_second _ _ (closesMarker_of_not_word _ (by decide))
  · rintro before ⟨⟩
    exact notClosing

end GuardedItems

end ClickHouse.Lexeme
