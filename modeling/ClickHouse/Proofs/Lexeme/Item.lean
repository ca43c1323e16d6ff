import ClickHouse.Proofs.Lexeme.Contained
import ClickHouse.Proofs.Lexeme.Written

/-!
The items of a list: literals, names, numbers and groups of items. Joined by commas they are
scanned as contained lexemes, and splitting at the commas gives them back.
-/

namespace ClickHouse

namespace Lexeme

/-- A text that is visible at both ends and in which nothing ends a part. -/
structure IsItem (text : String) : Prop where
  scanned : ∃ lexemes, lexemes ≠ [] ∧ scan? text.toList = some ⟨lexemes, []⟩ ∧
    Contained Kind.endsPart 0 lexemes = true
  first : ∀ c ∈ text.toList.head?, Text.isBlank c = false
  last : ∀ c ∈ text.toList.getLast?, Text.isBlank c = false

namespace IsItem

theorem trimChars {text : String} (item : IsItem text) :
    Text.trimChars text.toList = text.toList :=
  Text.trimChars_of_ends _ item.first item.last

theorem trim {text : String} (item : IsItem text) : Text.trim text = text := by
  rw [Text.trim, item.trimChars, String.ofList_toList]

theorem isPart {text : String} (item : IsItem text) : IsPart text.toList := by
  obtain ⟨lexemes, _, scanned, contained⟩ := item.scanned
  exact ⟨_, scanned, contained⟩

theorem ne_empty {text : String} (item : IsItem text) : text ≠ "" := by
  rintro rfl
  obtain ⟨lexemes, nonempty, scanned, _⟩ := item.scanned
  cases scanned
  contradiction

end IsItem

theorem splitTopLevel_items (items : List String) (each : ∀ item ∈ items, IsItem item) :
    splitTopLevel (Text.commaList items) = .ok items := by
  refine splitTopLevel_commaList items ?_ fun item member =>
    ⟨(each item member).isPart, (each item member).trimChars⟩
  rintro rfl
  exact (each "" (by simp)).ne_empty rfl

theorem contained_indented (barred : Kind → Bool) (depth : Nat) (lexemes : List Lexeme) :
    Contained barred depth (indented lexemes) = Contained barred depth lexemes := by
  cases lexemes <;> rfl

theorem scan?_items (items : List String) (each : ∀ item ∈ items, IsItem item) :
    ∃ lexemes, scan? (Text.commaList items).toList = some ⟨lexemes, []⟩ ∧
      Contained Kind.closes 0 lexemes = true ∧ (items ≠ [] → lexemes ≠ []) := by
  induction items with
  | nil => exact ⟨[], rfl, rfl, fun nonempty => absurd rfl nonempty⟩
  | cons first rest ih =>
      obtain ⟨lexemes, nonempty, scanned, contained⟩ := (each first (by simp)).scanned
      have inside : Contained Kind.closes 0 lexemes = true :=
        Contained.weaken (fun kind closes => by simp [Kind.endsPart, closes]) 0 lexemes contained
      obtain ⟨others, scannedRest, containedRest, nonemptyRest⟩ :=
        ih fun item member => each item (List.mem_cons_of_mem _ member)
      cases rest with
      | nil => exact ⟨lexemes, scanned, inside, fun _ => nonempty⟩
      | cons second more =>
          have joined := scan?_comma_space scanned (nonemptyRest (by simp)) scannedRest
          have containedComma :
              Contained Kind.closes 0 (⟨[], .comma, [',']⟩ :: indented others) = true := by
            simpa [Contained, Kind.closes, Kind.opens, Kind.depthAfter, contained_indented]
              using containedRest
          refine ⟨_, ?_, contained_append _ 0 lexemes _ inside containedComma,
            fun _ => List.append_ne_nil_of_left_ne_nil nonempty _⟩
          rw [commaList_toList] at joined ⊢
          exact joined

theorem scan?_group (items : List String) (each : ∀ item ∈ items, IsItem item) :
    ∃ lexemes, scan? ("(" ++ Text.commaList items ++ ")").toList =
        some ⟨⟨[], .openRound, ['(']⟩ :: lexemes ++ [⟨[], .closeRound, [')']⟩], []⟩ ∧
      sourceOf lexemes = (Text.commaList items).toList ∧
      Contained Kind.closes 0 lexemes = true := by
  obtain ⟨lexemes, scanned, contained, _⟩ := scan?_items items each
  have source := scan_source _ _ scanned
  have characters : ("(" ++ Text.commaList items ++ ")").toList =
      '(' :: ((Text.commaList items).toList ++ [')']) := by
    simp
  have closed := scan?_append_some scanned (separates_mark ')' [] .closeRound rfl)
    (scan?_mark_some (c := ')') rfl rfl)
  have opened := scan?_mark_some (c := '(') rfl closed
  refine ⟨lexemes, ?_, by simpa [Scan.source] using source, contained⟩
  rw [characters]
  exact opened

theorem isItem_group (items : List String) (each : ∀ item ∈ items, IsItem item) :
    IsItem ("(" ++ Text.commaList items ++ ")") := by
  obtain ⟨lexemes, scanned, _, contained⟩ := scan?_group items each
  have characters : ("(" ++ Text.commaList items ++ ")").toList =
      '(' :: ((Text.commaList items).toList ++ [')']) := by
    simp
  refine ⟨⟨_, List.cons_ne_nil _ _, scanned, ?_⟩, ?_, ?_⟩
  · exact contained_group Kind.endsPart ⟨[], .openRound, ['(']⟩ _ lexemes rfl rfl rfl contained
  · rw [characters]
    rintro c ⟨⟩
    decide
  · rw [characters, ← List.cons_append, List.getLast?_concat]
    rintro c ⟨⟩
    decide

theorem isBalanced_commaList (parts : List String)
    (each : ∀ part ∈ parts, IsPart part.toList) : IsBalanced (Text.commaList parts).toList := by
  cases parts with
  | nil => exact ⟨⟨[], []⟩, rfl, rfl⟩
  | cons first rest =>
      obtain ⟨isPart, others⟩ := List.forall_mem_cons.mp each
      rw [commaList_toList]
      refine isPart.isBalanced.append ?_ (separates_moreItems rest)
      clear each isPart
      induction rest with
      | nil => exact ⟨⟨[], []⟩, rfl, rfl⟩
      | cons second rest ih =>
          obtain ⟨isPart, others⟩ := List.forall_mem_cons.mp others
          have behind := (isPart.isBalanced.append (ih others) (separates_moreItems rest)).gap [' '] rfl
          have comma : IsBalanced [','] := ⟨⟨[⟨[], .comma, [',']⟩], []⟩, rfl, rfl⟩
          simpa [moreItems] using comma.append behind (separates_gap ' ' _ rfl)

theorem innerGroup_enclosed {text before inside after : String} {close : Char} {kind : Kind}
    {lead next : Scan}
    (shape : text.toList = before.toList ++ '(' :: (inside.toList ++ close :: after.toList))
    (scanned : scan? before.toList = some lead)
    (free : ∀ lexeme ∈ lead.lexemes, lexeme.kind ≠ .openRound)
    (balanced : IsBalanced inside.toList) (mark : markKind? close = some kind)
    (closes : kind.closes = true) (scannedAfter : scan? after.toList = some next) :
    innerGroup text = .ok (inside, after) := by
  obtain ⟨inner, scannedInside, contained⟩ := balanced
  let closing : Lexeme := ⟨inner.trailing, kind, [close]⟩
  have closed : scan? (close :: after.toList) =
      some ⟨⟨[], kind, [close]⟩ :: next.lexemes, next.trailing⟩ := by
    rw [scan?_mark close _ kind mark, scannedAfter]
    rfl
  have inBrackets := scan?_append_indent scannedInside (separates_mark close _ kind mark) closed
  have opened : scan? ('(' :: (inside.toList ++ close :: after.toList)) =
      some ⟨⟨[], .openRound, ['(']⟩ :: (inner.lexemes ++ closing :: next.lexemes),
        next.trailing⟩ := by
    rw [scan?_mark '(' _ .openRound rfl, inBrackets]
    simp [Scan.prepend, Scan.indent, closing]
  have whole := scan?_append_indent scanned (separates_mark '(' _ .openRound rfl) opened
  have found := afterOpenRound?_append lead.lexemes (inner.lexemes ++ closing :: next.lexemes)
    ⟨lead.trailing, .openRound, ['(']⟩ free rfl
  have group := group?_contained 0 inner.lexemes next.lexemes closing closes contained
  have sourceInside : sourceOf inner.lexemes ++ inner.trailing = inside.toList :=
    scan_source _ _ scannedInside
  have sourceAfter : sourceOf next.lexemes ++ next.trailing = after.toList :=
    scan_source _ _ scannedAfter
  rw [innerGroup, Lexeme.scan, shape, whole]
  simp [Scan.prepend, Scan.indent, found, group, closing, sourceInside, sourceAfter]

theorem innerGroup_commaList {text before after : String} {parts : List String} {lead next : Scan}
    (shape : text.toList =
      before.toList ++ '(' :: ((Text.commaList parts).toList ++ ')' :: after.toList))
    (scanned : scan? before.toList = some lead)
    (free : ∀ lexeme ∈ lead.lexemes, lexeme.kind ≠ .openRound)
    (each : ∀ part ∈ parts, IsPart part.toList) (scannedAfter : scan? after.toList = some next) :
    innerGroup text = .ok (Text.commaList parts, after) := by
  have mark : markKind? ')' = some .closeRound := rfl
  exact innerGroup_enclosed shape scanned free (isBalanced_commaList parts each) mark rfl
    scannedAfter

theorem isItem_lexeme (kind : Kind) (text : String) (mark : Char)
    (spelled : kind.spells text.toList = true) (free : kind.opens = false ∧ kind.endsPart = false)
    (visible : Text.isBlank mark = false) (first : text.toList.head? = some mark)
    (last : text.toList.getLast? = some mark) : IsItem text := by
  refine ⟨⟨_, List.cons_ne_nil _ _, scan?_spells kind _ spelled, ?_⟩, ?_, ?_⟩
  · have notClosing : kind.closes = false := by
      have bounds := free.2
      rw [Kind.endsPart, Bool.or_eq_false_iff] at bounds
      exact bounds.1
    simp [Contained, Kind.depthAfter, free, notClosing]
  · rintro c head
    obtain rfl : mark = c := by simpa [first] using head
    exact visible
  · rintro c back
    obtain rfl : mark = c := by simpa [last] using back
    exact visible

theorem isItem_literal (text : String) : IsItem (Text.quote text) := by
  refine isItem_lexeme .literal _ '\x27' (spells_literal text) (by decide) (by decide) ?_ ?_
  · rw [Text.toList_quote]
    rfl
  · rw [Text.toList_quote, ← List.cons_append, List.getLast?_concat]
    rfl

theorem isItem_quoted (mark : Char) (name : String) (quotes : quoteKind? mark = some .quoted)
    (free : ∀ c ∈ name.toList, c ≠ mark ∧ c ≠ '\\') :
    IsItem (mark.toString ++ name ++ mark.toString) := by
  have characters : (mark.toString ++ name ++ mark.toString).toList =
      mark :: (name.toList ++ [mark]) := by
    simp
  have visible : Text.isBlank mark = false := by
    unfold quoteKind? at quotes
    split at quotes
    · contradiction
    · split at quotes
      · rename_i isMark
        simp only [Bool.or_eq_true, decide_eq_true_eq] at isMark
        rcases isMark with rfl | rfl <;> decide
      · contradiction
  refine isItem_lexeme .quoted _ mark ?_ (by decide) visible ?_ ?_
  · rw [characters]
    exact spells_quoted mark name.toList quotes free
  · rw [characters]
    rfl
  · rw [characters, ← List.cons_append, List.getLast?_concat]

def isRunPart (c : Char) : Bool :=
  !isGap c && (markKind? c).isNone && (quoteKind? c).isNone

def Kind.isRun : Kind → Bool
  | .word | .number | .symbol => true
  | _ => false

theorem start_run (c : Char) (part : isRunPart c = true) :
    ∃ kind, Scanner.start [] c = ([], .run kind [] [c]) ∧ kind.isRun = true := by
  simp only [isRunPart, Bool.and_eq_true, Bool.not_eq_true', Option.isNone_iff_eq_none] at part
  obtain ⟨⟨notGap, notMark⟩, notQuote⟩ := part
  by_cases word : isWordStart c = true
  · exact ⟨.word, Scanner.start_word [] c word, rfl⟩
  by_cases digit : c.isDigit = true
  · exact ⟨.number, Scanner.start_number [] c digit, rfl⟩
  refine ⟨.symbol, Scanner.start_symbol [] c ?_, rfl⟩
  simp [isSymbolPart, isWordPart_eq, notGap, notMark, notQuote, word, digit]

theorem read_runs (text : List Char) (plain : text.all isRunPart = true) (kind : Kind)
    (gap held : List Char) (isRun : kind.isRun = true) :
    ∃ lexemes, (Scanner.run kind gap held).read text = some ⟨lexemes, []⟩ ∧ lexemes ≠ [] ∧
      ∀ lexeme ∈ lexemes, lexeme.kind.isRun = true := by
  induction text generalizing kind gap held with
  | nil => exact ⟨[⟨gap, kind, held⟩], rfl, by simp, by simpa using isRun⟩
  | cons c rest ih =>
      simp only [List.all_cons, Bool.and_eq_true] at plain
      by_cases longer : kind.prolongs c = true
      · obtain ⟨lexemes, read, found⟩ := ih plain.2 kind gap (held ++ [c]) isRun
        refine ⟨lexemes, ?_, found⟩
        rw [Scanner.read_cons, Scanner.step, if_pos longer, Scan.map_prepend_nil]
        exact read
      · obtain ⟨next, started, isNext⟩ := start_run c plain.1
        obtain ⟨lexemes, read, _, found⟩ := ih plain.2 next [] [c] isNext
        have ends : kind.EndsBefore (c :: rest) := by
          simpa [Kind.EndsBefore] using longer
        refine ⟨⟨gap, kind, held⟩ :: lexemes, ?_, by simp, by simpa [isRun] using found⟩
        rw [Scanner.read_run_end kind gap held _ ends, Scanner.read_cons, Scanner.step, started,
          Scan.map_prepend_nil, read]
        rfl

theorem contained_of_runs (barred : Kind → Bool) (free : ∀ kind, kind.isRun = true → barred kind = false)
    (lexemes : List Lexeme) (runs : ∀ lexeme ∈ lexemes, lexeme.kind.isRun = true) :
    Contained barred 0 lexemes = true := by
  induction lexemes with
  | nil => rfl
  | cons lexeme rest ih =>
      have isRun := runs lexeme (by simp)
      have sameDepth : lexeme.kind.depthAfter 0 = 0 := by
        revert isRun
        cases lexeme.kind <;> decide
      have others := ih fun other member => runs other (List.mem_cons_of_mem _ member)
      simp [Contained, free _ isRun, sameDepth, others]

theorem not_mark_of_isWordPart (c : Char) (part : isWordPart c = true) :
    isGap c = false ∧ markKind? c = none ∧ quoteKind? c = none := by
  rw [isWordPart_eq, Bool.or_eq_true] at part
  have notGap : isGap c = false :=
    part.elim (not_isGap_of_isWordStart c) (not_isGap_of_isDigit c)
  refine ⟨notGap, ?_, ?_⟩
  · cases mark : markKind? c with
    | none => rfl
    | some kind =>
        obtain ⟨_, notStart, notDigit⟩ := markKind?_isSome c kind mark
        simp [notStart, notDigit] at part
  · cases quotes : quoteKind? c with
    | none => rfl
    | some kind =>
        obtain ⟨_, notStart, notDigit, _⟩ := quoteKind?_isSome c kind quotes
        simp [notStart, notDigit] at part

theorem isPlainChar_cases (c : Char) (plain : Identifier.isPlainChar c = true) :
    isRunPart c = true ∧ Text.isBlank c = false := by
  have shape : isWordPart c = true ∨ c = '$' := by
    simpa [Identifier.isPlainChar, isWordPart] using plain
  rcases shape with part | rfl
  · obtain ⟨notGap, notMark, notQuote⟩ := not_mark_of_isWordPart c part
    exact ⟨by simp [isRunPart, notGap, notMark, notQuote], not_isBlank_of_isWordPart c part⟩
  · decide

theorem scan?_runs (text : List Char) (nonempty : text ≠ []) (plain : text.all isRunPart = true) :
    ∃ lexemes, lexemes ≠ [] ∧ scan? text = some ⟨lexemes, []⟩ ∧
      ∀ lexeme ∈ lexemes, lexeme.kind.isRun = true := by
  cases text with
  | nil => contradiction
  | cons c rest =>
      rw [List.all_cons, Bool.and_eq_true] at plain
      obtain ⟨kind, started, isRun⟩ := start_run c plain.1
      obtain ⟨lexemes, read, nonempty, runs⟩ := read_runs rest plain.2 kind [] [c] isRun
      refine ⟨lexemes, nonempty, ?_, runs⟩
      rw [scan?, Scanner.read_cons, Scanner.step, started, Scan.map_prepend_nil]
      exact read

theorem isItem_runs (text : String) (nonempty : text ≠ "")
    (each : ∀ c ∈ text.toList, isRunPart c = true ∧ Text.isBlank c = false) : IsItem text := by
  refine ⟨?_, fun c head => (each c (List.mem_of_head? head)).2,
    fun c back => (each c (List.mem_of_getLast? back)).2⟩
  obtain ⟨lexemes, nonempty, scanned, runs⟩ := scan?_runs text.toList (by simpa using nonempty)
    (List.all_eq_true.mpr fun c member => (each c member).1)
  exact ⟨lexemes, nonempty, scanned,
    contained_of_runs _ (fun kind => by cases kind <;> decide) lexemes runs⟩

theorem isItem_plain (text : String) (nonempty : text ≠ "")
    (plain : text.toList.all Identifier.isPlainChar = true) : IsItem text :=
  isItem_runs text nonempty fun c member =>
    isPlainChar_cases c (List.all_eq_true.mp plain c member)

theorem isItem_number (value : Nat) : IsItem (Nat.repr value) := by
  refine isItem_plain _ (fun empty => toList_repr_ne_nil value (by simp [empty])) ?_
  rw [List.all_eq_true]
  intro c member
  simp [Identifier.isPlainChar, Char.isAlphanum, isDigit_of_mem_repr value c member]

end Lexeme

end ClickHouse
