import ClickHouse.Proofs.Lexeme.Splitting

/-!
Nesting. Counting both kinds of brackets alike, as grouping does, is less than asking of every
closing bracket to be the partner of the innermost open one. What a group or a function text adds
to the nesting around it depends on nothing but its own lexemes (`nested_through`), and grouping
finds the first group of a text up to the kind of its closing bracket (`innerGroup_eq_ok_iff`).
-/

namespace ClickHouse

namespace Lexeme

def Kind.partner : Kind → Kind
  | openRound => closeRound
  | openSquare => closeSquare
  | kind => kind

/-- Whether every closing bracket is the partner of the innermost open one and none stays open,
given the brackets that are open at the start. -/
def nested : List Kind → List Lexeme → Bool
  | inner, [] => inner.isEmpty
  | inner, lexeme :: rest =>
    if lexeme.kind.opens then nested (lexeme.kind :: inner) rest
    else if lexeme.kind.closes then
      inner.head?.map Kind.partner = some lexeme.kind && nested inner.tail rest
    else nested inner rest

theorem nested_opening {lexeme : Lexeme} (opens : lexeme.kind.opens = true) (inner : List Kind)
    (rest : List Lexeme) : nested inner (lexeme :: rest) = nested (lexeme.kind :: inner) rest := by
  rw [nested, if_pos opens]

theorem nested_closing {lexeme : Lexeme} (closes : lexeme.kind.closes = true) (inner : List Kind)
    (rest : List Lexeme) :
    nested inner (lexeme :: rest) =
      (inner.head?.map Kind.partner = some lexeme.kind && nested inner.tail rest) := by
  rw [nested, if_neg (by simp [not_opens_of_closes _ closes]), if_pos closes]

theorem nested_plain {lexeme : Lexeme} (notOpening : lexeme.kind.opens = false)
    (notClosing : lexeme.kind.closes = false) (inner : List Kind) (rest : List Lexeme) :
    nested inner (lexeme :: rest) = nested inner rest := by
  rw [nested, if_neg (by simp [notOpening]), if_neg (by simp [notClosing])]

/-- Lexemes that keep to themselves, `inner` being open at their start, are nested by themselves
or not, whatever stands around them, if none of their free brackets is the partner that the
brackets around them wait for. -/
theorem nested_through (barred : Kind → Bool) (inner outer : List Kind) (left right : List Lexeme)
    (contained : Contained barred inner.length left = true)
    (guarded : ∀ kind : Kind, kind.closes = true → barred kind = false →
      outer.head?.map Kind.partner ≠ some kind) :
    nested (inner ++ outer) (left ++ right) = (nested inner left && nested outer right) := by
  induction left generalizing inner with
  | nil =>
      obtain rfl : inner = [] := by simpa [Contained] using contained
      simp [nested]
  | cons lexeme rest ih =>
      simp only [Contained, Bool.and_eq_true, Bool.or_eq_true, decide_eq_true_eq,
        Bool.not_eq_true'] at contained
      obtain ⟨free, contained⟩ := contained
      rw [List.cons_append]
      cases opens : lexeme.kind.opens with
      | true =>
          rw [nested_opening opens, nested_opening opens, ← List.cons_append, ih]
          simpa [Kind.depthAfter, opens] using contained
      | false =>
          cases closes : lexeme.kind.closes with
          | true =>
              rw [nested_closing closes, nested_closing closes]
              cases inner with
              | nil =>
                  -- a stray bracket fits neither an empty list of brackets nor the one around
                  have stray := guarded lexeme.kind closes (free.resolve_left (by simp))
                  simp [stray]
              | cons opening others =>
                  have behind : nested (others ++ outer) (rest ++ right) =
                      (nested others rest && nested outer right) := by
                    apply ih
                    simpa [Kind.depthAfter, opens, closes] using contained
                  simp [behind, Bool.and_assoc]
          | false =>
              rw [nested_plain opens closes, nested_plain opens closes, ih]
              simpa [Kind.depthAfter, opens, closes] using contained

/-- Nested brackets are closed also when both kinds count alike. -/
theorem contained_of_nested (inner : List Kind) (lexemes : List Lexeme)
    (isNested : nested inner lexemes = true) :
    Contained Kind.closes inner.length lexemes = true := by
  induction lexemes generalizing inner with
  | nil => simpa [nested, Contained] using isNested
  | cons lexeme rest ih =>
      cases opens : lexeme.kind.opens with
      | true =>
          rw [nested_opening opens] at isNested
          have notClosing : lexeme.kind.closes = false := by
            revert opens
            cases lexeme.kind <;> decide
          simpa [Contained, Kind.depthAfter, opens, notClosing] using ih _ isNested
      | false =>
          cases closes : lexeme.kind.closes with
          | true =>
              rw [nested_closing closes, Bool.and_eq_true] at isNested
              cases inner with
              | nil => simp at isNested
              | cons opening others =>
                  simpa [Contained, Kind.depthAfter, opens, closes] using ih _ isNested.2
          | false =>
              rw [nested_plain opens closes] at isNested
              simpa [Contained, Kind.depthAfter, opens, closes] using ih _ isNested

theorem nested_append (inner outer : List Kind) (left right : List Lexeme)
    (isNested : nested inner left = true) :
    nested (inner ++ outer) (left ++ right) = nested outer right := by
  have contained := contained_of_nested inner left isNested
  rw [nested_through Kind.closes inner outer left right contained (by simp +contextual), isNested,
    Bool.true_and]

theorem nested_group (opening closing : Lexeme) (inside : List Lexeme)
    (opens : opening.kind.opens = true) (partner : closing.kind = opening.kind.partner)
    (isNested : nested [] inside = true) :
    nested [] (opening :: inside ++ [closing]) = true := by
  have closes : closing.kind.closes = true := by
    rw [partner]
    revert opens
    cases opening.kind <;> decide
  have whole := nested_append [] [opening.kind] inside [closing] isNested
  rw [List.nil_append] at whole
  rw [List.cons_append, nested_opening opens, whole, nested_closing closes]
  simp [nested, partner]

theorem nested_chosen (inner : List Kind) (lexemes : List Lexeme) :
    nested inner (chosen Kind.isFirm lexemes) = nested inner lexemes := by
  induction lexemes generalizing inner with
  | nil => rfl
  | cons lexeme rest ih =>
      cases firm : lexeme.kind.isFirm with
      | true =>
          rw [chosen_cons_of_pos firm, nested, nested, ungapped]
          simp only [ih]
      | false =>
          have passed : lexeme.kind.opens = false ∧ lexeme.kind.closes = false := by
            revert firm
            cases lexeme.kind <;> decide
          rw [chosen_cons_of_neg firm, ih, nested_plain passed.1 passed.2]

/-- A text whose brackets are properly nested, quotes apart. -/
def IsNested (text : String) : Prop :=
  ∃ scan, Lexeme.scan text = .ok scan ∧ nested [] scan.lexemes = true

theorem isNested_iff {text : String} {scan : Scan} (scanned : scan? text.toList = some scan) :
    IsNested text ↔ nested [] scan.lexemes = true := by
  constructor
  · rintro ⟨other, scannedOther, isNested⟩
    obtain rfl : other = scan :=
      Option.some.inj ((scan?_of_scan scannedOther).symm.trans scanned)
    exact isNested
  · exact fun isNested => ⟨scan, scan_of_scan? scanned, isNested⟩

theorem IsNested.isBalanced {text : String} (isNested : IsNested text) :
    IsBalanced text.toList := by
  obtain ⟨scan, scanned, isNested⟩ := isNested
  exact ⟨scan, scan?_of_scan scanned, contained_of_nested [] _ isNested⟩

theorem isNested_iff_hasChosen (text : String) :
    IsNested text ↔
      ∃ lexemes, HasChosen Kind.isFirm text.toList lexemes ∧ nested [] lexemes = true := by
  constructor
  · rintro ⟨scan, scanned, isNested⟩
    exact ⟨_, .of_scan (scan?_of_scan scanned), by rw [nested_chosen]; exact isNested⟩
  · rintro ⟨lexemes, found, isNested⟩
    obtain ⟨scan, scanned, rfl⟩ := found.scanned
    rw [nested_chosen] at isNested
    exact ⟨scan, scan_of_scan? scanned, isNested⟩

theorem isNested_trim (text : String) : IsNested (Text.trim text) ↔ IsNested text := by
  simp only [isNested_iff_hasChosen, Text.trim, String.toList_ofList, hasChosen_trimChars]

def OpensNone (text : String) : Prop :=
  ∃ scan, Lexeme.scan text = .ok scan ∧ ∀ lexeme ∈ scan.lexemes, lexeme.kind ≠ .openRound

/-- Whether `inner` stands between the first opening round bracket of a text and a sign `close`. -/
def Encloses (text inner : String) (close : Char) (rest : String) : Prop :=
  ∃ before : String,
    text.toList = before.toList ++ '(' :: (inner.toList ++ close :: rest.toList) ∧
      OpensNone before ∧ ∃ scan, Lexeme.scan rest = .ok scan

theorem Encloses.close_unique {text inner rest : String} {close other : Char}
    (encloses : Encloses text inner close rest) (enclosesOther : Encloses text inner other rest) :
    close = other := by
  obtain ⟨before, shape, _⟩ := encloses
  obtain ⟨lead, shapeOther, _⟩ := enclosesOther
  rw [← List.cons_append, ← List.append_assoc] at shape shapeOther
  have same := List.append_inj_right' (shape.symm.trans shapeOther) rfl
  exact (List.cons.inj same).1

/-- Whether a text is `inner` in its first round brackets, properly nested, with `rest` behind. -/
def IsFirstGroup (text inner rest : String) : Prop :=
  Encloses text inner ')' rest ∧ IsNested inner

theorem Encloses.isFirstGroup_iff {text inner rest : String} {close : Char}
    (encloses : Encloses text inner close rest) :
    IsFirstGroup text inner rest ↔ close = ')' ∧ IsNested inner := by
  constructor
  · rintro ⟨round, isNested⟩
    exact ⟨encloses.close_unique round, isNested⟩
  · rintro ⟨rfl, isNested⟩
    exact ⟨encloses, isNested⟩

theorem Encloses.innerGroup {text inner rest : String} {close : Char}
    (encloses : Encloses text inner close rest) (isClosing : close = ')' ∨ close = ']')
    (balanced : IsBalanced inner.toList) : innerGroup text = .ok (inner, rest) := by
  obtain ⟨before, shape, ⟨lead, scanned, free⟩, next, scannedRest⟩ := encloses
  have mark : ∃ kind, markKind? close = some kind ∧ kind.closes = true := by
    rcases isClosing with rfl | rfl
    · exact ⟨.closeRound, rfl, rfl⟩
    · exact ⟨.closeSquare, rfl, rfl⟩
  obtain ⟨kind, mark, closes⟩ := mark
  exact innerGroup_enclosed shape (scan?_of_scan scanned) free balanced mark closes
    (scan?_of_scan scannedRest)

theorem afterOpenRound?_some {lexemes rest : List Lexeme}
    (found : afterOpenRound? lexemes = some rest) :
    ∃ before opening, lexemes = before ++ opening :: rest ∧ opening.kind = .openRound ∧
      ∀ lexeme ∈ before, lexeme.kind ≠ .openRound := by
  induction lexemes with
  | nil => simp [afterOpenRound?] at found
  | cons lexeme others ih =>
      rw [afterOpenRound?] at found
      split at found
      · rename_i opens
        obtain rfl := Option.some.inj found
        exact ⟨[], lexeme, rfl, opens, by simp⟩
      · rename_i passed
        obtain ⟨before, opening, rfl, opens, free⟩ := ih found
        exact ⟨lexeme :: before, opening, rfl, opens, List.forall_mem_cons.mpr ⟨passed, free⟩⟩

/-- Grouping finds what is balanced when both kinds of brackets count alike, up to a closing bracket
of any kind. -/
theorem innerGroup_ok {text inner rest : String} (found : innerGroup text = .ok (inner, rest)) :
    ∃ close, (close = ')' ∨ close = ']') ∧ Encloses text inner close rest ∧
      IsBalanced inner.toList := by
  rw [innerGroup] at found
  split at found
  · contradiction
  rename_i scan scanned
  split at found
  · contradiction
  rename_i behind opened
  split at found
  · contradiction
  rename_i group grouped
  obtain ⟨rfl, rfl⟩ := Prod.mk.inj (Except.ok.inj found)
  obtain ⟨lexemes, trailing⟩ := scan
  obtain ⟨source, legible, blank⟩ := (scan?_eq_some_iff _ _).mp (scan?_of_scan scanned)
  dsimp only [Scan.source] at source legible blank opened
  obtain ⟨before, opening, rfl, opens, free⟩ := afterOpenRound?_some opened
  obtain rfl := group?_eq 0 behind group grouped
  obtain ⟨_, ⟨_, spelledOpening, _⟩, legibleBehind⟩ := (legible_append _ _ _).mp legible
  obtain ⟨_, ⟨_, spelledClose, _⟩, legibleAfter⟩ := (legible_append _ _ _).mp legibleBehind
  have openingText : opening.text = ['('] := text_openRound (by rwa [opens] at spelledOpening)
  obtain ⟨close, isClosing, closeText⟩ :=
    text_closing (group?_close 0 _ group grouped) spelledClose
  refine ⟨close, isClosing, ⟨String.ofList (sourceOf before ++ opening.gap), ?_, ?_, ?_⟩, ?_⟩
  · rw [← source]
    simp [Lexeme.source, openingText, closeText]
  · refine ⟨⟨before, opening.gap⟩, scan_of_scan? ?_, free⟩
    rw [String.toList_ofList, scan?_before legible]
  · refine ⟨⟨group.after, trailing⟩, scan_of_scan? ?_⟩
    rw [String.toList_ofList, scan?_legible group.after trailing legibleAfter blank]
  · refine ⟨⟨group.inside, group.close.gap⟩, ?_, group?_inside 0 _ group grouped⟩
    rw [String.toList_ofList, scan?_before legibleBehind]

theorem innerGroup_eq_ok_iff (text inner rest : String) :
    innerGroup text = .ok (inner, rest) ↔
      ∃ close, (close = ')' ∨ close = ']') ∧ Encloses text inner close rest ∧
        IsBalanced inner.toList := by
  refine ⟨innerGroup_ok, ?_⟩
  rintro ⟨close, isClosing, encloses, balanced⟩
  exact encloses.innerGroup isClosing balanced

end Lexeme

end ClickHouse
