import ClickHouse.Proofs.Lexeme.Seam

/-!
Splitting and joining. Parts that are joined by commas are found again, and so is their list
between the brackets of a call. What splitting returns are such parts, also when brackets of the
text are stray, so that joining and splitting again changes nothing (`splitTopLevel_restores`).
-/

namespace ClickHouse

namespace Lexeme

theorem isGap_or_isSymbolPart_of_isBlank (c : Char) (blank : Text.isBlank c = true) :
    isGap c = true ∨ isSymbolPart c = true := by
  have notWord : isWordPart c = false := by
    cases part : isWordPart c with
    | false => rfl
    | true => exact absurd blank (by simp [not_isBlank_of_isWordPart c part])
  have notMark : markKind? c = none := by
    cases mark : markKind? c with
    | none => rfl
    | some kind => exact absurd blank (by simp [not_isBlank_of_mark c kind mark])
  have notQuote : quoteKind? c = none := by
    unfold quoteKind?
    split
    · subst_vars
      exact absurd blank (by decide)
    split
    · rename_i mark
      simp only [Bool.or_eq_true, decide_eq_true_eq] at mark
      rcases mark with rfl | rfl <;> exact absurd blank (by decide)
    · rfl
  by_cases gap : isGap c = true
  · exact .inl gap
  · exact .inr (by simp [isSymbolPart, gap, notWord, notMark, notQuote])

end Lexeme

namespace Scanner

open Lexeme

/-- Whether the mark that the scanner waits for is visible, if it waits for one. -/
def Awaits : Scanner → Prop
  | quote mark _ _ _ _ => Text.isBlank mark = false
  | _ => True

theorem start_awaits (gap : List Char) (c : Char) : (start gap c).2.Awaits := by
  by_cases blank : Text.isBlank c = true
  · rcases isGap_or_isSymbolPart_of_isBlank c blank with isGap | symbol
    · rw [start_gap gap c isGap]
      trivial
    · rw [start_symbol gap c symbol]
      trivial
  · have visible : Text.isBlank c = false := by simpa using blank
    unfold start
    repeat' split
    all_goals first | exact visible | trivial

theorem step_awaits (scanner : Scanner) (c : Char) (awaits : scanner.Awaits) :
    (scanner.step c).2.Awaits := by
  match scanner with
  | between gap => exact start_awaits gap c
  | run kind gap text =>
      rw [step]
      split
      · trivial
      · exact start_awaits [] c
  | quote mark kind true gap text =>
      rw [step]
      split
      · trivial
      · exact awaits
  | quote mark kind false gap text =>
      rw [step]
      split
      · trivial
      · exact awaits
  | broken => trivial

theorem start_blank (gap : List Char) {c : Char} (blank : Text.isBlank c = true) :
    (start gap c).1 = [] ∧ (start gap c).2.forget Kind.isFirm = between [] := by
  rcases isGap_or_isSymbolPart_of_isBlank c blank with isGap | symbol
  · rw [start_gap gap c isGap]
    exact ⟨rfl, rfl⟩
  · rw [start_symbol gap c symbol]
    exact ⟨rfl, rfl⟩

theorem chosenOf_blank_cons {c : Char} (blank : Text.isBlank c = true) (text : List Char) :
    (between []).chosenOf Kind.isFirm (c :: text) = (between []).chosenOf Kind.isFirm text := by
  obtain ⟨none, forgotten⟩ := start_blank [] blank
  rw [chosenOf_cons, step, none, chosenOf_forget transparent_firm text _ (start_runs [] c), forgotten]
  simp

theorem chosenOf_trimLeft (text : List Char) :
    (between []).chosenOf Kind.isFirm (Text.trimLeft text) =
      (between []).chosenOf Kind.isFirm text := by
  unfold Text.trimLeft
  induction text with
  | nil => rfl
  | cons c rest ih =>
      by_cases blank : Text.isBlank c = true
      · rw [List.dropWhile_cons_of_pos blank, ih, chosenOf_blank_cons blank]
      · rw [List.dropWhile_cons_of_neg blank]

theorem chosenOf_blank (scanner : Scanner) (runs : scanner.Runs) (awaits : scanner.Awaits) {c : Char}
    (blank : Text.isBlank c = true) :
    scanner.chosenOf Kind.isFirm [c] = scanner.chosenOf Kind.isFirm [] := by
  have ends (gap : List Char) : (start gap c).2.chosenOf Kind.isFirm [] = some [] := by
    obtain ⟨_, forgotten⟩ := start_blank gap blank
    rw [chosenOf_forget transparent_firm [] _ (start_runs gap c), forgotten]
    rfl
  rw [chosenOf_cons]
  match scanner with
  | between gap =>
      rw [step, ends, (start_blank gap blank).1]
      rfl
  | run kind gap text =>
      have soft : kind.isFirm = false := by
        have isRun : kind.isRun = true := runs
        simp [Kind.isFirm, isRun]
      rw [step]
      split
      · simp [chosenOf, read, finish, chosen, soft]
      · dsimp only
        rw [ends, (start_blank [] blank).1]
        simp [chosenOf, read, finish, chosen, soft]
  | quote mark kind true gap text =>
      rw [step]
      split <;> rfl
  | quote mark kind false gap text =>
      have notMark : c ≠ mark := by
        rintro rfl
        have visible : Text.isBlank c = false := awaits
        rw [visible] at blank
        contradiction
      rw [step, if_neg notMark]
      rfl
  | broken => rfl

theorem chosenOf_trimRight (text : List Char) (scanner : Scanner) (runs : scanner.Runs)
    (awaits : scanner.Awaits) :
    scanner.chosenOf Kind.isFirm (Text.trimRight text) = scanner.chosenOf Kind.isFirm text := by
  induction text generalizing scanner with
  | nil => rfl
  | cons c rest ih =>
      have behind := ih (scanner.step c).2 (step_runs scanner c runs) (step_awaits scanner c awaits)
      rw [Text.trimRight]
      split
      · rename_i empty
        rw [empty] at behind
        rw [chosenOf_cons _ _ _ rest, ← behind, ← chosenOf_cons]
        split
        · rename_i blank
          exact (chosenOf_blank scanner runs awaits blank).symm
        · rfl
      · rw [chosenOf_cons, chosenOf_cons, behind]

end Scanner

namespace Lexeme

theorem hasChosen_trimChars (text : List Char) (lexemes : List Lexeme) :
    HasChosen Kind.isFirm (Text.trimChars text) lexemes ↔ HasChosen Kind.isFirm text lexemes := by
  have runs : (Scanner.between []).Runs := trivial
  have awaits : (Scanner.between []).Awaits := trivial
  rw [HasChosen, Text.trimChars, Scanner.chosenOf_trimRight _ _ runs awaits,
    Scanner.chosenOf_trimLeft, HasChosen]

theorem passed_of_not_firm {kind : Kind} (soft : kind.isFirm = false) (depth : Nat) :
    kind.isComma = false ∧ kind.depthAfter depth = depth := by
  revert soft
  cases kind <;> intro soft <;> first | contradiction | exact ⟨rfl, rfl⟩

theorem unbroken_chosen (allowed : Nat → Bool) (depth : Nat) (lexemes : List Lexeme) :
    Unbroken Kind.isComma allowed depth (chosen Kind.isFirm lexemes) =
      Unbroken Kind.isComma allowed depth lexemes := by
  induction lexemes generalizing depth with
  | nil => rfl
  | cons lexeme rest ih =>
      cases firm : lexeme.kind.isFirm with
      | true => rw [chosen_cons_of_pos firm, Unbroken, Unbroken, ungapped, ih]
      | false =>
          obtain ⟨notComma, same⟩ := passed_of_not_firm firm depth
          rw [chosen_cons_of_neg firm, Unbroken, ih, notComma, same]
          simp

theorem IsPiece.trimChars {allowed : Nat → Bool} {text : List Char} (piece : IsPiece allowed text) :
    IsPiece allowed (Text.trimChars text) := by
  obtain ⟨scan, scanned, unbroken⟩ := piece
  obtain ⟨trimmed, scannedTrimmed, same⟩ :=
    ((hasChosen_trimChars text _).mpr (HasChosen.of_scan scanned)).scanned
  refine ⟨trimmed, scannedTrimmed, ?_⟩
  rw [← unbroken_chosen, same, unbroken_chosen]
  exact unbroken

theorem Pieces.trimChars {texts : List (List Char)} (pieces : Pieces texts) :
    Pieces (texts.map Text.trimChars) := by
  induction pieces with
  | last piece => exact .last piece.trimChars
  | cons piece _ ih => exact .cons piece.trimChars ih

theorem unbroken_or_comma (depth : Nat) (lexemes : List Lexeme) :
    Unbroken Kind.isComma (fun _ => true) depth lexemes = true ∨
      ∃ part comma rest, lexemes = part ++ comma :: rest ∧ comma.kind = .comma ∧
        Contained Kind.isComma depth part = true := by
  induction lexemes generalizing depth with
  | nil => exact .inl rfl
  | cons lexeme rest ih =>
      by_cases free : 0 < depth ∨ lexeme.kind.isComma = false
      · rcases ih (lexeme.kind.depthAfter depth) with unbroken | ⟨part, comma, others, shape⟩
        · exact .inl (by simpa [Unbroken, unbroken] using free)
        · obtain ⟨rfl, isComma, contained⟩ := shape
          exact .inr ⟨lexeme :: part, comma, others, rfl, isComma,
            by simpa [Contained, contained] using free⟩
      · rw [not_or, Bool.not_eq_false] at free
        obtain rfl : depth = 0 := by omega
        exact .inr ⟨[], lexeme, rest, rfl, by simpa [Kind.isComma] using free.2, rfl⟩

theorem separates_blanks (gap : List Char) (blank : gap.all isGap = true) : Separates gap := by
  cases gap with
  | nil => exact separates_nil
  | cons c rest =>
      rw [List.all_cons, Bool.and_eq_true] at blank
      exact separates_gap c rest blank.1

theorem scan?_before {follow : List Char} {before rest : List Lexeme} {next : Lexeme}
    (legible : Legible follow (before ++ next :: rest)) :
    scan? (sourceOf before ++ next.gap) = some ⟨before, next.gap⟩ := by
  obtain ⟨before, ⟨blank, _, _⟩, _⟩ := (legible_append _ _ _).mp legible
  have ends := before.alone.extend next.gap (separates_blanks next.gap blank)
  exact scan?_legible _ next.gap ends blank

theorem pieces_of_legible (trailing : List Char) (blank : trailing.all isGap = true)
    (lexemes : List Lexeme) (legible : Legible trailing lexemes) :
    Pieces (partsFrom trailing 0 lexemes) := by
  rcases unbroken_or_comma 0 lexemes with unbroken | ⟨part, comma, rest, rfl, isComma, contained⟩
  · rw [partsFrom_unbroken _ _ _ _ unbroken]
    exact .last ⟨_, scan?_legible lexemes trailing legible blank, unbroken⟩
  · have shape : partsFrom trailing 0 (part ++ comma :: rest) =
        (sourceOf part ++ comma.gap) :: partsFrom trailing 0 rest := by
      rw [partsFrom_contained _ _ _ _ contained, partsFrom_comma _ _ _ isComma]
      rfl
    have behind := ((legible_append _ _ _).mp legible).2.2
    rw [shape]
    rw [contained_eq_unbroken] at contained
    exact .cons ⟨_, scan?_before legible, contained⟩ (pieces_of_legible trailing blank rest behind)
termination_by lexemes.length

theorem trimChars_trimChars (text : List Char) :
    Text.trimChars (Text.trimChars text) = Text.trimChars text :=
  Text.trimChars_of_ends _ (Text.trimChars_ends text).1 (Text.trimChars_ends text).2

theorem partsFrom_eq_singleton {trailing part : List Char} {lexemes : List Lexeme}
    (single : partsFrom trailing 0 lexemes = [part]) : part = sourceOf lexemes ++ trailing := by
  rcases unbroken_or_comma 0 lexemes with unbroken | ⟨before, comma, rest, rfl, isComma, contained⟩
  · rw [partsFrom_unbroken _ _ _ _ unbroken] at single
    simpa using single.symm
  · rw [partsFrom_contained _ _ _ _ contained, partsFrom_comma _ _ _ isComma, prependToFirst,
      List.cons.injEq] at single
    exact absurd single.2 (partsFrom_ne_nil _ _ _)

theorem splitTopLevel_split {text : String} {parts : List String}
    (split : splitTopLevel text = .ok parts) : splitTopLevel (Text.commaList parts) = .ok parts := by
  rw [splitTopLevel] at split
  split at split
  · obtain rfl : [] = parts := Except.ok.inj split
    rfl
  · rename_i visible
    cases scanned : Lexeme.scan text with
    | error cause => simp [scanned] at split
    | ok scan =>
        simp only [scanned, Except.ok.injEq] at split
        obtain ⟨source, legible, blank⟩ := (scan?_eq_some_iff _ _).mp (scan?_of_scan scanned)
        have shape : parts.map String.toList =
            (partsFrom scan.trailing 0 scan.lexemes).map Text.trimChars := by
          rw [← split, List.map_map]
          exact List.map_congr_left fun part _ => String.toList_ofList
        refine splitTopLevel_pieces parts ?_ ?_ ?_
        · rintro rfl
          -- the only part is the whole text, which is not blank
          obtain ⟨part, single, empty⟩ := List.map_eq_singleton_iff.mp shape.symm
          rw [partsFrom_eq_singleton single] at empty
          apply visible
          rw [List.all_eq_true, ← source]
          intro c member
          cases isBlank : Text.isBlank c with
          | true => rfl
          | false =>
              have kept := Text.mem_trimChars member isBlank
              rw [Scan.source, empty] at kept
              simp at kept
        · rw [shape]
          exact (pieces_of_legible _ blank _ legible).trimChars
        · intro part member
          have trimmed := List.mem_map_of_mem (f := String.toList) member
          rw [shape] at trimmed
          obtain ⟨raw, _, same⟩ := List.mem_map.mp trimmed
          rw [← same, trimChars_trimChars]

/-- A list in the brackets of a call is found as it is, with what follows the call. -/
theorem innerGroup_call (name tail : String) (parts : List String)
    (isWord : Identifier.isWord name = true) (each : ∀ part ∈ parts, IsPart part.toList)
    {scan : Scan} (scanned : scan? tail.toList = some scan) :
    innerGroup (name ++ "(" ++ Text.commaList parts ++ ")" ++ tail) =
      .ok (Text.commaList parts, tail) := by
  have lead := scan?_spells .word name.toList (spells_word name isWord)
  exact innerGroup_commaList (by simp) lead (by simp) each scanned

/-- Splitting undoes joining, in the brackets of a call too, and joining undoes splitting as far as
splitting again can tell. -/
theorem splitTopLevel_restores :
    (∀ parts : List String, parts ≠ [""] →
      (∀ part ∈ parts, IsPart part.toList ∧ Text.trim part = part) →
        splitTopLevel (Text.commaList parts) = .ok parts ∧
          ∀ name tail : String, Identifier.isWord name = true →
            (∃ scan, Lexeme.scan tail = .ok scan) →
              innerGroup (name ++ "(" ++ Text.commaList parts ++ ")" ++ tail) =
                .ok (Text.commaList parts, tail)) ∧
    ∀ (text : String) (parts : List String), splitTopLevel text = .ok parts →
      splitTopLevel (Text.commaList parts) = .ok parts := by
  constructor
  · intro parts notBlank each
    constructor
    · apply splitTopLevel_commaList parts notBlank
      intro part member
      have trimmed := congrArg String.toList (each part member).2
      exact ⟨(each part member).1, by simpa [Text.trim] using trimmed⟩
    · rintro name tail isWord ⟨scan, scanned⟩
      exact innerGroup_call name tail parts isWord (fun part member => (each part member).1)
        (scan?_of_scan scanned)
  · intro text parts split
    exact splitTopLevel_split split

def parameterParts : List String :=
  ["'a, b)'", "", "f([x, y])", "\u00e9 + 1"]

def unevenParts : String :=
  " x) ,\u00a0[a , b"

theorem splitTopLevel_restores_parameters :
    (∀ part ∈ parameterParts, IsPart part.toList ∧ Text.trim part = part) ∧
      splitTopLevel (Text.commaList parameterParts) = .ok parameterParts ∧
      innerGroup ("Buffer" ++ "(" ++ Text.commaList parameterParts ++ ")" ++ " TTL d") =
        .ok (Text.commaList parameterParts, " TTL d") ∧
      splitTopLevel unevenParts = .ok ["x)", "[a , b"] ∧
      splitTopLevel (Text.commaList ["x)", "[a , b"]) = .ok ["x)", "[a , b"] := by
  have shown (text : String) (scan : Scan) (scanned : scan? text.toList = some scan)
      (contained : Contained Kind.endsPart 0 scan.lexemes = true)
      (trimmed : Text.trim text = text) : IsPart text.toList ∧ Text.trim text = text :=
    ⟨⟨scan, scanned, contained⟩, trimmed⟩
  have each : ∀ part ∈ parameterParts, IsPart part.toList ∧ Text.trim part = part := by
    simp only [parameterParts, List.forall_mem_cons, List.not_mem_nil, false_implies, implies_true,
      and_true]
    exact ⟨shown _ _ rfl rfl rfl, shown _ _ rfl rfl rfl, shown _ _ rfl rfl rfl,
      shown _ _ rfl rfl rfl⟩
  obtain ⟨split, group⟩ := splitTopLevel_restores.1 parameterParts (by decide) each
  have uneven : splitTopLevel unevenParts = .ok ["x)", "[a , b"] := rfl
  exact ⟨each, split, group "Buffer" " TTL d" (by decide) ⟨_, scan_of_scan? rfl⟩, uneven,
    splitTopLevel_restores.2 unevenParts _ uneven⟩

end Lexeme

end ClickHouse
