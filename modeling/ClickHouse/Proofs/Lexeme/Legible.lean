import ClickHouse.Lexeme.Scanner
import ClickHouse.Proofs.Text.Trim

/-!
Which lists of lexemes a text is read into. A list is legible before a text when every lexeme is
whole, no run could go on, and the gaps hold blanks only; these lists, and no others, are what
the scanner returns (`scan?_eq_some_iff`).
-/

namespace ClickHouse

namespace Lexeme

/-- Whether the quote that `mark` has opened closes with the last character and not before. -/
def closesWith (mark : Char) : Bool → List Char → Bool
  | _, [] => false
  | true, c :: rest => c ≠ '\n' && closesWith mark false rest
  | false, c :: rest =>
    if c = mark then rest.isEmpty
    else closesWith mark (c = '\\' && mark ≠ '\x60') rest

def Kind.spells (kind : Kind) : List Char → Bool
  | [] => false
  | c :: rest =>
    match kind with
    | .word => isWordStart c && rest.all isWordPart
    | .number => c.isDigit && rest.all Char.isDigit
    | .symbol => isSymbolPart c && rest.all isSymbolPart
    | .literal | .quoted => quoteKind? c = some kind && closesWith c false rest
    | _ => markKind? c = some kind && rest.isEmpty

def Kind.EndsBefore (kind : Kind) (text : List Char) : Prop :=
  ∀ c ∈ text.head?, kind.prolongs c = false

/-- Lexemes that are read back as they are when `follow` stands after them. -/
def Legible (follow : List Char) : List Lexeme → Prop
  | [] => True
  | lexeme :: rest =>
    (lexeme.gap.all isGap = true ∧ lexeme.kind.spells lexeme.text = true ∧
      lexeme.kind.EndsBefore (sourceOf rest ++ follow)) ∧ Legible follow rest

theorem isGap_cases (c : Char) (gap : isGap c = true) :
    c = ' ' ∨ c = '\t' ∨ c = '\n' ∨ c = '\r' ∨ c = '\x0c' := by
  simpa [isGap, or_assoc] using gap

theorem prolongs_of_isGap (kind : Kind) (c : Char) (gap : isGap c = true) :
    kind.prolongs c = false := by
  rcases isGap_cases c gap with rfl | rfl | rfl | rfl | rfl <;> cases kind <;> decide

theorem not_isGap_of_isWordStart (c : Char) (start : isWordStart c = true) : isGap c = false := by
  cases gap : isGap c with
  | false => rfl
  | true =>
      rcases isGap_cases c gap with rfl | rfl | rfl | rfl | rfl <;> exact absurd start (by decide)

theorem not_isGap_of_isDigit (c : Char) (digit : c.isDigit = true) : isGap c = false := by
  cases gap : isGap c with
  | false => rfl
  | true =>
      rcases isGap_cases c gap with rfl | rfl | rfl | rfl | rfl <;> exact absurd digit (by decide)

theorem not_isWordStart_of_isDigit (c : Char) (digit : c.isDigit = true) :
    isWordStart c = false := by
  rw [isWordStart, Bool.or_eq_false_iff, ← Bool.not_eq_true, Text.isAlpha_iff,
    decide_eq_false_iff_not]
  have code := (Text.isDigit_iff c).mp digit
  constructor
  · omega
  · rintro rfl
    exact absurd digit (by decide)

theorem isWordPart_eq (c : Char) : isWordPart c = (isWordStart c || c.isDigit) := by
  simp only [isWordPart, isWordStart, Char.isAlphanum]
  cases c.isAlpha <;> cases c.isDigit <;> simp

theorem markKind?_isSome (c : Char) (kind : Kind) (mark : markKind? c = some kind) :
    isGap c = false ∧ isWordStart c = false ∧ c.isDigit = false := by
  unfold markKind? at mark
  split at mark
  · subst_vars; decide
  split at mark
  · subst_vars; decide
  split at mark
  · subst_vars; decide
  split at mark
  · subst_vars; decide
  split at mark
  · subst_vars; decide
  split at mark
  · subst_vars; decide
  contradiction

theorem quoteKind?_isSome (c : Char) (kind : Kind) (quote : quoteKind? c = some kind) :
    isGap c = false ∧ isWordStart c = false ∧ c.isDigit = false ∧ markKind? c = none ∧
      (kind = .literal ∨ kind = .quoted) := by
  unfold quoteKind? at quote
  split at quote
  · subst_vars
    simp only [Option.some.injEq] at quote
    subst quote
    decide
  · split at quote
    · rename_i mark
      simp only [Bool.or_eq_true, decide_eq_true_eq] at mark
      simp only [Option.some.injEq] at quote
      subst quote
      rcases mark with rfl | rfl <;> decide
    · contradiction

end Lexeme

def Scan.prepend (lexemes : List Lexeme) (scan : Scan) : Scan :=
  ⟨lexemes ++ scan.lexemes, scan.trailing⟩

def Scan.indent (gap : List Char) : Scan → Scan
  | ⟨[], trailing⟩ => ⟨[], gap ++ trailing⟩
  | ⟨first :: rest, trailing⟩ => ⟨{ first with gap := gap ++ first.gap } :: rest, trailing⟩

namespace Scan

theorem map_prepend_nil (scan : Option Scan) : scan.map (prepend []) = scan := by
  cases scan <;> rfl

end Scan

namespace Scanner

open Lexeme

theorem read_cons (scanner : Scanner) (c : Char) (rest : List Char) :
    scanner.read (c :: rest) =
      ((scanner.step c).2.read rest).map (Scan.prepend (scanner.step c).1) := by
  simp only [read]
  cases (scanner.step c).2.read rest <;> rfl

theorem start_gap (gap : List Char) (c : Char) (blank : isGap c = true) :
    start gap c = ([], between (gap ++ [c])) := by
  simp [start, blank]

theorem start_word (gap : List Char) (c : Char) (word : isWordStart c = true) :
    start gap c = ([], run .word gap [c]) := by
  simp [start, word, not_isGap_of_isWordStart c word]

theorem start_number (gap : List Char) (c : Char) (digit : c.isDigit = true) :
    start gap c = ([], run .number gap [c]) := by
  simp [start, digit, not_isGap_of_isDigit c digit, not_isWordStart_of_isDigit c digit]

theorem start_mark (gap : List Char) (c : Char) (kind : Kind) (mark : markKind? c = some kind) :
    start gap c = ([⟨gap, kind, [c]⟩], between []) := by
  obtain ⟨notGap, notWord, notDigit⟩ := markKind?_isSome c kind mark
  simp [start, notGap, notWord, notDigit, mark]

theorem start_quote (gap : List Char) (c : Char) (kind : Kind) (opens : quoteKind? c = some kind) :
    start gap c = ([], quote c kind false gap [c]) := by
  obtain ⟨notGap, notWord, notDigit, notMark, _⟩ := quoteKind?_isSome c kind opens
  simp [start, notGap, notWord, notDigit, notMark, opens]

theorem start_symbol (gap : List Char) (c : Char) (symbol : isSymbolPart c = true) :
    start gap c = ([], run .symbol gap [c]) := by
  simp only [isSymbolPart, isWordPart_eq, Bool.and_eq_true, Bool.not_eq_true', Bool.or_eq_false_iff,
    Option.isNone_iff_eq_none] at symbol
  obtain ⟨⟨⟨notGap, notWord, notDigit⟩, notMark⟩, notQuote⟩ := symbol
  simp [start, notGap, notWord, notDigit, notMark, notQuote]

theorem read_gap (gap more rest : List Char) (blank : more.all isGap = true) :
    (between gap).read (more ++ rest) = (between (gap ++ more)).read rest := by
  induction more generalizing gap with
  | nil => simp
  | cons c others ih =>
      simp only [List.all_cons, Bool.and_eq_true] at blank
      rw [List.cons_append, read_cons, step, start_gap gap c blank.1, Scan.map_prepend_nil,
        ih (gap ++ [c]) blank.2]
      simp

theorem read_run_more (kind : Kind) (gap text more rest : List Char)
    (longer : more.all kind.prolongs = true) :
    (run kind gap text).read (more ++ rest) = (run kind gap (text ++ more)).read rest := by
  induction more generalizing text with
  | nil => simp
  | cons c others ih =>
      simp only [List.all_cons, Bool.and_eq_true] at longer
      rw [List.cons_append, read_cons, step, if_pos longer.1, Scan.map_prepend_nil,
        ih (text ++ [c]) longer.2]
      simp

theorem read_run_end (kind : Kind) (gap text rest : List Char) (ends : kind.EndsBefore rest) :
    (run kind gap text).read rest =
      ((between []).read rest).map (Scan.prepend [⟨gap, kind, text⟩]) := by
  cases rest with
  | nil => rfl
  | cons c others =>
      have stops : kind.prolongs c = false := ends c rfl
      have stepped : (run kind gap text).step c =
          (⟨gap, kind, text⟩ :: (start [] c).1, (start [] c).2) := by
        simp [step, stops]
      rw [read_cons, read_cons, stepped, Option.map_map]
      rfl

theorem read_quote (mark : Char) (kind : Kind) (escaped : Bool) (gap text body rest : List Char)
    (closes : closesWith mark escaped body = true) :
    (quote mark kind escaped gap text).read (body ++ rest) =
      ((between []).read rest).map (Scan.prepend [⟨gap, kind, text ++ body⟩]) := by
  induction body generalizing escaped text with
  | nil => simp [closesWith] at closes
  | cons c others ih =>
      rw [List.cons_append, read_cons]
      cases escaped with
      | true =>
          simp only [closesWith, Bool.and_eq_true, decide_eq_true_eq] at closes
          rw [step, if_neg closes.1, Scan.map_prepend_nil, ih false (text ++ [c]) closes.2]
          simp
      | false =>
          simp only [closesWith] at closes
          rw [step]
          split at closes
          · rename_i same
            have last : others = [] := by simpa using closes
            subst last
            rw [if_pos same]
            rfl
          · rename_i different
            rw [if_neg different, Scan.map_prepend_nil, ih _ (text ++ [c]) closes]
            simp

theorem read_lexeme (lexeme : Lexeme) (rest : List Char) (blank : lexeme.gap.all isGap = true)
    (spelled : lexeme.kind.spells lexeme.text = true) (ends : lexeme.kind.EndsBefore rest) :
    (between []).read (lexeme.source ++ rest) =
      ((between []).read rest).map (Scan.prepend [lexeme]) := by
  obtain ⟨gap, kind, text⟩ := lexeme
  dsimp only at *
  cases text with
  | nil => simp [Kind.spells] at spelled
  | cons c others =>
      rw [source, List.append_assoc, read_gap [] gap _ blank, List.nil_append, List.cons_append,
        read_cons, step]
      cases kind with
      | word =>
          simp only [Kind.spells, Bool.and_eq_true] at spelled
          rw [start_word gap c spelled.1, Scan.map_prepend_nil,
            read_run_more .word gap [c] others rest spelled.2, read_run_end _ _ _ _ ends]
          rfl
      | number =>
          simp only [Kind.spells, Bool.and_eq_true] at spelled
          rw [start_number gap c spelled.1, Scan.map_prepend_nil,
            read_run_more .number gap [c] others rest spelled.2, read_run_end _ _ _ _ ends]
          rfl
      | symbol =>
          simp only [Kind.spells, Bool.and_eq_true] at spelled
          rw [start_symbol gap c spelled.1, Scan.map_prepend_nil,
            read_run_more .symbol gap [c] others rest spelled.2, read_run_end _ _ _ _ ends]
          rfl
      | literal | quoted =>
          simp only [Kind.spells, Bool.and_eq_true, decide_eq_true_eq] at spelled
          rw [start_quote gap c _ spelled.1, Scan.map_prepend_nil,
            read_quote c _ false gap [c] others rest spelled.2]
          rfl
      | openRound | closeRound | openSquare | closeSquare | comma | equals =>
          simp only [Kind.spells, Bool.and_eq_true, decide_eq_true_eq, List.isEmpty_iff] at spelled
          obtain ⟨mark, rfl⟩ := spelled
          rw [start_mark gap c _ mark]
          rfl

end Scanner

namespace Lexeme

theorem scan?_legible_append (lexemes : List Lexeme) (rest : List Char)
    (legible : Legible rest lexemes) :
    scan? (sourceOf lexemes ++ rest) = (scan? rest).map (Scan.prepend lexemes) := by
  induction lexemes with
  | nil => simp [Scan.map_prepend_nil]
  | cons lexeme others ih =>
      obtain ⟨⟨gap, spelled, ends⟩, legible⟩ := legible
      rw [sourceOf_cons, List.append_assoc, scan?,
        Scanner.read_lexeme lexeme _ gap spelled ends]
      change (scan? (sourceOf others ++ rest)).map _ = _
      rw [ih legible, Option.map_map]
      rfl

theorem scan?_gap (gap : List Char) (blank : gap.all isGap = true) :
    scan? gap = some ⟨[], gap⟩ := by
  have read := Scanner.read_gap [] gap [] blank
  simpa [scan?, Scanner.read, Scanner.finish] using read

theorem scan?_legible (lexemes : List Lexeme) (trailing : List Char)
    (legible : Legible trailing lexemes) (blank : trailing.all isGap = true) :
    scan? (sourceOf lexemes ++ trailing) = some ⟨lexemes, trailing⟩ := by
  rw [scan?_legible_append lexemes trailing legible, scan?_gap trailing blank]
  simp [Scan.prepend]

end Lexeme

/-! What the scanner returns is legible, and what is legible is returned. -/

namespace Scanner

open Lexeme

/-- What a scanner holds can become a whole lexeme. -/
def Sound : Scanner → Prop
  | between gap => gap.all isGap = true
  | run kind gap text =>
    gap.all isGap = true ∧ (kind = .word ∨ kind = .number ∨ kind = .symbol) ∧
      kind.spells text = true
  | quote mark kind escaped gap text =>
    gap.all isGap = true ∧ quoteKind? mark = some kind ∧
      ∃ body, text = mark :: body ∧
        ∀ rest, closesWith mark false (body ++ rest) = closesWith mark escaped rest
  | broken => True

theorem start_cases (gap : List Char) (c : Char) (blank : gap.all isGap = true) :
    (start gap c).2.Sound ∧ ((start gap c).1 = [] ∨
      ∃ kind, (start gap c).1 = [⟨gap, kind, [c]⟩] ∧ markKind? c = some kind) := by
  by_cases isBlank : isGap c = true
  · rw [start_gap gap c isBlank]
    exact ⟨by simpa [Sound, isBlank] using blank, Or.inl rfl⟩
  by_cases word : isWordStart c = true
  · rw [start_word gap c word]
    exact ⟨⟨blank, by simp, by simp [Kind.spells, word]⟩, Or.inl rfl⟩
  by_cases digit : c.isDigit = true
  · rw [start_number gap c digit]
    exact ⟨⟨blank, by simp, by simp [Kind.spells, digit]⟩, Or.inl rfl⟩
  cases mark : markKind? c with
  | some kind =>
      rw [start_mark gap c kind mark]
      exact ⟨rfl, Or.inr ⟨kind, rfl, rfl⟩⟩
  | none =>
      cases opens : quoteKind? c with
      | some kind =>
          rw [start_quote gap c kind opens]
          exact ⟨⟨blank, opens, [], rfl, fun rest => rfl⟩, Or.inl rfl⟩
      | none =>
          have symbol : isSymbolPart c = true := by
            simp [isSymbolPart, isWordPart_eq, isBlank, word, digit, mark, opens]
          rw [start_symbol gap c symbol]
          exact ⟨⟨blank, by simp, by simp [Kind.spells, symbol]⟩, Or.inl rfl⟩

theorem spells_append (kind : Kind) (text : List Char) (c : Char)
    (spelled : kind.spells text = true) (longer : kind.prolongs c = true) :
    kind.spells (text ++ [c]) = true := by
  cases text with
  | nil => simp [Kind.spells] at spelled
  | cons first rest =>
      cases kind <;> simp_all [Kind.spells, Kind.prolongs]

theorem spells_mark (c : Char) (kind : Kind) (mark : markKind? c = some kind) :
    kind.spells [c] = true ∧ ∀ text, kind.EndsBefore text := by
  unfold markKind? at mark
  repeat' split at mark
  all_goals first | contradiction | skip
  all_goals
    obtain rfl := Option.some.inj mark
    subst_vars
    exact ⟨by decide, fun text d _ => rfl⟩

def ReadsLegible (text : List Char) : Prop :=
  ∀ scanner : Scanner, scanner.Sound → ∀ scan, scanner.read text = some scan →
    Legible scan.trailing scan.lexemes ∧ scan.trailing.all isGap = true

theorem readsLegible_nil : ReadsLegible [] := by
  intro scanner sound scan done
  cases scanner with
  | between gap =>
      obtain rfl : ⟨[], gap⟩ = scan := by simpa [read, finish] using done
      exact ⟨trivial, sound⟩
  | run kind gap text =>
      obtain rfl : ⟨[⟨gap, kind, text⟩], []⟩ = scan := by simpa [read, finish] using done
      exact ⟨⟨⟨sound.1, sound.2.2, by simp [Kind.EndsBefore]⟩, trivial⟩, rfl⟩
  | quote mark kind escaped gap text => simp [read, finish] at done
  | broken => simp [read, finish] at done

section Step

variable {c : Char} {rest : List Char} {scan : Scan}

theorem legible_between (ih : ReadsLegible rest) (gap : List Char) (blank : gap.all isGap = true)
    (done : (between gap).read (c :: rest) = some scan) :
    Legible scan.trailing scan.lexemes ∧ scan.trailing.all isGap = true := by
  rw [read_cons, step, Option.map_eq_some_iff] at done
  obtain ⟨inner, innerDone, rfl⟩ := done
  obtain ⟨sound, finished⟩ := start_cases gap c blank
  obtain ⟨legible, trailing⟩ := ih _ sound inner innerDone
  refine ⟨?_, trailing⟩
  rcases finished with none | ⟨kind, one, mark⟩
  · simpa [none, Scan.prepend] using legible
  · obtain ⟨spelled, ends⟩ := spells_mark c kind mark
    simp only [one, Scan.prepend, List.cons_append, List.nil_append]
    exact ⟨⟨blank, spelled, ends _⟩, legible⟩

theorem legible_run (ih : ReadsLegible rest) (kind : Kind) (gap text : List Char)
    (sound : (run kind gap text).Sound)
    (done : (run kind gap text).read (c :: rest) = some scan) :
    Legible scan.trailing scan.lexemes ∧ scan.trailing.all isGap = true := by
  obtain ⟨blank, isRun, spelled⟩ := sound
  by_cases longer : kind.prolongs c = true
  · rw [read_cons, step, if_pos longer, Scan.map_prepend_nil] at done
    have sound : (run kind gap (text ++ [c])).Sound :=
      ⟨blank, isRun, spells_append kind text c spelled longer⟩
    exact ih _ sound scan done
  · have ends : kind.EndsBefore (c :: rest) := by
      simpa [Kind.EndsBefore] using longer
    rw [read_run_end kind gap text _ ends, Option.map_eq_some_iff] at done
    obtain ⟨inner, innerDone, rfl⟩ := done
    obtain ⟨legible, trailing⟩ := legible_between ih [] rfl innerDone
    have source : inner.source = c :: rest := scan_source (c :: rest) inner innerDone
    refine ⟨⟨⟨blank, spelled, ?_⟩, legible⟩, trailing⟩
    rw [← source] at ends
    exact ends

theorem legible_quote (ih : ReadsLegible rest) (mark : Char) (kind : Kind) (escaped : Bool)
    (gap text : List Char) (sound : (quote mark kind escaped gap text).Sound)
    (done : (quote mark kind escaped gap text).read (c :: rest) = some scan) :
    Legible scan.trailing scan.lexemes ∧ scan.trailing.all isGap = true := by
  obtain ⟨blank, opens, body, rfl, closes⟩ := sound
  -- the quote goes on as long as the character leaves open what follows
  have goesOn (escaped' : Bool)
      (opened : ∀ more, closesWith mark escaped (c :: more) = closesWith mark escaped' more) :
      (quote mark kind escaped' gap (mark :: body ++ [c])).Sound := by
    refine ⟨blank, opens, body ++ [c], rfl, fun more => ?_⟩
    rw [List.append_assoc, closes]
    exact opened more
  rw [read_cons] at done
  cases escaped with
  | true =>
      rw [step] at done
      split at done
      · rw [read_broken] at done
        contradiction
      · rename_i notLineFeed
        rw [Scan.map_prepend_nil] at done
        exact ih _ (goesOn false fun more => by simp [closesWith, notLineFeed]) scan done
  | false =>
      rw [step] at done
      split at done
      · rename_i same
        rw [Option.map_eq_some_iff] at done
        obtain ⟨inner, innerDone, rfl⟩ := done
        obtain ⟨legible, trailing⟩ := ih (between []) rfl inner innerDone
        have whole : closesWith mark false (body ++ [c]) = true := by
          simp [closes, closesWith, same]
        have ends : kind.EndsBefore (sourceOf inner.lexemes ++ inner.trailing) := by
          intro d _
          rcases (quoteKind?_isSome mark kind opens).2.2.2.2 with rfl | rfl <;> rfl
        have spelled : kind.spells (mark :: (body ++ [c])) = true := by
          rcases (quoteKind?_isSome mark kind opens).2.2.2.2 with rfl | rfl <;>
            simp [Kind.spells, opens, whole]
        exact ⟨⟨⟨blank, spelled, ends⟩, legible⟩, trailing⟩
      · rename_i different
        rw [Scan.map_prepend_nil] at done
        exact ih _ (goesOn _ fun more => by simp [closesWith, different]) scan done

end Step

theorem readsLegible (text : List Char) : ReadsLegible text := by
  induction text with
  | nil => exact readsLegible_nil
  | cons c rest ih =>
      intro scanner sound scan done
      cases scanner with
      | between gap => exact legible_between ih gap sound done
      | run kind gap text => exact legible_run ih kind gap text sound done
      | quote mark kind escaped gap text =>
          exact legible_quote ih mark kind escaped gap text sound done
      | broken => simp [read_broken] at done

end Scanner

namespace Lexeme

/-- The scanner inverts the spelling of legible lexemes, and returns no others. -/
theorem scan?_eq_some_iff (text : List Char) (scan : Scan) :
    scan? text = some scan ↔
      scan.source = text ∧ Legible scan.trailing scan.lexemes ∧
        scan.trailing.all isGap = true := by
  constructor
  · intro done
    have sound : (Scanner.between []).Sound := rfl
    exact ⟨scan_source text scan done, Scanner.readsLegible text _ sound scan done⟩
  · rintro ⟨rfl, legible, blank⟩
    exact scan?_legible scan.lexemes scan.trailing legible blank

theorem Legible.each {follow : List Char} {lexemes : List Lexeme}
    (legible : Legible follow lexemes) : ∀ lexeme ∈ lexemes,
      lexeme.gap.all isGap = true ∧ lexeme.kind.spells lexeme.text = true := by
  induction lexemes with
  | nil => simp
  | cons first rest ih =>
      obtain ⟨⟨blank, spelled, _⟩, others⟩ := legible
      exact List.forall_mem_cons.mpr ⟨⟨blank, spelled⟩, ih others⟩

theorem Legible.spelled {follow : List Char} {lexemes : List Lexeme}
    (legible : Legible follow lexemes) :
    ∀ lexeme ∈ lexemes, lexeme.kind.spells lexeme.text = true :=
  fun lexeme member => (legible.each lexeme member).2

theorem spelled_of_scan {text : List Char} {scan : Scan} (scanned : scan? text = some scan)
    (lexeme : Lexeme) (member : lexeme ∈ scan.lexemes) :
    lexeme.kind.spells lexeme.text = true ∧ ∀ c ∈ lexeme.text, c ∈ text := by
  obtain ⟨source, legible, _⟩ := (scan?_eq_some_iff text scan).mp scanned
  refine ⟨legible.spelled lexeme member, fun c inside => ?_⟩
  rw [← source, Scan.source, List.mem_append, sourceOf, List.mem_flatMap]
  exact Or.inl ⟨lexeme, member, List.mem_append_right _ inside⟩

/-! Legible lists stay legible side by side, if the last lexeme ends before the next one. -/

/-- Whether every lexeme ends before the given text. -/
def Separates (text : List Char) : Prop :=
  ∀ kind : Kind, kind.EndsBefore text

@[simp] theorem separates_nil : Separates [] := by
  simp [Separates, Kind.EndsBefore]

theorem legible_append (follow : List Char) (left right : List Lexeme) :
    Legible follow (left ++ right) ↔
      Legible (sourceOf right ++ follow) left ∧ Legible follow right := by
  induction left with
  | nil => simp [Legible]
  | cons lexeme rest ih => simp [Legible, ih, and_assoc]

theorem Legible.extend {follow : List Char} {lexemes : List Lexeme}
    (legible : Legible follow lexemes) (more : List Char) (separates : Separates more) :
    Legible (follow ++ more) lexemes := by
  induction lexemes with
  | nil => trivial
  | cons lexeme rest ih =>
      obtain ⟨⟨blank, spelled, ends⟩, legible⟩ := legible
      refine ⟨⟨blank, spelled, ?_⟩, ih legible⟩
      intro c head
      rw [← List.append_assoc, List.head?_append] at head
      cases first : (sourceOf rest ++ follow).head? with
      | none =>
          rw [first] at head
          exact separates lexeme.kind c head
      | some d =>
          rw [first] at head
          obtain rfl : d = c := by simpa using head
          exact ends d (by simp [first])

theorem Legible.alone {follow : List Char} {lexemes : List Lexeme}
    (legible : Legible follow lexemes) : Legible [] lexemes := by
  induction lexemes with
  | nil => trivial
  | cons lexeme rest ih =>
      obtain ⟨⟨blank, spelled, ends⟩, legible⟩ := legible
      refine ⟨⟨blank, spelled, fun c head => ends c ?_⟩, ih legible⟩
      rw [List.append_nil] at head
      rw [List.head?_append, Option.mem_def.mp head]
      rfl

theorem Legible.left {follow : List Char} {left right : List Lexeme}
    (legible : Legible follow (left ++ right)) : Legible [] left :=
  ((legible_append follow left right).mp legible).1.alone

/-- The first lexemes of a text are what the text is read into when it ends behind them. -/
theorem scan?_initial {follow : List Char} {left right : List Lexeme}
    (legible : Legible follow (left ++ right)) : scan? (sourceOf left) = some ⟨left, []⟩ := by
  simpa using scan?_legible left [] legible.left rfl

theorem scan?_append (text rest : List Char) (lexemes : List Lexeme)
    (scanned : scan? text = some ⟨lexemes, []⟩) (separates : Separates rest) :
    scan? (text ++ rest) = (scan? rest).map (Scan.prepend lexemes) := by
  obtain ⟨source, legible, _⟩ := (scan?_eq_some_iff text _).mp scanned
  obtain rfl : sourceOf lexemes = text := by simpa [Scan.source] using source
  exact scan?_legible_append lexemes rest (legible.extend rest separates)

theorem scan?_append_some {text rest : List Char} {left right : List Lexeme}
    (scanned : scan? text = some ⟨left, []⟩) (separates : Separates rest)
    (scannedRest : scan? rest = some ⟨right, []⟩) :
    scan? (text ++ rest) = some ⟨left ++ right, []⟩ := by
  rw [scan?_append text rest left scanned separates, scannedRest]
  rfl

theorem scan?_indent (gap text : List Char) (scan : Scan) (blank : gap.all isGap = true)
    (scanned : scan? text = some scan) : scan? (gap ++ text) = some (scan.indent gap) := by
  obtain ⟨lexemes, trailing⟩ := scan
  obtain ⟨source, legible, blankTrailing⟩ := (scan?_eq_some_iff text _).mp scanned
  dsimp only at legible blankTrailing
  cases lexemes with
  | nil =>
      refine (scan?_eq_some_iff _ _).mpr ⟨?_, trivial, ?_⟩
      · simpa [Scan.source, Scan.indent] using source
      · rw [Scan.indent, List.all_append, blank, blankTrailing]
        rfl
  | cons first rest =>
      obtain ⟨⟨blankFirst, spelled, ends⟩, legible⟩ := legible
      refine (scan?_eq_some_iff _ _).mpr ⟨?_, ⟨⟨?_, spelled, ends⟩, legible⟩, blankTrailing⟩
      · rw [← source]
        simp [Scan.source, Scan.indent, Lexeme.source]
      · rw [List.all_append, blank, blankFirst]
        rfl

theorem scan?_append_indent {text rest : List Char} {scan next : Scan}
    (scanned : scan? text = some scan) (separates : Separates rest)
    (scannedRest : scan? rest = some next) :
    scan? (text ++ rest) = some ((next.indent scan.trailing).prepend scan.lexemes) := by
  obtain ⟨source, legible, blank⟩ := (scan?_eq_some_iff text _).mp scanned
  rw [← source, Scan.source, List.append_assoc,
    scan?_legible_append _ _ (legible.extend rest separates),
    scan?_indent scan.trailing rest next blank scannedRest]
  rfl

end Lexeme

end ClickHouse
