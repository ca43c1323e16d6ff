import ClickHouse.Proofs.Lexeme.Item

/-!
Texts side by side. Where two texts meet, a run of the first may go on in the second and a gap may
grow, but marks and quotes stay what they are: the lexemes of the kinds that no run can swallow
are those of the first text and then those of the second (`Scanner.chosenOf_append`).
-/

namespace ClickHouse

namespace Lexeme

def ungapped (lexeme : Lexeme) : Lexeme :=
  { lexeme with gap := [] }

/-- The lexemes of the chosen kinds, without the blanks before them. -/
def chosen (choice : Kind → Bool) (lexemes : List Lexeme) : List Lexeme :=
  (lexemes.filter fun lexeme => choice lexeme.kind).map ungapped

section

variable {choice : Kind → Bool} {lexeme : Lexeme} {left right : List Lexeme}

@[simp] theorem chosen_nil : chosen choice [] = [] := rfl

@[simp] theorem chosen_append :
    chosen choice (left ++ right) = chosen choice left ++ chosen choice right := by
  simp [chosen]

theorem chosen_cons_of_pos (isChosen : choice lexeme.kind = true) :
    chosen choice (lexeme :: right) = lexeme.ungapped :: chosen choice right := by
  simp [chosen, isChosen]

theorem chosen_cons_of_neg (passed : choice lexeme.kind = false) :
    chosen choice (lexeme :: right) = chosen choice right := by
  simp [chosen, passed]

end

/-- Whether a run that is not chosen hides nothing: what would prolong it starts a run that is not
chosen either. -/
def Transparent (choice : Kind → Bool) : Prop :=
  ∀ kind c, kind.isRun = true → choice kind = false → kind.prolongs c = true →
    ∃ next, Scanner.start [] c = ([], .run next [] [c]) ∧ next.isRun = true ∧ choice next = false

def Kind.isFirm (kind : Kind) : Bool :=
  !kind.isRun

def Kind.isTelling (kind : Kind) : Bool :=
  kind ≠ .symbol

theorem isRunPart_of_prolongs (kind : Kind) (c : Char) (longer : kind.prolongs c = true) :
    isRunPart c = true := by
  have ofWordPart (part : isWordPart c = true) : isRunPart c = true := by
    obtain ⟨notGap, notMark, notQuote⟩ := not_mark_of_isWordPart c part
    simp [isRunPart, notGap, notMark, notQuote]
  cases kind with
  | word => exact ofWordPart longer
  | number =>
      have digit : c.isDigit = true := longer
      exact ofWordPart (by simp [isWordPart_eq, digit])
  | symbol =>
      have symbol : isSymbolPart c = true := longer
      simp only [isSymbolPart, Bool.and_eq_true] at symbol
      simp [isRunPart, symbol]
  | _ => contradiction

theorem transparent_firm : Transparent Kind.isFirm := by
  intro kind c _ _ longer
  obtain ⟨next, started, isRun⟩ := start_run c (isRunPart_of_prolongs kind c longer)
  exact ⟨next, started, isRun, by simp [Kind.isFirm, isRun]⟩

theorem transparent_telling : Transparent Kind.isTelling := by
  intro kind c _ passed longer
  obtain rfl : kind = .symbol := by simpa [Kind.isTelling] using passed
  exact ⟨.symbol, Scanner.start_symbol [] c longer, rfl, rfl⟩

end Lexeme

namespace Scanner

open Lexeme

def Runs : Scanner → Prop
  | run kind _ _ => kind.isRun = true
  | _ => True

/-- The scanner without the gap before the lexeme it reads, and without a run that is not
chosen. -/
def forget (choice : Kind → Bool) : Scanner → Scanner
  | between _ => between []
  | run kind _ text => if choice kind then run kind [] text else between []
  | quote mark kind escaped _ text => quote mark kind escaped [] text
  | broken => broken

def chosenOf (choice : Kind → Bool) (scanner : Scanner) (text : List Char) : Option (List Lexeme) :=
  (scanner.read text).map fun scan => chosen choice scan.lexemes

theorem chosenOf_cons (choice : Kind → Bool) (scanner : Scanner) (c : Char) (rest : List Char) :
    scanner.chosenOf choice (c :: rest) = ((scanner.step c).2.chosenOf choice rest).map
      (chosen choice (scanner.step c).1 ++ ·) := by
  rw [chosenOf, read_cons, chosenOf, Option.map_map, Option.map_map]
  congr 1
  funext scan
  simp [Scan.prepend]

theorem start_runs (gap : List Char) (c : Char) : (start gap c).2.Runs := by
  unfold start
  repeat' split
  all_goals trivial

theorem step_runs (scanner : Scanner) (c : Char) (runs : scanner.Runs) :
    (scanner.step c).2.Runs := by
  match scanner with
  | between gap => exact start_runs gap c
  | run kind gap text =>
      rw [step]
      split
      · exact runs
      · exact start_runs [] c
  | quote mark kind true gap text =>
      rw [step]
      split <;> trivial
  | quote mark kind false gap text =>
      rw [step]
      split <;> trivial
  | broken => trivial

section

variable {choice : Kind → Bool}

theorem forget_runs (scanner : Scanner) (runs : scanner.Runs) : (scanner.forget choice).Runs := by
  cases scanner with
  | run kind gap text =>
      rw [forget]
      split
      · exact runs
      · trivial
  | _ => trivial

theorem start_forget (gap : List Char) (c : Char) :
    chosen choice (start gap c).1 = chosen choice (start [] c).1 ∧
      (start gap c).2.forget choice = (start [] c).2.forget choice := by
  unfold start
  repeat' split
  all_goals simp [chosen, forget, ungapped, List.filter_cons, apply_ite]

/-- One character: what is forgotten changes neither the chosen lexemes nor what is left of the
next scanner. -/
theorem step_forget (transparent : Transparent choice) (scanner : Scanner) (c : Char)
    (runs : scanner.Runs) :
    chosen choice (scanner.step c).1 = chosen choice ((scanner.forget choice).step c).1 ∧
      (scanner.step c).2.forget choice = ((scanner.forget choice).step c).2.forget choice := by
  match scanner with
  | between gap => exact start_forget gap c
  | run kind gap text =>
      cases isChosen : choice kind with
      | true =>
          rw [forget, if_pos isChosen, step, step]
          by_cases longer : kind.prolongs c = true
          · simp [longer, forget, isChosen]
          · simp [longer, chosen, isChosen, ungapped]
      | false =>
          rw [forget, isChosen, if_neg (by simp), step, step]
          by_cases longer : kind.prolongs c = true
          · obtain ⟨next, started, _, passed⟩ := transparent kind c runs isChosen longer
            simp [longer, started, forget, isChosen, passed]
          · simp [longer, chosen, isChosen]
  | quote mark kind true gap text =>
      by_cases lineFeed : c = '\n' <;> simp [forget, step, lineFeed]
  | quote mark kind false gap text =>
      by_cases closes : c = mark
      · by_cases isChosen : choice kind = true <;>
          simp [forget, step, closes, chosen, ungapped, isChosen]
      · simp [forget, step, closes]
  | broken => exact ⟨rfl, rfl⟩

theorem chosenOf_forget (transparent : Transparent choice) (text : List Char) (scanner : Scanner)
    (runs : scanner.Runs) :
    scanner.chosenOf choice text = (scanner.forget choice).chosenOf choice text := by
  induction text generalizing scanner with
  | nil =>
      cases scanner with
      | run kind gap text =>
          by_cases isChosen : choice kind = true <;>
            simp [chosenOf, read, forget, finish, chosen, ungapped, isChosen]
      | _ => rfl
  | cons c rest ih =>
      obtain ⟨finished, next⟩ := step_forget transparent scanner c runs
      rw [chosenOf_cons, chosenOf_cons, ih _ (step_runs scanner c runs),
        ih _ (step_runs _ c (forget_runs scanner runs)), finished, next]

/-- The chosen lexemes of two texts side by side, if no chosen run reaches into the second. -/
theorem chosenOf_append (transparent : Transparent choice) {left right : List Char}
    {scanner : Scanner} (runs : scanner.Runs) {lexemes : List Lexeme}
    (shown : scanner.chosenOf choice left = some lexemes)
    (ends : ∀ kind, choice kind = true → kind.EndsBefore right) :
    scanner.chosenOf choice (left ++ right) =
      ((between []).chosenOf choice right).map (lexemes ++ ·) := by
  induction left generalizing scanner lexemes with
  | nil =>
      cases scanner with
      | between gap =>
          obtain rfl : lexemes = [] := by simpa [chosenOf, read, finish, eq_comm] using shown
          rw [List.nil_append, chosenOf_forget transparent right _ runs]
          simp [forget]
      | run kind gap text =>
          by_cases isChosen : choice kind = true
          · obtain rfl : [⟨[], kind, text⟩] = lexemes := by
              simpa [chosenOf, read, finish, chosen, isChosen, ungapped] using shown
            rw [List.nil_append, chosenOf, read_run_end kind gap text right (ends kind isChosen),
              Option.map_map, chosenOf, Option.map_map]
            congr 1
            funext scan
            simp [Scan.prepend, chosen, isChosen, ungapped]
          · obtain rfl : [] = lexemes := by
              simpa [chosenOf, read, finish, chosen, isChosen] using shown
            rw [List.nil_append, chosenOf_forget transparent right _ runs]
            simp [forget, isChosen]
      | quote | broken => simp [chosenOf, read, finish] at shown
  | cons c rest ih =>
      rw [chosenOf_cons, Option.map_eq_some_iff] at shown
      obtain ⟨others, shownRest, rfl⟩ := shown
      rw [List.cons_append, chosenOf_cons, ih (step_runs scanner c runs) shownRest, Option.map_map]
      congr 1
      funext more
      simp

end

end Scanner

namespace Lexeme

/-- The chosen lexemes of a text. -/
def HasChosen (choice : Kind → Bool) (text : List Char) (lexemes : List Lexeme) : Prop :=
  (Scanner.between []).chosenOf choice text = some lexemes

namespace HasChosen

variable {choice : Kind → Bool} {text left right : List Char} {lexemes others : List Lexeme}

theorem of_scan {scan : Scan} (scanned : scan? text = some scan) :
    HasChosen choice text (chosen choice scan.lexemes) := by
  rw [HasChosen, Scanner.chosenOf]
  exact congrArg (Option.map _) scanned

theorem scanned (found : HasChosen choice text lexemes) :
    ∃ scan, scan? text = some scan ∧ chosen choice scan.lexemes = lexemes := by
  simpa [HasChosen, Scanner.chosenOf, scan?, Option.map_eq_some_iff] using found

theorem append (transparent : Transparent choice) (found : HasChosen choice left lexemes)
    (following : HasChosen choice right others)
    (ends : ∀ kind, choice kind = true → kind.EndsBefore right) :
    HasChosen choice (left ++ right) (lexemes ++ others) := by
  have runs : (Scanner.between []).Runs := trivial
  rw [HasChosen, Scanner.chosenOf_append transparent runs found ends, following]
  rfl

theorem nil : HasChosen choice [] [] := rfl

section

variable {c : Char} {kind : Kind}

theorem gap (transparent : Transparent choice) (blank : isGap c = true)
    (found : HasChosen choice text lexemes) : HasChosen choice (c :: text) lexemes := by
  have runs : (Scanner.between [c]).Runs := trivial
  rw [HasChosen, Scanner.chosenOf_cons, Scanner.step, Scanner.start_gap [] c blank, List.nil_append,
    Scanner.chosenOf_forget transparent text _ runs]
  exact congrArg (Option.map _) found

theorem mark (isMark : markKind? c = some kind) (isChosen : choice kind = true)
    (found : HasChosen choice text lexemes) :
    HasChosen choice (c :: text) (⟨[], kind, [c]⟩ :: lexemes) := by
  rw [HasChosen, Scanner.chosenOf_cons, Scanner.step, Scanner.start_mark [] c kind isMark,
    chosen_cons_of_pos isChosen]
  exact congrArg (Option.map _) found

theorem passed (transparent : Transparent choice)
    (started : Scanner.start [] c = ([], .run kind [] [c])) (isRun : kind.isRun = true)
    (isPassed : choice kind = false) (found : HasChosen choice text lexemes) :
    HasChosen choice (c :: text) lexemes := by
  have runs : (Scanner.run kind [] [c]).Runs := isRun
  have forgotten : (Scanner.run kind [] [c]).forget choice = .between [] := by
    simp [Scanner.forget, isPassed]
  rw [HasChosen, Scanner.chosenOf_cons, Scanner.step, started,
    Scanner.chosenOf_forget transparent text _ runs, forgotten]
  exact congrArg (Option.map _) found

end

end HasChosen

end Lexeme

end ClickHouse
