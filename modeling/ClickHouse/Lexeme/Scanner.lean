import ClickHouse.Lexeme

/-!
The scanner reads a text one character at a time. Runs of word characters, of digits and of
symbol characters are as long as they can be; a quote runs to its closing mark. Every character
ends up in a lexeme or in a gap (`scan_source`).
-/

namespace ClickHouse

namespace Lexeme

def isGap (c : Char) : Bool :=
  c = ' ' || c = '\t' || c = '\n' || c = '\r' || c = '\x0c'

def isWordStart (c : Char) : Bool :=
  c.isAlpha || c = '_'

def isWordPart (c : Char) : Bool :=
  c.isAlphanum || c = '_'

def markKind? (c : Char) : Option Kind :=
  if c = '(' then some .openRound
  else if c = ')' then some .closeRound
  else if c = '[' then some .openSquare
  else if c = ']' then some .closeSquare
  else if c = ',' then some .comma
  else if c = '=' then some .equals
  else none

def quoteKind? (c : Char) : Option Kind :=
  if c = '\x27' then some .literal
  else if c = '\x60' || c = '\x22' then some .quoted
  else none

def isSymbolPart (c : Char) : Bool :=
  !isGap c && !isWordPart c && (markKind? c).isNone && (quoteKind? c).isNone

def Kind.prolongs : Kind → Char → Bool
  | .word, c => isWordPart c
  | .number, c => c.isDigit
  | .symbol, c => isSymbolPart c
  | _, _ => false

end Lexeme

/-- What the scanner has read since the last finished lexeme. -/
inductive Scanner where
  | between (gap : List Char)
  | run (kind : Lexeme.Kind) (gap text : List Char)
  | quote (mark : Char) (kind : Lexeme.Kind) (escaped : Bool) (gap text : List Char)
  | broken
  deriving DecidableEq, Repr, Inhabited

namespace Scanner

open Lexeme

/-- Starts a lexeme with `c`, or adds `c` to the gap. -/
def start (gap : List Char) (c : Char) : List Lexeme × Scanner :=
  if isGap c then ([], between (gap ++ [c]))
  else if isWordStart c then ([], run .word gap [c])
  else if c.isDigit then ([], run .number gap [c])
  else
    match markKind? c with
    | some kind => ([⟨gap, kind, [c]⟩], between [])
    | none =>
      match quoteKind? c with
      | some kind => ([], quote c kind false gap [c])
      | none => ([], run .symbol gap [c])

/-- Reads one character: the lexemes that it finishes and the scanner after it. A quote between
grave accents knows no escapes; elsewhere a backslash takes any character but a line feed. -/
def step : Scanner → Char → List Lexeme × Scanner
  | between gap, c => start gap c
  | run kind gap text, c =>
    if kind.prolongs c then ([], run kind gap (text ++ [c]))
    else
      let (finished, next) := start [] c
      (⟨gap, kind, text⟩ :: finished, next)
  | quote mark kind true gap text, c =>
    if c = '\n' then ([], broken) else ([], quote mark kind false gap (text ++ [c]))
  | quote mark kind false gap text, c =>
    if c = mark then ([⟨gap, kind, text ++ [c]⟩], between [])
    else ([], quote mark kind (c = '\\' && mark ≠ '\x60') gap (text ++ [c]))
  | broken, _ => ([], broken)

/-- The end of the input: none inside a quote. -/
def finish : Scanner → Option Scan
  | between gap => some ⟨[], gap⟩
  | run kind gap text => some ⟨[⟨gap, kind, text⟩], []⟩
  | quote _ _ _ _ _ => none
  | broken => none

def read : Scanner → List Char → Option Scan
  | scanner, [] => scanner.finish
  | scanner, c :: rest =>
    let (finished, next) := scanner.step c
    match next.read rest with
    | none => none
    | some scan => some ⟨finished ++ scan.lexemes, scan.trailing⟩

def held : Scanner → List Char
  | between gap => gap
  | run _ gap text => gap ++ text
  | quote _ _ _ gap text => gap ++ text
  | broken => []

theorem start_source (gap : List Char) (c : Char) :
    sourceOf (start gap c).1 ++ (start gap c).2.held = gap ++ [c] := by
  unfold start
  split
  · simp [held]
  split
  · simp [held]
  split
  · simp [held]
  split
  · simp [held, source]
  split <;> simp [held]

theorem step_source (scanner : Scanner) (c : Char) (whole : (scanner.step c).2 ≠ broken) :
    sourceOf (scanner.step c).1 ++ (scanner.step c).2.held = scanner.held ++ [c] := by
  match scanner with
  | between gap => exact start_source gap c
  | run kind gap text =>
      simp only [step]
      split
      · simp [held]
      · have started := start_source [] c
        simp only [List.nil_append] at started
        rw [sourceOf_cons, List.append_assoc, started]
        simp [held, source]
  | quote mark kind true gap text =>
      simp only [step] at whole ⊢
      split
      · rename_i lineFeed
        simp [lineFeed] at whole
      · simp [held]
  | quote mark kind false gap text =>
      simp only [step]
      split <;> simp [held, source]
  | broken => simp [step] at whole

theorem read_broken (text : List Char) : read broken text = none := by
  induction text with
  | nil => rfl
  | cons c rest ih => simp [read, step, ih]

theorem read_source (scanner : Scanner) (text : List Char) (scan : Scan)
    (done : scanner.read text = some scan) : scan.source = scanner.held ++ text := by
  induction text generalizing scanner scan with
  | nil =>
      cases scanner <;> simp [read, finish] at done <;> subst done <;>
        simp [Scan.source, held, source]
  | cons c rest ih =>
      simp only [read] at done
      cases tail : (scanner.step c).2.read rest with
      | none => simp [tail] at done
      | some inner =>
          simp only [tail, Option.some.injEq] at done
          subst done
          have whole : (scanner.step c).2 ≠ broken := by
            intro same
            rw [same, read_broken] at tail
            contradiction
          have stepped := step_source scanner c whole
          have rest' := ih _ _ tail
          simp only [Scan.source] at rest' ⊢
          simp only [sourceOf_append, List.append_assoc, rest']
          rw [← List.append_assoc, stepped]
          simp

end Scanner

namespace Lexeme

/-- The lexemes of a text; none if a quote stays open. -/
def scan? (text : List Char) : Option Scan :=
  (Scanner.between []).read text

theorem scan_source (text : List Char) (scan : Scan) (done : scan? text = some scan) :
    scan.source = text := by
  simpa [Scanner.held] using Scanner.read_source _ text scan done

end Lexeme

end ClickHouse
