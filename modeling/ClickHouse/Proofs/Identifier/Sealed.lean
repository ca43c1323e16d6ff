import ClickHouse.Proofs.Identifier.Distinct
import ClickHouse.Proofs.Lexeme.Seam

/-!
Written names and the quotes that they open. A sealed name is read as words or quoted lexemes that
end with it (`scan?_sealed`). In any other name a backslash takes a mark or a line feed: a quote
stays open behind it, and neither plain text nor further names close it for good
(`Scanner.Inside`).
-/

namespace ClickHouse

open Lexeme

namespace Identifier

/-- Whether no backslash takes a mark or a line feed in what is left of a name. -/
def sealedFrom (mark : Char) : Bool → List Char → Bool
  | escaped, [] => !escaped
  | true, c :: rest => c ≠ mark && c ≠ '\n' && sealedFrom mark false rest
  | false, c :: rest => sealedFrom mark (c = '\\' && mark ≠ '\x60') rest

/-- Whether a name between marks ends at its last mark. -/
def isSealed (style : QuoteStyle) (name : String) : Bool :=
  sealedFrom style.mark false name.toList

theorem sealedFrom_of_free (mark : Char) (name : List Char) (free : ∀ c ∈ name, c ≠ '\\') :
    sealedFrom mark false name = true := by
  induction name with
  | nil => rfl
  | cons c rest ih =>
      obtain ⟨first, others⟩ := List.forall_mem_cons.mp free
      simp [sealedFrom, first, ih others]

theorem not_backslash_of_isPlainChar (c : Char) (plain : isPlainChar c = true) : c ≠ '\\' := by
  rintro rfl
  revert plain
  decide

theorem isSealed_bare (style : QuoteStyle) (name : String) (bare : requiresQuotes name = false) :
    isSealed style name = true := by
  obtain ⟨-, plain⟩ := isPlainChar_of_not_requiresQuotes name bare
  exact sealedFrom_of_free _ _ fun c member =>
    not_backslash_of_isPlainChar c (List.all_eq_true.mp plain c member)

end Identifier

namespace Scanner

def after (scanner : Scanner) (text : List Char) : Scanner :=
  text.foldl (fun scanner c => (scanner.step c).2) scanner

section

variable {scanner : Scanner} {c : Char} {text more : List Char}

@[simp] theorem after_nil : scanner.after [] = scanner := rfl

@[simp] theorem after_cons : scanner.after (c :: text) = (scanner.step c).2.after text := rfl

@[simp] theorem after_append : scanner.after (text ++ more) = (scanner.after text).after more :=
  List.foldl_append

end

def Settled : Scanner → Prop
  | between _ | run _ _ _ => True
  | _ => False

/-- In a quote that its next mark would end, or past a broken one. -/
def Inside : Scanner → Prop
  | quote mark _ escaped _ _ => quoteKind? mark ≠ none ∧ escaped = false
  | broken => True
  | _ => False

def Outside (mark : Char) : Scanner → Prop
  | quote other _ _ _ _ => quoteKind? other ≠ none ∧ other ≠ mark
  | _ => True

theorem isSome_read_iff (scanner : Scanner) (text : List Char) :
    (scanner.read text).isSome = true ↔ (scanner.after text).Settled := by
  induction text generalizing scanner with
  | nil => cases scanner <;> simp [read, finish, Settled]
  | cons c rest ih => rw [read_cons, Option.isSome_map, ih, after_cons]

theorem Inside.not_settled {scanner : Scanner} (inside : scanner.Inside) : ¬scanner.Settled := by
  cases scanner <;> simp_all [Inside, Settled]

/-- Whether a character neither opens a quote nor escapes one. -/
def isCalm (c : Char) : Bool :=
  (quoteKind? c).isNone && c ≠ '\\'

theorem settled_start (gap : List Char) (c : Char) (noQuote : quoteKind? c = none) :
    (start gap c).2.Settled := by
  unfold start
  simp only [noQuote]
  repeat' split
  all_goals trivial

theorem settled_step {scanner : Scanner} {c : Char} (settled : scanner.Settled)
    (calm : isCalm c = true) : (scanner.step c).2.Settled := by
  have noQuote : quoteKind? c = none := by
    simp only [isCalm, Bool.and_eq_true, Option.isNone_iff_eq_none] at calm
    exact calm.1
  cases scanner with
  | between gap => exact settled_start gap c noQuote
  | run kind gap text =>
      rw [step]
      split
      · trivial
      · exact settled_start [] c noQuote
  | quote | broken => contradiction

theorem inside_step {scanner : Scanner} {c : Char} (inside : scanner.Inside)
    (calm : isCalm c = true) : (scanner.step c).2.Inside := by
  simp only [isCalm, Bool.and_eq_true, Option.isNone_iff_eq_none, decide_eq_true_eq] at calm
  cases scanner with
  | quote mark kind escaped gap text =>
      obtain ⟨isQuote, rfl⟩ := inside
      have other : c ≠ mark := by
        rintro rfl
        exact isQuote calm.1
      simp [step, other, Inside, isQuote, calm.2]
  | broken => trivial
  | between | run => contradiction

theorem after_calm {Holds : Scanner → Prop}
    (kept : ∀ {scanner c}, Holds scanner → isCalm c = true → Holds (scanner.step c).2)
    {scanner : Scanner} (holds : Holds scanner) (text : List Char) (calm : text.all isCalm = true) :
    Holds (scanner.after text) := by
  induction text generalizing scanner with
  | nil => exact holds
  | cons c rest ih =>
      rw [List.all_cons, Bool.and_eq_true] at calm
      exact ih (kept holds calm.1) calm.2

theorem isCalm_of_isPlainChar (c : Char) (plain : Identifier.isPlainChar c = true) :
    isCalm c = true := by
  have part := (isPlainChar_cases c plain).1
  simp only [isRunPart, Bool.and_eq_true] at part
  simp [isCalm, part.2, Identifier.not_backslash_of_isPlainChar c plain]

section

variable {mark : Char} {kind : Kind} (quotes : quoteKind? mark = some kind)

include quotes

theorem mark_ne : mark ≠ '\\' ∧ mark ≠ '\n' := by
  constructor <;>
    · rintro rfl
      contradiction

theorem step_mark {scanner : Scanner} (settled : scanner.Settled) :
    ∃ gap, (scanner.step mark).2 = quote mark kind false gap [mark] := by
  cases scanner with
  | between gap => exact ⟨gap, by rw [step, start_quote gap mark kind quotes]⟩
  | run other gap text =>
      have ends : other.prolongs mark = false := by
        obtain ⟨-, notWord, notDigit, -⟩ := quoteKind?_isSome mark kind quotes
        cases other <;> simp [Kind.prolongs, isWordPart_eq, isSymbolPart, notWord, notDigit, quotes]
      exact ⟨[], by simp [step, ends, start_quote [] mark kind quotes]⟩
  | quote | broken => contradiction

theorem inside_mark {scanner : Scanner} (outside : scanner.Outside mark) :
    (scanner.step mark).2.Inside := by
  have opened (settled : scanner.Settled) : (scanner.step mark).2.Inside := by
    obtain ⟨gap, opens⟩ := step_mark quotes settled
    rw [opens]
    exact ⟨by simp [quotes], rfl⟩
  obtain ⟨notEscape, notLineFeed⟩ := mark_ne quotes
  match scanner with
  | between _ | run _ _ _ => exact opened trivial
  | quote other _ true _ _ => simp [step, notLineFeed, Inside, outside.1]
  | quote other _ false _ _ => simp [step, outside.2.symm, notEscape, Inside, outside.1]
  | broken => trivial

omit quotes in
theorem outside_mark {scanner : Scanner} (inside : scanner.Inside) :
    (scanner.step mark).2.Outside mark := by
  cases scanner with
  | quote other kind escaped gap text =>
      obtain ⟨isQuote, rfl⟩ := inside
      by_cases same : mark = other
      · simp [step, same, Outside]
      · simp [step, same, Outside, isQuote, Ne.symm same]
  | broken => trivial
  | between | run => contradiction

omit quotes in
theorem outside_start (gap : List Char) (c : Char) (other : c ≠ mark) :
    (start gap c).2.Outside mark := by
  unfold start
  repeat' split
  all_goals simp_all [Outside]

omit quotes in
theorem outside_step {scanner : Scanner} {c : Char} (outside : scanner.Outside mark)
    (other : c ≠ mark) : (scanner.step c).2.Outside mark := by
  match scanner with
  | between gap => exact outside_start gap c other
  | run kind gap text =>
      rw [step]
      split
      · trivial
      · exact outside_start [] c other
  | quote _ _ true _ _ =>
      rw [step]
      split
      · trivial
      · exact outside
  | quote _ _ false _ _ =>
      rw [step]
      split
      · trivial
      · exact outside
  | broken => trivial

theorem outside_doubled {scanner : Scanner} (outside : scanner.Outside mark) (name : List Char) :
    (scanner.after (Identifier.doubled mark name)).Outside mark := by
  induction name generalizing scanner with
  | nil => exact outside
  | cons c rest ih =>
      by_cases same : c = mark
      · rw [same, Identifier.doubled_cons_mark, after_cons, after_cons]
        exact ih (outside_mark (inside_mark quotes outside))
      · rw [Identifier.doubled_cons same, after_cons]
        exact ih (outside_step outside same)

/-- A name whose last mark does not end it leaves a quote open. -/
theorem inside_unsealed (name : List Char) (escaped : Bool) (gap text : List Char)
    (leaks : Identifier.sealedFrom mark escaped name = false) :
    ((quote mark kind escaped gap text).after (Identifier.doubled mark name ++ [mark])).Inside := by
  obtain ⟨notEscape, notLineFeed⟩ := mark_ne quotes
  -- once out of step with the marks, the scanner takes the last one for an opening mark
  have lost {scanner : Scanner} (outside : scanner.Outside mark) (name : List Char) :
      (scanner.after (Identifier.doubled mark name ++ [mark])).Inside := by
    rw [after_append]
    exact inside_mark quotes (outside_doubled quotes outside name)
  induction name generalizing escaped gap text with
  | nil =>
      obtain rfl : escaped = true := by simpa [Identifier.sealedFrom] using leaks
      simp [step, notLineFeed, Inside, quotes]
  | cons c rest ih =>
      by_cases same : c = mark
      · subst same
        rw [Identifier.doubled_cons_mark, List.cons_append, List.cons_append, after_cons, after_cons]
        cases escaped with
        | true => exact lost (by simp [step, notLineFeed, Outside]) rest
        | false =>
            have reopened : ((quote c kind false gap text).step c).2 = between [] := by simp [step]
            rw [reopened, step, start_quote [] c kind quotes]
            exact ih false _ _ (by simpa [Identifier.sealedFrom, notEscape] using leaks)
      · rw [Identifier.doubled_cons same, List.cons_append, after_cons]
        cases escaped with
        | true =>
            by_cases lineFeed : c = '\n'
            · exact lost (by simp [step, lineFeed, Outside]) rest
            · rw [step, if_neg lineFeed]
              exact ih false _ _ (by simpa [Identifier.sealedFrom, same, lineFeed] using leaks)
        | false =>
            rw [step, if_neg same]
            exact ih _ _ _ leaks

theorem read_sealed (name : List Char) (escaped : Bool) (gap text : List Char)
    (isSealed : Identifier.sealedFrom mark escaped name = true) :
    ∃ lexemes, (∀ lexeme ∈ lexemes, lexeme.kind = kind) ∧ ∀ rest,
      (quote mark kind escaped gap text).read (Identifier.doubled mark name ++ mark :: rest) =
        ((between []).read rest).map (Scan.prepend lexemes) := by
  obtain ⟨notEscape, -⟩ := mark_ne quotes
  -- a doubled mark ends one lexeme and begins the next, so gap and text start anew
  induction name generalizing escaped gap text with
  | nil =>
      obtain rfl : escaped = false := by simpa [Identifier.sealedFrom] using isSealed
      refine ⟨[⟨gap, kind, text ++ [mark]⟩], by simp, fun rest => ?_⟩
      simp [read_cons, step]
  | cons c others ih =>
      cases escaped with
      | true =>
          simp only [Identifier.sealedFrom, Bool.and_eq_true, decide_eq_true_eq] at isSealed
          obtain ⟨⟨other, notLineFeed⟩, isSealed⟩ := isSealed
          obtain ⟨lexemes, each, read⟩ := ih false gap (text ++ [c]) isSealed
          refine ⟨lexemes, each, fun rest => ?_⟩
          rw [Identifier.doubled_cons other, List.cons_append, read_cons, step, if_neg notLineFeed,
            Scan.map_prepend_nil]
          exact read rest
      | false =>
          by_cases same : c = mark
          · subst same
            obtain ⟨lexemes, each, read⟩ := ih false [] [c] (by
              simpa [Identifier.sealedFrom, notEscape] using isSealed)
            refine ⟨⟨gap, kind, text ++ [c]⟩ :: lexemes, by simpa using each, fun rest => ?_⟩
            rw [Identifier.doubled_cons_mark, List.cons_append, List.cons_append, read_cons, step,
              if_pos rfl, read_cons, step, start_quote [] c kind quotes, Scan.map_prepend_nil,
              read, Option.map_map]
            rfl
          · obtain ⟨lexemes, each, read⟩ := ih _ gap (text ++ [c]) isSealed
            refine ⟨lexemes, each, fun rest => ?_⟩
            rw [Identifier.doubled_cons same, List.cons_append, read_cons, step, if_neg same,
              Scan.map_prepend_nil]
            exact read rest

end

section

variable {scanner : Scanner} (style : QuoteStyle) (name : String)

theorem quoteKind?_style : quoteKind? style.mark = some .quoted := by
  cases style <;> rfl

theorem inside_reference (inside : scanner.Inside) :
    (scanner.after (Identifier.reference style name).toList).Inside := by
  cases quoted : Identifier.requiresQuotes name with
  | true =>
      rw [Identifier.toList_reference_quoted style name quoted, after_cons, after_append]
      have quotes := quoteKind?_style style
      exact inside_mark quotes (outside_doubled quotes (outside_mark inside) _)
  | false =>
      obtain ⟨-, plain⟩ := Identifier.isPlainChar_of_not_requiresQuotes name quoted
      rw [Identifier.reference_bare style name quoted]
      exact after_calm inside_step inside _ (List.all_eq_true.mpr fun c member =>
        isCalm_of_isPlainChar c (List.all_eq_true.mp plain c member))

theorem settled_reference (settled : scanner.Settled)
    (isSealed : Identifier.isSealed style name = true) :
    (scanner.after (Identifier.reference style name).toList).Settled := by
  cases quoted : Identifier.requiresQuotes name with
  | true =>
      have quotes := quoteKind?_style style
      obtain ⟨gap, opens⟩ := step_mark quotes settled
      obtain ⟨lexemes, -, read⟩ := read_sealed quotes name.toList false gap _ isSealed
      rw [Identifier.toList_reference_quoted style name quoted, after_cons, opens,
        ← isSome_read_iff, read]
      rfl
  | false =>
      obtain ⟨-, plain⟩ := Identifier.isPlainChar_of_not_requiresQuotes name quoted
      rw [Identifier.reference_bare style name quoted]
      exact after_calm settled_step settled _ (List.all_eq_true.mpr fun c member =>
        isCalm_of_isPlainChar c (List.all_eq_true.mp plain c member))

theorem inside_unsealed_reference (settled : scanner.Settled)
    (leaks : Identifier.isSealed style name = false) :
    (scanner.after (Identifier.reference style name).toList).Inside := by
  have quoted : Identifier.requiresQuotes name = true := by
    cases isQuoted : Identifier.requiresQuotes name with
    | true => rfl
    | false =>
        rw [Identifier.isSealed_bare style name isQuoted] at leaks
        contradiction
  have quotes := quoteKind?_style style
  obtain ⟨gap, opens⟩ := step_mark quotes settled
  rw [Identifier.toList_reference_quoted style name quoted, after_cons, opens]
  exact inside_unsealed quotes name.toList false gap _ leaks

end

end Scanner

theorem Identifier.scan?_reference_quoted (style : QuoteStyle) (name : String)
    (quoted : requiresQuotes name = true) (isSealed : isSealed style name = true) :
    ∃ lexemes, scan? (reference style name).toList = some ⟨lexemes, []⟩ ∧
      ∀ lexeme ∈ lexemes, lexeme.kind = .quoted := by
  have quotes := Scanner.quoteKind?_style style
  obtain ⟨lexemes, each, read⟩ := Scanner.read_sealed quotes name.toList false [] [style.mark]
    isSealed
  refine ⟨lexemes, ?_, each⟩
  rw [toList_reference_quoted style name quoted, scan?, Scanner.read_cons, Scanner.step,
    Scanner.start_quote [] _ _ quotes, Scan.map_prepend_nil, read]
  simp [Scanner.read, Scanner.finish, Scan.prepend]

theorem Identifier.scan?_unsealed (style : QuoteStyle) (name : String)
    (leaks : isSealed style name = false) : scan? (reference style name).toList = none := by
  have inside : ((Scanner.between []).after (reference style name).toList).Inside :=
    Scanner.inside_unsealed_reference style name trivial leaks
  have unread := inside.not_settled
  rw [← Scanner.isSome_read_iff] at unread
  simpa [scan?] using unread

theorem Identifier.scan?_sealed (style : QuoteStyle) (name : String)
    (isSealed : isSealed style name = true) :
    ∃ lexemes, scan? (reference style name).toList = some ⟨lexemes, []⟩ ∧
      ∀ lexeme ∈ lexemes, lexeme.kind.opens = false ∧ lexeme.kind.closes = false := by
  cases quoted : requiresQuotes name with
  | true =>
      obtain ⟨lexemes, scanned, each⟩ := scan?_reference_quoted style name quoted isSealed
      exact ⟨lexemes, scanned, fun lexeme member => by
        simp [each lexeme member, Kind.opens, Kind.closes]⟩
  | false =>
      obtain ⟨nonempty, plain⟩ := isPlainChar_of_not_requiresQuotes name quoted
      rw [reference_bare style name quoted]
      obtain ⟨lexemes, -, scanned, runs⟩ := scan?_runs name.toList (by simpa using nonempty)
        (List.all_eq_true.mpr fun c member =>
          (isPlainChar_cases c (List.all_eq_true.mp plain c member)).1)
      refine ⟨lexemes, scanned, fun lexeme member => ?_⟩
      have isRun := runs lexeme member
      revert isRun
      cases lexeme.kind <;> decide

theorem Placeholder.toList_protect (text : String) :
    (protect text).toList = Identifier.doubled '%' text.toList := by
  rw [protect, String.toList_ofList, Identifier.doubled]
  congr 1
  funext c
  by_cases percent : c = '%' <;> simp [percent]

namespace Identifier

theorem doubled_comm (mark other : Char) (name : List Char) :
    doubled mark (doubled other name) = doubled other (doubled mark name) := by
  induction name with
  | nil => rfl
  | cons c rest ih =>
      by_cases isMark : c = mark <;> by_cases isOther : c = other <;>
        simp_all [doubled]

theorem sealedFrom_doubled {mark other : Char}
    (free : other ≠ mark ∧ other ≠ '\\' ∧ other ≠ '\n') (name : List Char) (escaped : Bool) :
    sealedFrom mark escaped (doubled other name) = sealedFrom mark escaped name := by
  obtain ⟨notMark, notEscape, notLineFeed⟩ := free
  induction name generalizing escaped with
  | nil => rfl
  | cons c rest ih =>
      by_cases same : c = other
      · subst same
        cases escaped <;> simp [sealedFrom, notMark, notEscape, notLineFeed, ih]
      · cases escaped <;> simp [doubled_cons same, sealedFrom, ih]

theorem isSealed_protect (style : QuoteStyle) (name : String) :
    isSealed style (Placeholder.protect name) = isSealed style name := by
  rw [isSealed, Placeholder.toList_protect]
  exact sealedFrom_doubled (by cases style <;> decide) _ _

theorem requiresQuotes_protect (name : String) :
    requiresQuotes (Placeholder.protect name) = requiresQuotes name := by
  by_cases percent : '%' ∈ name.toList
  · have required (name : String) (member : '%' ∈ name.toList) : requiresQuotes name = true := by
      cases quoted : requiresQuotes name with
      | true => rfl
      | false =>
          obtain ⟨-, plain⟩ := isPlainChar_of_not_requiresQuotes name quoted
          exact absurd (List.all_eq_true.mp plain '%' member) (by decide)
    rw [required name percent, required]
    rw [Placeholder.toList_protect, doubled, List.mem_flatMap]
    exact ⟨'%', percent, by simp⟩
  · rw [Placeholder.protect_of_free name fun c member same => percent (same ▸ member)]

/-- In a statement with placeholders a name is written as the name with its percent signs
doubled. -/
theorem quote_eq (style : QuoteStyle) (name : String) :
    quote style name = reference style (Placeholder.protect name) := by
  apply String.toList_injective
  rw [quote, Placeholder.toList_protect]
  have required := requiresQuotes_protect name
  cases quoted : requiresQuotes name with
  | true =>
      rw [quoted] at required
      have notPercent : style.mark ≠ '%' := by cases style <;> decide
      rw [toList_reference_quoted style name quoted, toList_reference_quoted style _ required,
        Placeholder.toList_protect, doubled_comm style.mark]
      simp [doubled, notPercent]
  | false =>
      rw [quoted] at required
      rw [reference_bare style name quoted, reference_bare style _ required,
        Placeholder.toList_protect]

end Identifier

end ClickHouse
