import ClickHouse.Proofs.Identifier.Sealed
import ClickHouse.Proofs.Lexeme.Contained
import ClickHouse.Proofs.Lexeme.Written

/-!
Quoted names as lexemes. In a sealed name a doubled mark ends one quoted lexeme and begins the
next, so a name is one lexeme when no mark is in it (`Identifier.scan_quote_iff`).
-/

namespace ClickHouse

open Lexeme

theorem Lexeme.scan?_eq_single_iff (kind : Kind) (text : List Char) :
    scan? text = some ⟨[⟨[], kind, text⟩], []⟩ ↔ kind.spells text = true := by
  constructor
  · intro scanned
    exact (spelled_of_scan scanned _ List.mem_cons_self).1
  · exact scan?_spells kind text

namespace Identifier

theorem mem_doubled_iff {mark c : Char} (name : List Char) : c ∈ doubled mark name ↔ c ∈ name := by
  induction name with
  | nil => rfl
  | cons d rest ih =>
      by_cases same : d = mark
      · rw [same, doubled_cons_mark]
        simp [ih]
      · rw [doubled_cons same]
        simp [ih]

/-- The mark behind a name closes it, and none before it does, exactly when the name has no mark
and no backslash takes what ends it. -/
theorem closesWith_doubled_iff (mark : Char) (escaped : Bool) (name : List Char) :
    closesWith mark escaped (doubled mark name ++ [mark]) = true ↔
      mark ∉ name ∧ sealedFrom mark escaped name = true := by
  induction name generalizing escaped with
  | nil => cases escaped <;> simp [doubled, closesWith, sealedFrom]
  | cons c rest ih =>
      by_cases same : c = mark
      · subst same
        have closesEarly : closesWith c escaped (c :: c :: (doubled c rest ++ [c])) = false := by
          cases escaped <;> simp [closesWith]
        rw [doubled_cons_mark, List.cons_append, List.cons_append, closesEarly]
        simp
      · have absent : mark ∉ c :: rest ↔ mark ∉ rest := by
          simp [Ne.symm same]
        rw [doubled_cons same, List.cons_append, absent]
        cases escaped with
        | true =>
            by_cases lineFeed : c = '\n'
            · simp [closesWith, sealedFrom, lineFeed]
            · simp [closesWith, sealedFrom, lineFeed, same, ih]
        | false =>
            rw [closesWith, if_neg same, sealedFrom]
            exact ih _

theorem scan?_reference_eq_single_iff (style : QuoteStyle) (name : String)
    (quoted : requiresQuotes name = true) :
    scan? (reference style name).toList =
        some ⟨[⟨[], .quoted, (reference style name).toList⟩], []⟩ ↔
      style.mark ∉ name.toList ∧ isSealed style name = true := by
  rw [scan?_eq_single_iff, toList_reference_quoted style name quoted, isSealed,
    ← closesWith_doubled_iff]
  simp [Kind.spells, Scanner.quoteKind?_style style]

/-- A name in quotes is one lexeme exactly when no mark of the quotes stands in it and it is sealed.
A sealed name is read as quoted lexemes and nothing else; any other one leaves a quote open. -/
theorem scan_quote_iff (style : QuoteStyle) (name : String)
    (quoted : requiresQuotes name = true) :
    (Lexeme.scan (quote style name) = .ok ⟨[⟨[], .quoted, (quote style name).toList⟩], []⟩ ↔
        style.mark ∉ name.toList ∧ isSealed style name = true) ∧
      (isSealed style name = true → ∃ lexemes,
        Lexeme.scan (quote style name) = .ok ⟨lexemes, []⟩ ∧
          ∀ lexeme ∈ lexemes, lexeme.kind = .quoted) ∧
      (isSealed style name = false →
        Lexeme.scan (quote style name) = .error (.unterminated (quote style name))) := by
  have protectedQuoted : requiresQuotes (Placeholder.protect name) = true := by
    rw [requiresQuotes_protect, quoted]
  have sameMarks : style.mark ∉ (Placeholder.protect name).toList ↔ style.mark ∉ name.toList := by
    rw [Placeholder.toList_protect, mem_doubled_iff]
  rw [quote_eq, ← isSealed_protect, ← sameMarks]
  refine ⟨?_, ?_, ?_⟩
  · rw [← scan?_reference_eq_single_iff style _ protectedQuoted]
    constructor
    · exact scan?_of_scan
    · exact scan_of_scan?
  · intro isSealed
    obtain ⟨lexemes, scanned, each⟩ := scan?_reference_quoted style _ protectedQuoted isSealed
    exact ⟨lexemes, scan_of_scan? scanned, each⟩
  · intro leaks
    rw [Lexeme.scan, scan?_unsealed style _ leaks]

/-- Percent signs, brackets, other quotes and a backslash before a blank. -/
theorem scan_quote_calm :
    Lexeme.scan (quote .double "a\\ b%(c)s\x60'") =
      .ok ⟨[⟨[], .quoted, "\"a\\ b%%(c)s\x60'\"".toList⟩], []⟩ :=
  (scan_quote_iff .double "a\\ b%(c)s\x60'" (by decide)).1.mpr (by decide)

/-- A backslash at the end of a name takes the mark that should close it. -/
theorem scan_quote_backslash :
    requiresQuotes "\\" = true ∧
      Lexeme.scan (quote .double "\\") = .error (.unterminated "\"\\\"") := by
  constructor
  · decide
  · rfl

end Identifier

end ClickHouse
