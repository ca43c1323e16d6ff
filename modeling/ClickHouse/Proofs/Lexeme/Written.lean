import ClickHouse.Identifier
import ClickHouse.Proofs.Lexeme.Legible
import ClickHouse.Proofs.Text.Trim
import ClickHouse.Text.Join
import ClickHouse.Text.Quoted

/-!
How marks, words, numbers and literals are scanned when they are written.
-/

namespace ClickHouse

namespace Lexeme

theorem separates_mark (c : Char) (rest : List Char) (kind : Kind)
    (mark : markKind? c = some kind) : Separates (c :: rest) := by
  obtain ⟨notGap, notWord, notDigit⟩ := markKind?_isSome c kind mark
  intro run d head
  obtain rfl : c = d := by simpa using head
  cases run <;> simp [Kind.prolongs, isWordPart_eq, isSymbolPart, notWord, notDigit, mark]

theorem separates_gap (c : Char) (rest : List Char) (blank : isGap c = true) :
    Separates (c :: rest) := by
  intro run d head
  obtain rfl : c = d := by simpa using head
  exact prolongs_of_isGap run c blank

theorem scan?_mark (c : Char) (rest : List Char) (kind : Kind) (mark : markKind? c = some kind) :
    scan? (c :: rest) = (scan? rest).map (Scan.prepend [⟨[], kind, [c]⟩]) := by
  obtain ⟨spelled, ends⟩ := Scanner.spells_mark c kind mark
  simpa [Lexeme.source] using
    scan?_legible_append [⟨[], kind, [c]⟩] rest ⟨⟨rfl, spelled, ends _⟩, trivial⟩

theorem scan?_mark_some {c : Char} {kind : Kind} (mark : markKind? c = some kind)
    {rest : List Char} {lexemes : List Lexeme} (scanned : scan? rest = some ⟨lexemes, []⟩) :
    scan? (c :: rest) = some ⟨⟨[], kind, [c]⟩ :: lexemes, []⟩ := by
  rw [scan?_mark c rest kind mark, scanned]
  rfl

theorem scan?_spells (kind : Kind) (text : List Char) (spelled : kind.spells text = true) :
    scan? text = some ⟨[⟨[], kind, text⟩], []⟩ := by
  simpa [Lexeme.source] using
    scan?_legible [⟨[], kind, text⟩] [] ⟨⟨rfl, spelled, by simp [Kind.EndsBefore]⟩, trivial⟩ rfl

theorem spells_mark_text (kind : Kind) (text : List Char)
    (bracket : kind.opens = true ∨ kind.closes = true) (spelled : kind.spells text = true) :
    ∃ c, text = [c] ∧ markKind? c = some kind := by
  cases text with
  | nil => simp [Kind.spells] at spelled
  | cons c rest =>
      refine ⟨c, ?_⟩
      cases kind <;> simp [Kind.opens, Kind.closes] at bracket <;>
        simpa [Kind.spells, and_comm] using spelled

theorem text_openRound {text : List Char} (spelled : Kind.openRound.spells text = true) :
    text = ['('] := by
  obtain ⟨c, rfl, mark⟩ := spells_mark_text .openRound text (.inl rfl) spelled
  unfold markKind? at mark
  grind

theorem text_closing {kind : Kind} {text : List Char} (closes : kind.closes = true)
    (spelled : kind.spells text = true) : ∃ c, (c = ')' ∨ c = ']') ∧ text = [c] := by
  obtain ⟨c, rfl, mark⟩ := spells_mark_text kind text (.inr closes) spelled
  refine ⟨c, ?_, rfl⟩
  unfold markKind? at mark
  cases kind <;> first | contradiction | grind

theorem not_isBlank_of_mark (c : Char) (kind : Kind) (mark : markKind? c = some kind) :
    Text.isBlank c = false := by
  unfold markKind? at mark
  repeat' split at mark
  all_goals first | contradiction | skip
  all_goals
    subst_vars
    decide

theorem isBlank_of_isGap (c : Char) (gap : isGap c = true) : Text.isBlank c = true := by
  rcases isGap_cases c gap with rfl | rfl | rfl | rfl | rfl <;> decide

theorem trailing_eq_nil {text trailing : List Char} {lexemes : List Lexeme}
    (scanned : scan? text = some ⟨lexemes, trailing⟩)
    (last : ∀ c ∈ text.getLast?, Text.isBlank c = false) : trailing = [] := by
  obtain ⟨source, _, blank⟩ := (scan?_eq_some_iff _ _).mp scanned
  rcases trailing.eq_nil_or_concat with none | ⟨before, c, rfl⟩
  · exact none
  · have isLast : text.getLast? = some c := by
      rw [← source]
      simp [Scan.source]
    have gap : isGap c = true := List.all_eq_true.mp blank c (by simp)
    have visible := last c isLast
    rw [isBlank_of_isGap c gap] at visible
    contradiction

def indented : List Lexeme → List Lexeme
  | [] => []
  | first :: rest => { first with gap := ' ' :: first.gap } :: rest

theorem scan?_space {text : List Char} {lexemes : List Lexeme} (nonempty : lexemes ≠ [])
    (scanned : scan? text = some ⟨lexemes, []⟩) :
    scan? (' ' :: text) = some ⟨indented lexemes, []⟩ := by
  cases lexemes with
  | nil => contradiction
  | cons first rest => exact scan?_indent [' '] text ⟨first :: rest, []⟩ rfl scanned

theorem indented_append (left right : List Lexeme) (nonempty : left ≠ []) :
    indented (left ++ right) = indented left ++ right := by
  cases left with
  | nil => contradiction
  | cons first rest => rfl

theorem scan?_comma_space {left right : List Char} {lexemes others : List Lexeme}
    (scanned : scan? left = some ⟨lexemes, []⟩) (nonempty : others ≠ [])
    (scannedRight : scan? right = some ⟨others, []⟩) :
    scan? (left ++ ',' :: ' ' :: right) =
      some ⟨lexemes ++ ⟨[], .comma, [',']⟩ :: indented others, []⟩ :=
  scan?_append_some scanned (separates_mark ',' _ .comma rfl)
    (scan?_mark_some rfl (scan?_space nonempty scannedRight))

def moreItems (items : List String) : List Char :=
  items.flatMap fun item => ',' :: ' ' :: item.toList

theorem commaList_toList (first : String) (rest : List String) :
    (Text.commaList (first :: rest)).toList = first.toList ++ moreItems rest := by
  induction rest generalizing first with
  | nil => simp [Text.commaList, Text.joinWith, moreItems]
  | cons second rest ih =>
      have following := ih second
      simp only [Text.commaList] at following ⊢
      rw [Text.joinWith_cons_cons, String.toList_append, String.toList_append, following]
      simp [moreItems]

theorem separates_moreItems (items : List String) : Separates (moreItems items) := by
  cases items with
  | nil => simp [moreItems]
  | cons item rest => exact separates_mark ',' _ .comma rfl

theorem not_isBlank_of_isWordPart (c : Char) (part : isWordPart c = true) :
    Text.isBlank c = false := by
  simp only [isWordPart, Bool.or_eq_true, decide_eq_true_eq] at part
  rcases part with plain | rfl
  · exact Text.not_isBlank_of_isAlphanum c plain
  · decide

theorem isWordPart_of_spells (text : List Char) (spelled : Kind.word.spells text = true) :
    ∀ c ∈ text, isWordPart c = true := by
  intro c member
  cases text with
  | nil => contradiction
  | cons first rest =>
      simp only [Kind.spells, Bool.and_eq_true, List.all_eq_true] at spelled
      rcases List.mem_cons.mp member with rfl | member
      · rw [isWordPart_eq, spelled.1, Bool.true_or]
      · exact spelled.2 c member

theorem spells_word (name : String) (word : Identifier.isWord name = true) :
    Kind.word.spells name.toList = true := by
  unfold Identifier.isWord at word
  split at word
  · contradiction
  · rename_i first rest characters
    simp only [Bool.and_eq_true, Bool.not_eq_true', List.all_cons] at word
    obtain ⟨notDigit, wordChar, others⟩ := word
    have start : isWordStart first = true := by
      have part : isWordPart first = true := wordChar
      rw [isWordPart_eq, notDigit, Bool.or_false] at part
      exact part
    rw [characters]
    simp only [Kind.spells, start, Bool.true_and]
    exact others

theorem isDigit_of_mem_repr (value : Nat) (c : Char) (member : c ∈ (Nat.repr value).toList) :
    c.isDigit = true := by
  rw [Nat.toList_repr] at member
  exact Nat.isDigit_of_mem_toDigits (by decide) (by decide) member

theorem toList_repr_ne_nil (value : Nat) : (Nat.repr value).toList ≠ [] := by
  rw [Nat.toList_repr]
  exact Nat.toDigits_ne_nil

theorem spells_number (value : Nat) : Kind.number.spells (Nat.repr value).toList = true := by
  have digits := isDigit_of_mem_repr value
  cases characters : (Nat.repr value).toList with
  | nil => exact absurd characters (toList_repr_ne_nil value)
  | cons first rest =>
      rw [characters] at digits
      simp only [Kind.spells, Bool.and_eq_true, List.all_eq_true]
      exact ⟨digits first (by simp), fun c member => digits c (List.mem_cons_of_mem _ member)⟩

theorem closesWith_escapeChars (text : List Char) :
    closesWith Text.quoteMark false (Text.escapeChars text ++ [Text.quoteMark]) = true := by
  induction text with
  | nil => rfl
  | cons c rest ih =>
      by_cases special : c = Text.quoteMark ∨ c = Text.escapeMark
      · have notLineFeed : c ≠ '\n' := by
          rcases special with rfl | rfl <;> decide
        rw [Text.escapeChars, if_pos special]
        have escapes : closesWith Text.quoteMark false
            (Text.escapeMark :: c :: (Text.escapeChars rest ++ [Text.quoteMark])) =
              closesWith Text.quoteMark true (c :: (Text.escapeChars rest ++ [Text.quoteMark])) :=
          rfl
        rw [List.cons_append, List.cons_append, escapes]
        simp [closesWith, notLineFeed, ih]
      · have notMark : c ≠ Text.quoteMark := fun same => special (Or.inl same)
        have notEscape : ¬c = '\\' := fun same => special (Or.inr same)
        rw [Text.escapeChars, if_neg special, List.cons_append]
        simp [closesWith, notMark, notEscape, ih]

theorem spells_literal (text : String) : Kind.literal.spells (Text.quote text).toList = true := by
  have closes := closesWith_escapeChars text.toList
  rw [Text.toList_quote]
  simp only [Kind.spells, Bool.and_eq_true]
  exact ⟨rfl, closes⟩

theorem spells_quoted (mark : Char) (name : List Char) (quotes : quoteKind? mark = some .quoted)
    (free : ∀ c ∈ name, c ≠ mark ∧ c ≠ '\\') :
    Kind.quoted.spells (mark :: (name ++ [mark])) = true := by
  have closes : closesWith mark false (name ++ [mark]) = true := by
    induction name with
    | nil => simp [closesWith]
    | cons c rest ih =>
        obtain ⟨notMark, notEscape⟩ := free c (by simp)
        have others := ih fun d member => free d (List.mem_cons_of_mem _ member)
        simp [closesWith, notMark, notEscape, others]
  simp [Kind.spells, quotes, closes]

end Lexeme

end ClickHouse
