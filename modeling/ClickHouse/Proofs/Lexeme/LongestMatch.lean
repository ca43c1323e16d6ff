import Mathlib.Data.Finset.Max
import Mathlib.Data.List.TakeWhile
import Mathlib.Logic.Relation
import ClickHouse.Proofs.Lexeme.Contained
import ClickHouse.Proofs.Lexeme.Pattern

/-!
Reading by longest matches. At each place the rule with the longest match is taken; where no rule
matches, the reading stops with an error that depends on the character there. The scanner returns
what such a reading ends with (`munches_iff`), and it only ever stops at a quote mark.
-/

namespace ClickHouse

namespace Lexeme

structure IsLongest (text : List Char) (rule : Rule) (token : List Char) : Prop where
  isPrefix : token <+: text
  matched : token ∈ rule.pattern
  longest : ∀ (other : Rule) (start : List Char), start <+: text → start ∈ other.pattern →
    start.length ≤ token.length

def Unmatched (text : List Char) : Prop :=
  ∀ (rule : Rule) (token : List Char), token <+: text → token ∉ rule.pattern

structure Reading where
  lexemes : List Lexeme
  gap : List Char
  rest : List Char

inductive Reading.Step : Reading → Reading → Prop
  | skip {lexemes : List Lexeme} {gap blanks rest : List Char} :
      IsLongest (blanks ++ rest) .blanks blanks →
      Step ⟨lexemes, gap, blanks ++ rest⟩ ⟨lexemes, gap ++ blanks, rest⟩
  | take {lexemes : List Lexeme} {gap token rest : List Char} {kind : Kind} :
      IsLongest (token ++ rest) (.lexeme kind) token →
      Step ⟨lexemes, gap, token ++ rest⟩ ⟨lexemes ++ [⟨gap, kind, token⟩], [], rest⟩

def Reaches (text : List Char) : Reading → Prop :=
  Relation.ReflTransGen Reading.Step ⟨[], [], text⟩

/-- What reading a text by longest matches ends with: the whole text is read, or no rule matches
where a quote mark stands, or none matches at another character. -/
inductive Munches (text : String) : Except SyntaxError Scan → Prop
  | whole {lexemes : List Lexeme} {trailing : List Char} :
      Reaches text.toList ⟨lexemes, trailing, []⟩ → Munches text (.ok ⟨lexemes, trailing⟩)
  | openQuote {lexemes : List Lexeme} {gap rest : List Char} {mark : Char} :
      Reaches text.toList ⟨lexemes, gap, mark :: rest⟩ → Unmatched (mark :: rest) →
      (quoteKind? mark).isSome = true → Munches text (.error (.unterminated text))
  | stray {lexemes : List Lexeme} {gap rest : List Char} {c : Char} (found : String) :
      Reaches text.toList ⟨lexemes, gap, c :: rest⟩ → Unmatched (c :: rest) →
      quoteKind? c = none → Munches text (.error (.unexpected "token" found))

theorem exists_longest (text : List Char) :
    Unmatched text ∨ ∃ rule token, IsLongest text rule token := by
  classical
  let starts := text.inits.toFinset.filter fun start => ∃ rule : Rule, start ∈ rule.pattern
  have mem_starts (start : List Char) :
      start ∈ starts ↔ start <+: text ∧ ∃ rule : Rule, start ∈ rule.pattern := by
    simp [starts]
  by_cases nonempty : starts.Nonempty
  · obtain ⟨token, member, longest⟩ := starts.exists_max_image List.length nonempty
    obtain ⟨isPrefix, rule, matched⟩ := (mem_starts token).mp member
    refine Or.inr ⟨rule, token, isPrefix, matched, fun other start starting read => ?_⟩
    exact longest start ((mem_starts start).mpr ⟨starting, other, read⟩)
  · refine Or.inl fun rule token starting read => nonempty ⟨token, ?_⟩
    exact (mem_starts token).mpr ⟨starting, rule, read⟩

/-- The longest match of a kind is a whole lexeme that what follows does not prolong. -/
theorem IsLongest.endsBefore {token rest : List Char} {kind : Kind}
    (longest : IsLongest (token ++ rest) (.lexeme kind) token) :
    kind.spells token = true ∧ kind.EndsBefore rest := by
  have spelled : kind.spells token = true := (kind.mem_pattern_iff token).mp longest.matched
  refine ⟨spelled, fun c first => ?_⟩
  obtain ⟨more, rfl⟩ : ∃ more, rest = c :: more := by
    cases rest with
    | nil => simp at first
    | cons d more => exact ⟨more, by simpa using first⟩
  by_contra prolongs
  rw [Bool.not_eq_false] at prolongs
  have longer := longest.longest (.lexeme kind) (token ++ [c]) (by simp)
    ((kind.mem_pattern_iff _).mpr (Scanner.spells_append kind token c spelled prolongs))
  rw [List.length_append, List.length_singleton] at longer
  omega

theorem quoteKind?_of_unmatched {c : Char} {rest : List Char} (unmatched : Unmatched (c :: rest)) :
    (quoteKind? c).isSome = true := by
  rw [Option.isSome_iff_ne_none]
  intro noQuote
  obtain ⟨rule, matched⟩ := exists_rule c noQuote
  exact unmatched rule [c] (by simp) matched

/-- Whether a reading has lost nothing of a text and read only whole lexemes. -/
structure Reading.Sound (text : List Char) (reading : Reading) : Prop where
  source : sourceOf reading.lexemes ++ (reading.gap ++ reading.rest) = text
  legible : Legible (reading.gap ++ reading.rest) reading.lexemes
  blank : reading.gap.all isGap = true

theorem Reading.Step.sound {text : List Char} {reading next : Reading} (step : Step reading next)
    (sound : reading.Sound text) : next.Sound text := by
  obtain ⟨source, legible, blank⟩ := sound
  cases step with
  | @skip lexemes gap blanks rest longest =>
      have dropped : blanks.all isGap = true := (Rule.mem_blanks_iff.mp longest.matched).2
      refine ⟨by simpa using source, by simpa using legible, ?_⟩
      rw [List.all_append, blank, dropped]
      rfl
  | @take lexemes gap token rest kind longest =>
      obtain ⟨spelled, ends⟩ := longest.endsBefore
      refine ⟨by simpa [Lexeme.source] using source, ?_, rfl⟩
      refine (legible_append _ _ _).mpr ⟨by simpa [Lexeme.source] using legible, ?_⟩
      exact ⟨⟨blank, spelled, by simpa using ends⟩, trivial⟩

theorem Reaches.sound {text : List Char} {reading : Reading} (reached : Reaches text reading) :
    reading.Sound text := by
  induction reached with
  | refl => exact ⟨rfl, trivial, rfl⟩
  | tail _ step ih => exact step.sound ih

theorem exists_last (reading : Reading) :
    ∃ last, Relation.ReflTransGen Reading.Step reading last ∧ Unmatched last.rest := by
  obtain ⟨lexemes, gap, rest⟩ := reading
  generalize size : rest.length = count
  induction count using Nat.strongRecOn generalizing lexemes gap rest with
  | ind count ih =>
      rcases exists_longest rest with unmatched | ⟨rule, token, longest⟩
      · exact ⟨_, .refl, unmatched⟩
      obtain ⟨more, rfl⟩ := longest.isPrefix
      have shorter : more.length < count := by
        have nonempty := List.length_pos_of_ne_nil (Rule.ne_nil_of_mem longest.matched)
        rw [List.length_append] at size
        omega
      cases rule with
      | blanks =>
          obtain ⟨last, reached, final⟩ := ih _ shorter lexemes (gap ++ token) more rfl
          exact ⟨last, .head (.skip longest) reached, final⟩
      | lexeme kind =>
          obtain ⟨last, reached, final⟩ := ih _ shorter (lexemes ++ [⟨gap, kind, token⟩]) [] more rfl
          exact ⟨last, .head (.take longest) reached, final⟩

theorem Reading.Sound.scan?_whole {text trailing : List Char} {lexemes : List Lexeme}
    (sound : Reading.Sound text ⟨lexemes, trailing, []⟩) :
    scan? text = some ⟨lexemes, trailing⟩ := by
  obtain ⟨rfl, legible, blank⟩ := sound
  simp only [List.append_nil] at legible ⊢
  exact scan?_legible lexemes trailing legible blank

theorem Legible.dropWhile_source {first : Lexeme} {others : List Lexeme} {follow : List Char}
    (legible : Legible follow (first :: others)) :
    (sourceOf (first :: others) ++ follow).dropWhile isGap =
      first.text ++ (sourceOf others ++ follow) := by
  obtain ⟨⟨blank, spelled, -⟩, -⟩ := legible
  rw [sourceOf_cons, Lexeme.source, List.append_assoc, List.append_assoc,
    List.dropWhile_append_of_pos (List.all_eq_true.mp blank)]
  cases spelling : first.text with
  | nil =>
      rw [spelling] at spelled
      contradiction
  | cons c rest =>
      rw [spelling] at spelled
      have visible : isGap c = false := Kind.not_isGap_of_spells spelled
      rw [List.cons_append, List.dropWhile_cons_of_neg (by simp [visible])]

/-- Behind blanks the scanner finds no lexeme where no rule matches. -/
theorem scan?_unmatched {gap rest : List Char} {c : Char} (blank : gap.all isGap = true)
    (unmatched : Unmatched (c :: rest)) : scan? (gap ++ c :: rest) = none := by
  have visible : isGap c = false := by
    by_contra isBlank
    exact unmatched .blanks [c] (by simp)
      (Rule.mem_blanks_iff.mpr ⟨by simp, by simpa using isBlank⟩)
  have dropped : (gap ++ c :: rest).dropWhile isGap = c :: rest := by
    rw [List.dropWhile_append_of_pos (List.all_eq_true.mp blank)]
    simp [visible]
  cases scanned : scan? (gap ++ c :: rest) with
  | none => rfl
  | some scan =>
      obtain ⟨source, legible, trailing⟩ := (scan?_eq_some_iff _ _).mp scanned
      obtain ⟨lexemes, trail⟩ := scan
      rw [← source, Scan.source] at dropped
      cases lexemes with
      | nil =>
          rw [sourceOf_nil, List.nil_append,
            List.dropWhile_eq_nil_iff.mpr (List.all_eq_true.mp trailing)] at dropped
          contradiction
      | cons first others =>
          have isPrefix : first.text <+: c :: rest := ⟨_, legible.dropWhile_source.symm.trans dropped⟩
          exact absurd ((first.kind.mem_pattern_iff _).mpr legible.1.2.1)
            (unmatched (.lexeme first.kind) first.text isPrefix)

theorem Reading.Sound.scan?_stuck {text gap rest : List Char} {lexemes : List Lexeme} {c : Char}
    (sound : Reading.Sound text ⟨lexemes, gap, c :: rest⟩) (unmatched : Unmatched (c :: rest)) :
    scan? text = none := by
  obtain ⟨rfl, legible, blank⟩ := sound
  rw [scan?_legible_append _ _ legible, scan?_unmatched blank unmatched]
  rfl

/-- Reading by longest matches ends with what the scanner returns and with nothing else. -/
theorem munches_iff (text : String) (outcome : Except SyntaxError Scan) :
    Munches text outcome ↔ scan text = outcome := by
  constructor
  · intro munches
    cases munches with
    | whole reached => exact scan_of_scan? reached.sound.scan?_whole
    | openQuote reached unmatched quotes =>
        rw [scan, reached.sound.scan?_stuck unmatched]
    | stray found reached unmatched noQuote =>
        exact absurd noQuote (Option.isSome_iff_ne_none.mp (quoteKind?_of_unmatched unmatched))
  · rintro rfl
    obtain ⟨⟨lexemes, gap, rest⟩, reached, unmatched⟩ := exists_last ⟨[], [], text.toList⟩
    cases rest with
    | nil =>
        have scanned := scan_of_scan? (Reaches.sound reached).scan?_whole
        rw [scanned]
        exact .whole reached
    | cons mark rest =>
        have stuck := (Reaches.sound reached).scan?_stuck unmatched
        rw [scan, stuck]
        exact .openQuote reached unmatched (quoteKind?_of_unmatched unmatched)

theorem openQuote_of_error {text : String} {cause : SyntaxError}
    (failed : scan text = .error cause) :
    cause = .unterminated text ∧ ∃ lexemes gap mark rest,
      Reaches text.toList ⟨lexemes, gap, mark :: rest⟩ ∧ (quoteKind? mark).isSome = true ∧
        Unmatched (mark :: rest) := by
  cases (munches_iff text (.error cause)).mpr failed with
  | openQuote reached unmatched quotes =>
      exact ⟨rfl, _, _, _, _, reached, quotes, unmatched⟩
  | stray found reached unmatched noQuote =>
      exact absurd noQuote (Option.isSome_iff_ne_none.mp (quoteKind?_of_unmatched unmatched))

end Lexeme

end ClickHouse
