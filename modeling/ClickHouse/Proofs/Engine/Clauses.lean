import ClickHouse.Proofs.Engine.ClauseBody
import Mathlib.Data.List.Nodup

/-!
Clauses in any order. A body in which no keyword stands as bare words outside groups and quotes is
found again behind its own keyword, also when it ends in the first word of one
(`splitClauses_written`).
-/

namespace ClickHouse.EngineDefinition

open Lexeme

/-- Whether the words of a clause stand side by side outside the groups, `depth` groups being open
at the start. -/
def Names (depth : Nat) (lexemes : List Lexeme) (clause : Clause) : Prop :=
  ∃ before words after, lexemes = before ++ (words ++ after) ∧
    Contained Kind.closes depth before = true ∧ (∀ word ∈ words, word.kind = .word) ∧
    words.map Lexeme.spelling = clause.words

theorem dropWords?_eq_some_iff (names : List String) (lexemes after : List Lexeme) :
    dropWords? names lexemes = some after ↔
      ∃ words, lexemes = words ++ after ∧ (∀ word ∈ words, word.kind = .word) ∧
        words.map Lexeme.spelling = names := by
  induction names generalizing lexemes with
  | nil => simp [dropWords?]
  | cons name names ih =>
      constructor
      · intro dropped
        cases lexemes with
        | nil => simp [dropWords?] at dropped
        | cons lexeme rest =>
            rw [dropWords?] at dropped
            split at dropped
            · rename_i isWord
              obtain ⟨words, rfl, areWords, spelled⟩ := (ih rest).mp dropped
              refine ⟨lexeme :: words, rfl, ?_, by rw [List.map_cons, isWord.2, spelled]⟩
              exact List.forall_mem_cons.mpr ⟨isWord.1, areWords⟩
            · contradiction
      · rintro ⟨words, rfl, areWords, spelled⟩
        cases words with
        | nil => simp at spelled
        | cons word words =>
            rw [List.forall_mem_cons] at areWords
            rw [List.map_cons, List.cons.injEq] at spelled
            rw [List.cons_append, dropWords?, if_pos ⟨areWords.1, spelled.1⟩, ih]
            exact ⟨words, rfl, areWords.2, spelled.2⟩

theorem clauseAt?_isSome_iff (lexemes : List Lexeme) :
    (clauseAt? lexemes).isSome = true ↔
      ∃ clause words after, lexemes = words ++ after ∧ (∀ word ∈ words, word.kind = .word) ∧
        words.map Lexeme.spelling = Clause.words clause := by
  have every (clause : Clause) : clause ∈ Clause.all := by cases clause <;> decide
  rw [clauseAt?, List.find?_isSome]
  constructor
  · rintro ⟨clause, _, dropped⟩
    obtain ⟨after, dropped⟩ := Option.isSome_iff_exists.mp dropped
    obtain ⟨words, spelled⟩ := (dropWords?_eq_some_iff _ _ _).mp dropped
    exact ⟨clause, words, after, spelled⟩
  · rintro ⟨clause, words, after, spelled⟩
    refine ⟨clause, every clause, ?_⟩
    rw [(dropWords?_eq_some_iff _ _ after).mpr ⟨words, spelled⟩]
    rfl

theorem names_of_clauseAt? {lexeme : Lexeme} {others rest : List Lexeme}
    (completes : CompletesNone rest)
    (found : (clauseAt? (lexeme :: (others ++ rest))).isSome = true) :
    ∃ clause, Names 0 (lexeme :: others) clause := by
  obtain ⟨clause, words, after, shape, areWords, spelled⟩ := (clauseAt?_isSome_iff _).mp found
  have inside (more : List Lexeme) (whole : lexeme :: others = words ++ more) :
      ∃ clause, Names 0 (lexeme :: others) clause :=
    ⟨clause, [], words, more, whole, rfl, areWords, spelled⟩
  match words with
  | [] => cases clause <;> simp [Clause.words] at spelled
  | [word] =>
      obtain ⟨rfl, _⟩ := List.cons.inj shape
      exact inside others rfl
  | [first, second] =>
      obtain ⟨rfl, behind⟩ := List.cons.inj shape
      cases others with
      | cons next more =>
          obtain ⟨rfl, _⟩ := List.cons.inj behind
          exact inside more rfl
      | nil =>
          -- the second word would stand first in what is behind, which completes none
          obtain rfl : rest = second :: after := behind
          obtain ⟨notBy, notKey⟩ := completes second rfl
          cases clause <;> simp [Clause.words, notBy, notKey] at spelled
  | _ :: _ :: _ :: _ => cases clause <;> simp [Clause.words] at spelled

theorem Names.cons {depth : Nat} {lexeme : Lexeme} {others : List Lexeme} {clause : Clause}
    (names : Names (lexeme.kind.depthAfter depth) others clause)
    (free : 0 < depth ∨ lexeme.kind.closes = false) : Names depth (lexeme :: others) clause := by
  obtain ⟨before, words, after, rfl, contained, spelled⟩ := names
  exact ⟨lexeme :: before, words, after, rfl, by simpa [Contained, contained] using free, spelled⟩

theorem startsNone_of_not_names (depth : Nat) (body rest : List Lexeme)
    (contained : Contained Kind.closes depth body = true) (completes : CompletesNone rest)
    (unnamed : ∀ clause, ¬Names depth body clause) : startsNone rest depth body = true := by
  induction body generalizing depth with
  | nil => rfl
  | cons lexeme others ih =>
      simp only [Contained, Bool.and_eq_true, Bool.or_eq_true, decide_eq_true_eq,
        Bool.not_eq_true'] at contained
      obtain ⟨free, contained⟩ := contained
      have behind := ih _ contained fun clause names => unnamed clause (names.cons free)
      simp only [startsNone, behind, Bool.and_true, Bool.or_eq_true, decide_eq_true_eq]
      refine (Nat.eq_zero_or_pos depth).symm.imp_right ?_
      rintro rfl
      cases found : clauseAt? (lexeme :: (others ++ rest)) with
      | none => rfl
      | some clause =>
          obtain ⟨clause, names⟩ := names_of_clauseAt? completes (by rw [found]; rfl)
          exact absurd names (unnamed clause)

theorem not_names_of_startsNone (depth : Nat) (lexemes : List Lexeme)
    (passes : startsNone [] depth lexemes = true) (clause : Clause) :
    ¬Names depth lexemes clause := by
  rintro ⟨before, words, after, rfl, contained, areWords, spelled⟩
  induction before generalizing depth with
  | nil =>
      obtain rfl : depth = 0 := by simpa [Contained] using contained
      have found := (clauseAt?_isSome_iff _).mpr ⟨clause, words, after, rfl, areWords, spelled⟩
      cases words with
      | nil => cases clause <;> simp [Clause.words] at spelled
      | cons word words =>
          simp only [List.nil_append, List.cons_append, startsNone, List.append_nil,
            Bool.and_eq_true, Nat.lt_irrefl, decide_false, Bool.false_or] at passes found
          rw [← Option.not_isSome, found] at passes
          exact absurd passes.1 (by decide)
  | cons lexeme before ih =>
      rw [List.cons_append, startsNone, Bool.and_eq_true] at passes
      rw [Contained, Bool.and_eq_true] at contained
      exact ih _ passes.2 contained.2

theorem clauseAt?_gap (gap : List Char) (lexeme : Lexeme) (rest : List Lexeme) :
    clauseAt? ({ lexeme with gap } :: rest) = clauseAt? (lexeme :: rest) := by
  rw [clauseAt?, clauseAt?]
  congr 1
  funext clause
  cases clause <;> rfl

theorem splitClausesFrom_indent (gap : List Char) (scan : Scan) :
    splitClausesFrom 0 0 (scan.indent gap).lexemes =
      ((Scan.indent gap ⟨(splitClausesFrom 0 0 scan.lexemes).1, []⟩).lexemes,
        (splitClausesFrom 0 0 scan.lexemes).2) := by
  obtain ⟨lexemes, trailing⟩ := scan
  cases lexemes with
  | nil => rfl
  | cons first rest =>
      simp only [Scan.indent, splitClausesFrom, clauseAt?_gap]
      split
      · rfl
      split
      · rfl
      split <;> rfl

theorem CompletesNone.indent {scan : Scan} (completes : CompletesNone scan.lexemes)
    (gap : List Char) : CompletesNone (scan.indent gap).lexemes := by
  obtain ⟨lexemes, trailing⟩ := scan
  cases lexemes with
  | nil => exact completes
  | cons first rest =>
      rintro _ ⟨⟩
      exact completes first rfl

/-- A body that can stand behind a keyword: trimmed, with all groups closed, and without a keyword
outside groups and quotes. -/
structure IsClauseBody (text : String) : Prop where
  scanned : ∃ scan, Lexeme.scan text = .ok scan ∧ Contained Kind.closes 0 scan.lexemes = true ∧
    ∀ clause, ¬Names 0 scan.lexemes clause
  trimmed : Text.trim text = text

def Clause.keyword (clause : Clause) : String :=
  Text.joinWith " " clause.words

def written (entry : Clause × String) : String :=
  entry.1.keyword ++ " " ++ entry.2

def Clause.lexemes (clause : Clause) : List Lexeme :=
  match clause.words with
  | [] => []
  | first :: others =>
    ⟨[], .word, first.toList⟩ :: others.map fun word => ⟨[' '], .word, word.toList⟩

theorem scan?_keyword (clause : Clause) :
    scan? clause.keyword.toList = some ⟨clause.lexemes, []⟩ := by
  cases clause <;> rfl

theorem splitClausesFrom_lexemes (clause : Clause) (rest : List Lexeme) :
    splitClausesFrom 0 0 (clause.lexemes ++ rest) =
      ([], (clause, (splitClausesFrom 0 0 rest).1) :: (splitClausesFrom 0 0 rest).2) := by
  cases clause <;> rfl

theorem completesNone_lexemes (clause : Clause) (rest : List Lexeme) :
    CompletesNone (clause.lexemes ++ rest) := by
  cases clause <;> rintro _ ⟨⟩ <;> decide

/-- Whether a text is read into clauses with these bodies and nothing before them, and completes no
keyword. -/
def ReadsClauses (text : List Char) (entries : List (Clause × String)) : Prop :=
  ∃ scan bodies, scan? text = some scan ∧ splitClausesFrom 0 0 scan.lexemes = ([], bodies) ∧
    bodies.map withText = entries ∧ CompletesNone scan.lexemes

theorem readsClauses_nil : ReadsClauses [] [] :=
  ⟨⟨[], []⟩, [], rfl, rfl, rfl, by simp [CompletesNone]⟩

theorem ReadsClauses.gap {text : List Char} {entries : List (Clause × String)}
    (reads : ReadsClauses text entries) (gap : List Char) (blank : gap.all isGap = true) :
    ReadsClauses (gap ++ text) entries := by
  obtain ⟨scan, bodies, scanned, split, texts, completes⟩ := reads
  refine ⟨_, bodies, scan?_indent gap text scan blank scanned, ?_, texts, completes.indent gap⟩
  rw [splitClausesFrom_indent, split]
  rfl

theorem IsClauseBody.scan? {body : String} (isBody : IsClauseBody body) :
    ∃ lexemes, Lexeme.scan? body.toList = some ⟨lexemes, []⟩ ∧
      Contained Kind.closes 0 lexemes = true ∧ ∀ clause, ¬Names 0 lexemes clause := by
  obtain ⟨⟨lexemes, trailing⟩, scanned, contained, unnamed⟩ := isBody.scanned
  have scanned := scan?_of_scan scanned
  have last : ∀ c ∈ body.toList.getLast?, Text.isBlank c = false := by
    rw [← isBody.trimmed, Text.trim, String.toList_ofList]
    exact (Text.trimChars_ends body.toList).2
  obtain rfl := trailing_eq_nil scanned last
  exact ⟨lexemes, scanned, contained, unnamed⟩

theorem trimChars_indent (lexemes : List Lexeme) (trailing : List Char) :
    Text.trimChars (sourceOf (Scan.indent [' '] ⟨lexemes, trailing⟩).lexemes) =
      Text.trimChars (sourceOf lexemes) := by
  cases lexemes with
  | nil => rfl
  | cons first rest =>
      simp only [Scan.indent, sourceOf_cons, Lexeme.source, List.cons_append, List.nil_append]
      exact Text.trimChars_space _

theorem ReadsClauses.clause {more : List Char} {entries : List (Clause × String)}
    (reads : ReadsClauses more entries) (separates : Separates more) (entry : Clause × String)
    (isBody : IsClauseBody entry.2) :
    ReadsClauses ((written entry).toList ++ more) (entry :: entries) := by
  obtain ⟨clause, body⟩ := entry
  obtain ⟨scan, bodies, scanned, split, texts, completes⟩ := reads
  obtain ⟨lexemes, scannedBody, contained, unnamed⟩ := isBody.scan?
  -- the space before the body goes to its first lexeme, or to the next keyword if there is none
  have behind : Lexeme.scan? (body.toList ++ more) = some (scan.prepend lexemes) := by
    rw [scan?_append _ _ _ scannedBody separates, scanned, Option.map_some]
  have whole : Lexeme.scan? ((written (clause, body)).toList ++ more) =
      some (((scan.prepend lexemes).indent [' ']).prepend clause.lexemes) := by
    have shape : (written (clause, body)).toList ++ more =
        clause.keyword.toList ++ ([' '] ++ (body.toList ++ more)) := by
      simp [written]
    have separatesBody : Separates ([' '] ++ (body.toList ++ more)) := separates_gap ' ' _ rfl
    rw [shape, scan?_append _ _ _ (scan?_keyword clause) separatesBody,
      scan?_indent [' '] _ _ rfl behind, Option.map_some]
  have splitBody : splitClausesFrom 0 0 (scan.prepend lexemes).lexemes = (lexemes, bodies) := by
    have passes := startsNone_of_not_names 0 lexemes scan.lexemes contained completes unnamed
    rw [Scan.prepend, splitClausesFrom_passes 0 lexemes _ contained passes, split, List.append_nil]
  have bodyText : String.ofList (Text.trimChars (sourceOf lexemes)) = body := by
    have source : sourceOf lexemes = body.toList := by
      simpa [Scan.source] using scan_source _ _ scannedBody
    rw [source]
    exact isBody.trimmed
  refine ⟨_, _, whole, splitClausesFrom_lexemes clause _, ?_, completesNone_lexemes clause _⟩
  rw [splitClausesFrom_indent, splitBody, List.map_cons, texts, withText, trimChars_indent,
    bodyText]

theorem readsClauses_written (entries : List (Clause × String))
    (bodies : ∀ entry ∈ entries, IsClauseBody entry.2) :
    ReadsClauses (Text.joinWith " " (entries.map written)).toList entries := by
  induction entries with
  | nil => exact readsClauses_nil
  | cons entry rest ih =>
      obtain ⟨isBody, others⟩ := List.forall_mem_cons.mp bodies
      cases rest with
      | nil => simpa [Text.joinWith] using readsClauses_nil.clause separates_nil entry isBody
      | cons next more =>
          have following := ((ih others).gap [' '] rfl).clause (separates_gap ' ' _ rfl) entry isBody
          simpa [Text.joinWith] using following

theorem bodyOf?_eq_some_iff (entries : List (Clause × String))
    (distinct : (entries.map Prod.fst).Nodup) (clause : Clause) (body : String) :
    bodyOf? entries clause = some body ↔ (clause, body) ∈ entries := by
  refine ⟨bodyOf?_mem entries clause body, fun member => ?_⟩
  cases found : bodyOf? entries clause with
  | none =>
      rw [bodyOf?, List.lookup_eq_none_iff] at found
      simpa using found _ (List.mem_reverse.mpr member)
  | some other =>
      have same := List.inj_on_of_nodup_map distinct (bodyOf?_mem _ _ _ found) member rfl
      rw [(Prod.mk.inj same).2]

/-- Splitting recovers every clause, in whatever order they are written, with exactly its body. -/
theorem splitClauses_written (entries : List (Clause × String))
    (distinct : (entries.map Prod.fst).Nodup)
    (bodies : ∀ entry ∈ entries, IsClauseBody entry.2) :
    splitClauses (Text.joinWith " " (entries.map written)) = .ok entries ∧
      ∀ clause body, bodyOf? entries clause = some body ↔ (clause, body) ∈ entries := by
  refine ⟨?_, bodyOf?_eq_some_iff entries distinct⟩
  obtain ⟨scan, found, scanned, split, texts, _⟩ := readsClauses_written entries bodies
  rw [splitClauses, scan_of_scan? scanned, ← texts]
  dsimp only
  rw [split]
  rfl

def shuffledClauses : List (Clause × String) :=
  [(.settings, "s = 'ORDER BY', t = f(TTL, [SETTINGS])"), (.orderBy, ""),
    (.ttl, "d + PRIMARY"), (.sampleBy, "`PRIMARY KEY`(ORDER BY x) SAMPLE"), (.partitionBy, "BY")]

theorem splitClauses_written_shuffled :
    (shuffledClauses.map Prod.fst).Nodup ∧ (∀ entry ∈ shuffledClauses, IsClauseBody entry.2) ∧
      splitClauses (Text.joinWith " " (shuffledClauses.map written)) = .ok shuffledClauses := by
  have isBody (text : String) (scan : Scan) (scanned : Lexeme.scan? text.toList = some scan)
      (contained : Contained Kind.closes 0 scan.lexemes = true)
      (passes : startsNone [] 0 scan.lexemes = true) (trimmed : Text.trim text = text) :
      IsClauseBody text :=
    ⟨⟨scan, scan_of_scan? scanned, contained, not_names_of_startsNone 0 _ passes⟩, trimmed⟩
  have bodies : ∀ entry ∈ shuffledClauses, IsClauseBody entry.2 := by
    simp only [shuffledClauses, List.forall_mem_cons, List.not_mem_nil, false_implies,
      implies_true, and_true]
    exact ⟨isBody _ _ rfl rfl rfl rfl, isBody _ _ rfl rfl rfl rfl, isBody _ _ rfl rfl rfl rfl,
      isBody _ _ rfl rfl rfl rfl, isBody _ _ rfl rfl rfl rfl⟩
  have distinct : (shuffledClauses.map Prod.fst).Nodup := by decide
  exact ⟨distinct, bodies, (splitClauses_written shuffledClauses distinct bodies).1⟩

end ClickHouse.EngineDefinition
