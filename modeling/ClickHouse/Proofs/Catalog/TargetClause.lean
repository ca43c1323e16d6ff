import ClickHouse.Proofs.Catalog.StatementHead
import ClickHouse.Proofs.Text.Trim
import Mathlib.Data.List.Forall2

/-!
The clauses that may stand behind the name of a view: an identifier, a cluster and the target. Each
starts with a word of its own, so the reader never has a choice, and it comes to a target exactly
when the clauses are there (`ViewTarget.clauses_iff`).
-/

namespace ClickHouse.ViewTarget

def IsGap (text : List Char) : Prop :=
  text ≠ [] ∧ ∀ c ∈ text, Text.isBlank c = true

def Spells (word : String) (text : List Char) : Prop :=
  List.Forall₂ (fun letter c => sameLetter letter c = true) word.toList text

/-- Whether a text is a word, blanks and a rest that starts with no blank. -/
def StartsWith (word : String) (text rest : List Char) : Prop :=
  ∃ front gap, Spells word front ∧ IsGap gap ∧ text = front ++ (gap ++ rest) ∧
    ∀ c ∈ rest.head?, Text.isBlank c = false

def Clause (word : String) (text rest : List Char) : Prop :=
  ∃ gap behind, IsGap gap ∧ text = gap ++ behind ∧ StartsWith word behind rest

/-- The clause of a target: the characters up to the first that a target cannot have. -/
def NamesTarget (text target : List Char) : Prop :=
  ∃ rest, Clause "to" text (target ++ rest) ∧ target ≠ [] ∧
    (∀ c ∈ target, isTargetChar c = true) ∧ ∀ c ∈ rest.head?, isTargetChar c = false

def NamesCluster (text rest : List Char) : Prop :=
  ∃ behind cluster, Clause "on" text behind ∧ StartsWith "cluster" behind (cluster ++ rest) ∧
    cluster ≠ [] ∧ (∀ c ∈ cluster, Text.isBlank c = false) ∧
    ∀ c ∈ rest.head?, Text.isBlank c = true

def NamesUuid (text rest : List Char) : Prop :=
  ∃ inside, '\x27' ∉ inside ∧ Clause "uuid" text ('\x27' :: (inside ++ '\x27' :: rest))

/-- The target that the clauses behind the name of a view name. -/
def ClausesName (text target : List Char) : Prop :=
  ∃ rest, (rest = text ∨ NamesUuid text rest) ∧
    ∃ last, (last = rest ∨ NamesCluster rest last) ∧ NamesTarget last target

theorem dropBlanks?_eq_some_iff (text rest : List Char) :
    dropBlanks? text = some rest ↔
      ∃ gap, IsGap gap ∧ text = gap ++ rest ∧ ∀ c ∈ rest.head?, Text.isBlank c = false := by
  constructor
  · intro found
    cases text with
    | nil => contradiction
    | cons c others =>
        rw [dropBlanks?] at found
        split at found
        · rename_i blank
          obtain rfl := Option.some.inj found
          refine ⟨c :: others.takeWhile Text.isBlank, ⟨List.cons_ne_nil _ _, ?_⟩, ?_,
            Text.first_trimLeft others⟩
          · rw [List.forall_mem_cons]
            exact ⟨blank, List.all_eq_true.mp List.all_takeWhile⟩
          · rw [List.cons_append, List.takeWhile_append_dropWhile]
        · contradiction
  · rintro ⟨gap, ⟨nonempty, blank⟩, rfl, visible⟩
    obtain ⟨c, others, rfl⟩ := List.exists_cons_of_ne_nil nonempty
    rw [List.forall_mem_cons] at blank
    rw [List.cons_append, dropBlanks?, if_pos blank.1, List.dropWhile_append_of_pos blank.2]
    cases rest with
    | nil => rfl
    | cons d after => rw [List.dropWhile_cons_of_neg (by simp [visible d rfl])]

theorem dropWord?_eq_some_iff (word text rest : List Char) :
    dropWord? word text = some rest ↔
      ∃ front, List.Forall₂ (fun letter c => sameLetter letter c = true) word front ∧
        text = front ++ rest := by
  induction word generalizing text with
  | nil =>
      rw [dropWord?, Option.some.injEq]
      constructor
      · rintro rfl
        exact ⟨[], .nil, rfl⟩
      · rintro ⟨front, ⟨⟩, rfl⟩
        rfl
  | cons letter word ih =>
      cases text with
      | nil =>
          apply iff_of_false (by simp [dropWord?])
          rintro ⟨front, spelled, shape⟩
          cases spelled
          contradiction
      | cons c others =>
          rw [dropWord?]
          split
          · rename_i same
            rw [ih]
            constructor
            · rintro ⟨front, spelled, rfl⟩
              exact ⟨c :: front, .cons same spelled, rfl⟩
            · rintro ⟨front, spelled, shape⟩
              cases spelled with
              | cons first spelled =>
                  obtain ⟨-, rfl⟩ := List.cons.inj shape
                  exact ⟨_, spelled, rfl⟩
          · rename_i differs
            apply iff_of_false (by simp)
            rintro ⟨front, spelled, shape⟩
            cases spelled with
            | cons first spelled =>
                obtain ⟨rfl, -⟩ := List.cons.inj shape
                exact differs first

theorem dropWords?_eq_some_iff (word : String) (words : List String) (text rest : List Char) :
    dropWords? (word :: words) text = some rest ↔
      ∃ behind, StartsWith word text behind ∧ dropWords? words behind = some rest := by
  rw [dropWords?]
  simp only [Option.bind_eq_bind, Option.bind_eq_some_iff, dropWord?_eq_some_iff,
    dropBlanks?_eq_some_iff]
  constructor
  · rintro ⟨_, ⟨front, spelled, rfl⟩, behind, ⟨gap, isGap, rfl, visible⟩, others⟩
    exact ⟨behind, ⟨front, gap, spelled, isGap, rfl, visible⟩, others⟩
  · rintro ⟨behind, ⟨front, gap, spelled, isGap, rfl, visible⟩, others⟩
    exact ⟨gap ++ behind, ⟨front, spelled, rfl⟩, behind, ⟨gap, isGap, rfl, visible⟩, others⟩

theorem not_isBlank_of_sameLetter {letter c : Char} (isLetter : letter.isAlpha = true)
    (same : sameLetter letter c = true) : Text.isBlank c = false := by
  simp only [sameLetter, Bool.or_eq_true, Bool.and_eq_true, decide_eq_true_eq] at same
  rcases same with (small | ⟨-, long⟩) | ⟨-, kelvin⟩
  · by_cases upper : c.isUpper = true
    · apply Text.not_isBlank_of_isAlphanum
      change (c.isUpper || c.isLower || c.isDigit) = true
      rw [upper, Bool.true_or, Bool.true_or]
    · have unchanged : c.toLower = c := dif_neg fun between => upper (decide_eq_true between)
      rw [← unchanged, small]
      exact Text.not_isBlank_of_isAlphanum letter (by simp [Char.isAlphanum, isLetter])
  · simp [Text.isBlank, long]
  · simp [Text.isBlank, kelvin]

/-- Whether a word starts with a letter that tells it from other words. Two letters have a third
form, which no such word starts with. -/
def Initial (word : String) (letter : Char) : Prop :=
  word.toList.head? = some letter ∧ letter.isAlpha = true ∧ letter ≠ 's' ∧ letter ≠ 'k'

instance (word : String) (letter : Char) : Decidable (Initial word letter) :=
  inferInstanceAs (Decidable (_ ∧ _))

theorem StartsWith.first {word : String} {letter : Char} {text rest : List Char}
    (initial : Initial word letter) (starts : StartsWith word text rest) :
    ∃ c others, text = c :: others ∧ sameLetter letter c = true := by
  obtain ⟨front, gap, spelled, -, rfl, -⟩ := starts
  obtain ⟨letters, isWord⟩ := List.head?_eq_some_iff.mp initial.1
  rw [Spells, isWord] at spelled
  cases spelled with
  | cons same others => exact ⟨_, _, rfl, same⟩

theorem StartsWith.dropBlanks? {word : String} {letter : Char} {gap text rest : List Char}
    (initial : Initial word letter) (isGap : IsGap gap) (starts : StartsWith word text rest) :
    dropBlanks? (gap ++ text) = some text := by
  rw [dropBlanks?_eq_some_iff]
  refine ⟨gap, isGap, rfl, ?_⟩
  obtain ⟨c, others, rfl, same⟩ := starts.first initial
  rintro d ⟨⟩
  exact not_isBlank_of_sameLetter initial.2.1 same

theorem clause_iff {word : String} {letter : Char} (initial : Initial word letter)
    (words : List String) (text rest : List Char) :
    (∃ trimmed, dropBlanks? text = some trimmed ∧
        dropWords? (word :: words) trimmed = some rest) ↔
      ∃ behind, Clause word text behind ∧ dropWords? words behind = some rest := by
  simp only [dropWords?_eq_some_iff]
  constructor
  · rintro ⟨trimmed, found, behind, starts, others⟩
    obtain ⟨gap, isGap, rfl, -⟩ := (dropBlanks?_eq_some_iff _ _).mp found
    exact ⟨behind, ⟨gap, trimmed, isGap, rfl, starts⟩, others⟩
  · rintro ⟨behind, ⟨gap, trimmed, isGap, rfl, starts⟩, others⟩
    exact ⟨trimmed, starts.dropBlanks? initial isGap, behind, starts, others⟩

theorem clause_single_iff {word : String} {letter : Char} (initial : Initial word letter)
    (text rest : List Char) :
    (∃ trimmed, dropBlanks? text = some trimmed ∧ dropWords? [word] trimmed = some rest) ↔
      Clause word text rest := by
  rw [clause_iff initial]
  simp [dropWords?]

theorem toLower_of_sameLetter {word : String} {letter c : Char} (initial : Initial word letter)
    (same : sameLetter letter c = true) : c.toLower = letter := by
  obtain ⟨-, -, notS, notK⟩ := initial
  simpa [sameLetter, notS, notK] using same

theorem Clause.not_other {word other : String} {letter letter' : Char} {text rest rest' : List Char}
    (clause : Clause word text rest) (initial : Initial word letter)
    (initial' : Initial other letter') (differ : letter ≠ letter') :
    ¬Clause other text rest' := by
  rintro ⟨gap', behind', isGap', shape, starts'⟩
  obtain ⟨gap, behind, isGap, rfl, starts⟩ := clause
  have same := starts.dropBlanks? initial isGap
  rw [shape, starts'.dropBlanks? initial' isGap', Option.some.injEq] at same
  obtain ⟨c, others, rfl, first⟩ := starts.first initial
  obtain ⟨d, others', rfl, first'⟩ := starts'.first initial'
  obtain ⟨rfl, -⟩ := List.cons.inj same
  have small := toLower_of_sameLetter initial first
  rw [toLower_of_sameLetter initial' first'] at small
  exact differ small.symm

theorem first_dropWhile (drops : Char → Bool) (text : List Char) :
    ∀ c ∈ (text.dropWhile drops).head?, drops c = false := by
  intro c first
  have stops := List.head?_dropWhile_not drops text
  rw [Option.mem_def] at first
  rwa [first] at stops

theorem readTarget?_eq_some_iff (text target : List Char) :
    readTarget? text = some target ↔ NamesTarget text target := by
  have initial : Initial "to" 't' := by decide
  simp only [readTarget?, Option.bind_eq_bind, Option.bind_eq_some_iff]
  constructor
  · rintro ⟨trimmed, found, behind, word, taken⟩
    have clause := (clause_single_iff initial _ _).mp ⟨trimmed, found, word⟩
    split at taken
    · contradiction
    · rename_i nonempty
      obtain rfl := Option.some.inj taken
      refine ⟨behind.dropWhile isTargetChar, ?_, by simpa using nonempty,
        List.all_eq_true.mp List.all_takeWhile, first_dropWhile _ _⟩
      rwa [List.takeWhile_append_dropWhile]
  · rintro ⟨rest, clause, nonempty, each, stops⟩
    obtain ⟨trimmed, found, word⟩ := (clause_single_iff initial _ _).mpr clause
    have taken : (target ++ rest).takeWhile isTargetChar = target := by
      rw [List.takeWhile_append_of_pos each]
      cases rest with
      | nil => simp
      | cons c others => simp [stops c rfl]
    refine ⟨trimmed, found, target ++ rest, word, ?_⟩
    rw [taken, if_neg (by simpa using nonempty)]

theorem dropRun?_eq_some_iff (text rest : List Char) :
    dropRun? text = some rest ↔ ∃ run, run ≠ [] ∧ (∀ c ∈ run, Text.isBlank c = false) ∧
      text = run ++ rest ∧ ∀ c ∈ rest.head?, Text.isBlank c = true := by
  constructor
  · intro found
    cases text with
    | nil => contradiction
    | cons c others =>
        rw [dropRun?] at found
        split at found
        · contradiction
        · rename_i visible
          obtain rfl := Option.some.inj found
          refine ⟨(c :: others).takeWhile fun c => !Text.isBlank c, ?_, ?_, ?_, ?_⟩
          · simp [visible]
          · intro d member
            simpa using List.all_eq_true.mp List.all_takeWhile d member
          · rw [List.takeWhile_append_dropWhile]
          · intro d first
            simpa using first_dropWhile _ _ d first
  · rintro ⟨run, nonempty, solid, rfl, stops⟩
    exact dropRun?_append run rest nonempty solid stops

theorem dropCluster?_eq_some_iff (text rest : List Char) :
    dropCluster? text = some rest ↔ NamesCluster text rest := by
  have initial : Initial "on" 'o' := by decide
  simp only [dropCluster?, Option.bind_eq_bind, Option.bind_eq_some_iff, dropRun?_eq_some_iff]
  constructor
  · rintro ⟨trimmed, found, behind, words, cluster, nonempty, solid, rfl, stops⟩
    obtain ⟨word, clause, others⟩ := (clause_iff initial _ _ _).mp ⟨trimmed, found, words⟩
    obtain ⟨last, starts, same⟩ := (dropWords?_eq_some_iff _ _ _ _).mp others
    obtain rfl := Option.some.inj same
    exact ⟨word, cluster, clause, starts, nonempty, solid, stops⟩
  · rintro ⟨word, cluster, clause, starts, nonempty, solid, stops⟩
    have others := (dropWords?_eq_some_iff _ [] _ _).mpr ⟨_, starts, rfl⟩
    obtain ⟨trimmed, found, words⟩ := (clause_iff initial _ _ _).mpr ⟨word, clause, others⟩
    exact ⟨trimmed, found, _, words, cluster, nonempty, solid, rfl, stops⟩

theorem dropUuid?_eq_some_iff (text rest : List Char) :
    dropUuid? text = some rest ↔ NamesUuid text rest := by
  have initial : Initial "uuid" 'u' := by decide
  simp only [dropUuid?, Option.bind_eq_bind, Option.bind_eq_some_iff]
  constructor
  · rintro ⟨trimmed, found, behind, word, read⟩
    have clause := (clause_single_iff initial _ _).mp ⟨trimmed, found, word⟩
    split at read
    · rename_i inside
      split at read
      · rename_i mark others stopped
        obtain rfl := Option.some.inj read
        have isMark := first_dropWhile (fun c => c ≠ '\x27') inside mark (by rw [stopped]; rfl)
        obtain rfl : mark = '\x27' := by simpa using isMark
        refine ⟨inside.takeWhile fun c => c ≠ '\x27', ?_, ?_⟩
        · intro member
          simpa using List.all_eq_true.mp List.all_takeWhile _ member
        · rwa [← stopped, List.takeWhile_append_dropWhile]
      · contradiction
    · contradiction
  · rintro ⟨inside, unmarked, clause⟩
    obtain ⟨trimmed, found, word⟩ := (clause_single_iff initial _ _).mpr clause
    have stopped : (inside ++ '\x27' :: rest).dropWhile (fun c => c ≠ '\x27') = '\x27' :: rest := by
      rw [List.dropWhile_append_of_pos, List.dropWhile_cons_of_neg (by simp)]
      exact fun c member => decide_eq_true (ne_of_mem_of_not_mem member unmarked)
    refine ⟨trimmed, found, _, word, ?_⟩
    simp only [stopped]

theorem attempt_eq_some_iff {α : Type} {skip : List Char → Option (List Char)}
    {next : List Char → Option α} {text : List Char} {found : α}
    (apart : ∀ rest, skip text = some rest → next text = none) :
    attempt skip next text = some found ↔
      ∃ rest, (rest = text ∨ skip text = some rest) ∧ next rest = some found := by
  rw [attempt]
  cases skipped : skip text with
  | none => simp
  | some rest => simp [apart rest skipped]

theorem readTarget?_of_cluster {text rest : List Char} (skipped : dropCluster? text = some rest) :
    readTarget? text = none := by
  obtain ⟨behind, _, clause, _⟩ := (dropCluster?_eq_some_iff _ _).mp skipped
  rw [Option.eq_none_iff_forall_ne_some]
  intro target read
  obtain ⟨_, other, _⟩ := (readTarget?_eq_some_iff _ _).mp read
  have initial : Initial "on" 'o' := by decide
  have initial' : Initial "to" 't' := by decide
  exact clause.not_other initial initial' (by decide) other

theorem attempt_of_uuid {text rest : List Char} (skipped : dropUuid? text = some rest) :
    attempt dropCluster? readTarget? text = none := by
  obtain ⟨inside, _, clause⟩ := (dropUuid?_eq_some_iff _ _).mp skipped
  have initial : Initial "uuid" 'u' := by decide
  rw [Option.eq_none_iff_forall_ne_some]
  intro target came
  obtain ⟨last, isLast, read⟩ :=
    (attempt_eq_some_iff fun rest => readTarget?_of_cluster).mp came
  rcases isLast with rfl | named
  · obtain ⟨_, other, _⟩ := (readTarget?_eq_some_iff _ _).mp read
    have initial' : Initial "to" 't' := by decide
    exact clause.not_other initial initial' (by decide) other
  · obtain ⟨behind, _, other, _⟩ := (dropCluster?_eq_some_iff _ _).mp named
    have initial' : Initial "on" 'o' := by decide
    exact clause.not_other initial initial' (by decide) other

/-- The reader comes to a target exactly when the clauses name it. -/
theorem clauses_iff (text target : List Char) :
    attempt dropUuid? (attempt dropCluster? readTarget?) text = some target ↔
      ClausesName text target := by
  rw [attempt_eq_some_iff fun rest => attempt_of_uuid]
  simp only [attempt_eq_some_iff fun rest => readTarget?_of_cluster, ClausesName,
    readTarget?_eq_some_iff, dropCluster?_eq_some_iff, dropUuid?_eq_some_iff]

def behind (text : List Char) : List Char :=
  text.dropWhile fun c => !Text.isBlank c

def headText (ifNotExists : Bool) (view : TableName) (cluster : Option String)
    (target : TableName) (more : List Char) : List Char :=
  "CREATE".toList ++ ' ' :: ("MATERIALIZED".toList ++ ' ' :: ("VIEW".toList ++
    ' ' :: ifNew ifNotExists (written view ++ onCluster cluster (toTarget target more))))

theorem behind_append {text : List Char} (solid : ∀ c ∈ text, Text.isBlank c = false)
    (rest : List Char) : behind (text ++ rest) = behind rest :=
  List.dropWhile_append_of_pos fun c member => by simp [solid c member]

theorem behind_eq_nil_iff (text : List Char) :
    behind text = [] ↔ ∀ c ∈ text, Text.isBlank c = false := by
  constructor
  · intro empty c member
    have split := List.takeWhile_append_dropWhile (p := fun c => !Text.isBlank c) (l := text)
    change _ ++ behind text = text at split
    rw [empty, List.append_nil] at split
    rw [← split] at member
    simpa using List.all_eq_true.mp List.all_takeWhile c member
  · intro solid
    have dropped := behind_append solid []
    rwa [List.append_nil] at dropped

theorem mark_before_blank (table : TableName) {front rest : List Char} {c : Char}
    (blank : Text.isBlank c = true) (shape : written table = front ++ c :: rest) :
    '.' ∈ front ∨ '\x60' ∈ front := by
  have inName (name : String) {front rest : List Char}
      (shape : (Identifier.reference .grave name).toList = front ++ c :: rest) :
      '\x60' ∈ front := by
    rcases reference_cases .grave name with ⟨bare, _, plain⟩ | quoted
    · have member : c ∈ name.toList := by
        rw [← bare, shape]
        simp
      have visible := (Lexeme.isPlainChar_cases c (List.all_eq_true.mp plain c member)).2
      rw [visible] at blank
      contradiction
    · rw [quoted] at shape
      cases front with
      | nil =>
          obtain ⟨rfl, -⟩ := List.cons.inj shape
          exact absurd blank (by decide)
      | cons d others =>
          obtain ⟨rfl, -⟩ := List.cons.inj shape
          exact List.mem_cons_self ..
  rcases table with ⟨name, _ | schema⟩
  · exact .inr (inName name shape)
  · rw [written_of_schema, List.append_eq_append_iff] at shape
    rcases shape with ⟨between, rfl, shape⟩ | ⟨between, isSchema, shape⟩
    · cases between with
      | nil =>
          obtain ⟨rfl, -⟩ := List.cons.inj shape
          exact absurd blank (by decide)
      | cons d others =>
          obtain ⟨rfl, -⟩ := List.cons.inj shape
          simp
    · cases between with
      | nil =>
          obtain ⟨rfl, -⟩ := List.cons.inj shape
          exact absurd blank (by decide)
      | cons d others =>
          obtain ⟨rfl, -⟩ := List.cons.inj shape
          exact .inr (inName schema isSchema)

theorem exists_blank {text : List Char} (blank : behind text ≠ []) :
    ∃ run c rest, text = run ++ c :: rest ∧ behind text = c :: rest ∧
      (∀ d ∈ run, Text.isBlank d = false) ∧ Text.isBlank c = true := by
  obtain ⟨c, rest, isBehind⟩ := List.exists_cons_of_ne_nil blank
  have stops := first_dropWhile (fun c => !Text.isBlank c) text c
    (by rw [← behind, isBehind]; rfl)
  refine ⟨text.takeWhile fun c => !Text.isBlank c, c, rest, ?_, isBehind, ?_,
    Bool.not_eq_eq_eq_not.mp stops⟩
  · rw [← isBehind]
    exact List.takeWhile_append_dropWhile.symm
  · intro d member
    simpa using List.all_eq_true.mp List.all_takeWhile d member

theorem takeWhile_run {run rest : List Char} {c : Char}
    (solid : ∀ d ∈ run, Text.isBlank d = false) (blank : Text.isBlank c = true) :
    (run ++ c :: rest).takeWhile (fun c => !Text.isBlank c) = run := by
  rw [List.takeWhile_append_of_pos fun d member => by simp [solid d member],
    List.takeWhile_cons_of_neg (by simp [blank]), List.append_nil]

theorem Spells.letter {word : String} {text : List Char} (spelled : Spells word text) :
    ∀ c ∈ text, ∃ letter ∈ word.toList, sameLetter letter c = true := by
  rw [Spells] at spelled
  generalize word.toList = letters at spelled
  induction spelled with
  | nil => simp
  | cons same others ih =>
      rintro c (_ | ⟨_, member⟩)
      · exact ⟨_, List.mem_cons_self .., same⟩
      · obtain ⟨letter, isLetter, found⟩ := ih c member
        exact ⟨letter, List.mem_cons_of_mem _ isLetter, found⟩

theorem dropWords?_written (view : TableName) (cluster : Option String) (target : TableName)
    (more : List Char) : dropWords? ["if", "not", "exists"]
      (written view ++ onCluster cluster (toTarget target more)) = none := by
  by_cases blank : behind (written view) = []
  · obtain ⟨c, rest, shape, visible, differs⟩ := onCluster_toTarget cluster target more
    rw [shape]
    exact dropWords?_run_none "if" "not" ["exists"] _ _ _ (by simp; decide)
      ((behind_eq_nil_iff _).mp blank) visible differs
  · obtain ⟨run, e, others, shape, -, solid, isBlank⟩ := exists_blank blank
    rw [Option.eq_none_iff_forall_ne_some]
    intro rest found
    obtain ⟨_, ⟨front, gap, spelled, isGap, same, -⟩, -⟩ :=
      (dropWords?_eq_some_iff _ _ _ _).mp found
    have letters : ∀ c ∈ front, sameLetter 'i' c = true ∨ sameLetter 'f' c = true := by
      intro c member
      simpa using spelled.letter c member
    have solidFront : ∀ c ∈ front, Text.isBlank c = false := by
      intro c member
      exact (letters c member).elim (not_isBlank_of_sameLetter (by decide))
        (not_isBlank_of_sameLetter (by decide))
    have sameRun : run = front := by
      obtain ⟨d, gap', rfl⟩ := List.exists_cons_of_ne_nil isGap.1
      rw [shape, List.append_assoc, List.cons_append, List.cons_append] at same
      have runs := congrArg (List.takeWhile fun c => !Text.isBlank c) same
      rwa [takeWhile_run solid isBlank, takeWhile_run solidFront (isGap.2 d (by simp))] at runs
    subst sameRun
    rcases mark_before_blank view isBlank shape with dot | mark
    · exact absurd (letters _ dot) (by decide)
    · exact absurd (letters _ mark) (by decide)

theorem dropRun?_behind {text rest : List Char} (nonempty : text ≠ [])
    (starts : ∀ c ∈ text.head?, Text.isBlank c = false)
    (follows : ∀ c ∈ rest.head?, Text.isBlank c = true) :
    dropRun? (text ++ rest) = some (behind text ++ rest) := by
  rw [dropRun?_eq_some_iff]
  by_cases blank : behind text = []
  · refine ⟨text, nonempty, (behind_eq_nil_iff _).mp blank, ?_, ?_⟩
    · rw [blank, List.nil_append]
    · rwa [blank, List.nil_append]
  · obtain ⟨run, c, others, shape, isBehind, solid, isBlank⟩ := exists_blank blank
    refine ⟨run, ?_, solid, ?_, ?_⟩
    · rintro rfl
      rw [starts c (by rw [shape]; rfl)] at isBlank
      contradiction
    · rw [isBehind, ← List.append_assoc, ← shape]
    · simp [isBehind, isBlank]

theorem afterView?_written (view : TableName) (cluster : Option String) (target : TableName)
    (more : List Char) : afterView? (written view ++ onCluster cluster (toTarget target more)) =
      attempt dropUuid? (attempt dropCluster? readTarget?)
        (behind (written view) ++ onCluster cluster (toTarget target more)) := by
  obtain ⟨c, rest, shape, -, -⟩ := onCluster_toTarget cluster target more
  have follows : ∀ c ∈ (onCluster cluster (toTarget target more)).head?,
      Text.isBlank c = true := by
    simp [shape, Text.isBlank]
  have passed := dropRun?_behind (written_ne_nil view) (head_written view) follows
  rw [afterView?, passed]
  rfl

/-- What the reader makes of the head of a statement: a name is passed over up to its first blank,
and what stands behind that is taken for the clauses. -/
theorem written?_headText (ifNotExists : Bool) (view : TableName) (cluster : Option String)
    (target : TableName) (more : List Char) :
    written? (headText ifNotExists view cluster target more) =
      attempt dropUuid? (attempt dropCluster? readTarget?)
        (behind (written view) ++ onCluster cluster (toTarget target more)) := by
  have nameVisible : ∀ c ∈ (written view ++ onCluster cluster (toTarget target more)).head?,
      Text.isBlank c = false := visible_append (written_ne_nil view) (head_written view)
  have visible : ∀ c ∈ (ifNew ifNotExists
      (written view ++ onCluster cluster (toTarget target more))).head?,
      Text.isBlank c = false := by
    cases ifNotExists with
    | false => exact nameVisible
    | true => exact visible_word (by decide)
  rw [headText, written?, dropWhile_of_head _ _ (visible_word (by decide)),
    dropWords?_cons "create" _ _ _ (by rfl) (visible_word (by decide)), dropWords?,
    Option.some_or, Option.bind_eq_bind, Option.bind_some,
    dropWords?_cons "materialized" _ _ _ (by rfl) (visible_word (by decide)),
    dropWords?_cons "view" _ _ _ (by rfl) visible, dropWords?, Option.bind_some,
    ← afterView?_written]
  cases ifNotExists with
  | false => rw [ifNew, attempt_of_none (dropWords?_written view cluster target more)]
  | true =>
      have skipped : dropWords? ["if", "not", "exists"]
          (ifNew true (written view ++ onCluster cluster (toTarget target more))) =
            some (written view ++ onCluster cluster (toTarget target more)) := by
        rw [ifNew, dropWords?_cons "if" _ _ _ (by rfl) (visible_word (by decide)),
          dropWords?_cons "not" _ _ _ (by rfl) (visible_word (by decide)),
          dropWords?_cons "exists" _ _ _ (by rfl) nameVisible, dropWords?]
      rw [attempt_of_some skipped (afterView?_ifNew _)]

theorem attempt_onCluster (cluster : Option String) (target : TableName) (more : List Char) :
    attempt dropUuid? (attempt dropCluster? readTarget?)
      (onCluster cluster (toTarget target more)) =
        match cluster with
        | none => readPart? target
        | some name =>
          readTarget? (behind (Identifier.reference .grave name).toList ++ toTarget target more) := by
  cases cluster with
  | none =>
      obtain ⟨noUuid, noCluster, -⟩ := none_of_word
        ("TO".toList ++ ' ' :: (written target ++ ' ' :: more))
        (visible_word (by decide))
      rw [onCluster, toTarget, attempt_of_none (noUuid (by simp [dropWord?, sameLetter])),
        attempt_of_none (noCluster (by simp [dropWord?, sameLetter])), ← toTarget,
        readTarget?_toTarget]
  | some name =>
      have others := none_of_word ("ON".toList ++ ' ' :: ("CLUSTER".toList ++
        ' ' :: ((Identifier.reference .grave name).toList ++ toTarget target more)))
        (visible_word (by decide))
      have noUuid : dropUuid? (onCluster (some name) (toTarget target more)) = none :=
        others.1 (by simp [dropWord?, sameLetter])
      have noTarget : readTarget? (onCluster (some name) (toTarget target more)) = none :=
        others.2.2 (by simp [dropWord?, sameLetter])
      have skipped : dropCluster? (onCluster (some name) (toTarget target more)) =
          some (behind (Identifier.reference .grave name).toList ++ toTarget target more) := by
        rw [dropCluster?, onCluster, dropBlanks?_space _ (visible_word (by decide))]
        simp only [Option.bind_eq_bind, Option.bind_some]
        rw [dropWords?_cons "on" _ _ _ (by rfl) (visible_word (by decide)),
          dropWords?_cons "cluster" _ _ _ (by rfl)
            (visible_append (reference_ne_nil name) (head_reference name))]
        exact dropRun?_behind (reference_ne_nil name) (head_reference name)
          (by simp [toTarget, Text.isBlank])
      rw [attempt_of_none noUuid, attempt_of_some skipped noTarget]

/-- Whether no name before the target holds a blank. -/
structure IsSolid (view : TableName) (cluster : Option String) : Prop where
  name : ∀ c ∈ view.name.toList, Text.isBlank c = false
  schema : ∀ schema ∈ view.schema, ∀ c ∈ schema.toList, Text.isBlank c = false
  cluster : ∀ name ∈ cluster, ∀ c ∈ name.toList, Text.isBlank c = false

theorem mem_reference_of_mem {style : QuoteStyle} {name : String} {c : Char}
    (member : c ∈ name.toList) : c ∈ (Identifier.reference style name).toList := by
  rcases reference_cases style name with ⟨bare, _⟩ | quoted
  · rwa [bare]
  · rw [quoted]
    simp [mem_doubleMarks, member]

theorem behind_reference_eq_nil_iff (name : String) :
    behind (Identifier.reference .grave name).toList = [] ↔
      ∀ c ∈ name.toList, Text.isBlank c = false := by
  rw [behind_eq_nil_iff]
  constructor
  · intro solid c member
    exact solid c (mem_reference_of_mem member)
  · exact visible_reference name

theorem behind_written_eq_nil_iff (view : TableName) :
    behind (written view) = [] ↔ (∀ c ∈ view.name.toList, Text.isBlank c = false) ∧
      ∀ schema ∈ view.schema, ∀ c ∈ schema.toList, Text.isBlank c = false := by
  constructor
  · intro empty
    rw [behind_eq_nil_iff] at empty
    rcases view with ⟨name, _ | schema⟩
    · exact ⟨fun c member => empty c (mem_reference_of_mem member), by simp⟩
    · rw [written_of_schema] at empty
      refine ⟨fun c member => empty c ?_, ?_⟩
      · exact List.mem_append_right _ (List.mem_cons_of_mem _ (mem_reference_of_mem member))
      · rintro other ⟨⟩ c member
        exact empty c (List.mem_append_left _ (mem_reference_of_mem member))
  · rintro ⟨name, schema⟩
    exact (behind_eq_nil_iff _).mpr (visible_written view name schema).2

theorem isSolid_iff (view : TableName) (cluster : Option String) :
    IsSolid view cluster ↔ behind (written view) = [] ∧
      ∀ name ∈ cluster, behind (Identifier.reference .grave name).toList = [] := by
  simp only [behind_written_eq_nil_iff, behind_reference_eq_nil_iff]
  constructor
  · rintro ⟨name, schema, cluster⟩
    exact ⟨⟨name, schema⟩, cluster⟩
  · rintro ⟨⟨name, schema⟩, cluster⟩
    exact ⟨name, schema, cluster⟩

/-- What the names before the target name as a target themselves: from the first blank in them on,
they are taken for clauses. -/
inductive Strays (view : TableName) (cluster : Option String) (target : TableName)
    (more read : List Char) : Prop
  | view : behind (written view) ≠ [] →
      ClausesName (behind (written view) ++ onCluster cluster (toTarget target more)) read →
      Strays view cluster target more read
  | cluster (name : String) : behind (written view) = [] → cluster = some name →
      behind (Identifier.reference .grave name).toList ≠ [] →
      NamesTarget (behind (Identifier.reference .grave name).toList ++ toTarget target more) read →
      Strays view cluster target more read

theorem Strays.not_isSolid {view : TableName} {cluster : Option String} {target : TableName}
    {more read : List Char} (strays : Strays view cluster target more read) :
    ¬IsSolid view cluster := by
  rw [isSolid_iff]
  rintro ⟨viewSolid, clusterSolid⟩
  cases strays with
  | view blank _ => exact blank viewSolid
  | cluster name _ isName blank _ => exact blank (clusterSolid name isName)

theorem written?_of_isSolid {ifNotExists : Bool} {view : TableName} {cluster : Option String}
    (target : TableName) (more : List Char) (solid : IsSolid view cluster) :
    written? (headText ifNotExists view cluster target more) = readPart? target := by
  obtain ⟨viewSolid, clusterSolid⟩ := (isSolid_iff _ _).mp solid
  rw [written?_headText, viewSolid, List.nil_append, attempt_onCluster]
  cases cluster with
  | none => rfl
  | some name =>
      dsimp only
      rw [clusterSolid name rfl, List.nil_append, readTarget?_toTarget]

theorem written?_eq_some_iff {ifNotExists : Bool} {view : TableName} {cluster : Option String}
    (target : TableName) (more read : List Char) (blank : ¬IsSolid view cluster) :
    written? (headText ifNotExists view cluster target more) = some read ↔
      Strays view cluster target more read := by
  rw [isSolid_iff] at blank
  rw [written?_headText]
  by_cases viewSolid : behind (written view) = []
  · cases cluster with
    | none => exact absurd ⟨viewSolid, by simp⟩ blank
    | some name =>
        have clusterBlank : behind (Identifier.reference .grave name).toList ≠ [] := by
          intro solid
          refine blank ⟨viewSolid, ?_⟩
          rintro other ⟨⟩
          exact solid
        rw [viewSolid, List.nil_append, attempt_onCluster, readTarget?_eq_some_iff]
        constructor
        · exact .cluster name viewSolid rfl clusterBlank
        · rintro (⟨viewBlank, _⟩ | ⟨other, _, same, _, names⟩)
          · contradiction
          · obtain rfl := Option.some.inj same
            exact names
  · rw [clauses_iff]
    constructor
    · exact .view viewSolid
    · rintro (⟨_, names⟩ | ⟨_, isSolid, _⟩)
      · exact names
      · contradiction

end ClickHouse.ViewTarget
