import ClickHouse.Text.Words
import Mathlib.Data.List.Flatten

/-!
Names made of words. Splitting a name drops nothing but separators (`Text.words_flatten`); the words
of a name in camel case are put together in snake case, and a name in snake case stays as it is
(`Text.snakeCase_camel`, `Text.snakeCase_snake`).
-/

namespace ClickHouse.Text

theorem units_flatten (text : List Char) : (units text).flatten = text := by
  induction text with
  | nil => rfl
  | cons c rest ih =>
      rw [units.eq_def]
      dsimp only
      split
      · rename_i unit others split
        rw [split] at ih
        split <;> simpa using ih
      · rw [List.flatten_cons, ih, List.singleton_append]

theorem flatten_prependUnit (unit : TextUnit) (words : List (List Char)) :
    (prependUnit unit words).flatten = unit ++ words.flatten := by
  cases words with
  | nil => rfl
  | cons word rest => rw [prependUnit, List.flatten_cons, List.flatten_cons, List.append_assoc]

theorem filter_plain {unit : TextUnit} (rest : List TextUnit) (plain : ¬isSeparator unit = true) :
    ((unit :: rest).filter fun unit => !isSeparator unit) =
      unit :: rest.filter fun unit => !isSeparator unit :=
  List.filter_cons_of_pos (by simp [plain])

theorem wordsFrom_flatten (units : List TextUnit) :
    (wordsFrom units).flatten = (units.filter fun unit => !isSeparator unit).flatten := by
  induction units using wordsFrom.induct with
  | case1 => rfl
  | case2 unit separator => simp [wordsFrom, separator]
  | case3 unit plain => simp [wordsFrom, plain]
  | case4 unit next rest separator ih =>
      have left : ((unit :: next :: rest).filter fun unit => !isSeparator unit) =
          (next :: rest).filter fun unit => !isSeparator unit :=
        List.filter_cons_of_neg (by simp [separator])
      rw [wordsFrom, if_pos separator, left, List.flatten_cons, ih, List.nil_append]
  | case5 unit next rest plain ends ih =>
      rw [wordsFrom, if_neg plain, if_pos ends, filter_plain _ plain, List.flatten_cons, ih,
        List.flatten_cons]
  | case6 unit next rest plain goesOn ih =>
      rw [wordsFrom, if_neg plain, if_neg goesOn, filter_plain _ plain, flatten_prependUnit, ih,
        List.flatten_cons]

theorem flatten_filter_nonempty (words : List (List Char)) :
    (words.filter fun word => !word.isEmpty).flatten = words.flatten := by
  induction words with
  | nil => rfl
  | cons word rest ih =>
      cases word with
      | nil => simpa using ih
      | cons c others => simp [ih]

/-- The words of a name, none of them empty, are all of it but its separators. -/
theorem words_flatten (text : String) :
    (words text).flatten =
      ((units text.toList).filter fun unit => !isSeparator unit).flatten ∧
    ∀ word ∈ words text, word ≠ [] := by
  constructor
  · rw [words, flatten_filter_nonempty, wordsFrom_flatten]
  · intro word member
    simpa using (List.mem_filter.mp member).2

theorem units_ascii (text : List Char) (ascii : ∀ c ∈ text, c.toNat < 128) :
    units text = text.map fun c => [c] := by
  induction text with
  | nil => rfl
  | cons c rest ih =>
      obtain ⟨-, others⟩ := List.forall_mem_cons.mp ascii
      cases rest with
      | nil => rfl
      | cons next more =>
          have low : next.toNat < 128 := others next (List.mem_cons_self ..)
          have apart : (isMark next || isJoined next) = false := by
            simp only [isMark, isJoined, Bool.or_eq_false_iff, Bool.and_eq_false_iff,
              decide_eq_false_iff_not]
            omega
          rw [units.eq_def]
          dsimp only
          rw [ih others]
          simp [apart]

def IsSmall (c : Char) : Prop :=
  97 ≤ c.toNat ∧ c.toNat ≤ 122

structure SmallUnit (c : Char) : Prop where
  upper : isUpperUnit [c] = false
  lower : isLowerUnit [c] = true
  digit : isDigitUnit [c] = false
  separator : isSeparator [c] = false

structure CapitalUnit (c : Char) : Prop where
  upper : isUpperUnit [c] = true
  lower : isLowerUnit [c] = false
  digit : isDigitUnit [c] = false
  separator : isSeparator [c] = false

theorem IsSmall.unit {c : Char} (small : IsSmall c) : SmallUnit c := by
  have each : ∀ code ≤ 122, 97 ≤ code →
      isUpperUnit [Char.ofNat code] = false ∧ isLowerUnit [Char.ofNat code] = true ∧
        isDigitUnit [Char.ofNat code] = false ∧ isSeparator [Char.ofNat code] = false := by
    decide
  obtain ⟨upper, lower, digit, separator⟩ := each c.toNat small.2 small.1
  rw [Char.ofNat_toNat] at upper lower digit separator
  exact ⟨upper, lower, digit, separator⟩

theorem IsSmall.capital {c : Char} (small : IsSmall c) :
    CapitalUnit c.toUpper ∧ c.toUpper.toNat < 128 ∧ c.toUpper.toLower = c := by
  have each : ∀ code ≤ 122, 97 ≤ code →
      (isUpperUnit [(Char.ofNat code).toUpper] = true ∧
        isLowerUnit [(Char.ofNat code).toUpper] = false ∧
        isDigitUnit [(Char.ofNat code).toUpper] = false ∧
        isSeparator [(Char.ofNat code).toUpper] = false) ∧
      (Char.ofNat code).toUpper.toNat < 128 ∧
      (Char.ofNat code).toUpper.toLower = Char.ofNat code := by
    decide
  have own := each c.toNat small.2 small.1
  rw [Char.ofNat_toNat] at own
  obtain ⟨⟨upper, lower, digit, separator⟩, ascii, back⟩ := own
  exact ⟨⟨upper, lower, digit, separator⟩, ascii, back⟩

theorem IsSmall.toLower {c : Char} (small : IsSmall c) : c.toLower = c := by
  have each : ∀ code ≤ 122, 97 ≤ code → (Char.ofNat code).toLower = Char.ofNat code := by decide
  have own := each c.toNat small.2 small.1
  rwa [Char.ofNat_toNat] at own

theorem lowerChars_ascii (text : List Char) (ascii : ∀ c ∈ text, c.toNat < 128) :
    lowerChars text = text.map Char.toLower := by
  have all : (text.all fun c => decide (c.toNat < 128)) = true := by
    simpa using ascii
  rw [lowerChars, if_pos all]

def Follows (after : List TextUnit) (others : List (List Char)) : Prop :=
  ∀ c, IsSmall c → wordsFrom ([c] :: after) = [c] :: others

theorem follows_nil : Follows [] [] := by
  intro c small
  rw [wordsFrom, if_neg (by simp [small.unit.separator])]

theorem follows_separator (next : TextUnit) (rest : List TextUnit) :
    Follows (['_'] :: next :: rest) (wordsFrom (next :: rest)) := by
  intro c small
  have own : ¬isSeparator [c] = true := by simp [small.unit.separator]
  rw [wordsFrom, if_neg own, if_neg (by simp [isSeparator]), wordsFrom, if_pos (by decide)]
  rfl

theorem follows_capital {capital : Char} (rest : List TextUnit) (isCapital : CapitalUnit capital) :
    Follows ([capital] :: rest) (wordsFrom ([capital] :: rest)) := by
  intro c small
  have own : ¬isSeparator [c] = true := by simp [small.unit.separator]
  have rises : (!isSeparator [capital] && breaks [c] [capital] rest) = true := by
    simp [breaks, breaksBetween, isCapital.separator, isCapital.upper, small.unit.lower]
  rw [wordsFrom, if_neg own, if_pos rises]

theorem goesOn_small {unit : TextUnit} {c : Char} (rest : List TextUnit)
    (small : IsSmall c) (own : isSeparator unit = false) (letter : isDigitUnit unit = false) :
    wordsFrom (unit :: [c] :: rest) = prependUnit unit (wordsFrom ([c] :: rest)) := by
  have same : breaks unit [c] rest = false := by
    cases rest <;>
      simp [breaks, breaksBetween, breaksBefore, letter, small.unit.upper, small.unit.digit]
  rw [wordsFrom, if_neg (by simp [own]), if_neg (by simp [same])]

theorem wordsFrom_run {after : List TextUnit} {others : List (List Char)} (c : Char)
    (run : List Char) (small : ∀ letter ∈ c :: run, IsSmall letter)
    (follows : Follows after others) :
    wordsFrom (((c :: run).map fun letter => [letter]) ++ after) = (c :: run) :: others := by
  induction run generalizing c with
  | nil => exact follows c (small c (List.mem_cons_self ..))
  | cons next rest ih =>
      obtain ⟨first, behind⟩ := List.forall_mem_cons.mp small
      have nextSmall : IsSmall next := behind next (List.mem_cons_self ..)
      have inner := ih next behind
      rw [List.map_cons, List.cons_append] at inner ⊢
      rw [List.map_cons, List.cons_append,
        goesOn_small _ nextSmall first.unit.separator first.unit.digit, inner]
      rfl

/-- A word of small letters, long enough that its first letter as a capital does not make one run
with the next word's. -/
structure IsWord (word : List Char) : Prop where
  long : 2 ≤ word.length
  small : ∀ c ∈ word, IsSmall c

def capitalised : List Char → List Char
  | [] => []
  | c :: rest => c.toUpper :: rest

theorem wordsFrom_capitalised {after : List TextUnit} {others : List (List Char)} {word : List Char}
    (isWord : IsWord word) (follows : Follows after others) :
    wordsFrom (((capitalised word).map fun c => [c]) ++ after) = capitalised word :: others := by
  obtain ⟨long, small⟩ := isWord
  obtain _ | ⟨c, _ | ⟨next, rest⟩⟩ := word
  · simp at long
  · simp at long
  · obtain ⟨first, behind⟩ := List.forall_mem_cons.mp small
    have capital := first.capital.1
    have nextSmall : IsSmall next := behind next (List.mem_cons_self ..)
    have run := wordsFrom_run next rest behind follows
    rw [List.map_cons, List.cons_append] at run
    rw [capitalised, List.map_cons, List.map_cons, List.cons_append, List.cons_append,
      goesOn_small _ nextSmall capital.separator capital.digit, run]
    rfl

theorem follows_capitalised (words : List (List Char)) (each : ∀ word ∈ words, IsWord word) :
    Follows ((words.flatMap capitalised).map fun c => [c]) (words.map capitalised) := by
  induction words with
  | nil => exact follows_nil
  | cons word rest ih =>
      obtain ⟨isWord, others⟩ := List.forall_mem_cons.mp each
      have whole := wordsFrom_capitalised isWord (ih others)
      rw [← List.map_append, ← List.flatMap_cons] at whole
      obtain ⟨long, small⟩ := isWord
      cases word with
      | nil => simp at long
      | cons c letters =>
          have capital := (small c (List.mem_cons_self ..)).capital.1
          rw [List.map_cons, ← whole]
          exact follows_capital _ capital

theorem small_ascii {c : Char} (small : IsSmall c) : c.toNat < 128 := by
  have below := small.2
  omega

theorem map_toLower_small {word : List Char} (small : ∀ c ∈ word, IsSmall c) :
    word.map Char.toLower = word := by
  have same : word.map Char.toLower = word.map id :=
    List.map_congr_left fun c member => (small c member).toLower
  rw [same, List.map_id]

theorem capitalised_ascii {word : List Char} (small : ∀ c ∈ word, IsSmall c) :
    ∀ c ∈ capitalised word, c.toNat < 128 := by
  cases word with
  | nil => intro c member; cases member
  | cons first rest =>
      obtain ⟨head, behind⟩ := List.forall_mem_cons.mp small
      rw [capitalised, List.forall_mem_cons]
      exact ⟨head.capital.2.1, fun c member => small_ascii (behind c member)⟩

theorem lowerChars_capitalised {word : List Char} (small : ∀ c ∈ word, IsSmall c) :
    lowerChars (capitalised word) = word := by
  rw [lowerChars_ascii _ (capitalised_ascii small)]
  cases word with
  | nil => rfl
  | cons first rest =>
      obtain ⟨head, behind⟩ := List.forall_mem_cons.mp small
      rw [capitalised, List.map_cons, head.capital.2.2, map_toLower_small behind]

theorem snakeCase_eq {text : List Char} {parts named : List (List Char)}
    (split : (wordsFrom (units text)).filter (fun word => !word.isEmpty) = parts)
    (lowered : parts.map lowerChars = named) :
    snakeCase (String.ofList text) = String.ofList (List.intercalate ['_'] named) := by
  rw [snakeCase, words, String.toList_ofList, split, lowered]

theorem filter_nonempty {parts : List (List Char)} (each : ∀ part ∈ parts, part ≠ []) :
    parts.filter (fun word => !word.isEmpty) = parts := by
  rw [List.filter_eq_self]
  intro part member
  simpa using each part member

/-- A name in camel case is the same words with underscores between them. -/
theorem snakeCase_camel (words : List (List Char)) (each : ∀ word ∈ words, IsWord word) :
    snakeCase (String.ofList (words.flatMap capitalised)) =
      String.ofList (List.intercalate ['_'] words) := by
  have ascii : ∀ c ∈ words.flatMap capitalised, c.toNat < 128 := by
    intro c member
    obtain ⟨word, isMember, inside⟩ := List.mem_flatMap.mp member
    exact capitalised_ascii (each word isMember).small c inside
  have lowered : (words.map capitalised).map lowerChars = words := by
    have same : words.map (lowerChars ∘ capitalised) = words.map id :=
      List.map_congr_left fun word member => lowerChars_capitalised (each word member).small
    rw [List.map_map, same, List.map_id]
  refine snakeCase_eq ?_ lowered
  rw [units_ascii _ ascii]
  cases words with
  | nil => rfl
  | cons word rest =>
      obtain ⟨isWord, others⟩ := List.forall_mem_cons.mp each
      rw [List.flatMap_cons, List.map_append,
        wordsFrom_capitalised isWord (follows_capitalised rest others)]
      rw [← List.map_cons]
      refine filter_nonempty fun part member => ?_
      obtain ⟨word, isMember, rfl⟩ := List.mem_map.mp member
      have long := (each word isMember).long
      cases word with
      | nil => simp at long
      | cons c letters => simp [capitalised]

theorem follows_joined (words : List (List Char))
    (each : ∀ word ∈ words, word ≠ [] ∧ ∀ c ∈ word, IsSmall c) :
    Follows ((words.flatMap fun word => '_' :: word).map fun c => [c]) words := by
  induction words with
  | nil => exact follows_nil
  | cons word rest ih =>
      obtain ⟨⟨nonempty, small⟩, others⟩ := List.forall_mem_cons.mp each
      cases word with
      | nil => exact absurd rfl nonempty
      | cons c letters =>
          have run := wordsFrom_run c letters small (ih others)
          rw [← List.map_append] at run
          rw [List.cons_append, List.map_cons] at run
          rw [List.flatMap_cons, List.cons_append, List.cons_append, List.map_cons, List.map_cons,
            ← run]
          exact follows_separator [c] _

theorem intercalate_separator (word : List Char) (rest : List (List Char)) :
    List.intercalate ['_'] (word :: rest) = word ++ rest.flatMap fun word => '_' :: word := by
  induction rest generalizing word with
  | nil => simp [List.intercalate]
  | cons next more ih =>
      have inner := ih next
      rw [List.intercalate] at inner ⊢
      rw [List.intersperse_cons_cons, List.flatten_cons, List.flatten_cons, inner]
      simp

/-- A name in snake case stays as it is. -/
theorem snakeCase_snake (words : List (List Char))
    (each : ∀ word ∈ words, word ≠ [] ∧ ∀ c ∈ word, IsSmall c) :
    snakeCase (String.ofList (List.intercalate ['_'] words)) =
      String.ofList (List.intercalate ['_'] words) := by
  have ascii : ∀ c ∈ List.intercalate ['_'] words, c.toNat < 128 := by
    intro c member
    cases words with
    | nil => cases member
    | cons word rest =>
        rw [intercalate_separator, List.mem_append] at member
        obtain ⟨⟨-, small⟩, others⟩ := List.forall_mem_cons.mp each
        obtain inside | inside := member
        · exact small_ascii (small c inside)
        · obtain ⟨next, isMember, within⟩ := List.mem_flatMap.mp inside
          obtain rfl | letter := List.mem_cons.mp within
          · decide
          · exact small_ascii ((others next isMember).2 c letter)
  have lowered : words.map lowerChars = words := by
    have same : words.map lowerChars = words.map id := by
      refine List.map_congr_left fun word member => ?_
      obtain ⟨-, small⟩ := each word member
      rw [lowerChars_ascii _ fun c inside => small_ascii (small c inside),
        map_toLower_small small, id]
    rw [same, List.map_id]
  refine snakeCase_eq ?_ lowered
  rw [units_ascii _ ascii]
  cases words with
  | nil => rfl
  | cons word rest =>
      obtain ⟨⟨nonempty, small⟩, others⟩ := List.forall_mem_cons.mp each
      cases word with
      | nil => exact absurd rfl nonempty
      | cons c letters =>
          rw [intercalate_separator, List.map_append,
            wordsFrom_run c letters small (follows_joined rest others)]
          exact filter_nonempty fun part member => (each part member).1

end ClickHouse.Text
