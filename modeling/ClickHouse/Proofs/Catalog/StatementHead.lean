import ClickHouse.Catalog
import ClickHouse.Proofs.Identifier.Reference
import ClickHouse.Proofs.Lexeme.Item

/-!
The words and names in the head of the statement that made a view, read one by one. No word of the
head is taken for another, and the reader takes a target as far as its characters go
(`ViewTarget.readTarget?_toTarget`).
-/

namespace ClickHouse.ViewTarget

theorem dropWord?_append (word text more : List Char) (found : dropWord? word text = some []) :
    dropWord? word (text ++ more) = some more := by
  induction word generalizing text with
  | nil =>
      obtain rfl : text = [] := by simpa [dropWord?] using found
      rfl
  | cons letter rest ih =>
      cases text with
      | nil => simp [dropWord?] at found
      | cons c others =>
          simp only [dropWord?, List.cons_append] at found ⊢
          split at found
          · rename_i same
            rw [if_pos same, ih others found]
          · contradiction

theorem dropWhile_of_head (drops : Char → Bool) (text : List Char)
    (stays : ∀ c ∈ text.head?, drops c = false) : text.dropWhile drops = text := by
  cases text with
  | nil => rfl
  | cons c rest => rw [List.dropWhile_cons_of_neg (by simp [stays c rfl])]

theorem dropBlanks?_space (text : List Char) (visible : ∀ c ∈ text.head?, Text.isBlank c = false) :
    dropBlanks? (' ' :: text) = some text := by
  rw [dropBlanks?, if_pos (by decide), dropWhile_of_head _ text visible]

theorem dropWords?_cons (word : String) (words : List String) (written text : List Char)
    (same : dropWord? word.toList written = some [])
    (visible : ∀ c ∈ text.head?, Text.isBlank c = false) :
    dropWords? (word :: words) (written ++ ' ' :: text) = dropWords? words text := by
  rw [dropWords?, dropWord?_append _ _ _ same]
  change (dropBlanks? (' ' :: text)).bind _ = _
  rw [dropBlanks?_space text visible]
  rfl

theorem dropRun?_append (run text : List Char) (nonempty : run ≠ [])
    (solid : ∀ c ∈ run, Text.isBlank c = false)
    (follows : ∀ c ∈ text.head?, Text.isBlank c = true) : dropRun? (run ++ text) = some text := by
  have dropped : (run ++ text).dropWhile (fun c => !Text.isBlank c) = text := by
    rw [List.dropWhile_append_of_pos fun c member => by simp [solid c member]]
    exact dropWhile_of_head _ text fun c first => by simp [follows c first]
  cases run with
  | nil => contradiction
  | cons c rest =>
      simp only [dropRun?, List.cons_append, solid c (by simp), Bool.false_eq_true, if_false]
      exact congrArg some dropped

theorem dropWord?_run (word run text : List Char)
    (solid : ∀ letter ∈ word, sameLetter letter ' ' = false) :
    dropWord? word (run ++ ' ' :: text) = (dropWord? word run).map (· ++ ' ' :: text) := by
  induction word generalizing run with
  | nil => rfl
  | cons letter rest ih =>
      rw [List.forall_mem_cons] at solid
      cases run with
      | nil => simp [dropWord?, solid.1]
      | cons c others =>
          simp only [List.cons_append, dropWord?]
          split
          · exact ih others solid.2
          · rfl

theorem dropWord?_suffix (word text rest : List Char) (found : dropWord? word text = some rest) :
    rest <:+ text := by
  induction word generalizing text with
  | nil =>
      obtain rfl : text = rest := by simpa [dropWord?] using found
      exact List.suffix_refl _
  | cons letter others ih =>
      cases text with
      | nil => simp [dropWord?] at found
      | cons c more =>
          simp only [dropWord?] at found
          split at found
          · exact (ih more found).trans (List.suffix_cons c more)
          · contradiction

theorem dropWords?_run_none (word second : String) (words : List String) (run text : List Char)
    (c : Char) (solidWord : ∀ letter ∈ word.toList, sameLetter letter ' ' = false)
    (solid : ∀ d ∈ run, Text.isBlank d = false) (visible : Text.isBlank c = false)
    (differs : dropWord? second.toList (c :: text) = none) :
    dropWords? (word :: second :: words) (run ++ ' ' :: c :: text) = none := by
  rw [dropWords?, dropWord?_run _ _ _ solidWord]
  cases found : dropWord? word.toList run with
  | none => rfl
  | some rest =>
      change (dropBlanks? (rest ++ ' ' :: c :: text)).bind _ = none
      cases rest with
      | nil =>
          rw [List.nil_append, dropBlanks?_space _ (by simpa using visible)]
          simp [dropWords?, differs]
      | cons d others =>
          have inRun : d ∈ run := (dropWord?_suffix _ _ _ found).subset (by simp)
          simp [dropBlanks?, solid d inRun]

theorem reference_cases (style : QuoteStyle) (name : String) :
    (Identifier.reference style name = name ∧ name ≠ "" ∧
        name.toList.all Identifier.isPlainChar = true) ∨
      (Identifier.reference style name).toList =
        style.mark :: ((Identifier.doubleMarks style name).toList ++ [style.mark]) := by
  unfold Identifier.reference
  cases quoted : Identifier.requiresQuotes name with
  | false =>
      obtain ⟨nonempty, plain⟩ := Identifier.isPlainChar_of_not_requiresQuotes name quoted
      exact Or.inl ⟨by simp, nonempty, plain⟩
  | true => exact Or.inr (by simp)

theorem mem_doubleMarks {style : QuoteStyle} (name : String) (c : Char) :
    c ∈ (Identifier.doubleMarks style name).toList ↔ c ∈ name.toList := by
  rw [Identifier.doubleMarks, String.toList_ofList, List.mem_flatMap]
  constructor
  · rintro ⟨d, member, found⟩
    split at found <;> simp_all
  · intro member
    exact ⟨c, member, by split <;> simp⟩

theorem mem_reference {style : QuoteStyle} (name : String) (c : Char)
    (member : c ∈ (Identifier.reference style name).toList) :
    c ∈ name.toList ∨ c = style.mark := by
  rcases reference_cases style name with ⟨bare, _⟩ | quoted
  · rw [bare] at member
    exact Or.inl member
  · rw [quoted, List.mem_cons, List.mem_append, mem_doubleMarks, List.mem_singleton] at member
    rcases member with mark | inside | mark
    · exact Or.inr mark
    · exact Or.inl inside
    · exact Or.inr mark

theorem filter_reference (name : String) :
    (Identifier.reference .grave name).toList.filter (fun c => c ≠ '\x60') =
      name.toList.filter (fun c => c ≠ '\x60') := by
  rcases reference_cases .grave name with ⟨bare, _⟩ | quoted
  · rw [bare]
  · rw [quoted, List.filter_cons_of_neg (by decide), List.filter_append, Identifier.doubleMarks,
      String.toList_ofList]
    induction name.toList with
    | nil => rfl
    | cons c rest ih =>
        by_cases mark : c = '\x60'
        · simpa [QuoteStyle.mark, mark] using ih
        · simpa [QuoteStyle.mark, mark] using ih

theorem reference_ne_nil {style : QuoteStyle} (name : String) :
    (Identifier.reference style name).toList ≠ [] := by
  rcases reference_cases style name with ⟨bare, nonempty, _⟩ | quoted
  · rw [bare]
    simpa using nonempty
  · rw [quoted]
    exact List.cons_ne_nil _ _

theorem visible_mark (style : QuoteStyle) : Text.isBlank style.mark = false := by
  cases style <;> decide

theorem visible_reference {style : QuoteStyle} (name : String)
    (solid : ∀ c ∈ name.toList, Text.isBlank c = false) :
    ∀ c ∈ (Identifier.reference style name).toList, Text.isBlank c = false := by
  intro c member
  rcases mem_reference name c member with inside | rfl
  · exact solid c inside
  · exact visible_mark style

theorem head_reference {style : QuoteStyle} (name : String) :
    ∀ c ∈ (Identifier.reference style name).toList.head?, Text.isBlank c = false := by
  intro c first
  rcases reference_cases style name with ⟨bare, _, plain⟩ | quoted
  · rw [bare] at first
    have inside : c ∈ name.toList := List.mem_of_mem_head? first
    exact (Lexeme.isPlainChar_cases c (List.all_eq_true.mp plain c inside)).2
  · rw [quoted] at first
    obtain rfl : c = style.mark := by simpa using first.symm
    exact visible_mark style

def written (table : TableName) : List Char :=
  (table.reference .grave).toList

theorem written_of_schema (name schema : String) : written ⟨name, some schema⟩ =
    (Identifier.reference .grave schema).toList ++
      '.' :: (Identifier.reference .grave name).toList := by
  simp [written, TableName.reference]

theorem visible_written (table : TableName)
    (solidName : ∀ c ∈ table.name.toList, Text.isBlank c = false)
    (solidSchema : ∀ schema ∈ table.schema, ∀ c ∈ schema.toList, Text.isBlank c = false) :
    written table ≠ [] ∧ ∀ c ∈ written table, Text.isBlank c = false := by
  rcases table with ⟨name, _ | schema⟩
  · exact ⟨reference_ne_nil name, visible_reference name solidName⟩
  · rw [written_of_schema]
    refine ⟨by simp, fun c member => ?_⟩
    rw [List.mem_append, List.mem_cons] at member
    rcases member with inSchema | rfl | inName
    · exact visible_reference schema (solidSchema schema rfl) c inSchema
    · decide
    · exact visible_reference name solidName c inName

theorem head_written (table : TableName) :
    ∀ c ∈ (written table).head?, Text.isBlank c = false := by
  rcases table with ⟨name, _ | schema⟩
  · exact head_reference name
  · rw [written_of_schema]
    intro c first
    rw [List.head?_append, Option.or_of_isSome (by simp [reference_ne_nil schema])] at first
    exact head_reference schema c first

theorem mem_written (table : TableName) (c : Char) (member : c ∈ written table) :
    c ∈ table.name.toList ∨ (∃ schema ∈ table.schema, c ∈ schema.toList) ∨ c = '\x60' ∨
      c = '.' := by
  rcases table with ⟨name, _ | schema⟩
  · rcases mem_reference name c member with inName | mark
    · exact Or.inl inName
    · exact Or.inr (Or.inr (Or.inl mark))
  · rw [written_of_schema, List.mem_append, List.mem_cons] at member
    rcases member with inSchema | dot | inName
    · rcases mem_reference schema c inSchema with inSchema | mark
      · exact Or.inr (Or.inl ⟨schema, rfl, inSchema⟩)
      · exact Or.inr (Or.inr (Or.inl mark))
    · exact Or.inr (Or.inr (Or.inr dot))
    · rcases mem_reference name c inName with inName | mark
      · exact Or.inl inName
      · exact Or.inr (Or.inr (Or.inl mark))

theorem attempt_of_none {α : Type} {skip : List Char → Option (List Char)}
    {next : List Char → Option α} {text : List Char} (missing : skip text = none) :
    attempt skip next text = next text := by
  rw [attempt, missing]
  rfl

theorem attempt_of_some {α : Type} {skip : List Char → Option (List Char)}
    {next : List Char → Option α} {text rest : List Char} (given : skip text = some rest)
    (otherwise : next text = none) : attempt skip next text = next rest := by
  rw [attempt, given, otherwise, Option.or_none]
  rfl

def readPart? (target : TableName) : Option (List Char) :=
  let read := (written target).takeWhile isTargetChar
  if read.isEmpty then none else some read

def toTarget (target : TableName) (more : List Char) : List Char :=
  ' ' :: ("TO".toList ++ ' ' :: (written target ++ ' ' :: more))

def onCluster : Option String → List Char → List Char
  | none, rest => rest
  | some cluster, rest =>
    ' ' :: ("ON".toList ++ ' ' :: ("CLUSTER".toList ++
      ' ' :: ((Identifier.reference .grave cluster).toList ++ rest)))

def ifNew : Bool → List Char → List Char
  | false, rest => rest
  | true, rest => "IF".toList ++ ' ' :: ("NOT".toList ++ ' ' :: ("EXISTS".toList ++ ' ' :: rest))

theorem visible_append {text rest : List Char} (nonempty : text ≠ [])
    (visible : ∀ c ∈ text.head?, Text.isBlank c = false) :
    ∀ c ∈ (text ++ rest).head?, Text.isBlank c = false := by
  intro c first
  rw [List.head?_append, Option.or_of_isSome (by simpa using nonempty)] at first
  exact visible c first

theorem visible_word {word rest : List Char}
    (starts : word.head?.any (fun c => !Text.isBlank c) = true) :
    ∀ c ∈ (word ++ rest).head?, Text.isBlank c = false := by
  cases word with
  | nil => simp at starts
  | cons first word => simpa using starts

theorem written_ne_nil (table : TableName) : written table ≠ [] := by
  rcases table with ⟨name, _ | schema⟩
  · exact reference_ne_nil name
  · rw [written_of_schema]
    simp

theorem readTarget?_toTarget (target : TableName) (more : List Char) :
    readTarget? (toTarget target more) = readPart? target := by
  have visible : ∀ c ∈ (written target ++ ' ' :: more).head?, Text.isBlank c = false :=
    visible_append (written_ne_nil target) (head_written target)
  have word := dropWords?_cons "to" [] "TO".toList _ (by rfl) visible
  have read : (written target ++ ' ' :: more).takeWhile isTargetChar =
      (written target).takeWhile isTargetChar := by
    rw [List.takeWhile_append, List.takeWhile_cons_of_neg (by decide), List.append_nil]
    split
    · rename_i whole
      exact ((List.takeWhile_sublist _).eq_of_length whole).symm
    · rfl
  rw [readTarget?, toTarget, dropBlanks?_space _ (visible_word (by decide))]
  simp only [Option.bind_eq_bind, Option.bind_some]
  rw [word]
  simp only [dropWords?, Option.bind_some, read, readPart?]

theorem dropWords?_none {word : String} (words : List String) {text : List Char}
    (missing : dropWord? word.toList text = none) : dropWords? (word :: words) text = none := by
  rw [dropWords?, missing]
  rfl

theorem none_of_word (text : List Char) (visible : ∀ c ∈ text.head?, Text.isBlank c = false) :
    (dropWord? "uuid".toList text = none → dropUuid? (' ' :: text) = none) ∧
      (dropWord? "on".toList text = none → dropCluster? (' ' :: text) = none) ∧
      (dropWord? "to".toList text = none → readTarget? (' ' :: text) = none) := by
  refine ⟨?_, ?_, ?_⟩
  · intro missing
    simp [dropUuid?, dropBlanks?_space text visible, dropWords?_none [] missing]
  · intro missing
    simp [dropCluster?, dropBlanks?_space text visible, dropWords?_none ["cluster"] missing]
  · intro missing
    simp [readTarget?, dropBlanks?_space text visible, dropWords?_none [] missing]

/-- What follows the name of a view starts with a blank and another word than the ones that could
stand before the name. -/
theorem onCluster_toTarget (cluster : Option String) (target : TableName) (more : List Char) :
    ∃ c rest, onCluster cluster (toTarget target more) = ' ' :: c :: rest ∧
      Text.isBlank c = false ∧ dropWord? "not".toList (c :: rest) = none := by
  cases cluster with
  | none =>
      exact ⟨'T', 'O' :: ' ' :: (written target ++ ' ' :: more), rfl, by decide,
        by simp [dropWord?, sameLetter]⟩
  | some name => exact ⟨'O', _, rfl, by decide, by simp [dropWord?, sameLetter]⟩

theorem afterView?_ifNew (text : List Char) : afterView? (ifNew true text) = none := by
  have others := none_of_word ("NOT".toList ++ ' ' :: ("EXISTS".toList ++ ' ' :: text))
    (visible_word (by decide))
  have passed := dropRun?_append "IF".toList
    (' ' :: ("NOT".toList ++ ' ' :: ("EXISTS".toList ++ ' ' :: text))) (by decide)
    (by simp [Text.isBlank]) (by simp [Text.isBlank])
  rw [afterView?, ifNew, passed]
  simp only [Option.bind_eq_bind, Option.bind_some]
  rw [attempt_of_none (others.1 (by simp [dropWord?, sameLetter])),
    attempt_of_none (others.2.1 (by simp [dropWord?, sameLetter])),
    others.2.2 (by simp [dropWord?, sameLetter])]

end ClickHouse.ViewTarget
