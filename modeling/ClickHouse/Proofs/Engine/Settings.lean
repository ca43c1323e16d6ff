import ClickHouse.Proofs.Engine.ClauseBody

/-!
Settings behind the key clauses. Their clause is split into the written settings, which come back
in the order of their keys.
-/

namespace ClickHouse.EngineDefinition

open Lexeme

def Ordered (settings : List (String × String)) : Prop :=
  settings.Pairwise fun first second => first.1 < second.1

theorem insertSetting_last (key value : String) (settings : List (String × String))
    (before : ∀ entry ∈ settings, entry.1 < key) :
    insertSetting key value settings = settings ++ [(key, value)] := by
  induction settings with
  | nil => rfl
  | cons entry rest ih =>
      obtain ⟨other, old⟩ := entry
      have less : other < key := before (other, old) (by simp)
      have different : key ≠ other := by
        rintro rfl
        exact String.lt_irrefl key less
      rw [insertSetting, if_neg different, if_neg (String.lt_asymm less),
        ih fun entry member => before entry (List.mem_cons_of_mem _ member)]
      rfl

theorem foldl_insertSetting (earlier later : List (String × String))
    (ordered : Ordered (earlier ++ later)) :
    later.foldl (fun settings entry => insertSetting entry.1 entry.2 settings) earlier =
      earlier ++ later := by
  induction later generalizing earlier with
  | nil => simp
  | cons entry rest ih =>
      -- the entry follows all earlier ones, so it is added at their end
      have before : ∀ other ∈ earlier, other.1 < entry.1 := by
        intro other member
        exact (List.pairwise_append.mp ordered).2.2 other member entry (by simp)
      have moved : earlier ++ entry :: rest = (earlier ++ [entry]) ++ rest := by simp
      rw [List.foldl_cons, insertSetting_last _ _ _ before, moved]
      rw [moved] at ordered
      exact ih _ ordered

theorem settingsOf_ordered (settings : List (String × String)) (ordered : Ordered settings) :
    settingsOf settings = settings :=
  foldl_insertSetting [] settings ordered

/-- The key is a word without capital letters, the value a number or a literal. -/
structure IsSetting (setting : String × String) : Prop where
  word : Identifier.isWord setting.1 = true
  small : ∀ c ∈ setting.1.toList, c.isUpper = false
  value : (setting.2 ≠ "" ∧ ∀ c ∈ setting.2.toList, c.isDigit = true) ∨
    ∃ text, setting.2 = Text.quote text

def settingText (setting : String × String) : String :=
  setting.1 ++ "=" ++ setting.2

namespace IsSetting

variable {setting : String × String}

theorem isItem_value (isSetting : IsSetting setting) : IsItem setting.2 := by
  rcases isSetting.value with ⟨nonempty, digits⟩ | ⟨text, isQuoted⟩
  · apply isItem_plain setting.2 nonempty
    rw [List.all_eq_true]
    intro c member
    simp [Identifier.isPlainChar, Char.isAlphanum, digits c member]
  · rw [isQuoted]
    exact isItem_literal text

theorem spells_value (isSetting : IsSetting setting) :
    ∃ kind : Kind, (kind = .number ∨ kind = .literal) ∧ kind.spells setting.2.toList = true := by
  rcases isSetting.value with ⟨nonempty, digits⟩ | ⟨text, isQuoted⟩
  · refine ⟨.number, Or.inl rfl, ?_⟩
    cases characters : setting.2.toList with
    | nil => exact absurd (by simpa using characters) nonempty
    | cons first rest =>
        rw [characters] at digits
        simp only [Kind.spells, Bool.and_eq_true, List.all_eq_true]
        exact ⟨digits first (by simp), fun c member => digits c (List.mem_cons_of_mem _ member)⟩
  · rw [isQuoted]
    exact ⟨.literal, Or.inr rfl, spells_literal text⟩

theorem idle_key (isSetting : IsSetting setting) : Idle ⟨[], .word, setting.1.toList⟩ :=
  idle_word setting.1 fun c isFirst => isSetting.small c (List.mem_of_head? isFirst)

theorem scanned (isSetting : IsSetting setting) :
    ∃ lexemes, lexemes ≠ [] ∧ scan? (settingText setting).toList = some ⟨lexemes, []⟩ ∧
      Contained Kind.endsPart 0 lexemes = true ∧ ∀ lexeme ∈ lexemes, Idle lexeme := by
  obtain ⟨kind, isValue, spelled⟩ := isSetting.spells_value
  have behind := scan?_mark_some (c := '=') rfl (scan?_spells kind _ spelled)
  have whole := scan?_append_some
    (scan?_spells .word _ (spells_word setting.1 isSetting.word))
    (separates_mark '=' setting.2.toList .equals rfl) behind
  have characters : (settingText setting).toList = setting.1.toList ++ '=' :: setting.2.toList := by
    simp [settingText]
  rw [← characters] at whole
  refine ⟨[⟨[], .word, setting.1.toList⟩, ⟨[], .equals, ['=']⟩, ⟨[], kind, setting.2.toList⟩],
    List.cons_ne_nil _ _, whole, ?_, ?_⟩
  · rcases isValue with rfl | rfl <;> rfl
  · simp only [List.forall_mem_cons]
    refine ⟨isSetting.idle_key, ⟨rfl, rfl, by simp⟩, ?_, by simp⟩
    rcases isValue with rfl | rfl
    · exact ⟨rfl, rfl, by simp⟩
    · exact ⟨rfl, rfl, by simp⟩

theorem isBodyItem (isSetting : IsSetting setting) : IsBodyItem (settingText setting) := by
  obtain ⟨lexemes, filled, scanned, contained, idle⟩ := isSetting.scanned
  have key := isItem_word setting.1 isSetting.word
  have value := isSetting.isItem_value
  refine ⟨⟨lexemes, filled, scanned, contained, clauseless_of_idle idle⟩, ?_, ?_⟩
  · intro c head
    have nonempty : setting.1.toList ≠ [] := by simpa using key.ne_empty
    obtain ⟨first, rest, shape⟩ := List.exists_cons_of_ne_nil nonempty
    obtain rfl : first = c := by simpa [settingText, shape] using head
    exact key.first first (by rw [shape]; rfl)
  · have nonempty : setting.2.toList ≠ [] := by simpa using value.ne_empty
    have last := visible_last (setting.1.toList ++ ['=']) setting.2.toList [] nonempty value.last
      (by simp)
    simpa [settingText] using last

theorem read (isSetting : IsSetting setting) : setting? (settingText setting) = some setting := by
  have key := isItem_word setting.1 isSetting.word
  have free : ∀ c ∈ setting.1.toList, decide (c ≠ '=') = true := by
    intro c member
    have part := Identifier.isWordChar_of_isWord setting.1 isSetting.word c member
    apply decide_eq_true
    rintro rfl
    exact absurd part (by decide)
  have characters : (settingText setting).toList = setting.1.toList ++ '=' :: setting.2.toList := by
    simp [settingText]
  rw [setting?, characters, List.takeWhile_append_of_pos free, List.dropWhile_append_of_pos free]
  simp [key.trimChars, isSetting.isItem_value.trimChars]

end IsSetting

theorem bodyItems_settings (settings : List (String × String))
    (each : ∀ setting ∈ settings, IsSetting setting) :
    ∀ item ∈ settings.map settingText, IsBodyItem item := by
  intro item member
  obtain ⟨setting, isMember, rfl⟩ := List.mem_map.mp member
  exact (each setting isMember).isBodyItem

theorem filterMap_settings (settings : List (String × String))
    (each : ∀ setting ∈ settings, IsSetting setting) :
    (settings.map settingText).filterMap setting? = settings := by
  induction settings with
  | nil => rfl
  | cons first rest ih =>
      have read := (each first (by simp)).read
      rw [List.map_cons, List.filterMap_cons, read,
        ih fun setting member => each setting (List.mem_cons_of_mem _ member)]

theorem settingsIn_eq (clauses : List (Clause × String)) :
    settingsIn clauses =
      (malformed (splitTopLevel ((bodyOf? clauses .settings).getD ""))).map fun parts =>
        settingsOf (parts.filterMap setting?) := by
  rw [settingsIn]
  cases bodyOf? clauses .settings with
  | none => rfl
  | some body =>
      dsimp only [Option.getD_some]
      cases splitTopLevel body <;> rfl

theorem settingsIn_lists {clauses : List (Clause × String)} {settings : List (String × String)}
    (lists : Lists clauses .settings (settings.map settingText))
    (each : ∀ setting ∈ settings, IsSetting setting) (ordered : Ordered settings) :
    settingsIn clauses = .ok settings := by
  have items : ∀ item ∈ settings.map settingText, IsItem item := fun item member =>
    (bodyItems_settings settings each item member).isItem
  rw [settingsIn_eq, lists, splitTopLevel_items _ items]
  simp only [malformed, Except.map, filterMap_settings settings each,
    settingsOf_ordered settings ordered]

end ClickHouse.EngineDefinition
