import ClickHouse.Proofs.Engine.Parameters
import Mathlib.Data.List.Infix

/-!
One retention rule read from its own text. The action is found behind the last marker in the text,
and quotes are not looked at: a rule comes back when no marker stands in the name of its disk or
volume, and otherwise not (`retentionRule_eq_iff`).
-/

namespace ClickHouse

/-- Whether no marker of an action that is looked for stands in the name of its target. -/
def RetentionAction.IsUnmarked : RetentionAction → Prop
  | .delete => True
  | .toDisk disk => ¬ " TO DISK ".toList <:+: disk.toList
  | .toVolume volume =>
    ¬ " TO DISK ".toList <:+: volume.toList ∧ ¬ " TO VOLUME ".toList <:+: volume.toList

namespace EngineDefinition

theorem splitLast?_eq_none_iff {marker : List Char} (nonempty : marker ≠ []) (text : List Char) :
    splitLast? marker text = none ↔ ¬ marker <:+: text := by
  induction text with
  | nil => simp [splitLast?, nonempty]
  | cons c rest ih =>
      rw [splitLast?, List.infix_cons_iff]
      cases found : splitLast? marker rest with
      | some parts =>
          have inRest : marker <:+: rest := by
            by_contra absent
            rw [ih.mpr absent] at found
            contradiction
          simp [inRest]
      | none =>
          have notInRest := ih.mp found
          by_cases first : marker <+: c :: rest
          · simp [first]
          · simp [first, notInRest]

theorem splitLast?_append {marker text left right : List Char}
    (found : splitLast? marker text = some (left, right)) (before : List Char) :
    splitLast? marker (before ++ text) = some (before ++ left, right) := by
  induction before with
  | nil => exact found
  | cons c rest ih => rw [List.cons_append, splitLast?, ih, List.cons_append]

theorem splitLast?_cons {c : Char} {marker rest : List Char}
    (last : ¬ c :: marker <:+: marker ++ rest) :
    splitLast? (c :: marker) (c :: marker ++ rest) = some ([], rest) := by
  have none := (splitLast?_eq_none_iff (List.cons_ne_nil c marker) _).mpr last
  simp [splitLast?, none]

theorem prefix_before {c : Char} {marker left right : List Char} (absent : c ∉ marker)
    (isPrefix : marker <+: left ++ c :: right) : marker <+: left := by
  have throughMark : left ++ [c] <+: left ++ c :: right := ⟨right, by simp⟩
  rcases List.prefix_or_prefix_of_prefix isPrefix throughMark with short | long
  · rcases List.prefix_concat_iff.mp short with rfl | before
    · simp at absent
    · exact before
  · exact absurd (long.subset (by simp)) absent

theorem infix_around_iff {c : Char} {marker : List Char} (absent : c ∉ marker)
    (left right : List Char) :
    marker <:+: left ++ c :: right ↔ marker <:+: left ∨ marker <:+: right := by
  constructor
  · intro occurs
    induction left with
    | nil =>
        rcases List.infix_cons_iff.mp occurs with first | later
        · have before : marker <+: [] := prefix_before absent first
          exact .inl before.isInfix
        · exact .inr later
    | cons d rest ih =>
        rcases List.infix_cons_iff.mp occurs with first | later
        · have before : marker <+: d :: rest := prefix_before absent first
          exact .inl before.isInfix
        · exact (ih later).imp_left List.infix_cons
  · rintro (inLeft | inRight)
    · exact inLeft.trans (List.prefix_append _ _).isInfix
    · exact inRight.trans ((List.suffix_cons _ _).trans (List.suffix_append _ _)).isInfix

section

variable {marker : List Char} (noQuote : Text.quoteMark ∉ marker)
  (noEscape : Text.escapeMark ∉ marker)

include noQuote noEscape

theorem prefix_escapeChars_iff (name : List Char) :
    marker <+: Text.escapeChars name ↔ marker <+: name := by
  induction name generalizing marker with
  | nil => rfl
  | cons c rest ih =>
      cases marker with
      | nil => simp
      | cons first others =>
          rw [List.mem_cons, not_or] at noQuote noEscape
          by_cases special : c = Text.quoteMark ∨ c = Text.escapeMark
          · have other : first ≠ c := by
              rintro rfl
              rcases special with rfl | rfl
              · exact noQuote.1 rfl
              · exact noEscape.1 rfl
            rw [Text.escapeChars, if_pos special]
            simp [List.cons_prefix_cons, Ne.symm noEscape.1, other]
          · rw [Text.escapeChars, if_neg special, List.cons_prefix_cons, List.cons_prefix_cons,
              ih noQuote.2 noEscape.2]

theorem infix_escapeChars_iff (name : List Char) :
    marker <:+: Text.escapeChars name ↔ marker <:+: name := by
  induction name with
  | nil => rfl
  | cons c rest ih =>
      by_cases special : c = Text.quoteMark ∨ c = Text.escapeMark
      · have absent : c ∉ marker := by
          rcases special with rfl | rfl
          · exact noQuote
          · exact noEscape
        have escaped := infix_around_iff noEscape [] (c :: Text.escapeChars rest)
        have plain := infix_around_iff absent [] (Text.escapeChars rest)
        have unescaped := infix_around_iff absent [] rest
        rw [List.nil_append] at escaped plain unescaped
        rw [Text.escapeChars, if_pos special, escaped, plain, unescaped, ih]
        tauto
      · have first := prefix_escapeChars_iff noQuote noEscape (c :: rest)
        rw [Text.escapeChars, if_neg special] at first ⊢
        rw [List.infix_cons_iff, List.infix_cons_iff, first, ih]

theorem infix_before_quote_iff (before : List Char) (name : String) :
    marker <:+: before ++ (Text.quote name).toList ↔
      marker <:+: before ∨ marker <:+: name.toList := by
  rw [Text.toList_quote, infix_around_iff noQuote, infix_around_iff noQuote,
    infix_escapeChars_iff noQuote noEscape, List.infix_nil]
  constructor
  · rintro (inBefore | inName | rfl)
    · exact .inl inBefore
    · exact .inr inName
    · exact .inl List.nil_infix
  · exact fun occurs => occurs.imp_right .inl

end

def actionText : Option RetentionAction → String
  | none => ""
  | some .delete => " DELETE"
  | some (.toDisk disk) => " TO DISK " ++ Text.quote disk
  | some (.toVolume volume) => " TO VOLUME " ++ Text.quote volume

/-- Three blanks, and nothing that closes a group or a quote. -/
structure IsMarker (marker : String) : Prop where
  noQuote : Text.quoteMark ∉ marker.toList
  noEscape : Text.escapeMark ∉ marker.toList
  noBracket : ')' ∉ marker.toList
  blanks : marker.toList.count ' ' = 3

theorem isMarker_disk : IsMarker " TO DISK " :=
  ⟨by decide, by decide, by decide, by decide⟩

theorem isMarker_volume : IsMarker " TO VOLUME " :=
  ⟨by decide, by decide, by decide, by decide⟩

theorem IsMarker.ne_nil {marker : String} (isMarker : IsMarker marker) : marker.toList ≠ [] := by
  intro empty
  have blanks := isMarker.blanks
  rw [empty] at blanks
  contradiction

section

variable {marker : String} (isMarker : IsMarker marker) (before name : String)

include isMarker

theorem splitLast?_target (unmarked : ¬ marker.toList <:+: name.toList) :
    splitLast? marker.toList (before ++ (marker ++ Text.quote name)).toList =
      some (before.toList, (Text.quote name).toList) := by
  obtain ⟨c, rest, shape⟩ := List.exists_cons_of_ne_nil isMarker.ne_nil
  have last : ¬ c :: rest <:+: rest ++ (Text.quote name).toList := by
    rw [← shape, infix_before_quote_iff isMarker.noQuote isMarker.noEscape]
    rintro (short | inName)
    · have tooLong := short.length_le
      rw [shape, List.length_cons] at tooLong
      omega
    · exact unmarked inName
  have found := splitLast?_append (splitLast?_cons last) before.toList
  rw [List.append_nil, ← shape] at found
  rwa [String.toList_append, String.toList_append]

theorem splitLast?_within (marked : marker.toList <:+: name.toList) :
    ∃ left right, splitLast? marker.toList (before ++ Text.quote name).toList =
        some (left, right) ∧ Text.quoteMark ∈ left := by
  have occurs : marker.toList <:+: Text.escapeChars name.toList ++ [Text.quoteMark] :=
    ((infix_escapeChars_iff isMarker.noQuote isMarker.noEscape _).mpr marked).trans
      (List.prefix_append _ _).isInfix
  cases found : splitLast? marker.toList (Text.escapeChars name.toList ++ [Text.quoteMark]) with
  | none => exact absurd occurs ((splitLast?_eq_none_iff isMarker.ne_nil _).mp found)
  | some parts =>
      have shifted := splitLast?_append found (before.toList ++ [Text.quoteMark])
      refine ⟨before.toList ++ [Text.quoteMark] ++ parts.1, parts.2, ?_, by simp⟩
      rw [← shifted, String.toList_append, Text.toList_quote, List.append_assoc,
        List.singleton_append]

end

/-- A text without quotes that ends with a bracket and has too few blanks for a marker. -/
structure IsMomentText (text : String) : Prop where
  closed : ∃ body, text.toList = body ++ [')'] ∧ body.count ' ' < 3
  noQuote : Text.quoteMark ∉ text.toList
  first : ∀ c ∈ text.toList.head?, Text.isBlank c = false

theorem not_isSuffixOf_delete {text : List Char} {c : Char} (last : text.getLast? = some c)
    (other : c ≠ 'E') : " DELETE".toList.isSuffixOf text = false := by
  rw [← Bool.not_eq_true, List.isSuffixOf_iff_suffix]
  rintro ⟨before, rfl⟩
  rw [List.getLast?_append] at last
  exact other (Option.some.inj last).symm

section

variable {moment : String} (isMoment : IsMomentText moment)

include isMoment

theorem trimChars_moment : Text.trimChars moment.toList = moment.toList := by
  obtain ⟨body, shape, _⟩ := isMoment.closed
  apply Text.trimChars_of_ends _ isMoment.first
  rw [shape, List.getLast?_concat]
  rintro c ⟨⟩
  decide

theorem trimChars_behind {rest : List Char} {c : Char} (last : rest.getLast? = some c)
    (visible : Text.isBlank c = false) :
    Text.trimChars (moment.toList ++ rest) = moment.toList ++ rest := by
  obtain ⟨body, shape, _⟩ := isMoment.closed
  apply Text.trimChars_of_ends
  · intro d first
    apply isMoment.first d
    rw [shape] at first ⊢
    cases body <;> simpa using first
  · rw [List.getLast?_append, last]
    rintro d ⟨⟩
    exact visible

theorem rawTrimmed_moment : rawTrimmed moment.toList = .raw moment := by
  rw [rawTrimmed, trimChars_moment isMoment, String.ofList_toList]

theorem rawTrimmed_ne {text : List Char} (quoted : Text.quoteMark ∈ text) :
    rawTrimmed text ≠ .raw moment := by
  intro same
  have trimmed : String.ofList (Text.trimChars text) = moment := Expr.raw.inj same
  apply isMoment.noQuote
  rw [← trimmed, String.toList_ofList]
  exact Text.mem_trimChars quoted (by decide)

theorem infix_behind_iff {marker : String} (isMarker : IsMarker marker) (rest : List Char) :
    marker.toList <:+: moment.toList ++ rest ↔ marker.toList <:+: rest := by
  obtain ⟨body, shape, few⟩ := isMoment.closed
  have notInBody : ¬ marker.toList <:+: body := by
    intro occurs
    have atMost := occurs.sublist.count_le ' '
    have blanks := isMarker.blanks
    omega
  rw [shape, List.append_assoc, List.singleton_append, infix_around_iff isMarker.noBracket]
  simp [notInBody]

theorem splitLast?_moment {marker : String} (isMarker : IsMarker marker) :
    splitLast? marker.toList moment.toList = none := by
  have absent := infix_behind_iff isMoment isMarker []
  rw [List.append_nil, List.infix_nil] at absent
  rw [splitLast?_eq_none_iff isMarker.ne_nil, absent]
  exact isMarker.ne_nil

theorem retentionRule_none : retentionRule moment = ⟨.raw moment, none⟩ := by
  obtain ⟨body, shape, _⟩ := isMoment.closed
  have last : moment.toList.getLast? = some ')' := by simp [shape]
  simp only [retentionRule, trimChars_moment isMoment, not_isSuffixOf_delete last (by decide),
    splitLast?_moment isMoment isMarker_disk, splitLast?_moment isMoment isMarker_volume,
    Bool.false_eq_true, if_false, String.ofList_toList]

theorem retentionRule_delete :
    retentionRule (moment ++ " DELETE") = ⟨.raw moment, some .delete⟩ := by
  have last : " DELETE".toList.getLast? = some 'E' := rfl
  have trimmed := trimChars_behind isMoment last (by decide)
  have isDelete : " DELETE".toList.isSuffixOf (moment.toList ++ " DELETE".toList) = true := by
    simp
  have before : (moment.toList ++ " DELETE".toList).take
      ((moment.toList ++ " DELETE".toList).length - 7) = moment.toList := by
    simp
  simp only [retentionRule, String.toList_append, trimmed, isDelete, if_true, before,
    rawTrimmed_moment isMoment]

theorem splitLast?_absent {marker : String} (isMarker : IsMarker marker) (name : String)
    (unmarked : ¬ marker.toList <:+: name.toList) (other : String)
    (differs : ¬ marker.toList <:+: other.toList) :
    splitLast? marker.toList (moment ++ (other ++ Text.quote name)).toList = none := by
  rw [splitLast?_eq_none_iff isMarker.ne_nil, String.toList_append, String.toList_append,
    infix_behind_iff isMoment isMarker, infix_before_quote_iff isMarker.noQuote isMarker.noEscape,
    not_or]
  exact ⟨differs, unmarked⟩

section

variable (marker name : String) {before target : List Char}

theorem trimChars_target :
    Text.trimChars (moment ++ (marker ++ Text.quote name)).toList =
        (moment ++ (marker ++ Text.quote name)).toList ∧
      " DELETE".toList.isSuffixOf (moment ++ (marker ++ Text.quote name)).toList = false := by
  have last : (marker ++ Text.quote name).toList.getLast? = some Text.quoteMark := by
    rw [String.toList_append, Text.toList_quote, ← List.cons_append, ← List.append_assoc,
      List.getLast?_concat]
  rw [String.toList_append]
  constructor
  · exact trimChars_behind isMoment last (by decide)
  · apply not_isSuffixOf_delete _ (by decide : Text.quoteMark ≠ 'E')
    rw [List.getLast?_append, last]
    rfl

theorem retentionRule_of_disk
    (found : splitLast? " TO DISK ".toList (moment ++ (marker ++ Text.quote name)).toList =
      some (before, target)) :
    retentionRule (moment ++ (marker ++ Text.quote name)) =
      ⟨rawTrimmed before, some (.toDisk (parameterText (String.ofList target)))⟩ := by
  obtain ⟨trimmed, notDelete⟩ := trimChars_target isMoment marker name
  simp only [retentionRule, trimmed, notDelete, found, Bool.false_eq_true, if_false]

theorem retentionRule_of_volume
    (noDisk : splitLast? " TO DISK ".toList (moment ++ (marker ++ Text.quote name)).toList = none)
    (found : splitLast? " TO VOLUME ".toList (moment ++ (marker ++ Text.quote name)).toList =
      some (before, target)) :
    retentionRule (moment ++ (marker ++ Text.quote name)) =
      ⟨rawTrimmed before, some (.toVolume (parameterText (String.ofList target)))⟩ := by
  obtain ⟨trimmed, notDelete⟩ := trimChars_target isMoment marker name
  simp only [retentionRule, trimmed, notDelete, noDisk, found, Bool.false_eq_true, if_false]

theorem retentionRule_ne_of_disk (action : Option RetentionAction)
    (marked : " TO DISK ".toList <:+: name.toList) :
    retentionRule (moment ++ (marker ++ Text.quote name)) ≠ ⟨.raw moment, action⟩ := by
  obtain ⟨before, target, found, quoted⟩ :=
    splitLast?_within isMarker_disk (moment ++ marker) name marked
  rw [String.append_assoc] at found
  rw [retentionRule_of_disk isMoment _ _ found]
  intro same
  exact rawTrimmed_ne isMoment quoted (congrArg RetentionRule.moment same)

theorem retentionRule_ne_of_volume (action : Option RetentionAction)
    (noDisk : splitLast? " TO DISK ".toList (moment ++ (marker ++ Text.quote name)).toList = none)
    (marked : " TO VOLUME ".toList <:+: name.toList) :
    retentionRule (moment ++ (marker ++ Text.quote name)) ≠ ⟨.raw moment, action⟩ := by
  obtain ⟨before, target, found, quoted⟩ :=
    splitLast?_within isMarker_volume (moment ++ marker) name marked
  rw [String.append_assoc] at found
  rw [retentionRule_of_volume isMoment _ _ noDisk found]
  intro same
  exact rawTrimmed_ne isMoment quoted (congrArg RetentionRule.moment same)

end

theorem retentionRule_toDisk_iff (disk : String) :
    retentionRule (moment ++ (" TO DISK " ++ Text.quote disk)) =
        ⟨.raw moment, some (.toDisk disk)⟩ ↔
      RetentionAction.IsUnmarked (.toDisk disk) := by
  by_cases marked : " TO DISK ".toList <:+: disk.toList
  · have misread := retentionRule_ne_of_disk isMoment " TO DISK " disk (some (.toDisk disk)) marked
    exact iff_of_false misread fun unmarked => unmarked marked
  · have found := splitLast?_target isMarker_disk moment disk marked
    rw [retentionRule_of_disk isMoment _ _ found, rawTrimmed_moment isMoment, String.ofList_toList,
      parameterText_quote]
    exact iff_of_true rfl marked

theorem retentionRule_toVolume_iff (volume : String) :
    retentionRule (moment ++ (" TO VOLUME " ++ Text.quote volume)) =
        ⟨.raw moment, some (.toVolume volume)⟩ ↔
      RetentionAction.IsUnmarked (.toVolume volume) := by
  -- the marker of disks is looked for first, also in the name of a volume
  by_cases disk : " TO DISK ".toList <:+: volume.toList
  · have misread := retentionRule_ne_of_disk isMoment " TO VOLUME " volume
      (some (.toVolume volume)) disk
    exact iff_of_false misread fun unmarked => unmarked.1 disk
  have noDisk := splitLast?_absent isMoment isMarker_disk volume disk " TO VOLUME " (by decide)
  by_cases marked : " TO VOLUME ".toList <:+: volume.toList
  · have misread := retentionRule_ne_of_volume isMoment " TO VOLUME " volume
      (some (.toVolume volume)) noDisk marked
    exact iff_of_false misread fun unmarked => unmarked.2 marked
  · have found := splitLast?_target isMarker_volume moment volume marked
    rw [retentionRule_of_volume isMoment _ _ noDisk found, rawTrimmed_moment isMoment,
      String.ofList_toList, parameterText_quote]
    exact iff_of_true rfl ⟨disk, marked⟩

theorem retentionRule_eq_iff (action : Option RetentionAction) :
    retentionRule (moment ++ actionText action) = ⟨.raw moment, action⟩ ↔
      ∀ named ∈ action, named.IsUnmarked := by
  match action with
  | none =>
      rw [actionText, String.append_empty, retentionRule_none isMoment]
      simp
  | some .delete =>
      rw [actionText, retentionRule_delete isMoment]
      simp [RetentionAction.IsUnmarked]
  | some (.toDisk disk) => simpa [actionText] using retentionRule_toDisk_iff isMoment disk
  | some (.toVolume volume) => simpa [actionText] using retentionRule_toVolume_iff isMoment volume

end

end EngineDefinition

end ClickHouse
