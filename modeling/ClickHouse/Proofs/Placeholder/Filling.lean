import ClickHouse.Identifier
import ClickHouse.Template

/-!
Reading a text with placeholders next to the text that has the values in their places. As long as
the second holds no placeholder, both show the same characters (`Alike.advance`,
`Alike.advance_bind`).
-/

namespace ClickHouse.Placeholder

def run : Progress → List Char → List Segment × Progress
  | progress, [] => ([], progress)
  | progress, c :: rest =>
    ((step progress c).1 ++ (run (step progress c).2 rest).1, (run (step progress c).2 rest).2)

theorem run_append (progress : Progress) (left right : List Char) :
    run progress (left ++ right) =
      ((run progress left).1 ++ (run (run progress left).2 right).1,
        (run (run progress left).2 right).2) := by
  induction left generalizing progress with
  | nil => rfl
  | cons c rest ih => simp [run, ih]

theorem segmentsFrom_eq_run (progress : Progress) (text : List Char) :
    segmentsFrom progress text = (run progress text).1 ++ [.text (unread (run progress text).2)] := by
  induction text generalizing progress with
  | nil => rfl
  | cons c rest ih => simp [run, segmentsFrom, ih]

/-- The characters of segments in which every name stands for its value. -/
def shown (value : List Char → List Char) : List Segment → List Char
  | [] => []
  | .text chars :: rest => chars ++ shown value rest
  | .bind name :: rest => value name ++ shown value rest

@[simp] theorem shown_append (value : List Char → List Char) (left right : List Segment) :
    shown value (left ++ right) = shown value left ++ shown value right := by
  induction left with
  | nil => rfl
  | cons segment rest ih => cases segment <;> simp [shown, ih]

def Segment.isBind : Segment → Bool
  | text _ => false
  | bind _ => true

def holdsPlaceholder (text : String) : Bool :=
  (segments text).any Segment.isBind

theorem leave_eq (chars : List Char) (c : Char) :
    (c = '%' ∧ leave chars c = ([.text chars], .percent)) ∨
      (c ≠ '%' ∧ leave chars c = ([.text (chars ++ [c])], .outside)) := by
  unfold leave
  by_cases percent : c = '%'
  · exact Or.inl ⟨percent, if_pos percent⟩
  · exact Or.inr ⟨percent, if_neg percent⟩

theorem not_prolongs (name : List Char) (c : Char) (mark : c ∈ ['%', '(', ')', '-', ' ']) :
    prolongs name c = false := by
  have each : ['%', '(', ')', '-', ' '].all
      (fun d => !d.isAlpha && !decide (d = '_') && !d.isDigit) = true := by decide
  have plain := List.all_eq_true.mp each c mark
  simp only [Bool.and_eq_true, Bool.not_eq_true'] at plain
  obtain ⟨⟨notLetter, notUnderscore⟩, notDigit⟩ := plain
  simp [prolongs, notLetter, notUnderscore, notDigit]

theorem not_percent_of_prolongs (name : List Char) (c : Char) (longer : prolongs name c = true) :
    c ≠ '%' := by
  rintro rfl
  rw [not_prolongs name '%' (by decide)] at longer
  contradiction

/-- What a character does: it is held, it ends what was held, it ends a placeholder, or it is the
second of two percent signs. -/
theorem step_cases (progress : Progress) (c : Char) :
    ((step progress c).1 = [] ∧ c ≠ '%' ∧ (step progress c).2 ≠ .percent ∧
        unread (step progress c).2 = unread progress ++ [c]) ∨
      step progress c = leave (unread progress) c ∨
      ((step progress c).1.any Segment.isBind = true) ∨
      (progress = .percent ∧ c = '%' ∧ step progress c = ([.text ['%']], .outside)) := by
  cases progress with
  | outside => exact Or.inr (Or.inl rfl)
  | percent =>
      by_cases percent : c = '%'
      · subst percent
        exact Or.inr (Or.inr (Or.inr ⟨rfl, rfl, rfl⟩))
      · by_cases opens : c = '('
        · subst opens
          exact Or.inl ⟨rfl, by decide, by simp [step], rfl⟩
        · exact Or.inr (Or.inl (by simp [step, percent, opens, unread]))
  | name chars =>
      by_cases longer : prolongs chars c = true
      · have notPercent := not_percent_of_prolongs chars c longer
        exact Or.inl (by simp [step, longer, unread, notPercent])
      · by_cases closes : c = ')' ∧ chars ≠ []
        · obtain ⟨rfl, named⟩ := closes
          exact Or.inl (by simp [step, longer, named, unread])
        · exact Or.inr (Or.inl (by simp [step, longer, closes, unread]))
  | closed chars =>
      by_cases ends : c = 's'
      · exact Or.inr (Or.inr (Or.inl (by simp [step, ends, Segment.isBind])))
      · exact Or.inr (Or.inl (by simp [step, ends, unread]))

theorem step_conserves (value : List Char → List Char) (progress : Progress) (c : Char)
    (notPercent : progress ≠ .percent)
    (noBind : (step progress c).1.any Segment.isBind = false) :
    shown value (step progress c).1 ++ unread (step progress c).2 = unread progress ++ [c] := by
  rcases step_cases progress c with ⟨none, _, _, held⟩ | left | bind | ⟨percent, _⟩
  · rw [none, held]
    rfl
  · rw [left]
    rcases leave_eq (unread progress) c with ⟨rfl, same⟩ | ⟨_, same⟩
    · rw [same]
      simp [shown, show unread .percent = ['%'] from rfl]
    · rw [same]
      simp [shown, show unread .outside = [] from rfl]
  · rw [bind] at noBind
    contradiction
  · exact absurd percent notPercent

structure Reading where
  shown : List Char
  progress : Progress

namespace Reading

def start : Reading :=
  ⟨[], .outside⟩

def advance (value : List Char → List Char) (reading : Reading) (text : List Char) : Reading :=
  ⟨reading.shown ++ Placeholder.shown value (run reading.progress text).1,
    (run reading.progress text).2⟩

def content (reading : Reading) : List Char :=
  reading.shown ++ unread reading.progress

@[simp] theorem advance_nil (value : List Char → List Char) (reading : Reading) :
    reading.advance value [] = reading := by
  simp [advance, run, Placeholder.shown]

theorem advance_append (value : List Char → List Char) (reading : Reading)
    (left right : List Char) :
    reading.advance value (left ++ right) = (reading.advance value left).advance value right := by
  simp [advance, run_append]

theorem content_start (value : List Char → List Char) (text : String) :
    (start.advance value text.toList).content = Placeholder.shown value (segments text) := by
  simp [content, advance, start, segments, segmentsFrom_eq_run, Placeholder.shown]

end Reading

/-- Whether two readings show the same characters so far and cannot part before the second has
read a placeholder. -/
structure Alike (left right : Reading) : Prop where
  progress : left.progress = right.progress ∨
    (left.progress = .outside ∧ right.progress ≠ .percent)
  content : left.content = right.content

theorem advance_singleton (value : List Char → List Char) (reading : Reading) (c : Char) :
    reading.advance value [c] =
      ⟨reading.shown ++ shown value (step reading.progress c).1, (step reading.progress c).2⟩ := by
  simp [Reading.advance, run]

theorem Alike.step (value : List Char → List Char) {left right : Reading}
    (alike : Alike left right) (c : Char)
    (noBind : (Placeholder.step right.progress c).1.any Segment.isBind = false) :
    Alike (left.advance value [c]) (right.advance value [c]) ∧
      (Placeholder.step left.progress c).1.any Segment.isBind = false := by
  obtain ⟨progress, content⟩ := alike
  unfold Reading.content at content
  rw [advance_singleton, advance_singleton]
  rcases progress with same | ⟨outside, notPercent⟩
  · rw [same] at content ⊢
    rw [List.append_cancel_right content]
    exact ⟨⟨Or.inl rfl, rfl⟩, noBind⟩
  · -- behind a value the second text may have begun what would be a placeholder
    have conserved := step_conserves value right.progress c notPercent noBind
    rw [outside] at content ⊢
    have noBindLeft : (Placeholder.step .outside c).1.any Segment.isBind = false := by
      rcases leave_eq [] c with ⟨_, leaves⟩ | ⟨_, leaves⟩ <;>
        simp [Placeholder.step, leaves, Segment.isBind]
    have conservedLeft := step_conserves value .outside c (by simp) noBindLeft
    refine ⟨⟨?_, ?_⟩, noBindLeft⟩
    · rcases step_cases right.progress c with ⟨_, notSign, notPercent', _⟩ | leaves | bind |
          ⟨percent, _⟩
      · right
        exact ⟨by simp [Placeholder.step, leave, notSign], notPercent'⟩
      · left
        rw [leaves, Placeholder.step, leave, leave]
        split <;> rfl
      · rw [bind] at noBind
        contradiction
      · exact absurd percent notPercent
    · simp only [Reading.content, List.append_assoc, conserved, conservedLeft]
      rw [← List.append_assoc, ← List.append_assoc, content]

/-- Two readings that are alike stay so over a text in which the second meets no placeholder. -/
theorem Alike.advance (value : List Char → List Char) {left right : Reading}
    (alike : Alike left right) (text : List Char)
    (noBind : (run right.progress text).1.any Segment.isBind = false) :
    Alike (left.advance value text) (right.advance value text) ∧
      (run left.progress text).1.any Segment.isBind = false := by
  induction text generalizing left right with
  | nil => simpa [run] using alike
  | cons c rest ih =>
      rw [run, List.any_append, Bool.or_eq_false_iff] at noBind
      obtain ⟨stepped, noBindLeft⟩ := alike.step value c noBind.1
      have shape (reading : Reading) : reading.advance value (c :: rest) =
          (reading.advance value [c]).advance value rest :=
        reading.advance_append value [c] rest
      have progress (reading : Reading) :
          (reading.advance value [c]).progress = (Placeholder.step reading.progress c).2 := by
        rw [advance_singleton]
      rw [shape, shape, run, List.any_append, noBindLeft, Bool.false_or, ← progress]
      exact ih stepped (by rw [progress]; exact noBind.2)

theorem step_ne_percent (progress : Progress) (c : Char) (other : c ≠ '%') :
    (step progress c).2 ≠ .percent := by
  cases progress with
  | outside => simp [step, leave, other]
  | percent => by_cases opens : c = '(' <;> simp [step, leave, other, opens]
  | name chars =>
      by_cases longer : prolongs chars c = true
      · simp [step, longer]
      · by_cases closes : c = ')' ∧ chars ≠ []
        · rw [step, if_neg longer, if_pos closes]
          simp
        · rw [step, if_neg longer, if_neg closes, leave, if_neg other]
          simp
  | closed chars => by_cases ends : c = 's' <;> simp [step, leave, other, ends]

theorem run_ne_percent (progress : Progress) (text : List Char) (notPercent : progress ≠ .percent)
    (last : text.getLast? ≠ some '%') : (run progress text).2 ≠ .percent := by
  rcases text.eq_nil_or_concat with rfl | ⟨before, c, rfl⟩
  · exact notPercent
  · rw [List.concat_eq_append] at last ⊢
    rw [run_append]
    exact step_ne_percent _ c (by simpa using last)

theorem run_outside (progress : Progress) (text : List Char) (c : Char)
    (ends : c = '-' ∨ c = ' ') : (run progress (text ++ [c])).2 = .outside := by
  rw [run_append]
  change (step (run progress text).2 c).2 = .outside
  rcases ends with rfl | rfl <;> cases (run progress text).2 <;>
    simp [step, leave, not_prolongs]

theorem run_protect (value : List Char → List Char) (progress : Progress) (text : List Char)
    (notPercent : progress ≠ .percent)
    (noBind : (run progress (text.flatMap fun c => if c = '%' then ['%', '%'] else [c])).1.any
      Segment.isBind = false) :
    (run progress (text.flatMap fun c => if c = '%' then ['%', '%'] else [c])).2 ≠ .percent ∧
      shown value (run progress (text.flatMap fun c => if c = '%' then ['%', '%'] else [c])).1 ++
        unread (run progress (text.flatMap fun c => if c = '%' then ['%', '%'] else [c])).2 =
          unread progress ++ text := by
  induction text generalizing progress with
  | nil => simpa [run, shown] using notPercent
  | cons c rest ih =>
      rw [List.flatMap_cons] at noBind ⊢
      rw [run_append, List.any_append, Bool.or_eq_false_iff] at noBind
      by_cases percent : c = '%'
      · rw [if_pos percent] at noBind ⊢
        have pair : run progress ['%', '%'] = ([.text (unread progress), .text ['%']], .outside) := by
          cases progress with
          | percent => exact absurd rfl notPercent
          | outside | name chars | closed chars =>
              simp [run, step, leave, unread, not_prolongs]
        rw [pair] at noBind
        obtain ⟨settled, shows⟩ := ih .outside (by simp) noBind.2
        rw [run_append, pair]
        refine ⟨settled, ?_⟩
        rw [shown_append, List.append_assoc, shows, percent]
        simp [shown, show unread .outside = [] from rfl]
      · rw [if_neg percent] at noBind ⊢
        have single : run progress [c] = ((step progress c).1, (step progress c).2) := by
          simp [run]
        rw [single] at noBind
        have conserved := step_conserves value progress c notPercent noBind.1
        obtain ⟨settled, shows⟩ := ih _ (step_ne_percent progress c percent) noBind.2
        rw [run_append, single]
        refine ⟨settled, ?_⟩
        rw [shown_append, List.append_assoc, shows, ← List.append_assoc, conserved]
        simp

theorem run_name (held more rest : List Char) (named : held ≠ [])
    (word : ∀ c ∈ more, Identifier.isWordChar c = true) :
    run (.name held) (more ++ rest) = run (.name (held ++ more)) rest := by
  induction more generalizing held with
  | nil => simp
  | cons c others ih =>
      have longer : prolongs held c = true := by
        have part := word c (by simp)
        simp only [Identifier.isWordChar, Char.isAlphanum, Bool.or_eq_true,
          decide_eq_true_eq] at part
        simp only [prolongs, Bool.or_eq_true, Bool.and_eq_true, decide_eq_true_eq]
        rcases part with (letter | digit) | underscore
        · exact Or.inl (Or.inl letter)
        · exact Or.inr ⟨by simpa using named, digit⟩
        · exact Or.inl (Or.inr underscore)
      have following := ih (held ++ [c]) (by simp) fun d member =>
        word d (List.mem_cons_of_mem _ member)
      rw [List.cons_append, run]
      simp [step, longer, following]

theorem run_bind (progress : Progress) (name : String) (word : Identifier.isWord name = true)
    (notPercent : progress ≠ .percent) :
    run progress ("%(" ++ name ++ ")s").toList =
      ([.text (unread progress), .bind name.toList], .outside) := by
  have opens : step progress '%' = ([.text (unread progress)], .percent) := by
    cases progress with
    | percent => exact absurd rfl notPercent
    | outside | name chars | closed chars =>
        simp [step, leave, unread, not_prolongs]
  have characters : ("%(" ++ name ++ ")s").toList =
      '%' :: '(' :: (name.toList ++ [')', 's']) := by
    simp
  unfold Identifier.isWord at word
  split at word
  · contradiction
  · rename_i first rest shape
    simp only [Bool.and_eq_true, Bool.not_eq_true', List.all_cons, List.all_eq_true] at word
    obtain ⟨notDigit, part, others⟩ := word
    have starts : prolongs [] first = true := by
      simpa [prolongs, Identifier.isWordChar, Char.isAlphanum, notDigit] using part
    have named := run_name [first] rest [')', 's'] (by simp) others
    have started : run (.name []) (first :: rest ++ [')', 's']) =
        run (.name ([first] ++ rest)) [')', 's'] := by
      rw [List.cons_append, run, ← named]
      simp [step, starts]
    have closed : run (.name ([first] ++ rest)) [')', 's'] =
        ([.bind (first :: rest)], .outside) := by
      simp [run, step, not_prolongs]
    have bracket : step .percent '(' = ([], .name []) := rfl
    rw [characters, shape, run, opens, run, bracket, started, closed]
    rfl

theorem Reading.advance_bind (value : List Char → List Char) (reading : Reading)
    (name literal : String) (word : Identifier.isWord name = true)
    (notPercent : reading.progress ≠ .percent) (stands : value name.toList = literal.toList) :
    reading.advance value ("%(" ++ name ++ ")s").toList =
      ⟨reading.content ++ literal.toList, .outside⟩ := by
  rw [Reading.advance, run_bind reading.progress name word notPercent]
  simp [Placeholder.shown, stands, Reading.content]

theorem Reading.content_advance (value : List Char → List Char) (reading : Reading)
    (text : List Char) :
    ∃ more, (reading.advance value text).content = reading.shown ++ more :=
  ⟨_, by simp only [Reading.content, Reading.advance, List.append_assoc]; rfl⟩

theorem Alike.advance_bind {value : List Char → List Char} {left right : Reading}
    (alike : Alike left right) (name literal : String) (word : Identifier.isWord name = true)
    (notPercent : left.progress ≠ .percent) (stands : value name.toList = literal.toList)
    (noBind : (run right.progress (protect literal).toList).1.any Segment.isBind = false) :
    Alike (left.advance value ("%(" ++ name ++ ")s").toList)
        (right.advance value (protect literal).toList) ∧
      (left.advance value ("%(" ++ name ++ ")s").toList) =
        ⟨left.content ++ literal.toList, .outside⟩ := by
  obtain ⟨progress, content⟩ := alike
  have notPercentRight : right.progress ≠ .percent := by
    rcases progress with same | ⟨_, other⟩
    · exact same ▸ notPercent
    · exact other
  have advanced := left.advance_bind value name literal word notPercent stands
  have characters : (protect literal).toList =
      literal.toList.flatMap fun c => if c = '%' then ['%', '%'] else [c] := by
    simp [protect]
  rw [characters] at noBind
  obtain ⟨settled, shows⟩ := run_protect value right.progress literal.toList notPercentRight noBind
  refine ⟨⟨?_, ?_⟩, advanced⟩
  · rw [advanced, characters]
    exact Or.inr ⟨rfl, settled⟩
  · rw [advanced, characters, content]
    simp only [Reading.content, Reading.advance, List.append_assoc, shows]
    simp [show unread .outside = [] from rfl]

def valueOf (params : Params) (name : List Char) : List Char :=
  match params.lookup (String.ofList name) with
  | none => []
  | some value => value.literal.toList

theorem fill_of_bound (params : Params) (segments : List Segment)
    (bound : ∀ name, .bind name ∈ segments → (params.lookup (String.ofList name)).isSome = true) :
    fill params segments = .ok (String.ofList (shown (valueOf params) segments)) := by
  induction segments with
  | nil => rfl
  | cons segment rest ih =>
      have others := ih fun name member => bound name (List.mem_cons_of_mem _ member)
      cases segment with
      | text chars => simp [fill, others, shown]
      | bind name =>
          obtain ⟨value, found⟩ := Option.isSome_iff_exists.mp (bound name (by simp))
          simp [fill, others, shown, found, valueOf]

theorem bound_of_fill (params : Params) (segments : List Segment) (text : String)
    (filled : fill params segments = .ok text) :
    ∀ name, .bind name ∈ segments → (params.lookup (String.ofList name)).isSome = true := by
  induction segments generalizing text with
  | nil => simp
  | cons segment rest ih =>
      intro name member
      cases segment with
      | text chars =>
          rw [fill] at filled
          split at filled
          · contradiction
          · rename_i inner innerFilled
            exact ih inner innerFilled name (by simpa using member)
      | bind first =>
          rw [fill] at filled
          split at filled
          · contradiction
          · rename_i value found
            split at filled
            · contradiction
            · rename_i inner innerFilled
              rcases List.mem_cons.mp member with same | member
              · obtain rfl : name = first := by simpa using same
                rw [found]
                rfl
              · exact ih inner innerFilled name member

end ClickHouse.Placeholder
