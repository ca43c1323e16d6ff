import ClickHouse.Proofs.Version.Order
import ClickHouse.Text.Join

/-!
Versions with numbers of any size. A number that does not fit 32 bits counts as zero, so two
versions are ordered by their numbers exactly when the first numbers that differ fit, or count the
same and what follows them tips the balance the way they do (`Version.read_weighed`).
-/

namespace ClickHouse

namespace Version

/-- One to three numbers in digits, with a tag or none; only a third number can have one. -/
structure Written where
  runs : List String
  tag : Option String
  nonempty : runs ≠ []
  atMostThree : runs.length ≤ 3
  digits : ∀ run ∈ runs, run ≠ "" ∧ run.toList.all Char.isDigit = true
  tagged : tag ≠ none → runs.length = 3

namespace Written

def numbersText (version : Written) : String :=
  Text.joinWith "." version.runs

def text (version : Written) : String :=
  match version.tag with
  | none => version.numbersText
  | some tag => version.numbersText ++ "." ++ tag

def numbers (version : Written) : List Nat :=
  version.runs.map fun run => Nat.ofDigitChars 10 run.toList 0

end Written

theorem counted_le (number : Nat) : counted number ≤ number := by
  unfold counted
  split <;> omega

theorem component_digits (run : List Char) (digits : run.all Char.isDigit = true) :
    component run = counted (Nat.ofDigitChars 10 run 0) := by
  rw [component, List.takeWhile_eq_self_iff.mpr (List.all_eq_true.mp digits)]
  rfl

theorem splitDots_digits (run : List Char) (digits : run.all Char.isDigit = true) :
    splitDots run = [run] := by
  induction run with
  | nil => rfl
  | cons c rest ih =>
      rw [List.all_cons, Bool.and_eq_true] at digits
      have noDot : c ≠ '.' := by
        rintro rfl
        exact absurd digits.1 (by decide)
      rw [splitDots, if_neg noDot, ih digits.2]

theorem splitDots_joinWith (first : String) (rest : List String)
    (digits : ∀ run ∈ first :: rest, run.toList.all Char.isDigit = true) :
    splitDots (Text.joinWith "." (first :: rest)).toList =
      (first :: rest).map String.toList := by
  induction rest generalizing first with
  | nil => exact splitDots_digits _ (digits first (by simp))
  | cons second rest ih =>
      have shape : (Text.joinWith "." (first :: second :: rest)).toList =
          first.toList ++ '.' :: (Text.joinWith "." (second :: rest)).toList := by
        simp [Text.joinWith]
      rw [shape, splitDots_append, splitDots_digits _ (digits first (by simp)),
        ih second fun run member => digits run (List.mem_cons_of_mem _ member)]
      rfl

theorem Written.head_visible (version : Written) :
    ∀ c ∈ version.numbersText.toList.head?, Text.isBlank c = false := by
  obtain ⟨runs, tag, nonempty, atMostThree, digits, tagged⟩ := version
  obtain ⟨first, rest, rfl⟩ := List.exists_cons_of_ne_nil nonempty
  obtain ⟨filled, all⟩ := digits first (by simp)
  obtain ⟨d, others, shape⟩ := List.exists_cons_of_ne_nil (l := first.toList) (by simpa using filled)
  have starts : (Text.joinWith "." (first :: rest)).toList.head? = some d := by
    cases rest <;> simp [Text.joinWith, shape]
  intro c head
  obtain rfl : d = c := by simpa [numbersText, starts] using head
  rw [shape, List.all_cons, Bool.and_eq_true] at all
  exact Text.not_isBlank_of_isAlphanum d (by simp [Char.isAlphanum, all.1])

theorem Written.splitDots_numbersText (version : Written) :
    splitDots version.numbersText.toList = version.runs.map String.toList := by
  obtain ⟨runs, tag, nonempty, atMostThree, digits, tagged⟩ := version
  obtain ⟨first, rest, rfl⟩ := List.exists_cons_of_ne_nil nonempty
  exact splitDots_joinWith first rest fun run member => (digits run member).2

theorem Written.numbers_read_numbersText (version : Written) :
    (read version.numbersText).numbers = version.numbers.map counted := by
  have components : (version.runs.map String.toList).map component =
      version.numbers.map counted := by
    rw [numbers, List.map_map, List.map_map]
    exact List.map_congr_left fun run member =>
      component_digits run.toList (version.digits run member).2
  rw [numbers_read, Text.trimLeft_of_head _ version.head_visible, version.splitDots_numbersText,
    components, List.take_of_length_le]
  simpa [numbers] using version.atMostThree

/-- A version is read into its numbers as they count, whatever its tag is. -/
theorem Written.numbers_read (version : Written) :
    (read version.text).numbers = version.numbers.map counted := by
  rw [text]
  split
  · exact version.numbers_read_numbersText
  · rename_i tag isTag
    have three : version.numbersText.toList.count '.' = 2 := by
      have components := length_splitDots version.numbersText.toList
      rw [version.splitDots_numbersText, List.length_map, version.tagged (by simp [isTag])]
        at components
      omega
    rw [numbers_read_append_tag _ tag three, version.numbers_read_numbersText]

theorem length_padded (count : Nat) (numbers : List Nat) :
    (padded count numbers).length = count := by
  induction count generalizing numbers with
  | zero => rfl
  | succ count ih => rw [padded, List.length_cons, ih]

theorem padded_counted (count : Nat) (numbers : List Nat) :
    padded count (numbers.map counted) = (padded count numbers).map counted := by
  induction count generalizing numbers with
  | zero => rfl
  | succ count ih =>
      cases numbers with
      | nil => exact congrArg (0 :: ·) (ih [])
      | cons number numbers => exact congrArg (counted number :: ·) (ih numbers)

/-- Whether two lists compare the same when their numbers count: the first numbers that differ
count as they are, or they count the same and what follows them weighs the way they do. -/
def Agree : List Nat → List Nat → Prop
  | left :: lefts, right :: rights =>
    if left = right then Agree lefts rights
    else
      counted left = left ∧ counted right = right ∨
      counted left = counted right ∧
        compare (lefts.map counted) (rights.map counted) = compare left right
  | _, _ => True

theorem agree_of_fits {lefts rights : List Nat} (leftFits : ∀ left ∈ lefts, left < 4294967296)
    (rightFits : ∀ right ∈ rights, right < 4294967296) : Agree lefts rights := by
  induction lefts generalizing rights with
  | nil => simp [Agree]
  | cons left lefts ih =>
      cases rights with
      | nil => simp [Agree]
      | cons right rights =>
          rw [List.forall_mem_cons] at leftFits rightFits
          rw [Agree]
          split
          · exact ih leftFits.2 rightFits.2
          · exact .inl ⟨if_pos leftFits.1, if_pos rightFits.1⟩

/-- If only one of two numbers fits, they count the same or the wrong way round. -/
theorem compare_counted_eq_iff {left right : Nat} (apart : counted left ≠ counted right) :
    compare (counted left) (counted right) = compare left right ↔
      counted left = left ∧ counted right = right := by
  constructor
  · unfold counted at apart ⊢
    intro same
    by_cases leftFits : left < 4294967296 <;> by_cases rightFits : right < 4294967296
    · simp [leftFits, rightFits]
    · simp only [if_pos leftFits, if_neg rightFits] at apart same
      rw [Nat.compare_eq_lt.mpr (by omega : left < right), Nat.compare_eq_lt] at same
      omega
    · simp only [if_neg leftFits, if_pos rightFits] at apart same
      rw [Nat.compare_eq_gt.mpr (by omega : right < left), Nat.compare_eq_gt] at same
      omega
    · simp [leftFits, rightFits] at apart
  · rintro ⟨leftFits, rightFits⟩
    rw [leftFits, rightFits]

theorem then_of_ne {left right : Nat} (differ : left ≠ right) (next : Ordering) :
    (compare left right).then next = compare left right := by
  cases compared : compare left right with
  | eq => exact absurd (Nat.compare_eq_eq.mp compared) differ
  | lt | gt => rfl

theorem compare_counted_iff {lefts rights : List Nat} (same : lefts.length = rights.length) :
    compare (lefts.map counted) (rights.map counted) = compare lefts rights ↔
      Agree lefts rights := by
  induction lefts generalizing rights with
  | nil =>
      obtain rfl : rights = [] := by simpa using same.symm
      simp [Agree]
  | cons left lefts ih =>
      cases rights with
      | nil => simp at same
      | cons right rights =>
          rw [List.map_cons, List.map_cons, List.compare_cons_cons, List.compare_cons_cons, Agree]
          split
          · rename_i equal
            have behind := ih (Nat.succ.inj same)
            simpa [equal] using behind
          · rename_i differ
            rw [then_of_ne differ]
            by_cases apart : counted left = counted right
            · have notBoth : ¬(counted left = left ∧ counted right = right) := by
                rintro ⟨leftFits, rightFits⟩
                exact differ (by rw [← leftFits, apart, rightFits])
              rw [or_iff_right notBoth, apart, Nat.compare_eq_eq.mpr rfl]
              simp
            · simp [then_of_ne apart, compare_counted_eq_iff apart, apart]

theorem compare_counted_lt {lefts rights : List Nat}
    (rightFits : ∀ right ∈ rights, right < 4294967296) (less : compare lefts rights = .lt) :
    compare (lefts.map counted) rights = .lt := by
  induction lefts generalizing rights with
  | nil => exact less
  | cons left lefts ih =>
      cases rights with
      | nil => exact less
      | cons right rights =>
          rw [List.forall_mem_cons] at rightFits
          rw [List.compare_cons_cons] at less
          rw [List.map_cons, List.compare_cons_cons]
          by_cases equal : left = right
          · have fits : counted left = right := by
              rw [equal]
              exact if_pos rightFits.1
            rw [equal, Nat.compare_eq_eq.mpr rfl] at less
            rw [fits, Nat.compare_eq_eq.mpr rfl]
            exact ih rightFits.2 less
          · rw [then_of_ne equal, Nat.compare_eq_lt] at less
            have smaller := counted_le left
            rw [Nat.compare_eq_lt.mpr (by omega : counted left < right)]
            rfl

def Written.three (version : Written) : List Nat :=
  padded 3 version.numbers

theorem Written.order_read (first second : Written) :
    (read first.text).order (read second.text) =
      compare (first.three.map counted) (second.three.map counted) := by
  rw [order, compareNumbers_eq_compare (length_numbers_read _) (length_numbers_read _),
    first.numbers_read, second.numbers_read, padded_counted, padded_counted]
  rfl

theorem fits_since (feature : Feature) : ∀ number ∈ feature.since, number < 4294967296 := by
  cases feature <;> decide

theorem Written.atLeast_read (version : Written) (feature : Feature) :
    (read version.text).atLeast feature.since =
      decide (compare (version.three.map counted) feature.since ≠ .lt) := by
  have length : feature.since.length ≤ 3 := by cases feature <;> decide
  have whole : padded 3 feature.since = feature.since := by cases feature <;> rfl
  rw [atLeast, compareNumbers_eq_compare (length_numbers_read _) length, version.numbers_read,
    padded_counted, whole]
  rfl

theorem fits_padded {count : Nat} {numbers : List Nat}
    (fits : ∀ number ∈ numbers, number < 4294967296) :
    ∀ number ∈ padded count numbers, number < 4294967296 := by
  induction count generalizing numbers with
  | zero => simp [padded]
  | succ count ih =>
      rw [padded, List.forall_mem_cons]
      cases numbers with
      | nil => exact ⟨by decide, ih (by simp)⟩
      | cons first rest =>
          rw [List.forall_mem_cons] at fits
          exact ⟨fits.1, ih fits.2⟩

structure Weighed (first second : Written) : Prop where
  order_iff : (read first.text).order (read second.text) = compare first.three second.three ↔
    Agree first.three second.three
  granted : ∀ feature : Feature, (read first.text).atLeast feature.since = true →
    compare first.three feature.since ≠ .lt
  denied_iff : ∀ feature : Feature, (read first.text).atLeast feature.since = false →
    (compare first.three feature.since = .lt ↔ Agree first.three feature.since)
  fits : (∀ number ∈ first.numbers ++ second.numbers, number < 4294967296) →
    Agree first.three second.three ∧ ∀ feature : Feature, Agree first.three feature.since

/-- Reading orders versions by their numbers exactly when what these count as agrees with them, as
it does when they fit 32 bits. -/
theorem read_weighed (first second : Written) : Weighed first second where
  order_iff := by
    rw [Written.order_read]
    apply compare_counted_iff
    rw [Written.three, Written.three, length_padded, length_padded]
  granted feature := by
    rw [Written.atLeast_read, decide_eq_true_iff]
    intro granted less
    exact granted (compare_counted_lt (fits_since feature) less)
  denied_iff feature := by
    rw [Written.atLeast_read, decide_eq_false_iff_not, not_not]
    intro denied
    have length : first.three.length = feature.since.length := by
      rw [Written.three, length_padded]
      cases feature <;> rfl
    have unchanged : feature.since.map counted = feature.since := by
      cases feature <;> rfl
    rw [← compare_counted_iff length, unchanged, denied]
    exact eq_comm
  fits fits := by
    rw [List.forall_mem_append] at fits
    have firstFits : ∀ number ∈ first.three, number < 4294967296 := fits_padded fits.1
    exact ⟨agree_of_fits firstFits (fits_padded fits.2),
      fun feature => agree_of_fits firstFits (fits_since feature)⟩

def release : Written where
  runs := ["21", "8", "10"]
  tag := some "19"
  nonempty := by decide
  atMostThree := by decide
  digits := by decide
  tagged := by decide

def minorRelease : Written where
  runs := ["23", "3"]
  tag := none
  nonempty := by decide
  atMostThree := by decide
  digits := by decide
  tagged := by decide

theorem read_weighed_releases :
    (∀ number ∈ release.numbers ++ minorRelease.numbers, number < 4294967296) ∧
      (read release.text).order (read minorRelease.text) =
        compare release.three minorRelease.three := by
  have fit : ∀ number ∈ release.numbers ++ minorRelease.numbers, number < 4294967296 := by decide
  have weighed := read_weighed release minorRelease
  exact ⟨fit, weighed.order_iff.mpr (weighed.fits fit).1⟩

def hugeRelease : Written where
  runs := ["4294967296"]
  tag := none
  nonempty := by decide
  atMostThree := by decide
  digits := by decide
  tagged := by decide

/-- A version past the width comes before an old release, and loses what that one has. -/
theorem read_misorders_huge :
    (read hugeRelease.text).order (read release.text) = .lt ∧
      compare hugeRelease.three release.three = .gt ∧
      (read hugeRelease.text).atLeast Feature.delete.since = false ∧
      compare hugeRelease.three Feature.delete.since = .gt := by
  rw [Written.order_read, Written.atLeast_read]
  decide

end Version

end ClickHouse
