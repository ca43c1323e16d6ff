import ClickHouse.Dialect
import ClickHouse.Proofs.Text.Trim
import Mathlib.Data.List.TakeWhile

/-!
The order of versions. Comparing lists of numbers of different lengths is comparing them padded
with zeros, so it is a total preorder, and a feature stays supported by every later version
(`Version.read_ordered`).
-/

namespace ClickHouse

namespace Version

/-- The first `count` numbers of a list that goes on with zeros. -/
def padded : Nat → List Nat → List Nat
  | 0, _ => []
  | count + 1, numbers => numbers.headD 0 :: padded count numbers.tail

theorem compareNumbers_step (lefts rights : List Nat) :
    compareNumbers lefts rights =
      (compare (lefts.headD 0) (rights.headD 0)).then
        (compareNumbers lefts.tail rights.tail) := by
  cases lefts with
  | cons left lefts => rfl
  | nil =>
      cases rights with
      | nil => rfl
      | cons right rights =>
          simp only [compareNumbers, List.all_cons, List.headD_nil, List.headD_cons, List.tail_nil,
            List.tail_cons]
          by_cases zero : right = 0
          · simp [zero]
          · have less : compare 0 right = .lt := Nat.compare_eq_lt.mpr (by omega)
            simp [zero, less]

theorem compareNumbers_eq_compare {count : Nat} {lefts rights : List Nat}
    (leftFits : lefts.length ≤ count) (rightFits : rights.length ≤ count) :
    compareNumbers lefts rights = compare (padded count lefts) (padded count rights) := by
  induction count generalizing lefts rights with
  | zero =>
      rw [List.eq_nil_of_length_eq_zero (Nat.le_zero.mp leftFits),
        List.eq_nil_of_length_eq_zero (Nat.le_zero.mp rightFits)]
      rfl
  | succ count ih =>
      rw [compareNumbers_step, padded, padded, List.compare_cons_cons]
      rw [ih (by rw [List.length_tail]; omega) (by rw [List.length_tail]; omega)]

theorem compareNumbers_swap (lefts rights : List Nat) :
    compareNumbers lefts rights = (compareNumbers rights lefts).swap := by
  have leftFits := Nat.le_max_left lefts.length rights.length
  have rightFits := Nat.le_max_right lefts.length rights.length
  rw [compareNumbers_eq_compare leftFits rightFits, compareNumbers_eq_compare rightFits leftFits]
  exact Std.OrientedOrd.eq_swap

theorem compareNumbers_trans {lefts middles rights : List Nat}
    (first : (compareNumbers lefts middles).isLE = true)
    (second : (compareNumbers middles rights).isLE = true) :
    (compareNumbers lefts rights).isLE = true := by
  have leftFits : lefts.length ≤ max lefts.length (max middles.length rights.length) := by omega
  have middleFits : middles.length ≤ max lefts.length (max middles.length rights.length) := by
    omega
  have rightFits : rights.length ≤ max lefts.length (max middles.length rights.length) := by omega
  rw [compareNumbers_eq_compare leftFits middleFits] at first
  rw [compareNumbers_eq_compare middleFits rightFits] at second
  rw [compareNumbers_eq_compare leftFits rightFits]
  exact Std.TransOrd.isLE_trans first second

instance : Std.TransCmp compareNumbers where
  eq_swap := compareNumbers_swap _ _
  isLE_trans := compareNumbers_trans

theorem padded_append_zero (count : Nat) (numbers : List Nat) :
    padded count (numbers ++ [0]) = padded count numbers := by
  induction count generalizing numbers with
  | zero => rfl
  | succ count ih =>
      cases numbers with
      | nil => rfl
      | cons number numbers =>
          rw [List.cons_append, padded, padded, List.tail_cons, List.tail_cons, ih]
          rfl

theorem compareNumbers_append_zero (numbers : List Nat) :
    compareNumbers (numbers ++ [0]) numbers = .eq := by
  have longer : (numbers ++ [0]).length ≤ numbers.length + 1 := by simp
  rw [compareNumbers_eq_compare longer (Nat.le_succ _), padded_append_zero]
  exact Std.ReflCmp.compare_self

theorem splitDots_ne_nil (text : List Char) : splitDots text ≠ [] := by
  cases text with
  | nil => simp [splitDots]
  | cons c rest =>
      rw [splitDots]
      split
      · simp
      · split <;> simp

theorem splitDots_cons {c : Char} (noDot : c ≠ '.') (rest : List Char) :
    ∃ part parts, splitDots rest = part :: parts ∧
      splitDots (c :: rest) = (c :: part) :: parts := by
  obtain ⟨part, parts, split⟩ := List.exists_cons_of_ne_nil (splitDots_ne_nil rest)
  refine ⟨part, parts, split, ?_⟩
  rw [splitDots, if_neg noDot, split]

theorem splitDots_eq_splitOn (text : List Char) : splitDots text = text.splitOn '.' := by
  induction text with
  | nil => rfl
  | cons c rest ih =>
      rw [splitDots, List.splitOn, List.splitOnP_cons_eq_if_modifyHead, ← List.splitOn, ← ih]
      by_cases dot : c = '.'
      · simp [dot]
      · obtain ⟨part, parts, split⟩ := List.exists_cons_of_ne_nil (splitDots_ne_nil rest)
        simp [dot, split]

theorem splitDots_append (front rest : List Char) :
    splitDots (front ++ '.' :: rest) = splitDots front ++ splitDots rest := by
  induction front with
  | nil => rfl
  | cons c front ih =>
      by_cases dot : c = '.'
      · simp [splitDots, dot, ih]
      · obtain ⟨part, parts, split, splitLonger⟩ := splitDots_cons dot front
        obtain ⟨other, others, splitAll, splitAllLonger⟩ :=
          splitDots_cons dot (front ++ '.' :: rest)
        rw [ih, split, List.cons_append, List.cons.injEq] at splitAll
        rw [List.cons_append, splitAllLonger, splitLonger, ← splitAll.1, ← splitAll.2]
        rfl

theorem length_splitDots (text : List Char) :
    (splitDots text).length = text.count '.' + 1 := by
  induction text with
  | nil => rfl
  | cons c rest ih =>
      by_cases dot : c = '.'
      · simp [splitDots, dot, ih]
      · obtain ⟨part, parts, split, splitLonger⟩ := splitDots_cons dot rest
        rw [split] at ih
        rw [splitLonger, List.count_cons_of_ne dot, ← ih]
        rfl

def leadingDigits (text : List Char) : List (List Char) :=
  (splitDots text).map fun part => part.takeWhile Char.isDigit

theorem leadingDigits_cons {c : Char} (noDot : c ≠ '.') (rest : List Char) :
    ∃ digits others, leadingDigits rest = digits :: others ∧
      leadingDigits (c :: rest) = (if c.isDigit then c :: digits else []) :: others := by
  obtain ⟨part, parts, split, splitLonger⟩ := splitDots_cons noDot rest
  refine ⟨_, _, by rw [leadingDigits, split, List.map_cons], ?_⟩
  rw [leadingDigits, splitLonger, List.map_cons, List.takeWhile_cons]

theorem leadingDigits_cons_congr (c : Char) {rest other : List Char}
    (same : leadingDigits rest = leadingDigits other) :
    leadingDigits (c :: rest) = leadingDigits (c :: other) := by
  by_cases dot : c = '.'
  · subst dot
    simpa [leadingDigits, splitDots] using same
  · obtain ⟨digits, others, ofRest, ofLonger⟩ := leadingDigits_cons dot rest
    obtain ⟨digits', others', ofOther, ofOtherLonger⟩ := leadingDigits_cons dot other
    rw [ofRest, ofOther, List.cons.injEq] at same
    rw [ofLonger, ofOtherLonger, same.1, same.2]

theorem leadingDigits_blank {c : Char} (blank : Text.isBlank c = true) {rest : List Char}
    (empty : leadingDigits rest = [[]]) : leadingDigits (c :: rest) = [[]] := by
  have noDot : c ≠ '.' := by
    rintro rfl
    exact absurd blank (by decide)
  have noDigit : c.isDigit = false := by
    cases digit : c.isDigit with
    | false => rfl
    | true =>
        have visible := Text.not_isBlank_of_isAlphanum c (by simp [Char.isAlphanum, digit])
        rw [visible] at blank
        contradiction
  obtain ⟨digits, others, ofRest, ofLonger⟩ := leadingDigits_cons noDot rest
  rw [empty, List.cons.injEq] at ofRest
  rw [ofLonger, noDigit, ← ofRest.2]
  rfl

theorem leadingDigits_trimRight (text : List Char) :
    leadingDigits (Text.trimRight text) = leadingDigits text := by
  induction text with
  | nil => rfl
  | cons c rest ih =>
      rw [Text.trimRight]
      split
      · rename_i trimmed
        rw [trimmed] at ih
        split
        · rename_i blank
          exact (leadingDigits_blank blank ih.symm).symm
        · exact leadingDigits_cons_congr c ih
      · exact leadingDigits_cons_congr c ih

theorem component_takeWhile (part : List Char) :
    component (part.takeWhile Char.isDigit) = component part := by
  rw [component, component, List.takeWhile_idem]

theorem numbers_read (text : String) :
    (read text).numbers =
      ((splitDots (Text.trimLeft text.toList)).map component).take 3 := by
  have components (text : List Char) :
      (leadingDigits text).map component = (splitDots text).map component := by
    simp [leadingDigits, component_takeWhile]
  rw [← components, ← leadingDigits_trimRight, components]
  exact List.map_take

def counted (number : Nat) : Nat :=
  if number < 4294967296 then number else 0

theorem numbers_read_splitOn (text : String) :
    (read text).numbers = (((Text.trimLeft text.toList).splitOn '.').take 3).map
      fun part => counted (Nat.ofDigitChars 10 (part.takeWhile Char.isDigit) 0) := by
  rw [numbers_read, splitDots_eq_splitOn, List.map_take]
  rfl

theorem trimLeft_append_dot (front rest : List Char) :
    Text.trimLeft (front ++ '.' :: rest) = Text.trimLeft front ++ '.' :: rest := by
  have visible : ¬ Text.isBlank '.' = true := by decide
  rw [Text.trimLeft, Text.trimLeft, List.dropWhile_append]
  split
  · rename_i empty
    rw [List.isEmpty_iff.mp empty, List.dropWhile_cons_of_neg visible]
    rfl
  · rfl

theorem count_trimLeft (text : List Char) :
    (Text.trimLeft text).count '.' = text.count '.' := by
  induction text with
  | nil => rfl
  | cons c rest ih =>
      by_cases blank : Text.isBlank c = true
      · have noDot : c ≠ '.' := by
          rintro rfl
          exact absurd blank (by decide)
        rw [Text.trimLeft, List.dropWhile_cons_of_pos blank, List.count_cons_of_ne noDot]
        exact ih
      · rw [Text.trimLeft, List.dropWhile_cons_of_neg blank]

theorem numbers_read_append (front rest : String) :
    (read (front ++ "." ++ rest)).numbers =
      ((splitDots (Text.trimLeft front.toList)).map component ++
        (splitDots rest.toList).map component).take 3 := by
  have shape : (front ++ "." ++ rest).toList = front.toList ++ '.' :: rest.toList := by
    simp
  rw [numbers_read, shape, trimLeft_append_dot, splitDots_append, List.map_append]

theorem length_components (text : String) :
    ((splitDots (Text.trimLeft text.toList)).map component).length =
      text.toList.count '.' + 1 := by
  rw [List.length_map, length_splitDots, count_trimLeft]

theorem numbers_read_append_tag (front rest : String) (three : front.toList.count '.' = 2) :
    (read (front ++ "." ++ rest)).numbers = (read front).numbers := by
  have length := length_components front
  rw [numbers_read_append, numbers_read,
    List.take_append_of_le_length (Nat.le_of_eq (by rw [length, three]))]

theorem numbers_read_append_zero (front : String) (short : front.toList.count '.' < 2) :
    (read (front ++ "." ++ "0")).numbers = (read front).numbers ++ [0] := by
  have length := length_components front
  have zero : (splitDots "0".toList).map component = [0] := by decide
  rw [numbers_read_append, numbers_read, zero,
    List.take_of_length_le (by rw [List.length_append, length, List.length_singleton]; omega),
    List.take_of_length_le (by omega)]

theorem length_numbers_read (text : String) : (read text).numbers.length ≤ 3 := by
  rw [numbers_read, List.length_take]
  omega

def Le (left right : Version) : Prop :=
  left.order right ≠ .gt

def Same (left right : Version) : Prop :=
  left.order right = .eq

instance : Std.TransCmp order where
  eq_swap := compareNumbers_swap _ _
  isLE_trans := compareNumbers_trans

theorem le_iff (left right : Version) : left.Le right ↔ (left.order right).isLE = true :=
  Ordering.isLE_iff_ne_gt.symm

theorem le_trans {left middle right : Version} (first : left.Le middle)
    (second : middle.Le right) : left.Le right := by
  rw [le_iff] at first second ⊢
  exact Std.TransCmp.isLE_trans first second

theorem le_antisymm {left right : Version} (first : left.Le right) (second : right.Le left) :
    left.Same right :=
  Std.OrientedCmp.isLE_antisymm ((le_iff left right).mp first) ((le_iff right left).mp second)

theorem le_total (left right : Version) : left.Le right ∨ right.Le left := by
  by_cases greater : left.order right = .gt
  · right
    rw [Le, Std.OrientedCmp.lt_of_gt greater]
    simp
  · exact .inl greater

theorem atLeast_iff (version : Version) (minimum : List Nat) :
    version.atLeast minimum = true ↔ (compareNumbers minimum version.numbers).isLE = true := by
  rw [atLeast, decide_eq_true_iff, ← Std.OrientedCmp.isGE_iff_isLE, Ordering.isGE_iff_ne_lt]

theorem same_equivalence : Equivalence Same where
  refl _ := Std.ReflCmp.compare_self
  symm same := Std.OrientedCmp.eq_symm same
  trans first second := Std.TransCmp.eq_trans first second

theorem atLeast_mono {left right : Version} (le : left.Le right) {minimum : List Nat}
    (reached : left.atLeast minimum = true) : right.atLeast minimum = true := by
  rw [atLeast_iff] at reached ⊢
  exact compareNumbers_trans reached ((le_iff left right).mp le)

structure Ordered (first second third : String) : Prop where
  /-- Each of the first three components counts by the digits in front of it. -/
  numbers : (read first).numbers = (((Text.trimLeft first.toList).splitOn '.').take 3).map
    fun part => counted (Nat.ofDigitChars 10 (part.takeWhile Char.isDigit) 0)
  refl : (read first).Le (read first)
  antisymm : (read first).Le (read second) → (read second).Le (read first) →
    (read first).Same (read second)
  total : (read first).Le (read second) ∨ (read second).Le (read first)
  swap : (read second).order (read first) = ((read first).order (read second)).swap
  trans : (read first).Le (read second) → (read second).Le (read third) →
    (read first).Le (read third)
  sameRefl : (read first).Same (read first)
  sameSymm : (read first).Same (read second) → (read second).Same (read first)
  sameTrans : (read first).Same (read second) → (read second).Same (read third) →
    (read first).Same (read third)
  sameOrder : (read first).Same (read second) →
    (read first).order (read third) = (read second).order (read third)
  atLeast : (read first).atLeast (read second).numbers = true ↔ (read second).Le (read first)
  /-- Three numbers decide, a missing one being zero. -/
  lexicographic : (read first).order (read second) =
    compare (padded 3 (read first).numbers) (padded 3 (read second).numbers)
  missing : first.toList.count '.' < 2 → (read (first ++ "." ++ "0")).Same (read first)
  tag : first.toList.count '.' = 2 →
    (read (first ++ "." ++ second)).numbers = (read first).numbers
  supports : (read first).Le (read second) → ∀ (quoting : QuoteStyle) (feature : Feature),
    Dialect.supports ⟨quoting, some (read first)⟩ feature = true →
      Dialect.supports ⟨quoting, some (read second)⟩ feature = true

/-- Versions of any texts are in a total preorder, and features go along with it. -/
theorem read_ordered (first second third : String) : Ordered first second third where
  numbers := numbers_read_splitOn first
  refl := (le_iff _ _).mpr Std.ReflCmp.isLE_rfl
  antisymm := le_antisymm
  total := le_total _ _
  swap := compareNumbers_swap _ _
  trans := le_trans
  sameRefl := same_equivalence.refl _
  sameSymm := same_equivalence.symm
  sameTrans := same_equivalence.trans
  sameOrder same := Std.TransCmp.congr_left same
  atLeast := (atLeast_iff _ _).trans (le_iff _ _).symm
  lexicographic := compareNumbers_eq_compare (length_numbers_read first)
    (length_numbers_read second)
  missing short := by
    rw [Same, order, numbers_read_append_zero first short]
    exact compareNumbers_append_zero _
  tag three := numbers_read_append_tag first second three
  supports le _ _ supported := atLeast_mono le supported

end Version

end ClickHouse
