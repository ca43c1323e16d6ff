import ClickHouse.Json.Printer
import ClickHouse.Json.Reader
import Mathlib.Data.List.Nodup

/-!
JSON values read back from their own text. Floating-point numbers apart, a value whose numbers fit,
whose objects name no member twice and whose containers nest at most 127 deep is the value of what
it is written as (`Json.read?_render`).
-/

namespace ClickHouse.Json

def Number.IsExact : Number → Prop
  | .integer value => -9223372036854775808 ≤ value ∧ value < 18446744073709551616
  | .float _ => False

def EndsNumber (rest : List Char) : Prop :=
  ∀ c ∈ rest.head?, c.isDigit = false ∧ c ≠ '.' ∧ isExponentMark c = false

theorem le_ofDigitChars (digits : List Char) (value : Nat) :
    value ≤ Nat.ofDigitChars 10 digits value := by
  induction digits generalizing value with
  | nil => exact Nat.le_refl _
  | cons digit rest ih =>
      rw [Nat.ofDigitChars_cons]
      have := ih (10 * value + (digit.toNat - '0'.toNat))
      omega

theorem fitDigits_of_lt (digits : List Char) (value : Nat)
    (fits : Nat.ofDigitChars 10 digits value < 18446744073709551616) :
    fitDigits value digits = (Nat.ofDigitChars 10 digits value, []) := by
  induction digits generalizing value with
  | nil => rfl
  | cons digit rest ih =>
      have next : value * 10 + (digit.toNat - 48) = 10 * value + (digit.toNat - '0'.toNat) := by
        rw [Nat.mul_comm]
        rfl
      rw [Nat.ofDigitChars_cons] at fits ⊢
      have bound := le_ofDigitChars rest (10 * value + (digit.toNat - '0'.toNat))
      rw [fitDigits, next, if_pos (by omega), ih _ fits]

theorem toDigits_head (value : Nat) (positive : 0 < value) :
    ∃ first others, Nat.toDigits 10 value = first :: others ∧ first ≠ '0' := by
  have digits : ∀ digit < 10, 0 < digit → Nat.digitChar digit ≠ '0' := by decide
  induction value using Nat.strongRecOn with
  | ind value ih =>
      by_cases small : value < 10
      · exact ⟨_, [], Nat.toDigits_of_lt_base small, digits value small positive⟩
      · obtain ⟨first, others, shape, notZero⟩ := ih (value / 10) (by omega) (by omega)
        refine ⟨first, others ++ [Nat.digitChar (value % 10)], ?_, notZero⟩
        rw [Nat.toDigits_of_base_le (by decide) (by omega), shape]
        rfl

theorem readNumberTail?_end (negative : Bool) (whole : Nat × List Char) (rest : List Char)
    (ends : EndsNumber rest) :
    readNumberTail? negative whole rest =
      (wholeNumber? negative whole).map fun value => (value, rest) := by
  cases rest with
  | nil => rfl
  | cons c others =>
      obtain ⟨-, noDot, noMark⟩ := ends c rfl
      rw [readNumberTail?.eq_def]
      simp [noMark]

theorem readMagnitude?_toDigits (negative : Bool) (value : Nat) (rest : List Char)
    (fits : value < 18446744073709551616) (ends : EndsNumber rest) :
    readMagnitude? negative (Nat.toDigits 10 value ++ rest) =
      (wholeNumber? negative (value, [])).map fun number => (number, rest) := by
  by_cases zero : value = 0
  · subst zero
    cases rest with
    | nil => exact readNumberTail?_end negative (0, []) [] ends
    | cons c others =>
        have noDigit := (ends c rfl).1
        change (if c.isDigit then none else readNumberTail? negative (0, []) (c :: others)) = _
        rw [noDigit]
        exact readNumberTail?_end negative (0, []) _ ends
  · obtain ⟨first, others, shape, notZero⟩ := toDigits_head value (Nat.pos_of_ne_zero zero)
    have digits : ∀ c ∈ first :: others, c.isDigit = true := by
      intro c member
      rw [← shape] at member
      exact Nat.isDigit_of_mem_toDigits (by decide) (by decide) member
    rw [List.forall_mem_cons] at digits
    have taken : (others ++ rest).takeWhile Char.isDigit = others := by
      rw [List.takeWhile_append_of_pos digits.2]
      cases rest with
      | nil => simp
      | cons c more => simp [(ends c rfl).1]
    have dropped : (others ++ rest).dropWhile Char.isDigit = rest := by
      rw [List.dropWhile_append_of_pos digits.2]
      cases rest with
      | nil => rfl
      | cons c more => rw [List.dropWhile_cons_of_neg (by simp [(ends c rfl).1])]
    have whole : Nat.ofDigitChars 10 (first :: others) 0 = value := by
      rw [← shape, Nat.ofDigitChars_ten_toDigits]
    rw [shape, List.cons_append, readMagnitude?.eq_def]
    dsimp only
    rw [if_neg notZero, if_pos digits.1, taken, dropped,
      fitDigits_of_lt _ _ (by rw [whole]; exact fits), whole, readNumberTail?_end negative _ _ ends]

theorem readNumber?_toDigits (value : Nat) (rest : List Char) :
    readNumber? (Nat.toDigits 10 value ++ rest) =
      readMagnitude? false (Nat.toDigits 10 value ++ rest) := by
  obtain ⟨first, others, shape⟩ :=
    List.exists_cons_of_ne_nil (Nat.toDigits_ne_nil (n := value) (b := 10))
  have digit : first.isDigit = true :=
    Nat.isDigit_of_mem_toDigits (by decide) (by decide) (shape ▸ List.mem_cons_self ..)
  rw [shape, List.cons_append, readNumber?.eq_def]
  split
  · rename_i sign
    obtain ⟨rfl, -⟩ := List.cons.inj sign
    contradiction
  · rfl

theorem readNumber?_render (number : Number) (rest : List Char) (exact : number.IsExact)
    (ends : EndsNumber rest) :
    readNumber? (number.render.toList ++ rest) = some (number, rest) := by
  cases number with
  | float value => exact exact.elim
  | integer value =>
      obtain ⟨lower, upper⟩ := exact
      change readNumber? (value.repr.toList ++ rest) = _
      rw [Int.repr_eq_if]
      by_cases natural : 0 ≤ value
      · have back : ((value.toNat : Nat) : Int) = value := Int.toNat_of_nonneg natural
        rw [if_pos natural, Nat.toList_repr, readNumber?_toDigits,
          readMagnitude?_toDigits false _ _ (by omega) ends]
        simp only [wholeNumber?, Bool.false_eq_true, if_false, Option.map_some, back]
      · have inRange : 0 < (-value).toNat ∧ (-value).toNat ≤ 9223372036854775808 := by omega
        have back : -(((-value).toNat : Nat) : Int) = value := by omega
        rw [if_neg natural, String.toList_append, Nat.toList_repr]
        change readMagnitude? true (Nat.toDigits 10 (-value).toNat ++ rest) = _
        rw [readMagnitude?_toDigits true _ _ (by omega) ends]
        simp only [wholeNumber?, if_true, if_pos inRange, Option.map_some, back]

theorem hexValue?_hexDigit (value : Nat) :
    Text.hexValue? (hexDigit value) = some (value % 16) := by
  have digits : ∀ digit < 16, Text.hexValue? (Nat.digitChar digit) = some digit := by decide
  exact digits _ (Nat.mod_lt _ (by decide))

theorem readUnicodeEscape?_control (c : Char) (rest : List Char) (control : c.toNat < 32) :
    readUnicodeEscape? ('0' :: '0' :: hexDigit (c.toNat / 16) :: hexDigit c.toNat :: rest) =
      some (c, rest) := by
  have zero : Text.hexValue? '0' = some 0 := by decide
  have unit : ((0 * 16 + 0) * 16 + c.toNat / 16 % 16) * 16 + c.toNat % 16 = c.toNat := by omega
  rw [readUnicodeEscape?, readHex4?, zero, hexValue?_hexDigit, hexValue?_hexDigit]
  dsimp only
  rw [unit, if_neg (by omega), if_neg (by omega), Char.ofNat_toNat]

def withChar (c : Char) : Option (List Char × List Char) → Option (List Char × List Char) :=
  Option.map fun (text, rest) => (c :: text, rest)

theorem readStringTail?_escape {escape c : Char} (fuel : Nat) {text rest : List Char}
    (read : (if escape = 'u' then readUnicodeEscape? text
      else (simpleEscape? escape).map fun value => (value, text)) = some (c, rest)) :
    readStringTail? (fuel + 1) ('\\' :: escape :: text) =
      withChar c (readStringTail? fuel rest) := by
  rw [readStringTail?.eq_def]
  dsimp only
  rw [if_neg (by decide), if_pos rfl, read]
  dsimp only
  cases readStringTail? fuel rest <;> rfl

theorem readStringTail?_escapeChar (c : Char) (fuel : Nat) (rest : List Char) :
    readStringTail? (fuel + 1) (escapeChar c ++ rest) = withChar c (readStringTail? fuel rest) := by
  unfold escapeChar
  -- the seven characters with an escape of one letter
  iterate 7
    split
    · rename_i isShort
      subst isShort
      exact readStringTail?_escape fuel rfl
  split
  · rename_i control
    exact readStringTail?_escape fuel (readUnicodeEscape?_control c rest control)
  · rename_i notMark notBackslash _ _ _ _ _ visible
    rw [List.singleton_append, readStringTail?.eq_def]
    dsimp only
    rw [if_neg notMark, if_neg notBackslash, if_neg visible]
    cases readStringTail? fuel rest <;> rfl

theorem readStringTail?_quoted (text rest : List Char) (fuel : Nat)
    (fits : (text.flatMap escapeChar).length < fuel) :
    readStringTail? fuel (text.flatMap escapeChar ++ '\x22' :: rest) = some (text, rest) := by
  induction text generalizing fuel with
  | nil =>
      obtain ⟨fuel, rfl⟩ := Nat.exists_eq_add_one_of_ne_zero (Nat.ne_of_gt fits)
      rw [List.flatMap_nil, List.nil_append, readStringTail?.eq_def]
      exact if_pos rfl
  | cons c others ih =>
      have written : 0 < (escapeChar c).length := by
        unfold escapeChar
        repeat' split
        all_goals exact Nat.succ_pos _
      rw [List.flatMap_cons, List.length_append] at fits
      obtain ⟨fuel, rfl⟩ := Nat.exists_eq_add_one_of_ne_zero (n := fuel) (by omega)
      rw [List.flatMap_cons, List.append_assoc, readStringTail?_escapeChar, ih fuel (by omega)]
      rfl

theorem readString?_quoted (text : String) (rest : List Char) :
    readString? ((quoted text).toList ++ rest) = some (text, rest) := by
  have shape : (quoted text).toList ++ rest =
      '\x22' :: (text.toList.flatMap escapeChar ++ '\x22' :: rest) := by
    simp [quoted]
  rw [shape, readString?, readStringTail?_quoted _ _ _ (by simp only [List.length_append]; omega)]
  simp

/-- Whether a value is read back as it is: its numbers are exact, its objects name no member twice
and its containers nest at most `depth` deep. -/
inductive Fits : Nat → Json → Prop
  | null (depth : Nat) : Fits depth .null
  | bool (depth : Nat) (value : Bool) : Fits depth (.bool value)
  | number (depth : Nat) (value : Number) : value.IsExact → Fits depth (.number value)
  | string (depth : Nat) (text : String) : Fits depth (.string text)
  | array {depth : Nat} {items : List Json} : (∀ item ∈ items, Fits depth item) →
      Fits (depth + 1) (.array items)
  | object {depth : Nat} {members : List (String × Json)} : (members.map Prod.fst).Nodup →
      (∀ member ∈ members, Fits depth member.2) → Fits (depth + 1) (.object members)

/-- Whether a value is read from its text before any rest that does not continue a number, with a
fuel of twice its length. -/
def ReadsBack (depth : Nat) (value : Json) : Prop :=
  ∀ fuel rest, 2 * value.render.toList.length ≤ fuel → EndsNumber rest →
    readValue? fuel depth (value.render.toList ++ rest) = some (value, rest)

theorem skipBlanks_of_visible {c : Char} (visible : isJsonBlank c = false) (rest : List Char) :
    skipBlanks (c :: rest) = c :: rest := by
  rw [skipBlanks, List.dropWhile_cons_of_neg (by simp [visible])]

theorem endsNumber_cons {c : Char} (rest : List Char)
    (ends : c.isDigit = false ∧ c ≠ '.' ∧ isExponentMark c = false) : EndsNumber (c :: rest) := by
  rintro d ⟨⟩
  exact ends

theorem Number.head_render (number : Number) (exact : number.IsExact) :
    ∃ c others, number.render.toList = c :: others ∧ (c = '-' ∨ c.isDigit = true) := by
  cases number with
  | float value => exact exact.elim
  | integer value =>
      change ∃ c others, value.repr.toList = c :: others ∧ _
      rw [Int.repr_eq_if]
      split
      · obtain ⟨first, others, shape⟩ :=
          List.exists_cons_of_ne_nil (Nat.toDigits_ne_nil (n := value.toNat) (b := 10))
        have digit : first.isDigit = true :=
          Nat.isDigit_of_mem_toDigits (by decide) (by decide) (shape ▸ List.mem_cons_self ..)
        exact ⟨first, others, by rw [Nat.toList_repr, shape], .inr digit⟩
      · exact ⟨'-', _, by rw [String.toList_append]; rfl, .inl rfl⟩

theorem visible_of_isDigit {c : Char} (digit : c.isDigit = true) :
    isJsonBlank c = false ∧ c ≠ ']' ∧ c ≠ '\x22' ∧ c ≠ '[' ∧ c ≠ '\x7b' ∧ c ≠ 'n' ∧ c ≠ 't' ∧
      c ≠ 'f' := by
  refine ⟨?_, ?_, ?_, ?_, ?_, ?_, ?_, ?_⟩
  · simp only [isJsonBlank, Bool.or_eq_false_iff, decide_eq_false_iff_not]
    refine ⟨⟨⟨?_, ?_⟩, ?_⟩, ?_⟩ <;> rintro rfl <;> contradiction
  all_goals
    rintro rfl
    contradiction

theorem Fits.head_render {depth : Nat} {value : Json} (fits : Fits depth value) :
    ∃ c others, value.render.toList = c :: others ∧ isJsonBlank c = false ∧ c ≠ ']' := by
  cases fits with
  | null => exact ⟨'n', _, rfl, by decide, by decide⟩
  | bool _ value => cases value <;> exact ⟨_, _, rfl, by decide, by decide⟩
  | number _ value exact =>
      obtain ⟨c, others, shape, rfl | digit⟩ := value.head_render exact
      · exact ⟨'-', others, shape, by decide, by decide⟩
      · exact ⟨c, others, shape, (visible_of_isDigit digit).1, (visible_of_isDigit digit).2.1⟩
  | string _ text =>
      rw [render, quoted, String.toList_ofList]
      exact ⟨'\x22', _, rfl, by decide, by decide⟩
  | array =>
      rw [render, String.toList_append, String.toList_append]
      exact ⟨'[', _, rfl, by decide, by decide⟩
  | object =>
      rw [render, String.toList_append, String.toList_append]
      exact ⟨'\x7b', _, rfl, by decide, by decide⟩

theorem readsBack_number (depth : Nat) (number : Number) (exact : number.IsExact) :
    ReadsBack depth (.number number) := by
  intro fuel rest enough ends
  obtain ⟨c, others, shape, starts⟩ := number.head_render exact
  have read := readNumber?_render number rest exact ends
  rw [render, shape] at enough
  obtain ⟨fuel, rfl⟩ := Nat.exists_eq_add_one_of_ne_zero (n := fuel) (by simp at enough; omega)
  have notOther : isJsonBlank c = false ∧ c ≠ ']' ∧ c ≠ '\x22' ∧ c ≠ '[' ∧ c ≠ '\x7b' ∧ c ≠ 'n' ∧
      c ≠ 't' ∧ c ≠ 'f' := by
    rcases starts with rfl | digit
    · decide
    · exact visible_of_isDigit digit
  obtain ⟨visible, -, noMark, noBracket, noBrace, notNull, notTrue, notFalse⟩ := notOther
  rw [shape, List.cons_append] at read
  rw [render, shape, List.cons_append, readValue?.eq_def]
  dsimp only
  rw [skipBlanks_of_visible visible]
  split
  · contradiction
  all_goals
    rename_i same
    obtain ⟨rfl, rfl⟩ := List.cons.inj same
    first
    | contradiction
    | rw [read, Option.map_some]

theorem readsBack_string (depth : Nat) (text : String) : ReadsBack depth (.string text) := by
  intro fuel rest enough ends
  have read := readString?_quoted text rest
  have shape : (quoted text).toList = '\x22' :: (text.toList.flatMap escapeChar ++ ['\x22']) := by
    simp [quoted]
  rw [render, shape] at enough
  obtain ⟨fuel, rfl⟩ := Nat.exists_eq_add_one_of_ne_zero (n := fuel) (by simp at enough; omega)
  rw [shape, List.cons_append] at read
  rw [render, shape, List.cons_append, readValue?.eq_def]
  dsimp only
  rw [skipBlanks_of_visible (by decide)]
  change (readString? _).map _ = _
  rw [read, Option.map_some]

theorem readsBack_word (depth : Nat) (value : Json)
    (word : value = .null ∨ ∃ truth, value = .bool truth) : ReadsBack depth value := by
  intro fuel rest enough ends
  rcases word with rfl | ⟨_ | _, rfl⟩
  all_goals
    obtain ⟨fuel, rfl⟩ := Nat.exists_eq_add_one_of_ne_zero (n := fuel) (by
      simp [render] at enough
      omega)
    rfl

theorem toList_joinWith_cons (first second : String) (rest : List String) :
    (Text.joinWith "," (first :: second :: rest)).toList =
      first.toList ++ ',' :: (Text.joinWith "," (second :: rest)).toList := by
  rw [Text.joinWith_cons_cons, String.toList_append, String.toList_append, List.append_assoc]
  rfl

theorem readItems?_render {depth : Nat} (items : List Json) (nonempty : items ≠ [])
    (each : ∀ item ∈ items, ReadsBack depth item) (fuel : Nat) (rest : List Char)
    (enough : 2 * (Text.joinWith "," (renderItems items)).toList.length < fuel) :
    readItems? fuel depth ((Text.joinWith "," (renderItems items)).toList ++ ']' :: rest) =
      some (items, rest) := by
  induction items generalizing fuel with
  | nil => contradiction
  | cons item others ih =>
      obtain ⟨first, later⟩ := List.forall_mem_cons.mp each
      obtain ⟨fuel, rfl⟩ := Nat.exists_eq_add_one_of_ne_zero (n := fuel) (by omega)
      cases others with
      | nil =>
          simp only [renderItems, Text.joinWith] at enough ⊢
          rw [readItems?.eq_def]
          dsimp only
          rw [first fuel (']' :: rest) (by omega) (endsNumber_cons _ (by decide))]
          dsimp only
          rw [skipBlanks_of_visible (by decide)]
          rfl
      | cons second others =>
          simp only [renderItems, toList_joinWith_cons] at enough ⊢
          rw [List.length_append, List.length_cons] at enough
          have read := ih (by simp) later fuel (by simp only [renderItems]; omega)
          simp only [renderItems] at read
          rw [List.append_assoc, List.cons_append, readItems?.eq_def]
          dsimp only
          rw [first fuel _ (by omega) (endsNumber_cons _ (by decide))]
          dsimp only
          rw [skipBlanks_of_visible (by decide)]
          change (readItems? fuel depth _).map _ = _
          rw [read, Option.map_some]

theorem toList_member (name : String) (value : Json) :
    (quoted name ++ ":" ++ value.render).toList =
      (quoted name).toList ++ ':' :: value.render.toList := by
  rw [String.toList_append, String.toList_append, List.append_assoc]
  rfl

theorem head_quoted (name : String) (rest : List Char) :
    skipBlanks ((quoted name).toList ++ rest) = (quoted name).toList ++ rest := by
  rw [quoted, String.toList_ofList]
  exact skipBlanks_of_visible (by decide) _

theorem readMembers?_render {depth : Nat} (members : List (String × Json)) (nonempty : members ≠ [])
    (each : ∀ member ∈ members, ReadsBack depth member.2) (fuel : Nat) (rest : List Char)
    (enough : 2 * (Text.joinWith "," (renderMembers members)).toList.length < fuel) :
    readMembers? fuel depth
        ((Text.joinWith "," (renderMembers members)).toList ++ '\x7d' :: rest) =
      some (members, rest) := by
  have colon : isJsonBlank ':' = false := by decide
  have comma : isJsonBlank ',' = false := by decide
  have brace : isJsonBlank '\x7d' = false := by decide
  induction members generalizing fuel with
  | nil => contradiction
  | cons member others ih =>
      obtain ⟨name, value⟩ := member
      obtain ⟨first, later⟩ := List.forall_mem_cons.mp each
      change ReadsBack depth value at first
      obtain ⟨fuel, rfl⟩ := Nat.exists_eq_add_one_of_ne_zero (n := fuel) (by omega)
      cases others with
      | nil =>
          simp only [renderMembers, Text.joinWith, toList_member] at enough ⊢
          rw [List.length_append, List.length_cons] at enough
          have read := first fuel ('\x7d' :: rest) (by omega) (endsNumber_cons _ (by decide))
          rw [List.append_assoc, List.cons_append, readMembers?.eq_def]
          simp only [head_quoted, readString?_quoted, skipBlanks_of_visible colon, read,
            skipBlanks_of_visible brace]
      | cons second others =>
          obtain ⟨secondName, secondValue⟩ := second
          simp only [renderMembers, toList_joinWith_cons, toList_member] at enough ⊢
          rw [List.length_append, List.length_append, List.length_cons, List.length_cons] at enough
          have others := ih (by simp) later fuel (by simp only [renderMembers]; omega)
          simp only [renderMembers] at others
          have read := fun rest =>
            first fuel (',' :: rest) (by omega) (endsNumber_cons _ (by decide))
          rw [List.append_assoc, List.append_assoc, List.cons_append, List.cons_append,
            readMembers?.eq_def]
          simp only [head_quoted, readString?_quoted, skipBlanks_of_visible colon, read,
            skipBlanks_of_visible comma, others, Option.map_some]

theorem insertMember_of_notMem (name : String) (value : Json) (members : List (String × Json))
    (fresh : name ∉ members.map Prod.fst) :
    insertMember name value members = members ++ [(name, value)] := by
  induction members with
  | nil => rfl
  | cons member rest ih =>
      obtain ⟨other, old⟩ := member
      rw [List.map_cons, List.mem_cons, not_or] at fresh
      rw [insertMember, if_neg (Ne.symm fresh.1), ih fresh.2, List.cons_append]

theorem ofMembers_of_nodup (members : List (String × Json))
    (distinct : (members.map Prod.fst).Nodup) : ofMembers members = .object members := by
  have kept (before after : List (String × Json))
      (distinct : ((before ++ after).map Prod.fst).Nodup) :
      after.foldl (fun kept member => insertMember member.1 member.2 kept) before =
        before ++ after := by
    induction after generalizing before with
    | nil => simp
    | cons member rest ih =>
        have fresh : member.1 ∉ before.map Prod.fst := by
          intro old
          rw [List.map_append, List.map_cons] at distinct
          exact (List.nodup_append.mp distinct).2.2 _ old _ (List.mem_cons_self ..) rfl
        rw [List.foldl_cons, insertMember_of_notMem _ _ _ fresh, ih]
        · simp
        · simpa using distinct
  rw [ofMembers, kept [] members distinct, List.nil_append]

theorem joinWith_starts {item : Json} {c : Char} {tail : List Char}
    (head : item.render.toList = c :: tail) (others : List Json) :
    ∃ more, (Text.joinWith "," (renderItems (item :: others))).toList = c :: more := by
  cases others with
  | nil => exact ⟨tail, by simpa [renderItems, Text.joinWith] using head⟩
  | cons second others =>
      rw [renderItems, renderItems, toList_joinWith_cons, head, List.cons_append]
      exact ⟨_, rfl⟩

theorem joinMembers_starts (member : String × Json) (others : List (String × Json)) :
    ∃ more, (Text.joinWith "," (renderMembers (member :: others))).toList = '\x22' :: more := by
  obtain ⟨name, value⟩ := member
  have starts : (quoted name).toList = '\x22' :: (name.toList.flatMap escapeChar ++ ['\x22']) := by
    rw [quoted, String.toList_ofList]
    rfl
  cases others with
  | nil =>
      rw [renderMembers, renderMembers, Text.joinWith, toList_member, starts, List.cons_append]
      exact ⟨_, rfl⟩
  | cons second others =>
      obtain ⟨secondName, secondValue⟩ := second
      rw [renderMembers, renderMembers, toList_joinWith_cons, toList_member, starts,
        List.cons_append, List.cons_append]
      exact ⟨_, rfl⟩

theorem readsBack_array {depth : Nat} {items : List Json}
    (fits : ∀ item ∈ items, Fits depth item) (each : ∀ item ∈ items, ReadsBack depth item) :
    ReadsBack (depth + 1) (.array items) := by
  intro fuel rest enough ends
  have shape : (Json.array items).render.toList ++ rest =
      '[' :: ((Text.joinWith "," (renderItems items)).toList ++ ']' :: rest) := by
    rw [render, String.toList_append, String.toList_append]
    simp
  have length : (Json.array items).render.toList.length =
      (Text.joinWith "," (renderItems items)).toList.length + 2 := by
    rw [render, String.toList_append, String.toList_append]
    simp
  obtain ⟨fuel, rfl⟩ := Nat.exists_eq_add_one_of_ne_zero (n := fuel) (by omega)
  rw [shape, readValue?.eq_def]
  dsimp only
  rw [skipBlanks_of_visible (by decide)]
  cases items with
  | nil => rfl
  | cons item others =>
      have read := readItems?_render (item :: others) (by simp) each fuel rest (by omega)
      obtain ⟨c, tail, head, visible, notClosing⟩ := (fits item (by simp)).head_render
      obtain ⟨more, starts⟩ := joinWith_starts head others
      rw [starts, List.cons_append] at read ⊢
      simp only [skipBlanks_of_visible visible]
      split
      · contradiction
      · rename_i closing
        obtain ⟨isClosing, -⟩ := List.cons.inj closing
        contradiction
      · rename_i deeper _
        obtain rfl := Nat.succ.inj deeper
        rw [read, Option.map_some]

theorem readsBack_object {depth : Nat} {members : List (String × Json)}
    (distinct : (members.map Prod.fst).Nodup)
    (each : ∀ member ∈ members, ReadsBack depth member.2) :
    ReadsBack (depth + 1) (.object members) := by
  intro fuel rest enough ends
  have shape : (Json.object members).render.toList ++ rest =
      '\x7b' :: ((Text.joinWith "," (renderMembers members)).toList ++ '\x7d' :: rest) := by
    rw [render, String.toList_append, String.toList_append]
    simp
  have length : (Json.object members).render.toList.length =
      (Text.joinWith "," (renderMembers members)).toList.length + 2 := by
    rw [render, String.toList_append, String.toList_append]
    simp
  obtain ⟨fuel, rfl⟩ := Nat.exists_eq_add_one_of_ne_zero (n := fuel) (by omega)
  rw [shape, readValue?.eq_def]
  dsimp only
  rw [skipBlanks_of_visible (by decide)]
  cases members with
  | nil => rfl
  | cons member others =>
      have read := readMembers?_render (member :: others) (by simp) each fuel rest (by omega)
      obtain ⟨more, starts⟩ := joinMembers_starts member others
      rw [starts, List.cons_append] at read ⊢
      simp only [skipBlanks_of_visible (show isJsonBlank '\x22' = false by decide)]
      split
      · contradiction
      · rename_i closing
        obtain ⟨isClosing, -⟩ := List.cons.inj closing
        contradiction
      · rename_i deeper _
        obtain rfl := Nat.succ.inj deeper
        rw [read, Option.map_some, ofMembers_of_nodup _ distinct]

/-- What the printer writes is read as the value it was written from. -/
theorem Fits.readsBack {depth : Nat} {value : Json} (fits : Fits depth value) :
    ReadsBack depth value := by
  induction fits with
  | null depth => exact readsBack_word depth _ (.inl rfl)
  | bool depth value => exact readsBack_word depth _ (.inr ⟨value, rfl⟩)
  | number depth value exact => exact readsBack_number depth value exact
  | string depth text => exact readsBack_string depth text
  | array fits ih => exact readsBack_array fits ih
  | object distinct _ ih => exact readsBack_object distinct ih

theorem read?_render {value : Json} (fits : Fits 127 value) : read? value.render = some value := by
  have enough : 2 * value.render.toList.length ≤ 2 * value.render.length + 2 := by
    rw [String.length_toList]
    omega
  have read := fits.readsBack _ [] enough (by rintro c ⟨⟩)
  rw [List.append_nil] at read
  rw [read?, read]
  rfl

end ClickHouse.Json
