import ClickHouse.Proofs.Text.Trim
import ClickHouse.Proofs.Value.Cell
import ClickHouse.Value.Literal

/-!
Dates and times read back from their own literals. A field is written with all of its digits and
ends where the next mark stands, so reading takes exactly what was written. A moment is written by
its second and the fraction behind it, and the second 60 is the only one that is read as a leap
second; so a leap second comes back behind the second 59 and nowhere else
(`Value.ofCell_literal_iff`).
-/

namespace ClickHouse

/-- A moment of the calendar. Any second may be followed by a leap second, whose nanoseconds count
from 10^9 upwards. -/
structure DateTime.IsValid (time : DateTime) : Prop where
  date : time.date.IsValid
  hour : time.hour ≤ 23
  minute : time.minute ≤ 59
  second : time.second ≤ 59
  nanosecond : time.nanosecond < 2000000000

namespace DateTime

/-- The moment that is written: behind another second than 59 a leap second is the second that
comes next. -/
def carried (time : DateTime) : DateTime :=
  if time.nanosecond < 1000000000 ∨ time.second = 59 then time
  else { time with second := time.second + 1, nanosecond := time.nanosecond - 1000000000 }

theorem carried_eq_self_iff (time : DateTime) :
    time.carried = time ↔ time.nanosecond < 1000000000 ∨ time.second = 59 := by
  rw [carried]
  split
  · rename_i kept
    exact iff_of_true rfl kept
  · rename_i leaps
    apply iff_of_false _ leaps
    intro same
    have second : time.second + 1 = time.second := congrArg DateTime.second same
    omega

end DateTime

namespace Calendar

theorem readDigits?_append (width : Nat) (digits rest : List Char) (nonempty : digits ≠ [])
    (areDigits : ∀ c ∈ digits, c.isDigit = true) (fits : digits.length ≤ width)
    (ends : digits.length = width ∨ ∀ c ∈ rest.head?, c.isDigit = false) :
    readDigits? width (digits ++ rest) = some (Nat.ofDigitChars 10 digits 0, rest) := by
  have stops : (rest.take (width - digits.length)).takeWhile Char.isDigit = [] := by
    rcases ends with full | stops
    · rw [full, Nat.sub_self, List.take_zero, List.takeWhile_nil]
    · cases rest with
      | nil => simp
      | cons c others =>
          cases width - digits.length with
          | zero => simp
          | succ count => simp [stops c rfl]
  have taken : ((digits ++ rest).take width).takeWhile Char.isDigit = digits := by
    rw [List.take_append, List.take_of_length_le fits, List.takeWhile_append_of_pos areDigits, stops,
      List.append_nil]
  rw [readDigits?, taken, if_neg (by simpa using nonempty), List.drop_left]

theorem toList_padded (width value : Nat) : (padded width value).toList =
    List.replicate (width - (Nat.toDigits 10 value).length) '0' ++ Nat.toDigits 10 value := by
  rw [padded, String.toList_ofList]

theorem isDigit_padded (width value : Nat) : ∀ c ∈ (padded width value).toList, c.isDigit = true := by
  intro c member
  rw [toList_padded, List.mem_append] at member
  rcases member with zero | digit
  · rw [List.eq_of_mem_replicate zero]
    rfl
  · exact Nat.isDigit_of_mem_toDigits (by decide) (by decide) digit

theorem padded_ne_nil (width value : Nat) : (padded width value).toList ≠ [] := by
  rw [toList_padded]
  exact List.append_ne_nil_of_right_ne_nil _ Nat.toDigits_ne_nil

theorem ofDigitChars_padded (width value : Nat) :
    Nat.ofDigitChars 10 (padded width value).toList 0 = value := by
  rw [toList_padded, Nat.ofDigitChars_append, Nat.ofDigitChars_replicate_zero]
  simp

theorem length_padded (width value : Nat) (positive : 0 < width) (fits : value < Nat.pow 10 width) :
    (padded width value).toList.length = width := by
  have atMost := (Nat.length_toDigits_le_iff (b := 10) (by decide) positive).mpr fits
  rw [toList_padded, List.length_append, List.length_replicate]
  omega

theorem ends_visible {text : List Char} (areDigits : ∀ c ∈ text, c.isDigit = true)
    (nonempty : text ≠ []) (rest : List Char) :
    ∀ c ∈ (text ++ rest).head?, Text.isBlank c = false := by
  intro c first
  obtain ⟨d, others, rfl⟩ := List.exists_cons_of_ne_nil nonempty
  have isFirst : d = c := by simpa using first
  subst isFirst
  apply Text.not_isBlank_of_isAlphanum
  simp [Char.isAlphanum, areDigits d (by simp)]

theorem skipBlanks_padded (width value : Nat) (rest : List Char) :
    skipBlanks ((padded width value).toList ++ rest) = (padded width value).toList ++ rest :=
  Text.trimLeft_of_head _
    (ends_visible (isDigit_padded width value) (padded_ne_nil width value) rest)

theorem readDigits?_padded (width value : Nat) (positive : 0 < width) (fits : value < Nat.pow 10 width)
    (rest : List Char) :
    readDigits? width ((padded width value).toList ++ rest) = some (value, rest) := by
  have full := length_padded width value positive fits
  rw [readDigits?_append width _ rest (padded_ne_nil width value) (isDigit_padded width value)
    (Nat.le_of_eq full) (.inl full), ofDigitChars_padded]

theorem readField?_padded (value : Nat) (fits : value < 100) (rest : List Char) :
    readField? ((padded 2 value).toList ++ rest) = some (value, rest) := by
  rw [readField?, skipBlanks_padded]
  exact readDigits?_padded 2 value (by decide) (by omega) rest

theorem readMarked?_padded (mark : Char) (value : Nat) (fits : value < 100) (rest : List Char) :
    readMarked? mark (mark :: ((padded 2 value).toList ++ rest)) = some (value, rest) := by
  rw [readMarked?, if_pos rfl, readField?_padded value fits rest]

/-- A year behind a sign has as many digits as it likes, so only the dash ends it. -/
theorem readDigits?_signed (value : Nat) (rest : List Char) :
    readDigits? ((padded 4 value).toList ++ '-' :: rest).length
      ((padded 4 value).toList ++ '-' :: rest) = some (value, '-' :: rest) := by
  have ends : ∀ c ∈ ('-' :: rest).head?, c.isDigit = false := by
    intro c dash
    cases dash
    rfl
  rw [readDigits?_append _ _ _ (padded_ne_nil 4 value) (isDigit_padded 4 value) (by simp)
    (.inr ends), ofDigitChars_padded]

theorem readYear?_yearText (year : Int) (rest : List Char) :
    readYear? ((yearText year).toList ++ '-' :: rest) = some (year, '-' :: rest) := by
  by_cases negative : year < 0
  · have shape : (yearText year).toList = '-' :: (padded 4 year.natAbs).toList := by
      rw [yearText, if_pos negative, String.toList_append]
      rfl
    have dash : skipBlanks ('-' :: ((padded 4 year.natAbs).toList ++ '-' :: rest)) =
        '-' :: ((padded 4 year.natAbs).toList ++ '-' :: rest) :=
      Text.trimLeft_of_head _ (by rintro c ⟨⟩; decide)
    have back : -(year.natAbs : Int) = year := by omega
    rw [shape, List.cons_append, readYear?, dash]
    simp only [readDigits?_signed, Option.map_some, back]
  by_cases large : 9999 < year
  · have shape : (yearText year).toList = '+' :: (padded 4 year.natAbs).toList := by
      rw [yearText, if_neg negative, if_pos large, String.toList_append]
      rfl
    have plus : skipBlanks ('+' :: ((padded 4 year.natAbs).toList ++ '-' :: rest)) =
        '+' :: ((padded 4 year.natAbs).toList ++ '-' :: rest) :=
      Text.trimLeft_of_head _ (by rintro c ⟨⟩; decide)
    have back : (year.natAbs : Int) = year := by omega
    rw [shape, List.cons_append, readYear?, plus]
    simp only [readDigits?_signed, Option.map_some, back]
  · have fits : year.natAbs < 10000 := by omega
    rw [yearText, if_neg negative, if_neg large, readYear?, skipBlanks_padded]
    obtain ⟨first, digits, shape⟩ := List.exists_cons_of_ne_nil (padded_ne_nil 4 year.natAbs)
    have digit : first.isDigit = true := isDigit_padded 4 year.natAbs first (by simp [shape])
    have read := readDigits?_padded 4 year.natAbs (by decide) fits ('-' :: rest)
    rw [shape, List.cons_append] at read ⊢
    split
    · rename_i sign
      cases sign
      contradiction
    · rename_i sign
      cases sign
      contradiction
    · have back : (year.natAbs : Int) = year := by omega
      simp only [read, Option.map_some, back]

theorem daysIn_le (year : Int) (month : Nat) : Date.daysIn year month ≤ 31 := by
  unfold Date.daysIn
  split
  · split <;> decide
  · split <;> decide

theorem readDatePart?_dateText (date : Date) (valid : date.IsValid) (rest : List Char) :
    readDatePart? ((dateText date).toList ++ rest) = some (date, rest) := by
  obtain ⟨-, -, -, monthAtMost, -, dayAtMost⟩ := valid
  have monthFits : date.month < 100 := by omega
  have dayFits : date.day < 100 := by
    have := daysIn_le date.year date.month
    omega
  have shape : (dateText date).toList ++ rest = (yearText date.year).toList ++
      '-' :: ((padded 2 date.month).toList ++ '-' :: ((padded 2 date.day).toList ++ rest)) := by
    simp [dateText, String.toList_append, List.append_assoc]
  rw [shape, readDatePart?, readYear?_yearText]
  dsimp only
  rw [readMarked?_padded '-' date.month monthFits]
  dsimp only
  rw [readMarked?_padded '-' date.day dayFits]

theorem readDate?_dateText (date : Date) (valid : date.IsValid) :
    readDate? (dateText date).toList = some date := by
  have read := readDatePart?_dateText date valid []
  rw [List.append_nil] at read
  rw [readDate?, read]
  exact if_pos valid

theorem readFraction?_padded (width scale value : Nat) (positive : 0 < width) (atMost : width ≤ 9)
    (isScale : Nat.pow 10 (9 - width) = scale) (fits : value < Nat.pow 10 width) :
    readFraction? ('.' :: (padded width value).toList) = some (value * scale) := by
  have full := length_padded width value positive fits
  have allDigits : (padded width value).toList.all Char.isDigit = true :=
    List.all_eq_true.mpr (isDigit_padded width value)
  have nonempty : (padded width value).toList.isEmpty = false :=
    List.isEmpty_eq_false_iff.mpr (padded_ne_nil width value)
  have whole : (padded width value).toList.take 9 = (padded width value).toList :=
    List.take_of_length_le (by omega)
  rw [readFraction?, nonempty, allDigits]
  simp only [Bool.not_false, Bool.and_self, if_true]
  rw [whole, full, ofDigitChars_padded, isScale]

theorem readFraction?_fractionText (nanosecond : Nat) :
    readFraction? (fractionText nanosecond).toList = some (nanosecond % 1000000000) := by
  have below : nanosecond % 1000000000 < 1000000000 := Nat.mod_lt _ (by decide)
  unfold fractionText
  generalize nanosecond % 1000000000 = fraction at below ⊢
  dsimp only
  by_cases whole : fraction = 0
  · rw [if_pos whole, whole]
    rfl
  rw [if_neg whole]
  by_cases millis : fraction % 1000000 = 0
  · have fits : fraction / 1000000 < 1000 := by omega
    have read := readFraction?_padded 3 1000000 _ (by decide) (by decide) rfl fits
    rw [if_pos millis, String.toList_append]
    rwa [Nat.div_mul_cancel (Nat.dvd_of_mod_eq_zero millis)] at read
  rw [if_neg millis]
  by_cases micros : fraction % 1000 = 0
  · have fits : fraction / 1000 < 1000000 := by omega
    have read := readFraction?_padded 6 1000 _ (by decide) (by decide) rfl fits
    rw [if_pos micros, String.toList_append]
    rwa [Nat.div_mul_cancel (Nat.dvd_of_mod_eq_zero micros)] at read
  · have read := readFraction?_padded 9 1 _ (by decide) (by decide) rfl below
    rw [if_neg micros, String.toList_append]
    rwa [Nat.mul_one] at read

theorem withSecond?_written (time : DateTime) (valid : time.IsValid) :
    withSecond? time.date time.hour time.minute
      (if time.nanosecond < 1000000000 then time.second else time.second + 1)
      (time.nanosecond % 1000000000) = some time.carried := by
  obtain ⟨date, hour, minute, second, nanosecond⟩ := time
  obtain ⟨dateValid, hourFits, minuteFits, secondFits, nanosecondFits⟩ := valid
  dsimp only at *
  by_cases within : nanosecond < 1000000000
  · have inRange : date.IsValid ∧ hour ≤ 23 ∧ minute ≤ 59 ∧ second ≤ 60 :=
      ⟨dateValid, hourFits, minuteFits, by omega⟩
    have notLeap : second ≠ 60 := by omega
    rw [if_pos within, withSecond?, if_pos inRange, if_neg notLeap, Nat.mod_eq_of_lt within,
      DateTime.carried, if_pos (.inl within)]
  · have inRange : date.IsValid ∧ hour ≤ 23 ∧ minute ≤ 59 ∧ second + 1 ≤ 60 :=
      ⟨dateValid, hourFits, minuteFits, by omega⟩
    rw [if_neg within, withSecond?, if_pos inRange, DateTime.carried]
    by_cases last : second = 59
    · have back : 1000000000 + nanosecond % 1000000000 = nanosecond := by omega
      rw [if_pos (by omega), if_pos (.inr last), back, last]
    · have fraction : nanosecond % 1000000000 = nanosecond - 1000000000 := by omega
      have leaps : ¬(nanosecond < 1000000000 ∨ second = 59) := by omega
      rw [if_neg (by omega), if_neg leaps, fraction]

theorem readDateTime?_dateTimeText (time : DateTime) (valid : time.IsValid) :
    readDateTime? (dateTimeText time).toList = some time.carried := by
  have secondFits : (if time.nanosecond < 1000000000 then time.second else time.second + 1) < 100 := by
    have := valid.second
    split <;> omega
  have shape : (dateTimeText time).toList = (dateText time.date).toList ++
      ' ' :: ((padded 2 time.hour).toList ++ ':' :: ((padded 2 time.minute).toList ++
        ':' :: ((secondText time).toList ++ (fractionText time.nanosecond).toList))) := by
    simp [dateTimeText, String.toList_append, List.append_assoc]
  have hour : ∀ rest, readField? (' ' :: ((padded 2 time.hour).toList ++ rest)) =
      some (time.hour, rest) := by
    intro rest
    have blank : Text.isBlank ' ' = true := by decide
    have hourFits : time.hour < 100 := Nat.lt_of_le_of_lt valid.hour (by decide)
    rw [readField?, skipBlanks, List.dropWhile_cons_of_pos blank]
    exact readField?_padded time.hour hourFits rest
  rw [shape, readDateTime?, readDatePart?_dateText _ valid.date]
  dsimp only
  rw [hour]
  dsimp only
  rw [readMarked?_padded ':' time.minute (Nat.lt_of_le_of_lt valid.minute (by decide))]
  dsimp only
  rw [secondText, readMarked?_padded ':' _ secondFits]
  dsimp only
  rw [readFraction?_fractionText]
  exact withSecond?_written time valid

end Calendar

/-- A date or a moment of the calendar, of a type whose cells are read as such. -/
inductive Value.IsMomentOf (type : DataType) : Value → Prop
  | date (date : Date) : date.IsValid → type.unwrapped = .date ∨ type.unwrapped = .date32 →
      IsMomentOf type (.date date)
  | dateTime (time : DateTime) : time.IsValid →
      (∃ timezone, type.unwrapped = .dateTime timezone) ∨
        (∃ precision timezone, type.unwrapped = .dateTime64 precision timezone) →
      IsMomentOf type (.dateTime time)

theorem Value.ofCell_dateText {type : DataType} {date : Date} (valid : date.IsValid)
    (isDate : type.unwrapped = .date ∨ type.unwrapped = .date32) :
    ofCell type (.string (Calendar.dateText date)) = .ok (.date date) := by
  have read := Calendar.readDate?_dateText date valid
  rw [ofCell_unwrapped]
  rcases isDate with ofType | ofType
  · rw [ofType, ofCell.eq_def]
    simp only [cellText, read]
    rfl
  · rw [ofType, ofCell.eq_def]
    simp only [cellText, read]
    rfl

theorem Value.ofCell_dateTimeText {type : DataType} {time : DateTime} (valid : time.IsValid)
    (isDateTime : (∃ timezone, type.unwrapped = .dateTime timezone) ∨
      ∃ precision timezone, type.unwrapped = .dateTime64 precision timezone) :
    ofCell type (.string (Calendar.dateTimeText time)) = .ok (.dateTime time.carried) := by
  have read := Calendar.readDateTime?_dateTimeText time valid
  rw [ofCell_unwrapped]
  rcases isDateTime with ⟨timezone, ofType⟩ | ⟨precision, timezone, ofType⟩
  · rw [ofType, ofCell.eq_def]
    simp only [cellText, read]
    rfl
  · rw [ofType, ofCell.eq_def]
    simp only [cellText, read]
    rfl

def Value.carried : Value → Value
  | .dateTime time => .dateTime time.carried
  | value => value

/-- The text between the quotes of the literal of a date or a moment is read as the value that it
names. That is the same value, with the same nanoseconds, exactly when no leap second follows
another second than 59. -/
theorem Value.ofCell_literal_iff (type : DataType) (value : Value)
    (moment : value.IsMomentOf type) :
    ∃ text, value.literal = "'" ++ text ++ "'" ∧ ofCell type (.string text) = .ok value.carried ∧
      (ofCell type (.string text) = .ok value ↔
        ∀ time, value = .dateTime time → time.nanosecond < 1000000000 ∨ time.second = 59) := by
  cases moment with
  | date date valid isDate =>
      have read := ofCell_dateText valid isDate
      refine ⟨Calendar.dateText date, by rw [literal], read, iff_of_true read ?_⟩
      intro time isDateTime
      cases isDateTime
  | dateTime time valid isDateTime =>
      have read := ofCell_dateTimeText valid isDateTime
      refine ⟨Calendar.dateTimeText time, by rw [literal], read, ?_⟩
      rw [read, Except.ok.injEq, dateTime.injEq, DateTime.carried_eq_self_iff]
      constructor
      · intro kept other same
        cases same
        exact kept
      · intro kept
        exact kept time rfl

/-- The last nanosecond of a leap second in the first year, through a nullable column. -/
theorem Value.ofCell_literal_leapSecond :
    ∃ text, Value.literal (.dateTime ⟨⟨-262143, 2, 28⟩, 23, 59, 59, 1999999999⟩) =
        "'" ++ text ++ "'" ∧
      ofCell (.nullable (.dateTime64 9 (some "UTC"))) (.string text) =
        .ok (.dateTime ⟨⟨-262143, 2, 28⟩, 23, 59, 59, 1999999999⟩) := by
  have valid : DateTime.IsValid ⟨⟨-262143, 2, 28⟩, 23, 59, 59, 1999999999⟩ :=
    ⟨by decide, by decide, by decide, by decide, by decide⟩
  have moment : IsMomentOf (.nullable (.dateTime64 9 (some "UTC")))
      (.dateTime ⟨⟨-262143, 2, 28⟩, 23, 59, 59, 1999999999⟩) :=
    .dateTime _ valid (.inr ⟨9, some "UTC", rfl⟩)
  obtain ⟨text, isLiteral, -, keeps⟩ := ofCell_literal_iff _ _ moment
  refine ⟨text, isLiteral, keeps.mpr ?_⟩
  intro time same
  cases same
  exact .inr rfl

/-- A leap second behind the second 4 is written as the second 5 and read as such. -/
theorem Value.ofCell_literal_otherMoment :
    DateTime.IsValid ⟨⟨2015, 2, 18⟩, 23, 56, 4, 1333333333⟩ ∧
      Value.literal (.dateTime ⟨⟨2015, 2, 18⟩, 23, 56, 4, 1333333333⟩) =
        "'" ++ "2015-02-18 23:56:05.333333333" ++ "'" ∧
      ofCell (.dateTime64 9 none) (.string "2015-02-18 23:56:05.333333333") =
        .ok (.dateTime ⟨⟨2015, 2, 18⟩, 23, 56, 5, 333333333⟩) ∧
      ofCell (.dateTime64 9 none) (.string "2015-02-18 23:56:05.333333333") ≠
        .ok (.dateTime ⟨⟨2015, 2, 18⟩, 23, 56, 4, 1333333333⟩) := by
  have valid : DateTime.IsValid ⟨⟨2015, 2, 18⟩, 23, 56, 4, 1333333333⟩ :=
    ⟨by decide, by decide, by decide, by decide, by decide⟩
  have text : Calendar.dateTimeText ⟨⟨2015, 2, 18⟩, 23, 56, 4, 1333333333⟩ =
      "2015-02-18 23:56:05.333333333" := by decide +kernel
  have isDateTime : ∃ precision timezone,
      (DataType.dateTime64 9 none).unwrapped = .dateTime64 precision timezone := ⟨9, none, rfl⟩
  have read := ofCell_dateTimeText valid (.inr isDateTime)
  rw [text] at read
  refine ⟨valid, ?_, read, ?_⟩
  · rw [literal, text]
  · rw [read]
    simp [DateTime.carried]

end ClickHouse
