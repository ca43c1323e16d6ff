import ClickHouse.Proofs.Outcome
import ClickHouse.Value.Cell
import Mathlib.Data.List.Forall2

/-!
The types of the values that cells are read as. A value has the shape that its type declares,
component by component, except that the names of the members of a JSON object are kept as strings
whatever the type of the keys: a map has its type when its keys are text
(`Value.conforms_iff_keysFit`).
-/

namespace ClickHouse

def DataType.unwrapped : DataType → DataType
  | nullable inner => inner.unwrapped
  | lowCardinality inner => inner.unwrapped
  | type => type

def DataType.isText : DataType → Bool
  | string | fixedString _ | ipv4 | ipv6 | enumeration _ _ | nested _ | aggregateFunction _ _
  | simpleAggregateFunction _ _ | unrecognized _ => true
  | _ => false

def DataType.isLeaf : DataType → Bool
  | nullable _ | lowCardinality _ | array _ | tuple _ | map _ _ => false
  | _ => true

namespace Value

theorem ofCell_null (type : DataType) (cell : Json) (isNull : cell.isNull = true) :
    ofCell type cell = .ok .null := by
  rw [ofCell.eq_def, if_pos isNull]

theorem ofCell_nullable (inner : DataType) (cell : Json) :
    ofCell (.nullable inner) cell = ofCell inner cell := by
  by_cases isNull : cell.isNull = true
  · rw [ofCell_null _ cell isNull, ofCell_null _ cell isNull]
  · rw [ofCell.eq_def, if_neg isNull]

theorem ofCell_lowCardinality (inner : DataType) (cell : Json) :
    ofCell (.lowCardinality inner) cell = ofCell inner cell := by
  by_cases isNull : cell.isNull = true
  · rw [ofCell_null _ cell isNull, ofCell_null _ cell isNull]
  · rw [ofCell.eq_def, if_neg isNull]

theorem ofCell_unwrapped (type : DataType) (cell : Json) :
    ofCell type cell = ofCell type.unwrapped cell := by
  fun_induction DataType.unwrapped type with
  | case1 inner ih => exact (ofCell_nullable inner cell).trans ih
  | case2 inner ih => exact (ofCell_lowCardinality inner cell).trans ih
  | case3 type => rfl

/-- What it is to be a value of a type. No value is a value of every type. -/
inductive Conforms : DataType → Value → Prop
  | null {type : DataType} : Conforms type .null
  | nullable {inner : DataType} {value : Value} :
      Conforms inner value → Conforms (.nullable inner) value
  | lowCardinality {inner : DataType} {value : Value} :
      Conforms inner value → Conforms (.lowCardinality inner) value
  | int {type : IntType} {number : Int64} :
      type.width.bits ≤ 64 → type.signed = true → Conforms (.int type) (.int number)
  | uint {type : IntType} {number : UInt64} :
      type.width.bits ≤ 64 → type.signed = false → Conforms (.int type) (.uint number)
  | bigInt {type : IntType} {number : Int} :
      64 < type.width.bits → Conforms (.int type) (.bigInt number)
  | float32 {number : Float} : Conforms .float32 (.float number)
  | float64 {number : Float} : Conforms .float64 (.float number)
  | decimal {precision scale : UInt8} {text : String} :
      Conforms (.decimal precision scale) (.decimal text)
  | bool {truth : Bool} : Conforms .bool (.bool truth)
  | date {date : Date} : Conforms .date (.date date)
  | date32 {date : Date} : Conforms .date32 (.date date)
  | dateTime {timezone : Option String} {time : DateTime} :
      Conforms (.dateTime timezone) (.dateTime time)
  | dateTime64 {precision : UInt8} {timezone : Option String} {time : DateTime} :
      Conforms (.dateTime64 precision timezone) (.dateTime time)
  | uuid {identifier : Uuid} : Conforms .uuid (.uuid identifier)
  | text {type : DataType} {text : String} : type.isText = true → Conforms type (.string text)
  | array {item : DataType} {items : List Value} :
      (∀ value ∈ items, Conforms item value) → Conforms (.array item) (.array items)
  | tuple {elements : List (Option String × DataType)} {items : List Value} :
      List.Forall₂ (fun element value => Conforms element.2 value) elements items →
        Conforms (.tuple elements) (.tuple items)
  | map {key content : DataType} {entries : List (Value × Value)} :
      (∀ entry ∈ entries, Conforms key entry.1) → (∀ entry ∈ entries, Conforms content entry.2) →
        Conforms (.map key content) (.map entries)

mutual

/-- Whether every map of a value that has an entry is of a type with text for its keys. -/
def KeysFit : DataType → Value → Prop
  | .nullable inner, value => KeysFit inner value
  | .lowCardinality inner, value => KeysFit inner value
  | .array item, .array items => ∀ value ∈ items, KeysFit item value
  | .tuple elements, .tuple items => ComponentsFit elements items
  | .map key content, .map entries =>
    (entries ≠ [] → key.unwrapped.isText = true) ∧ ∀ entry ∈ entries, KeysFit content entry.2
  | _, _ => True

def ComponentsFit : List (Option String × DataType) → List Value → Prop
  | (_, type) :: elements, value :: items => KeysFit type value ∧ ComponentsFit elements items
  | _, _ => True

end

theorem conforms_nullable_iff (inner : DataType) (value : Value) :
    Conforms (.nullable inner) value ↔ Conforms inner value := by
  constructor
  · intro conforms
    cases conforms with
    | null => exact .null
    | nullable holds => exact holds
    | text isText => exact absurd isText Bool.false_ne_true
  · exact .nullable

theorem conforms_lowCardinality_iff (inner : DataType) (value : Value) :
    Conforms (.lowCardinality inner) value ↔ Conforms inner value := by
  constructor
  · intro conforms
    cases conforms with
    | null => exact .null
    | lowCardinality holds => exact holds
    | text isText => exact absurd isText Bool.false_ne_true
  · exact .lowCardinality

theorem conforms_string_iff (type : DataType) (text : String) :
    Conforms type (.string text) ↔ type.unwrapped.isText = true := by
  fun_induction DataType.unwrapped type with
  | case1 inner ih => exact (conforms_nullable_iff inner _).trans ih
  | case2 inner ih => exact (conforms_lowCardinality_iff inner _).trans ih
  | case3 type notNullable notLow =>
      constructor
      · intro conforms
        cases conforms with
        | nullable holds => exact absurd rfl (notNullable _)
        | lowCardinality holds => exact absurd rfl (notLow _)
        | text isText => exact isText
      · exact .text

theorem cellOr_ifOk {type : DataType} {cell : Json} {holds : Value → Prop} {found : Option Value}
    (ofFound : ∀ value ∈ found, holds value) : IfOk holds (cellOr type cell found) := by
  cases found with
  | none => trivial
  | some value => exact ofFound value rfl

theorem conforms_readInteger? (type : IntType) (text : List Char) :
    ∀ value ∈ readInteger? type text, Conforms (.int type) value := by
  intro value found
  unfold readInteger? at found
  split at found
  · rename_i narrow
    split at found
    · rename_i signed
      obtain ⟨number, -, rfl⟩ := Option.map_eq_some_iff.mp found
      exact .int narrow signed
    · rename_i unsigned
      obtain ⟨number, -, rfl⟩ := Option.map_eq_some_iff.mp found
      exact .uint narrow (by simpa using unsigned)
  · rename_i wide
    obtain ⟨number, -, rfl⟩ := Option.map_eq_some_iff.mp found
    exact .bigInt (by omega)

theorem readFloat?_isFloat (cell : Json) :
    ∀ value ∈ readFloat? cell, ∃ number, value = .float number := by
  intro value found
  unfold readFloat? at found
  split at found
  · cases found
    exact ⟨_, rfl⟩
  · split at found
    · cases found
      exact ⟨_, rfl⟩
    · obtain ⟨number, -, rfl⟩ := Option.map_eq_some_iff.mp found
      exact ⟨_, rfl⟩
  · contradiction

theorem readBool?_isBool (cell : Json) : ∀ value ∈ readBool? cell, ∃ truth, value = .bool truth := by
  intro value found
  unfold readBool? at found
  split at found
  · cases found
    exact ⟨_, rfl⟩
  · cases found
    exact ⟨_, rfl⟩
  · cases found
    exact ⟨_, rfl⟩
  · contradiction

theorem conforms_leaf (type : DataType) (cell : Json) (leaf : type.isLeaf = true) :
    IfOk (Conforms type) (ofCell type cell) := by
  by_cases isNull : cell.isNull = true
  · rw [ofCell_null type cell isNull]
    exact .null
  rw [ofCell.eq_def, if_neg isNull]
  cases type with
  | int type => exact cellOr_ifOk (conforms_readInteger? type _)
  | float32 =>
      apply cellOr_ifOk
      intro value read
      obtain ⟨number, rfl⟩ := readFloat?_isFloat cell value read
      exact .float32
  | float64 =>
      apply cellOr_ifOk
      intro value read
      obtain ⟨number, rfl⟩ := readFloat?_isFloat cell value read
      exact .float64
  | bool =>
      apply cellOr_ifOk
      intro value read
      obtain ⟨truth, rfl⟩ := readBool?_isBool cell value read
      exact .bool
  | date =>
      apply cellOr_ifOk
      intro value read
      obtain ⟨date, -, rfl⟩ := Option.map_eq_some_iff.mp read
      exact .date
  | date32 =>
      apply cellOr_ifOk
      intro value read
      obtain ⟨date, -, rfl⟩ := Option.map_eq_some_iff.mp read
      exact .date32
  | dateTime timezone =>
      apply cellOr_ifOk
      intro value read
      obtain ⟨time, -, rfl⟩ := Option.map_eq_some_iff.mp read
      exact .dateTime
  | dateTime64 precision timezone =>
      apply cellOr_ifOk
      intro value read
      obtain ⟨time, -, rfl⟩ := Option.map_eq_some_iff.mp read
      exact .dateTime64
  | uuid =>
      dsimp only
      split
      · exact .uuid
      · trivial
  | decimal precision scale => exact .decimal
  | nullable | lowCardinality | array | tuple | map => contradiction
  | _ => exact .text rfl

/-- A value that has its type exactly when the keys in it are of text types. -/
def Accounted (type : DataType) (value : Value) : Prop :=
  Conforms type value ↔ KeysFit type value

theorem accounted_null (type : DataType) : Accounted type .null := by
  have fits : KeysFit type .null := by
    fun_induction DataType.unwrapped type with
    | case1 inner ih => rwa [KeysFit]
    | case2 inner ih => rwa [KeysFit]
    | case3 type notNullable notLow => cases type <;> simp_all [KeysFit]
  exact iff_of_true .null fits

theorem accounted_array {item : DataType} {items : List Value}
    (each : ∀ value ∈ items, Accounted item value) : Accounted (.array item) (.array items) := by
  rw [Accounted, KeysFit]
  constructor
  · intro conforms
    cases conforms with
    | array holds =>
        intro value member
        exact (each value member).mp (holds value member)
  · intro fits
    apply Conforms.array
    intro value member
    exact (each value member).mpr (fits value member)

theorem accounted_map {key content : DataType} {entries : List (Value × Value)}
    (each : ∀ entry ∈ entries, (∃ name, entry.1 = .string name) ∧ Accounted content entry.2) :
    Accounted (.map key content) (.map entries) := by
  rw [Accounted, KeysFit]
  constructor
  · intro conforms
    cases conforms with
    | map keysConform contentsConform =>
        constructor
        · intro nonempty
          obtain ⟨entry, others, rfl⟩ := List.exists_cons_of_ne_nil nonempty
          obtain ⟨⟨name, isName⟩, -⟩ := each entry (by simp)
          have conforms := keysConform entry (by simp)
          rw [isName] at conforms
          exact (conforms_string_iff key name).mp conforms
        · intro entry member
          exact (each entry member).2.mp (contentsConform entry member)
  · rintro ⟨keysFit, contentsFit⟩
    apply Conforms.map
    · intro entry member
      obtain ⟨⟨name, isName⟩, -⟩ := each entry member
      rw [isName]
      exact (conforms_string_iff key name).mpr (keysFit (List.ne_nil_of_mem member))
    · intro entry member
      exact (each entry member).2.mpr (contentsFit entry member)

theorem accounted_tuple {elements : List (Option String × DataType)} {items : List Value}
    (each : List.Forall₂ (fun element value => Accounted element.2 value) elements items) :
    Accounted (.tuple elements) (.tuple items) := by
  have componentwise : List.Forall₂ (fun element value => Conforms element.2 value) elements items ↔
      ComponentsFit elements items := by
    induction each with
    | nil => exact iff_of_true .nil trivial
    | cons first rest ih =>
        rw [List.forall₂_cons, ComponentsFit]
        exact and_congr first ih
  rw [Accounted, KeysFit, ← componentwise]
  constructor
  · intro conforms
    cases conforms with
    | tuple holds => exact holds
  · exact .tuple

theorem accounted_leaf (type : DataType) (cell : Json) (leaf : type.isLeaf = true) :
    IfOk (Accounted type) (ofCell type cell) := by
  have fits : ∀ value, KeysFit type value := by
    intro value
    cases type <;> first | contradiction | simp [KeysFit]
  exact (conforms_leaf type cell leaf).mono fun value conforms => iff_of_true conforms (fits value)

mutual

theorem ofCell_accounted : (type : DataType) → (cell : Json) →
    IfOk (Accounted type) (ofCell type cell)
  | .nullable inner, cell => by
      rw [ofCell_nullable]
      apply (ofCell_accounted inner cell).mono
      intro value accounted
      rw [Accounted, conforms_nullable_iff, KeysFit]
      exact accounted
  | .lowCardinality inner, cell => by
      rw [ofCell_lowCardinality]
      apply (ofCell_accounted inner cell).mono
      intro value accounted
      rw [Accounted, conforms_lowCardinality_iff, KeysFit]
      exact accounted
  | .array item, cell => by
      by_cases isNull : cell.isNull = true
      · rw [ofCell_null _ cell isNull]
        exact accounted_null _
      rw [ofCell.eq_def, if_neg isNull]
      cases cell with
      | array items =>
          have each : IfOk (fun values => ∀ value ∈ values, Accounted item value)
              (items.mapM fun cell => ofCell item cell) :=
            .mapM fun cell _ => ofCell_accounted item cell
          dsimp only
          split
          · trivial
          · rename_i values read
            exact accounted_array (each.of_ok read)
      | _ => trivial
  | .tuple elements, cell => by
      by_cases isNull : cell.isNull = true
      · rw [ofCell_null _ cell isNull]
        exact accounted_null _
      rw [ofCell.eq_def, if_neg isNull]
      dsimp only
      split
      · trivial
      · rename_i cells _
        split
        · rename_i sameCount
          split
          · trivial
          · rename_i values read
            exact accounted_tuple ((ofCells_accounted elements cells sameCount).of_ok read)
        · trivial
  | .map key content, cell => by
      by_cases isNull : cell.isNull = true
      · rw [ofCell_null _ cell isNull]
        exact accounted_null _
      rw [ofCell.eq_def, if_neg isNull]
      cases cell with
      | object members =>
          dsimp only
          split
          · trivial
          · rename_i entries read
            apply accounted_map
            refine (IfOk.mapM fun member _ => ?_).of_ok read
            have ofContent := ofCell_accounted content member.2
            split
            · trivial
            · rename_i value read
              exact ⟨⟨member.1, rfl⟩, ofContent.of_ok read⟩
      | _ => trivial
  | .int _, cell | .float32, cell | .float64, cell | .decimal _ _, cell | .bool, cell
  | .date, cell | .date32, cell | .dateTime _, cell | .dateTime64 _ _, cell | .string, cell
  | .fixedString _, cell | .uuid, cell | .ipv4, cell | .ipv6, cell | .enumeration _ _, cell
  | .nested _, cell | .aggregateFunction _ _, cell | .simpleAggregateFunction _ _, cell
  | .unrecognized _, cell => accounted_leaf _ cell rfl

theorem ofCells_accounted : (elements : List (Option String × DataType)) → (cells : List Json) →
    cells.length = elements.length →
      IfOk (List.Forall₂ (fun element value => Accounted element.2 value) elements)
        (ofCells elements cells)
  | [], [], _ => by
      rw [ofCells.eq_def]
      exact .nil
  | (_, type) :: elements, cell :: cells, sameCount => by
      have first := ofCell_accounted type cell
      have others := ofCells_accounted elements cells (by simpa using sameCount)
      rw [ofCells.eq_1]
      split
      · trivial
      · rename_i value read
        split
        · trivial
        · rename_i values readOthers
          exact .cons (first.of_ok read) (others.of_ok readOthers)

end

/-- A value that was read from a cell has the type of the cell exactly when each of its maps that
has an entry has text for its keys. -/
theorem conforms_iff_keysFit (type : DataType) (cell : Json) (value : Value)
    (done : ofCell type cell = .ok value) : Conforms type value ↔ KeysFit type value :=
  (ofCell_accounted type cell).of_ok done

theorem conforms_tuple_with_text_keys :
    Conforms (.tuple [(none, .array (.int ⟨false, .bits64⟩)),
          (some "m", .map (.lowCardinality .string) (.nullable .date))])
      (.tuple [.array [.uint 18446744073709551615, .null],
        .map [(.string "k", .date ⟨2024, 2, 29⟩), (.string "l", .null)]]) :=
  (conforms_iff_keysFit _
    (.object [("1", .array [.string "18446744073709551615", .null]),
      ("m", .object [("k", .string "2024-02-29"), ("l", .null)])]) _ rfl).mpr
    (by simp [KeysFit, ComponentsFit, DataType.unwrapped, DataType.isText])

/-- The key of a map of small integers is a string. -/
theorem not_conforms_map_of_integers :
    ofCell (.map (.int ⟨false, .bits8⟩) .string) (.object [("1", .string "a")]) =
        .ok (.map [(.string "1", .string "a")]) ∧
      ¬ Conforms (.map (.int ⟨false, .bits8⟩) .string) (.map [(.string "1", .string "a")]) := by
  constructor
  · rfl
  · intro conforms
    cases conforms with
    | map keysConform _ =>
        have isText := (conforms_string_iff _ _).mp (keysConform _ (List.mem_singleton.mpr rfl))
        exact absurd isText (by decide)

end Value

end ClickHouse
