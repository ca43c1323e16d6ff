import ClickHouse.Proofs.Value.Cell
import Mathlib.Data.List.Nodup

/-!
Tuples with named elements, read from objects. The members of an object are taken in the order in
which they are listed and not by their names: every order but the declared one puts a cell in
another element's place (`Value.ofCell_listed_iff`).
-/

namespace ClickHouse.Value

def elementsOf (fields : List (String × DataType)) : List (Option String × DataType) :=
  fields.map fun field => (some field.1, field.2)

def recordOf (fields : List (String × DataType)) : DataType :=
  .tuple (elementsOf fields)

def listed (order : List String) (content : String → Json) : Json :=
  .object (order.map fun name => (name, content name))

/-- Each element read from the member of its own name. -/
def ofMembers (fields : List (String × DataType)) (content : String → Json) :
    Except DatabaseError Value :=
  (fields.mapM fun field => ofCell field.2 (content field.1)).map .tuple

theorem ofCells_cons_ok {name : Option String} {type : DataType} {cell : Json} {value : Value}
    (read : ofCell type cell = .ok value) (elements : List (Option String × DataType))
    (cells : List Json) :
    ofCells ((name, type) :: elements) (cell :: cells) =
      (ofCells elements cells).map fun values => value :: values := by
  rw [ofCells.eq_1, read]
  cases ofCells elements cells <;> rfl

theorem ofCells_cons_error {name : Option String} {type : DataType} {cell : Json}
    {error : DatabaseError} (failed : ofCell type cell = .error error)
    (elements : List (Option String × DataType)) (cells : List Json) :
    ofCells ((name, type) :: elements) (cell :: cells) = .error error := by
  rw [ofCells.eq_1, failed]

/-- Each component is the cell in its place, read by the element in that place. -/
theorem ofCells_eq_ok_iff (elements : List (Option String × DataType)) (cells : List Json)
    (sameCount : cells.length = elements.length) (values : List Value) :
    ofCells elements cells = .ok values ↔
      List.Forall₂ (fun place value => ofCell place.1.2 place.2 = .ok value)
        (elements.zip cells) values := by
  induction elements generalizing cells values with
  | nil =>
      rw [List.eq_nil_of_length_eq_zero sameCount, ofCells.eq_def]
      cases values <;> simp
  | cons element elements ih =>
      obtain ⟨name, type⟩ := element
      cases cells with
      | nil => contradiction
      | cons cell cells =>
          have rest := ih cells (Nat.succ.inj sameCount)
          rw [List.zip_cons_cons]
          cases read : ofCell type cell with
          | error error =>
              rw [ofCells_cons_error read]
              cases values <;> simp [read]
          | ok value =>
              rw [ofCells_cons_ok read, map_eq_ok_iff, List.forall₂_cons_left_iff]
              constructor
              · rintro ⟨others, othersRead, rfl⟩
                exact ⟨value, others, read, (rest others).mp othersRead, rfl⟩
              · rintro ⟨first, others, firstRead, othersRead, rfl⟩
                have same : value = first := Except.ok.inj (read.symm.trans firstRead)
                exact ⟨others, (rest others).mpr othersRead, by rw [same]⟩

theorem ofCells_own (fields : List (String × DataType)) (content : String → Json) :
    ofCells (elementsOf fields) ((fields.map Prod.fst).map content) =
      fields.mapM fun field => ofCell field.2 (content field.1) := by
  induction fields with
  | nil =>
      rw [elementsOf, List.map_nil, List.map_nil, ofCells.eq_def]
      rfl
  | cons field fields ih =>
      rw [elementsOf, List.map_cons, List.map_cons, List.map_cons, List.mapM_cons, ← ih]
      cases read : ofCell field.2 (content field.1) with
      | error error =>
          rw [ofCells_cons_error read]
          rfl
      | ok value =>
          rw [ofCells_cons_ok read]
          rfl

theorem ofCell_tuple {elements : List (Option String × DataType)} {cell : Json}
    {cells : List Json} (found : components? cell = some cells)
    (sameCount : cells.length = elements.length) :
    ofCell (.tuple elements) cell = (ofCells elements cells).map .tuple := by
  have notNull : ¬ cell.isNull = true := by
    cases cell with
    | null => contradiction
    | _ => exact Bool.false_ne_true
  rw [ofCell.eq_def, if_neg notNull]
  dsimp only
  rw [found]
  dsimp only
  rw [if_pos sameCount]
  cases ofCells elements cells <;> rfl

theorem ofCell_listed {fields : List (String × DataType)} {order : List String}
    (content : String → Json) (sameCount : order.length = fields.length) :
    ofCell (recordOf fields) (listed order content) =
      (ofCells (elementsOf fields) (order.map content)).map .tuple := by
  apply ofCell_tuple
  · rw [listed, components?, List.map_map]
    rfl
  · rw [elementsOf, List.length_map, List.length_map, sameCount]

theorem ofCells_nulls (elements : List (Option String × DataType)) :
    ofCells elements (List.replicate elements.length .null) =
      .ok (List.replicate elements.length .null) := by
  induction elements with
  | nil => rw [List.length_nil, List.replicate_zero, ofCells.eq_def]; rfl
  | cons element elements ih =>
      rw [List.length_cons, List.replicate_succ, ofCells_cons_ok (ofCell_null element.2 .null rfl),
        ih]
      rfl

theorem exists_value (type : DataType) :
    ∃ cell value, ofCell type cell = .ok value ∧ value ≠ .null := by
  fun_induction DataType.unwrapped type with
  | case1 inner ih =>
      obtain ⟨cell, value, read, notNull⟩ := ih
      exact ⟨cell, value, (ofCell_nullable inner cell).trans read, notNull⟩
  | case2 inner ih =>
      obtain ⟨cell, value, read, notNull⟩ := ih
      exact ⟨cell, value, (ofCell_lowCardinality inner cell).trans read, notNull⟩
  | case3 type notNullable notLow =>
      cases type with
      | nullable inner => exact absurd rfl (notNullable inner)
      | lowCardinality inner => exact absurd rfl (notLow inner)
      | int type =>
          rcases type with ⟨signed, width⟩
          cases signed <;> cases width <;> exact ⟨.string "0", _, rfl, by simp⟩
      | float32 | float64 => exact ⟨.number (.integer 0), _, rfl, by simp⟩
      | bool => exact ⟨.bool true, _, rfl, by simp⟩
      | date | date32 => exact ⟨.string "2000-01-01", _, rfl, by simp⟩
      | dateTime | dateTime64 => exact ⟨.string "2000-01-01 00:00:00", _, rfl, by simp⟩
      | uuid => exact ⟨.string "00000000000000000000000000000000", _, rfl, by simp⟩
      | array item => exact ⟨.array [], _, rfl, by simp⟩
      | map key value => exact ⟨.object [], _, rfl, by simp⟩
      | tuple elements =>
          refine ⟨.array (List.replicate elements.length .null),
            .tuple (List.replicate elements.length .null), ?_, by simp⟩
          rw [ofCell_tuple rfl List.length_replicate, ofCells_nulls]
          rfl
      | _ => exact ⟨.string "", _, rfl, by simp⟩

theorem ofCells_differ (elements : List (Option String × DataType)) {left right : List String}
    (leftCount : left.length = elements.length) (rightCount : right.length = elements.length)
    (leftDistinct : left.Nodup) (rightDistinct : right.Nodup) (differ : left ≠ right) :
    ∃ content : String → Json,
      ofCells elements (left.map content) ≠ ofCells elements (right.map content) := by
  induction elements generalizing left right with
  | nil =>
      rw [List.eq_nil_of_length_eq_zero leftCount, List.eq_nil_of_length_eq_zero rightCount]
        at differ
      exact absurd rfl differ
  | cons element elements ih =>
      obtain ⟨name, type⟩ := element
      cases left with
      | nil => contradiction
      | cons first lefts =>
      cases right with
      | nil => contradiction
      | cons other rights =>
          obtain ⟨firstNew, leftsDistinct⟩ := List.nodup_cons.mp leftDistinct
          obtain ⟨otherNew, rightsDistinct⟩ := List.nodup_cons.mp rightDistinct
          have nullRead : ofCell type .null = .ok .null := ofCell_null type .null rfl
          by_cases same : first = other
          · subst other
            have restDiffer : lefts ≠ rights := by
              rintro rfl
              exact differ rfl
            obtain ⟨content, contentDiffers⟩ := ih (Nat.succ.inj leftCount)
              (Nat.succ.inj rightCount) leftsDistinct rightsDistinct restDiffer
            -- The shared name gets a null, which every type reads, so the rest decides.
            refine ⟨Function.update content first .null, ?_⟩
            rw [List.map_cons, List.map_cons, Function.update_self, leftsDistinct.map_update,
              if_neg firstNew, rightsDistinct.map_update, if_neg otherNew,
              ofCells_cons_ok nullRead, ofCells_cons_ok nullRead]
            intro equal
            exact contentDiffers (map_injective (fun _ _ => List.tail_eq_of_cons_eq) equal)
          · obtain ⟨cell, value, read, notNull⟩ := exists_value type
            refine ⟨Function.update (fun _ => .null) first cell, ?_⟩
            rw [List.map_cons, List.map_cons, Function.update_self,
              Function.update_of_ne (Ne.symm same), leftsDistinct.map_update, if_neg firstNew,
              List.map_const', Nat.succ.inj leftCount, ofCells_cons_ok read,
              ofCells_cons_ok nullRead, ofCells_nulls]
            intro equal
            obtain ⟨values, -, shape⟩ := map_eq_ok_iff.mp equal.symm
            exact notNull (List.head_eq_of_cons_eq shape).symm

theorem length_of_perm {fields : List (String × DataType)} {order : List String}
    (names : order.Perm (fields.map Prod.fst)) : order.length = fields.length := by
  rw [names.length_eq, List.length_map]

theorem listed_eq_iff {fields : List (String × DataType)} {left right : List String}
    (distinct : (fields.map Prod.fst).Nodup) (leftNames : left.Perm (fields.map Prod.fst))
    (rightNames : right.Perm (fields.map Prod.fst)) :
    (∀ content, ofCell (recordOf fields) (listed left content) =
      ofCell (recordOf fields) (listed right content)) ↔ left = right := by
  have leftCount := length_of_perm leftNames
  have rightCount := length_of_perm rightNames
  constructor
  · intro same
    by_contra differ
    obtain ⟨content, contentDiffers⟩ := ofCells_differ (elementsOf fields)
      (by rw [leftCount, elementsOf, List.length_map])
      (by rw [rightCount, elementsOf, List.length_map])
      (leftNames.nodup_iff.mpr distinct) (rightNames.nodup_iff.mpr distinct) differ
    have equal := same content
    rw [ofCell_listed content leftCount, ofCell_listed content rightCount] at equal
    exact contentDiffers (map_injective (fun _ _ => Value.tuple.inj) equal)
  · rintro rfl content
    rfl

theorem ofCell_declared (fields : List (String × DataType)) (content : String → Json) :
    ofCell (recordOf fields) (listed (fields.map Prod.fst) content) =
      ofMembers fields content := by
  rw [ofCell_listed content (List.length_map _), ofCells_own, ofMembers]

/-- A named tuple reads the members of an object in the order in which they are listed: each
element the cell in its place. Two orders give the same for every content only if they are one
order, and the declared order is the only one that gives each element its own cell. -/
theorem ofCell_listed_iff {fields : List (String × DataType)} {left right : List String}
    (distinct : (fields.map Prod.fst).Nodup) (leftNames : left.Perm (fields.map Prod.fst))
    (rightNames : right.Perm (fields.map Prod.fst)) :
    (∀ content values, ofCell (recordOf fields) (listed left content) = .ok (.tuple values) ↔
      List.Forall₂ (fun place value => ofCell place.1.2 (content place.2) = .ok value)
        (fields.zip left) values) ∧
      ((∀ content, ofCell (recordOf fields) (listed left content) =
        ofCell (recordOf fields) (listed right content)) ↔ left = right) ∧
      ((∀ content, ofCell (recordOf fields) (listed left content) = ofMembers fields content) ↔
        left = fields.map Prod.fst) := by
  have leftCount := length_of_perm leftNames
  refine ⟨?_, listed_eq_iff distinct leftNames rightNames, ?_⟩
  · intro content values
    have componentwise := ofCells_eq_ok_iff (elementsOf fields) (left.map content)
      (by simp [elementsOf, leftCount]) values
    rw [elementsOf, List.zip_map, List.forall₂_map_left_iff] at componentwise
    rw [ofCell_listed content leftCount]
    refine Iff.trans ?_ componentwise
    rw [← elementsOf, map_eq_ok_iff]
    simp
  · simp only [← ofCell_declared]
    exact listed_eq_iff distinct leftNames (.refl _)

/-- Listed in their declared order, an event's day and name are read as what they are; listed the
other way round, not every event is. -/
theorem ofCell_listed_event :
    (∀ content, ofCell (recordOf [("day", .date), ("name", .string)])
        (listed ["day", "name"] content) =
      ofMembers [("day", .date), ("name", .string)] content) ∧
      ¬ ∀ content, ofCell (recordOf [("day", .date), ("name", .string)])
        (listed ["day", "name"] content) =
          ofCell (recordOf [("day", .date), ("name", .string)])
            (listed ["name", "day"] content) := by
  have declared : ["day", "name"].Perm
      ([("day", DataType.date), ("name", .string)].map Prod.fst) := .refl _
  have reversed : ["name", "day"].Perm
      ([("day", DataType.date), ("name", .string)].map Prod.fst) := .swap _ _ _
  have laws := ofCell_listed_iff (by decide) declared reversed
  constructor
  · exact laws.2.2.mpr rfl
  · intro same
    exact absurd (laws.2.1.mp same) (by decide)

/-- Two names for the same two cells, listed in two orders. -/
theorem ofCell_listed_swapped :
    ofCell (.tuple [(some "a", .string), (some "b", .string)])
        (.object [("a", .string "2"), ("b", .string "1")]) =
      .ok (.tuple [.string "2", .string "1"]) ∧
    ofCell (.tuple [(some "a", .string), (some "b", .string)])
        (.object [("b", .string "1"), ("a", .string "2")]) =
      .ok (.tuple [.string "1", .string "2"]) ∧
    ¬ ofCell (.tuple [(some "a", .string), (some "b", .string)])
          (.object [("a", .string "2"), ("b", .string "1")]) =
        ofCell (.tuple [(some "a", .string), (some "b", .string)])
          (.object [("b", .string "1"), ("a", .string "2")]) := by
  have declared : ofCell (.tuple [(some "a", .string), (some "b", .string)])
      (.object [("a", .string "2"), ("b", .string "1")]) =
        .ok (.tuple [.string "2", .string "1"]) := rfl
  have swapped : ofCell (.tuple [(some "a", .string), (some "b", .string)])
      (.object [("b", .string "1"), ("a", .string "2")]) =
        .ok (.tuple [.string "1", .string "2"]) := rfl
  refine ⟨declared, swapped, ?_⟩
  rw [declared, swapped]
  simp

end ClickHouse.Value
