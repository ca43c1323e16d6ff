import ClickHouse.DataType.Checked
import ClickHouse.Query.Sql

/-!
The query that stands for an empty set casts a null to each element type, which it makes nullable if
it is not. The nesting rules hold of the casts exactly when each element type is nullable already or
may be made so (`Expr.emptySet_casts_iff`).
-/

namespace ClickHouse

namespace DataType

def mayBeNull : DataType → Bool
  | nullable _ | lowCardinality _ | array _ | map _ _ | nested _ => false
  | _ => true

def parts : DataType → List DataType
  | array item => [item]
  | nullable inner => [inner]
  | lowCardinality inner => [inner]
  | tuple elements => elements.map Prod.snd
  | map key value => [key, value]
  | nested fields => fields.map Prod.snd
  | aggregateFunction _ arguments => arguments
  | simpleAggregateFunction _ arguments => arguments
  | _ => []

/-- Whether a type keeps no rule of its own. -/
def isFree : DataType → Bool
  | nullable _ | lowCardinality _ | enumeration _ _ => false
  | _ => true

/-- The types that are put together with the constructors that keep the rules. -/
inductive Built : DataType → Prop
  | free {type : DataType} :
      type.isFree = true → (∀ part ∈ type.parts, Built part) → Built type
  | nullable {inner type : DataType} : Built inner → mkNullable inner = .ok type → Built type
  | lowCardinality {inner type : DataType} :
      Built inner → mkLowCardinality inner = .ok type → Built type
  | enumeration {width : EnumWidth} {members : List (String × Int16)} {type : DataType} :
      mkEnumeration width members = .ok type → Built type

inductive Occurs (type : DataType) : DataType → Prop
  | here : Occurs type type
  | inside {part whole : DataType} : part ∈ whole.parts → Occurs type part → Occurs type whole

theorem mkNullable_eq_ok_iff (inner type : DataType) :
    mkNullable inner = .ok type ↔ inner.mayBeNull = true ∧ type = nullable inner := by
  cases inner <;> simp [mkNullable, mayBeNull, eq_comm]

theorem mkLowCardinality_ok {inner type : DataType} (made : mkLowCardinality inner = .ok type) :
    type = lowCardinality inner := by
  unfold mkLowCardinality at made
  split at made
  · exact (Except.ok.inj made).symm
  · contradiction

theorem mkEnumeration_ok {width : EnumWidth} {members : List (String × Int16)} {type : DataType}
    (made : mkEnumeration width members = .ok type) : type = enumeration width members := by
  unfold mkEnumeration at made
  split at made
  · contradiction
  · exact (Except.ok.inj made).symm

/-- At no depth does a nullable type wrap one that it must not. -/
theorem Built.wraps {type : DataType} (built : Built type) {inner : DataType}
    (occurs : Occurs (.nullable inner) type) : inner.mayBeNull = true := by
  induction built with
  | free isFree _ ih =>
      cases occurs with
      | here => exact absurd isFree Bool.false_ne_true
      | inside member within => exact ih _ member within
  | nullable _ made ih =>
      obtain ⟨mayBeNull, rfl⟩ := (mkNullable_eq_ok_iff _ _).mp made
      cases occurs with
      | here => exact mayBeNull
      | inside member within =>
          rw [List.mem_singleton.mp member] at within
          exact ih within
  | lowCardinality _ made ih =>
      rw [mkLowCardinality_ok made] at occurs
      cases occurs with
      | inside member within =>
          rw [List.mem_singleton.mp member] at within
          exact ih within
  | enumeration made =>
      rw [mkEnumeration_ok made] at occurs
      cases occurs with
      | inside member _ => contradiction

def ofNull (type : DataType) : DataType :=
  if type.isNullable then type else nullable type

theorem built_ofNull_iff {type : DataType} (built : Built type) :
    Built type.ofNull ↔ type.isNullable = true ∨ type.mayBeNull = true := by
  unfold ofNull
  split
  · rename_i isNullable
    exact iff_of_true built (.inl isNullable)
  · rename_i notNullable
    rw [or_iff_right notNullable]
    constructor
    · intro wrapped
      exact wrapped.wraps .here
    · intro mayBeNull
      exact .nullable built ((mkNullable_eq_ok_iff _ _).mpr ⟨mayBeNull, rfl⟩)

end DataType

namespace Sql

theorem typedNull_eq (type : DataType) :
    typedNull type = "CAST(NULL AS " ++ type.ofNull.render ++ ")" := by
  unfold typedNull DataType.ofNull
  split
  · rfl
  · have opening : "CAST(NULL AS Nullable(" = "CAST(NULL AS " ++ "Nullable(" := rfl
    have closing : "))" = ")" ++ ")" := rfl
    rw [DataType.render_nullable, opening, closing]
    simp only [String.append_assoc]

def castTypes (types : List DataType) : List DataType :=
  (if types.isEmpty then [.int ⟨true, .bits8⟩] else types).map DataType.ofNull

theorem length_castTypes (types : List DataType) :
    (castTypes types).length = max 1 types.length := by
  cases types with
  | nil => rfl
  | cons type types =>
      simp only [castTypes, List.isEmpty_cons, Bool.false_eq_true, if_false, List.length_map,
        List.length_cons]
      omega

theorem emptyQuery_eq (types : List DataType) :
    emptyQuery types = "SELECT " ++
      Text.commaList ((castTypes types).map fun type => "CAST(NULL AS " ++ type.render ++ ")") ++
        " WHERE 1!=1" := by
  simp only [emptyQuery, castTypes, List.map_map]
  congr 4
  funext type
  exact typedNull_eq type

theorem built_castTypes_iff {types : List DataType} (built : ∀ type ∈ types, type.Built) :
    (∀ type ∈ castTypes types, type.Built) ↔
      ∀ type ∈ types, type.isNullable = true ∨ type.mayBeNull = true := by
  cases types with
  | nil =>
      have byte : DataType.Built (.int ⟨true, .bits8⟩) := .free rfl (by simp [DataType.parts])
      simpa [castTypes] using (DataType.built_ofNull_iff byte).mpr (.inr rfl)
  | cons first rest =>
      simp only [castTypes, List.isEmpty_cons, Bool.false_eq_true, if_false, List.mem_map,
        forall_exists_index, and_imp, forall_apply_eq_imp_iff₂]
      constructor
      · intro casts type member
        exact (DataType.built_ofNull_iff (built type member)).mp (casts type member)
      · intro fits type member
        exact (DataType.built_ofNull_iff (built type member)).mpr (fits type member)

end Sql

open Sql

/-- An empty set of elements is written as a query with one cast of a null for each element type,
or one if there are none. Of element types that keep the nesting rules, the cast types keep them,
and wrap nothing in a nullable type that must not be there, if and only if every element type is
nullable or may be made so: no dictionary-encoded type, array, map or nested type is among them. -/
theorem Expr.emptySet_casts_iff {style : SqlStyle} {inner : Expr} {innerSql : Template}
    (written : inner.sql style = .ok innerSql) (negated : Bool) {types : List DataType}
    (built : ∀ type ∈ types, type.Built) :
    (Expr.isIn inner negated (.empty types)).sql style =
        .ok (operand inner.precedence tightest innerSql ++
          .code (if negated then " NOT IN " else " IN ") ::
            (Template.code ("SELECT " ++ Text.commaList ((castTypes types).map
              fun type => "CAST(NULL AS " ++ type.render ++ ")") ++
                " WHERE 1!=1")).parenthesized) ∧
      (castTypes types).length = max 1 types.length ∧
      ((∀ type ∈ castTypes types, type.Built ∧
          ∀ wrapped, DataType.Occurs (.nullable wrapped) type → wrapped.mayBeNull = true) ↔
        ∀ type ∈ types, type.isNullable = true ∨ type.mayBeNull = true) := by
  refine ⟨?_, length_castTypes types, ?_⟩
  · rw [← emptyQuery_eq, Expr.sql, written]
    rfl
  · rw [← built_castTypes_iff built]
    constructor
    · intro casts type member
      exact (casts type member).1
    · intro casts type member
      exact ⟨casts type member, fun _ occurs => (casts type member).wraps occurs⟩

/-- A pair of a nullable date and a tuple of texts. -/
theorem Expr.emptySet_casts_pair :
    (castTypes [.nullable .date, .tuple [(none, .string)]]).length = 2 ∧
      ∀ type ∈ castTypes [.nullable .date, .tuple [(none, .string)]], type.Built ∧
        ∀ wrapped, DataType.Occurs (.nullable wrapped) type → wrapped.mayBeNull = true := by
  have built : ∀ type ∈ [DataType.nullable .date, .tuple [(none, .string)]], type.Built := by
    have date : DataType.Built .date := .free rfl (by simp [DataType.parts])
    have text : DataType.Built .string := .free rfl (by simp [DataType.parts])
    simp only [List.forall_mem_cons]
    exact ⟨.nullable date rfl, .free rfl (by simpa [DataType.parts] using text), by simp⟩
  have written : (Expr.column none "x").sql ⟨.double, false⟩ =
      .ok (Sql.name ⟨.double, false⟩ "x") := rfl
  have casts := Expr.emptySet_casts_iff written false built
  exact ⟨casts.2.1, casts.2.2.mpr (by decide)⟩

/-- A dictionary of texts is made nullable from the outside, which its constructor refuses. -/
theorem Expr.not_built_emptySet_dictionary :
    DataType.Built (.lowCardinality .string) ∧
      emptyQuery [.lowCardinality .string] =
        "SELECT CAST(NULL AS Nullable(LowCardinality(String))) WHERE 1!=1" ∧
      ¬ ∀ type ∈ castTypes [.lowCardinality .string], type.Built := by
  have text : DataType.Built .string := .free rfl (by simp [DataType.parts])
  have dictionary : DataType.Built (.lowCardinality .string) := .lowCardinality text rfl
  refine ⟨dictionary, rfl, ?_⟩
  intro casts
  have nested := casts (.nullable (.lowCardinality .string)) (List.mem_singleton.mpr rfl)
  exact absurd (nested.wraps .here) Bool.false_ne_true

end ClickHouse
