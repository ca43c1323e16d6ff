import ClickHouse.DataType
import ClickHouse.Text.Join
import ClickHouse.Text.Quoted

/-!
The written form of a type. A boolean is written as the unsigned byte that stores it, and an
unrecognized type as the type without values.
-/

namespace ClickHouse.DataType

def renderMember (member : String × Int16) : String :=
  Text.quote member.1 ++ " = " ++ toString member.2.toInt

mutual

def render : DataType → String
  | int type => type.name
  | float32 => "Float32"
  | float64 => "Float64"
  | decimal precision scale =>
    "Decimal(" ++ Nat.repr precision.toNat ++ ", " ++ Nat.repr scale.toNat ++ ")"
  | bool => "UInt8"
  | date => "Date"
  | date32 => "Date32"
  | dateTime none => "DateTime"
  | dateTime (some timezone) => "DateTime(" ++ Text.quote timezone ++ ")"
  | dateTime64 precision none => "DateTime64(" ++ Nat.repr precision.toNat ++ ")"
  | dateTime64 precision (some timezone) =>
    "DateTime64(" ++ Nat.repr precision.toNat ++ ", " ++ Text.quote timezone ++ ")"
  | string => "String"
  | fixedString length => "FixedString(" ++ Nat.repr length.toNat ++ ")"
  | uuid => "UUID"
  | ipv4 => "IPv4"
  | ipv6 => "IPv6"
  | enumeration width members =>
    width.familyName ++ "(" ++ Text.commaList (members.map renderMember) ++ ")"
  | array item => "Array(" ++ item.render ++ ")"
  | nullable inner => "Nullable(" ++ inner.render ++ ")"
  | lowCardinality inner => "LowCardinality(" ++ inner.render ++ ")"
  | tuple elements => "Tuple(" ++ Text.commaList (renderElements elements) ++ ")"
  | map key value => "Map(" ++ key.render ++ ", " ++ value.render ++ ")"
  | nested fields => "Nested(" ++ Text.commaList (renderFields fields) ++ ")"
  | aggregateFunction function arguments =>
    "AggregateFunction(" ++ Text.commaList (function :: renderArguments arguments) ++ ")"
  | simpleAggregateFunction function arguments =>
    "SimpleAggregateFunction(" ++ Text.commaList (function :: renderArguments arguments) ++ ")"
  | unrecognized _ => "Nothing"

def renderElements : List (Option String × DataType) → List String
  | [] => []
  | (none, type) :: rest => type.render :: renderElements rest
  | (some name, type) :: rest => (name ++ " " ++ type.render) :: renderElements rest

def renderFields : List (String × DataType) → List String
  | [] => []
  | (name, type) :: rest => (name ++ " " ++ type.render) :: renderFields rest

def renderArguments : List DataType → List String
  | [] => []
  | type :: rest => type.render :: renderArguments rest

end

section

variable (precision scale : UInt8) (timezone function : String) (length : UInt64)
variable (item key value : DataType) (arguments : List DataType)

@[simp] theorem render_decimal : (decimal precision scale).render =
    "Decimal(" ++ Nat.repr precision.toNat ++ ", " ++ Nat.repr scale.toNat ++ ")" := rfl

@[simp] theorem render_dateTime : (dateTime (some timezone)).render =
    "DateTime(" ++ Text.quote timezone ++ ")" := rfl

@[simp] theorem render_dateTime64 : (dateTime64 precision none).render =
    "DateTime64(" ++ Nat.repr precision.toNat ++ ")" := rfl

@[simp] theorem render_dateTime64_some : (dateTime64 precision (some timezone)).render =
    "DateTime64(" ++ Nat.repr precision.toNat ++ ", " ++ Text.quote timezone ++ ")" := rfl

@[simp] theorem render_fixedString : (fixedString length).render =
    "FixedString(" ++ Nat.repr length.toNat ++ ")" := rfl

@[simp] theorem render_enumeration (width : EnumWidth) (members : List (String × Int16)) :
    (enumeration width members).render =
      width.familyName ++ "(" ++ Text.commaList (members.map renderMember) ++ ")" := rfl

@[simp] theorem render_array : (array item).render = "Array(" ++ item.render ++ ")" := rfl

@[simp] theorem render_nullable : (nullable item).render = "Nullable(" ++ item.render ++ ")" := rfl

@[simp] theorem render_lowCardinality :
    (lowCardinality item).render = "LowCardinality(" ++ item.render ++ ")" := rfl

@[simp] theorem render_tuple (elements : List (Option String × DataType)) :
    (tuple elements).render = "Tuple(" ++ Text.commaList (renderElements elements) ++ ")" := rfl

@[simp] theorem render_map :
    (map key value).render = "Map(" ++ key.render ++ ", " ++ value.render ++ ")" := rfl

@[simp] theorem render_nested (fields : List (String × DataType)) :
    (nested fields).render = "Nested(" ++ Text.commaList (renderFields fields) ++ ")" := rfl

@[simp] theorem render_aggregateFunction : (aggregateFunction function arguments).render =
    "AggregateFunction(" ++ Text.commaList (function :: renderArguments arguments) ++ ")" := rfl

@[simp] theorem render_simpleAggregateFunction :
    (simpleAggregateFunction function arguments).render =
      "SimpleAggregateFunction(" ++ Text.commaList (function :: renderArguments arguments) ++ ")" :=
  rfl

end

end ClickHouse.DataType
