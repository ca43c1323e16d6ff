/-!
The types of columns and values.
-/

namespace ClickHouse

inductive IntWidth where
  | bits8
  | bits16
  | bits32
  | bits64
  | bits128
  | bits256
  deriving DecidableEq, Repr, Inhabited

def IntWidth.bits : IntWidth → Nat
  | bits8 => 8
  | bits16 => 16
  | bits32 => 32
  | bits64 => 64
  | bits128 => 128
  | bits256 => 256

structure IntType where
  signed : Bool
  width : IntWidth
  deriving DecidableEq, Repr, Inhabited

namespace IntType

def all : List IntType :=
  [⟨true, .bits8⟩, ⟨true, .bits16⟩, ⟨true, .bits32⟩, ⟨true, .bits64⟩, ⟨true, .bits128⟩,
    ⟨true, .bits256⟩, ⟨false, .bits8⟩, ⟨false, .bits16⟩, ⟨false, .bits32⟩, ⟨false, .bits64⟩,
    ⟨false, .bits128⟩, ⟨false, .bits256⟩]

def name : IntType → String
  | ⟨true, .bits8⟩ => "Int8"
  | ⟨true, .bits16⟩ => "Int16"
  | ⟨true, .bits32⟩ => "Int32"
  | ⟨true, .bits64⟩ => "Int64"
  | ⟨true, .bits128⟩ => "Int128"
  | ⟨true, .bits256⟩ => "Int256"
  | ⟨false, .bits8⟩ => "UInt8"
  | ⟨false, .bits16⟩ => "UInt16"
  | ⟨false, .bits32⟩ => "UInt32"
  | ⟨false, .bits64⟩ => "UInt64"
  | ⟨false, .bits128⟩ => "UInt128"
  | ⟨false, .bits256⟩ => "UInt256"

def ofName? (name : String) : Option IntType :=
  all.find? fun type => type.name = name

theorem ofName?_name (type : IntType) : ofName? type.name = some type := by
  rcases type with ⟨signed, width⟩
  cases signed <;> cases width <;> decide

end IntType

inductive EnumWidth where
  | bits8
  | bits16
  deriving DecidableEq, Repr, Inhabited

def EnumWidth.familyName : EnumWidth → String
  | bits8 => "Enum8"
  | bits16 => "Enum16"

def EnumWidth.admits : EnumWidth → Int16 → Bool
  | bits8, code => -128 ≤ code.toInt && code.toInt ≤ 127
  | bits16, _ => true

inductive DataType where
  | int (type : IntType)
  | float32
  | float64
  | decimal (precision scale : UInt8)
  | bool
  | date
  | date32
  | dateTime (timezone : Option String)
  | dateTime64 (precision : UInt8) (timezone : Option String)
  | string
  | fixedString (length : UInt64)
  | uuid
  | ipv4
  | ipv6
  | enumeration (width : EnumWidth) (members : List (String × Int16))
  | array (item : DataType)
  | nullable (inner : DataType)
  | lowCardinality (inner : DataType)
  | tuple (elements : List (Option String × DataType))
  | map (key value : DataType)
  | nested (fields : List (String × DataType))
  | aggregateFunction (function : String) (arguments : List DataType)
  | simpleAggregateFunction (function : String) (arguments : List DataType)
  /-- A type expression whose family is not known. -/
  | unrecognized (spelling : String)
  deriving Repr, Inhabited

namespace DataType

def familyName : DataType → String
  | int type => type.name
  | float32 => "Float32"
  | float64 => "Float64"
  | decimal _ _ => "Decimal"
  | bool => "Bool"
  | date => "Date"
  | date32 => "Date32"
  | dateTime _ => "DateTime"
  | dateTime64 _ _ => "DateTime64"
  | string => "String"
  | fixedString _ => "FixedString"
  | uuid => "UUID"
  | ipv4 => "IPv4"
  | ipv6 => "IPv6"
  | enumeration width _ => width.familyName
  | array _ => "Array"
  | nullable _ => "Nullable"
  | lowCardinality _ => "LowCardinality"
  | tuple _ => "Tuple"
  | map _ _ => "Map"
  | nested _ => "Nested"
  | aggregateFunction _ _ => "AggregateFunction"
  | simpleAggregateFunction _ _ => "SimpleAggregateFunction"
  | unrecognized _ => "Nothing"

def isNullable : DataType → Bool
  | nullable _ => true
  | _ => false

/-- The type of the sub-column `name`: an array over the first field of that name. -/
def nestedField? (type : DataType) (name : String) : Option DataType :=
  match type with
  | nested fields => (fields.lookup name).map array
  | _ => none

mutual

def unrecognizedNames : DataType → List String
  | array item => item.unrecognizedNames
  | nullable inner => inner.unrecognizedNames
  | lowCardinality inner => inner.unrecognizedNames
  | tuple elements => unrecognizedInElements elements
  | map key value => key.unrecognizedNames ++ value.unrecognizedNames
  | nested fields => unrecognizedInFields fields
  | aggregateFunction _ arguments => unrecognizedInArguments arguments
  | simpleAggregateFunction _ arguments => unrecognizedInArguments arguments
  | unrecognized spelling => [spelling]
  | _ => []

def unrecognizedInElements : List (Option String × DataType) → List String
  | [] => []
  | (_, type) :: rest => type.unrecognizedNames ++ unrecognizedInElements rest

def unrecognizedInFields : List (String × DataType) → List String
  | [] => []
  | (_, type) :: rest => type.unrecognizedNames ++ unrecognizedInFields rest

def unrecognizedInArguments : List DataType → List String
  | [] => []
  | type :: rest => type.unrecognizedNames ++ unrecognizedInArguments rest

end

end DataType

end ClickHouse
