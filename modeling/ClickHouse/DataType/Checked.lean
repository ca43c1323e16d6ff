import ClickHouse.DataType.Printer
import ClickHouse.DefinitionError

/-!
Constructors that keep the nesting rules of nullable, dictionary-encoded and enumerated types.
-/

namespace ClickHouse.DataType

/-- A nullable type wraps no nullable, dictionary-encoded or composite type. -/
def mkNullable (inner : DataType) : Except DefinitionError DataType :=
  match inner with
  | nullable _ | lowCardinality _ =>
    .error (.invalidType (nullable inner).render "Nullable cannot wrap Nullable or LowCardinality")
  | array _ | map _ _ | nested _ =>
    .error (.invalidType (nullable inner).render "composite types cannot be inside Nullable")
  | _ => .ok (nullable inner)

/-- Dictionary encoding is for strings, plain dates and integers of at most 64 bits, nullable or
not. -/
def admitsDictionary : DataType → Bool
  | string | fixedString _ | date | date32 | dateTime _ => true
  | int type => type.width.bits ≤ 64
  | nullable inner => inner.admitsDictionary
  | _ => false

def mkLowCardinality (inner : DataType) : Except DefinitionError DataType :=
  if inner.admitsDictionary then .ok (lowCardinality inner)
  else
    .error (.invalidType (lowCardinality inner).render
      "LowCardinality requires a string-like or small integer type")

/-- Every code fits the width; the first that does not is reported. -/
def mkEnumeration (width : EnumWidth) (members : List (String × Int16)) :
    Except DefinitionError DataType :=
  match members.find? fun member => !width.admits member.2 with
  | some (label, code) =>
    .error (.invalidType width.familyName
      ("code " ++ toString code.toInt ++ " of label '" ++ label ++ "' is out of range"))
  | none => .ok (enumeration width members)

end ClickHouse.DataType
