import ClickHouse.DataType.Printer
import ClickHouse.DatabaseError
import ClickHouse.Decimal.Reader
import ClickHouse.Json.Printer
import ClickHouse.Value

/-!
Reading the JSON cells of a result by the types of their columns. Numbers of 64 bits and more,
decimals and dates may come as strings; a null cell has no value whatever its type.
-/

namespace ClickHouse.Value

/-- The text of a cell: a string as it is, any other value as compact JSON. -/
def cellText (cell : Json) : String :=
  match cell with
  | .string text => text
  | _ => cell.render

def refuseCell {α : Type} (type : DataType) (cell : Json) : Except DatabaseError α :=
  .error (.decode ("cannot decode " ++ cell.render ++ " as " ++ type.render))

def cellOr (type : DataType) (cell : Json) : Option Value → Except DatabaseError Value
  | some value => .ok value
  | none => refuseCell type cell

def readInteger? (type : IntType) (text : List Char) : Option Value :=
  if type.width.bits ≤ 64 then
    if type.signed then (Decimal.readInt64? text).map fun value => .int (Int64.ofInt value)
    else (Decimal.readUInt64? text).map fun value => .uint (UInt64.ofNat value)
  else (Decimal.readBigInt? text).map .bigInt

def readFloat? : Json → Option Value
  | .number value => some (.float value.toFloat)
  | .string text =>
    if text = "-nan" then some (.float (0.0 / 0.0))
    else (Decimal.readFloat? text.toList).map .float
  | _ => none

/-- A number is true when it is a positive integer; a string when it says so. -/
def readBool? : Json → Option Value
  | .bool value => some (.bool value)
  | .number value => some (.bool (value.natural?.any fun natural => natural ≠ 0))
  | .string text => some (.bool (text = "true" || text = "1"))
  | _ => none

def components? : Json → Option (List Json)
  | .array items => some items
  | .object members => some (members.map Prod.snd)
  | _ => none

mutual

def ofCell (type : DataType) (cell : Json) : Except DatabaseError Value :=
  if cell.isNull then .ok .null
  else
    match type with
    | .nullable inner => ofCell inner cell
    | .lowCardinality inner => ofCell inner cell
    | .int intType =>
      cellOr (.int intType) cell (readInteger? intType (cellText cell).toList)
    | .float32 => cellOr .float32 cell (readFloat? cell)
    | .float64 => cellOr .float64 cell (readFloat? cell)
    | .decimal _ _ => .ok (.decimal (cellText cell))
    | .bool => cellOr .bool cell (readBool? cell)
    | .date =>
      cellOr .date cell ((Calendar.readDate? (cellText cell).toList).map .date)
    | .date32 =>
      cellOr .date32 cell ((Calendar.readDate? (cellText cell).toList).map .date)
    | .dateTime timezone =>
      cellOr (.dateTime timezone) cell
        ((Calendar.readDateTime? (cellText cell).toList).map .dateTime)
    | .dateTime64 precision timezone =>
      cellOr (.dateTime64 precision timezone) cell
        ((Calendar.readDateTime? (cellText cell).toList).map .dateTime)
    | .uuid =>
      match Uuid.read? (cellText cell).toList with
      | some identifier => .ok (.uuid identifier)
      | none => .error (.malformed .uuid)
    | .array item =>
      match cell with
      | .array items =>
        match items.mapM fun cell => ofCell item cell with
        | .error error => .error error
        | .ok values => .ok (.array values)
      | _ => refuseCell (.array item) cell
    | .tuple elements =>
      match components? cell with
      | none => refuseCell (.tuple elements) cell
      | some cells =>
        if cells.length = elements.length then
          match ofCells elements cells with
          | .error error => .error error
          | .ok values => .ok (.tuple values)
        else refuseCell (.tuple elements) cell
    | .map key value =>
      match cell with
      | .object members =>
        let entry (member : String × Json) : Except DatabaseError (Value × Value) :=
          match ofCell value member.2 with
          | .error error => .error error
          | .ok content => .ok (.string member.1, content)
        match members.mapM entry with
        | .error error => .error error
        | .ok entries => .ok (.map entries)
      | _ => refuseCell (.map key value) cell
    | _ => .ok (.string (cellText cell))

def ofCells : List (Option String × DataType) → List Json → Except DatabaseError (List Value)
  | (_, type) :: types, cell :: cells =>
    match ofCell type cell with
    | .error error => .error error
    | .ok value =>
      match ofCells types cells with
      | .error error => .error error
      | .ok values => .ok (value :: values)
  | _, _ => .ok []

end

end ClickHouse.Value
