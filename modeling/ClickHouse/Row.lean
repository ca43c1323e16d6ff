import ClickHouse.Value.Cell

/-!
One row of a result: cells by column name.
-/

namespace ClickHouse

abbrev Row := List (String × Json)

namespace Row

def cell? (row : Row) (column : String) : Option Json :=
  row.lookup column

def string? (row : Row) (column : String) : Option String :=
  (row.cell? column).bind Json.string?

/-- The text of a string cell; empty when there is none. -/
def text (row : Row) (column : String) : String :=
  (row.string? column).getD ""

/-- An unsigned number of 64 bits, given as a number, in a string, or as a truth value. -/
def natural? (row : Row) (column : String) : Option Nat :=
  match row.cell? column with
  | some (.number value) => value.natural?
  | some (.string text) => Decimal.readUInt64? text.toList
  | some (.bool value) => some value.toNat
  | _ => none

/-- The cell by the type of its column; a missing cell is null. -/
def value (row : Row) (column : String) (type : DataType) : Except DatabaseError Value :=
  Value.ofCell type ((row.cell? column).getD .null)

end Row

end ClickHouse
