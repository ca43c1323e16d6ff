import ClickHouse.Decimal.Layout
import ClickHouse.Text.Join
import ClickHouse.Text.Quoted
import ClickHouse.Value

/-!
The literal that stands for a value in a statement.
-/

namespace ClickHouse.Value

mutual

def literal : Value → String
  | null => "NULL"
  | bool true => "1"
  | bool false => "0"
  | int value => toString value.toInt
  | uint value => Nat.repr value.toNat
  | bigInt value => toString value
  | float value => Decimal.plain value
  | decimal text => text
  | string text => Text.quote text
  | date value => "'" ++ Calendar.dateText value ++ "'"
  | dateTime value => "'" ++ Calendar.dateTimeText value ++ "'"
  | uuid value => "'" ++ value.render ++ "'"
  | array items => "[" ++ Text.commaList (literals items) ++ "]"
  | tuple items => "(" ++ Text.commaList (literals items) ++ ")"
  | map entries => "\x7b" ++ Text.commaList (entryLiterals entries) ++ "\x7d"

def literals : List Value → List String
  | [] => []
  | value :: rest => value.literal :: literals rest

def entryLiterals : List (Value × Value) → List String
  | [] => []
  | (key, value) :: rest => (key.literal ++ ": " ++ value.literal) :: entryLiterals rest

end

end ClickHouse.Value
