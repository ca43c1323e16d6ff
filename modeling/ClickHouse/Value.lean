import ClickHouse.Calendar
import ClickHouse.Uuid

/-!
The values of columns and of statement parameters.
-/

namespace ClickHouse

inductive Value where
  | null
  | bool (value : Bool)
  | int (value : Int64)
  | uint (value : UInt64)
  | bigInt (value : Int)
  | float (value : Float)
  /-- A decimal number, kept as it is written. -/
  | decimal (text : String)
  | string (text : String)
  | date (value : Date)
  | dateTime (value : DateTime)
  | uuid (value : Uuid)
  | array (items : List Value)
  | tuple (items : List Value)
  | map (entries : List (Value × Value))
  deriving Repr, Inhabited

def Value.integer? : Value → Option Int
  | int value => some value.toInt
  | uint value => some value.toNat
  | bigInt value => some value
  | _ => none

end ClickHouse
