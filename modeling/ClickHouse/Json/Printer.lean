import ClickHouse.Decimal.Layout
import ClickHouse.Json
import ClickHouse.Text.Join

/-!
Compact JSON text: no blanks, and only quotation marks, backslashes and control characters
escaped.
-/

namespace ClickHouse.Json

def hexDigit (value : Nat) : Char :=
  Nat.digitChar (value % 16)

def escapeChar (c : Char) : List Char :=
  if c = '\x22' then ['\\', '\x22']
  else if c = '\\' then ['\\', '\\']
  else if c = '\x08' then ['\\', 'b']
  else if c = '\x0c' then ['\\', 'f']
  else if c = '\n' then ['\\', 'n']
  else if c = '\r' then ['\\', 'r']
  else if c = '\t' then ['\\', 't']
  else if c.toNat < 32 then
    ['\\', 'u', '0', '0', hexDigit (c.toNat / 16), hexDigit c.toNat]
  else [c]

def quoted (text : String) : String :=
  String.ofList ('\x22' :: text.toList.flatMap escapeChar ++ ['\x22'])

def Number.render : Number → String
  | integer value => toString value
  | float value => Decimal.jsonText value

mutual

def render : Json → String
  | null => "null"
  | bool true => "true"
  | bool false => "false"
  | number value => value.render
  | string value => quoted value
  | array items => "[" ++ Text.joinWith "," (renderItems items) ++ "]"
  | object members => "\x7b" ++ Text.joinWith "," (renderMembers members) ++ "\x7d"

def renderItems : List Json → List String
  | [] => []
  | item :: rest => item.render :: renderItems rest

def renderMembers : List (String × Json) → List String
  | [] => []
  | (name, value) :: rest => (quoted name ++ ":" ++ value.render) :: renderMembers rest

end

end ClickHouse.Json
