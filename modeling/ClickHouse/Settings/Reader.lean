import ClickHouse.Decimal.Layout
import ClickHouse.Decimal.Reader
import ClickHouse.Failure
import ClickHouse.Settings
import ClickHouse.Settings.Layer
import ClickHouse.Toml.Reader

/-!
Reading settings: a document, and the environment over it. Values of neighbouring types are
taken for one another; what is not set has its standard value.
-/

namespace ClickHouse

namespace Toml

def floatText (value : Float) : String :=
  if value.isNaN then "NaN" else Decimal.plain value

def text? : Toml → Option String
  | string text => some text
  | integer value => some (toString value)
  | float value => some (floatText value)
  | boolean value => some (if value then "true" else "false")
  | dateTime text => some text
  | array _ => none
  | table _ => none

def isYes (word : String) : Bool :=
  ["true", "on", "yes"].contains word

def isNo (word : String) : Bool :=
  ["false", "off", "no"].contains word

def switchOf? (text : String) : Option Bool :=
  let word := Text.lower text
  if isYes word || word = "1" then some true
  else if isNo word || word = "0" then some false
  else none

def switch? : Toml → Option Bool
  | string text => switchOf? text
  | integer value => some (value ≠ 0)
  | float value => some (value != 0)
  | boolean value => some value
  | dateTime text => switchOf? text
  | array _ => none
  | table _ => none

def naturalOf? (text : String) : Option Nat :=
  let word := Text.lower text
  if isYes word then some 1
  else if isNo word then some 0
  else Decimal.readUInt64? text.toList

/-- A number of 64 bits without sign; a fraction is rounded and kept within the range. -/
def natural? : Toml → Option Nat
  | string text => naturalOf? text
  | integer value => if value < 0 then none else some value.toNat
  | float value => some value.round.toUInt64.toNat
  | boolean value => some (if value then 1 else 0)
  | dateTime text => naturalOf? text
  | array _ => none
  | table _ => none

/-- The name of a choice, also as the only key of a table. -/
def choice? : Toml → Option String
  | string text => some text
  | dateTime text => some text
  | table [(name, _)] => some name
  | _ => none

/-- A part of a group, which is found by its name in a table and by its position in an array. -/
def part? {α : Type} (group : Toml) (position : Nat) (name : String) (standard : α)
    (read : Toml → Option α) : Option α :=
  match group with
  | table entries =>
    match entries.lookup name with
    | none => some standard
    | some value => read value
  | array items =>
    match items[position]? with
    | none => some standard
    | some value => read value
  | _ => none

end Toml

def QuoteStyle.ofName? : String → Option QuoteStyle
  | "backtick" => some .grave
  | "double_quote" => some .double
  | _ => none

def LogLevel.ofName? (name : String) : Option LogLevel :=
  if ["Debug", "DEBUG", "debug"].contains name then some .debug
  else if ["Info", "INFO", "info"].contains name then some .info
  else if ["Warn", "WARN", "warn"].contains name then some .warn
  else if ["Error", "ERROR", "error"].contains name then some .error
  else none

def LogFormat.ofName? (name : String) : Option LogFormat :=
  if ["Json", "JSON", "json"].contains name then some .json
  else if ["Text", "TEXT", "text"].contains name then some .text
  else none

/-- Larger ports lose their high bits. -/
def Connection.ofToml? (group : Toml) : Option Connection := do
  let host ← group.part? 0 "host" standard.host Toml.text?
  let port ← group.part? 1 "port" standard.port fun value => value.natural?.map UInt16.ofNat
  let user ← group.part? 2 "user" standard.user Toml.text?
  let password ← group.part? 3 "password" standard.password Toml.text?
  let database ← group.part? 4 "database" standard.database Toml.text?
  let useSsl ← group.part? 5 "use_ssl" standard.useSsl Toml.switch?
  return ⟨host, port, user, password, database, useSsl⟩

def Logging.ofToml? (group : Toml) : Option Logging := do
  let level ← group.part? 0 "level" standard.level fun value => value.choice?.bind LogLevel.ofName?
  let format ←
    group.part? 1 "format" standard.format fun value => value.choice?.bind LogFormat.ofName?
  let toStandardOutput ← group.part? 2 "stdout" standard.toStandardOutput Toml.switch?
  return ⟨level, format, toStandardOutput⟩

namespace Settings

def ofToml? (group : Toml) : Option Settings := do
  let quoting ← group.part? 0 "identifier_quote" standard.quoting fun value =>
    value.choice?.bind QuoteStyle.ofName?
  let serverVersion ← group.part? 1 "server_version" standard.serverVersion fun value =>
    value.text?.map some
  let connection ← group.part? 2 "connection" standard.connection Connection.ofToml?
  let logging ← group.part? 3 "logger" standard.logging Logging.ofToml?
  return ⟨quoting, serverVersion, connection, logging⟩

def documentLayer? : Option String → Option Layer
  | none => some []
  | some text => Toml.read? text

/-- Reads the settings of a document and of environment variables, which win over it. -/
def load (document : Option String) (environment : List (String × String)) :
    Except Failure Settings :=
  match documentLayer? document with
  | none => .error .settings
  | some layer =>
    let tree := Layer.apply (Layer.apply (.table []) layer) (Layer.ofEnvironment environment)
    match ofToml? tree with
    | some settings => .ok settings
    | none => .error .settings

end Settings

end ClickHouse
