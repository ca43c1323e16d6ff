import ClickHouse.Dialect

/-!
Settings: how names are quoted, which server is spoken to, and how much is reported.
-/

namespace ClickHouse

structure Connection where
  host : String
  port : UInt16
  user : String
  password : String
  database : String
  useSsl : Bool
  deriving DecidableEq, Repr, Inhabited

namespace Connection

def standard : Connection :=
  ⟨"localhost", 8123, "default", "", "default", false⟩

def url (connection : Connection) : String :=
  (if connection.useSsl then "https" else "http") ++ "://" ++ connection.host ++ ":" ++
    Nat.repr connection.port.toNat

/-- Tells servers apart: what one of them said is not remembered for another. -/
def identity (connection : Connection) : String :=
  connection.user ++ "@" ++ connection.url ++ "/" ++ connection.database

end Connection

inductive LogLevel where
  | debug
  | info
  | warn
  | error
  deriving DecidableEq, Repr, Inhabited

def LogLevel.name : LogLevel → String
  | debug => "debug"
  | info => "info"
  | warn => "warn"
  | error => "error"

inductive LogFormat where
  | json
  | text
  deriving DecidableEq, Repr, Inhabited

def LogFormat.name : LogFormat → String
  | json => "json"
  | text => "text"

structure Logging where
  level : LogLevel
  format : LogFormat
  toStandardOutput : Bool
  deriving DecidableEq, Repr, Inhabited

def Logging.standard : Logging :=
  ⟨.info, .text, false⟩

structure Settings where
  quoting : QuoteStyle
  /-- A version given here is not asked of the server. -/
  serverVersion : Option String
  connection : Connection
  logging : Logging
  deriving DecidableEq, Repr, Inhabited

namespace Settings

def standard : Settings :=
  ⟨.double, none, Connection.standard, Logging.standard⟩

def dialect (settings : Settings) : Dialect :=
  ⟨settings.quoting, settings.serverVersion.map Version.read⟩

end Settings

end ClickHouse
