import ClickHouse.Dialogue
import ClickHouse.Exchange.Status
import ClickHouse.Json.Printer
import ClickHouse.Json.Reader
import ClickHouse.Settings
import ClickHouse.Text.Blank

/-!
One exchange with a server: the request that carries a statement, and the rows that its answer
holds, one JSON object a line.
-/

namespace ClickHouse

structure Request where
  method : String
  url : String
  query : List (String × String)
  user : String
  password : String
  body : String
  deriving DecidableEq, Repr, Inhabited

inductive Delivery where
  | unsent (reason : String)
  | brokenOff (reason : String)
  | answered (status : Nat) (body : String)
  deriving DecidableEq, Repr, Inhabited

namespace Connection

def request (connection : Connection) (sql : String) (params : Params) :
    Except DatabaseError Request :=
  match substitute sql params with
  | .error cause => .error (.configuration cause.message)
  | .ok body =>
    .ok {
      method := "POST"
      url := connection.url
      query := [("database", connection.database), ("default_format", "JSONEachRow")]
      user := connection.user
      password := connection.password
      body := body }

end Connection

namespace Delivery

def splitLines : List Char → List (List Char)
  | [] => [[]]
  | c :: rest =>
    if c = '\n' then [] :: splitLines rest
    else
      match splitLines rest with
      | [] => [[c]]
      | line :: lines => (c :: line) :: lines

def rowOf (line : List Char) : Except DatabaseError Row :=
  match Json.read? (String.ofList line) with
  | none => .error (.malformed .json)
  | some (.object members) => .ok members
  | some other =>
    .error (.decode ("expected a JSON object per row, got " ++ other.render))

/-- The rows of a text, one a line; blank lines count for nothing. -/
def rowsOf (body : String) : Except DatabaseError (List Row) :=
  ((splitLines body.toList).filter fun line => !line.all Text.isBlank).mapM rowOf

def answer : Delivery → Answer
  | unsent reason => .error (.network reason)
  | brokenOff reason => .error (.network reason)
  | answered status body =>
    if Status.isSuccess status then rowsOf body
    else
      .error (.server ("query failed (" ++ Status.describe status ++ "): " ++ Text.trim body))

end Delivery

end ClickHouse
