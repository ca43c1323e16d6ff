import ClickHouse.SyntaxError

/-!
Why a name, a type or an engine cannot be defined as asked.
-/

namespace ClickHouse

inductive DefinitionError where
  | unknownFormat (format : String)
  | invalidIdentifier (role name reason : String)
  | invalidLambda (reason : String)
  | invalidType (type reason : String)
  | invalidParameters (reason : String)
  | malformedEngine (cause : SyntaxError)
  deriving DecidableEq, Repr, Inhabited

def DefinitionError.message : DefinitionError → String
  | unknownFormat format => "Unknown File engine format: " ++ format
  | invalidIdentifier role name reason =>
    "Invalid " ++ role ++ ": '" ++ name ++ "' - " ++ reason
  | invalidLambda reason => "Invalid lambda: " ++ reason
  | invalidType type reason => "Invalid type " ++ type ++ ": " ++ reason
  | invalidParameters reason => "Invalid parameters: " ++ reason
  | malformedEngine cause => "Malformed engine definition: " ++ cause.message

end ClickHouse
