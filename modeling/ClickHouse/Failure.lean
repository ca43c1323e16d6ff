import ClickHouse.DatabaseError
import ClickHouse.DefinitionError
import ClickHouse.StatementError

/-!
Everything that can go wrong.
-/

namespace ClickHouse

inductive Failure where
  | syntactic (cause : SyntaxError)
  | definition (cause : DefinitionError)
  | statement (cause : StatementError)
  | database (cause : DatabaseError)
  | settings
  deriving DecidableEq, Repr, Inhabited

def Failure.message : Failure → String
  | syntactic cause => cause.message
  | definition cause => cause.message
  | statement cause => cause.message
  | database cause => cause.message
  | settings => "Invalid dialect configuration"

end ClickHouse
