/-!
Why a type expression or a definition cannot be read.
-/

namespace ClickHouse

inductive SyntaxError where
  | empty
  | unbalanced (input : String)
  | unterminated (input : String)
  | trailing (rest : String)
  | unexpected (expected found : String)
  | badArgument (family reason : String)
  deriving DecidableEq, Repr, Inhabited

def SyntaxError.message : SyntaxError → String
  | empty => "Empty type expression"
  | unbalanced input => "Unbalanced parentheses in '" ++ input ++ "'"
  | unterminated input => "Unterminated string literal in '" ++ input ++ "'"
  | trailing rest => "Unexpected input after type expression: '" ++ rest ++ "'"
  | unexpected expected found =>
    "Unexpected token: expected " ++ expected ++ ", found '" ++ found ++ "'"
  | badArgument family reason => "Invalid parameter in " ++ family ++ ": " ++ reason

end ClickHouse
