/-!
Why a statement cannot be written.
-/

namespace ClickHouse

inductive StatementError where
  | missingElse
  | missingWhere (statement : String)
  | modifierWithoutGroups (modifier : String)
  | offsetWithoutLimit
  | limitByOffsetWithoutLimit
  | unsupported (feature version : String)
  | variadicLambda (parameter : String)
  | missingEngine (table : String)
  | joinTypeConflict (joinType : String)
  | emptyUpdate
  | unboundName (name : String)
  deriving DecidableEq, Repr, Inhabited

def StatementError.message : StatementError → String
  | missingElse => "ClickHouse CASE requires an ELSE branch"
  | missingWhere statement => statement ++ " without WHERE is not supported by ClickHouse"
  | modifierWithoutGroups modifier => modifier ++ " requires a GROUP BY clause"
  | offsetWithoutLimit => "OFFSET without LIMIT is not supported by ClickHouse"
  | limitByOffsetWithoutLimit => "LIMIT BY offset requires a LIMIT BY count"
  | unsupported feature version =>
    feature ++ " is not supported by server version " ++ version
  | variadicLambda parameter =>
    "Lambda parameter '" ++ parameter ++
      "' is variadic, only positional parameters are supported"
  | missingEngine table => "Table '" ++ table ++ "' has no engine, ClickHouse tables require one"
  | joinTypeConflict joinType =>
    "Can't compile join with specified " ++ joinType ++ " type and isouter=True"
  | emptyUpdate => "ALTER UPDATE requires at least one value"
  | unboundName name => "No value bound for parameter '" ++ name ++ "'"

end ClickHouse
