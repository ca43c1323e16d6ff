/-!
Failures of the transport and of the server, and answers that cannot be read.
-/

namespace ClickHouse

inductive ForeignFormat where
  | uuid
  | json
  | metadata
  deriving DecidableEq, Repr, Inhabited

inductive DatabaseError where
  | network (reason : String)
  | server (reason : String)
  | decode (reason : String)
  | configuration (reason : String)
  /-- An answer is no text of the format it has to be in. -/
  | malformed (format : ForeignFormat)
  deriving DecidableEq, Repr, Inhabited

def ForeignFormat.reason : ForeignFormat → String
  | uuid => "malformed UUID text"
  | json => "malformed JSON text"
  | metadata => "a metadata cell is no string"

def DatabaseError.kindName : DatabaseError → String
  | network _ => "network"
  | server _ => "server"
  | decode _ => "decode"
  | configuration _ => "configuration"
  | malformed _ => "decode"

def DatabaseError.reason : DatabaseError → String
  | network reason => reason
  | server reason => reason
  | decode reason => reason
  | configuration reason => reason
  | malformed format => format.reason

def DatabaseError.message (error : DatabaseError) : String :=
  "ClickHouse " ++ error.kindName ++ " error: " ++ error.reason

end ClickHouse
