import ClickHouse.Identifier
import ClickHouse.Version

/-!
A dialect is a quoting style and what is known of the server's version.
-/

namespace ClickHouse

structure Dialect where
  quoting : QuoteStyle
  version : Option Version
  deriving Repr, Inhabited

namespace Dialect

def standard : Dialect :=
  ⟨.double, none⟩

/-- A server of unknown version is taken to have every feature. -/
def supports (dialect : Dialect) (feature : Feature) : Bool :=
  match dialect.version with
  | none => true
  | some version => version.atLeast feature.since

def versionText (dialect : Dialect) : String :=
  match dialect.version with
  | none => "unknown"
  | some version => version.text

end Dialect

end ClickHouse
