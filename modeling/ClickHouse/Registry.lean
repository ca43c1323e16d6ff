import ClickHouse.Settings

/-!
Dialects by name. What is registered under a name makes a dialect of settings; a later
registration of a name replaces the earlier one.
-/

namespace ClickHouse

abbrev Registry := List (String × (Settings → Dialect))

namespace Registry

def empty : Registry :=
  []

def register (registry : Registry) (name : String) (make : Settings → Dialect) : Registry :=
  (name, make) :: registry

def registerStandard (registry : Registry) : Registry :=
  registry.register "clickhouse" Settings.dialect

def load? (registry : Registry) (name : String) (settings : Settings) : Option Dialect :=
  (registry.lookup name).map fun make => make settings

theorem load?_register_self (registry : Registry) (name : String) (make : Settings → Dialect)
    (settings : Settings) : (registry.register name make).load? name settings = make settings := by
  simp [load?, register]

theorem load?_register_of_ne (registry : Registry) {name other : String}
    (make : Settings → Dialect) (settings : Settings) (differ : other ≠ name) :
    (registry.register name make).load? other settings = registry.load? other settings := by
  simp [load?, register, List.lookup_cons, beq_false_of_ne differ]

end Registry

end ClickHouse
