import ClickHouse.Catalog

/-!
Remembered tables. A table is asked for once per connection and name; the answer is kept until
the memory is cleared, and a failure is not kept.
-/

namespace ClickHouse

structure MemoryKey where
  connection : String
  table : TableName
  deriving DecidableEq, Repr, Inhabited

abbrev CatalogMemory := List (MemoryKey × DescribedTable)

namespace CatalogMemory

def empty : CatalogMemory :=
  []

def lookup? (memory : CatalogMemory) (key : MemoryKey) : Option DescribedTable :=
  (memory.find? fun entry => entry.1 = key).map Prod.snd

def remember (memory : CatalogMemory) (key : MemoryKey) (table : DescribedTable) :
    CatalogMemory :=
  memory ++ [(key, table)]

theorem lookup?_remember (memory : CatalogMemory) (key : MemoryKey) (table : DescribedTable)
    (forgotten : memory.lookup? key = none) :
    (memory.remember key table).lookup? key = some table := by
  have absent : memory.find? (fun entry => entry.1 = key) = none := by
    simpa [lookup?] using forgotten
  rw [lookup?, remember, List.find?_append, absent]
  simp

theorem lookup?_remember_of_ne (memory : CatalogMemory) (key other : MemoryKey)
    (table : DescribedTable) (differs : other ≠ key) :
    (memory.remember other table).lookup? key = memory.lookup? key := by
  rw [lookup?, lookup?, remember, List.find?_append]
  simp [differs]

def describe (dialect : Dialect) (memory : CatalogMemory) (key : MemoryKey) :
    Dialogue (Except Failure DescribedTable × CatalogMemory) :=
  match memory.lookup? key with
  | some table => .done (.ok table, memory)
  | none =>
    (Catalog.describe dialect key.table).bind fun
      | .ok table => .done (.ok table, memory.remember key table)
      | .error failure => .done (.error failure, memory)

end CatalogMemory

end ClickHouse
