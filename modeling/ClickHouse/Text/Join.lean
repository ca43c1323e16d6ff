/-!
Lists of texts written with a separator between neighbours.
-/

namespace ClickHouse.Text

def joinWith (separator : String) : List String → String
  | [] => ""
  | [only] => only
  | first :: second :: rest => first ++ separator ++ joinWith separator (second :: rest)

def commaList (items : List String) : String :=
  joinWith ", " items

theorem joinWith_cons_cons (separator first second : String) (rest : List String) :
    joinWith separator (first :: second :: rest) =
      first ++ separator ++ joinWith separator (second :: rest) := by
  rw [joinWith]

end ClickHouse.Text
