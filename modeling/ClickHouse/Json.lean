/-!
JSON values. The members of an object keep the order in which their names first appear.
-/

namespace ClickHouse

/-- Integers of at most 64 bits are exact; every other number is a floating-point number. -/
inductive Json.Number where
  | integer (value : Int)
  | float (value : Float)
  deriving Repr, Inhabited

inductive Json where
  | null
  | bool (value : Bool)
  | number (value : Json.Number)
  | string (value : String)
  | array (items : List Json)
  | object (members : List (String × Json))
  deriving Repr, Inhabited

namespace Json

def isNull : Json → Bool
  | null => true
  | _ => false

def string? : Json → Option String
  | string value => some value
  | _ => none

def Number.natural? : Number → Option Nat
  | integer value => if 0 ≤ value then some value.toNat else none
  | float _ => none

def Number.toFloat : Number → Float
  | integer value => if value < 0 then -Float.ofNat value.natAbs else Float.ofNat value.natAbs
  | float value => value

/-- Adds a member; a name that is there already keeps its place and takes the new value. -/
def insertMember (name : String) (value : Json) : List (String × Json) → List (String × Json)
  | [] => [(name, value)]
  | (other, old) :: rest =>
    if other = name then (other, value) :: rest
    else (other, old) :: insertMember name value rest

def ofMembers (members : List (String × Json)) : Json :=
  object (members.foldl (fun kept member => insertMember member.1 member.2 kept) [])

theorem lookup_insertMember_self (name : String) (value : Json) (members : List (String × Json)) :
    (insertMember name value members).lookup name = some value := by
  induction members with
  | nil => simp [insertMember]
  | cons member rest ih =>
      rcases member with ⟨other, old⟩
      by_cases same : other = name
      · simp [insertMember, same]
      · have differs : (name == other) = false := by
          simp only [beq_eq_false_iff_ne]
          exact fun equal => same equal.symm
        simp [insertMember, same, List.lookup_cons, differs, ih]

end Json

end ClickHouse
