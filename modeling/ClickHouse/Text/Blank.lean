/-!
The blank characters of Unicode (property `White_Space`) and trimming by them.
-/

namespace ClickHouse.Text

/-- The twenty-five code points with the property `White_Space`. -/
def isBlank (c : Char) : Bool :=
  let n := c.toNat
  (9 ≤ n && n ≤ 13) || n == 0x20 || n == 0x85 || n == 0xA0 || n == 0x1680 ||
    (0x2000 ≤ n && n ≤ 0x200A) || n == 0x2028 || n == 0x2029 || n == 0x202F || n == 0x205F ||
    n == 0x3000

def trimLeft (text : List Char) : List Char :=
  text.dropWhile isBlank

def trimRight : List Char → List Char
  | [] => []
  | c :: rest =>
    match trimRight rest with
    | [] => if isBlank c then [] else [c]
    | kept => c :: kept

def trimChars (text : List Char) : List Char :=
  trimRight (trimLeft text)

def trim (text : String) : String :=
  String.ofList (trimChars text.toList)

theorem trimRight_eq_nil_iff (text : List Char) :
    trimRight text = [] ↔ ∀ c ∈ text, isBlank c = true := by
  induction text with
  | nil => simp [trimRight]
  | cons c rest ih =>
      simp only [trimRight]
      split
      · rename_i empty
        have restBlank := ih.mp empty
        by_cases blank : isBlank c = true
        · simp only [blank, if_true, true_iff]
          intro d member
          rcases List.mem_cons.mp member with rfl | tail
          · exact blank
          · exact restBlank d tail
        · simp [blank]
      · rename_i notEmpty
        simp only [reduceCtorEq, false_iff]
        intro allBlank
        exact notEmpty (ih.mpr fun d member => allBlank d (List.mem_cons_of_mem _ member))

end ClickHouse.Text
