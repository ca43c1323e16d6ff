import ClickHouse.Text.Casing

/-!
Capital letters bring in no percent sign.
-/

namespace ClickHouse.Text

def CaseRange.aboveMarks (range : CaseRange) : Bool :=
  0x25 < range.first + range.offset

theorem mapCode_above (ranges : List CaseRange)
    (above : ∀ range ∈ ranges, range.aboveMarks = true) (code : Nat) (beyond : 0x25 < code) :
    0x25 < mapCode ranges code := by
  unfold mapCode
  split
  · rename_i range found
    have inRange := List.find?_some found
    have start := above range (List.mem_of_find?_eq_some found)
    simp only [CaseRange.contains, Bool.and_eq_true, decide_eq_true_eq] at inRange
    simp only [CaseRange.aboveMarks, decide_eq_true_eq] at start
    omega
  · exact beyond

theorem ofNat_ne_percent (code : Nat) (above : 0x25 < code) : Char.ofNat code ≠ '%' := by
  by_cases valid : code.isValidChar
  · intro same
    have number : (Char.ofNatAux code valid).toNat = 0x25 := by
      rw [Char.ofNat, dif_pos valid] at same
      rw [same]
      decide
    have same : code = 0x25 := number
    omega
  · rw [Char.ofNat, dif_neg valid]
    decide

theorem toUpper_ne_percent (c : Char) (ascii : c.toNat < 128) (other : c ≠ '%') :
    c.toUpper ≠ '%' := by
  have each : ∀ n < 128, Char.ofNat n ≠ '%' → (Char.ofNat n).toUpper ≠ '%' := by decide
  have capital := each c.toNat ascii
  rw [Char.ofNat_toNat] at capital
  exact capital other

theorem upper_free (text : String) (free : '%' ∉ text.toList) : '%' ∉ (upper text).toList := by
  rw [upper, String.toList_ofList, upperChars, List.mem_flatMap]
  rintro ⟨c, member, isPercent⟩
  have other : c ≠ '%' := by
    rintro rfl
    exact free member
  have ranges : ∀ range ∈ upperRanges, range.aboveMarks = true := by
    decide +kernel
  have expansions : ∀ entry ∈ upperExpansions, ∀ code ∈ entry.2, 0x25 < code := by
    decide +kernel
  unfold upperChar at isPercent
  split at isPercent
  · rename_i ascii
    exact toUpper_ne_percent c ascii other (List.mem_singleton.mp isPercent).symm
  · rename_i beyond
    split at isPercent
    · rename_i codes found
      obtain ⟨code, isCode, same⟩ := List.mem_map.mp isPercent
      have entry : (c.toNat, codes) ∈ upperExpansions := by
        obtain ⟨before, after, split, _⟩ := List.lookup_eq_some_iff.mp found
        simp [split]
      exact ofNat_ne_percent code (expansions _ entry code isCode) same
    · have above := mapCode_above upperRanges ranges c.toNat (by omega)
      exact ofNat_ne_percent _ above (List.mem_singleton.mp isPercent).symm

end ClickHouse.Text
