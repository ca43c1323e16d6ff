import ClickHouse.Exchange
import ClickHouse.Proofs.Json.RoundTrip
import ClickHouse.Proofs.Outcome
import Mathlib.Data.List.Forall2

/-!
What an exchange with a server comes to. An answer has rows exactly when it arrived with success and
each of its lines that is not blank is a JSON object (`Delivery.answer_eq_ok_iff`), so rows that a
server writes one a line come back as they are (`Delivery.answer_rows`).
-/

namespace ClickHouse

theorem mapM_eq_ok_iff {ε α β : Type} {convert : α → Except ε β} {items : List α}
    {values : List β} : items.mapM convert = .ok values ↔
      List.Forall₂ (fun item value => convert item = .ok value) items values := by
  induction items generalizing values with
  | nil => simp [List.mapM_nil, pure, Except.pure, eq_comm]
  | cons item rest ih =>
      rw [List.mapM_cons, List.forall₂_cons_left_iff]
      constructor
      · intro done
        obtain ⟨value, converted, done⟩ := bind_eq_ok done
        obtain ⟨others, convertedOthers, done⟩ := bind_eq_ok done
        exact ⟨value, others, converted, ih.mp convertedOthers, (Except.ok.inj done).symm⟩
      · rintro ⟨value, others, converted, convertedOthers, rfl⟩
        rw [converted, ih.mpr convertedOthers]
        rfl

namespace Delivery

theorem splitLines_ne_nil (text : List Char) : splitLines text ≠ [] := by
  cases text with
  | nil => simp [splitLines]
  | cons c rest =>
      rw [splitLines]
      split
      · simp
      · split <;> simp

theorem splitLines_eq_splitOn (text : List Char) : splitLines text = text.splitOn '\n' := by
  induction text with
  | nil => rfl
  | cons c rest ih =>
      rw [splitLines, List.splitOn, List.splitOnP_cons_eq_if_modifyHead, ← List.splitOn, ← ih]
      by_cases ends : c = '\n'
      · simp [ends]
      · obtain ⟨line, lines, split⟩ := List.exists_cons_of_ne_nil (splitLines_ne_nil rest)
        simp [ends, split]

theorem splitLines_line (line rest : List Char) (whole : '\n' ∉ line) :
    splitLines (line ++ '\n' :: rest) = line :: splitLines rest := by
  induction line with
  | nil => rfl
  | cons c others ih =>
      rw [List.mem_cons, not_or] at whole
      rw [List.cons_append, splitLines, if_neg (Ne.symm whole.1), ih whole.2]

theorem rowOf_eq_ok_iff (line : List Char) (row : Row) :
    rowOf line = .ok row ↔ Json.read? (String.ofList line) = some (.object row) := by
  rw [rowOf]
  cases Json.read? (String.ofList line) with
  | none => simp
  | some value => cases value <;> simp

def lines (body : String) : List (List Char) :=
  (body.toList.splitOn '\n').filter fun line => !line.all Text.isBlank

theorem rowsOf_eq_ok_iff (body : String) (rows : List Row) :
    rowsOf body = .ok rows ↔
      List.Forall₂ (fun line row => Json.read? (String.ofList line) = some (.object row))
        (lines body) rows := by
  rw [rowsOf, mapM_eq_ok_iff, splitLines_eq_splitOn]
  simp only [rowOf_eq_ok_iff, lines]

/-- An answer has rows exactly when it arrived with success and every line that is not blank is an
object; the rows are these objects in order. -/
theorem answer_eq_ok_iff (delivery : Delivery) (rows : List Row) :
    delivery.answer = .ok rows ↔
      ∃ status body, delivery = .answered status body ∧ 200 ≤ status ∧ status < 300 ∧
        List.Forall₂ (fun line row => Json.read? (String.ofList line) = some (.object row))
          (lines body) rows := by
  cases delivery with
  | unsent reason => simp [answer]
  | brokenOff reason => simp [answer]
  | answered status body =>
      rw [answer]
      split
      · rename_i success
        simp only [Status.isSuccess, Bool.and_eq_true, decide_eq_true_eq] at success
        rw [rowsOf_eq_ok_iff]
        simp [success]
      · rename_i failure
        simp only [Status.isSuccess, Bool.and_eq_true, decide_eq_true_eq, not_and] at failure
        apply iff_of_false (by simp)
        rintro ⟨other, text, same, atLeast, below, _⟩
        obtain ⟨rfl, rfl⟩ := answered.inj same
        exact failure atLeast below

def textOf : List Row → List Char
  | [] => []
  | row :: rest => (Json.object row).render.toList ++ '\n' :: textOf rest

end Delivery

namespace Json

theorem hexDigit_ne_newline (value : Nat) : hexDigit value ≠ '\n' := by
  have digits : ∀ digit < 16, Nat.digitChar digit ≠ '\n' := by decide
  exact digits _ (Nat.mod_lt _ (by decide))

theorem newline_notMem_escapeChar (c : Char) : '\n' ∉ escapeChar c := by
  unfold escapeChar
  iterate 7
    split
    · decide
  split
  · simp [Ne.symm (hexDigit_ne_newline _)]
  · rename_i notNewline _ _ _
    simpa using Ne.symm notNewline

theorem newline_notMem_quoted (text : String) : '\n' ∉ (quoted text).toList := by
  rw [quoted, String.toList_ofList]
  simp [newline_notMem_escapeChar]

theorem newline_notMem_number (number : Number) (exact : number.IsExact) :
    '\n' ∉ number.render.toList := by
  cases number with
  | float value => exact exact.elim
  | integer value =>
      have digits (natural : Nat) : '\n' ∉ natural.repr.toList := by
        intro member
        rw [Nat.toList_repr] at member
        exact absurd (Nat.isDigit_of_mem_toDigits (by decide) (by decide) member) (by decide)
      change '\n' ∉ value.repr.toList
      rw [Int.repr_eq_if]
      split
      · exact digits _
      · rw [String.toList_append, List.mem_append, not_or]
        exact ⟨by decide, digits _⟩

theorem newline_notMem_joinWith (texts : List String) (each : ∀ text ∈ texts, '\n' ∉ text.toList) :
    '\n' ∉ (Text.joinWith "," texts).toList := by
  induction texts with
  | nil => simp [Text.joinWith]
  | cons first rest ih =>
      obtain ⟨notFirst, later⟩ := List.forall_mem_cons.mp each
      cases rest with
      | nil => simpa [Text.joinWith] using notFirst
      | cons second others =>
          rw [toList_joinWith_cons, List.mem_append, List.mem_cons]
          simp [notFirst, ih later]

theorem renderItems_eq_map (items : List Json) : renderItems items = items.map render := by
  induction items with
  | nil => rfl
  | cons item rest ih => rw [renderItems, ih, List.map_cons]

theorem renderMembers_eq_map (members : List (String × Json)) : renderMembers members =
    members.map fun member => quoted member.1 ++ ":" ++ member.2.render := by
  induction members with
  | nil => rfl
  | cons member rest ih =>
      obtain ⟨name, value⟩ := member
      rw [renderMembers, ih, List.map_cons]

theorem newline_notMem_array (items : List Json)
    (each : ∀ item ∈ items, '\n' ∉ item.render.toList) : '\n' ∉ (array items).render.toList := by
  have inside : '\n' ∉ (Text.joinWith "," (renderItems items)).toList := by
    apply newline_notMem_joinWith
    intro text member
    rw [renderItems_eq_map] at member
    obtain ⟨item, isItem, rfl⟩ := List.mem_map.mp member
    exact each item isItem
  simp [render, inside]

theorem newline_notMem_object (members : List (String × Json))
    (each : ∀ member ∈ members, '\n' ∉ member.2.render.toList) :
    '\n' ∉ (object members).render.toList := by
  have inside : '\n' ∉ (Text.joinWith "," (renderMembers members)).toList := by
    apply newline_notMem_joinWith
    intro text isText
    rw [renderMembers_eq_map] at isText
    obtain ⟨member, isMember, rfl⟩ := List.mem_map.mp isText
    rw [toList_member, List.mem_append, List.mem_cons]
    simp [newline_notMem_quoted, each member isMember]
  simp [render, inside]

theorem Fits.newline_notMem {depth : Nat} {value : Json} (fits : Fits depth value) :
    '\n' ∉ value.render.toList := by
  induction fits with
  | null => decide
  | bool _ value => cases value <;> decide
  | number _ value exact => exact newline_notMem_number value exact
  | string _ text => exact newline_notMem_quoted text
  | array _ ih => exact newline_notMem_array _ ih
  | object _ _ ih => exact newline_notMem_object _ ih

end Json

namespace Delivery

theorem lines_textOf (rows : List Row) (fits : ∀ row ∈ rows, Json.Fits 127 (.object row)) :
    lines (String.ofList (textOf rows)) = rows.map fun row => (Json.object row).render.toList := by
  rw [lines, String.toList_ofList, ← splitLines_eq_splitOn]
  induction rows with
  | nil => rfl
  | cons row rest ih =>
      obtain ⟨first, later⟩ := List.forall_mem_cons.mp fits
      have counts : (Json.object row).render.toList.all Text.isBlank = false := by
        rw [Json.render, String.toList_append, String.toList_append]
        rfl
      rw [textOf, splitLines_line _ _ first.newline_notMem, List.filter_cons, counts, ih later]
      rfl

/-- Rows that a server writes one a line, after any status of success, come back as they are. -/
theorem answer_rows (status : Nat) (rows : List Row) (success : Status.isSuccess status = true)
    (fits : ∀ row ∈ rows, Json.Fits 127 (.object row)) :
    (answered status (String.ofList (textOf rows))).answer = .ok rows := by
  rw [answer, if_pos success, rowsOf_eq_ok_iff, lines_textOf rows fits, List.forall₂_map_left_iff,
    List.forall₂_same]
  intro row member
  rw [String.ofList_toList]
  exact Json.read?_render (fits row member)

end Delivery

end ClickHouse
