import ClickHouse.Proofs.Lexeme.LongestMatch

/-!
Where the lexemes of a text stand. Their spans are slices of the text between characters, in order
and apart, and only blanks are outside of them (`Covers`); a text that ends with one of its lexemes
has the lexemes up to there (`scan_lossless`).
-/

namespace ClickHouse

namespace Lexeme

/-- Whether a token stands between two byte offsets of a text. Positions of a text are bounds of
its characters. -/
def IsSlice (text token : String) (span : Nat × Nat) : Prop :=
  ∃ first last : text.Pos, first.offset.byteIdx = span.1 ∧ last.offset.byteIdx = span.2 ∧
    first < last ∧ text.extract first last = token

structure Covers (text : String) (lexemes : List Lexeme) : Prop where
  slices : List.Forall₂ (fun lexeme span => IsSlice text lexeme.spelling span) lexemes
    (spans lexemes)
  apart : (spans lexemes).Pairwise fun left right => left.2 ≤ right.1
  blank : ∀ (place : text.Pos) (inside : place ≠ text.endPos),
    (∀ span ∈ spans lexemes, place.offset.byteIdx < span.1 ∨ span.2 ≤ place.offset.byteIdx) →
    place.get inside ∈ [' ', '\t', '\r', '\n', '\x0c']

theorem byteCount_append (left right : List Char) :
    byteCount (left ++ right) = byteCount left + byteCount right := by
  induction left with
  | nil => simp [byteCount]
  | cons c rest ih => rw [List.cons_append, byteCount, byteCount, ih, Nat.add_assoc]

theorem byteCount_pos {text : List Char} (nonempty : text ≠ []) : 0 < byteCount text := by
  cases text with
  | nil => contradiction
  | cons c rest => exact Nat.add_pos_left c.utf8Size_pos _

theorem utf8ByteSize_ofList (text : List Char) :
    (String.ofList text).utf8ByteSize = byteCount text := by
  induction text with
  | nil => rfl
  | cons c rest ih =>
      rw [String.ofList_cons, String.utf8ByteSize_append, String.utf8ByteSize_singleton, ih,
        byteCount]

section

variable {text : String} {before token after : List Char}

theorem exists_place (source : text.toList = before ++ after) :
    ∃ place : text.Pos, place.Splits (String.ofList before) (String.ofList after) := by
  have joined : text = String.ofList before ++ String.ofList after := by
    rw [← String.ofList_append, ← source, String.ofList_toList]
  exact ⟨.ofEqAppend joined, String.Pos.splits_ofEqAppend joined⟩

theorem byteIdx_of_splits {place : text.Pos} {following : String}
    (splits : place.Splits (String.ofList before) following) :
    place.offset.byteIdx = byteCount before := by
  rw [splits.offset_eq_rawEndPos, String.byteIdx_rawEndPos, utf8ByteSize_ofList]

theorem extract_of_splits {opening part closing : String} {first last : text.Pos}
    (starts : first.Splits opening (part ++ closing))
    (ends : last.Splits (opening ++ part) closing) : text.extract first last = part := by
  have bytes : text.toByteArray =
      opening.toByteArray ++ (part.toByteArray ++ closing.toByteArray) := by
    rw [starts.eq_append, String.toByteArray_append, String.toByteArray_append]
  have firstByte : first.offset.byteIdx = opening.toByteArray.size + 0 := by
    rw [starts.offset_eq_rawEndPos]
    rfl
  have lastByte : last.offset.byteIdx = opening.toByteArray.size + part.toByteArray.size := by
    rw [ends.offset_eq_rawEndPos, String.byteIdx_rawEndPos, String.utf8ByteSize_append]
    rfl
  rw [← String.toByteArray_inj, String.toByteArray_extract, bytes, firstByte, lastByte,
    ByteArray.extract_append_size_add, ByteArray.extract_append_eq_left rfl]

theorem isSlice_of_append (source : text.toList = before ++ (token ++ after))
    (nonempty : token ≠ []) :
    IsSlice text (String.ofList token)
      (byteCount before, byteCount before + byteCount token) := by
  obtain ⟨first, starts⟩ := exists_place source
  obtain ⟨last, ends⟩ := exists_place (source.trans (List.append_assoc _ _ _).symm)
  have firstByte := byteIdx_of_splits starts
  have lastByte := byteIdx_of_splits ends
  rw [byteCount_append] at lastByte
  refine ⟨first, last, firstByte, lastByte, ?_, ?_⟩
  · have positive := byteCount_pos nonempty
    rw [String.Pos.lt_iff, String.Pos.Raw.lt_iff]
    omega
  · rw [String.ofList_append] at starts ends
    exact extract_of_splits starts ends

theorem exists_before (place : text.Pos) (inside : place ≠ text.endPos) :
    ∃ before after, text.toList = before ++ place.get inside :: after ∧
      place.offset.byteIdx = byteCount before := by
  have splits := place.splits_next_right inside
  have joined := congrArg String.toList splits.eq_append
  rw [String.toList_append, String.toList_append, String.toList_singleton] at joined
  refine ⟨(text.sliceTo place).copy.toList, (text.sliceFrom (place.next inside)).copy.toList,
    joined, ?_⟩
  rw [← utf8ByteSize_ofList, String.ofList_toList, splits.offset_eq_rawEndPos,
    String.byteIdx_rawEndPos]

end

section

variable (lexemes : List Lexeme)

theorem forall₂_isSlice {text : String} {before after : List Char}
    (source : text.toList = before ++ (sourceOf lexemes ++ after))
    (nonempty : ∀ lexeme ∈ lexemes, lexeme.text ≠ []) :
    List.Forall₂ (fun lexeme span => IsSlice text lexeme.spelling span) lexemes
      (spansFrom (byteCount before) lexemes) := by
  induction lexemes generalizing before with
  | nil => exact .nil
  | cons lexeme rest ih =>
      obtain ⟨nonemptyFirst, nonemptyRest⟩ := List.forall_mem_cons.mp nonempty
      rw [sourceOf_cons, Lexeme.source] at source
      have first : IsSlice text lexeme.spelling (byteCount (before ++ lexeme.gap),
          byteCount (before ++ lexeme.gap) + byteCount lexeme.text) :=
        isSlice_of_append (by simpa using source) nonemptyFirst
      have others := @ih (before ++ lexeme.gap ++ lexeme.text) (by simpa using source) nonemptyRest
      rw [byteCount_append] at first
      rw [byteCount_append, byteCount_append] at others
      exact .cons first others

theorem le_of_mem_spansFrom {start : Nat} {span : Nat × Nat}
    (member : span ∈ spansFrom start lexemes) : start ≤ span.1 := by
  induction lexemes generalizing start with
  | nil => simp [spansFrom] at member
  | cons lexeme rest ih =>
      rcases List.mem_cons.mp member with rfl | later
      · exact Nat.le_add_right _ _
      · have := ih later
        omega

theorem pairwise_spansFrom (start : Nat) :
    (spansFrom start lexemes).Pairwise fun left right => left.2 ≤ right.1 := by
  induction lexemes generalizing start with
  | nil => exact .nil
  | cons lexeme rest ih => exact .cons (fun span later => le_of_mem_spansFrom rest later) (ih _)

theorem spansFrom_take (start count : Nat) :
    spansFrom start (lexemes.take count) = (spansFrom start lexemes).take count := by
  induction lexemes generalizing start count with
  | nil => simp [spansFrom]
  | cons lexeme rest ih =>
      cases count with
      | zero => rfl
      | succ count => simp [spansFrom, ih]

theorem stop_of_getElem? {start index : Nat} {span : Nat × Nat}
    (found : (spansFrom start lexemes)[index]? = some span) :
    span.2 = start + byteCount (sourceOf (lexemes.take (index + 1))) := by
  induction lexemes generalizing start index with
  | nil => simp [spansFrom] at found
  | cons lexeme rest ih =>
      rw [List.take_succ_cons, sourceOf_cons, Lexeme.source, byteCount_append, byteCount_append]
      cases index with
      | zero =>
          obtain rfl : _ = span := by simpa [spansFrom] using found
          simp [byteCount, Nat.add_assoc]
      | succ index =>
          have stop := @ih (start + byteCount lexeme.gap + byteCount lexeme.text) index
            (by simpa [spansFrom] using found)
          omega

theorem mem_or_behind {left right before after : List Char} {c : Char}
    (same : left ++ right = before ++ c :: after) :
    (c ∈ left ∧ byteCount before < byteCount left) ∨
      ∃ behind, before = left ++ behind ∧ right = behind ++ c :: after := by
  rcases List.append_eq_append_iff.mp same with ⟨behind, rfl, rest⟩ | ⟨ahead, rfl, rest⟩
  · exact Or.inr ⟨behind, rfl, rest⟩
  · cases ahead with
    | nil => exact Or.inr ⟨[], by simp, rest.symm⟩
    | cons d more =>
        obtain ⟨rfl, -⟩ := List.cons.inj rest
        rw [byteCount_append]
        exact Or.inl ⟨by simp, Nat.lt_add_of_pos_right (byteCount_pos (List.cons_ne_nil _ _))⟩

theorem isGap_of_outside {start : Nat} {before after trailing : List Char} {c : Char}
    (source : sourceOf lexemes ++ trailing = before ++ c :: after)
    (blank : ∀ lexeme ∈ lexemes, lexeme.gap.all isGap = true)
    (blankTrailing : trailing.all isGap = true)
    (outside : ∀ span ∈ spansFrom start lexemes,
      start + byteCount before < span.1 ∨ span.2 ≤ start + byteCount before) :
    isGap c = true := by
  induction lexemes generalizing start before with
  | nil =>
      rw [sourceOf_nil, List.nil_append] at source
      exact List.all_eq_true.mp blankTrailing c (by simp [source])
  | cons lexeme rest ih =>
      obtain ⟨blankFirst, blankRest⟩ := List.forall_mem_cons.mp blank
      obtain ⟨outsideFirst, outsideRest⟩ := List.forall_mem_cons.mp outside
      rw [sourceOf_cons, Lexeme.source, List.append_assoc, List.append_assoc] at source
      rcases mem_or_behind source with ⟨inGap, -⟩ | ⟨behind, rfl, afterGap⟩
      · exact List.all_eq_true.mp blankFirst c inGap
      rcases mem_or_behind afterGap with ⟨-, inText⟩ | ⟨further, rfl, afterText⟩
      · rw [byteCount_append] at outsideFirst
        omega
      · refine @ih (start + byteCount lexeme.gap + byteCount lexeme.text) further afterText blankRest
          fun span later => ?_
        have beside := outsideRest span later
        rw [byteCount_append, byteCount_append] at beside
        omega

end

section

variable {text : String} {lexemes : List Lexeme} {trailing : List Char}

theorem covers_of_scan (scanned : scan text = .ok ⟨lexemes, trailing⟩) : Covers text lexemes := by
  obtain ⟨source, legible, blankTrailing⟩ := (scan?_eq_some_iff _ _).mp (scan?_of_scan scanned)
  rw [Scan.source] at source
  refine ⟨?_, pairwise_spansFrom lexemes 0, fun place inside outside => ?_⟩
  · have nonempty : ∀ lexeme ∈ lexemes, lexeme.text ≠ [] := by
      intro lexeme member empty
      have spelled := legible.spelled lexeme member
      rw [empty] at spelled
      contradiction
    exact @forall₂_isSlice lexemes text [] trailing source.symm nonempty
  · obtain ⟨before, after, split, offset⟩ := exists_before place inside
    rw [offset] at outside
    have blank : isGap (place.get inside) = true :=
      @isGap_of_outside lexemes 0 _ _ _ _ (source.trans split)
        (fun lexeme member => (legible.each lexeme member).1) blankTrailing
        (by simpa [spans] using outside)
    rcases isGap_cases _ blank with same | same | same | same | same <;> simp [same]

theorem scan_cut (scanned : scan text = .ok ⟨lexemes, trailing⟩) {index : Nat} {span : Nat × Nat}
    (found : (spans lexemes)[index]? = some span) :
    ∃ cut : text.Pos, cut.offset.byteIdx = span.2 ∧
      scan (text.sliceTo cut).copy = .ok ⟨lexemes.take (index + 1), []⟩ := by
  obtain ⟨source, legible, -⟩ := (scan?_eq_some_iff _ _).mp (scan?_of_scan scanned)
  rw [Scan.source] at source
  have split : text.toList = sourceOf (lexemes.take (index + 1)) ++
      (sourceOf (lexemes.drop (index + 1)) ++ trailing) := by
    rw [← List.append_assoc, ← sourceOf_append, List.take_append_drop, source]
  obtain ⟨cut, splits⟩ := exists_place split
  refine ⟨cut, ?_, ?_⟩
  · rw [byteIdx_of_splits splits, stop_of_getElem? lexemes found, Nat.zero_add]
  · apply scan_of_scan?
    rw [splits.copy_sliceTo_eq, String.toList_ofList]
    rw [← List.take_append_drop (index + 1) lexemes] at legible
    exact scan?_initial legible

end

/-- Nothing of a text is lost. Reading it by longest matches has one outcome, the scanner's. Its
lexemes are slices of the text with blanks around them, and cutting the text behind one of them
leaves the ones before the cut. Where reading fails, a quote that no rule completes stays open. -/
theorem scan_lossless (text : String) :
    (∀ outcome, Munches text outcome ↔ scan text = outcome) ∧
      (∀ result, scan text = .ok result → Covers text result.lexemes ∧
        ∀ index span, (spans result.lexemes)[index]? = some span →
          spans (result.lexemes.take (index + 1)) = (spans result.lexemes).take (index + 1) ∧
            ∃ cut : text.Pos, cut.offset.byteIdx = span.2 ∧
              scan (text.sliceTo cut).copy = .ok ⟨result.lexemes.take (index + 1), []⟩) ∧
      ∀ cause, scan text = .error cause → cause = .unterminated text ∧
        ∃ lexemes gap mark rest, Reaches text.toList ⟨lexemes, gap, mark :: rest⟩ ∧
          mark ∈ ['\x27', '\x60', '\x22'] ∧ ∀ token, token <+: mark :: rest →
            token ∉ Kind.literal.pattern ∧ token ∉ Kind.quoted.pattern := by
  refine ⟨munches_iff text, ?_, ?_⟩
  · rintro ⟨lexemes, trailing⟩ scanned
    refine ⟨covers_of_scan scanned, fun index span found => ⟨?_, scan_cut scanned found⟩⟩
    exact spansFrom_take lexemes 0 (index + 1)
  · intro cause failed
    obtain ⟨same, lexemes, gap, mark, rest, reached, quotes, unmatched⟩ := openQuote_of_error failed
    refine ⟨same, lexemes, gap, mark, rest, reached, mem_of_quoteKind? quotes, ?_⟩
    exact fun token starts =>
      ⟨unmatched (.lexeme .literal) token starts, unmatched (.lexeme .quoted) token starts⟩

/-- A cut behind a literal of four bytes, and an escaped mark that leaves its quote open. -/
theorem scan_lossless_quotes :
    (∃ cut : "f('é' = 1)".Pos, cut.offset.byteIdx = 6 ∧
      scan ("f('é' = 1)".sliceTo cut).copy =
        .ok ⟨[⟨[], .word, ['f']⟩, ⟨[], .openRound, ['(']⟩, ⟨[], .literal, "'é'".toList⟩], []⟩) ∧
    ∃ lexemes gap mark rest, Reaches "a '\\'".toList ⟨lexemes, gap, mark :: rest⟩ ∧
      mark ∈ ['\x27', '\x60', '\x22'] ∧ ∀ token, token <+: mark :: rest →
        token ∉ Kind.literal.pattern ∧ token ∉ Kind.quoted.pattern := by
  constructor
  · obtain ⟨-, cuts⟩ := (scan_lossless "f('é' = 1)").2.1 _ rfl
    exact (cuts 2 (2, 6) rfl).2
  · exact ((scan_lossless "a '\\'").2.2 _ rfl).2

end Lexeme

end ClickHouse
