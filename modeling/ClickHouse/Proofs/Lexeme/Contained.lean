import ClickHouse.Lexeme.Group
import ClickHouse.Proofs.Lexeme.Legible
import ClickHouse.Proofs.Text.Trim
import ClickHouse.Text.Join

/-!
Lexemes that keep to themselves: every group is closed, and outside the groups no lexeme is of a
barred kind. Between brackets such lexemes make one group, and between commas one part.
-/

namespace ClickHouse

namespace Lexeme

theorem scan?_of_scan {text : String} {scan : Scan} (scanned : Lexeme.scan text = .ok scan) :
    scan? text.toList = some scan := by
  unfold Lexeme.scan at scanned
  split at scanned
  · rename_i found
    rw [found, Except.ok.inj scanned]
  · contradiction

theorem scan_of_scan? {text : String} {scan : Scan} (scanned : scan? text.toList = some scan) :
    Lexeme.scan text = .ok scan := by
  rw [Lexeme.scan, scanned]

/-- The number of open groups after a lexeme. A stray closing bracket closes none. -/
def Kind.depthAfter (kind : Kind) (depth : Nat) : Nat :=
  if kind.opens then depth + 1
  else if kind.closes then depth - 1
  else depth

/-- Whether all groups are closed and none of the barred kinds stands outside them, `depth`
groups being open at the start. -/
def Contained (barred : Kind → Bool) : Nat → List Lexeme → Bool
  | depth, [] => depth = 0
  | depth, lexeme :: rest =>
    (0 < depth || !barred lexeme.kind) && Contained barred (lexeme.kind.depthAfter depth) rest

def Kind.endsPart (kind : Kind) : Bool :=
  kind.closes || kind = .comma

theorem contained_append (barred : Kind → Bool) (depth : Nat) (left right : List Lexeme)
    (leftContained : Contained barred depth left = true)
    (rightContained : Contained barred 0 right = true) :
    Contained barred depth (left ++ right) = true := by
  induction left generalizing depth with
  | nil =>
      obtain rfl : depth = 0 := by simpa [Contained] using leftContained
      exact rightContained
  | cons lexeme rest ih =>
      simp only [Contained, List.cons_append, Bool.and_eq_true] at leftContained ⊢
      exact ⟨leftContained.1, ih _ leftContained.2⟩

theorem Contained.weaken {barred fewer : Kind → Bool}
    (less : ∀ kind, fewer kind = true → barred kind = true) (depth : Nat) (lexemes : List Lexeme)
    (contained : Contained barred depth lexemes = true) :
    Contained fewer depth lexemes = true := by
  induction lexemes generalizing depth with
  | nil => exact contained
  | cons lexeme rest ih =>
      simp only [Contained, Bool.and_eq_true, Bool.or_eq_true, decide_eq_true_eq,
        Bool.not_eq_true'] at contained ⊢
      refine ⟨contained.1.imp_right fun free => ?_, ih _ contained.2⟩
      cases barredKind : fewer lexeme.kind with
      | false => rfl
      | true => exact absurd (less _ barredKind) (by simp [free])

theorem not_opens_of_closes (kind : Kind) (closes : kind.closes = true) : kind.opens = false := by
  cases kind <;> first | rfl | contradiction

theorem Kind.depthAfter_succ (kind : Kind) (depth : Nat)
    (free : 0 < depth ∨ kind.closes = false) :
    kind.depthAfter (depth + 1) = kind.depthAfter depth + 1 := by
  unfold depthAfter
  split
  · rfl
  split
  · rename_i closed
    have inner : 0 < depth := free.resolve_right (by simp [closed])
    omega
  · rfl

theorem contained_deeper (barred : Kind → Bool) (depth : Nat) (closing : Lexeme)
    (inside : List Lexeme) (closes : closing.kind.closes = true)
    (contained : Contained Kind.closes depth inside = true) :
    Contained barred (depth + 1) (inside ++ [closing]) = true := by
  induction inside generalizing depth with
  | nil =>
      obtain rfl : depth = 0 := by simpa [Contained] using contained
      simp [Contained, Kind.depthAfter, closes, not_opens_of_closes _ closes]
  | cons lexeme rest ih =>
      simp only [Contained, Bool.and_eq_true, Bool.or_eq_true, decide_eq_true_eq,
        Bool.not_eq_true'] at contained
      simp only [List.cons_append, Contained, Kind.depthAfter_succ _ _ contained.1]
      simpa using ih _ contained.2

theorem contained_group (barred : Kind → Bool) (opening closing : Lexeme) (inside : List Lexeme)
    (opens : opening.kind.opens = true) (closes : closing.kind.closes = true)
    (free : barred opening.kind = false)
    (contained : Contained Kind.closes 0 inside = true) :
    Contained barred 0 (opening :: inside ++ [closing]) = true := by
  simp only [List.cons_append, Contained, free, Kind.depthAfter, opens]
  simpa using contained_deeper barred 0 closing inside closes contained

theorem group?_closing (lexeme : Lexeme) (rest : List Lexeme)
    (closes : lexeme.kind.closes = true) :
    group? 0 (lexeme :: rest) = some ⟨[], lexeme, rest⟩ := by
  simp [group?, closes, not_opens_of_closes _ closes]

theorem group?_inner (depth : Nat) (lexeme : Lexeme) (rest : List Lexeme)
    (free : 0 < depth ∨ lexeme.kind.closes = false) :
    group? depth (lexeme :: rest) =
      (group? (lexeme.kind.depthAfter depth) rest).map fun group =>
        { group with inside := lexeme :: group.inside } := by
  simp only [group?]
  unfold Kind.depthAfter
  split
  · cases group? (depth + 1) rest <;> rfl
  split
  · rename_i closes
    cases depth with
    | zero => simp [closes] at free
    | succ depth =>
        rw [Nat.add_sub_cancel]
        dsimp only
        cases group? depth rest <;> rfl
  · cases group? depth rest <;> rfl

theorem group?_cases (depth : Nat) (lexeme : Lexeme) (rest : List Lexeme) (group : Group)
    (found : group? depth (lexeme :: rest) = some group) :
    (group = ⟨[], lexeme, rest⟩ ∧ depth = 0 ∧ lexeme.kind.closes = true) ∨
    ∃ inner, group? (lexeme.kind.depthAfter depth) rest = some inner ∧
      (0 < depth ∨ lexeme.kind.closes = false) ∧
      group = { inner with inside := lexeme :: inner.inside } := by
  by_cases free : 0 < depth ∨ lexeme.kind.closes = false
  · rw [group?_inner depth lexeme rest free] at found
    obtain ⟨inner, innerFound, rfl⟩ := Option.map_eq_some_iff.mp found
    exact .inr ⟨inner, innerFound, free, rfl⟩
  · rw [not_or, Bool.not_eq_false] at free
    obtain ⟨outermost, closes⟩ := free
    obtain rfl : depth = 0 := by omega
    rw [group?_closing lexeme rest closes] at found
    exact .inl ⟨(Option.some.inj found).symm, rfl, closes⟩

theorem group?_eq (depth : Nat) (lexemes : List Lexeme) (group : Group)
    (found : group? depth lexemes = some group) :
    lexemes = group.inside ++ group.close :: group.after := by
  induction lexemes generalizing depth group with
  | nil => simp [group?] at found
  | cons lexeme rest ih =>
      rcases group?_cases depth lexeme rest group found with
        ⟨rfl, _, _⟩ | ⟨inner, innerFound, _, rfl⟩
      · rfl
      · rw [ih _ inner innerFound]
        rfl

theorem group?_inside (depth : Nat) (lexemes : List Lexeme) (group : Group)
    (found : group? depth lexemes = some group) :
    Contained Kind.closes depth group.inside = true := by
  induction lexemes generalizing depth group with
  | nil => simp [group?] at found
  | cons lexeme rest ih =>
      rcases group?_cases depth lexeme rest group found with
        ⟨rfl, rfl, _⟩ | ⟨inner, innerFound, free, rfl⟩
      · rfl
      · simpa [Contained, ih _ inner innerFound] using free

theorem group?_close (depth : Nat) (lexemes : List Lexeme) (group : Group)
    (found : group? depth lexemes = some group) : group.close.kind.closes = true := by
  induction lexemes generalizing depth group with
  | nil => simp [group?] at found
  | cons lexeme rest ih =>
      rcases group?_cases depth lexeme rest group found with
        ⟨rfl, _, closes⟩ | ⟨inner, innerFound, _, rfl⟩
      · exact closes
      · exact ih _ inner innerFound

theorem group?_contained (depth : Nat) (inside after : List Lexeme) (close : Lexeme)
    (closes : close.kind.closes = true) (contained : Contained Kind.closes depth inside = true) :
    group? depth (inside ++ close :: after) = some ⟨inside, close, after⟩ := by
  induction inside generalizing depth with
  | nil =>
      obtain rfl : depth = 0 := by simpa [Contained] using contained
      exact group?_closing close after closes
  | cons lexeme rest ih =>
      simp only [Contained, Bool.and_eq_true, Bool.or_eq_true, decide_eq_true_eq,
        Bool.not_eq_true'] at contained
      rw [List.cons_append, group?_inner _ _ _ contained.1, ih _ contained.2]
      rfl

theorem afterOpenRound?_append (before rest : List Lexeme) (opening : Lexeme)
    (free : ∀ lexeme ∈ before, lexeme.kind ≠ .openRound) (opens : opening.kind = .openRound) :
    afterOpenRound? (before ++ opening :: rest) = some rest := by
  induction before with
  | nil => simp [afterOpenRound?, opens]
  | cons lexeme others ih =>
      obtain ⟨first, following⟩ := List.forall_mem_cons.mp free
      rw [List.cons_append, afterOpenRound?, if_neg first, ih following]

def IsBalanced (text : List Char) : Prop :=
  ∃ scan, scan? text = some scan ∧ Contained Kind.closes 0 scan.lexemes = true

theorem contained_indent (barred : Kind → Bool) (depth : Nat) (gap : List Char) (scan : Scan) :
    Contained barred depth (scan.indent gap).lexemes = Contained barred depth scan.lexemes := by
  obtain ⟨lexemes, trailing⟩ := scan
  cases lexemes <;> rfl

theorem IsBalanced.gap {text : List Char} (balanced : IsBalanced text) (gap : List Char)
    (blank : gap.all isGap = true) : IsBalanced (gap ++ text) := by
  obtain ⟨scan, scanned, contained⟩ := balanced
  refine ⟨_, scan?_indent gap text scan blank scanned, ?_⟩
  rw [contained_indent]
  exact contained

theorem IsBalanced.append {left right : List Char} (balanced : IsBalanced left)
    (following : IsBalanced right) (separates : Separates right) : IsBalanced (left ++ right) := by
  obtain ⟨scan, scanned, contained⟩ := balanced
  obtain ⟨next, scannedNext, containedNext⟩ := following
  refine ⟨_, scan?_append_indent scanned separates scannedNext, ?_⟩
  rw [← contained_indent _ _ scan.trailing] at containedNext
  exact contained_append _ 0 _ _ contained containedNext

theorem partsFrom_ne_nil (trailing : List Char) (depth : Nat) (lexemes : List Lexeme) :
    partsFrom trailing depth lexemes ≠ [] := by
  have prepended (text : List Char) (parts : List (List Char)) : prependToFirst text parts ≠ [] := by
    cases parts <;> simp [prependToFirst]
  cases lexemes with
  | nil => simp [partsFrom]
  | cons lexeme rest =>
      rw [partsFrom]
      split
      · simp
      split
      · exact prepended _ _
      split <;> exact prepended _ _

theorem prependToFirst_append (left right : List Char) (parts : List (List Char)) :
    prependToFirst left (prependToFirst right parts) = prependToFirst (left ++ right) parts := by
  cases parts <;> simp [prependToFirst]

def Kind.isComma (kind : Kind) : Bool :=
  kind = .comma

theorem partsFrom_comma (trailing : List Char) (comma : Lexeme) (rest : List Lexeme)
    (isComma : comma.kind = .comma) :
    partsFrom trailing 0 (comma :: rest) = comma.gap :: partsFrom trailing 0 rest := by
  simp [partsFrom, isComma]

theorem partsFrom_inner (trailing : List Char) (depth : Nat) (lexeme : Lexeme)
    (rest : List Lexeme) (free : 0 < depth ∨ lexeme.kind.isComma = false) :
    partsFrom trailing depth (lexeme :: rest) =
      prependToFirst lexeme.source (partsFrom trailing (lexeme.kind.depthAfter depth) rest) := by
  have notSeparator : ¬(lexeme.kind = .comma ∧ depth = 0) := by
    rintro ⟨comma, rfl⟩
    simp [comma, Kind.isComma] at free
  rw [partsFrom, if_neg notSeparator]
  unfold Kind.depthAfter
  split
  · rfl
  split <;> rfl

theorem partsFrom_contained (trailing : List Char) (depth : Nat) (part rest : List Lexeme)
    (contained : Contained Kind.isComma depth part = true) :
    partsFrom trailing depth (part ++ rest) =
      prependToFirst (sourceOf part) (partsFrom trailing 0 rest) := by
  induction part generalizing depth with
  | nil =>
      obtain rfl : depth = 0 := by simpa [Contained] using contained
      cases parts : partsFrom trailing 0 rest with
      | nil => exact absurd parts (partsFrom_ne_nil _ _ _)
      | cons first others => simp [parts, prependToFirst]
  | cons lexeme others ih =>
      simp only [Contained, Bool.and_eq_true, Bool.or_eq_true, decide_eq_true_eq,
        Bool.not_eq_true'] at contained
      rw [List.cons_append, partsFrom_inner _ _ _ _ contained.1, ih _ contained.2,
        prependToFirst_append, sourceOf_cons]

/-- Whether none of the barred kinds stands outside the groups, and the number of groups that stay
open is allowed. -/
def Unbroken (barred : Kind → Bool) (allowed : Nat → Bool) : Nat → List Lexeme → Bool
  | depth, [] => allowed depth
  | depth, lexeme :: rest =>
    (0 < depth || !barred lexeme.kind) &&
      Unbroken barred allowed (lexeme.kind.depthAfter depth) rest

theorem contained_eq_unbroken (barred : Kind → Bool) (depth : Nat) (lexemes : List Lexeme) :
    Contained barred depth lexemes = Unbroken barred (fun depth => depth = 0) depth lexemes := by
  induction lexemes generalizing depth with
  | nil => rfl
  | cons lexeme rest ih => rw [Contained, Unbroken, ih]

theorem partsFrom_unbroken (trailing : List Char) (allowed : Nat → Bool) (depth : Nat)
    (lexemes : List Lexeme) (unbroken : Unbroken Kind.isComma allowed depth lexemes = true) :
    partsFrom trailing depth lexemes = [sourceOf lexemes ++ trailing] := by
  induction lexemes generalizing depth with
  | nil => rfl
  | cons lexeme rest ih =>
      simp only [Unbroken, Bool.and_eq_true, Bool.or_eq_true, decide_eq_true_eq,
        Bool.not_eq_true'] at unbroken
      rw [partsFrom_inner _ _ _ _ unbroken.1, ih _ unbroken.2]
      simp [prependToFirst]

theorem partsFrom_indent (gap : List Char) (scan : Scan) :
    partsFrom (scan.indent gap).trailing 0 (scan.indent gap).lexemes =
      prependToFirst gap (partsFrom scan.trailing 0 scan.lexemes) := by
  obtain ⟨lexemes, trailing⟩ := scan
  cases lexemes with
  | nil => rfl
  | cons first rest =>
      simp only [Scan.indent, partsFrom, source]
      split
      · rfl
      split
      · rw [prependToFirst_append, List.append_assoc]
      split <;> rw [prependToFirst_append, List.append_assoc]

/-- A text that is one part: it can be scanned, and nothing in it ends a part. -/
def IsPart (text : List Char) : Prop :=
  ∃ scan, scan? text = some scan ∧ Contained Kind.endsPart 0 scan.lexemes = true

def IsPiece (allowed : Nat → Bool) (text : List Char) : Prop :=
  ∃ scan, scan? text = some scan ∧ Unbroken Kind.isComma allowed 0 scan.lexemes = true

/-- Texts that are told apart by the commas between them: only the last may leave groups open. -/
inductive Pieces : List (List Char) → Prop
  | last {allowed : Nat → Bool} {text : List Char} : IsPiece allowed text → Pieces [text]
  | cons {text : List Char} {rest : List (List Char)} : IsPiece (fun depth => depth = 0) text →
      Pieces rest → Pieces (text :: rest)

theorem IsPart.isPiece {text : List Char} (part : IsPart text) :
    IsPiece (fun depth => depth = 0) text := by
  obtain ⟨scan, scanned, contained⟩ := part
  refine ⟨scan, scanned, ?_⟩
  rw [← contained_eq_unbroken]
  refine Contained.weaken (fun kind comma => ?_) 0 _ contained
  rw [Kind.isComma] at comma
  rw [Kind.endsPart, comma, Bool.or_true]

theorem IsPart.isBalanced {text : List Char} (part : IsPart text) : IsBalanced text := by
  obtain ⟨scan, scanned, contained⟩ := part
  refine ⟨scan, scanned, Contained.weaken (fun kind closes => ?_) 0 _ contained⟩
  rw [Kind.endsPart, closes, Bool.true_or]

theorem IsPiece.gap {allowed : Nat → Bool} {text : List Char} (piece : IsPiece allowed text)
    (gap : List Char) (blank : gap.all isGap = true) : IsPiece allowed (gap ++ text) := by
  obtain ⟨scan, scanned, unbroken⟩ := piece
  refine ⟨scan.indent gap, scan?_indent gap text scan blank scanned, ?_⟩
  obtain ⟨lexemes, trailing⟩ := scan
  cases lexemes with
  | nil => exact unbroken
  | cons first rest => exact unbroken

theorem pieces_of_parts {first : List Char} {rest : List (List Char)}
    (parts : ∀ text ∈ first :: rest, IsPart text) : Pieces (first :: rest) := by
  induction rest generalizing first with
  | nil => exact .last (parts first (by simp)).isPiece
  | cons second rest ih =>
      rw [List.forall_mem_cons] at parts
      exact .cons parts.1.isPiece (ih parts.2)

def parts? (text : List Char) : Option (List (List Char)) :=
  (scan? text).map fun scan => partsFrom scan.trailing 0 scan.lexemes

theorem parts?_last {allowed : Nat → Bool} (text : List Char) (piece : IsPiece allowed text) :
    parts? text = some [text] := by
  obtain ⟨scan, scanned, unbroken⟩ := piece
  have source := scan_source text scan scanned
  rw [parts?, scanned, Option.map_some, partsFrom_unbroken _ _ _ _ unbroken, ← source]
  rfl

theorem parts?_comma (text rest : List Char) (piece : IsPiece (fun depth => depth = 0) text) :
    parts? (text ++ ',' :: rest) = (parts? rest).map (text :: ·) := by
  obtain ⟨⟨lexemes, trailing⟩, scanned, contained⟩ := piece
  rw [← contained_eq_unbroken] at contained
  obtain ⟨source, legible, blank⟩ := (scan?_eq_some_iff text _).mp scanned
  dsimp only [Scan.source] at source legible blank contained
  let comma : Lexeme := ⟨trailing, .comma, [',']⟩
  have whole : text ++ ',' :: rest = sourceOf (lexemes ++ [comma]) ++ rest := by
    rw [← source]
    simp [comma, Lexeme.source]
  have commaLegible : Legible rest [comma] :=
    ⟨⟨blank, rfl, fun c _ => rfl⟩, trivial⟩
  have separates : Separates (',' :: rest) := by
    intro kind c head
    obtain rfl : ',' = c := by simpa using head
    cases kind <;> decide
  have before : Legible (sourceOf [comma] ++ rest) lexemes := by
    simpa [comma, Lexeme.source] using legible.extend (',' :: rest) separates
  rw [parts?, whole, scan?_legible_append _ _ ((legible_append _ _ _).mpr ⟨before, commaLegible⟩),
    Option.map_map, parts?, Option.map_map]
  congr 1
  funext scan
  have split := partsFrom_contained scan.trailing 0 lexemes (comma :: scan.lexemes) contained
  simp only [Function.comp, Scan.prepend, List.append_assoc, List.cons_append, List.nil_append,
    split]
  simp [partsFrom, comma, prependToFirst, source]

theorem parts?_commaList (lead : List Char) (blank : lead.all isGap = true) (first : String)
    (rest : List String) (pieces : Pieces ((first :: rest).map String.toList)) :
    ∃ others, parts? (lead ++ (Text.commaList (first :: rest)).toList) =
        some ((lead ++ first.toList) :: others) ∧
      others.map Text.trimChars = rest.map fun part => Text.trimChars part.toList := by
  induction rest generalizing first lead with
  | nil =>
      obtain ⟨allowed, last⟩ : ∃ allowed, IsPiece allowed first.toList := by
        cases pieces with
        | last last => exact ⟨_, last⟩
        | cons _ none => cases none
      exact ⟨[], parts?_last _ (last.gap lead blank), rfl⟩
  | cons second rest ih =>
      obtain ⟨piece, pieces⟩ : IsPiece (fun depth => depth = 0) first.toList ∧
          Pieces ((second :: rest).map String.toList) := by
        cases pieces with
        | cons piece pieces => exact ⟨piece, pieces⟩
      obtain ⟨others, found, trimmed⟩ := ih [' '] rfl second pieces
      have whole : lead ++ (Text.commaList (first :: second :: rest)).toList =
          (lead ++ first.toList) ++ ',' :: ([' '] ++ (Text.commaList (second :: rest)).toList) := by
        simp [Text.commaList, Text.joinWith]
      refine ⟨(' ' :: second.toList) :: others, ?_, ?_⟩
      · rw [whole, parts?_comma _ _ (piece.gap lead blank), found]
        rfl
      · simp only [List.map_cons, trimmed]
        rfl

theorem splitTopLevel_space (text : String) (scan : Scan)
    (scanned : scan? text.toList = some scan) :
    splitTopLevel (" " ++ text) = splitTopLevel text := by
  have characters : (" " ++ text).toList = [' '] ++ text.toList := by simp
  have indented := scan?_indent [' '] text.toList scan rfl scanned
  have blank : ([' '] ++ text.toList).all Text.isBlank = text.toList.all Text.isBlank := rfl
  rw [splitTopLevel, splitTopLevel, Lexeme.scan, Lexeme.scan, characters, blank, indented, scanned]
  split
  · rfl
  · simp only [partsFrom_indent]
    cases parts : partsFrom scan.trailing 0 scan.lexemes with
    | nil => exact absurd parts (partsFrom_ne_nil _ _ _)
    | cons first rest => simp [prependToFirst, Text.trimChars_space]

/-- Splitting takes apart what joining has put together. -/
theorem splitTopLevel_pieces (parts : List String) (notBlank : parts ≠ [""])
    (pieces : Pieces (parts.map String.toList))
    (trimmed : ∀ part ∈ parts, Text.trimChars part.toList = part.toList) :
    splitTopLevel (Text.commaList parts) = .ok parts := by
  cases parts with
  | nil => rfl
  | cons first rest =>
      have visible : (Text.commaList (first :: rest)).toList.all Text.isBlank = false := by
        cases rest with
        | nil =>
            cases blank : (Text.commaList [first]).toList.all Text.isBlank with
            | false => rfl
            | true =>
                have empty := trimmed first (by simp)
                rw [Text.trimChars_of_blank first.toList blank] at empty
                exact absurd (by simpa using empty.symm) notBlank
        | cons second others =>
            rw [← Bool.not_eq_true, List.all_eq_true]
            intro blank
            exact absurd (blank ',' (by simp [Text.commaList, Text.joinWith])) (by decide)
      obtain ⟨others, found, same⟩ := parts?_commaList [] rfl first rest pieces
      rw [List.nil_append, parts?, Option.map_eq_some_iff] at found
      obtain ⟨scanned, scan, parts⟩ := found
      have restored : rest.map (fun part => String.ofList (Text.trimChars part.toList)) = rest := by
        rw [List.map_congr_left fun part member => by
          rw [trimmed part (List.mem_cons_of_mem _ member), String.ofList_toList]]
        simp
      rw [splitTopLevel, visible, Lexeme.scan, scan]
      simp only [Bool.false_eq_true, if_false, parts, List.map_cons, Except.ok.injEq,
        List.cons.injEq]
      refine ⟨by rw [List.nil_append, trimmed first (by simp), String.ofList_toList], ?_⟩
      calc others.map (fun part => String.ofList (Text.trimChars part))
          = (others.map Text.trimChars).map String.ofList := by simp
        _ = rest.map (fun part => String.ofList (Text.trimChars part.toList)) := by
            rw [same]
            simp
        _ = rest := restored

theorem splitTopLevel_commaList (parts : List String) (notBlank : parts ≠ [""])
    (each : ∀ part ∈ parts, IsPart part.toList ∧ Text.trimChars part.toList = part.toList) :
    splitTopLevel (Text.commaList parts) = .ok parts := by
  cases parts with
  | nil => rfl
  | cons first rest =>
      refine splitTopLevel_pieces _ notBlank ?_ fun part member => (each part member).2
      apply pieces_of_parts
      intro text member
      rw [← List.map_cons] at member
      obtain ⟨part, isPart, rfl⟩ := List.mem_map.mp member
      exact (each part isPart).1

end Lexeme

end ClickHouse
