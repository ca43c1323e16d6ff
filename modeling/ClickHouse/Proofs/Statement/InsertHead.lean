import ClickHouse.Proofs.Engine.Texts
import ClickHouse.Proofs.Identifier.Sealed
import ClickHouse.Proofs.Value.Literal
import ClickHouse.Statement.Head
import ClickHouse.Statement.Sql

/-!
The head of an insertion. The text in front of the keyword is a row of names, each joined to what
stands before it by a mark or a few words, so whether the head can be read and where its first
keyword stands is decided name by name (`Insert.ofText_sealed`, `Insert.ofText_unsealed`).
-/

namespace ClickHouse

open Lexeme

/-! Where the text is cut depends on the brackets and the words of the head only. -/

namespace InsertHead

/-- The depth behind some lexemes; none if the keyword is among those outside brackets. -/
def depthPast? : Nat → List Lexeme → Option Nat
  | depth, [] => some depth
  | depth, lexeme :: rest =>
    if depth = 0 && isKeyword lexeme then none
    else depthPast? (lexeme.kind.depthAfter depth) rest

def mentions (text : String) : Bool :=
  match scan? text.toList with
  | some scan => scan.lexemes.any isKeyword
  | none => false

theorem isWord_of_isKeyword {lexeme : Lexeme} (keyword : isKeyword lexeme = true) :
    lexeme.kind = .word := by
  simp only [isKeyword, Bool.and_eq_true, decide_eq_true_eq] at keyword
  exact keyword.1

theorem upToKeyword?_cons (depth : Nat) (lexeme : Lexeme) (rest : List Lexeme) :
    upToKeyword? depth (lexeme :: rest) =
      if depth = 0 && isKeyword lexeme then some [lexeme]
      else (upToKeyword? (lexeme.kind.depthAfter depth) rest).map (lexeme :: ·) := by
  rw [upToKeyword?, Kind.depthAfter]
  cases keyword : isKeyword lexeme with
  | true => simp [isWord_of_isKeyword keyword, Kind.opens, Kind.closes]
  | false => cases lexeme.kind.opens <;> cases lexeme.kind.closes <;> simp

theorem upToKeyword?_past {depth past : Nat} {passed : List Lexeme}
    (isPast : depthPast? depth passed = some past) (rest : List Lexeme) :
    upToKeyword? depth (passed ++ rest) = (upToKeyword? past rest).map (passed ++ ·) := by
  induction passed generalizing depth with
  | nil =>
      obtain rfl : depth = past := Option.some.inj isPast
      simp
  | cons lexeme others ih =>
      rw [depthPast?] at isPast
      rw [List.cons_append, upToKeyword?_cons]
      split at isPast
      · contradiction
      · rename_i other
        rw [if_neg other, ih isPast, Option.map_map]
        rfl

theorem upToKeyword?_ends {before : List Lexeme} {keyword : Lexeme}
    (depth : depthPast? 0 before = some 0) (ends : isKeyword keyword = true) (rest : List Lexeme) :
    upToKeyword? 0 (before ++ [keyword] ++ rest) = some (before ++ [keyword]) := by
  rw [List.append_assoc, upToKeyword?_past depth, List.singleton_append, upToKeyword?_cons]
  simp [ends]

theorem upToKeyword?_met {depth : Nat} {lexemes : List Lexeme}
    (met : depthPast? depth lexemes = none) :
    ∃ cut others, lexemes = cut ++ others ∧
      ∀ rest, upToKeyword? depth (lexemes ++ rest) = some cut := by
  induction lexemes generalizing depth with
  | nil => contradiction
  | cons lexeme others ih =>
      rw [depthPast?] at met
      split at met
      · rename_i keyword
        exact ⟨[lexeme], others, rfl, fun rest => by
          rw [List.cons_append, upToKeyword?_cons, if_pos keyword]⟩
      · rename_i other
        obtain ⟨cut, more, shape, found⟩ := ih met
        refine ⟨lexeme :: cut, more, by rw [shape, List.cons_append], fun rest => ?_⟩
        rw [List.cons_append, upToKeyword?_cons, if_neg other, found]
        rfl

theorem upToKeyword?_prefix {depth : Nat} {lexemes cut : List Lexeme}
    (found : upToKeyword? depth lexemes = some cut) : ∃ others, lexemes = cut ++ others := by
  induction lexemes generalizing depth cut with
  | nil => contradiction
  | cons lexeme rest ih =>
      rw [upToKeyword?_cons] at found
      split at found
      · obtain rfl := Option.some.inj found
        exact ⟨rest, rfl⟩
      · obtain ⟨inner, innerFound, rfl⟩ := Option.map_eq_some_iff.mp found
        obtain ⟨others, rfl⟩ := ih innerFound
        exact ⟨others, rfl⟩

theorem depthPast?_append (depth : Nat) (left right : List Lexeme) :
    depthPast? depth (left ++ right) = (depthPast? depth left).bind (depthPast? · right) := by
  induction left generalizing depth with
  | nil => rfl
  | cons lexeme rest ih =>
      rw [List.cons_append, depthPast?, depthPast?]
      split
      · rfl
      · exact ih _

theorem depthPast?_chosen (depth : Nat) (lexemes : List Lexeme) :
    depthPast? depth (chosen Kind.isTelling lexemes) = depthPast? depth lexemes := by
  induction lexemes generalizing depth with
  | nil => rfl
  | cons lexeme rest ih =>
      cases telling : lexeme.kind.isTelling with
      | true =>
          rw [chosen_cons_of_pos telling, depthPast?, depthPast?, ih]
          rfl
      | false =>
          have symbol : lexeme.kind = .symbol := by simpa [Kind.isTelling] using telling
          rw [chosen_cons_of_neg telling, depthPast?, ih]
          simp [isKeyword, symbol, Kind.depthAfter, Kind.opens, Kind.closes]

theorem depthPast?_level (depth : Nat) (lexemes : List Lexeme)
    (level : ∀ lexeme ∈ lexemes, lexeme.kind.opens = false ∧ lexeme.kind.closes = false) :
    depthPast? depth lexemes =
      if depth = 0 && lexemes.any isKeyword then none else some depth := by
  induction lexemes with
  | nil => simp [depthPast?]
  | cons lexeme rest ih =>
      obtain ⟨⟨notOpens, notCloses⟩, others⟩ := List.forall_mem_cons.mp level
      have same : lexeme.kind.depthAfter depth = depth := by
        simp [Kind.depthAfter, notOpens, notCloses]
      rw [depthPast?, same, ih others, List.any_cons]
      by_cases outermost : depth = 0 <;> cases isKeyword lexeme <;> simp [outermost]

/-- A text that ends with the keyword is the head of a longer one if what follows can be read and
no keyword stands before. -/
theorem ofText_append_iff {head after : String} {before : List Lexeme} {keyword : Lexeme}
    (scanned : scan? head.toList = some ⟨before ++ [keyword], []⟩)
    (ends : isKeyword keyword = true) (met : Bool)
    (depth : depthPast? 0 before = if met then none else some 0)
    (separates : Separates after.toList) :
    ofText (head ++ after) = head ↔ met = false ∧ (scan? after.toList).isSome = true := by
  have source : sourceOf (before ++ [keyword]) = head.toList := by
    simpa [Scan.source] using scan_source _ _ scanned
  rw [ofText, String.toList_append, scan?_append _ _ _ scanned separates]
  cases scannedAfter : scan? after.toList with
  | none =>
      have nonempty : after ≠ "" := by
        rintro rfl
        contradiction
      simp [String.append_eq_left_iff, nonempty]
  | some scan =>
      simp only [Option.map_some, Scan.prepend, Option.isSome_some, and_true]
      cases met with
      | false =>
          rw [upToKeyword?_ends depth ends]
          simp only [source, String.ofList_toList]
      | true =>
          obtain ⟨cut, others, rfl, found⟩ := upToKeyword?_met depth
          rw [List.append_assoc, found]
          simp only [Bool.true_eq_false, iff_false]
          intro same
          -- the cut would end with the keyword
          have characters := congrArg String.toList same
          rw [String.toList_ofList, ← source, List.append_assoc, sourceOf_append] at characters
          have nothing := List.self_eq_append_right.mp characters
          simp only [sourceOf_append, List.append_eq_nil_iff, sourceOf_cons, Lexeme.source] at nothing
          simp [isKeyword, nothing] at ends

theorem isSome_scan?_of_ofText {text head : String} (cut : ofText text = head)
    (shorter : text ≠ head) : (scan? head.toList).isSome = true := by
  subst cut
  rw [ofText] at shorter ⊢
  cases scanned : scan? text.toList with
  | none => simp [scanned] at shorter
  | some scan =>
      simp only [scanned] at shorter ⊢
      cases found : upToKeyword? 0 scan.lexemes with
      | none => simp [found] at shorter
      | some cut =>
          obtain ⟨others, shape⟩ := upToKeyword?_prefix found
          obtain ⟨-, legible, -⟩ := (scan?_eq_some_iff _ _).mp scanned
          rw [shape] at legible
          simp only [String.toList_ofList]
          rw [scan?_initial legible]
          rfl

end InsertHead

namespace Insert

inductive Joint where
  | into
  | dot
  | opening
  | comma

namespace Joint

def text : Joint → String
  | into => "INSERT INTO "
  | dot => "."
  | opening => " ("
  | comma => ", "

def lexemes : Joint → List Lexeme
  | into => [⟨[], .word, "INSERT".toList⟩, ⟨[], .word, "INTO".toList⟩]
  | dot => []
  | opening => [⟨[], .openRound, ['(']⟩]
  | comma => [⟨[], .comma, [',']⟩]

theorem calm (joint : Joint) : joint.text.toList.all Scanner.isCalm = true := by
  cases joint <;> rfl

theorem hasChosen_word {word text : List Char} {lexemes : List Lexeme}
    (spelled : Kind.word.spells word = true) (found : HasChosen Kind.isTelling text lexemes) :
    HasChosen Kind.isTelling (word ++ ' ' :: text) (⟨[], .word, word⟩ :: lexemes) := by
  have first : HasChosen Kind.isTelling word [⟨[], .word, word⟩] :=
    .of_scan (scan?_spells .word word spelled)
  exact first.append transparent_telling (.gap transparent_telling rfl found)
    fun kind _ => separates_gap ' ' text rfl kind

theorem hasChosen (joint : Joint) {text : List Char} {lexemes : List Lexeme}
    (found : HasChosen Kind.isTelling text lexemes) :
    HasChosen Kind.isTelling (joint.text.toList ++ text) (joint.lexemes ++ lexemes) := by
  have transparent := transparent_telling
  cases joint with
  | into =>
      have into : Kind.word.spells "INTO".toList = true := by decide
      have insert : Kind.word.spells "INSERT".toList = true := by decide
      exact hasChosen_word insert (hasChosen_word into found)
  | dot => exact .passed transparent (Scanner.start_symbol [] '.' rfl) rfl rfl found
  | opening => exact .gap transparent rfl (.mark rfl rfl found)
  | comma => exact .mark rfl rfl (.gap transparent rfl found)

theorem endsBefore {joint : Joint} (behind : joint ≠ .into) (text : List Char) (kind : Kind)
    (telling : kind.isTelling = true) : kind.EndsBefore (joint.text.toList ++ text) := by
  rintro c head
  cases joint with
  | into => contradiction
  | dot =>
      obtain ⟨⟩ := head
      revert telling
      cases kind <;> decide
  | opening =>
      obtain ⟨⟩ := head
      cases kind <;> rfl
  | comma =>
      obtain ⟨⟩ := head
      cases kind <;> rfl

end Joint

def joined (first others : Joint) : List String → List (Joint × String)
  | [] => []
  | name :: rest => (first, name) :: rest.map fun name => (others, name)

def joinedText (style : QuoteStyle) (names : List (Joint × String)) : List Char :=
  names.flatMap fun entry => entry.1.text.toList ++ (Identifier.reference style entry.2).toList

def nameLexemes (style : QuoteStyle) (name : String) : List Lexeme :=
  match scan? (Identifier.reference style name).toList with
  | some scan => chosen Kind.isTelling scan.lexemes
  | none => []

def joinedLexemes (style : QuoteStyle) (names : List (Joint × String)) : List Lexeme :=
  names.flatMap fun entry => entry.1.lexemes ++ nameLexemes style entry.2

theorem joinedLexemes_append (style : QuoteStyle) (left right : List (Joint × String)) :
    joinedLexemes style (left ++ right) =
      joinedLexemes style left ++ joinedLexemes style right :=
  List.flatMap_append

section

variable {style : QuoteStyle} {names : List (Joint × String)}

theorem hasChosen_joined (isSealed : ∀ entry ∈ names, Identifier.isSealed style entry.2 = true)
    (behind : ∀ entry ∈ names.tail, entry.1 ≠ .into) {text : List Char} {lexemes : List Lexeme}
    (found : HasChosen Kind.isTelling text lexemes)
    (ends : ∀ kind : Kind, kind.isTelling = true → kind.EndsBefore text) :
    HasChosen Kind.isTelling (joinedText style names ++ text)
      (joinedLexemes style names ++ lexemes) := by
  induction names with
  | nil => exact found
  | cons entry rest ih =>
      obtain ⟨joint, name⟩ := entry
      obtain ⟨nameSealed, others⟩ := List.forall_mem_cons.mp isSealed
      have following := ih others fun other member => behind other (List.mem_of_mem_tail member)
      have ended : ∀ kind : Kind, kind.isTelling = true →
          kind.EndsBefore (joinedText style rest ++ text) := by
        cases rest with
        | nil => exact ends
        | cons second more =>
            intro kind telling
            have isBehind := behind second (by simp)
            simpa [joinedText] using Joint.endsBefore isBehind _ kind telling
      obtain ⟨scanned, isScanned, -⟩ := Identifier.scan?_sealed style name nameSealed
      have named : HasChosen Kind.isTelling (Identifier.reference style name).toList
          (nameLexemes style name) := by
        rw [nameLexemes, isScanned]
        exact .of_scan isScanned
      have whole := joint.hasChosen (named.append transparent_telling following ended)
      simpa [joinedText, joinedLexemes] using whole

theorem inside_joined (leaks : ∃ entry ∈ names, Identifier.isSealed style entry.2 = false)
    {scanner : Scanner} (settled : scanner.Settled) :
    (scanner.after (joinedText style names)).Inside := by
  -- the names behind the first that leaks keep the quote open, sealed or not
  have kept {scanner : Scanner} (inside : scanner.Inside) (names : List (Joint × String)) :
      (scanner.after (joinedText style names)).Inside := by
    induction names generalizing scanner with
    | nil => exact inside
    | cons entry rest ih =>
        have entered := Scanner.after_calm Scanner.inside_step inside _ entry.1.calm
        simpa [joinedText] using ih (Scanner.inside_reference style entry.2 entered)
  induction names generalizing scanner with
  | nil => simp at leaks
  | cons entry rest ih =>
      have entered := Scanner.after_calm Scanner.settled_step settled _ entry.1.calm
      rw [joinedText, List.flatMap_cons, Scanner.after_append, Scanner.after_append]
      cases isSealed : Identifier.isSealed style entry.2 with
      | false => exact kept (Scanner.inside_unsealed_reference style entry.2 entered isSealed) rest
      | true =>
          refine ih ?_ (Scanner.settled_reference style entry.2 entered isSealed)
          simpa [isSealed] using leaks

/-- The names in one bracket, or in none: outside brackets the keyword may be among them. -/
theorem depthPast?_joined (isSealed : ∀ entry ∈ names, Identifier.isSealed style entry.2 = true)
    (level : ∀ entry ∈ names, entry.1 ≠ .opening) (depth : Nat) :
    InsertHead.depthPast? depth (joinedLexemes style names) =
      if depth = 0 && names.any fun entry =>
        InsertHead.mentions (Identifier.reference style entry.2) then none else some depth := by
  induction names with
  | nil => simp [joinedLexemes, InsertHead.depthPast?]
  | cons entry rest ih =>
      obtain ⟨joint, name⟩ := entry
      obtain ⟨nameSealed, othersSealed⟩ := List.forall_mem_cons.mp isSealed
      obtain ⟨notOpening, others⟩ := List.forall_mem_cons.mp level
      have same : InsertHead.depthPast? depth joint.lexemes = some depth := by
        cases joint with
        | into => cases depth <;> rfl
        | dot => rfl
        | opening => contradiction
        | comma => cases depth <;> rfl
      obtain ⟨scanned, isScanned, free⟩ := Identifier.scan?_sealed style name nameSealed
      have named : InsertHead.depthPast? depth (nameLexemes style name) =
          if depth = 0 && InsertHead.mentions (Identifier.reference style name) then none
          else some depth := by
        rw [nameLexemes, InsertHead.mentions, isScanned]
        exact (InsertHead.depthPast?_chosen depth scanned).trans
          (InsertHead.depthPast?_level depth scanned free)
      have split : joinedLexemes style ((joint, name) :: rest) =
          joint.lexemes ++ (nameLexemes style name ++ joinedLexemes style rest) := by
        simp [joinedLexemes]
      rw [split, InsertHead.depthPast?_append, same, Option.bind_some, InsertHead.depthPast?_append,
        named, List.any_cons]
      have following := ih othersSealed others
      cases depth with
      | zero =>
          cases InsertHead.mentions (Identifier.reference style name) with
          | true => rfl
          | false => exact following
      | succ depth => simp [following]

end

end Insert

def TableName.names (table : TableName) : List String :=
  table.schema.toList ++ [table.name]

namespace Insert

def headText (quoting : QuoteStyle) (insert : Insert) : String :=
  let columns :=
    match insert.columns with
    | [] => ""
    | columns =>
      " " ++ ("(" ++ Text.commaList (columns.map (Identifier.reference quoting)) ++ ")")
  "INSERT INTO " ++ insert.table.reference quoting ++ columns ++ " VALUES"

def rowText (row : List Value) : String :=
  "(" ++ Text.commaList (row.map Value.literal) ++ ")"

def rowsText (insert : Insert) : String :=
  match insert.rows with
  | [] => ""
  | rows => " " ++ Text.commaList (rows.map rowText)

def names (insert : Insert) : List String :=
  insert.table.names ++ insert.columns

def entries (insert : Insert) : List (Joint × String) :=
  joined .into .dot insert.table.names ++ joined .opening .comma insert.columns

def closing (insert : Insert) : String :=
  if insert.columns.isEmpty then "" else ")"

theorem mem_joined {first others : Joint} {names : List String} {entry : Joint × String}
    (member : entry ∈ joined first others names) :
    (entry.1 = first ∨ entry.1 = others) ∧ entry.2 ∈ names := by
  cases names with
  | nil => contradiction
  | cons name rest =>
      simp only [joined, List.mem_cons, List.mem_map] at member
      rcases member with rfl | ⟨other, isOther, rfl⟩
      · simp
      · simp [isOther]

theorem behind (insert : Insert) : ∀ entry ∈ insert.entries.tail, entry.1 ≠ .into := by
  obtain ⟨⟨name, schema⟩, columns, rows⟩ := insert
  have column : ∀ entry ∈ joined .opening .comma columns, entry.1 ≠ .into := fun entry member => by
    rcases (mem_joined member).1 with same | same <;> simp [same]
  cases schema with
  | none => exact column
  | some schema => exact List.forall_mem_cons.mpr ⟨by simp, column⟩

theorem map_joined (first others : Joint) (names : List String) :
    (joined first others names).map Prod.snd = names := by
  cases names <;> simp [joined, Function.comp_def]

theorem any_joined (first others : Joint) (names : List String) (holds : String → Bool) :
    ((joined first others names).any fun entry => holds entry.2) = names.any holds := by
  have mapped := congrArg (List.any · holds) (map_joined first others names)
  rwa [List.any_map] at mapped

theorem names_entries (insert : Insert) : insert.entries.map Prod.snd = insert.names := by
  rw [entries, List.map_append, map_joined, map_joined, names]

theorem joinedText_columns (quoting : QuoteStyle) (first : String) (rest : List String) :
    joinedText quoting (joined .opening .comma (first :: rest)) =
      " (".toList ++ (Text.commaList ((first :: rest).map (Identifier.reference quoting))).toList := by
  rw [List.map_cons, commaList_toList, joinedText, joined, List.flatMap_cons, List.flatMap_map,
    moreItems, List.flatMap_map]
  simp [Joint.text]

theorem toList_headText (quoting : QuoteStyle) (insert : Insert) :
    (insert.headText quoting).toList =
      joinedText quoting insert.entries ++ insert.closing.toList ++ " VALUES".toList := by
  obtain ⟨⟨name, schema⟩, columns, rows⟩ := insert
  have table : joinedText quoting (joined .into .dot (TableName.names ⟨name, schema⟩)) =
      "INSERT INTO ".toList ++ (TableName.reference quoting ⟨name, schema⟩).toList := by
    cases schema <;>
      simp [joinedText, joined, TableName.names, TableName.reference, Joint.text]
  have split : joinedText quoting (entries ⟨⟨name, schema⟩, columns, rows⟩) =
      joinedText quoting (joined .into .dot (TableName.names ⟨name, schema⟩)) ++
        joinedText quoting (joined .opening .comma columns) := by
    simp [joinedText, entries]
  rw [split, table]
  cases columns with
  | nil => simp [headText, closing, joinedText, joined]
  | cons first rest =>
      rw [joinedText_columns]
      simp [headText, closing]

/-- Whether the name of the table, as it is written, has the keyword in it. -/
def tableMentions (quoting : QuoteStyle) (insert : Insert) : Bool :=
  insert.table.names.any fun name => InsertHead.mentions (Identifier.reference quoting name)

section

variable {quoting : QuoteStyle} {insert : Insert}

def closers (insert : Insert) : List Lexeme :=
  if insert.columns.isEmpty then [] else [⟨[], .closeRound, [')']⟩]

theorem hasChosen_closing (insert : Insert) :
    HasChosen Kind.isTelling insert.closing.toList insert.closers := by
  rw [closing, closers]
  split
  · exact .nil
  · exact .mark rfl rfl .nil

theorem closing_endsBefore (insert : Insert) (kind : Kind) :
    kind.EndsBefore insert.closing.toList := by
  rw [closing]
  split
  · exact separates_nil kind
  · exact separates_mark ')' [] .closeRound rfl kind

theorem depthPast?_columns
    (isSealed : ∀ name ∈ insert.columns, Identifier.isSealed quoting name = true) :
    InsertHead.depthPast? 0
      (joinedLexemes quoting (joined .opening .comma insert.columns) ++ insert.closers) = some 0 := by
  obtain ⟨table, columns, rows⟩ := insert
  cases columns with
  | nil => rfl
  | cons first rest =>
      have opened : joinedLexemes quoting (joined .opening .comma (first :: rest)) =
          ⟨[], .openRound, ['(']⟩ :: joinedLexemes quoting (joined .dot .comma (first :: rest)) := rfl
      -- one bracket deep the joint of the first column no longer matters
      have inside : InsertHead.depthPast? 1
          (joinedLexemes quoting (joined .dot .comma (first :: rest))) = some 1 :=
        depthPast?_joined (fun entry member => isSealed _ (mem_joined member).2)
          (fun entry member => by rcases (mem_joined member).1 with same | same <;> simp [same]) 1
      have closed : InsertHead.depthPast? 1 [⟨[], .closeRound, [')']⟩] = some 0 := rfl
      have entered (rest : List Lexeme) : InsertHead.depthPast? 0 (⟨[], .openRound, ['(']⟩ :: rest) =
          InsertHead.depthPast? 1 rest := rfl
      rw [opened, List.cons_append, entered, InsertHead.depthPast?_append, inside]
      exact closed

/-- A head with sealed names ends with the keyword, and any other one stands in the name of the
table. -/
theorem scan?_sealedHead
    (isSealed : ∀ name ∈ insert.names, Identifier.isSealed quoting name = true) :
    ∃ before keyword,
      scan? (insert.headText quoting).toList = some ⟨before ++ [keyword], []⟩ ∧
      InsertHead.isKeyword keyword = true ∧
      InsertHead.depthPast? 0 before = if insert.tableMentions quoting then none else some 0 := by
  have allSealed : ∀ entry ∈ insert.entries, Identifier.isSealed quoting entry.2 = true := by
    rw [← names_entries] at isSealed
    exact List.forall_mem_map.mp isSealed
  obtain ⟨tableSealed, columnsSealed⟩ := List.forall_mem_append.mp isSealed
  have found := hasChosen_joined allSealed insert.behind insert.hasChosen_closing fun kind _ =>
    insert.closing_endsBefore kind
  obtain ⟨scan, scanned, same⟩ := found.scanned
  have keyword : scan? " VALUES".toList = some ⟨[⟨[' '], .word, "VALUES".toList⟩], []⟩ :=
    scan?_space (by simp) (scan?_spells .word "VALUES".toList (by decide))
  have whole := scan?_append_indent scanned (separates_gap ' ' _ rfl) keyword
  refine ⟨scan.lexemes, ⟨scan.trailing ++ [' '], .word, "VALUES".toList⟩, ?_, rfl, ?_⟩
  · rw [toList_headText]
    exact whole
  · have level : ∀ entry ∈ joined .into .dot insert.table.names, entry.1 ≠ .opening :=
      fun entry member => by rcases (mem_joined member).1 with same | same <;> simp [same]
    have table := depthPast?_joined
      (fun entry member => tableSealed _ (mem_joined member).2) level 0
    have columns := depthPast?_columns columnsSealed
    rw [← InsertHead.depthPast?_chosen, same, entries, joinedLexemes_append, List.append_assoc,
      InsertHead.depthPast?_append, table,
      any_joined _ _ _ fun name => InsertHead.mentions (Identifier.reference quoting name)]
    change _ = if insert.table.names.any _ then _ else _
    cases insert.table.names.any fun name =>
      InsertHead.mentions (Identifier.reference quoting name) with
    | true => rfl
    | false => exact columns

theorem ofText_sealed
    (isSealed : ∀ name ∈ insert.names, Identifier.isSealed quoting name = true) {after : String}
    (separates : Separates after.toList) :
    InsertHead.ofText (insert.headText quoting ++ after) = insert.headText quoting ↔
      insert.tableMentions quoting = false ∧ (scan? after.toList).isSome = true := by
  obtain ⟨before, keyword, scanned, ends, depth⟩ := scan?_sealedHead isSealed
  exact InsertHead.ofText_append_iff scanned ends _ depth separates

theorem scan?_unsealedHead
    (leaks : ∃ name ∈ insert.names, Identifier.isSealed quoting name = false) :
    scan? (insert.headText quoting).toList = none := by
  have entry : ∃ entry ∈ insert.entries, Identifier.isSealed quoting entry.2 = false := by
    obtain ⟨name, member, isLeak⟩ := leaks
    rw [← names_entries] at member
    obtain ⟨entry, isEntry, rfl⟩ := List.mem_map.mp member
    exact ⟨entry, isEntry, isLeak⟩
  have settled : (Scanner.between []).Settled := trivial
  have inside := inside_joined entry settled
  have calm : (insert.closing.toList ++ " VALUES".toList).all Scanner.isCalm = true := by
    rw [closing]
    split <;> rfl
  have ended := Scanner.after_calm Scanner.inside_step inside _ calm
  rw [← Scanner.after_append, ← List.append_assoc, ← toList_headText] at ended
  rw [← Option.not_isSome_iff_eq_none, scan?, Scanner.isSome_read_iff]
  exact ended.not_settled

theorem ofText_unsealed
    (leaks : ∃ name ∈ insert.names, Identifier.isSealed quoting name = false) (after : String) :
    InsertHead.ofText (insert.headText quoting ++ after) = insert.headText quoting ↔ after = "" := by
  have unread := scan?_unsealedHead leaks
  constructor
  · intro cut
    by_cases shorter : insert.headText quoting ++ after = insert.headText quoting
    · simpa [String.append_eq_left_iff] using shorter
    · have read := InsertHead.isSome_scan?_of_ofText cut shorter
      rw [unread] at read
      contradiction
  · rintro rfl
    rw [String.append_empty, InsertHead.ofText, unread]

end

theorem text_sql (style : SqlStyle) (insert : Insert) : (insert.sql style).text =
    Placeholder.protect (insert.headText style.quoting ++ insert.rowsText) := by
  have fixed (text : String) (free : ∀ c ∈ text.toList, c ≠ '%') :=
    Placeholder.protect_of_free text free
  have plain {α : Type} (items : List α) (text : α → String) :
      (Template.commaList (items.map fun item => Template.plain (text item))).text =
        Placeholder.protect (Text.commaList (items.map text)) := by
    rw [Template.text_commaList, KeepsLiterals.protect.commaList, List.map_map, List.map_map]
    congr 1
    exact List.map_congr_left fun item _ => by simp [Template.plain, Piece.written]
  have row (row : List Value) : (rowSql row).text = Placeholder.protect (rowText row) := by
    rw [rowSql, rowText, Template.text_parenthesized, plain, Placeholder.protect_append,
      Placeholder.protect_append, fixed "(" (by simp), fixed ")" (by simp)]
  obtain ⟨table, columns, rows⟩ := insert
  have written : (Sql.table style table).text =
      Placeholder.protect (table.reference style.quoting) := by
    simp [Sql.table, Template.plain, Piece.written]
  have values : (Sql.listClause " " (rows.map rowSql)).text =
      Placeholder.protect (rowsText ⟨table, columns, rows⟩) := by
    cases rows with
    | nil => rfl
    | cons first rest =>
        change " " ++ (Template.commaList ((first :: rest).map rowSql)).text =
          Placeholder.protect (" " ++ Text.commaList ((first :: rest).map rowText))
        rw [Placeholder.protect_append, fixed " " (by simp), Template.text_commaList,
          KeepsLiterals.protect.commaList, List.map_map, List.map_map]
        exact congrArg _ (congrArg _ (List.map_congr_left fun values _ => row values))
  have opening := fixed "INSERT INTO " (by simp)
  have keyword := fixed " VALUES" (by simp)
  cases columns with
  | nil =>
      simp only [Insert.sql, headText, List.append_nil, List.cons_append, Template.text_cons,
        Template.text_append, Piece.written, written, values, Placeholder.protect_append, opening,
        keyword, String.append_assoc, String.empty_append]
  | cons first rest =>
      have names := plain (first :: rest) (Identifier.reference style.quoting)
      have group : Template.text (Template.parenthesized
          (Template.commaList ((first :: rest).map (Sql.name style)))) = Placeholder.protect
            ("(" ++ Text.commaList ((first :: rest).map (Identifier.reference style.quoting)) ++
              ")") := by
        rw [Template.text_parenthesized, Placeholder.protect_append, Placeholder.protect_append,
          fixed "(" (by simp), fixed ")" (by simp), ← names]
        rfl
      have space := fixed " " (by simp)
      have shape : Insert.sql style ⟨table, first :: rest, rows⟩ =
          [.code "INSERT INTO "] ++ Sql.table style table ++ ([.code " "] ++
            Template.parenthesized (Template.commaList ((first :: rest).map (Sql.name style)))) ++
              ([.code " VALUES"] ++ Sql.listClause " " (rows.map rowSql)) := rfl
      rw [shape, headText, Placeholder.protect_append, ← values]
      simp only [Template.text_append, Template.text_cons, Template.text_nil, Piece.written,
        written, group, Placeholder.protect_append, opening, keyword, space, String.append_assoc,
        String.append_empty]

end Insert

end ClickHouse
