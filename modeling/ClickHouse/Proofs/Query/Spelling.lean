import ClickHouse.Proofs.Query.Operators

/-!
Tokens as text. The operands of a text being known, the tokens that can be read are found from
left to right: before an operand there are signs and opening parentheses only, behind it closing
ones, an operator, or keywords that ask for a set or for NULL (`inscribed_unique`).
-/

namespace ClickHouse

def Token.text : Token → String
  | operand text => text
  | binary operator => Placeholder.protect (" " ++ operator.symbol ++ " ")
  | not => "NOT "
  | minus => "-"
  | opening => "("
  | closing => ")"

def Token.operand? : Token → Option String
  | operand text => some text
  | _ => none

def spelled (tokens : List Token) : List Char :=
  tokens.flatMap fun token => token.text.toList

def operandTexts (tokens : List Token) : List String :=
  tokens.filterMap Token.operand?

@[simp] theorem spelled_nil : spelled [] = [] := rfl

@[simp] theorem spelled_cons (token : Token) (rest : List Token) :
    spelled (token :: rest) = token.text.toList ++ spelled rest := by
  simp [spelled]

@[simp] theorem spelled_append (left right : List Token) :
    spelled (left ++ right) = spelled left ++ spelled right := by
  simp [spelled]

@[simp] theorem operandTexts_nil : operandTexts [] = [] := rfl

@[simp] theorem operandTexts_operand (text : String) (rest : List Token) :
    operandTexts (.operand text :: rest) = text :: operandTexts rest := rfl

@[simp] theorem operandTexts_append (left right : List Token) :
    operandTexts (left ++ right) = operandTexts left ++ operandTexts right := by
  simp [operandTexts]

def Formula.operands : Formula → List String
  | operand text => [text]
  | binary _ left right => left.operands ++ right.operands
  | not inner => inner.operands
  | negate inner => inner.operands

/-- A text as a formula, the texts of the operands being known. -/
def ReadsText (operands : List String) (text : String) (formula : Formula) : Prop :=
  ∃ tokens, operandTexts tokens = operands ∧ spelled tokens = text.toList ∧ Reads 1 tokens formula

theorem Reads.operands_eq {level : Nat} {tokens : List Token} {formula : Formula}
    (reads : Reads level tokens formula) : operandTexts tokens = formula.operands := by
  induction reads with
  | operand text => rfl
  | group _ ih =>
      rw [operandTexts_append, ← ih]
      exact List.append_nil _
  | negate _ ih => exact ih
  | not _ ih => exact ih
  | binary operator _ _ ihLeft ihRight =>
      rw [operandTexts_append, Formula.operands, ← ihLeft, ← ihRight]
      rfl
  | tighter _ ih => exact ih

inductive Tail where
  | isIn (negated : Bool) (set : String)
  | isNull (negated : Bool)
  deriving DecidableEq, Repr

def Tail.text : Tail → String
  | isIn negated set => (if negated then " NOT IN " else " IN ") ++ ("(" ++ (set ++ ")"))
  | isNull negated => if negated then " IS NOT NULL" else " IS NULL"

inductive Mark where
  | token (token : Token)
  | tail (tail : Tail)
  deriving DecidableEq, Repr

def Mark.text : Mark → String
  | token read => read.text
  | tail asked => asked.text

/-- Keywords are read as a comparison of what stands before them with what they ask for. -/
def Mark.tokens : Mark → List Token
  | token read => [read]
  | tail asked => [.binary .eq, .operand asked.text]

def inscribed (marks : List Mark) : List Char :=
  marks.flatMap fun mark => mark.text.toList

def tokensOf (marks : List Mark) : List Token :=
  marks.flatMap Mark.tokens

@[simp] theorem inscribed_nil : inscribed [] = [] := rfl

@[simp] theorem inscribed_cons (mark : Mark) (rest : List Mark) :
    inscribed (mark :: rest) = mark.text.toList ++ inscribed rest := by
  simp [inscribed]

@[simp] theorem inscribed_append (left right : List Mark) :
    inscribed (left ++ right) = inscribed left ++ inscribed right := by
  simp [inscribed]

@[simp] theorem inscribed_tokens (tokens : List Token) :
    inscribed (tokens.map .token) = spelled tokens := by
  simp [inscribed, spelled, List.flatMap_map, Mark.text]

@[simp] theorem tokensOf_nil : tokensOf [] = [] := rfl

@[simp] theorem tokensOf_token (token : Token) (rest : List Mark) :
    tokensOf (.token token :: rest) = token :: tokensOf rest := rfl

@[simp] theorem tokensOf_tail (tail : Tail) (rest : List Mark) :
    tokensOf (.tail tail :: rest) = .binary .eq :: .operand tail.text :: tokensOf rest := rfl

@[simp] theorem tokensOf_append (left right : List Mark) :
    tokensOf (left ++ right) = tokensOf left ++ tokensOf right := by
  simp [tokensOf]

@[simp] theorem tokensOf_tokens (tokens : List Token) : tokensOf (tokens.map .token) = tokens := by
  simp [tokensOf, List.flatMap_map, Mark.tokens]

def ReadsMarks (operands : List String) (text : String) (formula : Formula) : Prop :=
  ∃ marks, operandTexts (tokensOf marks) = operands ∧ inscribed marks = text.toList ∧
    Reads 1 (tokensOf marks) formula

/-- Tokens in an order in which they can be read; `ready` says that an operand is to come. -/
inductive Alternates : Bool → List Token → Prop
  | done : Alternates false []
  | operand (text : String) {rest : List Token} :
      Alternates false rest → Alternates true (.operand text :: rest)
  | leading (token : Token) {rest : List Token} :
      token ∈ [.not, .minus, .opening] → Alternates true rest → Alternates true (token :: rest)
  | closing {rest : List Token} : Alternates false rest → Alternates false (.closing :: rest)
  | binary (operator : BinaryOperator) {rest : List Token} :
      Alternates true rest → Alternates false (.binary operator :: rest)

theorem Alternates.append {ready : Bool} {left right : List Token}
    (leftAlternates : Alternates ready left) (rightAlternates : Alternates false right) :
    Alternates ready (left ++ right) := by
  induction leftAlternates with
  | done => exact rightAlternates
  | operand text _ ih => exact .operand text ih
  | leading token isLeading _ ih => exact .leading token isLeading ih
  | closing _ ih => exact .closing ih
  | binary operator _ ih => exact .binary operator ih

theorem Reads.alternates {level : Nat} {tokens : List Token} {formula : Formula}
    (reads : Reads level tokens formula) : Alternates true tokens := by
  induction reads with
  | operand text => exact .operand text .done
  | group _ ih => exact .leading _ (by simp) (ih.append (.closing .done))
  | negate _ ih => exact .leading _ (by simp) ih
  | not _ ih => exact .leading _ (by simp) ih
  | binary operator _ _ ihLeft ihRight => exact ihLeft.append (.binary operator ihRight)
  | tighter _ ih => exact ih

/-- The same order with keywords, which stand behind an operand like a closing parenthesis. -/
inductive Punctuates : Bool → List Mark → Prop
  | done : Punctuates false []
  | operand (text : String) {rest : List Mark} :
      Punctuates false rest → Punctuates true (.token (.operand text) :: rest)
  | leading (token : Token) {rest : List Mark} : token ∈ [.not, .minus, .opening] →
      Punctuates true rest → Punctuates true (.token token :: rest)
  | closing {rest : List Mark} :
      Punctuates false rest → Punctuates false (.token .closing :: rest)
  | binary (operator : BinaryOperator) {rest : List Mark} :
      Punctuates true rest → Punctuates false (.token (.binary operator) :: rest)
  | tail (tail : Tail) {rest : List Mark} :
      Punctuates false rest → Punctuates false (.tail tail :: rest)

theorem Alternates.punctuates {ready : Bool} {marks : List Mark}
    (alternates : Alternates ready (tokensOf marks)) : Punctuates ready marks := by
  induction marks generalizing ready with
  | nil =>
      cases alternates
      exact .done
  | cons mark rest ih =>
      cases mark with
      | token token =>
          rw [tokensOf_token] at alternates
          cases alternates with
          | operand text following => exact .operand text (ih following)
          | leading _ isLeading following => exact .leading _ isLeading (ih following)
          | closing following => exact .closing (ih following)
          | binary operator following => exact .binary operator (ih following)
      | tail tail =>
          rw [tokensOf_tail] at alternates
          cases alternates with
          | leading _ isLeading _ => simp at isLeading
          | binary _ compared =>
              cases compared with
              | operand _ following => exact .tail tail (ih following)
              | leading _ isLeading _ => simp at isLeading

def isSignChar (c : Char) : Bool :=
  c = 'N' || c = 'O' || c = 'T' || c = ' ' || c = '-' || c = '('

/-- A text that is not to be taken for signs: it has a character that they do not have, or it is
a single word of its own. -/
def IsUnit (text : String) : Prop :=
  (∃ c ∈ text.toList, isSignChar c = false) ∨
    (text.toList ≠ [] ∧ (∀ c ∈ text.toList, Identifier.isPlainChar c = true) ∧ text ≠ "NOT")

theorem leading_cases {token : Token} (isLeading : token ∈ [.not, .minus, .opening]) :
    token = .not ∨ token = .minus ∨ token = .opening := by
  simpa using isLeading

theorem leading_text {token : Token} (isLeading : token ∈ [.not, .minus, .opening]) :
    token.text.toList ≠ [] ∧ ∀ c ∈ token.text.toList, isSignChar c = true := by
  rcases leading_cases isLeading with rfl | rfl | rfl <;>
    exact ⟨by decide, List.all_eq_true.mp (by decide)⟩

theorem operandTexts_leading {token : Token} (isLeading : token ∈ [.not, .minus, .opening])
    (rest : List Token) : operandTexts (token :: rest) = operandTexts rest := by
  rcases leading_cases isLeading with rfl | rfl | rfl <;> rfl

theorem Alternates.operandTexts_ne_nil {tokens : List Token} (alternates : Alternates true tokens) :
    operandTexts tokens ≠ [] := by
  generalize isReady : true = ready at alternates
  induction alternates with
  | done | closing _ _ | binary _ _ _ => contradiction
  | operand text _ _ => simp
  | leading token isLeading _ ih =>
      rw [operandTexts_leading isLeading]
      exact ih isReady

theorem Punctuates.leading_operand {marks : List Mark} (punctuates : Punctuates true marks) :
    ∃ signs text rest, operandTexts (tokensOf marks) = text :: operandTexts (tokensOf rest) ∧
      inscribed marks = signs ++ (text.toList ++ inscribed rest) ∧
      ∀ c ∈ signs, isSignChar c = true := by
  generalize isReady : true = ready at punctuates
  induction punctuates with
  | done | closing _ _ | binary _ _ _ | tail _ _ _ => contradiction
  | operand text _ _ => exact ⟨[], text, _, rfl, by simp [Mark.text, Token.text], by simp⟩
  | leading token isLeading _ ih =>
      obtain ⟨signs, text, rest, operands, characters, areSigns⟩ := ih isReady
      refine ⟨token.text.toList ++ signs, text, rest, ?_, ?_, ?_⟩
      · rw [tokensOf_token, operandTexts_leading isLeading, operands]
      · rw [inscribed_cons, characters, List.append_assoc]
        rfl
      · intro c member
        rcases List.mem_append.mp member with member | member
        · exact (leading_text isLeading).2 c member
        · exact areSigns c member

def leadingOperator? : List Char → Option (BinaryOperator × List Char)
  | ' ' :: '=' :: ' ' :: rest => some (.eq, rest)
  | ' ' :: '!' :: '=' :: ' ' :: rest => some (.ne, rest)
  | ' ' :: '<' :: ' ' :: rest => some (.lt, rest)
  | ' ' :: '<' :: '=' :: ' ' :: rest => some (.le, rest)
  | ' ' :: '>' :: ' ' :: rest => some (.gt, rest)
  | ' ' :: '>' :: '=' :: ' ' :: rest => some (.ge, rest)
  | ' ' :: 'A' :: 'N' :: 'D' :: ' ' :: rest => some (.and, rest)
  | ' ' :: 'O' :: 'R' :: ' ' :: rest => some (.or, rest)
  | ' ' :: '+' :: ' ' :: rest => some (.add, rest)
  | ' ' :: '-' :: ' ' :: rest => some (.sub, rest)
  | ' ' :: '*' :: ' ' :: rest => some (.mul, rest)
  | ' ' :: '/' :: ' ' :: rest => some (.div, rest)
  | ' ' :: '%' :: '%' :: ' ' :: rest => some (.mod, rest)
  | ' ' :: 'L' :: 'I' :: 'K' :: 'E' :: ' ' :: rest => some (.like, rest)
  | ' ' :: 'N' :: 'O' :: 'T' :: ' ' :: 'L' :: 'I' :: 'K' :: 'E' :: ' ' :: rest =>
    some (.notLike, rest)
  | ' ' :: 'I' :: 'L' :: 'I' :: 'K' :: 'E' :: ' ' :: rest => some (.ilike, rest)
  | ' ' :: 'N' :: 'O' :: 'T' :: ' ' :: 'I' :: 'L' :: 'I' :: 'K' :: 'E' :: ' ' :: rest =>
    some (.notIlike, rest)
  | _ => none

/-- What stands behind an operand, by its first characters: nothing, a closing parenthesis, an
operator or keywords. -/
def behindOperand (text : List Char) : Option Char × Option BinaryOperator :=
  (text.head?, (leadingOperator? text).map Prod.fst)

@[simp] theorem behindOperand_nil : behindOperand [] = (none, none) := rfl

@[simp] theorem behindOperand_closing (rest : List Char) :
    behindOperand ((Mark.token .closing).text.toList ++ rest) = (some ')', none) := rfl

@[simp] theorem behindOperand_binary (operator : BinaryOperator) (rest : List Char) :
    behindOperand ((Mark.token (.binary operator)).text.toList ++ rest) =
      (some ' ', some operator) := by
  cases operator <;> rfl

@[simp] theorem behindOperand_tail (tail : Tail) (rest : List Char) :
    behindOperand ((Mark.tail tail).text.toList ++ rest) = (some ' ', none) := by
  cases tail with
  | isIn negated set =>
      have starts : (Mark.tail (.isIn negated set)).text.toList ++ rest =
          (if negated then " NOT IN (" else " IN (").toList ++ (set.toList ++ ')' :: rest) := by
        cases negated <;> simp [Mark.text, Tail.text]
      rw [starts]
      cases negated <;> rfl
  | isNull negated => cases negated <;> rfl

theorem Punctuates.head_after {marks : List Mark} (punctuates : Punctuates false marks) :
    ∀ c ∈ (inscribed marks).head?, c = ')' ∨ c = ' ' := by
  have isHead : (inscribed marks).head? = (behindOperand (inscribed marks)).1 := rfl
  rw [isHead]
  cases punctuates <;> simp

theorem takeWhile_append_of_mem {p : Char → Bool} (text rest : List Char) (c : Char)
    (member : c ∈ text) (fails : p c = false) :
    (text ++ rest).takeWhile p = text.takeWhile p := by
  induction text with
  | nil => contradiction
  | cons d others ih =>
      rw [List.cons_append, List.takeWhile_cons, List.takeWhile_cons]
      cases holds : p d with
      | false => rfl
      | true =>
          have different : c ≠ d := by
            rintro rfl
            rw [fails] at holds
            contradiction
          have later := (List.mem_cons.mp member).resolve_left different
          simp [ih later]

theorem not_signs_before_unit {text : String} (isUnit : IsUnit text) {token : Token}
    (isLeading : token ∈ [.not, .minus, .opening]) {rest marks : List Mark}
    (after : Punctuates false rest) (punctuates : Punctuates true marks)
    (operands : operandTexts (tokensOf marks) = text :: operandTexts (tokensOf rest))
    (same : text.toList ++ inscribed rest = token.text.toList ++ inscribed marks) : False := by
  rcases isUnit with ⟨c, member, notSign⟩ | ⟨nonempty, plain, notNot⟩
  · -- no sign has the character: as many signs stand before it on both sides
    obtain ⟨signs, operand, others, operandsOf, characters, areSigns⟩ := punctuates.leading_operand
    obtain rfl : operand = text := (List.cons.inj (operandsOf.symm.trans operands)).1
    obtain ⟨textNonempty, textSigns⟩ := leading_text isLeading
    have runs := congrArg (List.takeWhile isSignChar) same
    rw [characters, takeWhile_append_of_mem _ _ c member notSign,
      List.takeWhile_append_of_pos textSigns, List.takeWhile_append_of_pos areSigns,
      takeWhile_append_of_mem _ _ c member notSign] at runs
    have lengths := congrArg List.length runs
    have longer := List.length_pos_iff.mpr textNonempty
    simp only [List.length_append] at lengths
    omega
  · have word : (text.toList ++ inscribed rest).takeWhile Identifier.isPlainChar = text.toList := by
      rw [List.takeWhile_append_of_pos plain]
      have ends : (inscribed rest).takeWhile Identifier.isPlainChar = [] := by
        cases shape : inscribed rest with
        | nil => rfl
        | cons d others =>
            have isHead := after.head_after d (by simp [shape])
            rcases isHead with rfl | rfl <;> rfl
      rw [ends, List.append_nil]
    rw [same] at word
    rcases leading_cases isLeading with rfl | rfl | rfl
    · exact notNot (String.toList_inj.mp word.symm)
    · exact nonempty word.symm
    · exact nonempty word.symm

theorem leadingOperator?_text (operator : BinaryOperator) (rest : List Char) :
    leadingOperator? ((Token.binary operator).text.toList ++ rest) = some (operator, rest) := by
  cases operator <;> rfl

theorem leading_unique {token other : Token} (isLeading : token ∈ [.not, .minus, .opening])
    (isLeadingOther : other ∈ [.not, .minus, .opening]) {rest restOther : List Char}
    (same : token.text.toList ++ rest = other.text.toList ++ restOther) : token = other := by
  rcases leading_cases isLeading with rfl | rfl | rfl <;>
    rcases leading_cases isLeadingOther with rfl | rfl | rfl <;>
    first | rfl | simp [Token.text] at same

theorem inscribed_unique {ready : Bool} {marks other : List Mark}
    (punctuates : Punctuates ready marks) (punctuatesOther : Punctuates ready other)
    (sameOperands : operandTexts (tokensOf marks) = operandTexts (tokensOf other))
    (units : ∀ text ∈ operandTexts (tokensOf marks), IsUnit text)
    (same : inscribed marks = inscribed other) : tokensOf marks = tokensOf other := by
  induction punctuates generalizing other with
  | done =>
      have behind := congrArg behindOperand same
      cases punctuatesOther with
      | done => rfl
      | _ => simp at behind
  | closing _ ih =>
      have behind := congrArg behindOperand same
      cases punctuatesOther with
      | closing following =>
          rw [tokensOf_token, tokensOf_token,
            ih following sameOperands units (List.append_cancel_left same)]
      | _ => simp at behind
  | binary operator _ ih =>
      have behind := congrArg behindOperand same
      cases punctuatesOther with
      | binary operatorOther following =>
          have start := congrArg leadingOperator? same
          rw [inscribed_cons, inscribed_cons, Mark.text, Mark.text, leadingOperator?_text,
            leadingOperator?_text] at start
          obtain ⟨rfl, sameRest⟩ := Prod.mk.inj (Option.some.inj start)
          rw [tokensOf_token, tokensOf_token, ih following sameOperands units sameRest]
      | _ => simp at behind
  | tail tail _ ih =>
      have behind := congrArg behindOperand same
      cases punctuatesOther with
      | tail tailOther following =>
          obtain ⟨sameText, sameRest⟩ := List.cons.inj sameOperands
          rw [inscribed_cons, inscribed_cons, Mark.text, Mark.text, sameText] at same
          rw [tokensOf_tail, tokensOf_tail, sameText,
            ih following sameRest (fun text member => units text (List.mem_cons_of_mem _ member))
              (List.append_cancel_left same)]
      | _ => simp at behind
  | operand text after ih =>
      cases punctuatesOther with
      | operand textOther afterOther =>
          obtain ⟨rfl, sameRest⟩ := List.cons.inj sameOperands
          rw [tokensOf_token, tokensOf_token,
            ih afterOther sameRest (fun other member => units other (List.mem_cons_of_mem _ member))
              (List.append_cancel_left same)]
      | leading token isLeading following =>
          rw [tokensOf_token, tokensOf_token, operandTexts_leading isLeading] at sameOperands
          have isUnit := units text (by simp)
          exact (not_signs_before_unit isUnit isLeading after following sameOperands.symm same).elim
  | leading token isLeading following ih =>
      rw [tokensOf_token, operandTexts_leading isLeading] at sameOperands units
      cases punctuatesOther with
      | operand text after =>
          rw [tokensOf_token, operandTexts_operand] at sameOperands
          have isUnit := units text (sameOperands ▸ List.mem_cons_self)
          exact (not_signs_before_unit isUnit isLeading after following sameOperands same.symm).elim
      | leading tokenOther isLeadingOther followingOther =>
          obtain rfl := leading_unique isLeading isLeadingOther same
          rw [tokensOf_token, operandTexts_leading isLeading] at sameOperands
          rw [tokensOf_token, tokensOf_token,
            ih followingOther sameOperands units (List.append_cancel_left same)]

theorem spelled_unique {tokens other : List Token} (alternates : Alternates true tokens)
    (alternatesOther : Alternates true other)
    (sameOperands : operandTexts tokens = operandTexts other)
    (units : ∀ text ∈ operandTexts tokens, IsUnit text)
    (same : spelled tokens = spelled other) : tokens = other := by
  rw [← tokensOf_tokens tokens] at alternates sameOperands units ⊢
  rw [← tokensOf_tokens other] at alternatesOther sameOperands ⊢
  exact inscribed_unique alternates.punctuates alternatesOther.punctuates sameOperands units
    (by simpa using same)

/-- A text with known operands is read as one formula only. -/
theorem ReadsText.unique {operands : List String} {text : String} {formula other : Formula}
    (units : ∀ operand ∈ operands, IsUnit operand) (reads : ReadsText operands text formula)
    (readsOther : ReadsText operands text other) : formula = other := by
  obtain ⟨tokens, isOperands, characters, reads⟩ := reads
  obtain ⟨tokensOther, isOperandsOther, charactersOther, readsOther⟩ := readsOther
  obtain rfl : tokens = tokensOther :=
    spelled_unique reads.alternates readsOther.alternates (isOperands.trans isOperandsOther.symm)
      (isOperands ▸ units) (characters.trans charactersOther.symm)
  exact reads.unique readsOther

end ClickHouse
