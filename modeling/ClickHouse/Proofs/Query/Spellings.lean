import ClickHouse.Proofs.Identifier.Reference
import ClickHouse.Query

/-!
What a statement writes as it is given: names of functions, of parameters and of bound values,
kinds of joins, and types. Everything else that stands in a statement is written with its percent
signs doubled.
-/

namespace ClickHouse

inductive Spelling where
  | name (text : String)
  | joinType (text : String)
  | type (type : DataType)

/-- Whether a name is a word and the kind of a join holds no percent sign. -/
def Spelling.Plain : Spelling → Prop
  | name text => Identifier.isWord text = true
  | joinType text => '%' ∉ text.toList
  | type _ => True

def AllPlain (spellings : List Spelling) : Prop :=
  ∀ spelling ∈ spellings, spelling.Plain

theorem allPlain_append (left right : List Spelling) :
    AllPlain (left ++ right) ↔ AllPlain left ∧ AllPlain right :=
  List.forall_mem_append

theorem allPlain_cons (spelling : Spelling) (rest : List Spelling) :
    AllPlain (spelling :: rest) ↔ spelling.Plain ∧ AllPlain rest :=
  List.forall_mem_cons

def Spelling.type? : Spelling → Option DataType
  | name _ => none
  | joinType _ => none
  | type written => some written

def typesOf (spellings : List Spelling) : List DataType :=
  spellings.filterMap Spelling.type?

theorem typesOf_append (left right : List Spelling) :
    typesOf (left ++ right) = typesOf left ++ typesOf right :=
  List.filterMap_append

theorem typesOf_types (types : List DataType) : typesOf (types.map .type) = types := by
  induction types with
  | nil => rfl
  | cons type rest ih => exact congrArg (type :: ·) ih

mutual

/-- What an expression writes as it is given, in the order of the text. -/
def Expr.spellings : Expr → List Spelling
  | .param name _ => [.name name]
  | .binary _ left right => left.spellings ++ right.spellings
  | .not operand => operand.spellings
  | .negate operand => operand.spellings
  | .call function arguments => .name function :: itemSpellings arguments
  | .count (some argument) => argument.spellings
  | .case branches (some otherwise) => branchSpellings branches ++ otherwise.spellings
  | .extract _ operand => operand.spellings
  | .lambda parameters body =>
    parameters.map (fun parameter => .name parameter.name) ++ body.spellings
  | .tuple items => itemSpellings items
  | .array items => itemSpellings items
  | .isIn operand _ set => operand.spellings ++ set.spellings
  | .isNull operand _ => operand.spellings
  | .isDistinctFrom left right _ => left.spellings ++ right.spellings
  | .cast operand type => operand.spellings ++ [.type type]
  | .label operand _ => operand.spellings
  | .subquery select => select.spellings
  | .column _ _ | .literal _ | .count none | .case _ none | .raw _ | .star => []

def itemSpellings : List Expr → List Spelling
  | [] => []
  | item :: rest => item.spellings ++ itemSpellings rest

def branchSpellings : List (Expr × Expr) → List Spelling
  | [] => []
  | (condition, result) :: rest =>
    condition.spellings ++ (result.spellings ++ branchSpellings rest)

def ElementSet.spellings : ElementSet → List Spelling
  | .values items => itemSpellings items
  | .empty types => types.map .type
  | .query select => select.spellings

def Source.spellings : Source → List Spelling
  | .table _ _ => []
  | .query select _ => select.spellings

def clauseSpellings : Option Expr → List Spelling
  | none => []
  | some clause => clause.spellings

def Join.spellings : Join → List Spelling
  | ⟨right, condition, options⟩ =>
    options.joinType.toList.map .joinType ++ (right.spellings ++ clauseSpellings condition)

def joinSpellings : List Join → List Spelling
  | [] => []
  | join :: rest => join.spellings ++ joinSpellings rest

def ArrayJoin.spellings : ArrayJoin → List Spelling
  | ⟨arrays, _⟩ => itemSpellings arrays

def Order.spellings : Order → List Spelling
  | ⟨key, _⟩ => key.spellings

def orderingSpellings : List Order → List Spelling
  | [] => []
  | order :: rest => order.spellings ++ orderingSpellings rest

def LimitBy.spellings : LimitBy → List Spelling
  | ⟨none, _, _⟩ => []
  | ⟨some _, _, keys⟩ => itemSpellings keys

def sourceSpellings (joined : List Spelling) : Option Source → List Spelling
  | none => []
  | some source => source.spellings ++ joined

def arrayJoinSpellings : Option ArrayJoin → List Spelling
  | none => []
  | some arrayJoin => arrayJoin.spellings

def limitBySpellings : Option LimitBy → List Spelling
  | none => []
  | some limitBy => limitBy.spellings

def Select.spellings : Select → List Spelling
  | ⟨_, columns, source, joins, arrayJoin, sample, _, condition, groups, _, having, ordering,
      limitBy, _, _⟩ =>
    itemSpellings columns ++
    (sourceSpellings (joinSpellings joins) source ++
    (arrayJoinSpellings arrayJoin ++
    (clauseSpellings sample ++
    (clauseSpellings condition ++
    (itemSpellings groups ++
    (clauseSpellings having ++
    (orderingSpellings ordering ++ limitBySpellings limitBy)))))))

end

end ClickHouse
