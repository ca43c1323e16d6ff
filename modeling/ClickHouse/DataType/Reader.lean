import ClickHouse.DataType.Printer
import ClickHouse.Lexeme.Group
import ClickHouse.Text.Blank

/-!
Reading type expressions. A family that is not known is kept as it is written; every other
departure from the grammar is an error. Reading needs no more steps than twice the number of
lexemes, so `read` hands out that many.
-/

namespace ClickHouse.DataType

open Lexeme

/-- Why reading stopped, and the unknown families met before that. -/
structure Refusal where
  cause : SyntaxError
  unrecognized : List String
  deriving Repr

abbrev Reading (α : Type) := Except Refusal (α × List Lexeme)

def refuse {α : Type} (cause : SyntaxError) : Except Refusal α :=
  .error ⟨cause, []⟩

/-- A reading that comes after a part in which the given families were unknown. -/
def following {α : Type} (earlier : List String) : Except Refusal α → Except Refusal α
  | .ok result => .ok result
  | .error refusal => .error { refusal with unrecognized := earlier ++ refusal.unrecognized }

def expect (kind : Kind) (expected : String) :
    List Lexeme → Except SyntaxError (Lexeme × List Lexeme)
  | [] => .error (.unexpected expected "end of input")
  | lexeme :: rest =>
    if lexeme.kind = kind then .ok (lexeme, rest)
    else .error (.unexpected expected lexeme.spelling)

def expectClose (whole : String) : List Lexeme → Except SyntaxError (List Lexeme)
  | [] => .error (.unbalanced whole)
  | lexeme :: rest =>
    if lexeme.kind = .closeRound then .ok rest
    else .error (.unexpected "')'" lexeme.spelling)

def eat? (kind : Kind) : List Lexeme → Option (List Lexeme)
  | [] => none
  | lexeme :: rest => if lexeme.kind = kind then some rest else none

def startsWith (kind : Kind) (lexemes : List Lexeme) : Bool :=
  (eat? kind lexemes).isSome

def numeral (digits : List Char) : Nat :=
  Nat.ofDigitChars 10 digits 0

def readNumber (family : String) (bound : Nat) :
    List Lexeme → Except SyntaxError (Nat × List Lexeme)
  | [] => .error (.badArgument family "expected an integer, found 'end of input'")
  | lexeme :: rest =>
    if lexeme.kind = .number ∧ numeral lexeme.text < bound then .ok (numeral lexeme.text, rest)
    else .error (.badArgument family ("expected an integer, found '" ++ lexeme.spelling ++ "'"))

def readByte (family : String) (lexemes : List Lexeme) :
    Except SyntaxError (UInt8 × List Lexeme) :=
  match readNumber family 256 lexemes with
  | .error cause => .error cause
  | .ok (value, rest) => .ok (UInt8.ofNat value, rest)

def readLiteral (expected : String) (lexemes : List Lexeme) :
    Except SyntaxError (String × List Lexeme) :=
  match expect .literal expected lexemes with
  | .error cause => .error cause
  | .ok (lexeme, rest) => .ok (String.ofList (Text.unquoteChars lexeme.text), rest)

def readSign : List Lexeme → Bool × List Lexeme
  | [] => (false, [])
  | lexeme :: rest =>
    if lexeme.kind = .symbol ∧ lexeme.text = ['-'] then (true, rest)
    else if lexeme.kind = .symbol ∧ lexeme.text = ['+'] then (false, rest)
    else (false, lexeme :: rest)

def codeOf? (negative : Bool) (magnitude : Nat) : Option Int16 :=
  if negative then
    if magnitude ≤ 32768 then some (Int16.ofInt (-magnitude)) else none
  else if magnitude ≤ 32767 then some (Int16.ofInt magnitude) else none

def readCode? (lexemes : List Lexeme) : Option (Int16 × List Lexeme) :=
  match readSign lexemes with
  | (_, []) => none
  | (negative, lexeme :: rest) =>
    if lexeme.kind = .number then
      match codeOf? negative (numeral lexeme.text) with
      | some code => some (code, rest)
      | none => none
    else none

def readMember (family : String) (lexemes : List Lexeme) :
    Except SyntaxError ((String × Int16) × List Lexeme) :=
  match readLiteral "quoted enum label" lexemes with
  | .error cause => .error cause
  | .ok (label, rest) =>
    match eat? .equals rest with
    | none => .error (.badArgument family ("expected '=' after label '" ++ label ++ "'"))
    | some rest =>
      match readCode? rest with
      | none =>
        .error (.badArgument family ("expected an integer code for label '" ++ label ++ "'"))
      | some (code, rest) => .ok ((label, code), rest)

def readMembers (family : String) :
    Nat → List Lexeme → Except SyntaxError (List (String × Int16) × List Lexeme)
  | 0, _ => .error .empty
  | fuel + 1, lexemes =>
    match readMember family lexemes with
    | .error cause => .error cause
    | .ok (member, rest) =>
      match eat? .comma rest with
      | none => .ok ([member], rest)
      | some rest =>
        match readMembers family fuel rest with
        | .error cause => .error cause
        | .ok (members, rest) => .ok (member :: members, rest)

/-- The lexemes of a function text, up to a comma or a closing round bracket outside its own
groups; none if a group stays open. -/
def splitFunction? : Nat → List Lexeme → Option (List Lexeme × List Lexeme)
  | 0, [] => some ([], [])
  | _ + 1, [] => none
  | depth, lexeme :: rest =>
    if depth = 0 ∧ (lexeme.kind = .comma ∨ lexeme.kind = .closeRound) then
      some ([], lexeme :: rest)
    else
      let next :=
        if lexeme.kind.opens then depth + 1
        else if lexeme.kind.closes then depth - 1
        else depth
      match splitFunction? next rest with
      | none => none
      | some (function, after) => some (lexeme :: function, after)

/-- The source of some lexemes without the gap before the first. -/
def verbatim : List Lexeme → List Char
  | [] => []
  | first :: rest => first.text ++ sourceOf rest

def readFunction (whole family : String) (lexemes : List Lexeme) :
    Except SyntaxError (String × List Lexeme) :=
  match splitFunction? 0 lexemes with
  | none => .error (.unbalanced whole)
  | some ([], _) => .error (.badArgument family "missing function name")
  | some (function, after) => .ok (String.ofList (verbatim function), after)

def ofName (name : String) : DataType :=
  match IntType.ofName? name with
  | some type => int type
  | none =>
    if name = "Float32" then float32
    else if name = "Float64" then float64
    else if name = "Bool" ∨ name = "Boolean" then bool
    else if name = "Date" then date
    else if name = "Date32" then date32
    else if name = "DateTime" then dateTime none
    else if name = "String" then string
    else if name = "UUID" then uuid
    else if name = "IPv4" then ipv4
    else if name = "IPv6" then ipv6
    else unrecognized name

inductive Family where
  | array
  | nullable
  | lowCardinality
  | fixedString
  | decimal
  | decimalOf (precision : UInt8)
  | dateTime
  | dateTime64
  | enumeration (width : EnumWidth)
  | tuple
  | nested
  | map
  | aggregateFunction
  | simpleAggregateFunction
  deriving DecidableEq, Repr, Inhabited

def Family.ofName? (name : String) : Option Family :=
  if name = "Array" then some .array
  else if name = "Nullable" then some .nullable
  else if name = "LowCardinality" then some .lowCardinality
  else if name = "FixedString" then some .fixedString
  else if name = "Decimal" then some .decimal
  else if name = "Decimal32" then some (.decimalOf 9)
  else if name = "Decimal64" then some (.decimalOf 18)
  else if name = "Decimal128" then some (.decimalOf 38)
  else if name = "Decimal256" then some (.decimalOf 76)
  else if name = "DateTime" then some .dateTime
  else if name = "DateTime64" then some .dateTime64
  else if name = "Enum8" then some (.enumeration .bits8)
  else if name = "Enum16" then some (.enumeration .bits16)
  else if name = "Tuple" then some .tuple
  else if name = "Nested" then some .nested
  else if name = "Map" then some .map
  else if name = "AggregateFunction" then some .aggregateFunction
  else if name = "SimpleAggregateFunction" then some .simpleAggregateFunction
  else none

def readDecimal (family : String) (lexemes : List Lexeme) :
    Except SyntaxError (DataType × List Lexeme) :=
  match readByte family lexemes with
  | .error cause => .error cause
  | .ok (precision, rest) =>
    match eat? .comma rest with
    | none => .error (.badArgument family "expected precision and scale")
    | some rest =>
      match readByte family rest with
      | .error cause => .error cause
      | .ok (scale, rest) => .ok (decimal precision scale, rest)

def readDateTime64 (family : String) (lexemes : List Lexeme) :
    Except SyntaxError (DataType × List Lexeme) :=
  match readByte family lexemes with
  | .error cause => .error cause
  | .ok (precision, rest) =>
    if 9 < precision then
      .error (.badArgument family
        ("precision " ++ Nat.repr precision.toNat ++ " is out of range 0-9"))
    else
      match eat? .comma rest with
      | none => .ok (dateTime64 precision none, rest)
      | some rest =>
        match readLiteral "quoted string" rest with
        | .error cause => .error cause
        | .ok (timezone, rest) => .ok (dateTime64 precision (some timezone), rest)

def readEnumeration (family : String) (width : EnumWidth) (lexemes : List Lexeme) :
    Except SyntaxError (DataType × List Lexeme) :=
  if startsWith .closeRound lexemes then .ok (enumeration width [], lexemes)
  else
    match readMembers family (lexemes.length + 1) lexemes with
    | .error cause => .error cause
    | .ok (members, rest) => .ok (enumeration width members, rest)

/-- The name of a tuple element: the first of two words. -/
def elementName : List Lexeme → Option String × List Lexeme
  | first :: second :: rest =>
    if first.kind = .word ∧ second.kind = .word then (some first.spelling, second :: rest)
    else (none, first :: second :: rest)
  | lexemes => (none, lexemes)

/-- The fields of a nested type; the first element without a name is reported. -/
def namedFields : List (Option String × DataType) → Except SyntaxError (List (String × DataType))
  | [] => .ok []
  | (none, type) :: _ => .error (.unexpected "named field" type.render)
  | (some name, type) :: rest =>
    match namedFields rest with
    | .error cause => .error cause
    | .ok fields => .ok ((name, type) :: fields)

def plainly {α : Type} : Except SyntaxError α → Except Refusal α
  | .ok result => .ok result
  | .error cause => refuse cause

/-- A family that is not known, with its group as written. -/
def readUnknown (whole : String) (name openBracket : Lexeme) (lexemes : List Lexeme) :
    Reading DataType :=
  match group? 0 lexemes with
  | none => refuse (.unbalanced whole)
  | some group =>
    let spelling := String.ofList (name.text ++ openBracket.source ++ sourceOf group.inside ++
      group.close.source)
    if group.close.kind = .closeRound then .ok (unrecognized spelling, group.after)
    else .error ⟨.unexpected "')'" group.close.spelling, [spelling]⟩

def closing (whole : String) : Reading DataType → Reading DataType
  | .error refusal => .error refusal
  | .ok (type, rest) =>
    match expectClose whole rest with
    | .error cause => .error ⟨cause, type.unrecognizedNames⟩
    | .ok rest => .ok (type, rest)

mutual

def readType (whole : String) : Nat → List Lexeme → Reading DataType
  | 0, _ => refuse .empty
  | fuel + 1, lexemes =>
    match expect .word "type name" lexemes with
    | .error cause => refuse cause
    | .ok (name, []) => .ok (ofName name.spelling, [])
    | .ok (name, next :: rest) =>
      if next.kind = .openRound then
        match Family.ofName? name.spelling with
        | none => readUnknown whole name next rest
        | some family => closing whole (readArguments whole fuel family name.spelling rest)
      else .ok (ofName name.spelling, next :: rest)

def readArguments (whole : String) : Nat → Family → String → List Lexeme → Reading DataType
  | 0, _, _, _ => refuse .empty
  | fuel + 1, .array, _, lexemes =>
    match readType whole fuel lexemes with
    | .error refusal => .error refusal
    | .ok (item, rest) => .ok (array item, rest)
  | fuel + 1, .nullable, _, lexemes =>
    match readType whole fuel lexemes with
    | .error refusal => .error refusal
    | .ok (inner, rest) => .ok (nullable inner, rest)
  | fuel + 1, .lowCardinality, _, lexemes =>
    match readType whole fuel lexemes with
    | .error refusal => .error refusal
    | .ok (inner, rest) => .ok (lowCardinality inner, rest)
  | _ + 1, .fixedString, name, lexemes =>
    match readNumber name 18446744073709551616 lexemes with
    | .error cause => refuse cause
    | .ok (length, rest) => .ok (fixedString (UInt64.ofNat length), rest)
  | _ + 1, .decimal, name, lexemes => plainly (readDecimal name lexemes)
  | _ + 1, .decimalOf precision, name, lexemes =>
    match readByte name lexemes with
    | .error cause => refuse cause
    | .ok (scale, rest) => .ok (decimal precision scale, rest)
  | _ + 1, .dateTime, _, lexemes =>
    match readLiteral "quoted string" lexemes with
    | .error cause => refuse cause
    | .ok (timezone, rest) => .ok (dateTime (some timezone), rest)
  | _ + 1, .dateTime64, name, lexemes => plainly (readDateTime64 name lexemes)
  | _ + 1, .enumeration width, name, lexemes => plainly (readEnumeration name width lexemes)
  | fuel + 1, .tuple, _, lexemes =>
    if startsWith .closeRound lexemes then .ok (tuple [], lexemes)
    else
      match readElements whole fuel lexemes with
      | .error refusal => .error refusal
      | .ok (elements, rest) => .ok (tuple elements, rest)
  | fuel + 1, .nested, _, lexemes =>
    if startsWith .closeRound lexemes then .ok (nested [], lexemes)
    else
      match readElements whole fuel lexemes with
      | .error refusal => .error refusal
      | .ok (elements, rest) =>
        match namedFields elements with
        | .error cause => .error ⟨cause, unrecognizedInElements elements⟩
        | .ok fields => .ok (nested fields, rest)
  | fuel + 1, .map, name, lexemes =>
    match readType whole fuel lexemes with
    | .error refusal => .error refusal
    | .ok (key, rest) =>
      match eat? .comma rest with
      | none =>
        .error ⟨.badArgument name "expected key and value types", key.unrecognizedNames⟩
      | some rest =>
        match following key.unrecognizedNames (readType whole fuel rest) with
        | .error refusal => .error refusal
        | .ok (value, rest) => .ok (map key value, rest)
  | fuel + 1, .aggregateFunction, name, lexemes =>
    match readFunction whole name lexemes with
    | .error cause => refuse cause
    | .ok (function, rest) =>
      match readMoreTypes whole fuel rest with
      | .error refusal => .error refusal
      | .ok (types, rest) => .ok (aggregateFunction function types, rest)
  | fuel + 1, .simpleAggregateFunction, name, lexemes =>
    match readFunction whole name lexemes with
    | .error cause => refuse cause
    | .ok (function, rest) =>
      match readMoreTypes whole fuel rest with
      | .error refusal => .error refusal
      | .ok (types, rest) => .ok (simpleAggregateFunction function types, rest)

def readElements (whole : String) : Nat → List Lexeme → Reading (List (Option String × DataType))
  | 0, _ => refuse .empty
  | fuel + 1, lexemes =>
    match readType whole fuel (elementName lexemes).2 with
    | .error refusal => .error refusal
    | .ok (type, rest) =>
      match eat? .comma rest with
      | none => .ok ([((elementName lexemes).1, type)], rest)
      | some rest =>
        match following type.unrecognizedNames (readElements whole fuel rest) with
        | .error refusal => .error refusal
        | .ok (elements, rest) => .ok (((elementName lexemes).1, type) :: elements, rest)

def readMoreTypes (whole : String) : Nat → List Lexeme → Reading (List DataType)
  | 0, _ => refuse .empty
  | fuel + 1, lexemes =>
    match eat? .comma lexemes with
    | none => .ok ([], lexemes)
    | some rest =>
      match readType whole fuel rest with
      | .error refusal => .error refusal
      | .ok (type, rest) =>
        match following type.unrecognizedNames (readMoreTypes whole fuel rest) with
        | .error refusal => .error refusal
        | .ok (types, rest) => .ok (type :: types, rest)

end

/-- Reads a whole type expression and keeps what was met before a failure. -/
def readDetailed (text : String) : Except Refusal DataType :=
  let whole := Text.trim text
  if whole = "" then refuse .empty
  else
    match scan whole with
    | .error cause => refuse cause
    | .ok scan =>
      match readType whole (2 * scan.lexemes.length + 2) scan.lexemes with
      | .error refusal => .error refusal
      | .ok (type, []) => .ok type
      | .ok (type, rest) =>
        .error ⟨.trailing (String.ofList (verbatim rest ++ scan.trailing)),
          type.unrecognizedNames⟩

def read (text : String) : Except SyntaxError DataType :=
  match readDetailed text with
  | .ok type => .ok type
  | .error refusal => .error refusal.cause

/-- The unknown families that reading meets, whether or not it succeeds. -/
def unrecognizedIn (text : String) : List String :=
  match readDetailed text with
  | .ok type => type.unrecognizedNames
  | .error refusal => refusal.unrecognized

def recognitionWarning (spelling : String) : String :=
  "Did not recognize type '" ++ spelling ++ "'"

def warnings (text : String) : List String :=
  (unrecognizedIn text).map recognitionWarning

end ClickHouse.DataType
