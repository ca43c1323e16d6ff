import ClickHouse.Toml.Number

/-!
Reading TOML documents. A document that breaks a rule, or names a thing twice, has no value.
-/

namespace ClickHouse.Toml

abbrev Reader (α : Type) := Option (α × List Char)

def isSpace (c : Char) : Bool :=
  c = ' ' || c = '\t'

def skipSpaces (text : List Char) : List Char :=
  text.dropWhile isSpace

def dropBreak? : List Char → Option (List Char)
  | '\n' :: rest => some rest
  | '\r' :: '\n' :: rest => some rest
  | _ => none

def isCommentPart (c : Char) : Bool :=
  c = '\t' || (32 ≤ c.toNat && c.toNat ≠ 127)

def skipComment : List Char → List Char
  | '#' :: rest => rest.dropWhile isCommentPart
  | rest => rest

def skipLines : Nat → List Char → List Char
  | 0, text => text
  | fuel + 1, text =>
    let rest := skipComment (skipSpaces text)
    match dropBreak? rest with
    | some rest => skipLines fuel rest
    | none => rest

def skipAll (text : List Char) : List Char :=
  skipLines (text.length + 1) text

def isTextPart (c : Char) : Bool :=
  c = '\t' || (32 ≤ c.toNat && c.toNat ≠ 127)

def readCode? (count : Nat) (text : List Char) : Reader Char :=
  let digits := text.take count
  if digits.length = count ∧ digits.all (fun c => (Text.hexValue? c).isSome) then
    let code := valueIn 16 digits
    if code.isValidChar then some (Char.ofNat code, text.drop count) else none
  else none

def readEscape? : List Char → Reader Char
  | [] => none
  | c :: rest =>
    if c = 'b' then some ('\x08', rest)
    else if c = 't' then some ('\t', rest)
    else if c = 'n' then some ('\n', rest)
    else if c = 'f' then some ('\x0c', rest)
    else if c = 'r' then some ('\r', rest)
    else if c = '\x22' then some ('\x22', rest)
    else if c = '\\' then some ('\\', rest)
    else if c = 'u' then readCode? 4 rest
    else if c = 'U' then readCode? 8 rest
    else none

def continueWith (c : Char) : Reader (List Char) → Reader (List Char) :=
  Option.map fun (text, rest) => (c :: text, rest)

def readContent? (mark : Char) : Nat → List Char → Reader (List Char)
  | 0, _ => none
  | _ + 1, [] => none
  | fuel + 1, c :: rest =>
    if c = mark then some ([], rest)
    else if c = '\\' ∧ mark = '\x22' then
      match readEscape? rest with
      | none => none
      | some (value, rest) => continueWith value (readContent? mark fuel rest)
    else if isTextPart c then continueWith c (readContent? mark fuel rest)
    else none

/-- Passes over the blanks and line breaks after a backslash at the end of a line. -/
def dropLineEnd? (text : List Char) : Option (List Char) :=
  match dropBreak? (skipSpaces text) with
  | none => none
  | some rest => some (rest.dropWhile fun c => isSpace c || c = '\n' || c = '\r')

/-- The content of a string over several lines, up to three closing marks; one or two more marks
before them belong to it. -/
def readLongContent? (mark : Char) : Nat → List Char → Reader (List Char)
  | 0, _ => none
  | _ + 1, [] => none
  | fuel + 1, c :: rest =>
    if (c :: rest).take 3 = [mark, mark, mark] then
      let extra := (((c :: rest).drop 3).take 2).takeWhile fun next => next = mark
      some (extra, (c :: rest).drop (3 + extra.length))
    else if c = '\\' ∧ mark = '\x22' then
      match dropLineEnd? rest with
      | some rest => readLongContent? mark fuel rest
      | none =>
        match readEscape? rest with
        | none => none
        | some (value, rest) => continueWith value (readLongContent? mark fuel rest)
    else
      match dropBreak? (c :: rest) with
      | some rest => continueWith '\n' (readLongContent? mark fuel rest)
      | none =>
        if isTextPart c then continueWith c (readLongContent? mark fuel rest) else none

def isQuote (c : Char) : Bool :=
  c = '\x22' || c = '\x27'

def readShort? (mark : Char) (rest : List Char) : Reader String :=
  (readContent? mark (rest.length + 1) rest).map fun (text, rest) => (String.ofList text, rest)

def readString? (mark : Char) (rest : List Char) : Reader String :=
  if rest.take 2 = [mark, mark] then
    let inside := rest.drop 2
    let inside := (dropBreak? inside).getD inside
    (readLongContent? mark (inside.length + 1) inside).map fun (text, rest) =>
      (String.ofList text, rest)
  else readShort? mark rest

def isBareName (c : Char) : Bool :=
  c.isAlphanum || c = '_' || c = '-'

def readName? : List Char → Reader String
  | [] => none
  | c :: rest =>
    if isQuote c then readShort? c rest
    else
      let name := (c :: rest).takeWhile isBareName
      if name.isEmpty then none
      else some (String.ofList name, (c :: rest).dropWhile isBareName)

def readPath? : Nat → List Char → Reader (List String × String)
  | 0, _ => none
  | fuel + 1, text =>
    match readName? (skipSpaces text) with
    | none => none
    | some (name, rest) =>
      match skipSpaces rest with
      | '.' :: rest =>
        (readPath? fuel rest).map fun ((path, last), rest) => ((name :: path, last), rest)
      | rest => some (([], name), rest)

def readDotted? (text : List Char) : Reader (List String × String) :=
  readPath? (text.length + 1) text

def isBareValue (c : Char) : Bool :=
  c.isAlphanum || c = '_' || c = '-' || c = '+' || c = '.' || c = ':'

/-- A bare value; a blank may stand between a date and a time. -/
def readBareValue? (text : List Char) : Reader Toml :=
  let first := text.takeWhile isBareValue
  let rest := text.dropWhile isBareValue
  let joined : Reader Toml :=
    match rest with
    | ' ' :: tail =>
      let whole := first ++ ' ' :: tail.takeWhile isBareValue
      if isDateTime first && isDateTime whole then
        (readBare? whole).map fun value => (value, tail.dropWhile isBareValue)
      else none
    | _ => none
  joined.or ((readBare? first).map fun value => (value, rest))

def addInline (entries : Entries) (path : List String) (name : String) (value : Toml) :
    Option Entries :=
  within .dotted (assign name value) path entries

mutual

def readValue? : Nat → List Char → Reader Toml
  | 0, _ => none
  | fuel + 1, text =>
    match text with
    | [] => none
    | '[' :: rest => (readItems? fuel rest).map fun (items, rest) => (.array items, rest)
    | '\x7b' :: rest =>
      match skipSpaces rest with
      | '\x7d' :: rest => some (.table [], rest)
      | rest =>
        (readInline? fuel [] rest).map fun (entries, rest) => (.table (entryValues entries), rest)
    | c :: rest =>
      if isQuote c then (readString? c rest).map fun (text, rest) => (.string text, rest)
      else readBareValue? (c :: rest)

/-- The items of an array and its closing bracket; a comma may follow the last one. -/
def readItems? : Nat → List Char → Reader (List Toml)
  | 0, _ => none
  | fuel + 1, text =>
    match skipAll text with
    | ']' :: rest => some ([], rest)
    | rest =>
      match readValue? fuel rest with
      | none => none
      | some (item, rest) =>
        match skipAll rest with
        | ',' :: rest => (readItems? fuel rest).map fun (items, rest) => (item :: items, rest)
        | ']' :: rest => some ([item], rest)
        | _ => none

def readInline? : Nat → Entries → List Char → Reader Entries
  | 0, _, _ => none
  | fuel + 1, entries, text =>
    match readDotted? text with
    | none => none
    | some ((path, name), rest) =>
      match rest with
      | '=' :: rest =>
        match readValue? fuel (skipSpaces rest) with
        | none => none
        | some (value, rest) =>
          match addInline entries path name value with
          | none => none
          | some entries =>
            match skipSpaces rest with
            | ',' :: rest => readInline? fuel entries rest
            | '\x7d' :: rest => some (entries, rest)
            | _ => none
      | _ => none

end

def readHeader? (rest : List Char) : Reader Line :=
  match rest with
  | '[' :: rest =>
    match readDotted? rest with
    | some ((path, name), ']' :: ']' :: rest) => some (.arrayHeader path name, rest)
    | _ => none
  | rest =>
    match readDotted? rest with
    | some ((path, name), ']' :: rest) => some (.header path name, rest)
    | _ => none

def readEntry? (text : List Char) : Reader Line :=
  match readDotted? text with
  | some ((path, name), '=' :: rest) =>
    (readValue? (2 * text.length + 2) (skipSpaces rest)).map fun (value, rest) =>
      (.entry path name value, rest)
  | _ => none

def readLine? : List Char → Reader Line
  | '[' :: rest => readHeader? rest
  | text => readEntry? text

/-- The lines of a document; nothing but a comment follows a line's content. -/
def readLines? : Nat → List Char → Option (List Line)
  | 0, _ => none
  | fuel + 1, text =>
    match skipAll text with
    | [] => some []
    | rest =>
      match readLine? rest with
      | none => none
      | some (line, rest) =>
        match skipComment (skipSpaces rest) with
        | [] => some [line]
        | rest =>
          match dropBreak? rest with
          | none => none
          | some rest => (readLines? fuel rest).map (line :: ·)

def skipOrderMark : List Char → List Char
  | '\ufeff' :: rest => rest
  | text => text

def read? (text : String) : Option (List (String × Toml)) :=
  (readLines? (text.length + 1) (skipOrderMark text.toList)).bind ofLines

end ClickHouse.Toml
