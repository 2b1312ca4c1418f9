import TableReplica.Session.Toml.Scalar
import TableReplica.Session.Toml.Table

/-!
# Documents in TOML

Values and the lines of a document, which build a tree. What stands at its top are settings.
-/

namespace TableReplica.Toml

/-- How many names a key may have, and how deep values may be nested. -/
def maxDepth : Nat := 79

/-- Whether a word may hold this character. -/
def isWordChar (c : Char) : Bool :=
  c.isAlphanum || c == '+' || c == '-' || c == '.' || c == '_' || c == ':'

/-- The word at the beginning of a text, and what follows it. A blank between a date and a time of
day is part of the word. -/
def spanWord (text : List Char) : List Char × List Char :=
  let word := text.takeWhile isWordChar
  let isDate := match Moment.date? word with
    | some (_, []) => true
    | _ => false
  match text.drop word.length with
  | ' ' :: c :: rest =>
    if isDate && c.isDigit then
      let time := (c :: rest).takeWhile isWordChar
      (word ++ ' ' :: time, (c :: rest).drop time.length)
    else (word, ' ' :: c :: rest)
  | rest => (word, rest)

/-- The scalar at the beginning of a text, and what follows it. -/
def scalar? (text : List Char) : Option (Node × List Char) :=
  match string? text with
  | some (text, rest) => some (.text text, rest)
  | none =>
    let (word, rest) := spanWord text
    (scalarOf? word).map (·, rest)

mutual

/-- The value at the beginning of a text, and what follows it. Inside it values may be nested so
deep; the first number bounds the steps. -/
def value? : Nat → Nat → List Char → Option (Node × List Char)
  | steps + 1, depth + 1, '[' :: rest => do
    let (elements, rest) ← elements? steps depth (skipLines false rest)
    return (.array elements, rest)
  | steps + 1, depth + 1, '{' :: rest =>
    match skipBlanks rest with
    | '}' :: rest => some (.table .inline [], rest)
    | rest => do
      let (members, rest) ← members? steps depth [] rest
      return (.table .inline members, rest)
  | _, _, text => scalar? text

/-- The elements of an array, and what follows its closing bracket. A comma may stand behind the
last element. -/
def elements? : Nat → Nat → List Char → Option (List Node × List Char)
  | _, _, ']' :: rest => some ([], rest)
  | 0, _, _ => none
  | steps + 1, depth, text => do
    let (element, rest) ← value? steps depth text
    match skipLines false rest with
    | ',' :: rest =>
      let (elements, rest) ← elements? steps depth (skipLines false rest)
      return (element :: elements, rest)
    | ']' :: rest => return ([element], rest)
    | _ => none

/-- The members of a table on one line, added to some known ones, and what follows its closing
brace. -/
def members? : Nat → Nat → Members → List Char → Option (Members × List Char)
  | 0, _, _, _ => none
  | steps + 1, depth, members, text => do
    let (path, rest) ← key? maxDepth text
    let (value, rest) ← value? steps depth (skipBlanks (← behind? '=' rest))
    let members ← members.define? value path
    match skipBlanks rest with
    | ',' :: rest => members? steps depth members rest
    | '}' :: rest => return (members, rest)
    | _ => none

end

/-- The members of a document, of which those of the lines so far are given, together with the path
of the table that is open. Each line takes one step. -/
def lines? (steps : Nat) (path : List String) (members : Members) (text : List Char) :
    Option Members :=
  match steps, skipLines false text with
  | _, [] => some members
  | 0, _ => none
  | steps + 1, '[' :: '[' :: rest => do
    let (path, rest) ← key? maxDepth rest
    let rest ← endLine? (← behind? ']' (← behind? ']' rest))
    lines? steps path (← members.openSeries? path) rest
  | steps + 1, '[' :: rest => do
    let (path, rest) ← key? maxDepth rest
    let rest ← endLine? (← behind? ']' rest)
    lines? steps path (← members.openTable? path) rest
  | steps + 1, text => do
    let (key, rest) ← key? maxDepth text
    let (value, rest) ← value? rest.length maxDepth (skipBlanks (← behind? '=' rest))
    let members ← members.within? (·.define? value key) path
    lines? steps path members (← endLine? rest)

/-- What a document sets, by the names at its top. A mark of the byte order at its beginning is
skipped. -/
def settings? (document : String) : Option (List (String × Setting)) :=
  let text :=
    match document.toList with
    | '\uFEFF' :: rest => rest
    | text => text
  (lines? text.length [] [] text).bind Members.settings?

end TableReplica.Toml
