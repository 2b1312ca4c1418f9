import TableReplica.Json.Token

/-!
# Texts and keys in TOML

Blanks and comments, strings in their four styles, and keys. A string stands between quotation marks
if it may hold escapes and between apostrophes if it may not; three of either mark open a string of
several lines. A key is a path of names, with points between them.
-/

namespace TableReplica.Toml

/-- Whether a comment or a string of one line may hold this character. -/
def isPlain (c : Char) : Bool := c == '\t' || (0x20 ≤ c.toNat && c.toNat != 0x7F)

/-- Whether this character separates without ending a line. -/
def isBlank (c : Char) : Bool := c == ' ' || c == '\t'

/-- The rest of a text behind a given character. -/
def behind? (c : Char) : List Char → Option (List Char)
  | first :: rest => if first = c then some rest else none
  | [] => none

/-- The rest of a text behind blanks. -/
def skipBlanks (text : List Char) : List Char := text.dropWhile isBlank

/-- The rest of a text behind blanks, line ends and comments; `comment` says whether the text begins
inside a comment. -/
def skipLines (comment : Bool) : List Char → List Char
  | [] => []
  | '\n' :: rest => skipLines false rest
  | '\r' :: '\n' :: rest => skipLines false rest
  | c :: rest =>
    if comment && isPlain c then skipLines true rest
    else if comment then c :: rest
    else if isBlank c then skipLines false rest
    else if c = '#' then skipLines true rest
    else c :: rest

/-- The rest of a text behind the end of a line, which blanks and a comment may precede. -/
def endLine? (text : List Char) : Option (List Char) :=
  let rest :=
    match skipBlanks text with
    | '#' :: rest => rest.dropWhile isPlain
    | rest => rest
  match rest with
  | [] => some []
  | '\n' :: rest => some rest
  | '\r' :: '\n' :: rest => some rest
  | _ => none

/-! ## Strings -/

/-- A style of strings. -/
structure Style where
  /-- The mark at both ends. -/
  mark : Char
  /-- Whether a backslash begins an escape. -/
  escapes : Bool
  /-- Whether there may be several lines. -/
  lines : Bool

/-- What a place in a string is behind. -/
inductive Place where
  /-- A character of the string. -/
  | plain
  /-- A backslash. -/
  | escape
  /-- A backslash and blanks, which have to be followed by the end of the line. -/
  | lineEnd
  /-- A line end that does not count, like the blanks and line ends that follow it. -/
  | indent
  /-- Part of the number of a character, of which `digits + 1` digits are still to come. -/
  | code (digits : Nat) (value : Nat)

/-- The character with this number, if there is one. -/
def charOf? (n : Nat) : Option Char := if n.isValidChar then some (.ofNat n) else none

/-- Whether a character is the first of the two that may end a line. -/
def isReturn (c : Char) (next : Option Char) : Bool := c == '\r' && next == some '\n'

/-- Goes on by one character of the string itself. -/
def plainStep? (style : Style) (c : Char) (next : Option Char) : Option (Option Char × Place) :=
  if style.escapes && c == '\\' then some (none, .escape)
  else if style.lines && c == '\n' then some (some c, .plain)
  else if style.lines && isReturn c next then some (none, .plain)
  else if isPlain c then some (some c, .plain)
  else none

/-- Goes on by one character between a backslash and the end of its line. -/
def lineEndStep? (c : Char) (next : Option Char) : Option (Option Char × Place) :=
  if c = '\n' then some (none, .indent)
  else if isBlank c || isReturn c next then some (none, .lineEnd)
  else none

/-- Goes on by one character that does not end the string; `next` is the one that follows. Returns
the character that it adds to the text, if any. -/
def step? (style : Style) (place : Place) (c : Char) (next : Option Char) :
    Option (Option Char × Place) :=
  match place with
  | .plain => plainStep? style c next
  | .escape =>
    if c = 'u' then some (none, .code 3 0)
    else if c = 'U' then some (none, .code 7 0)
    else if c = '/' then none
    else
      match Token.ofEscape? c with
      | some c => some (some c, .plain)
      | none => if style.lines then lineEndStep? c next else none
  | .lineEnd => lineEndStep? c next
  | .indent =>
    if isBlank c || c == '\n' || isReturn c next then some (none, .indent)
    else plainStep? style c next
  | .code digits value => do
    let value := 16 * value + (← Token.hexValue? c)
    match digits with
    | 0 => return (some (← charOf? value), .plain)
    | digits + 1 => return (none, .code digits value)

/-- Whether a mark at this place belongs to the end of the string. -/
def Place.endsAtMark : Place → Bool
  | .plain | .indent => true
  | _ => false

/-- The rest of a string, and what follows it. Of several lines, the last three marks of a run end
the string; up to two before them belong to it. -/
def body? (style : Style) (place : Place) : List Char → Option (List Char × List Char)
  | [] => none
  | c :: rest =>
    if place.endsAtMark && c == style.mark then
      let run := rest.takeWhile (· == style.mark)
      if !style.lines then some ([], rest)
      else if run.length < 2 then do
        let (text, rest) ← body? style .plain rest
        return (c :: text, rest)
      else if run.length ≤ 4 then some (run.drop 2, rest.drop run.length)
      else none
    else do
      let (added, place) ← step? style place c rest.head?
      let (text, rest) ← body? style place rest
      return (added.toList ++ text, rest)

/-- The rest of a text behind a line end that stands at its beginning. -/
def skipLineEnd : List Char → List Char
  | '\n' :: rest => rest
  | '\r' :: '\n' :: rest => rest
  | rest => rest

/-- The style of a string of one line that this mark opens. -/
def lineStyle? (c : Char) : Option Style :=
  if c = '"' then some ⟨c, true, false⟩ else if c = '\x27' then some ⟨c, false, false⟩ else none

/-- The string at the beginning of a text, and what follows it. -/
def string? : List Char → Option (String × List Char)
  | [] => none
  | c :: rest => do
    let style ← lineStyle? c
    let (text, rest) ←
      if rest.take 2 = [c, c] then
        body? { style with lines := true } .plain (skipLineEnd (rest.drop 2))
      else body? style .plain rest
    return (String.ofList text, rest)

/-! ## Keys -/

/-- Whether a name may hold this character without marks around it. -/
def isBare (c : Char) : Bool := c.isAlphanum || c == '_' || c == '-'

/-- The name at the beginning of a text, and what follows it. -/
def name? : List Char → Option (String × List Char)
  | [] => none
  | c :: rest =>
    match lineStyle? c with
    | some style => (body? style .plain rest).map fun (name, rest) => (String.ofList name, rest)
    | none =>
      let name := (c :: rest).takeWhile isBare
      if name.isEmpty then none
      else some (String.ofList name, (c :: rest).drop name.length)

/-- The key at the beginning of a text, which has at most so many names, and what follows it. Blanks
may stand around each name. -/
def key? : Nat → List Char → Option (List String × List Char)
  | 0, _ => none
  | names + 1, text => do
    let (name, rest) ← name? (skipBlanks text)
    match skipBlanks rest with
    | '.' :: rest =>
      let (path, rest) ← key? names rest
      return (name :: path, rest)
    | rest => return ([name], rest)

end TableReplica.Toml
