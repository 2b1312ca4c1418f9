import TableReplica.Json.Literal

/-!
# Tokens of JSON text

The first stage of reading: a text is cut into punctuation, strings, and words (runs of the
characters that numbers and keywords are made of). One pass over the characters does it, with the
token that is under way as its state.

A string may be well-formed and still stand for no text, if it escapes half of a surrogate pair;
a number may be well-formed and too large. Such tokens are kept without a value, since they matter
only if somebody reads them.
-/

namespace TableReplica

/-- A token of a JSON text. -/
inductive Token where
  /-- One of the characters `{ } [ ] : ,`. -/
  | mark (c : Char)
  /-- A string, with its text if it has one. -/
  | text (s : Option String)
  /-- A number, with its value if it has one. -/
  | number (n : Option Number)
  | null
  | bool (b : Bool)

namespace Token

/-- The part of a string that one character or one escape writes: a character, or a code unit of
16 bits. -/
inductive Piece where
  | char (c : Char)
  | unit (n : Nat)

/-- The text that pieces stand for: two code units that form a surrogate pair are one character,
and half of a pair is none. -/
def assemble : List Piece → Option (List Char)
  | [] => some []
  | .char c :: rest => (assemble rest).map (c :: ·)
  | .unit high :: .unit low :: rest =>
    if 0xD800 ≤ high ∧ high < 0xDC00 then
      if 0xDC00 ≤ low ∧ low < 0xE000 then
        let code := 0x10000 + (high - 0xD800) * 0x400 + (low - 0xDC00)
        (assemble rest).map (Char.ofNat code :: ·)
      else none
    else if 0xDC00 ≤ high ∧ high < 0xE000 then none
    else (assemble (.unit low :: rest)).map (Char.ofNat high :: ·)
  | .unit n :: rest =>
    if 0xD800 ≤ n ∧ n < 0xE000 then none else (assemble rest).map (Char.ofNat n :: ·)

/-- What is under way behind a part of a text. The pieces and characters read so far are listed
last first. -/
inductive Mode where
  /-- Between two tokens. -/
  | between
  /-- In a word. -/
  | word (chars : List Char)
  /-- In a string. -/
  | text (pieces : List Piece)
  /-- Behind a backslash in a string. -/
  | escape (pieces : List Piece)
  /-- In the four digits of a code unit, `digits` of which are still to come. -/
  | unit (pieces : List Piece) (digits : Nat) (value : Nat)

/-- The token that a word is. -/
def ofWord? (word : List Char) : Option Token :=
  match String.ofList word with
  | "null" => some .null
  | "true" => some (.bool true)
  | "false" => some (.bool false)
  | _ => (Literal.read? word).map fun l => .number l.toNumber?

/-- Whether words are made of this character. -/
def isWordChar (c : Char) : Bool := c.isAlphanum || c == '+' || c == '-' || c == '.'

/-- Whether this is one of the characters that stand between tokens. -/
def isBlank (c : Char) : Bool := c == ' ' || c == '\n' || c == '\t' || c == '\r'

/-- Whether this character is a token by itself. -/
def isMark (c : Char) : Bool := ['{', '}', '[', ']', ':', ','].contains c

/-- The character that a one-letter escape stands for. -/
def ofEscape? (c : Char) : Option Char :=
  match c with
  | '"' => some '"'
  | '\\' => some '\\'
  | '/' => some '/'
  | 'b' => some '\x08'
  | 'f' => some '\x0c'
  | 'n' => some '\n'
  | 'r' => some '\r'
  | 't' => some '\t'
  | _ => none

/-- The value of a hexadecimal digit. -/
def hexValue? (c : Char) : Option Nat :=
  if c.isDigit then some (c.toNat - '0'.toNat)
  else if 'a' ≤ c ∧ c ≤ 'f' then some (c.toNat - 'a'.toNat + 10)
  else if 'A' ≤ c ∧ c ≤ 'F' then some (c.toNat - 'A'.toNat + 10)
  else none

/-- Starts a token at a character between tokens; returns the token that it completes, if any. -/
def start? (c : Char) : Option (Option Token × Mode) :=
  if isBlank c then some (none, .between)
  else if isMark c then some (some (.mark c), .between)
  else if c = '"' then some (none, .text [])
  else if isWordChar c then some (none, .word [c])
  else none

/-- Goes on by one character; returns the tokens that it completes. -/
def step? (mode : Mode) (c : Char) : Option (List Token × Mode) :=
  match mode with
  | .between => (start? c).map fun (token, mode) => (token.toList, mode)
  | .word chars =>
    if isWordChar c then some ([], .word (c :: chars)) else do
      let word ← ofWord? chars.reverse
      let (token, mode) ← start? c
      return (word :: token.toList, mode)
  | .text pieces =>
    if c = '"' then some ([.text ((assemble pieces.reverse).map String.ofList)], .between)
    else if c = '\\' then some ([], .escape pieces)
    else if c.toNat < 0x20 then none
    else some ([], .text (.char c :: pieces))
  | .escape pieces =>
    if c = 'u' then some ([], .unit pieces 3 0)
    else (ofEscape? c).map fun c => ([], .text (.char c :: pieces))
  | .unit pieces digits value => do
    let value := 16 * value + (← hexValue? c)
    match digits with
    | 0 => return ([], .text (.unit value :: pieces))
    | digits + 1 => return ([], .unit pieces digits value)

/-- The tokens of a text, from a mode on. -/
def scan? : Mode → List Char → Option (List Token)
  | .between, [] => some []
  | .word chars, [] => (ofWord? chars.reverse).map ([·])
  | _, [] => none
  | mode, c :: rest => do
    let (tokens, mode) ← step? mode c
    return tokens ++ (← scan? mode rest)

end Token

end TableReplica
