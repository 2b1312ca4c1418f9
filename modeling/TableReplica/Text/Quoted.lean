import TableReplica.Text.Invisible

/-!
# Quoted names

How messages about a schema quote a name: between double quotes, with an escape for every
character that would end the quotation or would not show.
-/

namespace TableReplica.Text

/-- What stands for one character inside a quoted name. -/
def escapeName (c : Char) : List Char :=
  match c with
  | '"' => ['\\', '"']
  | '\\' => ['\\', '\\']
  | '\n' => ['\\', 'n']
  | '\r' => ['\\', 'r']
  | '\t' => ['\\', 't']
  | '\x00' => ['\\', '0']
  | c =>
    if isInvisible c then
      ['\\', 'u', '\x7b'] ++ Nat.toDigits 16 c.toNat ++ ['\x7d']
    else [c]

/-- A name between double quotes. -/
def quoted (name : String) : String :=
  String.ofList ('"' :: name.toList.flatMap escapeName ++ ['"'])

end TableReplica.Text
