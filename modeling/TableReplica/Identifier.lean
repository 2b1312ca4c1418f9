/-!
# Row identifiers

Every row has an identifier that the database assigns, a universally unique one. Its text is
recognised in each of the notations that are in use: 32 hexadecimal digits, the same in five groups
with hyphens between them, and the grouped form in braces or behind `urn:uuid:`.
-/

namespace TableReplica.Identifier

/-- The column that holds the identifier of a row. -/
def idColumn : String := "_uuid"

/-- The column that holds the identifier of a version of a row. -/
def versionColumn : String := "_version"

/-- Whether every table has this column, without its schema saying so. -/
def isImplicit (column : String) : Bool := column == idColumn || column == versionColumn

/-- Whether this is a hexadecimal digit. -/
def isHexDigit (c : Char) : Bool :=
  c.isDigit || ('a' ≤ c && c ≤ 'f') || ('A' ≤ c && c ≤ 'F')

/-- Whether a text consists of 32 hexadecimal digits. -/
def isSimple (text : List Char) : Bool := text.length == 32 && text.all isHexDigit

/-- Whether a text consists of groups of 8, 4, 4, 4 and 12 hexadecimal digits with hyphens between
them. -/
def isGrouped (text : List Char) : Bool :=
  let groups := text.splitOn '-'
  groups.map List.length == [8, 4, 4, 4, 12] && groups.all fun group => group.all isHexDigit

/-- Whether a text is a row identifier. -/
def isValid (text : String) : Bool :=
  let chars := text.toList
  let inBraces := chars.head? == some '\x7b' && chars.getLast? == some '\x7d'
  isSimple chars || isGrouped chars
    || (inBraces && isGrouped (chars.drop 1).dropLast)
    || ((chars.take 9).map Char.toLower == "urn:uuid:".toList && isGrouped (chars.drop 9))

end TableReplica.Identifier
