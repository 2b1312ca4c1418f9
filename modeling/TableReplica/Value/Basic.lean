import TableReplica.Value.Scalar

/-!
# Typed values

The value of a column inside the program: a scalar, a list of scalars for a set, or a sorted map
between scalars. A type says which of the three a value is and of which types its scalars are; an
empty set and an empty map have every type of their shape.
-/

namespace TableReplica

/-- The type of the values of a column. -/
inductive ValueType where
  | scalar (type : ScalarType)
  | set (element : ScalarType)
  | map (key value : ScalarType)
deriving DecidableEq

/-- The name of a type of values in messages. -/
def ValueType.name : ValueType → String
  | .scalar t => t.name
  | .set t => "[" ++ t.name ++ "]"
  | .map k v => "\x7b" ++ k.name ++ ": " ++ v.name ++ "\x7d"

/-- The value of a column inside the program. -/
inductive Value where
  | scalar (s : Scalar)
  | set (elements : List Scalar)
  | map (entries : SortedMap Scalar Scalar)
deriving DecidableEq

/-- A row inside the program: the values of some columns. -/
abbrev ValueRow := SortedMap String Value

/-- The scalar that stands for an unset column. Both zeros are unset reals. -/
def Scalar.isDefault : Scalar → Bool
  | .integer i => i == 0
  | .real r => r.isZero
  | .boolean b => !b
  | .string s => s.isEmpty

/-- The scalar of a type that stands for an unset column. -/
def ScalarType.default : ScalarType → Scalar
  | .integer => .integer 0
  | .real => .real .zero
  | .boolean => .boolean false
  | .string => .string ""

namespace Value

/-- Whether the value stands for an unset column. -/
def isDefault : Value → Bool
  | .scalar s => s.isDefault
  | .set elements => elements.isEmpty
  | .map entries => entries.isEmpty

/-- Whether the value is of a type. -/
def conforms : Value → ValueType → Bool
  | .scalar s, .scalar t => s.type == t
  | .set elements, .set t => elements.all fun s => s.type == t
  | .map entries, .map k v => entries.toList.all fun entry => entry.1.type == k && entry.2.type == v
  | _, _ => false

/-- The shape of the value in messages; of a set or a map the first entry speaks for all. -/
def describe : Value → String
  | .scalar s => (ValueType.scalar s.type).name
  | .set [] => "[]"
  | .set (s :: _) => (ValueType.set s.type).name
  | .map entries =>
    match entries.toList with
    | [] => "\x7b\x7d"
    | (k, v) :: _ => (ValueType.map k.type v.type).name

/-- The text of a value that is one. -/
def toString? : Value → Option String
  | .scalar (.string s) => some s
  | _ => none

end Value

end TableReplica
