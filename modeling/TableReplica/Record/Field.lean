import TableReplica.Value.Coding

/-!
# Fields of records

The types that a field of an application's record can have, what a field of each type holds, and the
passage between that and column values. A field that holds at most one element has the same column
values as one that holds many, but it does not take more than one.
-/

namespace TableReplica

namespace ScalarType

/-- What holds a scalar of a type. -/
def Carrier : ScalarType → Type
  | .integer => Int64
  | .real => Real64
  | .boolean => Bool
  | .string => String

instance (t : ScalarType) : DecidableEq t.Carrier :=
  match t with
  | .integer => inferInstanceAs (DecidableEq Int64)
  | .real => inferInstanceAs (DecidableEq Real64)
  | .boolean => inferInstanceAs (DecidableEq Bool)
  | .string => inferInstanceAs (DecidableEq String)

instance (t : ScalarType) : Ord t.Carrier :=
  match t with
  | .integer => inferInstanceAs (Ord Int64)
  | .real => inferInstanceAs (Ord Real64)
  | .boolean => inferInstanceAs (Ord Bool)
  | .string => inferInstanceAs (Ord String)

instance (t : ScalarType) : Std.TransOrd t.Carrier :=
  match t with
  | .integer => inferInstanceAs (Std.TransOrd Int64)
  | .real => inferInstanceAs (Std.TransOrd Real64)
  | .boolean => inferInstanceAs (Std.TransOrd Bool)
  | .string => inferInstanceAs (Std.TransOrd String)

instance (t : ScalarType) : Std.LawfulEqOrd t.Carrier :=
  match t with
  | .integer => inferInstanceAs (Std.LawfulEqOrd Int64)
  | .real => inferInstanceAs (Std.LawfulEqOrd Real64)
  | .boolean => inferInstanceAs (Std.LawfulEqOrd Bool)
  | .string => inferInstanceAs (Std.LawfulEqOrd String)

/-- What a field holds before it is set. -/
def blank : (t : ScalarType) → t.Carrier
  | .integer => (0 : Int64)
  | .real => Real64.zero
  | .boolean => false
  | .string => ""

/-- The scalar that is held. -/
def toScalar : (t : ScalarType) → t.Carrier → Scalar
  | .integer, (i : Int64) => .integer i
  | .real, (r : Real64) => .real r
  | .boolean, (b : Bool) => .boolean b
  | .string, (s : String) => .string s

/-- What holds a scalar, if it is of the type. -/
def ofScalar? : (t : ScalarType) → Scalar → Option t.Carrier
  | .integer, .integer i => some i
  | .real, .real r => some r
  | .boolean, .boolean b => some b
  | .string, .string s => some s
  | _, _ => none

/-- What holds the entry of a map, if its key and its value are of the types. -/
def ofEntry? (k v : ScalarType) (key value : Scalar) : Option (k.Carrier × v.Carrier) := do
  return (← k.ofScalar? key, ← v.ofScalar? value)

end ScalarType

/-- The type of a field of a record. -/
inductive FieldType where
  | scalar (type : ScalarType)
  | list (element : ScalarType)
  /-- At most one element. -/
  | option (element : ScalarType)
  | map (key value : ScalarType)
deriving DecidableEq

namespace FieldType

/-- What a field of a type holds. -/
def Carrier : FieldType → Type
  | .scalar t => t.Carrier
  | .list t => List t.Carrier
  | .option t => Option t.Carrier
  | .map k v => SortedMap k.Carrier v.Carrier

instance (t : FieldType) : DecidableEq t.Carrier :=
  match t with
  | .scalar t => inferInstanceAs (DecidableEq t.Carrier)
  | .list t => inferInstanceAs (DecidableEq (List t.Carrier))
  | .option t => inferInstanceAs (DecidableEq (Option t.Carrier))
  | .map k v => inferInstanceAs (DecidableEq (SortedMap k.Carrier v.Carrier))

/-- The type of the column values of a field. -/
def valueType : FieldType → ValueType
  | .scalar t => .scalar t
  | .list t => .set t
  | .option t => .set t
  | .map k v => .map k v

/-- What a field holds before it is set. -/
def blank : (t : FieldType) → t.Carrier
  | .scalar t => t.blank
  | .list _ => []
  | .option _ => none
  | .map _ _ => SortedMap.empty

/-- The column value of what a field holds. -/
def toValue : (t : FieldType) → t.Carrier → Value
  | .scalar t, held => .scalar (t.toScalar held)
  | .list t, held => .set (List.map t.toScalar held)
  | .option t, held => .set (Option.toList (Option.map t.toScalar held))
  | .map k v, held =>
    .map (.ofList (List.map (fun entry => (k.toScalar entry.1, v.toScalar entry.2))
      (SortedMap.toList held)))

/-- What a field holds for a column value, if it takes the value. -/
def ofValue? : (t : FieldType) → Value → Option t.Carrier
  | .scalar t, .scalar s => t.ofScalar? s
  | .list t, .set elements => elements.mapM t.ofScalar?
  | .option _, .set [] => some none
  | .option t, .set [s] => (t.ofScalar? s).map some
  | .map k v, .map entries =>
    (entries.toList.mapM fun (key, value) => ScalarType.ofEntry? k v key value).map SortedMap.ofList
  | _, _ => none

end FieldType

/-- A field of a record and the column that it stands for. -/
structure Field where
  name : String
  column : String
  type : FieldType
deriving DecidableEq

end TableReplica
