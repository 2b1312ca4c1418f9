import TableReplica.Real.Basic
import TableReplica.Schema.Basic

/-!
# Scalars

The single elements of typed values. Scalars are totally ordered, across their types as well, so
that they can be the keys of a sorted map: integers come before reals, reals before truth values,
and truth values before texts; reals are in the IEEE total order.
-/

namespace TableReplica

/-- The types of scalars. -/
inductive ScalarType where
  | integer
  | real
  | boolean
  | string
deriving DecidableEq

namespace ScalarType

/-- The name of a type of scalars in messages. -/
def name : ScalarType → String
  | .integer => "i64"
  | .real => "f64"
  | .boolean => "bool"
  | .string => "String"

/-- All types of scalars. -/
def all : List ScalarType := [.integer, .real, .boolean, .string]

/-- The type of the scalars that hold elements of an atomic type; identifiers are held as texts. -/
def ofAtomic : AtomicType → ScalarType
  | .integer => .integer
  | .real => .real
  | .boolean => .boolean
  | .string | .uuid => .string

end ScalarType

/-- A single element of a typed value. -/
inductive Scalar where
  | integer (i : Int64)
  | real (r : Real64)
  | boolean (b : Bool)
  | string (s : String)
deriving DecidableEq

namespace Scalar

/-- The type of a scalar. -/
def type : Scalar → ScalarType
  | .integer _ => .integer
  | .real _ => .real
  | .boolean _ => .boolean
  | .string _ => .string

/-- The place of the type of a scalar among the types. -/
def rank : Scalar → Nat
  | .integer _ => 0
  | .real _ => 1
  | .boolean _ => 2
  | .string _ => 3

/-- Compares scalars of one type by what they hold and all others by their types. -/
protected def compare : Scalar → Scalar → Ordering
  | .integer a, .integer b => compare a b
  | .real a, .real b => compare a b
  | .boolean a, .boolean b => compare a b
  | .string a, .string b => compare a b
  | a, b => compare a.rank b.rank

instance : Ord Scalar := ⟨Scalar.compare⟩

/-- The integer, or else zero. -/
def integerPart : Scalar → Int64
  | .integer i => i
  | _ => 0

/-- The real, or else zero. -/
def realPart : Scalar → Real64
  | .real r => r
  | _ => .zero

/-- The truth value, or else `false`. -/
def booleanPart : Scalar → Bool
  | .boolean b => b
  | _ => false

/-- The text, or else the empty one. -/
def stringPart : Scalar → String
  | .string s => s
  | _ => ""

/-- Compares scalars part by part: first their types, then what they hold. -/
abbrev compareParts : Scalar → Scalar → Ordering :=
  compareLex (compareOn rank) <|
    compareLex (compareOn integerPart) <|
      compareLex (compareOn realPart) <|
        compareLex (compareOn booleanPart) (compareOn stringPart)

theorem compare_eq_compareParts (a b : Scalar) : compare a b = compareParts a b := by
  show Scalar.compare a b = _
  simp only [compareParts, compareLex, compareOn]
  cases a <;> cases b <;>
    simp [Scalar.compare, rank, integerPart, realPart, booleanPart, stringPart] <;> rfl

instance : Std.TransOrd Scalar where
  eq_swap {a b} := by
    simp only [compare_eq_compareParts]
    exact (inferInstance : Std.OrientedCmp compareParts).eq_swap
  isLE_trans {a b c} := by
    simp only [compare_eq_compareParts]
    exact (inferInstance : Std.TransCmp compareParts).isLE_trans

instance : Std.LawfulEqOrd Scalar where
  eq_of_compare {a b} same := by
    change Scalar.compare a b = .eq at same
    cases a <;> cases b <;>
      first
      | exact congrArg _ (Std.LawfulEqOrd.eq_of_compare same)
      | cases same

end Scalar

end TableReplica
