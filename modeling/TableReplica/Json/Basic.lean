import TableReplica.Sorted.Map
import TableReplica.Word
import TableReplica.Real.Nearest

/-!
# JSON values

The values that travel between a database server and its clients. Numbers come in three kinds, so
that a whole number stays one: signed 64-bit integers, the naturals above them that still fit into
64 bits, and finite reals. Objects list their members in ascending order of their names, each name
once; `Json.ofMembers` brings members into that form, the last of several members of one name
counting.
-/

namespace TableReplica

/-- A JSON number. -/
inductive Number where
  /-- A whole number that fits into a signed 64-bit word. -/
  | int (i : Int64)
  /-- A whole number too large for a signed and small enough for an unsigned 64-bit word. -/
  | large (n : UInt64) (isLarge : Word.half ≤ n.toNat)
  /-- Any other number. -/
  | real (r : Real64) (isFinite : r.isFinite = true)
deriving DecidableEq

namespace Number

/-- The number that an unsigned word holds. -/
def ofUnsigned (n : UInt64) : Number :=
  if isLarge : Word.half ≤ n.toNat then .large n isLarge else .int n.toInt64

/-- The number of a finite real. -/
def ofReal? (r : Real64) : Option Number :=
  if isFinite : r.isFinite = true then some (.real r isFinite) else none

/-- The number as a real, rounded to the nearest one if it has too many digits. -/
def toReal : Number → Real64
  | .int i => Real64.ofInt i.toInt
  | .large n _ => Real64.ofNat n.toNat
  | .real r _ => r

/-- The number as a signed integer, if it was written as one that fits. -/
def toInt? : Number → Option Int64
  | .int i => some i
  | _ => none

/-- The number as a natural number, if it was written as one. -/
def toNat? : Number → Option Nat
  | .int i => if 0 ≤ i.toInt then some i.toInt.toNat else none
  | .large n _ => some n.toNat
  | .real _ _ => none

end Number

/-- A JSON value. -/
inductive Json where
  | null
  | bool (b : Bool)
  | number (n : Number)
  | string (s : String)
  | array (items : List Json)
  | object (members : List (String × Json))

namespace Json

mutual

/-- Decides whether two values are the same. -/
def decEq : (a b : Json) → Decidable (a = b)
  | .null, .null => isTrue rfl
  | .bool a, .bool b => decidable_of_iff (a = b) (by simp)
  | .number a, .number b => decidable_of_iff (a = b) (by simp)
  | .string a, .string b => decidable_of_iff (a = b) (by simp)
  | .array a, .array b => @decidable_of_iff _ (a = b) (by simp) (decEqItems a b)
  | .object a, .object b => @decidable_of_iff _ (a = b) (by simp) (decEqMembers a b)
  | .null, .bool _ | .null, .number _ | .null, .string _ | .null, .array _ | .null, .object _
  | .bool _, .null | .bool _, .number _ | .bool _, .string _ | .bool _, .array _
  | .bool _, .object _ | .number _, .null | .number _, .bool _ | .number _, .string _
  | .number _, .array _ | .number _, .object _ | .string _, .null | .string _, .bool _
  | .string _, .number _ | .string _, .array _ | .string _, .object _ | .array _, .null
  | .array _, .bool _ | .array _, .number _ | .array _, .string _ | .array _, .object _
  | .object _, .null | .object _, .bool _ | .object _, .number _ | .object _, .string _
  | .object _, .array _ => isFalse (by simp)

/-- Decides whether two lists of items are the same. -/
def decEqItems : (a b : List Json) → Decidable (a = b)
  | [], [] => isTrue rfl
  | [], _ :: _ | _ :: _, [] => isFalse (by simp)
  | a :: as, b :: bs =>
    @decidable_of_iff _ (a = b ∧ as = bs) (by simp)
      (@instDecidableAnd _ _ (decEq a b) (decEqItems as bs))

/-- Decides whether two lists of members are the same. -/
def decEqMembers : (a b : List (String × Json)) → Decidable (a = b)
  | [], [] => isTrue rfl
  | [], _ :: _ | _ :: _, [] => isFalse (by simp)
  | (n, a) :: as, (m, b) :: bs =>
    @decidable_of_iff _ ((n = m ∧ a = b) ∧ as = bs) (by simp [and_assoc])
      (@instDecidableAnd _ _ (@instDecidableAnd _ _ (instDecidableEqString n m) (decEq a b))
        (decEqMembers as bs))

end

instance : DecidableEq Json := decEq

instance : Inhabited Json := ⟨null⟩

/-- The value of a whole number. -/
def ofInt (i : Int64) : Json := .number (.int i)

/-- The value of a natural number that fits into 64 bits. -/
def ofNat (n : Nat) : Json := .number (.ofUnsigned (.ofNat n))

/-- The value of a real; what is not finite has no number and becomes `null`. -/
def ofReal (r : Real64) : Json :=
  match Number.ofReal? r with
  | some n => .number n
  | none => .null

/-- The object with these members; of several members with one name the last counts. -/
def ofMembers (members : List (String × Json)) : Json :=
  .object (SortedMap.ofList members).toList

/-- The object whose members are the entries of a map. -/
def ofMap (entries : SortedMap String Json) : Json := .object entries.toList

/-- The value of the first member with a given name in a list of members. -/
def find? (name : String) : List (String × Json) → Option Json
  | [] => none
  | (n, value) :: rest => if n = name then some value else find? name rest

/-- The member of an object with a given name. -/
def member? (name : String) : Json → Option Json
  | .object members => find? name members
  | _ => none

/-- The text of a string value. -/
def toString? : Json → Option String
  | .string s => some s
  | _ => none

/-- The truth value of a boolean. -/
def toBool? : Json → Option Bool
  | .bool b => some b
  | _ => none

/-- The number of a numeric value. -/
def toNumber? : Json → Option Number
  | .number n => some n
  | _ => none

/-- The items of an array. -/
def items? : Json → Option (List Json)
  | .array items => some items
  | _ => none

/-- The members of an object. -/
def members? : Json → Option (List (String × Json))
  | .object members => some members
  | _ => none

end Json

end TableReplica
