import TableReplica.Json.Parts
import TableReplica.Wire.Datum

/-!
# Reading messages

Messages are read part by part in the order in which they are written, and the first part that
cannot be read decides how the reading fails: because a datum is malformed, which is told in words,
or because something else does not have the shape of the message.
-/

namespace TableReplica

/-- Why a message cannot be read. -/
inductive ReadFault where
  | shape
  | malformed (cause : Malformed)
deriving DecidableEq

namespace ReadFault

/-- The text of the fault, if it has one. -/
def message? : ReadFault → Option String
  | .shape => none
  | .malformed cause => some ("malformed datum: " ++ cause.message)

/-- What a reader yields, where nothing means that the shape is wrong. -/
def orShape {α : Type} : Option α → Except ReadFault α
  | some a => .ok a
  | none => .error .shape

/-- What a reader yields for a part that may be `null`. -/
def orNull {α : Type} (read : Json → Except ReadFault α) : Json → Except ReadFault (Option α)
  | .null => .ok none
  | value => some <$> read value

end ReadFault

namespace Json

/-- Reads the items of an array. -/
def readList {α : Type} (read : Json → Except ReadFault α) : Json → Except ReadFault (List α)
  | .array items => items.mapM read
  | _ => .error .shape

/-- Reads the members of an object into a map. -/
def readMap {α : Type} (read : Json → Except ReadFault α) :
    Json → Except ReadFault (SortedMap String α)
  | .object members =>
    SortedMap.ofList <$> members.mapM fun (name, value) => (name, ·) <$> read value
  | _ => .error .shape

/-- Reads a record. -/
def readRecord {σ : Type} (fields : List String) (field : σ → String → Json → Except ReadFault σ)
    (initial : σ) (value : Json) : Except ReadFault σ :=
  match Parts.ofJson? value with
  | some parts => parts.read fields .shape field initial
  | none => .error .shape

/-- Reads a text. -/
def readText (value : Json) : Except ReadFault String := ReadFault.orShape value.toString?

/-- Reads a truth value. -/
def readBool (value : Json) : Except ReadFault Bool := ReadFault.orShape value.toBool?

/-- Reads a natural number that fits into 64 bits. -/
def readNat (value : Json) : Except ReadFault Nat :=
  ReadFault.orShape (value.toNumber?.bind Number.toNat?)

end Json

/-- Reads an atom inside a message. -/
def Atom.read (value : Json) : Except ReadFault Atom := (Atom.ofJson value).mapError .malformed

/-- Reads a datum inside a message. -/
def Datum.read (value : Json) : Except ReadFault Datum := (Datum.ofJson value).mapError .malformed

/-- Reads a row inside a message. -/
def WireRow.read (value : Json) : Except ReadFault WireRow := value.readMap Datum.read

end TableReplica
