import TableReplica.Record.Layout
import TableReplica.Schema.Reading

/-!
# Faults

Everything that can be wrong between an application's records, a schema and the wire, with the part
of the library that found it.
-/

namespace TableReplica

/-- What is wrong between records, a schema and the wire. -/
inductive Fault where
  | schema (cause : SchemaFault)
  | registration (cause : RegistrationFault)
  | conversion (cause : ConversionFault)
  | lookup (cause : LookupFault)
  | fieldNotFound (model field : String)
  /-- Nothing that is known about a record says which row it stands for. -/
  | noIndex (table : String)
deriving DecidableEq

/-- The text of the fault, if it has one. -/
def Fault.message? : Fault → Option String
  | .schema cause => cause.message?.map ("schema error: " ++ ·)
  | .registration cause => some ("registration error: " ++ cause.message)
  | .conversion cause => some ("conversion error: " ++ cause.message)
  | .lookup cause => some cause.message
  | .fieldNotFound model field => some ("model " ++ model ++ " has no field named " ++ field)
  | .noIndex table => some ("table " ++ table ++ ": no usable index to identify the row")

instance : MonadLift (Except ConversionFault) (Except Fault) := ⟨Except.mapError .conversion⟩

instance : MonadLift (Except LookupFault) (Except Fault) := ⟨Except.mapError .lookup⟩

instance : MonadLift (Except RegistrationFault) (Except Fault) :=
  ⟨Except.mapError .registration⟩

end TableReplica
