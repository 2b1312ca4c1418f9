import TableReplica.Proofs.Schema.Parsed
import TableReplica.Proofs.Value.Conversion

/-!
# Well-formed columns

Each column of a schema that has been read has the name and the type that the document gives it: the
name of an atomic type alone, or a type in full whose parts decide what kind of column it is. So the
types of its values are known, and no value, key or datum is ever refused because its type is
missing (`Schema.column_well_formed`).
-/

namespace TableReplica

/-! ## Types in documents -/

namespace Source

/-- Whether a part of a document is a field of the record that the document writes. -/
def HasField (fields : List String) (document : Source) (name : String) (part : Source) : Prop :=
  ∃ parts, Parts.ofSource? document = some parts ∧ (name, part) ∈ parts.labelled fields

/-- Whether a document gives a column of a table a type. -/
inductive GivesType (document : Source) (table column : String) (type : Json) : Prop
  | intro {tables columns : List (String × Source)} {t c part : Source}
    (inSchema : HasField ["name", "version", "tables"] document "tables" (.object tables))
    (tableNamed : (table, t) ∈ tables)
    (inTable : HasField ["columns", "indexes", "isRoot", "maxRows"] t "columns" (.object columns))
    (columnNamed : (column, c) ∈ columns)
    (inColumn : HasField ["type", "ephemeral", "mutable"] c "type" part)
    (value : part.toJson? = some type)

theorem hasField_of_readFields? {fields : List String} {document part : Source}
    {parts : SortedMap String Source} {name : String}
    (read : document.readFields? fields = some parts) (found : parts.get? name = some part) :
    HasField fields document name part := by
  obtain ⟨written, known, read⟩ := Option.bind_eq_some_iff.mp read
  rw [Parts.fields?] at read
  split at read
  next =>
    cases read
    exact ⟨written, known, SortedMap.mem_of_mem_ofList (SortedMap.get?_eq_some_iff.mp found)⟩
  next => cases read

theorem exists_member_of_readMap? {α : Type} {read : Source → Option α} {document : Source}
    {m : SortedMap String α} {name : String} {a : α} (made : readMap? read document = some m)
    (found : m.get? name = some a) :
    ∃ members part, document = .object members ∧ (name, part) ∈ members ∧ read part = some a := by
  unfold readMap? at made
  split at made
  next members =>
    obtain ⟨entries, images, rfl⟩ := Option.map_eq_some_iff.mp made
    have listed := SortedMap.mem_of_mem_ofList (SortedMap.get?_eq_some_iff.mp found)
    obtain ⟨⟨name', part⟩, member, image⟩ := Option.exists_of_mem_mapM images listed
    obtain ⟨a', read, same⟩ := Option.map_eq_some_iff.mp image
    cases same
    exact ⟨members, part, rfl, member, read⟩
  next => cases made

end Source

theorem ColumnDraft.hasField_of_read? {document : Source} {draft : ColumnDraft}
    (read : read? document = some draft) :
    ∃ part, Source.HasField ["type", "ephemeral", "mutable"] document "type" part
      ∧ part.toJson? = some draft.type := by
  obtain ⟨fields, given, read⟩ := Option.bind_eq_some_iff.mp read
  obtain ⟨part, found, read⟩ := Option.bind_eq_some_iff.mp read
  obtain ⟨type, value, read⟩ := Option.bind_eq_some_iff.mp read
  obtain ⟨ephemeral, -, read⟩ := Option.bind_eq_some_iff.mp read
  obtain ⟨mutable, -, made⟩ := Option.bind_eq_some_iff.mp read
  cases made
  exact ⟨part, Source.hasField_of_readFields? given found, value⟩

theorem TableDraft.hasField_of_read? {document : Source} {draft : TableDraft}
    (read : read? document = some draft) :
    ∃ part, Source.HasField ["columns", "indexes", "isRoot", "maxRows"] document "columns" part
      ∧ Source.readMap? ColumnDraft.read? part = some draft.columns := by
  obtain ⟨fields, given, read⟩ := Option.bind_eq_some_iff.mp read
  obtain ⟨part, found, read⟩ := Option.bind_eq_some_iff.mp read
  obtain ⟨columns, value, read⟩ := Option.bind_eq_some_iff.mp read
  obtain ⟨indexes, -, read⟩ := Option.bind_eq_some_iff.mp read
  obtain ⟨isRoot, -, read⟩ := Option.bind_eq_some_iff.mp read
  obtain ⟨maxRows, -, made⟩ := Option.bind_eq_some_iff.mp read
  cases made
  exact ⟨part, Source.hasField_of_readFields? given found, value⟩

namespace SchemaDraft

variable {document : Source} {draft : SchemaDraft}

theorem hasField_of_read? (read : read? document = some draft) :
    ∃ part, Source.HasField ["name", "version", "tables"] document "tables" part
      ∧ Source.readMap? TableDraft.read? part = some draft.tables := by
  obtain ⟨fields, given, read⟩ := Option.bind_eq_some_iff.mp read
  obtain ⟨nameValue, -, read⟩ := Option.bind_eq_some_iff.mp read
  obtain ⟨name, -, read⟩ := Option.bind_eq_some_iff.mp read
  obtain ⟨version, -, read⟩ := Option.bind_eq_some_iff.mp read
  obtain ⟨part, found, read⟩ := Option.bind_eq_some_iff.mp read
  obtain ⟨tables, value, made⟩ := Option.bind_eq_some_iff.mp read
  cases made
  exact ⟨part, Source.hasField_of_readFields? given found, value⟩

/-- What is read as the type of a column is what the document gives as its type. -/
theorem givesType_of_read? (read : read? document = some draft) {table column : String}
    {t : TableDraft} {c : ColumnDraft} (present : draft.tables.get? table = some t)
    (listed : t.columns.get? column = some c) : document.GivesType table column c.type := by
  obtain ⟨_, inSchema, read⟩ := hasField_of_read? read
  obtain ⟨tables, _, rfl, tableNamed, read⟩ := Source.exists_member_of_readMap? read present
  obtain ⟨_, inTable, read⟩ := TableDraft.hasField_of_read? read
  obtain ⟨columns, _, rfl, columnNamed, read⟩ := Source.exists_member_of_readMap? read listed
  obtain ⟨_, inColumn, value⟩ := ColumnDraft.hasField_of_read? read
  exact .intro inSchema tableNamed inTable columnNamed inColumn value

end SchemaDraft

/-! ## What writes a type -/

/-- Whether a value writes a base type. -/
inductive BaseType.WrittenAs (b : BaseType) : Json → Prop
  /-- A name alone makes no constraints. -/
  | name (plain : b = { kind := b.kind }) : WrittenAs b (.string b.kind.name)
  | object {members : List (String × Json)}
    (kind : Json.find? "type" members = some (.string b.kind.name))
    (enumerated : b.enumeration.isSome = (Json.find? "enum" members).isSome) :
    WrittenAs b (.object members)

/-- Whether a base type that refers to a table says how strongly it does. -/
def BaseType.TellsStrength (b : BaseType) : Prop := b.refTable.isSome → b.refStrength.isSome

namespace ColumnType

/-- Whether the least number of elements is what a member of a type, which may be missing, says. -/
inductive MinWrittenAs : Int64 → Option Json → Prop
  | one : MinWrittenAs 1 none
  | given (n : Int64) : MinWrittenAs n (some (.ofInt n))

/-- Whether the greatest number of elements is what a member of a type, which may be missing,
says. -/
inductive MaxWrittenAs : Int64 → Option Json → Prop
  | one : MaxWrittenAs 1 none
  | unlimited : MaxWrittenAs unlimited (some (.string "unlimited"))
  | given (n : Int64) : MaxWrittenAs n (some (.ofInt n))

/-- Whether the members of an object write a type. -/
structure WrittenAs (t : ColumnType) (members : List (String × Json)) : Prop where
  key : ∃ value, Json.find? "key" members = some value ∧ t.key.WrittenAs value
  value : Option.Rel BaseType.WrittenAs t.value (Json.find? "value" members)
  min : MinWrittenAs t.min (Json.find? "min" members)
  max : MaxWrittenAs t.max (Json.find? "max" members)

/-- The base types that a type is made of. -/
def parts (t : ColumnType) : List BaseType := t.key :: t.value.toList

/-- Whether a type makes columns of a kind. -/
structure Makes (t : ColumnType) (kind : ColumnKind) : Prop where
  map_iff : kind = .map ↔ t.value ≠ none
  enumeration_iff : kind = .enumeration ↔ t.value = none ∧ t.key.enumeration ≠ none
  atomic_iff : ∀ type, kind = .atomic type ↔
    type = t.key.kind ∧ t.value = none ∧ t.key.enumeration = none ∧ t.min = 1 ∧ t.max = 1
  set_iff : kind = .set ↔ t.value = none ∧ t.key.enumeration = none ∧ ¬ (t.min = 1 ∧ t.max = 1)

theorem makes_columnKind (t : ColumnType) : t.Makes t.columnKind := by
  obtain ⟨key, value, min, max⟩ := t
  rw [columnKind]
  cases value with
  | some mapped => constructor <;> simp
  | none =>
    cases enumerated : key.enumeration with
    | some values => constructor <;> simp [enumerated]
    | none =>
      by_cases one : min = 1 ∧ max = 1
      · constructor <;> simp [enumerated, one, eq_comm]
      · constructor <;> simp [enumerated, one]

end ColumnType

/-- Whether a value writes the type of a column. -/
inductive ColumnSchema.WrittenAs (c : ColumnSchema) : Json → Prop
  | name {type : AtomicType} (kind : c.kind = .atomic type) (bare : c.type? = none) :
    WrittenAs c (.string type.name)
  | object {t : ColumnType} {members : List (String × Json)} (given : c.type? = some t)
    (written : t.WrittenAs members) (makes : t.Makes c.kind) : WrittenAs c (.object members)

/-! ## Reading types -/

theorem Json.eq_string_of_toString? {value : Json} {s : String} (text : value.toString? = some s) :
    value = .string s := by
  cases value <;> cases text
  rfl

theorem Json.eq_ofInt_of_toInt? {value : Json} {i : Int64}
    (whole : value.toNumber?.bind Number.toInt? = some i) : value = .ofInt i := by
  obtain ⟨n, number, whole⟩ := Option.bind_eq_some_iff.mp whole
  cases value <;> cases number
  cases n <;> cases whole
  rfl

namespace AtomicType

variable {text : String} {type : AtomicType}

theorem name_of_ofName? (found : ofName? text = some type) : text = type.name := by
  have named := List.find?_some found
  exact (beq_iff_eq.mp named).symm

theorem name_of_resolve (resolved : resolve text = .ok type) : text = type.name := by
  rw [resolve] at resolved
  split at resolved
  next found =>
    cases resolved
    exact name_of_ofName? found
  next => cases resolved

end AtomicType

namespace BaseType

theorem isSome_of_resolveStrength {name refTable : Option String} {strength : Option RefStrength}
    (resolved : resolveStrength name refTable = .ok strength) (refers : refTable.isSome) :
    strength.isSome := by
  unfold resolveStrength at resolved
  split at resolved
  next =>
    cases resolved
    rwa [Option.isSome_map]
  next =>
    split at resolved
    next =>
      cases resolved
      rfl
    next => cases resolved

theorem writtenAs_of_resolve {value : Json} {b : BaseType} (resolved : resolve value = .ok b) :
    b.WrittenAs value ∧ b.TellsStrength := by
  unfold resolve at resolved
  split at resolved
  next name =>
    obtain ⟨kind, known, made⟩ := Except.bind_eq_ok_iff.mp resolved
    cases made
    cases AtomicType.name_of_resolve known
    exact ⟨.name rfl, nofun⟩
  next members =>
    split at resolved
    next kind known =>
      obtain ⟨enumeration, enumerated, resolved⟩ := Except.bind_eq_ok_iff.mp resolved
      obtain ⟨strength, told, made⟩ := Except.bind_eq_ok_iff.mp resolved
      cases made
      obtain ⟨text, typed, named⟩ := Option.bind_eq_some_iff.mp known
      obtain ⟨part, given, typed⟩ := Option.bind_eq_some_iff.mp typed
      cases Json.eq_string_of_toString? typed
      cases AtomicType.name_of_ofName? named
      exact ⟨.object given (Except.optionMapM_eq_ok_iff.mp enumerated).isSome_eq,
        isSome_of_resolveStrength told⟩
    next => cases resolved
  next => cases resolved

end BaseType

namespace ColumnType

theorem minWrittenAs_of_resolveMin {member : Option Json} {n : Int64}
    (resolved : resolveMin member = .ok n) : MinWrittenAs n member := by
  unfold resolveMin at resolved
  split at resolved
  next =>
    cases resolved
    exact .one
  next =>
    split at resolved
    next whole =>
      cases resolved
      rw [Json.eq_ofInt_of_toInt? whole]
      exact .given n
    next => cases resolved

theorem maxWrittenAs_of_resolveMax {member : Option Json} {n : Int64}
    (resolved : resolveMax member = .ok n) : MaxWrittenAs n member := by
  unfold resolveMax at resolved
  split at resolved
  next =>
    cases resolved
    exact .one
  next =>
    cases resolved
    exact .unlimited
  next => cases resolved
  next =>
    split at resolved
    next whole =>
      cases resolved
      rw [Json.eq_ofInt_of_toInt? whole]
      exact .given n
    next => cases resolved

/-- All that a value can be from which a type is read. -/
theorem writtenAs_of_resolve {value : Json} {made : ColumnKind × Option ColumnType}
    (resolved : resolve value = .ok made) :
    (∃ type, value = .string type.name ∧ made = (.atomic type, none))
      ∨ ∃ members t, value = .object members ∧ made = (t.columnKind, some t)
        ∧ t.WrittenAs members ∧ ∀ b ∈ t.parts, b.TellsStrength := by
  unfold resolve at resolved
  split at resolved
  next name =>
    obtain ⟨type, known, made⟩ := Except.bind_eq_ok_iff.mp resolved
    cases made
    cases AtomicType.name_of_resolve known
    exact .inl ⟨type, rfl, rfl⟩
  next members =>
    split at resolved
    next keyValue given =>
      obtain ⟨key, keyRead, resolved⟩ := Except.bind_eq_ok_iff.mp resolved
      obtain ⟨value, valueRead, resolved⟩ := Except.bind_eq_ok_iff.mp resolved
      obtain ⟨min, minRead, resolved⟩ := Except.bind_eq_ok_iff.mp resolved
      obtain ⟨max, maxRead, made⟩ := Except.bind_eq_ok_iff.mp resolved
      cases made
      have keyWritten := BaseType.writtenAs_of_resolve keyRead
      have valueWritten : Option.Rel (fun b v => b.WrittenAs v ∧ b.TellsStrength) value
          (Json.find? "value" members) :=
        (Except.optionMapM_eq_ok_iff.mp valueRead).imp fun _ _ => BaseType.writtenAs_of_resolve
      refine .inr ⟨members, ⟨key, value, min, max⟩, rfl, rfl, ?_, ?_⟩
      · exact ⟨⟨keyValue, given, keyWritten.1⟩, valueWritten.imp fun _ _ => And.left,
          minWrittenAs_of_resolveMin minRead, maxWrittenAs_of_resolveMax maxRead⟩
      · rw [parts, List.forall_mem_cons]
        refine ⟨keyWritten.2, fun b member => ?_⟩
        cases Option.mem_toList.mp member
        generalize Json.find? "value" members = part at valueWritten
        cases valueWritten with
        | some written => exact written.2
    next => cases resolved
  next => cases resolved

end ColumnType

namespace Schema

variable {s : Schema} {table column : String} {t : TableSchema} {c : ColumnSchema}

/-- A column of a schema that has been read is made from the type that the document gives it. -/
theorem exists_type_of_ofSource {document : Source} (read : ofSource document = .ok s)
    (present : s.table? table = some t) (listed : t.column? column = some c) :
    c.name = column ∧ ∃ type, document.GivesType table column type
      ∧ ColumnType.resolve type = .ok (c.kind, c.type?) := by
  rw [ofSource] at read
  split at read
  next draft drafted =>
    obtain ⟨tables, resolved, made⟩ := Except.bind_eq_ok_iff.mp read
    cases made
    obtain ⟨tableDraft, tablePresent, made⟩ :=
      SortedMap.exists_of_get?_mapValuesExcept resolved present
    obtain ⟨columns, resolved, made⟩ := Except.bind_eq_ok_iff.mp made
    cases made
    obtain ⟨columnDraft, columnPresent, made⟩ :=
      SortedMap.exists_of_get?_mapValuesExcept resolved listed
    have given := SchemaDraft.givesType_of_read? drafted tablePresent columnPresent
    rw [ColumnDraft.resolve] at made
    split at made
    next kind type? resolved =>
      cases made
      exact ⟨rfl, columnDraft.type, given, resolved⟩
    next => cases made
  next => cases read

end Schema

/-! ## Known types -/

/-- Whether a conversion does not fail for want of a type. -/
def Supported {α : Type} (x : Except ConversionFault α) : Prop :=
  ∀ column, x ≠ .error (.unsupported column)

namespace Supported

variable {α β : Type}

theorem ok (a : α) : Supported (.ok a) := by
  intro column failed
  cases failed

theorem error {fault : ConversionFault} (other : ∀ column, fault ≠ .unsupported column) :
    Supported (.error fault : Except ConversionFault α) := by
  intro column failed
  cases failed
  exact other column rfl

theorem bind {x : Except ConversionFault α} {f : α → Except ConversionFault β}
    (first : Supported x) (next : ∀ a, Supported (f a)) : Supported (x >>= f) := by
  intro column failed
  rcases Except.bind_eq_error_iff.mp failed with failed | ⟨a, -, failed⟩
  · exact first column failed
  · exact next a column failed

theorem mapM {f : α → Except ConversionFault β} (each : ∀ a, Supported (f a)) (l : List α) :
    Supported (l.mapM f) := by
  intro column failed
  obtain ⟨-, a, -, -, -, failed⟩ := Except.mapM_eq_error_iff.mp failed
  exact each a column failed

end Supported

namespace ColumnSchema

variable {c : ColumnSchema}

theorem supported_decodeAtom (c : ColumnSchema) (type : AtomicType) (a : Atom) :
    Supported (c.decodeAtom type a) := by
  rw [decodeAtom]
  split
  next => exact .ok _
  next => exact .error (by simp)

theorem supported_decodeEntry (c : ColumnSchema) (key mapped : AtomicType) (e : Atom × Atom) :
    Supported (c.decodeEntry key mapped e) :=
  (c.supported_decodeAtom key e.1).bind fun _ =>
    (c.supported_decodeAtom mapped e.2).bind fun _ => .ok _

namespace Resolved

theorem supported_decode (resolved : c.Resolved) (datum : Datum) : Supported (c.decode datum) := by
  obtain ⟨key, keyed⟩ := resolved.exists_keyType
  rw [decode, keyed, Except.ok_bind]
  cases kind : c.kind with
  | set =>
    dsimp only
    split
    next => exact (Supported.mapM (c.supported_decodeAtom key) _).bind fun _ => .ok _
    next => exact .error (by simp)
  | map =>
    obtain ⟨mapped, known⟩ := resolved.exists_mappedType kind
    rw [known]
    dsimp only
    split
    next => exact (Supported.mapM (c.supported_decodeEntry key mapped) _).bind fun _ => .ok _
    next => exact .error (by simp)
  | atomic _ | enumeration =>
    dsimp only
    split
    next => exact (c.supported_decodeAtom key _).bind fun _ => .ok _
    next => exact (c.supported_decodeAtom key _).bind fun _ => .ok _
    next =>
      split
      next => exact .ok _
      next => exact .error (by simp)
    next => exact .error (by simp)

theorem supported_encode (resolved : c.Resolved) (value : Value) : Supported (c.encode value) := by
  obtain ⟨type, typed⟩ := resolved.exists_valueType
  by_cases conforming : value.conforms type = true
  · obtain ⟨datum, encoded⟩ := exists_encode typed conforming
    rw [encoded]
    exact .ok datum
  · rw [encode, typed, Except.ok_bind, if_neg conforming]
    exact .error (by simp)

theorem supported_encodeKey (resolved : c.Resolved) (s : Scalar) : Supported (c.encodeKey s) := by
  obtain ⟨key, keyed⟩ := resolved.exists_keyType
  rw [encodeKey, keyed, Except.ok_bind]
  split
  next => exact .ok _
  next => exact .error (by simp)

end Resolved

end ColumnSchema

/-- A column of a schema that has been read has its own name and the type that the document gives
it, every reference in this type says how strong it is, and the type is all that is needed to
convert data, values and keys. -/
theorem Schema.column_well_formed {value : Json} {s : Schema} (read : ofJson value = .ok s)
    {table column : String} {t : TableSchema} {c : ColumnSchema} (present : s.table? table = some t)
    (listed : t.column? column = some c) :
    c.name = column
      ∧ (∃ type, (Source.ofJson value).GivesType table column type ∧ c.WrittenAs type)
      ∧ (∀ type, c.type? = some type → ∀ b ∈ type.parts, b.refTable.isSome → b.refStrength.isSome)
      ∧ (∃ key, c.keyType = .ok key)
      ∧ (∃ type, c.valueType = .ok type)
      ∧ (∀ datum, Supported (c.decode datum))
      ∧ (∀ v, Supported (c.encode v))
      ∧ ∀ scalar, Supported (c.encodeKey scalar) := by
  obtain ⟨named, type, gives, resolved⟩ := exists_type_of_ofSource read present listed
  have known : c.Resolved := ColumnSchema.resolved_of_resolve resolved
  refine ⟨named, ?_, ?_, known.exists_keyType, known.exists_valueType, known.supported_decode,
    known.supported_encode, known.supported_encodeKey⟩
  · refine ⟨type, gives, ?_⟩
    rcases ColumnType.writtenAs_of_resolve resolved with ⟨atomic, rfl, made⟩ |
      ⟨members, t, rfl, made, written, -⟩
    · obtain ⟨kind, bare⟩ := Prod.mk.inj made
      exact .name kind bare
    · obtain ⟨kind, given⟩ := Prod.mk.inj made
      exact .object given written (kind ▸ t.makes_columnKind)
  · intro type given
    rcases ColumnType.writtenAs_of_resolve resolved with ⟨_, -, made⟩ | ⟨_, t, -, made, -, telling⟩
    · cases given.symm.trans (Prod.mk.inj made).2
    · cases given.symm.trans (Prod.mk.inj made).2
      exact telling

/-- The references to ports: a set whose elements have a type that tells how strong they are, and
which takes no map, but not for want of a type. -/
theorem Schema.column_well_formed_ports :
    ofJson Sample.networkDocument = .ok Sample.network
      ∧ Sample.network.table? "Switch" = some Sample.switches
      ∧ Sample.switches.column? "ports" = some Sample.ports
      ∧ (∃ type, (Source.ofJson Sample.networkDocument).GivesType "Switch" "ports" type
        ∧ Sample.ports.WrittenAs type)
      ∧ (∃ fault, Sample.ports.decode (.map []) = .error fault)
      ∧ Supported (Sample.ports.decode (.map [])) := by
  have read : ofJson Sample.networkDocument = .ok Sample.network := rfl
  have present : Sample.network.table? "Switch" = some Sample.switches := rfl
  have listed : Sample.switches.column? "ports" = some Sample.ports := rfl
  obtain ⟨-, written, -, -, -, decoding, -⟩ := column_well_formed read present listed
  exact ⟨read, present, listed, written, ⟨_, rfl⟩, decoding _⟩

end TableReplica
