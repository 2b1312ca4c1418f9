import Mathlib.Data.List.Nodup
import TableReplica.Proofs.Failure
import TableReplica.Proofs.Record.Decoding
import TableReplica.Proofs.Sorted

/-!
# Registering record types

Record types are registered one after the other, and the fields of each are gone through one after
the other, until the first fault. What is registered in the end is known from the types alone: all
of them if each is well-formed and no two share a table (`Registrable`), and otherwise the first one
that is not, or whose table is taken, says how the registration fails (`Registry.ofTypes_exact`).
-/

namespace TableReplica

/-! ## Fields -/

/-- What is wrong with a field behind others that map some columns. -/
inductive Field.Faulty (model : String) (columns : List String) (f : Field) :
    RegistrationFault → Prop
  | again (taken : f.column ∈ columns) : Faulty model columns f (.duplicateColumn model f.column)
  | noText (new : f.column ∉ columns) (identity : f.column = Identifier.idColumn)
    (type : f.type ≠ .scalar .string) : Faulty model columns f (.missingIdentity model)

/-- Fields that map no column twice, and the one for the identifier, if there is one, to a text. -/
structure Field.Sound (fields : List Field) : Prop where
  columnsDistinct : (fields.map Field.column).Nodup
  identityText : ∀ f ∈ fields, f.column = Identifier.idColumn → f.type = .scalar .string

namespace Field

variable {model : String} {fields passed more rest : List Field} {f : Field}

theorem isIdentity_iff :
    f.isIdentity = true ↔ f.column = Identifier.idColumn ∧ f.type = .scalar .string := by
  rw [isIdentity, Bool.and_eq_true, beq_iff_eq, beq_iff_eq]

theorem sound_concat_iff : Sound (passed ++ [f]) ↔ Sound passed ∧ f.column ∉ passed.map column
    ∧ (f.column = Identifier.idColumn → f.type = .scalar .string) := by
  have columns : ((passed ++ [f]).map column).Nodup ↔
      (passed.map column).Nodup ∧ f.column ∉ passed.map column := by
    rw [List.map_append, List.map_singleton, List.nodup_append_comm, List.singleton_append,
      List.nodup_cons, and_comm]
  have identities : (∀ g ∈ passed ++ [f], g.column = Identifier.idColumn →
      g.type = .scalar .string) ↔
      (∀ g ∈ passed, g.column = Identifier.idColumn → g.type = .scalar .string)
        ∧ (f.column = Identifier.idColumn → f.type = .scalar .string) := by
    rw [List.forall_mem_append, List.forall_mem_singleton]
  constructor
  · rintro ⟨distinct, text⟩
    obtain ⟨before, new⟩ := columns.mp distinct
    obtain ⟨textBefore, own⟩ := identities.mp text
    exact ⟨⟨before, textBefore⟩, new, own⟩
  · rintro ⟨⟨before, textBefore⟩, new, own⟩
    exact ⟨columns.mpr ⟨before, new⟩, identities.mpr ⟨textBefore, own⟩⟩

/-- Fields are sound, or there is a first one at fault. -/
theorem sound_or_faulty (model : String) (fields : List Field) : Sound fields ∨
    ∃ passed f after fault, fields = passed ++ f :: after ∧ Sound passed
      ∧ f.Faulty model (passed.map column) fault := by
  induction fields using List.reverseRecOn with
  | nil => exact .inl ⟨List.nodup_nil, by rintro _ ⟨⟩⟩
  | append_singleton passed f ih =>
    rcases ih with sound | ⟨passed, g, after, fault, rfl, sound, faulty⟩
    · by_cases new : f.column ∈ passed.map column
      · exact .inr ⟨passed, f, [], _, rfl, sound, .again new⟩
      · by_cases text : f.column = Identifier.idColumn → f.type = .scalar .string
        · exact .inl (sound_concat_iff.mpr ⟨sound, new, text⟩)
        · rw [Classical.not_imp] at text
          exact .inr ⟨passed, f, [], _, rfl, sound, .noText new text.1 text.2⟩
    · exact .inr ⟨passed, g, after ++ [f], fault, by simp, sound, faulty⟩

end Field

namespace Layout

variable {model : String} {passed rest : List Field} {f : Field} {fault : RegistrationFault}

/-- Sound fields are passed over. -/
theorem fieldFault?_append (sound : Field.Sound passed) (rest : List Field) :
    fieldFault? model [] (passed ++ rest) =
      fieldFault? model (passed.map Field.column).reverse rest := by
  induction passed using List.reverseRecOn generalizing rest with
  | nil => rfl
  | append_singleton passed f ih =>
    obtain ⟨before, new, text⟩ := Field.sound_concat_iff.mp sound
    have notAgain : ¬ (passed.map Field.column).reverse.contains f.column = true := by
      rwa [List.contains_iff_mem, List.mem_reverse]
    have notMistyped : ¬ (f.column == Identifier.idColumn && !f.isIdentity) = true := by
      simp only [Bool.and_eq_true, beq_iff_eq, Bool.not_eq_true', Bool.eq_false_iff, ne_eq,
        Field.isIdentity_iff, not_and]
      exact fun identity refused => refused identity (text identity)
    rw [List.append_assoc, List.singleton_append, ih before, fieldFault?, if_neg notAgain,
      if_neg notMistyped, List.map_append, List.map_singleton, List.reverse_append,
      List.reverse_singleton, List.singleton_append]

theorem fieldFault?_of_sound (sound : Field.Sound passed) : fieldFault? model [] passed = none := by
  rw [← List.append_nil passed, fieldFault?_append sound]
  rfl

theorem fieldFault?_of_faulty (sound : Field.Sound passed)
    (faulty : f.Faulty model (passed.map Field.column) fault) :
    fieldFault? model [] (passed ++ f :: rest) = some fault := by
  rw [fieldFault?_append sound, fieldFault?, List.contains_reverse]
  cases faulty with
  | again taken => rw [if_pos (List.contains_iff_mem.mpr taken)]
  | noText new identity type =>
    have mistyped : (f.column == Identifier.idColumn && !f.isIdentity) = true := by
      simp [identity, Bool.eq_false_iff, Field.isIdentity_iff, type]
    rw [if_neg fun taken => new (List.contains_iff_mem.mp taken), if_pos mistyped]

/-- Whether the look-ups of a layout find the fields of a record type, each under its own column and
its own name, and the one for the identifier. -/
structure Finds (l : Layout) (t : RecordType) : Prop where
  sameType : l.type = t
  byColumn : ∀ column position, l.fieldOf? column = some position ↔
    ∃ f, t.fields[position]? = some f ∧ f.column = column
  byName : ∀ name position, l.fieldNamed? name = some position ↔
    ∃ f, t.fields[position]? = some f ∧ f.name = name
  identity : ∃ f, t.fields[l.identity]? = some f ∧ f.column = Identifier.idColumn

theorem finds_type (l : Layout) : l.Finds l.type := by
  obtain ⟨f, there, isIdentity⟩ := l.exists_identity
  exact ⟨rfl, fun _ _ => List.findIdx?_key_eq_some_iff l.columnsDistinct,
    fun _ _ => List.findIdx?_key_eq_some_iff l.type.namesDistinct, f, there,
    (Field.isIdentity_iff.mp isIdentity).1⟩

/-- Two layouts of one record type are the same. -/
theorem eq_of_type_eq {l l' : Layout} (same : l.type = l'.type) : l = l' := by
  cases l
  cases l'
  cases same
  rfl

end Layout

/-! ## Record types -/

/-- Whether records of a type can stand for the rows of a table: the type names one, maps no column
twice, and has exactly one field for the identifier, which is a text. -/
structure RecordType.WellFormed (t : RecordType) : Prop where
  hasTable : t.table ≠ ""
  columnsDistinct : (t.fields.map Field.column).Nodup
  identity : ∃ f, t.fields.filter (fun f => f.column == Identifier.idColumn) = [f]
    ∧ f.type = .scalar .string

/-- What is wrong with a record type that is not well-formed: of several faults the first one. -/
inductive RecordType.Faulty (t : RecordType) : RegistrationFault → Prop
  | noTable (unnamed : t.table = "") : Faulty t (.missingTable t.name)
  | field {passed after : List Field} {f : Field} {fault : RegistrationFault}
    (named : t.table ≠ "") (split : t.fields = passed ++ f :: after) (sound : Field.Sound passed)
    (faulty : f.Faulty t.name (passed.map Field.column) fault) : Faulty t fault
  | noIdentity (named : t.table ≠ "") (sound : Field.Sound t.fields)
    (missing : ∀ f ∈ t.fields, f.column ≠ Identifier.idColumn) : Faulty t (.missingIdentity t.name)

namespace RecordType

variable {t : RecordType} {fault : RegistrationFault}

theorem WellFormed.sound (wellFormed : t.WellFormed) : Field.Sound t.fields := by
  obtain ⟨f, only, text⟩ := wellFormed.identity
  refine ⟨wellFormed.columnsDistinct, fun g member identity => ?_⟩
  have among : g ∈ t.fields.filter fun f => f.column == Identifier.idColumn :=
    List.mem_filter.mpr ⟨member, beq_iff_eq.mpr identity⟩
  rw [only, List.mem_singleton] at among
  exact among ▸ text

theorem WellFormed.exists_layout (wellFormed : t.WellFormed) : ∃ l : Layout, l.type = t := by
  obtain ⟨f, only, text⟩ := wellFormed.identity
  have among : f ∈ t.fields.filter fun f => f.column == Identifier.idColumn := by simp [only]
  obtain ⟨member, identity⟩ := List.mem_filter.mp among
  have hasIdentity : t.fields.any Field.isIdentity = true :=
    List.any_eq_true.mpr ⟨f, member, Field.isIdentity_iff.mpr ⟨beq_iff_eq.mp identity, text⟩⟩
  exact ⟨⟨t, wellFormed.hasTable, wellFormed.columnsDistinct, hasIdentity⟩, rfl⟩

/-- Sound fields of which one is for the identifier have no other one for it. -/
theorem wellFormed_of_sound (named : t.table ≠ "") (sound : Field.Sound t.fields) {f : Field}
    (member : f ∈ t.fields) (identity : f.column = Identifier.idColumn) : t.WellFormed := by
  refine ⟨named, sound.columnsDistinct, f, ?_, sound.identityText f member identity⟩
  have distinct := sound.columnsDistinct
  obtain ⟨before, after, split⟩ := List.append_of_mem member
  rw [split, List.map_append, List.map_cons, identity, List.nodup_middle, List.nodup_cons,
    ← List.map_append] at distinct
  have others : (before ++ after).filter (fun f => f.column == Identifier.idColumn) = [] :=
    List.filter_eq_nil_iff.mpr fun g other same =>
      distinct.1 (beq_iff_eq.mp same ▸ List.mem_map_of_mem other)
  rw [List.filter_append, List.append_eq_nil_iff] at others
  have kept : (f.column == Identifier.idColumn) = true := beq_iff_eq.mpr identity
  rw [split, List.filter_append, others.1, List.nil_append, List.filter_cons, if_pos kept, others.2]

/-- A record type is well-formed, or there is a first thing that is wrong with it. -/
theorem wellFormed_or_faulty (t : RecordType) : t.WellFormed ∨ ∃ fault, t.Faulty fault := by
  by_cases unnamed : t.table = ""
  · exact .inr ⟨_, .noTable unnamed⟩
  · rcases Field.sound_or_faulty t.name t.fields with sound | ⟨_, _, _, _, split, sound, faulty⟩
    · by_cases missing : ∀ f ∈ t.fields, f.column ≠ Identifier.idColumn
      · exact .inr ⟨_, .noIdentity unnamed sound missing⟩
      · simp only [not_forall, not_not] at missing
        obtain ⟨f, member, identity⟩ := missing
        exact .inl (wellFormed_of_sound unnamed sound member identity)
    · exact .inr ⟨_, .field unnamed split sound faulty⟩

end RecordType

namespace Layout

variable {t : RecordType} {fault : RegistrationFault}

theorem ofType_of_layout (l : Layout) (sound : Field.Sound l.type.fields) :
    ofType l.type = .ok l := by
  rw [ofType, dif_neg l.hasTable]
  split
  next found =>
    rw [fieldFault?_of_sound sound] at found
    cases found
  next => rw [dif_pos ⟨l.columnsDistinct, l.hasIdentity⟩]

theorem ofType_of_faulty (faulty : t.Faulty fault) : ofType t = .error fault := by
  rw [ofType]
  cases faulty with
  | noTable unnamed => rw [dif_pos unnamed]
  | @field passed after f _ named split sound faulty =>
    have found : fieldFault? t.name [] t.fields = some fault :=
      split ▸ fieldFault?_of_faulty sound faulty
    rw [dif_neg named, found]
  | noIdentity named sound missing =>
    have noIdentity : ¬ t.fields.any Field.isIdentity = true := by
      rw [List.any_eq_true]
      rintro ⟨f, member, isIdentity⟩
      exact missing f member (Field.isIdentity_iff.mp isIdentity).1
    rw [dif_neg named, fieldFault?_of_sound sound]
    exact dif_neg fun both => noIdentity both.2

theorem ofType_of_wellFormed (wellFormed : t.WellFormed) :
    ∃ l, ofType t = .ok l ∧ l.type = t := by
  obtain ⟨l, rfl⟩ := wellFormed.exists_layout
  exact ⟨l, l.ofType_of_layout wellFormed.sound, rfl⟩

end Layout

/-! ## Registries -/

/-- Whether record types can be registered together: each is well-formed, and no two share a
table. -/
structure Registrable (types : List RecordType) : Prop where
  wellFormed : ∀ t ∈ types, t.WellFormed
  tablesDistinct : (types.map RecordType.table).Nodup

/-- What is wrong with registering a record type behind others. -/
inductive Registry.Faulty (earlier : List RecordType) (t : RecordType) : RegistrationFault → Prop
  | type {fault : RegistrationFault} (faulty : t.Faulty fault) : Faulty earlier t fault
  | taken (wellFormed : t.WellFormed) (taken : t.table ∈ earlier.map RecordType.table) :
    Faulty earlier t (.duplicateTable t.table)

/-- Whether a registry holds some record types and no others, each for its own table. -/
def Registry.Holds (g : Registry) (types : List RecordType) : Prop :=
  ∀ table l, g.layout? table = some l ↔ l.type ∈ types ∧ l.type.table = table

theorem registrable_concat_iff {earlier : List RecordType} {t : RecordType} :
    Registrable (earlier ++ [t]) ↔
      Registrable earlier ∧ t.WellFormed ∧ t.table ∉ earlier.map RecordType.table := by
  have tables : ((earlier ++ [t]).map RecordType.table).Nodup ↔
      (earlier.map RecordType.table).Nodup ∧ t.table ∉ earlier.map RecordType.table := by
    rw [List.map_append, List.map_singleton, List.nodup_append_comm, List.singleton_append,
      List.nodup_cons, and_comm]
  have types : (∀ u ∈ earlier ++ [t], u.WellFormed) ↔
      (∀ u ∈ earlier, u.WellFormed) ∧ t.WellFormed := by
    rw [List.forall_mem_append, List.forall_mem_singleton]
  constructor
  · rintro ⟨wellFormed, distinct⟩
    obtain ⟨before, own⟩ := types.mp wellFormed
    obtain ⟨distinctBefore, new⟩ := tables.mp distinct
    exact ⟨⟨before, distinctBefore⟩, own, new⟩
  · rintro ⟨⟨before, distinctBefore⟩, own, new⟩
    exact ⟨types.mpr ⟨before, own⟩, tables.mpr ⟨distinctBefore, new⟩⟩

/-- Record types can be registered together, or there is a first one at fault. -/
theorem registrable_or_faulty (types : List RecordType) : Registrable types ∨
    ∃ fault earlier t later, types = earlier ++ t :: later ∧ Registrable earlier
      ∧ Registry.Faulty earlier t fault := by
  induction types using List.reverseRecOn with
  | nil => exact .inl ⟨by rintro _ ⟨⟩, List.nodup_nil⟩
  | append_singleton earlier t ih =>
    rcases ih with registrable | ⟨fault, earlier, u, later, rfl, registrable, faulty⟩
    · rcases t.wellFormed_or_faulty with wellFormed | ⟨fault, faulty⟩
      · by_cases taken : t.table ∈ earlier.map RecordType.table
        · exact .inr ⟨_, earlier, t, [], rfl, registrable, .taken wellFormed taken⟩
        · exact .inl (registrable_concat_iff.mpr ⟨registrable, wellFormed, taken⟩)
      · exact .inr ⟨fault, earlier, t, [], rfl, registrable, .type faulty⟩
    · exact .inr ⟨fault, earlier, u, later ++ [t], by simp, registrable, faulty⟩

namespace Registry

variable {g : Registry} {name : String} {types earlier : List RecordType} {t : RecordType}
  {fault : RegistrationFault}

/-- A type that is registered for a table is the one of its layout. -/
theorem exists_layout_of_tableFor? {table : String} (registered : g.tableFor? t = some table) :
    ∃ l, g.layout? table = some l ∧ l.type = t := by
  rw [tableFor?] at registered
  split at registered
  next l found =>
    split at registered
    next same =>
      cases registered
      exact ⟨l, found, same⟩
    next => cases registered
  next => cases registered

namespace Holds

theorem contains_iff (holds : g.Holds types) (registrable : Registrable types) {table : String} :
    g.layouts.contains table = true ↔ table ∈ types.map RecordType.table := by
  rw [SortedMap.contains, Option.isSome_iff_exists, List.mem_map]
  constructor
  · rintro ⟨l, found⟩
    exact ⟨l.type, (holds table l).mp found⟩
  · rintro ⟨t, member, rfl⟩
    obtain ⟨l, rfl⟩ := (registrable.wellFormed t member).exists_layout
    exact ⟨l, (holds l.type.table l).mpr ⟨member, rfl⟩⟩

theorem size_eq (holds : g.Holds types) (registrable : Registrable types) :
    g.size = types.length := by
  have sameTables : g.layouts.keys.Perm (types.map RecordType.table) := by
    refine (List.perm_ext_iff_of_nodup g.layouts.keys_nodup registrable.tablesDistinct).mpr ?_
    intro table
    rw [← holds.contains_iff registrable, SortedMap.contains, Option.isSome_iff_exists]
    exact SortedMap.mem_keys_iff g.layouts table
  have sameLength := sameTables.length_eq
  rwa [SortedMap.keys, List.length_map, List.length_map] at sameLength

/-- A well-formed record type whose table is not taken is registered behind the others. -/
theorem register (holds : g.Holds earlier) (registrable : Registrable earlier)
    (wellFormed : t.WellFormed) (new : t.table ∉ earlier.map RecordType.table) :
    ∃ g', g.register t = .ok g' ∧ g'.Holds (earlier ++ [t]) := by
  obtain ⟨l, laid, rfl⟩ := Layout.ofType_of_wellFormed wellFormed
  have free : ¬ g.layouts.contains l.table = true := fun taken =>
    new ((holds.contains_iff registrable).mp taken)
  refine ⟨g.insert l, ?_, fun table l' => ?_⟩
  · rw [Registry.register, laid, Except.ok_bind, if_neg free]
    rfl
  · have placed : (g.insert l).layout? table =
        if table = l.type.table then some l else g.layout? table :=
      SortedMap.get?_insert g.layouts l.type.table table l
    rw [placed, List.mem_append, List.mem_singleton]
    split
    next same =>
      subst same
      constructor
      · rintro ⟨⟩
        exact ⟨.inr rfl, rfl⟩
      · rintro ⟨before | same, sameTable⟩
        · exact absurd (sameTable ▸ List.mem_map_of_mem before) new
        · rw [Layout.eq_of_type_eq same]
    next other =>
      rw [holds table l']
      constructor
      · rintro ⟨before, sameTable⟩
        exact ⟨.inl before, sameTable⟩
      · rintro ⟨before | same, sameTable⟩
        · exact ⟨before, sameTable⟩
        · exact absurd (sameTable.symm.trans (congrArg RecordType.table same)) other

theorem tableFor?_eq_some_iff (holds : g.Holds types) (registrable : Registrable types)
    {table : String} : g.tableFor? t = some table ↔ t ∈ types ∧ t.table = table := by
  constructor
  · intro registered
    obtain ⟨l, found, rfl⟩ := exists_layout_of_tableFor? registered
    exact (holds table l).mp found
  · rintro ⟨member, rfl⟩
    obtain ⟨l, rfl⟩ := (registrable.wellFormed t member).exists_layout
    rw [tableFor?, (holds l.type.table l).mpr ⟨member, rfl⟩]
    exact if_pos rfl

end Holds

theorem ofTypes_append (name : String) (earlier later : List RecordType) :
    ofTypes name (earlier ++ later) = ofTypes name earlier >>= fun g => later.foldlM register g :=
  List.foldlM_append

/-- Record types that can be registered together are registered. -/
theorem exists_ofTypes (name : String) (registrable : Registrable types) :
    ∃ g, ofTypes name types = .ok g ∧ g.Holds types := by
  induction types using List.reverseRecOn with
  | nil => exact ⟨empty name, rfl, fun table l => ⟨by rintro ⟨⟩, by rintro ⟨⟨⟩, -⟩⟩⟩
  | append_singleton earlier t ih =>
    obtain ⟨before, wellFormed, new⟩ := registrable_concat_iff.mp registrable
    obtain ⟨g, made, holds⟩ := ih before
    obtain ⟨g', registered, holds'⟩ := holds.register before wellFormed new
    refine ⟨g', ?_, holds'⟩
    rw [ofTypes_append, made, Except.ok_bind]
    exact Except.bind_eq_ok_iff.mpr ⟨g', registered, rfl⟩

theorem register_of_faulty (holds : g.Holds earlier) (registrable : Registrable earlier)
    (faulty : Faulty earlier t fault) : g.register t = .error fault := by
  cases faulty with
  | type faulty =>
    rw [register, Layout.ofType_of_faulty faulty]
    rfl
  | taken wellFormed taken =>
    obtain ⟨l, laid, rfl⟩ := Layout.ofType_of_wellFormed wellFormed
    rw [register, laid, Except.ok_bind]
    exact if_pos ((holds.contains_iff registrable).mpr taken)

/-- Record types of which one is at fault are not registered. -/
theorem ofTypes_of_faulty (name : String) (registrable : Registrable earlier)
    (faulty : Faulty earlier t fault) (later : List RecordType) :
    ofTypes name (earlier ++ t :: later) = .error fault := by
  obtain ⟨g, made, holds⟩ := exists_ofTypes name registrable
  rw [ofTypes_append, made, Except.ok_bind, List.foldlM_cons,
    register_of_faulty holds registrable faulty]
  rfl

/-- Registering record types succeeds exactly if each of them is well-formed and no two share a
table, and otherwise fails as the first one does that is not well-formed or whose table is taken.
The registry holds the types that have been registered and no others, as many as there were, each
for its own table, with a layout that finds its fields and with a blank record of it. -/
theorem ofTypes_exact (name : String) (types : List RecordType) :
    ((∃ g, ofTypes name types = .ok g) ↔ Registrable types)
      ∧ (∀ fault, ofTypes name types = .error fault ↔ ∃ earlier t later,
        types = earlier ++ t :: later ∧ Registrable earlier ∧ Faulty earlier t fault)
      ∧ ∀ g, ofTypes name types = .ok g → g.size = types.length ∧ g.Holds types
        ∧ (∀ t table, g.tableFor? t = some table ↔ t ∈ types ∧ t.table = table)
        ∧ ∀ t ∈ types, g.blank? t.table = some (.blank t)
          ∧ ∃ l, g.layout? t.table = some l ∧ l.Finds t := by
  have decided := Except.iff_of_decided (registrable_or_faulty types)
    (fun registrable => (exists_ofTypes name registrable).imp fun _ both => both.1)
    (by
      rintro fault ⟨earlier, t, later, rfl, registrable, faulty⟩
      exact ofTypes_of_faulty name registrable faulty later)
  refine ⟨decided.1, decided.2, fun g made => ?_⟩
  have registrable := decided.1.mp ⟨g, made⟩
  obtain ⟨g', made', holds⟩ := exists_ofTypes name registrable
  cases made.symm.trans made'
  refine ⟨holds.size_eq registrable, holds, fun t table => holds.tableFor?_eq_some_iff registrable,
    fun t member => ?_⟩
  obtain ⟨l, rfl⟩ := (registrable.wellFormed t member).exists_layout
  have found : g.layout? l.type.table = some l := (holds _ l).mpr ⟨member, rfl⟩
  refine ⟨?_, l, found, l.finds_type⟩
  rw [blank?, found]
  rfl

end Registry

/-! ## An example -/

namespace Sample

/-- Records that stand for ports. -/
def outlet : RecordType where
  name := "Outlet"
  table := "Port"
  fields := [⟨"cost", "cost", .scalar .real⟩, ⟨"row", "_uuid", .scalar .string⟩]

/-- Records that stand for bridges and have their names under two fields. -/
def twoNames : RecordType where
  name := "TwoNames"
  table := "Bridge"
  fields := [⟨"uuid", "_uuid", .scalar .string⟩, ⟨"name", "name", .scalar .string⟩,
    ⟨"alias", "name", .scalar .string⟩, ⟨"row", "_uuid", .scalar .integer⟩]

/-- Records that stand for nothing. -/
def adrift : RecordType where
  name := "Adrift"
  table := ""
  fields := []

theorem outlet_wellFormed : outlet.WellFormed := ⟨by decide, by decide, _, rfl, rfl⟩

theorem outlet_registrable : Registrable [outlet] :=
  ⟨List.forall_mem_singleton.mpr outlet_wellFormed, List.nodup_singleton _⟩

end Sample

/-- The first of several faults says how types cannot be registered, be it that of a type or of one
of its fields, and the later ones do not matter. A type that comes again finds its table taken. -/
theorem Registry.ofTypes_exact_outlets :
    ofTypes "Sample" [Sample.outlet, Sample.twoNames, Sample.adrift] =
        .error (.duplicateColumn "TwoNames" "name")
      ∧ ofTypes "Sample" [Sample.outlet, Sample.outlet] = .error (.duplicateTable "Port")
      ∧ ∃ g, ofTypes "Sample" [Sample.outlet] = .ok g ∧ g.size = 1
        ∧ g.tableFor? Sample.outlet = some "Port" ∧ g.tableFor? Sample.twoNames = none := by
  refine ⟨((ofTypes_exact _ _).2.1 _).mpr ⟨[Sample.outlet], Sample.twoNames, [Sample.adrift], rfl,
      Sample.outlet_registrable, ?_⟩,
    ((ofTypes_exact _ _).2.1 _).mpr ⟨[Sample.outlet], Sample.outlet, [], rfl,
      Sample.outlet_registrable, .taken Sample.outlet_wellFormed (by decide)⟩, ?_⟩
  · -- The fault is that of the third field: the first two are sound.
    have split : Sample.twoNames.fields = Sample.twoNames.fields.take 2
        ++ ⟨"alias", "name", .scalar .string⟩ :: Sample.twoNames.fields.drop 3 := rfl
    exact .type (.field (by decide) split ⟨by decide, by decide⟩ (.again (by decide)))
  · obtain ⟨g, made⟩ := (ofTypes_exact "Sample" [Sample.outlet]).1.mpr Sample.outlet_registrable
    obtain ⟨size, -, tables, -⟩ := (ofTypes_exact _ _).2.2 g made
    refine ⟨g, made, size, (tables _ _).mpr ⟨List.mem_singleton_self _, rfl⟩, ?_⟩
    exact Option.eq_none_iff_forall_ne_some.mpr fun table registered =>
      absurd ((tables _ _).mp registered).1 (by decide)

end TableReplica
