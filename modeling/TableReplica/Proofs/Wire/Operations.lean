import Mathlib.Data.List.Nodup
import Mathlib.Data.Set.Function
import TableReplica.Proofs.Wire.Codec
import TableReplica.Wire.Operation

/-!
# Telling operations apart

An operation is written without the members that say nothing, and which of them these are depends on
its kind. Nothing is lost by that: a part that is left out is blank, and a blank part that is not
left out is written like any other. So the object that an operation is written as tells all of its
parts (`Operation.toJson_lossless`), but for reals that are not finite, which JSON has no number for.
-/

namespace TableReplica

/-! ## Members that may be left out -/

namespace Json

/-- The members that write parts, some of which say nothing. -/
def written (parts : List (String × Option Json)) : List (String × Json) :=
  parts.filterMap fun part => part.2.map (part.1, ·)

variable {parts parts' : List (String × Option Json)} {name : String} {said : Option Json}

theorem written_cons (name : String) (said : Option Json) (rest : List (String × Option Json)) :
    written ((name, said) :: rest) = (said.map (name, ·)).toList ++ written rest := by
  cases said <;> rfl

theorem names_written (parts : List (String × Option Json)) :
    ((written parts).map Prod.fst).Sublist (parts.map Prod.fst) := by
  induction parts with
  | nil => exact .slnil
  | cons part rest ih =>
    obtain ⟨name, said⟩ := part
    cases said with
    | none => exact ih.cons name
    | some value => exact ih.cons_cons name

theorem mem_written_iff (distinct : (parts.map Prod.fst).Nodup) (member : (name, said) ∈ parts)
    {value : Json} : (name, value) ∈ written parts ↔ said = some value := by
  rw [written, List.mem_filterMap]
  constructor
  · rintro ⟨other, member', image⟩
    obtain ⟨value', meant, same⟩ := Option.map_eq_some_iff.mp image
    cases same
    have unique : (other.1, said) = other := List.inj_on_of_nodup_map distinct member member' rfl
    exact (congrArg Prod.snd unique).trans meant
  · rintro rfl
    exact ⟨(name, some value), member, rfl⟩

/-- Parts with the same names that are written as the same object are the same. -/
theorem parts_eq_of_written (names : parts.map Prod.fst = parts'.map Prod.fst)
    (distinct : (parts.map Prod.fst).Nodup)
    (same : ofMembers (written parts) = ofMembers (written parts')) : parts = parts' := by
  have distinct' : (parts'.map Prod.fst).Nodup := names ▸ distinct
  have agree : ∀ name said said', (name, said) ∈ parts → (name, said') ∈ parts' →
      said = said' := by
    intro name said said' member member'
    apply Option.ext
    intro value
    rw [← mem_written_iff distinct member, ← mem_written_iff distinct' member',
      ← SortedMap.mem_ofList_iff ((names_written parts).nodup distinct),
      ← SortedMap.mem_ofList_iff ((names_written parts').nodup distinct'), Json.object.inj same]
  clear same distinct distinct'
  induction parts generalizing parts' with
  | nil => exact (List.map_eq_nil_iff.mp names.symm).symm
  | cons part rest ih =>
    obtain ⟨part', rest', rfl, sameName, later⟩ := List.map_eq_cons_iff.mp names.symm
    have first : part' = part :=
      Prod.ext sameName (agree part.1 part.2 part'.2 List.mem_cons_self
        (sameName ▸ List.mem_cons_self)).symm
    rw [first, ih later.symm fun name said said' member member' =>
      agree name said said' (List.mem_cons_of_mem _ member) (List.mem_cons_of_mem _ member')]

/-- What a part says if it is given at all. -/
def saidIf (given : Bool) (value : Json) : Option Json := if given then some value else none

/-- What is left out only if it is blank is known from what is said. -/
theorem eq_of_saidIf {α : Type} (write : α → Json) (blank : α) {a a' : α} {given given' : Bool}
    (left : given = false → a = blank) (left' : given' = false → a' = blank)
    (injective : write a = write a' → a = a')
    (same : saidIf given (write a) = saidIf given' (write a')) : a = a' := by
  cases given with
  | true =>
    cases given' with
    | true => exact injective (Option.some.inj same)
    | false => cases same
  | false =>
    cases given' with
    | true => cases same
    | false => rw [left rfl, left' rfl]

end Json

/-! ## Data, rows, clauses and mutations -/

/-- What is read back is told from anything else by how it is written. -/
theorem injOn_of_read {ε α : Type} {write : α → Json} {read : Json → Except ε α}
    {writable : Set α} (back : ∀ a ∈ writable, read (write a) = .ok a) :
    Set.InjOn write writable := by
  intro a finite a' finite' same
  have read' := back a' finite'
  rw [← same, back a finite] at read'
  exact Except.ok.inj read'

theorem map_eq_map_of_injOn {α β : Type} {f : α → β} {s : Set α} (injective : Set.InjOn f s)
    {l l' : List α} (within : ∀ a ∈ l, a ∈ s) (within' : ∀ a ∈ l', a ∈ s)
    (same : l.map f = l'.map f) : l = l' := by
  induction l generalizing l' with
  | nil => exact (List.map_eq_nil_iff.mp same.symm).symm
  | cons a rest ih =>
    obtain ⟨a', rest', rfl, first, later⟩ := List.map_eq_cons_iff.mp same.symm
    rw [List.forall_mem_cons] at within within'
    rw [injective within.1 within'.1 first.symm, ih within.2 within'.2 later.symm]

theorem Datum.toJson_injOn : Set.InjOn Datum.toJson {d | d.isWritable = true} :=
  injOn_of_read fun _ => Datum.ofJson_toJson

theorem WireRow.toJson_injOn : Set.InjOn WireRow.toJson {row | row.isWritable = true} :=
  injOn_of_read fun _ => WireRow.read_toJson

theorem Comparison.name_injective : Function.Injective Comparison.name := by
  intro c c' same
  cases c <;> cases c' <;> first | rfl | exact absurd same (by decide)

theorem Mutator.name_injective : Function.Injective Mutator.name := by
  intro m m' same
  cases m <;> cases m' <;> first | rfl | exact absurd same (by decide)

theorem OperationKind.name_injective : Function.Injective OperationKind.name := by
  intro k k' same
  cases k <;> cases k' <;> first | rfl | exact absurd same (by decide)

/-- A list of parts that is left out if there are none is known from what is said. -/
theorem list_eq_of_saidIf {α : Type} {write : α → Json} {writable : α → Bool} {given given' : Bool}
    (injective : Set.InjOn write {a | writable a = true}) {l l' : List α}
    (left : given = false → l = []) (left' : given' = false → l' = [])
    (finite : l.all writable = true) (finite' : l'.all writable = true)
    (same : Json.saidIf given (.array (l.map write)) = Json.saidIf given' (.array (l'.map write))) :
    l = l' :=
  Json.eq_of_saidIf (fun l => .array (l.map write)) [] left left' (fun same =>
    map_eq_map_of_injOn injective (List.all_eq_true.mp finite) (List.all_eq_true.mp finite')
      (Json.array.inj same)) same

/-- Whether JSON can write all atoms of a clause, and below of a mutation and of an operation. -/
def Clause.isWritable (c : Clause) : Bool := c.datum.isWritable

def Mutation.isWritable (m : Mutation) : Bool := m.datum.isWritable

def Operation.isWritable (o : Operation) : Bool :=
  o.row.isWritable && o.rows.all WireRow.isWritable && o.mutations.all Mutation.isWritable
    && o.clauses.all Clause.isWritable

theorem Clause.toJson_injOn : Set.InjOn Clause.toJson {c | c.isWritable = true} := by
  rintro ⟨column, comparison, datum⟩ finite ⟨column', comparison', datum'⟩ finite' same
  simp only [toJson, Json.array.injEq, List.cons.injEq, Json.string.injEq, and_true] at same
  obtain ⟨rfl, sameName, sameDatum⟩ := same
  obtain rfl := Comparison.name_injective sameName
  obtain rfl : datum = datum' := Datum.toJson_injOn finite finite' sameDatum
  rfl

theorem Mutation.toJson_injOn : Set.InjOn Mutation.toJson {m | m.isWritable = true} := by
  rintro ⟨column, mutator, datum⟩ finite ⟨column', mutator', datum'⟩ finite' same
  simp only [toJson, Json.array.injEq, List.cons.injEq, Json.string.injEq, and_true] at same
  obtain ⟨rfl, sameName, sameDatum⟩ := same
  obtain rfl := Mutator.name_injective sameName
  obtain rfl : datum = datum' := Datum.toJson_injOn finite finite' sameDatum
  rfl

theorem Number.ofUnsigned_injective : Function.Injective Number.ofUnsigned := by
  intro n n' same
  have read := Number.toNat?_ofUnsigned n
  rw [same, Number.toNat?_ofUnsigned] at read
  exact UInt64.toNat_inj.mp (Option.some.inj read).symm

/-! ## Operations -/

namespace Operation

/-- What an operation says under each of its names, if it says anything. -/
def parts (o : Operation) : List (String × Option Json) :=
  [("op", some (.string o.kind.name)), ("table", some (.string o.table)),
    ("row", Json.saidIf (!o.row.isEmpty || o.kind == .insert) o.row.toJson),
    ("rows", Json.saidIf (!o.rows.isEmpty) (.array (o.rows.map WireRow.toJson))),
    ("columns", Json.saidIf (!o.columns.isEmpty) (.array (o.columns.map .string))),
    ("mutations", Json.saidIf (!o.mutations.isEmpty) (.array (o.mutations.map Mutation.toJson))),
    ("timeout", o.timeout.map fun t => .number (.ofUnsigned t)),
    ("where", Json.saidIf (!o.clauses.isEmpty || o.kind == .select)
      (.array (o.clauses.map Clause.toJson))),
    ("until", o.until?.map .string),
    ("uuid-name", Json.saidIf (!o.uuidName.isEmpty) (.string o.uuidName))]

theorem members_eq_written (o : Operation) : o.members = Json.written o.parts := by
  have given : ∀ present (name : String) value,
      ((Json.saidIf present value).map (name, ·)).toList =
        if present then [(name, value)] else [] := by
    intro present name value
    cases present <;> rfl
  simp only [parts, Json.written_cons, given, Option.map_map]
  simp only [members, Json.written, List.filterMap_nil, List.append_nil, List.append_assoc,
    Option.map_some, Option.toList_some, List.cons_append, List.nil_append]
  rfl

theorem names_parts (o : Operation) : o.parts.map Prod.fst =
    ["op", "table", "row", "rows", "columns", "mutations", "timeout", "where", "until",
      "uuid-name"] := rfl

/-- An operation whose reals are all finite is told from any other one by the object that it is
written as. -/
theorem toJson_lossless : Set.InjOn toJson {o | o.isWritable = true} := by
  intro o finite o' finite' same
  have sameParts : o.parts = o'.parts := by
    refine Json.parts_eq_of_written rfl (names_parts o ▸ by decide) ?_
    rw [← members_eq_written, ← members_eq_written]
    exact same
  simp only [parts, List.cons.injEq, Prod.mk.injEq, Option.some.injEq, Json.string.injEq, true_and,
    and_true] at sameParts
  obtain ⟨sameKind, sameTable, row, rows, columns, mutations, timeout, clauses, condition,
    name⟩ := sameParts
  simp only [Set.mem_ofPred_eq, isWritable, Bool.and_eq_true] at finite finite'
  obtain ⟨⟨⟨rowFinite, rowsFinite⟩, mutationsFinite⟩, clausesFinite⟩ := finite
  obtain ⟨⟨⟨rowFinite', rowsFinite'⟩, mutationsFinite'⟩, clausesFinite'⟩ := finite'
  have sameRow : o.row = o'.row :=
    Json.eq_of_saidIf WireRow.toJson .empty (by simp +contextual [SortedMap.isEmpty_iff])
      (by simp +contextual [SortedMap.isEmpty_iff]) (WireRow.toJson_injOn rowFinite rowFinite') row
  have sameRows : o.rows = o'.rows :=
    list_eq_of_saidIf WireRow.toJson_injOn (by simp) (by simp) rowsFinite rowsFinite' rows
  have sameColumns : o.columns = o'.columns :=
    Json.eq_of_saidIf (fun columns => .array (columns.map .string)) [] (by simp) (by simp)
      (fun written => List.map_injective_iff.mpr (fun _ _ => Json.string.inj)
        (Json.array.inj written)) columns
  have sameMutations : o.mutations = o'.mutations :=
    list_eq_of_saidIf Mutation.toJson_injOn (by simp) (by simp) mutationsFinite mutationsFinite'
      mutations
  have sameTimeout : o.timeout = o'.timeout :=
    Option.map_injective (fun t t' written => Number.ofUnsigned_injective (Json.number.inj written))
      timeout
  have sameClauses : o.clauses = o'.clauses :=
    list_eq_of_saidIf Clause.toJson_injOn (by simp +contextual) (by simp +contextual)
      clausesFinite clausesFinite' clauses
  have sameCondition : o.until? = o'.until? :=
    Option.map_injective (fun _ _ => Json.string.inj) condition
  have sameName : o.uuidName = o'.uuidName :=
    Json.eq_of_saidIf Json.string "" (by simp) (by simp) Json.string.inj name
  cases o
  cases o'
  rw [mk.injEq]
  exact ⟨OperationKind.name_injective sameKind, sameTable, sameRow, sameRows, sameColumns,
    sameMutations, sameTimeout, sameClauses, sameCondition, sameName⟩

end Operation

/-! ## An example -/

namespace Sample

/-- Waits until there is a port with a cost and two links. -/
def awaitPort : Operation where
  kind := .wait
  table := "Port"
  columns := ["cost", "links"]
  rows := [portRow, .empty]
  clauses := [⟨"links", .includes, .set [.namedUuid "set"]⟩]
  until? := some "=="

end Sample

/-- Waiting without a limit is not written as waiting for no time at all, nor without rows as with a
row that is empty. -/
theorem Operation.toJson_lossless_waits :
    Sample.awaitPort.isWritable = true
      ∧ Sample.awaitPort.toJson ≠ { Sample.awaitPort with timeout := some 0 }.toJson
      ∧ { Sample.awaitPort with rows := [] }.toJson ≠
        { Sample.awaitPort with rows := [.empty] }.toJson := by
  refine ⟨rfl, fun same => ?_, fun same => ?_⟩
  · cases congrArg Operation.timeout (toJson_lossless rfl rfl same)
  · cases congrArg Operation.rows (toJson_lossless rfl rfl same)

end TableReplica
