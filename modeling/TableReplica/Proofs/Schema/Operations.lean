import TableReplica.Proofs.Sorted
import TableReplica.Schema.Operations

/-!
# What operations name

Operations are checked against a schema one by one. An operation passes if the schema has its table
and, but for the columns that every table has, all columns that the operation names in its rows and
selects (`Schema.checkOperation_cases`); a list of operations is refused for the first that does not
(`Schema.checkOperations_cases`). The columns of mutations and clauses are named as well, but they
are not looked at.
-/

namespace TableReplica

/-! ## What an operation names -/

/-- All columns that an operation names: those of its rows, those that it selects, those that it
changes in place and those that its clauses compare. -/
def Operation.mentionedColumns (o : Operation) : List String :=
  o.namedColumns ++ o.mutations.map Mutation.column ++ o.clauses.map Clause.column

/-- Whether a column of a table may be named: the table has it, or every table does. -/
def TableSchema.Offers (t : TableSchema) (column : String) : Prop :=
  column = Identifier.idColumn ∨ column = Identifier.versionColumn
    ∨ ∃ c, t.column? column = some c

theorem TableSchema.not_offers_iff {t : TableSchema} {column : String} : ¬ t.Offers column ↔
    (!Identifier.isImplicit column && !t.columns.contains column) = true := by
  rw [Offers, ← Option.isSome_iff_exists]
  simp [Identifier.isImplicit, SortedMap.contains, column?, and_assoc]

namespace Schema

/-- Whether columns of a table may be named. -/
def Offers (s : Schema) (table : String) (columns : List String) : Prop :=
  ∃ t, s.table? table = some t ∧ ∀ c ∈ columns, t.Offers c

/-- What is missing first if columns of a table are named: the table, or else a column behind some
that may be named. -/
inductive Lacks (s : Schema) (table : String) (columns : List String) : LookupFault → Prop where
  | table (missing : s.table? table = none) : Lacks s table columns (.table table)
  | column {t : TableSchema} {before after : List String} {c : String}
    (present : s.table? table = some t) (named : columns = before ++ c :: after)
    (offered : ∀ b ∈ before, t.Offers b) (missing : ¬ t.Offers c) :
    Lacks s table columns (.column table c)

variable {s : Schema}

theorem Lacks.not_offers {table : String} {columns : List String} {cause : LookupFault}
    (lacks : s.Lacks table columns cause) : ¬ s.Offers table columns := by
  rintro ⟨t, present, offered⟩
  cases lacks with
  | table missing =>
    rw [missing] at present
    cases present
  | column present' named _ missing =>
    cases present.symm.trans present'
    exact missing (offered _ (by simp [named]))

theorem Offers.mono {table : String} {columns fewer : List String} (offers : s.Offers table columns)
    (subset : fewer ⊆ columns) : s.Offers table fewer := by
  obtain ⟨t, present, offered⟩ := offers
  exact ⟨t, present, fun c named => offered c (subset named)⟩

/-! ## The check -/

/-- An operation passes if what it names in its rows and selects may be named; otherwise what is
missing first is told. -/
theorem checkOperation_cases (s : Schema) (o : Operation) :
    (s.checkOperation o = .ok () ∧ s.Offers o.table o.namedColumns)
      ∨ ∃ cause, s.checkOperation o = .error cause ∧ s.Lacks o.table o.namedColumns cause := by
  rw [checkOperation, requireTable]
  cases present : s.table? o.table with
  | none => exact .inr ⟨_, rfl, .table present⟩
  | some t =>
    simp only [bind, Except.bind]
    split
    next c found =>
      obtain ⟨missing, before, after, named, offered⟩ := List.find?_eq_some_iff_append.mp found
      refine .inr ⟨_, rfl, .column present named (fun b earlier => ?_)
        (TableSchema.not_offers_iff.mpr missing)⟩
      by_contra other
      simpa [TableSchema.not_offers_iff.mp other] using offered b earlier
    next none =>
      refine .inl ⟨rfl, t, present, fun c named => ?_⟩
      by_contra missing
      exact List.find?_eq_none.mp none c named (TableSchema.not_offers_iff.mp missing)

/-- Operations pass if each of them does; otherwise what is missing is told of the first one that
does not. -/
theorem checkOperations_cases (s : Schema) (operations : List Operation) :
    (s.checkOperations operations = .ok ()
        ∧ ∀ o ∈ operations, s.Offers o.table o.namedColumns)
      ∨ ∃ before o after cause, operations = before ++ o :: after
        ∧ (∀ b ∈ before, s.Offers b.table b.namedColumns)
        ∧ s.Lacks o.table o.namedColumns cause
        ∧ s.checkOperations operations = .error cause := by
  induction operations with
  | nil => exact .inl ⟨rfl, by simp⟩
  | cons o rest ih =>
    have step : s.checkOperations (o :: rest) =
        s.checkOperation o >>= fun _ => s.checkOperations rest := rfl
    rcases s.checkOperation_cases o with ⟨passes, offers⟩ | ⟨cause, refused, lacks⟩
    · rw [step, passes]
      rcases ih with ⟨pass, offer⟩ | ⟨before, o', after, cause, rfl, offer, lacks, refused⟩
      · exact .inl ⟨pass, List.forall_mem_cons.mpr ⟨offers, offer⟩⟩
      · exact .inr ⟨o :: before, o', after, cause, rfl, List.forall_mem_cons.mpr ⟨offers, offer⟩,
          lacks, refused⟩
    · rw [step, refused]
      exact .inr ⟨[], o, rest, cause, rfl, by simp, lacks, rfl⟩

end Schema

end TableReplica
