import TableReplica.Proofs.Query.Finding

/-!
# Searches without ambiguity

The server keeps the rows of a table apart by each of its indexes, so each index singles out one
record at most for a record that is searched for. But a search takes the first record that agrees on
any of the indexes, and two of them may single out different records: what is found depends on the
order of the search then, and in no other case. For a record that is told from others by the indexes
that it fills, it depends on whether these single out the same record, which they do if any two of
them have an index in common (`Replica.search_unambiguous`).
-/

namespace TableReplica

namespace Binding

variable {b : Binding} {a r r' : Record} {group part : List (Nat × String)}

theorem agreeAt_of_subset (subset : part ⊆ group)
    (agrees : agreeAt a r (group.map Prod.fst) = true) : agreeAt a r (part.map Prod.fst) = true :=
  agreeAt_iff.mpr fun position member =>
    agreeAt_iff.mp agrees position (List.map_subset Prod.fst subset member)

theorem agreeAt_of_common {positions : List Nat} (agrees : agreeAt a r positions = true)
    (agrees' : agreeAt a r' positions = true) : agreeAt r r' positions = true :=
  agreeAt_iff.mpr fun position member =>
    (agreeAt_iff.mp agrees position member).symm.trans (agreeAt_iff.mp agrees' position member)

/-- Whether a record agrees with another one on an index that this one fills, that is, in all of
whose columns it has values. -/
def AgreesFilled (b : Binding) (a r : Record) : Prop :=
  ∃ group ∈ b.indexGroups, isUsable a group = true ∧ agreeAt a r (group.map Prod.fst) = true

/-- Whether any two indexes that a record fills have all columns of some index in common. -/
def FilledMeet (b : Binding) (a : Record) : Prop :=
  ∀ group ∈ b.indexGroups, isUsable a group = true →
    ∀ other ∈ b.indexGroups, isUsable a other = true →
      ∃ part ∈ b.indexGroups, part ⊆ group ∧ part ⊆ other

theorem sameRow_iff_of_unidentified (unidentified : b.identity a = "") :
    b.sameRow a r [] = .ok true ↔
      ∃ group ∈ b.indexGroups, agreeAt a r (group.map Prod.fst) = true := by
  rw [sameRow_eq_of_unidentified unidentified, ← List.any_eq_true]
  cases none : b.indexGroups.isEmpty with
  | true =>
    rw [List.isEmpty_iff.mp none]
    simp
  | false => simp

end Binding

/-! ## Rows that are singled out -/

namespace StoredTable

variable {t : StoredTable} {q : Record} {picks picks' : Record → Prop}

/-- Whether no two rows of a table agree in all columns of one of its indexes. -/
def KeepsIndexes (t : StoredTable) : Prop :=
  ∀ group ∈ t.binding.indexGroups, ∀ id id' r r', t.rows.get? id = some r →
    t.rows.get? id' = some r' → Binding.agreeAt r r' (group.map Prod.fst) = true → id = id'

/-- Whether a property singles out one row of a table at most. -/
def AtMostOne (t : StoredTable) (picks : Record → Prop) : Prop :=
  ∀ id id' r r', t.rows.get? id = some r → t.rows.get? id' = some r' → picks r → picks r' → id = id'

/-- Whether a record agrees with the rows of a table on indexes that it fills, if it does on any. -/
def ToldByFilled (t : StoredTable) (q : Record) : Prop :=
  ∀ id r, t.rows.get? id = some r → t.binding.sameRow q r [] = .ok true →
    t.binding.AgreesFilled q r

theorem AtMostOne.mono (unique : t.AtMostOne picks)
    (within : ∀ id r, t.rows.get? id = some r → picks' r → picks r) : t.AtMostOne picks' :=
  fun id id' r r' found found' picked picked' =>
    unique id id' r r' found found' (within id r found picked) (within id' r' found' picked')

/-- Each index singles out one row at most for a record that is searched for. -/
theorem KeepsIndexes.atMostOne (kept : t.KeepsIndexes) {group : List (Nat × String)}
    (listed : group ∈ t.binding.indexGroups) (q : Record) :
    t.AtMostOne fun r => Binding.agreeAt q r (group.map Prod.fst) = true :=
  fun id id' r r' found found' agrees agrees' =>
    kept group listed id id' r r' found found' (Binding.agreeAt_of_common agrees agrees')

/-- So do all that a record fills, if any two of them have an index in common. -/
theorem KeepsIndexes.atMostOne_of_meet (kept : t.KeepsIndexes) (meet : t.binding.FilledMeet q) :
    t.AtMostOne (t.binding.AgreesFilled q) := by
  rintro id id' r r' found found' ⟨group, listed, filled, agrees⟩ ⟨other, listed', filled', agrees'⟩
  obtain ⟨part, inside, left, right⟩ := meet group listed filled other listed' filled'
  exact kept.atMostOne inside q id id' r r' found found'
    (Binding.agreeAt_of_subset left agrees) (Binding.agreeAt_of_subset right agrees')

/-- For a record that is told by indexes that it fills, these alone count. -/
theorem ToldByFilled.atMostOne_iff (told : t.ToldByFilled q)
    (unidentified : t.binding.identity q = "") :
    t.AtMostOne (fun r => t.binding.sameRow q r [] = .ok true) ↔
      t.AtMostOne (t.binding.AgreesFilled q) := by
  refine ⟨fun unique => unique.mono ?_, fun unique => unique.mono told⟩
  rintro _ r _ ⟨group, listed, -, agrees⟩
  exact (Binding.sameRow_iff_of_unidentified unidentified).mpr ⟨group, listed, agrees⟩

end StoredTable

/-! ## The order of a search -/

/-- The first of the things that pass a test is the same in any order, if no two of them do. -/
theorem find?_congr_of_perm {α : Type} {test : α → Bool} {order order' : List α}
    (perm : order.Perm order')
    (unique : ∀ x ∈ order, ∀ y ∈ order, test x = true → test y = true → x = y) :
    order.find? test = order'.find? test := by
  cases found : order.find? test with
  | none =>
    rw [eq_comm, List.find?_eq_none]
    exact fun x member => List.find?_eq_none.mp found x (perm.mem_iff.mpr member)
  | some x =>
    have member := List.mem_of_find?_eq_some found
    have passes := List.find?_some found
    cases found' : order'.find? test with
    | none => exact absurd passes (List.find?_eq_none.mp found' x (perm.mem_iff.mp member))
    | some y =>
      have member' := perm.mem_iff.mpr (List.mem_of_find?_eq_some found')
      exact congrArg some (unique x member y member' passes (List.find?_some found'))

namespace Store

variable {b : Binding} {t : StoredTable} {q r : Record} {order rest : List Record}

theorem search_cons (typed : r.type = q.type) (same : b.sameRow q r [] = .ok true) :
    search b q (r :: rest) = .ok r := by
  rw [search, if_pos typed, same]

namespace Keeps

variable {s : Store} {table : String}

/-- The order makes no difference if one row at most is of interest. -/
theorem search_congr (keeps : s.Keeps q.type table t) (perm : order.Perm t.rows.values)
    (unique : t.AtMostOne fun r => t.binding.sameRow q r [] = .ok true) :
    search t.binding q order = search t.binding q t.rows.values := by
  have typed : ∀ r ∈ t.rows.values, r.type = q.type := fun _ => keeps.type_of_mem
  have typed' : ∀ r ∈ order, r.type = q.type := fun r member => typed r (perm.mem_iff.mp member)
  rcases t.binding.sameRow_decided_or q with ⟨test, decided⟩ | undecided
  · rw [search_of_decided typed' decided, search_of_decided typed decided]
    suffices same : order.find? test = t.rows.values.find? test by rw [same]
    refine find?_congr_of_perm perm fun r member r' member' passes passes' => ?_
    have found := keeps.get?_of_mem (perm.mem_iff.mp member)
    have found' := keeps.get?_of_mem (perm.mem_iff.mp member')
    have sameId := unique _ _ r r' found found' (passes ▸ decided r) (passes' ▸ decided r')
    rw [sameId] at found
    exact Option.some.inj (found.symm.trans found')
  · rw [search_of_undecided typed' undecided, search_of_undecided typed undecided, perm.isEmpty_eq]

/-- And in no other case: of two rows of interest each is found first in some order. -/
theorem atMostOne_of_search (keeps : s.Keeps q.type table t)
    {outcome : Except ReplicaFault Record}
    (settled : ∀ order, order.Perm t.rows.values → search t.binding q order = outcome) :
    t.AtMostOne fun r => t.binding.sameRow q r [] = .ok true := by
  have first : ∀ id r, t.rows.get? id = some r → t.binding.sameRow q r [] = .ok true →
      outcome = .ok r := by
    intro id r found same
    have listed : r ∈ t.rows.values :=
      List.mem_map.mpr ⟨_, SortedMap.get?_eq_some_iff.mp found, rfl⟩
    rw [← settled _ (List.perm_cons_erase listed).symm]
    exact search_cons (keeps.type_of_mem listed) same
  intro id id' r r' found found' same same'
  have sameRecord : r = r' :=
    Except.ok.inj ((first id r found same).symm.trans (first id' r' found' same'))
  rw [← (keeps.sound id r found).identified, ← (keeps.sound id' r' found').identified, sameRecord]

/-- A record is found whatever the order exactly if one row at most is of interest. -/
theorem atMostOne_iff_search (keeps : s.Keeps q.type table t) :
    t.AtMostOne (fun r => t.binding.sameRow q r [] = .ok true) ↔
      ∀ order, order.Perm t.rows.values → search t.binding q order = s.find q := by
  rw [keeps.find_eq_search]
  exact ⟨fun unique order perm => keeps.search_congr perm unique, keeps.atMostOne_of_search⟩

end Keeps

end Store

/-- If no two rows of a table agree in all columns of one of its indexes, then each index singles
out one row at most for a record without an identifier. What is found for it is the same in every
order of the search exactly if one row at most is of interest. For a record that agrees with no row
on indexes alone that it does not fill, that is so exactly if the indexes that it fills do not
single out different rows, as they never do if any two of them have an index in common. -/
theorem Replica.search_unambiguous {schema : Schema} {registry : Registry} {capacity : Nat}
    {start : Replica} (created : Replica.new schema registry capacity = .ok start)
    (reports : List Changes) {q : Record} {table : String}
    (registered : registry.tableFor? q.type = some table) :
    let s := (start.populateAll reports).1.store
    ∃ t, s.table? table = some t ∧ (t.KeepsIndexes → t.binding.identity q = "" →
      (∀ group ∈ t.binding.indexGroups,
        t.AtMostOne fun r => Binding.agreeAt q r (group.map Prod.fst) = true)
      ∧ (t.ToldByFilled q → t.binding.FilledMeet q →
        t.AtMostOne (fun r => t.binding.sameRow q r [] = .ok true)
          ∧ ∀ order, order.Perm t.rows.values → Store.search t.binding q order = s.find q)
      ∧ (t.ToldByFilled q → (t.AtMostOne (fun r => t.binding.sameRow q r [] = .ok true)
        ↔ t.AtMostOne (t.binding.AgreesFilled q)))
      ∧ (t.AtMostOne (fun r => t.binding.sameRow q r [] = .ok true)
        ↔ ∀ order, order.Perm t.rows.values → Store.search t.binding q order = s.find q)) := by
  intro s
  obtain ⟨t, keeps⟩ : ∃ t, s.Keeps q.type table t := exists_keeps created reports registered
  have settled := keeps.atMostOne_iff_search
  refine ⟨t, keeps.followed, fun kept unidentified => ⟨fun group listed => kept.atMostOne listed q,
    fun told meet => ?_, fun told => told.atMostOne_iff unidentified, settled⟩⟩
  have unique := (told.atMostOne_iff unidentified).mpr (kept.atMostOne_of_meet meet)
  exact ⟨unique, settled.mp unique⟩

/-! ## An example -/

namespace Sample

/-- The row of a bridge with a kind of datapath. -/
def datapathRow (name datapathType : String) : WireRow :=
  .ofList [("datapath_type", .atom (.string datapathType)), ("name", .atom (.string name))]

/-- The report of two bridges whose names and kinds of datapath differ. -/
def twoBridges : Changes :=
  .ofList [("Bridge", .ofList [("1", .insert (datapathRow "br0" "netdev")),
    ("2", .insert (datapathRow "br1" "system"))])]

/-- The table of these bridges. -/
def twoRows : StoredTable where
  binding := ⟨bridges, bridge⟩
  rows := .ofList [("1", record "1" "br0" "netdev"), ("2", record "2" "br1" "system")]

theorem exists_twoRows : ∃ start, Replica.new schema registry 4 = .ok start
    ∧ (start.populateAll [twoBridges]).1.store.table? "Bridge" = some twoRows := ⟨_, rfl, rfl⟩

theorem get?_twoRows {id : String} {r : Record} (found : twoRows.rows.get? id = some r) :
    (id = "1" ∧ r = record "1" "br0" "netdev") ∨ (id = "2" ∧ r = record "2" "br1" "system") := by
  have member := SortedMap.get?_eq_some_iff.mp found
  have entries : twoRows.rows.toList =
      [("1", record "1" "br0" "netdev"), ("2", record "2" "br1" "system")] := rfl
  rw [entries] at member
  simpa using member

theorem keepsIndexes_twoRows : twoRows.KeepsIndexes := by
  intro group listed id id' r r' found found' agrees
  have groups : group = [(1, "name")] ∨ group = [(2, "datapath_type")] := by
    have all : twoRows.binding.indexGroups = [[(1, "name")], [(2, "datapath_type")]] := rfl
    simpa [all] using listed
  rcases get?_twoRows found with ⟨rfl, rfl⟩ | ⟨rfl, rfl⟩ <;>
    rcases get?_twoRows found' with ⟨rfl, rfl⟩ | ⟨rfl, rfl⟩
  case inl.inl | inr.inr => rfl
  all_goals
    rcases groups with rfl | rfl <;> exact absurd agrees (by decide)

/-- The rows that a bridge agrees with by its name alone are those of that name. -/
theorem toldByFilled_twoRows : twoRows.ToldByFilled (record "" "br0" "") := by
  intro id r found same
  rcases get?_twoRows found with ⟨rfl, rfl⟩ | ⟨rfl, rfl⟩
  · exact ⟨[(1, "name")], List.mem_cons_self, rfl, rfl⟩
  · exact absurd same (by decide)

theorem filledMeet_twoRows : twoRows.binding.FilledMeet (record "" "br0" "") := by
  have filled : ∀ group ∈ twoRows.binding.indexGroups,
      Binding.isUsable (record "" "br0" "") group = true → group = [(1, "name")] := by decide
  intro group listed usable other listed' usable'
  rw [filled group listed usable, filled other listed' usable']
  exact ⟨_, List.mem_cons_self, List.Subset.refl _, List.Subset.refl _⟩

end Sample

/-- Of two bridges the same is found by its name in every order of the search. -/
theorem Replica.search_unambiguous_by_name :
    ∃ start, Replica.new Sample.schema Sample.registry 4 = .ok start
      ∧ (start.populateAll [Sample.twoBridges]).1.store.table? "Bridge" = some Sample.twoRows
      ∧ Sample.twoRows.KeepsIndexes
      ∧ ∀ order, order.Perm Sample.twoRows.rows.values →
        Store.search Sample.twoRows.binding (Sample.record "" "br0" "") order =
          .ok (Sample.record "1" "br0" "netdev") := by
  obtain ⟨start, created, followed⟩ := Sample.exists_twoRows
  obtain ⟨t, followed', settled⟩ := search_unambiguous (q := Sample.record "" "br0" "") created
    [Sample.twoBridges] rfl
  cases followed.symm.trans followed'
  obtain ⟨-, unique, -, -⟩ := settled Sample.keepsIndexes_twoRows rfl
  obtain ⟨-, same⟩ := unique Sample.toldByFilled_twoRows Sample.filledMeet_twoRows
  refine ⟨start, created, followed, Sample.keepsIndexes_twoRows, fun order perm => ?_⟩
  rw [same order perm]
  cases created
  rfl

/-- A bridge with the name of one of them and the kind of datapath of the other agrees with both,
and what is found by it is the one that comes first. -/
theorem Replica.search_ambiguous :
    ∃ start, Replica.new Sample.schema Sample.registry 4 = .ok start
      ∧ (start.populateAll [Sample.twoBridges]).1.store.table? "Bridge" = some Sample.twoRows
      ∧ Sample.twoRows.KeepsIndexes
      ∧ let q := Sample.record "" "br0" "system"
        let r := Sample.record "1" "br0" "netdev"
        let r' := Sample.record "2" "br1" "system"
        Sample.twoRows.binding.identity q = ""
          ∧ Sample.twoRows.binding.sameRow q r [] = .ok true
          ∧ Sample.twoRows.binding.sameRow q r' [] = .ok true
          ∧ Sample.twoRows.rows.values = [r, r']
          ∧ Store.search Sample.twoRows.binding q [r, r'] = .ok r
          ∧ Store.search Sample.twoRows.binding q [r', r] = .ok r' := by
  obtain ⟨start, created, followed⟩ := Sample.exists_twoRows
  exact ⟨start, created, followed, Sample.keepsIndexes_twoRows, rfl, rfl, rfl, rfl, rfl, rfl⟩

end TableReplica
