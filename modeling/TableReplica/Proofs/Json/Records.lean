import TableReplica.Proofs.Failure
import TableReplica.Proofs.Sorted
import TableReplica.Wire.Reading

/-!
# Reading what has been written

Lists, maps and records that have been written are got back if their parts are. The parts of a
record are written in the order of their names and not of their declaration, and some of them are
left out; reading takes them one by one as they are written (`Json.readRecord_ofMembers`).
-/

namespace TableReplica

namespace Json

variable {α : Type} {read : Json → Except ReadFault α} {write : α → Json}

theorem readList_map {l : List α} (back : ∀ a ∈ l, read (write a) = .ok a) :
    readList read (.array (l.map write)) = .ok l := Except.mapM_map_eq_ok back

theorem readMap_mapValues {m : SortedMap String α}
    (back : ∀ e ∈ m.toList, read (write e.2) = .ok e.2) :
    readMap read (.ofMap (m.mapValues fun _ a => write a)) = .ok m := by
  have listed : ((m.toList.map fun e => (e.1, write e.2)).mapM fun e =>
      (e.1, ·) <$> read e.2) = .ok m.toList :=
    Except.mapM_map_eq_ok fun e member => Except.map_eq_ok_iff.mpr ⟨e.2, back e member, rfl⟩
  exact Except.map_eq_ok_iff.mpr ⟨m.toList, listed, m.ofList_toList⟩

theorem orNull_of_read {value : Json} {a : α} (present : value ≠ .null)
    (back : read value = .ok a) : ReadFault.orNull read value = .ok (some a) := by
  cases value with
  | null => exact absurd rfl present
  | _ => exact Except.map_eq_ok_iff.mpr ⟨a, back, rfl⟩

/-! ## Records -/

section Records

variable {σ : Type} {field : σ → String → Json → Except ReadFault σ} {s s' s'' : σ}

/-- Reads parts of a record one by one. -/
def readParts (field : σ → String → Json → Except ReadFault σ) (parts : List (String × Json))
    (s : σ) : Except ReadFault σ := parts.foldlM (fun s part => field s part.1 part.2) s

/-- An object whose members are fields, none of them twice, is read member by member. -/
theorem readRecord_object {fields : List String} {members : List (String × Json)}
    (known : ∀ m ∈ members, m.1 ∈ fields) (distinct : (members.map Prod.fst).Nodup) :
    readRecord fields field s (.object members) = readParts field members s := by
  have labelled : (Parts.named members).labelled fields = members :=
    List.filter_eq_self.mpr fun m member => List.contains_iff_mem.mpr (known m member)
  change Parts.read fields .shape field s (.named members) = _
  rw [Parts.read, labelled, Parts.isProper, labelled]
  simp only [distinct, decide_true, if_true]
  exact bind_pure _

/-- A record is read part by part in the order of names, where each is a field and none comes
twice. -/
theorem readRecord_ofMembers {fields names : List String} {members sorted : List (String × Json)}
    (ascending : names.Pairwise (fun a b => compare a b = .lt)) (known : ∀ n ∈ names, n ∈ fields)
    (perm : members.Perm sorted) (within : (sorted.map Prod.fst).Sublist names)
    (parts : readParts field sorted s = .ok s') :
    readRecord fields field s (ofMembers members) = .ok s' := by
  have ordered : (sorted.map Prod.fst).Pairwise (fun a b => compare a b = .lt) :=
    ascending.sublist within
  have distinct : (sorted.map Prod.fst).Nodup :=
    ordered.imp fun below same => by simp [same] at below
  rw [ofMembers, SortedMap.toList_ofList_of_perm perm (List.pairwise_map.mp ordered),
    readRecord_object (fun m member => known m.1 ?_) distinct, parts]
  exact within.subset (List.mem_map_of_mem member)

theorem readParts_append {l l' : List (String × Json)} (first : readParts field l s = .ok s')
    (later : readParts field l' s' = .ok s'') : readParts field (l ++ l') s = .ok s'' := by
  rw [readParts, List.foldlM_append]
  exact Except.bind_eq_ok_iff.mpr ⟨s', first, later⟩

variable {name : String} {value : Json}

theorem readParts_single (present : field s name value = .ok s') :
    readParts field [(name, value)] s = .ok s' := Except.bind_eq_ok_iff.mpr ⟨s', present, rfl⟩

theorem readParts_toList {o : Option α} (absent : o = none → s = s')
    (present : ∀ a, o = some a → field s name (write a) = .ok s') :
    readParts field (o.map fun a => (name, write a)).toList s = .ok s' := by
  cases o with
  | none => exact congrArg Except.ok (absent rfl)
  | some a => exact readParts_single (present a rfl)

theorem readParts_unless {l : List α} (absent : l = [] → s = s')
    (present : field s name value = .ok s') :
    readParts field (if l.isEmpty then [] else [(name, value)]) s = .ok s' := by
  cases l with
  | nil => exact congrArg Except.ok (absent rfl)
  | cons => exact readParts_single present

theorem names_toList (o : Option α) :
    ((o.map fun a => (name, write a)).toList.map Prod.fst).Sublist [name] := by
  cases o with
  | none => exact List.nil_sublist _
  | some a => exact List.Sublist.refl _

theorem names_unless (l : List α) :
    ((if l.isEmpty then [] else [(name, value)]).map Prod.fst).Sublist [name] := by
  cases l with
  | nil => exact List.nil_sublist _
  | cons => exact List.Sublist.refl _

end Records

end Json

end TableReplica
