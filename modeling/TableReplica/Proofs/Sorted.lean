import Mathlib.Data.List.Basic
import Mathlib.Data.List.Induction
import Mathlib.Data.List.Pairwise
import TableReplica.Sorted.Map

/-!
# Views of sorted maps

How lookups see maps that are made from others, and what a fold over the entries of a map does. Each
key occurs once among the entries, so a fold whose steps concern one key each does to every key what
its own entry says and nothing else (`foldl_view`), and what it writes down along the way can be
told from the state in which it began (`foldl_log`).
-/

namespace TableReplica.SortedMap

universe u v w

variable {κ : Type u} {α : Type v} {β : Type w}

section Lookup

variable [Ord κ]

/-! ## Entries -/

theorem keys_nodup [Std.LawfulEqOrd κ] (m : SortedMap κ α) : (m.toList.map Prod.fst).Nodup := by
  rw [List.Nodup, List.pairwise_map]
  refine m.ascending.imp ?_
  intro a b below same
  rw [same] at below
  simp at below

@[simp]
theorem keys_mapValues (f : κ → α → β) (m : SortedMap κ α) : (m.mapValues f).keys = m.keys := by
  simp [mapValues, keys]

theorem isEmpty_iff {m : SortedMap κ α} : m.isEmpty = true ↔ m = empty := by
  rw [isEmpty, List.isEmpty_iff]
  exact ⟨fun none => ext none, fun same => congrArg entries same⟩

theorem isEmpty_eq_false_iff (m : SortedMap κ α) :
    m.isEmpty = false ↔ ∃ e, e ∈ m.toList := by
  rw [isEmpty, toList, List.isEmpty_eq_false_iff_exists_mem]

/-! ## Lookups -/

variable [Std.LawfulEqOrd κ]

theorem lookup_map (f : κ → α → β) (l : List (κ × α)) (k : κ) :
    lookup k (l.map fun e => (e.1, f e.1 e.2)) = (lookup k l).map (f k) := by
  induction l with
  | nil => rfl
  | cons head rest ih =>
    obtain ⟨k', a⟩ := head
    simp only [List.map_cons, lookup]
    split
    next same =>
      cases Std.LawfulEqOrd.eq_of_compare same
      rfl
    next => exact ih

@[simp]
theorem get?_mapValues (f : κ → α → β) (m : SortedMap κ α) (k : κ) :
    (m.mapValues f).get? k = (m.get? k).map (f k) :=
  lookup_map f m.entries k

theorem mem_keys_iff (m : SortedMap κ α) (k : κ) : k ∈ m.keys ↔ ∃ a, m.get? k = some a := by
  rw [keys, List.mem_map]
  constructor
  · rintro ⟨e, member, rfl⟩
    exact ⟨e.2, get?_eq_some_iff.mpr member⟩
  · rintro ⟨a, found⟩
    exact ⟨(k, a), get?_eq_some_iff.mp found, rfl⟩

theorem get?_eq_none_iff (m : SortedMap κ α) (k : κ) : m.get? k = none ↔ k ∉ m.keys := by
  rw [mem_keys_iff, Option.eq_none_iff_forall_not_mem, not_exists]
  rfl

/-- Maps with values under the same keys list the same keys. -/
theorem keys_eq_of_mem_iff [Std.TransOrd κ] {m : SortedMap κ α} {n : SortedMap κ β}
    (same : ∀ k, k ∈ m.keys ↔ k ∈ n.keys) : m.keys = n.keys := by
  have equal : m.mapValues (fun _ _ => ()) = n.mapValues (fun _ _ => ()) := by
    apply ext_get?
    intro k
    have := same k
    rw [mem_keys_iff, mem_keys_iff] at this
    cases inLeft : m.get? k <;> cases inRight : n.get? k <;> simp_all
  rw [← keys_mapValues (fun _ _ => ()) m, equal, keys_mapValues]

/-- Maps with the same keys are equal if one has all entries of the other. -/
theorem eq_of_keys_eq [Std.TransOrd κ] {m n : SortedMap κ α} (same : m.keys = n.keys)
    (kept : ∀ e ∈ m.toList, n.get? e.1 = some e.2) : m = n := by
  apply ext_get?
  intro k
  cases present : m.get? k with
  | some a => exact (kept (k, a) (get?_eq_some_iff.mp present)).symm
  | none =>
    cases present' : n.get? k with
    | none => rfl
    | some a =>
      have listed : k ∈ m.keys := same ▸ (mem_keys_iff n k).mpr ⟨a, present'⟩
      obtain ⟨a', found⟩ := (mem_keys_iff m k).mp listed
      rw [present] at found
      cases found

theorem get?_mapEntriesExcept {ε : Type} {f : κ → α → Except ε β} {l : List (κ × α)}
    {r : { r : List (κ × β) // r.map Prod.fst = l.map Prod.fst }}
    (mapped : mapEntriesExcept f l = .ok r) (k : κ) :
    match lookup k l with
    | none => lookup k r.val = none
    | some a => ∃ b, f k a = .ok b ∧ lookup k r.val = some b := by
  induction l with
  | nil =>
    cases mapped
    rfl
  | cons head rest ih =>
    obtain ⟨k', a⟩ := head
    rw [mapEntriesExcept] at mapped
    split at mapped
    next => cases mapped
    next b image =>
      split at mapped
      next => cases mapped
      next r' same images =>
        cases mapped
        by_cases found : compare k k' = .eq
        · cases Std.LawfulEqOrd.eq_of_compare found
          simp only [lookup, found, if_true]
          exact ⟨b, image, rfl⟩
        · simp only [lookup, found, if_false]
          exact ih images

theorem get?_mapValuesExcept {ε : Type} {f : κ → α → Except ε β} {m : SortedMap κ α}
    {n : SortedMap κ β} (mapped : m.mapValuesExcept f = .ok n) (k : κ) :
    match m.get? k with
    | none => n.get? k = none
    | some a => ∃ b, f k a = .ok b ∧ n.get? k = some b := by
  rw [mapValuesExcept] at mapped
  split at mapped
  next => cases mapped
  next r same images =>
    cases mapped
    exact get?_mapEntriesExcept images k

theorem exists_of_get?_mapValuesExcept {ε : Type} {f : κ → α → Except ε β} {m : SortedMap κ α}
    {n : SortedMap κ β} (mapped : m.mapValuesExcept f = .ok n) {k : κ} {b : β}
    (found : n.get? k = some b) : ∃ a, m.get? k = some a ∧ f k a = .ok b := by
  have image := get?_mapValuesExcept mapped k
  cases present : m.get? k with
  | none =>
    rw [present] at image
    rw [image] at found
    cases found
  | some a =>
    rw [present] at image
    obtain ⟨b', made, found'⟩ := image
    rw [found] at found'
    cases found'
    exact ⟨a, rfl, made⟩

omit [Ord κ] [Std.LawfulEqOrd κ] in
theorem exists_mapEntriesExcept {ε : Type} {f : κ → α → Except ε β} {l : List (κ × α)}
    (each : ∀ e ∈ l, ∃ b, f e.1 e.2 = .ok b) : ∃ r, mapEntriesExcept f l = .ok r := by
  induction l with
  | nil => exact ⟨_, rfl⟩
  | cons head rest ih =>
    obtain ⟨b, image⟩ := each head List.mem_cons_self
    obtain ⟨r, images⟩ := ih fun e member => each e (List.mem_cons_of_mem head member)
    rw [mapEntriesExcept, image, images]
    exact ⟨_, rfl⟩

theorem exists_mapValuesExcept {ε : Type} {f : κ → α → Except ε β} {m : SortedMap κ α}
    (each : ∀ k a, m.get? k = some a → ∃ b, f k a = .ok b) : ∃ n, m.mapValuesExcept f = .ok n := by
  obtain ⟨r, images⟩ := exists_mapEntriesExcept (f := f) (l := m.entries) fun e member =>
    each e.1 e.2 (get?_eq_some_iff.mpr member)
  rw [mapValuesExcept, images]
  exact ⟨_, rfl⟩

theorem get?_filterMap (f : κ → α → Option β) (m : SortedMap κ α) (k : κ) :
    (m.filterMap f).get? k = (m.get? k).bind (f k) := by
  apply Option.ext
  intro b
  rw [get?_eq_some_iff, Option.bind_eq_some_iff]
  constructor
  · intro member
    obtain ⟨e, listed, image⟩ := List.mem_filterMap.mp member
    obtain ⟨b', image, same⟩ := Option.map_eq_some_iff.mp image
    cases same
    exact ⟨e.2, get?_eq_some_iff.mpr listed, image⟩
  · rintro ⟨a, found, image⟩
    exact List.mem_filterMap.mpr
      ⟨(k, a), get?_eq_some_iff.mp found, Option.map_eq_some_iff.mpr ⟨b, image, rfl⟩⟩

/-- The map of a list of pairs has under each key what the last pair with that key says. -/
theorem get?_ofList [Std.TransOrd κ] [DecidableEq κ] (l : List (κ × α)) (k : κ) :
    (ofList l).get? k = l.reverse.lookup k := by
  induction l using List.reverseRecOn with
  | nil => rfl
  | append_singleton rest e ih =>
    have last : ofList (rest ++ [e]) = (ofList rest).insert e.1 e.2 := by
      rw [ofList, ofList, List.foldl_append, List.foldl_cons, List.foldl_nil]
    rw [last, get?_insert, ih, List.reverse_append, List.reverse_singleton, List.singleton_append,
      List.lookup_cons]
    by_cases same : k = e.1
    · rw [if_pos same, beq_iff_eq.mpr same]
    · rw [if_neg same, beq_eq_false_iff_ne.mpr same]

theorem get?_ofList_eq_some_iff [Std.TransOrd κ] [DecidableEq κ] {l : List (κ × α)} {k : κ}
    {a : α} : (ofList l).get? k = some a ↔
      ∃ before after, l = before ++ (k, a) :: after ∧ ∀ e ∈ after, e.1 ≠ k := by
  rw [get?_ofList, List.lookup_eq_some_iff]
  constructor
  · rintro ⟨later, earlier, reversed, absent⟩
    refine ⟨earlier.reverse, later.reverse, ?_, fun e member same => ?_⟩
    · rw [← List.reverse_reverse l, reversed]
      simp
    · exact bne_iff_ne.mp (absent e (List.mem_reverse.mp member)) same.symm
  · rintro ⟨before, after, rfl, absent⟩
    refine ⟨after.reverse, before.reverse, by simp, fun e member => bne_iff_ne.mpr ?_⟩
    exact (absent e (List.mem_reverse.mp member)).symm

/-- Values are stored under different keys in any order. -/
theorem insert_insert_comm [Std.TransOrd κ] (m : SortedMap κ α) {k k' : κ} (ne : k ≠ k')
    (a a' : α) : (m.insert k a).insert k' a' = (m.insert k' a').insert k a := by
  classical
  apply ext_get?
  intro other
  rw [get?_insert, get?_insert, get?_insert, get?_insert]
  by_cases first : other = k
  · rw [if_neg fun second => ne (first.symm.trans second), if_pos first, if_pos first]
  · rw [if_neg first, if_neg first]

/-- The order of pairs with different keys does not matter, whatever comes before and after them. -/
theorem ofList_perm [Std.TransOrd κ] {l l' : List (κ × α)} (perm : l.Perm l')
    (distinct : l.Pairwise fun e e' => e.1 ≠ e'.1) (before after : List (κ × α)) :
    ofList (before ++ l ++ after) = ofList (before ++ l' ++ after) := by
  have anyOrder : ∀ m : SortedMap κ α, l.foldl (fun m e => m.insert e.1 e.2) m =
      l'.foldl (fun m e => m.insert e.1 e.2) m := by
    refine perm.foldl_eq' fun e member e' member' m => ?_
    by_cases same : e = e'
    · rw [same]
    · have : Std.Symm fun e e' : κ × α => e.1 ≠ e'.1 := ⟨fun _ _ => Ne.symm⟩
      exact m.insert_insert_comm (distinct.forall member member' same) e.2 e'.2
  rw [ofList, ofList, List.foldl_append, List.foldl_append, List.foldl_append, List.foldl_append,
    anyOrder]

theorem mem_of_mem_ofList [Std.TransOrd κ] [DecidableEq κ] {l : List (κ × α)} {e : κ × α}
    (member : e ∈ (ofList l).toList) : e ∈ l := by
  have found : (ofList l).get? e.1 = some e.2 := get?_eq_some_iff.mpr member
  obtain ⟨before, after, rfl, -⟩ := get?_ofList_eq_some_iff.mp found
  exact List.mem_append_right before List.mem_cons_self

/-- The map of pairs with different keys has these pairs and no others. -/
theorem mem_ofList_iff [Std.TransOrd κ] [DecidableEq κ] {l : List (κ × α)}
    (distinct : (l.map Prod.fst).Nodup) {e : κ × α} : e ∈ (ofList l).toList ↔ e ∈ l := by
  refine ⟨mem_of_mem_ofList, fun member => ?_⟩
  obtain ⟨before, after, rfl⟩ := List.append_of_mem member
  rw [List.map_append, List.map_cons, List.nodup_append, List.nodup_cons] at distinct
  refine get?_eq_some_iff.mp (get?_ofList_eq_some_iff.mpr ⟨before, after, rfl, ?_⟩)
  intro later inAfter same
  exact distinct.2.1.1 (same ▸ List.mem_map_of_mem inAfter)

/-- The listing of the map of a list is any order of the list in which the keys ascend. -/
theorem toList_ofList_of_perm [Std.TransOrd κ] {l l' : List (κ × α)} (perm : l.Perm l')
    (ascending : l'.Pairwise (fun a b => compare a.1 b.1 = .lt)) : (ofList l).toList = l' := by
  classical
  let m : SortedMap κ α := ⟨l', ascending⟩
  suffices same : ofList l = m by rw [same]; rfl
  apply ext_get?
  intro k
  apply Option.ext
  intro a
  -- What the map holds comes from the list, where each key stands before one value only.
  have sound : ∀ {b}, (ofList l).get? k = some b → m.get? k = some b := fun found =>
    get?_eq_some_iff.mpr (perm.mem_iff.mp (mem_of_mem_ofList (get?_eq_some_iff.mp found)))
  constructor
  · exact sound
  · intro found
    have member : (k, a) ∈ l := perm.mem_iff.mpr (get?_eq_some_iff.mp found)
    cases listed : (ofList l).get? k with
    | some b => exact (sound listed).symm.trans found
    | none =>
      rw [get?_ofList, List.lookup_eq_none_iff] at listed
      exact absurd rfl (bne_iff_ne.mp (listed (k, a) (List.mem_reverse.mpr member)))

theorem toList_ofList [Std.TransOrd κ] {l : List (κ × α)}
    (ascending : l.Pairwise (fun a b => compare a.1 b.1 = .lt)) : (ofList l).toList = l :=
  toList_ofList_of_perm (.refl l) ascending

theorem ofList_toList [Std.TransOrd κ] (m : SortedMap κ α) : ofList m.toList = m :=
  ext (toList_ofList m.ascending)

/-- The map that has at each of some keys what a function says, if it says anything. -/
def tabulate [Std.TransOrd κ] (f : κ → Option α) : List κ → SortedMap κ α
  | [] => empty
  | k :: rest =>
    match f k with
    | some a => (tabulate f rest).insert k a
    | none => tabulate f rest

theorem get?_tabulate [Std.TransOrd κ] [DecidableEq κ] (f : κ → Option α) (l : List κ) (k : κ) :
    (tabulate f l).get? k = if k ∈ l then f k else none := by
  induction l with
  | nil => rfl
  | cons k' rest ih =>
    rw [tabulate]
    by_cases same : k = k'
    · subst same
      rw [if_pos List.mem_cons_self]
      cases value : f k with
      | some a => exact get?_insert_self _ k a
      | none => rw [ih, value, ite_self]
    · have unchanged : (match f k' with
          | some a => (tabulate f rest).insert k' a
          | none => tabulate f rest).get? k = (tabulate f rest).get? k := by
        cases f k' with
        | some a => exact get?_insert_of_ne _ same a
        | none => rfl
      rw [unchanged, ih]
      simp only [List.mem_cons, same, false_or]

end Lookup

/-! ## Folds -/

section Fold

variable {σ : Type*} {τ : Type*} {γ : Type*} (view : σ → κ → τ) (step : σ → κ × α → σ)

/-- A fold leaves alone what its entries do not mention. -/
theorem foldl_frame (frame : ∀ s e k, k ≠ e.1 → view (step s e) k = view s k)
    {l : List (κ × α)} {k : κ} (absent : k ∉ l.map Prod.fst) (s : σ) :
    view (l.foldl step s) k = view s k := by
  induction l generalizing s with
  | nil => rfl
  | cons e rest ih =>
    simp only [List.map_cons, List.mem_cons, not_or] at absent
    rw [List.foldl_cons, ih absent.2, frame s e k absent.1]

theorem foldl_view_of_mem (frame : ∀ s e k, k ≠ e.1 → view (step s e) k = view s k)
    {l : List (κ × α)} (distinct : (l.map Prod.fst).Nodup) {e : κ × α} (member : e ∈ l) (s : σ) :
    ∃ before, view before e.1 = view s e.1
      ∧ view (l.foldl step s) e.1 = view (step before e) e.1 := by
  induction l generalizing s with
  | nil => cases member
  | cons head rest ih =>
    rw [List.map_cons, List.nodup_cons] at distinct
    rw [List.foldl_cons]
    rcases List.mem_cons.mp member with rfl | later
    -- The key does not come again, so nothing after its own step touches it.
    · exact ⟨s, rfl, foldl_frame view step frame distinct.1 _⟩
    · have ne : e.1 ≠ head.1 := by
        intro same
        exact distinct.1 (same ▸ List.mem_map.mpr ⟨e, later, rfl⟩)
      obtain ⟨before, unchanged, result⟩ := ih distinct.2 later (step s head)
      exact ⟨before, unchanged.trans (frame s head e.1 ne), result⟩

/-- What a fold over the entries of a map, whose steps concern one key each, does to a key. -/
theorem foldl_view [Ord κ] [Std.LawfulEqOrd κ] (point : κ → α → τ → τ)
    (frame : ∀ s e k, k ≠ e.1 → view (step s e) k = view s k)
    (effect : ∀ s e, view (step s e) e.1 = point e.1 e.2 (view s e.1))
    (m : SortedMap κ α) (s : σ) (k : κ) :
    view (m.toList.foldl step s) k =
      match m.get? k with
      | none => view s k
      | some a => point k a (view s k) := by
  cases found : m.get? k with
  | none =>
    apply foldl_frame view step frame
    intro member
    obtain ⟨a, present⟩ := (mem_keys_iff m k).mp member
    rw [found] at present
    cases present
  | some a =>
    obtain ⟨before, unchanged, result⟩ := foldl_view_of_mem view step frame (keys_nodup m)
      (get?_eq_some_iff.mp found) s
    rw [result, effect, unchanged]

/-- What a fold writes down, if each step adds what it finds under its own key. -/
theorem foldl_log (log : σ → List γ) (found : κ × α → τ → List γ)
    (frame : ∀ s e k, k ≠ e.1 → view (step s e) k = view s k)
    (adds : ∀ s e, log (step s e) = log s ++ found e (view s e.1))
    {l : List (κ × α)} (distinct : (l.map Prod.fst).Nodup) (s : σ) :
    log (l.foldl step s) = log s ++ l.flatMap fun e => found e (view s e.1) := by
  induction l generalizing s with
  | nil => simp
  | cons head rest ih =>
    rw [List.map_cons, List.nodup_cons] at distinct
    rw [List.foldl_cons, ih distinct.2, adds, List.flatMap_cons, List.append_assoc]
    congr 2
    apply List.flatMap_congr
    intro e member
    have ne : e.1 ≠ head.1 := by
      intro same
      exact distinct.1 (same ▸ List.mem_map.mpr ⟨e, member, rfl⟩)
    rw [frame s head e.1 ne]

end Fold

end TableReplica.SortedMap
