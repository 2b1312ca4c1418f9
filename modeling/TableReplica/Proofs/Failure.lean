import Mathlib.Data.List.Forall2

/-!
# Computations that may fail

When a computation with a reason for failing, or without one, succeeds, and with what: for one that
is followed by another, and for one that goes through a list.
-/

theorem List.exists_forall₂ {α β : Type} {R : α → β → Prop} {l : List α}
    (each : ∀ a ∈ l, ∃ b, R a b) : ∃ r, List.Forall₂ R l r := by
  induction l with
  | nil => exact ⟨[], .nil⟩
  | cons a rest ih =>
    rw [List.forall_mem_cons] at each
    obtain ⟨b, first⟩ := each.1
    obtain ⟨r, later⟩ := ih each.2
    exact ⟨b :: r, .cons first later⟩

theorem List.forall₂_append_left_iff {α β : Type} {R : α → β → Prop} {l l' : List α} {r : List β} :
    List.Forall₂ R (l ++ l') r ↔
      ∃ a b, r = a ++ b ∧ List.Forall₂ R l a ∧ List.Forall₂ R l' b := by
  induction l generalizing r with
  | nil => simp
  | cons head rest ih =>
    rw [List.cons_append, List.forall₂_cons_left_iff]
    constructor
    · rintro ⟨b, others, first, later, rfl⟩
      obtain ⟨a, a', rfl, front, back⟩ := ih.mp later
      exact ⟨b :: a, a', rfl, .cons first front, back⟩
    · rintro ⟨_, b, rfl, front, back⟩
      cases front with
      | cons first front => exact ⟨_, _, first, ih.mpr ⟨_, b, rfl, front, back⟩, rfl⟩

theorem List.forall₂_append_right_iff {α β : Type} {R : α → β → Prop} {l : List α}
    {r r' : List β} : List.Forall₂ R l (r ++ r') ↔
      ∃ a b, l = a ++ b ∧ List.Forall₂ R a r ∧ List.Forall₂ R b r' := by
  constructor
  · intro related
    have swapped : List.Forall₂ (flip R) (r ++ r') l := .flip related
    obtain ⟨a, b, rfl, front, back⟩ := forall₂_append_left_iff.mp swapped
    exact ⟨a, b, rfl, front.flip, back.flip⟩
  · rintro ⟨a, b, rfl, front, back⟩
    exact rel_append front back

namespace Except

variable {ε δ α β : Type}

theorem ok_bind (a : α) (f : α → Except ε β) : (.ok a : Except ε α) >>= f = f a := rfl

theorem bind_eq_ok_iff {x : Except ε α} {f : α → Except ε β} {b : β} :
    x >>= f = .ok b ↔ ∃ a, x = .ok a ∧ f a = .ok b := by
  cases x with
  | error e => simp [bind, Except.bind]
  | ok a => simp [bind, Except.bind]

theorem bind_eq_error_iff {x : Except ε α} {f : α → Except ε β} {e : ε} :
    x >>= f = .error e ↔ x = .error e ∨ ∃ a, x = .ok a ∧ f a = .error e := by
  cases x with
  | error e' => simp [bind, Except.bind]
  | ok a => simp [bind, Except.bind]

theorem map_eq_ok_iff {x : Except ε α} {f : α → β} {b : β} :
    f <$> x = .ok b ↔ ∃ a, x = .ok a ∧ f a = b := by
  cases x with
  | error e => simp [Functor.map, Except.map]
  | ok a => simp [Functor.map, Except.map]

theorem exists_error_iff {x : Except ε α} : (∃ e, x = .error e) ↔ ¬ ∃ a, x = .ok a := by
  cases x <;> simp

theorem mapError_eq_ok_iff {x : Except ε α} {f : ε → δ} {a : α} :
    x.mapError f = .ok a ↔ x = .ok a := by
  cases x <;> simp [Except.mapError]

/-- A computation that succeeds in one of two cases and fails in the other succeeds and fails in no
other cases. -/
theorem iff_of_decided {x : Except ε α} {good : Prop} {bad : ε → Prop}
    (decided : good ∨ ∃ e, bad e) (succeeds : good → ∃ a, x = .ok a)
    (fails : ∀ e, bad e → x = .error e) :
    ((∃ a, x = .ok a) ↔ good) ∧ ∀ e, x = .error e ↔ bad e := by
  rcases decided with isGood | ⟨e, isBad⟩
  · obtain ⟨a, rfl⟩ := succeeds isGood
    refine ⟨iff_of_true ⟨a, rfl⟩ isGood, fun e => ⟨by rintro ⟨⟩, fun isBad => ?_⟩⟩
    cases fails e isBad
  · obtain rfl := fails e isBad
    refine ⟨⟨by rintro ⟨a, ⟨⟩⟩, fun isGood => ?_⟩, fun e' => ⟨?_, fails e'⟩⟩
    · obtain ⟨a, absurdly⟩ := succeeds isGood
      cases absurdly
    · rintro ⟨⟩
      exact isBad

theorem toOption_eq_some_iff {x : Except ε α} {a : α} : x.toOption = some a ↔ x = .ok a := by
  cases x with
  | error e => simp [Except.toOption]
  | ok b => simp [Except.toOption]

/-- A fold whose steps keep a property keeps it as a whole. -/
theorem foldlM_invariant {step : β → α → Except ε β} (kept : β → Prop) {l : List α}
    (steps : ∀ a ∈ l, ∀ s s', kept s → step s a = .ok s' → kept s') {s s' : β} (start : kept s)
    (folded : l.foldlM step s = .ok s') : kept s' := by
  induction l generalizing s with
  | nil =>
    cases folded
    exact start
  | cons a rest ih =>
    rw [List.foldlM_cons, bind_eq_ok_iff] at folded
    obtain ⟨next, first, later⟩ := folded
    have kept' := steps a List.mem_cons_self s next start first
    exact ih (fun b member => steps b (List.mem_cons_of_mem a member)) kept' later

/-- A list is got back element by element from the images of its elements. -/
theorem mapM_map_eq_ok {f : α → β} {g : β → Except ε α} {l : List α}
    (back : ∀ a ∈ l, g (f a) = .ok a) : (l.map f).mapM g = .ok l := by
  induction l with
  | nil => rfl
  | cons a rest ih =>
    rw [List.map_cons, List.mapM_cons, back a List.mem_cons_self,
      ih fun b member => back b (List.mem_cons_of_mem a member)]
    rfl

/-- A list has images exactly if its elements have, one by one. -/
theorem mapM_eq_ok_iff {f : α → Except ε β} {l : List α} {r : List β} :
    l.mapM f = .ok r ↔ List.Forall₂ (fun a b => f a = .ok b) l r := by
  induction l generalizing r with
  | nil =>
    rw [List.forall₂_nil_left_iff]
    exact ⟨fun mapped => (Except.ok.inj mapped).symm, fun same => same ▸ rfl⟩
  | cons a rest ih =>
    rw [List.mapM_cons, bind_eq_ok_iff, List.forall₂_cons_left_iff]
    constructor
    · rintro ⟨b, first, mapped⟩
      obtain ⟨others, later, done⟩ := bind_eq_ok_iff.mp mapped
      cases done
      exact ⟨b, others, first, ih.mp later, rfl⟩
    · rintro ⟨b, others, first, later, rfl⟩
      exact ⟨b, first, bind_eq_ok_iff.mpr ⟨others, ih.mpr later, rfl⟩⟩

/-- Going through a list fails as it does at the first element at which it fails. -/
theorem mapM_eq_error_iff {f : α → Except ε β} {l : List α} {e : ε} :
    l.mapM f = .error e ↔ ∃ before a after, l = before ++ a :: after
      ∧ (∀ b ∈ before, ∃ c, f b = .ok c) ∧ f a = .error e := by
  induction l with
  | nil => simp [pure, Except.pure]
  | cons a rest ih =>
    rw [List.mapM_cons, bind_eq_error_iff]
    constructor
    · rintro (first | ⟨b, first, later⟩)
      · exact ⟨[], a, rest, rfl, by simp, first⟩
      · rcases bind_eq_error_iff.mp later with later | ⟨_, _, done⟩
        · obtain ⟨before, a', after, rfl, earlier, refused⟩ := ih.mp later
          exact ⟨a :: before, a', after, rfl, List.forall_mem_cons.mpr ⟨⟨b, first⟩, earlier⟩,
            refused⟩
        · cases done
    · rintro ⟨before, a', after, split, earlier, refused⟩
      cases before with
      | nil =>
        cases split
        exact .inl refused
      | cons b before =>
        cases split
        rw [List.forall_mem_cons] at earlier
        obtain ⟨c, first⟩ := earlier.1
        have later := ih.mpr ⟨before, a', after, rfl, earlier.2, refused⟩
        exact .inr ⟨c, first, bind_eq_error_iff.mpr (.inl later)⟩

theorem exists_mapM {f : α → Except ε β} {l : List α} (each : ∀ a ∈ l, ∃ b, f a = .ok b) :
    ∃ r, l.mapM f = .ok r := by
  obtain ⟨r, images⟩ := List.exists_forall₂ each
  exact ⟨r, mapM_eq_ok_iff.mpr images⟩

/-- What may be missing has an image exactly if it is missing or has one. -/
theorem optionMapM_eq_ok_iff {f : α → Except ε β} {o : Option α} {r : Option β} :
    o.mapM f = .ok r ↔ Option.Rel (fun b a => f a = .ok b) r o := by
  cases o with
  | none =>
    cases r with
    | none => exact iff_of_true rfl .none
    | some b => exact iff_of_false nofun nofun
  | some a =>
    rw [Option.mapM_some, map_eq_ok_iff]
    constructor
    · rintro ⟨b, image, rfl⟩
      exact .some image
    · intro related
      cases related with
      | some image => exact ⟨_, image, rfl⟩

theorem exists_of_mem_mapM {f : α → Except ε β} {l : List α} {r : List β} {b : β}
    (mapped : l.mapM f = .ok r) (member : b ∈ r) : ∃ a ∈ l, f a = .ok b := by
  induction l generalizing r with
  | nil =>
    cases mapped
    cases member
  | cons a rest ih =>
    rw [List.mapM_cons, bind_eq_ok_iff] at mapped
    obtain ⟨b', first, mapped⟩ := mapped
    obtain ⟨others, later, done⟩ := bind_eq_ok_iff.mp mapped
    cases done
    rcases List.mem_cons.mp member with rfl | member
    · exact ⟨a, List.mem_cons_self, first⟩
    · obtain ⟨a', member', image⟩ := ih later member
      exact ⟨a', List.mem_cons_of_mem a member', image⟩

theorem exists_image_of_mapM {f : α → Except ε β} {l : List α} {r : List β} {a : α}
    (mapped : l.mapM f = .ok r) (member : a ∈ l) : ∃ b, f a = .ok b := by
  induction l generalizing r with
  | nil => cases member
  | cons a' rest ih =>
    rw [List.mapM_cons, bind_eq_ok_iff] at mapped
    obtain ⟨b, first, mapped⟩ := mapped
    obtain ⟨others, later, -⟩ := bind_eq_ok_iff.mp mapped
    rcases List.mem_cons.mp member with rfl | member
    · exact ⟨b, first⟩
    · exact ih later member

theorem ne_nil_of_mapM {f : α → Except ε β} {l : List α} {r : List β} (mapped : l.mapM f = .ok r)
    (nonempty : l ≠ []) : r ≠ [] := by
  rintro rfl
  have sameLength := (mapM_eq_ok_iff.mp mapped).length_eq
  exact nonempty (List.length_eq_zero_iff.mp sameLength)

/-- What holds of all elements of a list, told from their images. -/
theorem forall_mem_iff_of_mapM {f : α → Except ε β} {P : α → Prop} {Q : β → Prop} {l : List α}
    {r : List β} (mapped : l.mapM f = .ok r)
    (image : ∀ a ∈ l, ∀ b, f a = .ok b → (Q b ↔ P a)) : (∀ b ∈ r, Q b) ↔ ∀ a ∈ l, P a := by
  induction l generalizing r with
  | nil =>
    cases mapped
    simp
  | cons a rest ih =>
    rw [List.mapM_cons, bind_eq_ok_iff] at mapped
    obtain ⟨b, first, mapped⟩ := mapped
    obtain ⟨others, later, done⟩ := bind_eq_ok_iff.mp mapped
    cases done
    rw [List.forall_mem_cons, List.forall_mem_cons, image a List.mem_cons_self b first,
      ih later fun a' member => image a' (List.mem_cons_of_mem a member)]

/-- Going through a list succeeds exactly if it does so at each element. -/
theorem forM_eq_ok_iff {f : α → Except ε Unit} {l : List α} :
    l.forM f = .ok () ↔ ∀ a ∈ l, f a = .ok () := by
  induction l with
  | nil => simp [pure, Except.pure]
  | cons a rest ih =>
    have step : (a :: rest).forM f = f a >>= fun _ => rest.forM f := rfl
    rw [step, bind_eq_ok_iff, List.forall_mem_cons, ih]
    exact ⟨fun ⟨(), first, later⟩ => ⟨first, later⟩, fun ⟨first, later⟩ => ⟨(), first, later⟩⟩

/-- A list is mapped without failure if each of its elements is. -/
theorem mapM_eq_ok_map {f : α → Except ε β} {g : α → β} {l : List α}
    (image : ∀ a ∈ l, f a = .ok (g a)) : l.mapM f = .ok (l.map g) := by
  rw [mapM_eq_ok_iff, List.forall₂_map_right_iff, List.forall₂_same]
  exact image

theorem filterAuxM_eq_ok {f : α → Except ε Bool} {test : α → Bool} {l : List α}
    (decided : ∀ a ∈ l, f a = .ok (test a)) (kept : List α) :
    l.filterAuxM f kept = .ok ((l.filter test).reverse ++ kept) := by
  induction l generalizing kept with
  | nil => rfl
  | cons a rest ih =>
    rw [List.forall_mem_cons] at decided
    have step : (a :: rest).filterAuxM f kept =
        f a >>= fun accepted => rest.filterAuxM f (cond accepted (a :: kept) kept) := rfl
    rw [step, decided.1, ok_bind, ih decided.2]
    cases accepted : test a with
    | true => simp [accepted]
    | false => simp [accepted]

/-- Filtering with a test that never fails keeps what passes it. -/
theorem filterM_eq_ok {f : α → Except ε Bool} {test : α → Bool} {l : List α}
    (decided : ∀ a ∈ l, f a = .ok (test a)) : l.filterM f = .ok (l.filter test) := by
  rw [List.filterM, filterAuxM_eq_ok decided, ok_bind]
  simp [pure, Except.pure]

/-- Two computations that fail for the same reason or succeed with related results. -/
inductive Alike (related : α → β → Prop) : Except ε α → Except ε β → Prop
  | error (e : ε) : Alike related (.error e) (.error e)
  | ok {a : α} {b : β} (relates : related a b) : Alike related (.ok a) (.ok b)

namespace Alike

variable {γ η : Type} {related : α → β → Prop} {x : Except ε α} {y : Except ε β}

theorem bind {result : γ → η → Prop} {f : α → Except ε γ} {g : β → Except ε η}
    (alike : Alike related x y) (next : ∀ a b, related a b → Alike result (f a) (g b)) :
    Alike result (x >>= f) (y >>= g) := by
  cases alike with
  | error e => exact .error e
  | ok relates => exact next _ _ relates

theorem mono {wider : α → β → Prop} (alike : Alike related x y)
    (within : ∀ a b, related a b → wider a b) : Alike wider x y := by
  cases alike with
  | error e => exact .error e
  | ok relates => exact .ok (within _ _ relates)

theorem foldlM (kept : List α → β → β → Prop) {step : β → α → Except ε β} {l : List α}
    (steps : ∀ a rest s t, kept (a :: rest) s t → Alike (kept rest) (step s a) (step t a))
    {s t : β} (start : kept l s t) : Alike (kept []) (l.foldlM step s) (l.foldlM step t) := by
  induction l generalizing s t with
  | nil => exact .ok start
  | cons a rest ih =>
    rw [List.foldlM_cons, List.foldlM_cons]
    exact (steps a rest s t start).bind fun s' t' later => ih later

theorem eq {y : Except ε α} (alike : Alike (· = ·) x y) : x = y := by
  cases alike with
  | error => rfl
  | ok same => rw [same]

end Alike

end Except

namespace Option

variable {α β : Type}

theorem Rel.isSome_eq {R : α → β → Prop} {o : Option α} {r : Option β} (related : Rel R o r) :
    o.isSome = r.isSome := by
  cases related <;> rfl

theorem Rel.imp {R S : α → β → Prop} {o : Option α} {r : Option β} (within : ∀ a b, R a b → S a b)
    (related : Rel R o r) : Rel S o r := by
  cases related with
  | none => exact .none
  | some image => exact .some (within _ _ image)

theorem mapM_map_eq_some {f : α → β} {g : β → Option α} (back : ∀ a, g (f a) = some a)
    (l : List α) : (l.map f).mapM g = some l := by
  induction l with
  | nil => rfl
  | cons a rest ih => simp [back, ih]

/-- A list has images exactly if all of its elements have. -/
theorem isSome_mapM_iff {f : α → Option β} {l : List α} :
    (l.mapM f).isSome = true ↔ ∀ a ∈ l, (f a).isSome = true := by
  induction l with
  | nil => simp
  | cons a rest ih =>
    rw [List.forall_mem_cons, ← ih, List.mapM_cons]
    cases f a with
    | none => simp
    | some b => cases rest.mapM f <;> simp

theorem exists_of_mem_mapM {f : α → Option β} {l : List α} {r : List β} {b : β}
    (mapped : l.mapM f = some r) (member : b ∈ r) : ∃ a ∈ l, f a = some b := by
  induction l generalizing r with
  | nil =>
    cases mapped
    cases member
  | cons a rest ih =>
    simp only [List.mapM_cons, Option.bind_eq_bind, Option.pure_def, Option.bind_eq_some_iff,
      Option.some.injEq] at mapped
    obtain ⟨b', first, others, later, rfl⟩ := mapped
    rcases List.mem_cons.mp member with rfl | member
    · exact ⟨a, List.mem_cons_self, first⟩
    · obtain ⟨a', member', image⟩ := ih later member
      exact ⟨a', List.mem_cons_of_mem a member', image⟩

theorem map_eq_of_mapM_eq_some {f : α → β} {g : β → Option α}
    (back : ∀ {b a}, g b = some a → f a = b) {l : List β} {r : List α}
    (taken : l.mapM g = some r) : r.map f = l := by
  induction l generalizing r with
  | nil =>
    cases taken
    rfl
  | cons b rest ih =>
    simp only [List.mapM_cons, Option.bind_eq_bind, Option.pure_def, Option.bind_eq_some_iff,
      Option.some.injEq] at taken
    obtain ⟨a, first, others, later, rfl⟩ := taken
    rw [List.map_cons, back first, ih later]

end Option
