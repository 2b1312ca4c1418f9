import TableReplica.Delivery.Queue

/-!
# What a queue accepts and gives

An item is accepted if there is room for it and the loop has not ended; otherwise the queue stays as
it is. A queue that is not full after items have arrived has accepted all of them
(`Queue.waiting_postAll_of_room`). A running loop takes the item that has waited longest
(`Queue.exists_take?`).
-/

namespace TableReplica.Queue

variable {α : Type} (q : Queue α)

theorem postAll_cons (a : α) (rest : List α) :
    q.postAll (a :: rest) = (q.post a).postAll rest := rfl

theorem phase_post (a : α) : (q.post a).phase = q.phase := by
  rw [post]
  split <;> rfl

theorem capacity_post (a : α) : (q.post a).capacity = q.capacity := by
  rw [post]
  split <;> rfl

theorem length_le_post (a : α) : q.waiting.length ≤ (q.post a).waiting.length := by
  rw [post]
  split
  next => simp
  next => exact Nat.le_refl _

/-- Nothing that waits is given up for what arrives. -/
theorem length_le_postAll (items : List α) :
    q.waiting.length ≤ (q.postAll items).waiting.length := by
  induction items generalizing q with
  | nil => exact Nat.le_refl _
  | cons a rest ih => exact Nat.le_trans (q.length_le_post a) (ih (q.post a))

variable {q}

theorem waiting_post_of_room (listening : q.phase ≠ .finished)
    (room : q.waiting.length < q.capacity) (a : α) : (q.post a).waiting = q.waiting ++ [a] := by
  rw [post, dif_pos ⟨listening, room⟩]

theorem post_of_refused (refused : ¬ (q.phase ≠ .finished ∧ q.waiting.length < q.capacity))
    (a : α) : q.post a = q := by
  rw [post, dif_neg refused]

/-- What is taken is what has waited longest. -/
theorem of_take?_eq_some {a : α} {r : Queue α} (taken : q.take? = some (a, r)) :
    q.phase = .running ∧ q.waiting = a :: r.waiting ∧ r.phase = .running
      ∧ r.capacity = q.capacity := by
  rw [take?] at taken
  split at taken
  next => cases taken
  next first rest waits =>
    split at taken
    next running =>
      cases taken
      exact ⟨running, waits, running, rfl⟩
    next => cases taken

theorem exists_take? (running : q.phase = .running) {a : α} {rest : List α}
    (waits : q.waiting = a :: rest) : ∃ r, q.take? = some (a, r) := by
  rw [take?]
  split
  next empty =>
    rw [empty] at waits
    cases waits
  next first _ waits' =>
    rw [if_pos running]
    cases waits'.symm.trans waits
    exact ⟨_, rfl⟩

/-- A queue whose loop has not ended and which has room left in the end has accepted everything. -/
theorem waiting_postAll_of_room (listening : q.phase ≠ .finished) {items : List α}
    (room : (q.postAll items).waiting.length < q.capacity) :
    (q.postAll items).waiting = q.waiting ++ items := by
  induction items generalizing q with
  | nil => exact (List.append_nil _).symm
  | cons a rest ih =>
    rw [postAll_cons] at room ⊢
    -- Had there been no room for an item, there would be none in the end.
    have grows : q.waiting.length ≤ ((q.post a).postAll rest).waiting.length :=
      Nat.le_trans (q.length_le_post a) ((q.post a).length_le_postAll rest)
    have before : q.waiting.length < q.capacity := Nat.lt_of_le_of_lt grows room
    rw [ih (by rw [phase_post]; exact listening) (by rw [capacity_post]; exact room),
      waiting_post_of_room listening before, List.append_assoc]
    rfl

end TableReplica.Queue
