import TableReplica.Proofs.Real.TotalOrder
import TableReplica.Proofs.Text.Bytes
import TableReplica.Value.Scalar

/-!
# The order of scalars

Any two scalars can be compared, across their types as well, and what is compared is all that there
is to a scalar (`Scalar.compare_total`). The types come first; scalars of one type are in the order
of what they hold: integers as numbers, reals in the total order of IEEE 754, truth values with
`false` before `true`, texts in the order of their bytes.
-/

namespace TableReplica.Scalar

/-- One scalar comes before another. -/
inductive ComesBefore : Scalar → Scalar → Prop
  | types {a b : Scalar} (earlier : a.rank < b.rank) : ComesBefore a b
  | integers {i j : Int64} (less : i.toInt < j.toInt) : ComesBefore (.integer i) (.integer j)
  | reals {r s : Real64} (before : r.Before s) : ComesBefore (.real r) (.real s)
  | booleans : ComesBefore (.boolean false) (.boolean true)
  | strings {s t : String} (less : Text.bytes s < Text.bytes t) : ComesBefore (.string s) (.string t)

/-- Two scalars are of one type and hold the same, reals down to their bits. -/
inductive HoldsSame : Scalar → Scalar → Prop
  | integers {i j : Int64} (same : i.toInt = j.toInt) : HoldsSame (.integer i) (.integer j)
  | reals {r s : Real64} (same : r.bits = s.bits) : HoldsSame (.real r) (.real s)
  | booleans {b c : Bool} (same : b = c) : HoldsSame (.boolean b) (.boolean c)
  | strings {s t : String} (same : Text.bytes s = Text.bytes t) : HoldsSame (.string s) (.string t)

variable {a b : Scalar}

theorem compare_of_rank_ne (apart : a.rank ≠ b.rank) : compare a b = compare a.rank b.rank := by
  cases a <;> cases b <;> first | rfl | exact absurd rfl apart

theorem compare_integer_eq_lt_iff {i j : Int64} :
    compare (integer i) (integer j) = .lt ↔ i.toInt < j.toInt := by
  rw [← Int64.lt_iff_toInt_lt]
  exact compareOfLessAndEq_eq_lt

theorem compare_boolean_eq_lt_iff {b c : Bool} :
    compare (boolean b) (boolean c) = .lt ↔ b = false ∧ c = true := by
  cases b <;> cases c <;> decide

theorem compare_eq_lt_iff : compare a b = .lt ↔ a.ComesBefore b := by
  constructor
  · intro less
    by_cases apart : a.rank = b.rank
    · cases a <;> cases b <;> cases apart
      · exact .integers (compare_integer_eq_lt_iff.mp less)
      · exact .reals (Real64.compare_eq_lt_iff.mp less)
      · obtain ⟨rfl, rfl⟩ := compare_boolean_eq_lt_iff.mp less
        exact .booleans
      · exact .strings (Text.compare_eq_lt_iff.mp less)
    · rw [compare_of_rank_ne apart] at less
      exact .types (Nat.compare_eq_lt.mp less)
  · intro before
    cases before with
    | types earlier =>
      rw [compare_of_rank_ne (Nat.ne_of_lt earlier)]
      exact Nat.compare_eq_lt.mpr earlier
    | integers less => exact compare_integer_eq_lt_iff.mpr less
    | reals before => exact Real64.compare_eq_lt_iff.mpr before
    | booleans => rfl
    | strings less => exact Text.compare_eq_lt_iff.mpr less

theorem holdsSame_iff_eq : a.HoldsSame b ↔ a = b := by
  constructor
  · intro same
    cases same with
    | integers same => exact congrArg integer (Int64.toInt_inj.mp same)
    | @reals r s same =>
      obtain ⟨bits⟩ := r
      exact congrArg (fun bits => real ⟨bits⟩) same
    | booleans same => exact congrArg boolean same
    | strings same => exact congrArg string (Text.bytes_injective same)
  · rintro rfl
    cases a with
    | integer i => exact .integers rfl
    | real r => exact .reals rfl
    | boolean b => exact .booleans rfl
    | string s => exact .strings rfl

/-- Comparison is a total order of all scalars. Of any two scalars one comes before the other, or
they are of one type and hold the same, and no two of these are the case. -/
theorem compare_total (a b c : Scalar) :
    (compare a b = .lt ↔ a.ComesBefore b)
      ∧ (compare a b = .eq ↔ a.HoldsSame b) ∧ (a = b ↔ a.HoldsSame b)
      ∧ compare b a = (compare a b).swap
      ∧ (a.ComesBefore b ∧ ¬ a.HoldsSame b ∧ ¬ b.ComesBefore a
        ∨ ¬ a.ComesBefore b ∧ a.HoldsSame b ∧ ¬ b.ComesBefore a
        ∨ ¬ a.ComesBefore b ∧ ¬ a.HoldsSame b ∧ b.ComesBefore a)
      ∧ (a.ComesBefore b → b.ComesBefore c → a.ComesBefore c) := by
  have equal : compare a b = .eq ↔ a.HoldsSame b := by
    rw [holdsSame_iff_eq, Std.compare_eq_iff_eq]
  have swapped : compare b a = (compare a b).swap := Std.OrientedOrd.eq_swap
  refine ⟨compare_eq_lt_iff, equal, holdsSame_iff_eq.symm, swapped, ?_, ?_⟩
  · rw [← compare_eq_lt_iff, ← compare_eq_lt_iff, ← equal, swapped]
    cases compare a b <;> simp
  · rw [← compare_eq_lt_iff, ← compare_eq_lt_iff, ← compare_eq_lt_iff]
    exact Std.TransCmp.lt_trans

/-- The zero with a sign comes before the one without, although their values are the same, and both
come before a NaN. -/
theorem compare_total_zeros :
    let minusZero := real (.neg .zero)
    let plusZero := real .zero
    let nan := real .nan
    (Real64.neg .zero).value = Real64.value .zero
      ∧ minusZero.ComesBefore plusZero ∧ plusZero.ComesBefore nan
      ∧ minusZero.ComesBefore nan ∧ ¬ minusZero.HoldsSame plusZero := by
  obtain ⟨zeros, same, -, -, -, onward⟩ :=
    compare_total (real (.neg .zero)) (real .zero) (real .nan)
  have beforeNan := (compare_total (real .zero) (real .nan) (real .nan)).1.mp (by decide)
  have signed := zeros.mp (by decide)
  refine ⟨?_, signed, beforeNan, onward signed beforeNan, fun equal => ?_⟩
  · rw [Real64.value_of_negative (by decide), Real64.value_of_nonnegative (by decide)]
    change -Real64.magnitudeValue 0 = Real64.magnitudeValue 0
    rw [Real64.magnitudeValue_zero, neg_zero]
  · exact absurd (same.mpr equal) (by decide)

end TableReplica.Scalar
