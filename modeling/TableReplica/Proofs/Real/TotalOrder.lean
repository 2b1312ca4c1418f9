import Mathlib.Algebra.Order.Field.Power
import Mathlib.Algebra.Order.Ring.Rat
import Mathlib.Order.Monotone.Basic
import Mathlib.Tactic.Linarith
import Mathlib.Tactic.Positivity
import Mathlib.Tactic.Ring
import TableReplica.Real.Basic

/-!
# The order of reals

Reals are compared by the places of their bit patterns. This is the IEEE 754 total order
(`Real64.compare_eq_lt_iff`): finite reals are ordered by their values, and `-0` comes before `+0`;
infinities lie beyond them, and NaNs lie beyond infinities, on the side that their sign says and the
farther out the greater their fraction is.

What carries this is that the value of a finite real grows with the number that its bits without
the sign make (`Real64.magnitudeValue_strictMono`).
-/

namespace TableReplica.Real64

/-! ## Values -/

/-- The value of a finite real. -/
def value (r : Real64) : ℚ := (if r.isNegative then -1 else 1) * (r.significand * 2 ^ r.exponent)

/-- The value of the finite reals with some magnitude, without their sign. -/
def magnitudeValue (m : Nat) : ℚ :=
  (if m < leadingBit then m % leadingBit else m % leadingBit + leadingBit : Nat) *
    2 ^ (((if m / leadingBit = 0 then 1 else m / leadingBit : Nat) : Int) - 1075)

theorem value_eq (r : Real64) :
    r.value = (if r.isNegative then -1 else 1) * magnitudeValue r.magnitude := rfl

theorem magnitudeValue_zero : magnitudeValue 0 = 0 := by
  simp [magnitudeValue, leadingBit]

/-- Without the bit above the fraction, the exponent is the least one. -/
theorem magnitudeValue_of_lt {m : Nat} (small : m < leadingBit) :
    magnitudeValue m = m * 2 ^ (-1074 : Int) := by
  rw [magnitudeValue, if_pos small, Nat.mod_eq_of_lt small, Nat.div_eq_of_lt small, if_pos rfl]
  norm_num

theorem magnitudeValue_mul_add {e f : Nat} (positive : 0 < e) (within : f < leadingBit) :
    magnitudeValue (e * leadingBit + f) = ((f + leadingBit : Nat) : ℚ) * 2 ^ ((e : Int) - 1075) := by
  have quotient : (e * leadingBit + f) / leadingBit = e := by
    rw [leadingBit] at within ⊢
    omega
  have remainder : (e * leadingBit + f) % leadingBit = f := by
    rw [leadingBit] at within ⊢
    omega
  have large : ¬ e * leadingBit + f < leadingBit := by
    rw [leadingBit] at within ⊢
    omega
  rw [magnitudeValue, if_neg large, quotient, remainder, if_neg (Nat.ne_of_gt positive)]

/-- The value grows from each magnitude to the next, also where the exponent does. -/
theorem magnitudeValue_lt_succ (m : Nat) : magnitudeValue m < magnitudeValue (m + 1) := by
  have unit : ∀ q : Int, (0 : ℚ) < 2 ^ q := fun q => zpow_pos (by norm_num) q
  by_cases small : m < leadingBit
  · rw [magnitudeValue_of_lt small]
    by_cases within : m + 1 < leadingBit
    · rw [magnitudeValue_of_lt within]
      exact mul_lt_mul_of_pos_right (by exact_mod_cast Nat.lt_succ_self m) (unit _)
    · -- The least real with a full significand has the exponent of those without.
      have next : m + 1 = 1 * leadingBit + 0 := by omega
      rw [next, magnitudeValue_mul_add Nat.one_pos (by decide)]
      exact mul_lt_mul_of_pos_right (by exact_mod_cast (by omega)) (unit _)
  · obtain ⟨e, f, positive, within, rfl⟩ :
        ∃ e f, 0 < e ∧ f < leadingBit ∧ m = e * leadingBit + f := by
      refine ⟨m / leadingBit, m % leadingBit, Nat.div_pos (by omega) (by decide),
        Nat.mod_lt m (by decide), ?_⟩
      rw [Nat.mul_comm]
      exact (Nat.div_add_mod m leadingBit).symm
    rw [magnitudeValue_mul_add positive within]
    by_cases inside : f + 1 < leadingBit
    · rw [Nat.add_assoc, magnitudeValue_mul_add positive inside]
      exact mul_lt_mul_of_pos_right (by exact_mod_cast (by omega)) (unit _)
    · -- The significand is full, so the exponent grows, which doubles the unit.
      have next : e * leadingBit + f + 1 = (e + 1) * leadingBit + 0 := by
        rw [Nat.succ_mul]
        omega
      have doubled : (2 : ℚ) ^ (((e + 1 : Nat) : Int) - 1075) = 2 * 2 ^ ((e : Int) - 1075) := by
        rw [← zpow_one_add₀ (by norm_num)]
        congr 1
        push_cast
        ring
      rw [next, magnitudeValue_mul_add (Nat.succ_pos e) (by decide), doubled, ← mul_assoc]
      exact mul_lt_mul_of_pos_right (by exact_mod_cast (by omega)) (unit _)

theorem magnitudeValue_strictMono : StrictMono magnitudeValue :=
  strictMono_nat_of_lt_succ magnitudeValue_lt_succ

theorem magnitudeValue_nonneg (m : Nat) : 0 ≤ magnitudeValue m := by
  rw [← magnitudeValue_zero]
  exact magnitudeValue_strictMono.monotone (Nat.zero_le m)

theorem magnitudeValue_pos {m : Nat} (positive : 0 < m) : 0 < magnitudeValue m := by
  rw [← magnitudeValue_zero]
  exact magnitudeValue_strictMono positive

variable {a b : Real64}

theorem value_of_negative (negative : a.isNegative = true) :
    a.value = -magnitudeValue a.magnitude := by
  rw [value_eq, if_pos negative, neg_one_mul]

theorem value_of_nonnegative (nonnegative : a.isNegative = false) :
    a.value = magnitudeValue a.magnitude := by
  rw [value_eq, nonnegative, if_neg Bool.false_ne_true, one_mul]

/-! ## The total order -/

/-- The bits below the exponent. -/
def fraction (r : Real64) : Nat := r.magnitude % leadingBit

/-- How far out a real lies, and on which side: finite reals are in the middle, infinities next to
them, and NaNs outside. -/
def region (r : Real64) : Int :=
  let distance := if r.isFinite then 0 else if r.magnitude = infiniteMagnitude then 1 else 2
  if r.isNegative then -distance else distance

/-- One real comes before another in the total order of IEEE 754. -/
inductive Before (a b : Real64) : Prop
  | regions (apart : a.region < b.region)
  | values (left : a.isFinite = true) (right : b.isFinite = true) (less : a.value < b.value)
  | zeros (left : a.isZero = true ∧ a.isNegative = true)
    (right : b.isZero = true ∧ b.isNegative = false)
  | negativeNans (left : a.region = -2) (right : b.region = -2) (farther : b.fraction < a.fraction)
  | nans (left : a.region = 2) (right : b.region = 2) (farther : a.fraction < b.fraction)

theorem magnitude_lt (r : Real64) : r.magnitude < signBit := Nat.mod_lt _ (by decide)

theorem rank_of_negative (negative : a.isNegative = true) : a.rank = -(a.magnitude : Int) - 1 := by
  rw [rank, if_pos negative]

theorem rank_of_nonnegative (nonnegative : a.isNegative = false) : a.rank = a.magnitude := by
  rw [rank, nonnegative, if_neg Bool.false_ne_true]

/-- The value grows with the place, except that both zeros have the same. -/
theorem value_le_of_rank_le (ordered : a.rank ≤ b.rank) : a.value ≤ b.value := by
  cases left : a.isNegative with
  | false =>
    cases right : b.isNegative with
    | false =>
      rw [rank_of_nonnegative left, rank_of_nonnegative right] at ordered
      rw [value_of_nonnegative left, value_of_nonnegative right]
      exact magnitudeValue_strictMono.monotone (by omega)
    | true =>
      rw [rank_of_nonnegative left, rank_of_negative right] at ordered
      omega
  | true =>
    rw [value_of_negative left]
    cases right : b.isNegative with
    | false =>
      rw [value_of_nonnegative right]
      exact (neg_nonpos.mpr (magnitudeValue_nonneg _)).trans (magnitudeValue_nonneg _)
    | true =>
      rw [rank_of_negative left, rank_of_negative right] at ordered
      rw [value_of_negative right]
      exact neg_le_neg (magnitudeValue_strictMono.monotone (by omega))

/-- Of two places the second one has the greater value, unless both are places of zeros. -/
theorem value_lt_of_rank_lt (ordered : a.rank < b.rank)
    (nonzero : ¬ (a.isZero = true ∧ b.isZero = true)) : a.value < b.value := by
  simp only [isZero, beq_iff_eq, not_and_or] at nonzero
  cases left : a.isNegative with
  | false =>
    cases right : b.isNegative with
    | false =>
      rw [rank_of_nonnegative left, rank_of_nonnegative right] at ordered
      rw [value_of_nonnegative left, value_of_nonnegative right]
      exact magnitudeValue_strictMono (by omega)
    | true =>
      rw [rank_of_nonnegative left, rank_of_negative right] at ordered
      omega
  | true =>
    rw [value_of_negative left]
    cases right : b.isNegative with
    | false =>
      rw [value_of_nonnegative right]
      have below := magnitudeValue_nonneg a.magnitude
      have above := magnitudeValue_nonneg b.magnitude
      rcases nonzero with nonzero | nonzero
      · have := magnitudeValue_pos (Nat.pos_of_ne_zero nonzero)
        linarith
      · have := magnitudeValue_pos (Nat.pos_of_ne_zero nonzero)
        linarith
    | true =>
      rw [rank_of_negative left, rank_of_negative right] at ordered
      rw [value_of_negative right]
      exact neg_lt_neg (magnitudeValue_strictMono (by omega))

/-- The regions follow one another in the order of places. -/
theorem region_cases (r : Real64) :
    r.region = -2 ∧ r.isFinite = false ∧ r.rank = -(infiniteMagnitude + r.fraction : Int) - 1
        ∧ 0 < r.fraction
      ∨ r.region = -1 ∧ r.isFinite = false ∧ r.rank = -(infiniteMagnitude : Int) - 1
      ∨ r.region = 0 ∧ r.isFinite = true ∧ -(infiniteMagnitude : Int) - 1 < r.rank
        ∧ r.rank < infiniteMagnitude
      ∨ r.region = 1 ∧ r.isFinite = false ∧ r.rank = infiniteMagnitude
      ∨ r.region = 2 ∧ r.isFinite = false ∧ r.rank = (infiniteMagnitude + r.fraction : Int)
        ∧ 0 < r.fraction := by
  have bound := r.magnitude_lt
  have nan : ¬ r.magnitude < infiniteMagnitude → r.magnitude = infiniteMagnitude + r.fraction := by
    intro beyond
    simp only [fraction, infiniteMagnitude, signBit, leadingBit] at bound beyond ⊢
    omega
  cases sign : r.isNegative <;> simp only [region, isFinite, sign, rank] <;>
    by_cases finite : r.magnitude < infiniteMagnitude <;>
    by_cases infinite : r.magnitude = infiniteMagnitude <;> simp [finite, infinite] <;> omega

theorem rank_lt_of_region_lt (apart : a.region < b.region) : a.rank < b.rank := by
  have left := a.region_cases
  have right := b.region_cases
  omega

theorem rank_lt_of_before (before : a.Before b) : a.rank < b.rank := by
  cases before with
  | regions apart => exact rank_lt_of_region_lt apart
  | values _ _ less =>
    by_contra notBelow
    exact absurd less (not_lt.mpr (value_le_of_rank_le (not_lt.mp notBelow)))
  | zeros left right =>
    rw [rank_of_negative left.2, rank_of_nonnegative right.2]
    omega
  | negativeNans left right farther | nans left right farther =>
    have left' := a.region_cases
    have right' := b.region_cases
    omega

/-- Of two zeros the one without a sign has the greater place. -/
theorem signs_of_zeros (left : a.isZero = true) (right : b.isZero = true)
    (ordered : a.rank < b.rank) : a.isNegative = true ∧ b.isNegative = false := by
  simp only [isZero, beq_iff_eq] at left right
  cases signLeft : a.isNegative <;> cases signRight : b.isNegative <;>
    simp [rank, left, right, signLeft, signRight] at ordered ⊢

theorem before_of_rank_lt (ordered : a.rank < b.rank) : a.Before b := by
  by_cases apart : a.region < b.region
  · exact .regions apart
  -- In one region only what the region is about decides, and an infinity is alone in its region.
  · rcases a.region_cases with left | left | left | left | left <;>
      rcases b.region_cases with right | right | right | right | right <;> try omega
    · exact .negativeNans left.1 right.1 (by omega)
    · by_cases zero : a.isZero = true ∧ b.isZero = true
      · have signs := signs_of_zeros zero.1 zero.2 ordered
        exact .zeros ⟨zero.1, signs.1⟩ ⟨zero.2, signs.2⟩
      · exact .values left.2.1 right.2.1 (value_lt_of_rank_lt ordered zero)
    · exact .nans left.1 right.1 (by omega)

/-- One real comes before another in comparisons exactly if it does in the total order of
IEEE 754. -/
theorem compare_eq_lt_iff : compare a b = .lt ↔ a.Before b := by
  rw [compare_def, compare_lt_iff_lt]
  exact ⟨before_of_rank_lt, rank_lt_of_before⟩

end TableReplica.Real64
