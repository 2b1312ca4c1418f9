/-!
# 64-bit reals

A real is kept as its IEEE 754 bit pattern, so that equality is equality of bits: the two zeros
differ, and a NaN equals itself. `Real64.rank` maps the patterns to the integers in the IEEE total
order (negative NaNs, negative numbers, `-0`, `+0`, positive numbers, NaNs); it is injective
(`rank_injective`), so comparing ranks is a lawful total order.
-/

namespace TableReplica

/-- A 64-bit IEEE 754 real, as its bits: sign, eleven exponent bits, 52 fraction bits. -/
structure Real64 where
  bits : UInt64
deriving DecidableEq, Inhabited

namespace Real64

/-- The bit of the sign. -/
def signBit : Nat := 0x8000000000000000

/-- The bits without the sign, as a number. Magnitudes are ordered like these numbers. -/
def magnitude (r : Real64) : Nat := r.bits.toNat % signBit

/-- Whether the sign bit is set. -/
def isNegative (r : Real64) : Bool := signBit ≤ r.bits.toNat

/-- The magnitude of the infinities; the magnitudes above it are NaNs. -/
def infiniteMagnitude : Nat := 0x7FF0000000000000

/-- Whether this is neither an infinity nor a NaN. -/
def isFinite (r : Real64) : Bool := r.magnitude < infiniteMagnitude

/-- Whether this is one of the two zeros. -/
def isZero (r : Real64) : Bool := r.magnitude == 0

/-- The real with a given sign and magnitude. -/
def ofMagnitude (negative : Bool) (magnitude : Nat) : Real64 :=
  ⟨.ofNat (if negative then signBit + magnitude else magnitude)⟩

/-- The zero without a sign. -/
def zero : Real64 := ⟨0⟩

/-- The positive infinity. -/
def infinity : Real64 := ofMagnitude false infiniteMagnitude

/-- The NaN that words for it stand for. -/
def nan : Real64 := ofMagnitude false 0x7FF8000000000000

/-- The real with the opposite sign. -/
def neg (r : Real64) : Real64 := ofMagnitude (!r.isNegative) r.magnitude

/-- The magnitude of the least real with a full significand: the bit above the fraction. -/
def leadingBit : Nat := 0x10000000000000

/-- For a finite real, the `m` of its value `± m * 2 ^ q`. -/
def significand (r : Real64) : Nat :=
  let fraction := r.magnitude % leadingBit
  if r.magnitude < leadingBit then fraction else fraction + leadingBit

/-- For a finite real, the `q` of its value `± m * 2 ^ q`. -/
def exponent (r : Real64) : Int :=
  let biased := r.magnitude / leadingBit
  (if biased = 0 then 1 else biased : Nat) - 1075

/-- The place of a bit pattern in the IEEE total order. -/
def rank (r : Real64) : Int :=
  if r.isNegative then -(r.magnitude : Int) - 1 else r.magnitude

theorem rank_injective {a b : Real64} (same : a.rank = b.rank) : a = b := by
  obtain ⟨a⟩ := a
  obtain ⟨b⟩ := b
  have boundA := a.toNat_lt
  have boundB := b.toNat_lt
  rw [mk.injEq, ← UInt64.toNat_inj]
  by_cases signA : signBit ≤ a.toNat <;> by_cases signB : signBit ≤ b.toNat <;>
    simp [rank, isNegative, magnitude, signA, signB] at same <;>
    simp only [signBit] at same signA signB <;> omega

instance : Ord Real64 := ⟨compareOn rank⟩

theorem compare_def (a b : Real64) : compare a b = compare a.rank b.rank := rfl

instance : Std.TransOrd Real64 where
  eq_swap := (inferInstance : Std.OrientedCmp (compareOn rank)).eq_swap
  isLE_trans := (inferInstance : Std.TransCmp (compareOn rank)).isLE_trans

instance : Std.LawfulEqOrd Real64 where
  eq_of_compare := fun equal => rank_injective (Std.LawfulEqOrd.eq_of_compare equal)

end Real64

end TableReplica
