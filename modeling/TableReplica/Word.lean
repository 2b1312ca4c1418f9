/-!
# Words of 64 bits

Whole numbers travel as signed or unsigned words of 64 bits. A number becomes a word only if it
fits.
-/

namespace TableReplica.Word

/-- The number of nonnegative signed words, which is also the number of negative ones. -/
def half : Nat := 0x8000000000000000

/-- The signed word of an integer, if it fits. -/
def signed? (i : Int) : Option Int64 := if -half ≤ i ∧ i < half then some (.ofInt i) else none

/-- The unsigned word of a natural number, if it fits. -/
def unsigned? (n : Nat) : Option UInt64 := if n < UInt64.size then some (.ofNat n) else none

end TableReplica.Word
