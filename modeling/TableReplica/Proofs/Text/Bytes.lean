import Mathlib.Data.List.Basic

/-!
# The order of texts is that of their bytes

Texts are compared character by character. That is the order of the bytes that write them in UTF-8
(`Text.compare_eq_lt_iff`): a greater character has a greater first byte in which the two differ,
and none is written by what another one begins with.
-/

namespace TableReplica.Text

/-- The bytes that write a text in UTF-8. -/
def bytes (s : String) : List UInt8 := s.toUTF8.data.toList

theorem bytes_eq_flatMap (s : String) : bytes s = s.toList.flatMap String.utf8EncodeChar := by
  rw [bytes, String.toUTF8_eq_toByteArray]
  conv_lhs => rw [← String.ofList_toList (s := s), String.toByteArray_ofList]
  exact List.toList_data_toByteArray

/-- The bytes of a character with a number: its digits to the base of 64, the first of which is
marked by how many there are. -/
inductive Encodes : Nat → List UInt8 → Prop
  | one {n : Nat} (below : n < 0x80) : Encodes n [.ofNat n]
  | two {n a b : Nat} (digits : n = a * 64 + b) (within : a < 32 ∧ b < 64) (above : 0x80 ≤ n) :
    Encodes n [.ofNat (a + 0xC0), .ofNat (b + 0x80)]
  | three {n a b c : Nat} (digits : n = (a * 64 + b) * 64 + c)
    (within : a < 16 ∧ b < 64 ∧ c < 64) (above : 0x800 ≤ n) :
    Encodes n [.ofNat (a + 0xE0), .ofNat (b + 0x80), .ofNat (c + 0x80)]
  | four {n a b c d : Nat} (digits : n = ((a * 64 + b) * 64 + c) * 64 + d)
    (within : a < 8 ∧ b < 64 ∧ c < 64 ∧ d < 64) (above : 0x10000 ≤ n) :
    Encodes n [.ofNat (a + 0xF0), .ofNat (b + 0x80), .ofNat (c + 0x80), .ofNat (d + 0x80)]

theorem encodes (c : Char) : Encodes c.val.toNat (String.utf8EncodeChar c) := by
  have valid : c.val.toNat < 0x110000 := by
    have := c.valid
    simp only [UInt32.isValidChar, Nat.isValidChar] at this
    omega
  rw [String.utf8EncodeChar]
  generalize c.val.toNat = n at valid
  split
  next => exact .one (by omega)
  next =>
    split
    next => exact .two (by omega) (by omega) (by omega)
    next =>
      split
      next => exact .three (by omega) (by omega) (by omega)
      next => exact .four (by omega) (by omega) (by omega)

/-- The bytes of a greater character are greater, whatever follows. -/
theorem Encodes.lt {m n : Nat} {a b : List UInt8} (left : Encodes m a) (right : Encodes n b)
    (below : m < n) (l r : List UInt8) : a ++ l < b ++ r := by
  cases left <;> cases right <;>
    simp only [List.cons_append, List.nil_append, List.cons_lt_cons_iff, UInt8.lt_iff_toNat_lt,
      ← UInt8.toNat_inj, UInt8.toNat_ofNat'] <;> omega

theorem flatMap_utf8EncodeChar_lt {a b : List Char} (below : a < b) :
    a.flatMap String.utf8EncodeChar < b.flatMap String.utf8EncodeChar := by
  induction below with
  | @nil c rest =>
    obtain ⟨first, later, bytes⟩ := List.exists_cons_of_ne_nil (@String.utf8EncodeChar_ne_nil c)
    rw [List.flatMap_nil, List.flatMap_cons, bytes, List.cons_append]
    exact List.nil_lt_cons _ _
  | @rel c _ d _ first =>
    rw [List.flatMap_cons, List.flatMap_cons]
    exact (encodes c).lt (encodes d) first _ _
  | cons _ ih =>
    rw [List.flatMap_cons, List.flatMap_cons]
    exact List.append_left_lt ih

theorem bytes_lt_iff {s t : String} : bytes s < bytes t ↔ s < t := by
  have monotone : ∀ {s t : String}, s < t → bytes s < bytes t := by
    intro s t below
    rw [bytes_eq_flatMap, bytes_eq_flatMap]
    exact flatMap_utf8EncodeChar_lt below
  refine ⟨fun below => ?_, monotone⟩
  by_contra notBelow
  rcases Std.le_iff_lt_or_eq.mp (String.not_lt.mp notBelow) with above | rfl
  · exact List.lt_asymm below (monotone above)
  · exact List.lt_irrefl _ below

/-- Texts that are written with the same bytes are the same. -/
theorem bytes_injective {s t : String} (same : bytes s = bytes t) : s = t := by
  have notBelow : ¬ s < t := fun below => List.lt_irrefl _ (same ▸ bytes_lt_iff.mpr below)
  have notAbove : ¬ t < s := fun above => List.lt_irrefl _ (same ▸ bytes_lt_iff.mpr above)
  exact String.le_antisymm (String.not_lt.mp notAbove) (String.not_lt.mp notBelow)

/-- One text comes before another exactly if its bytes do. -/
theorem compare_eq_lt_iff {s t : String} : compare s t = .lt ↔ bytes s < bytes t := by
  rw [bytes_lt_iff]
  exact compareOfLessAndEq_eq_lt

end TableReplica.Text
