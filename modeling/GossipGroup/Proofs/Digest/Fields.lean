import GossipGroup.Digest.Decoding
import Mathlib.Algebra.Group.Nat.Defs

/-!
# Numbers and the fields that hold them

A number is read back from the little-endian bytes it is written with, and
bytes are written back from the number they write. A field of a byte sequence
therefore reads as a number exactly when that number is written there.
-/

namespace GossipGroup

/-! ## Little-endian numbers -/

theorem ofLittleEndian_lt (bytes : List UInt8) :
    ofLittleEndian bytes < 256 ^ bytes.length := by
  induction bytes with
  | nil => decide
  | cons byte rest inductionHypothesis =>
      have small := byte.toNat_lt
      rw [ofLittleEndian, List.length_cons, Nat.pow_succ]
      omega

/-- A number is read back from as many bytes as it needs. -/
theorem ofLittleEndian_littleEndian
    {width value : Nat}
    (small : value < 256 ^ width) :
    ofLittleEndian (littleEndian width value) = value := by
  induction width generalizing value with
  | zero => exact (Nat.lt_one_iff.mp small).symm
  | succ width inductionHypothesis =>
      rw [Nat.pow_succ] at small
      rw [littleEndian, ofLittleEndian, inductionHypothesis (by omega),
        Nat.toUInt8_eq, UInt8.toNat_ofNat']
      omega

/-- Bytes are written back from the number they write. -/
theorem littleEndian_ofLittleEndian (bytes : List UInt8) :
    littleEndian bytes.length (ofLittleEndian bytes) = bytes := by
  induction bytes with
  | nil => rfl
  | cons byte rest inductionHypothesis =>
      have small := byte.toNat_lt
      have lowest : (byte.toNat + 256 * ofLittleEndian rest).toUInt8 = byte := by
        apply UInt8.toNat_inj.mp
        rw [Nat.toUInt8_eq, UInt8.toNat_ofNat']
        omega
      have others : (byte.toNat + 256 * ofLittleEndian rest) / 256 = ofLittleEndian rest := by
        omega
      rw [ofLittleEndian, List.length_cons, littleEndian, lowest, others, inductionHypothesis]

namespace Digest

/-! ## Parts of a byte sequence -/

/-- A number of bytes from a position on. -/
def part (bytes : List UInt8) (start width : Nat) : List UInt8 :=
  (bytes.drop start).take width

theorem length_part
    {bytes : List UInt8}
    {start width : Nat}
    (inside : start + width ≤ bytes.length) :
    (part bytes start width).length = width := by
  rw [part, List.length_take, List.length_drop]
  omega

theorem part_add (bytes : List UInt8) (start first second : Nat) :
    part bytes start (first + second) =
      part bytes start first ++ part bytes (start + first) second := by
  rw [part, List.take_add, List.drop_drop]
  rfl

theorem part_append_right (front rest : List UInt8) (start width : Nat) :
    part (front ++ rest) (front.length + start) width = part rest start width := by
  rw [part, ← List.drop_drop, List.drop_left]
  rfl

theorem part_to_end
    {bytes : List UInt8}
    {start width : Nat}
    (whole : start + width = bytes.length) :
    part bytes start width = bytes.drop start := by
  apply List.take_of_length_le
  rw [List.length_drop]
  omega

/-- Any bytes are what stands before a part, the part, and what follows it. -/
theorem eq_around_part (bytes : List UInt8) (start width : Nat) :
    bytes = bytes.take start ++ part bytes start width ++ bytes.drop (start + width) := by
  rw [part, List.append_assoc, ← List.drop_drop, List.take_append_drop, List.take_append_drop]

/-! ## Fields -/

theorem field_eq (bytes : List UInt8) (start width : Nat) :
    field bytes start width = ofLittleEndian (part bytes start width) := rfl

theorem field_lt
    {bytes : List UInt8}
    {start width : Nat}
    (inside : start + width ≤ bytes.length) :
    field bytes start width < 256 ^ width := by
  have bound := ofLittleEndian_lt (part bytes start width)
  rwa [length_part inside] at bound

theorem littleEndian_field
    {bytes : List UInt8}
    {start width : Nat}
    (inside : start + width ≤ bytes.length) :
    littleEndian width (field bytes start width) = part bytes start width := by
  have written := littleEndian_ofLittleEndian (part bytes start width)
  rwa [length_part inside] at written

/-- A field reads as a number exactly when the number is written there. -/
theorem field_eq_iff
    {bytes : List UInt8}
    {start width value : Nat}
    (inside : start + width ≤ bytes.length)
    (small : value < 256 ^ width) :
    field bytes start width = value ↔ part bytes start width = littleEndian width value := by
  constructor
  · intro read
    rw [← littleEndian_field inside, read]
  · intro written
    rw [field_eq, written, ofLittleEndian_littleEndian small]

theorem field_one_eq_iff
    {bytes : List UInt8}
    {start : Nat}
    {value : UInt8}
    (inside : start + 1 ≤ bytes.length) :
    field bytes start 1 = value.toNat ↔ part bytes start 1 = [value] := by
  have single : littleEndian 1 value.toNat = [value] := by
    simp [littleEndian]
  rw [field_eq_iff inside value.toNat_lt, single]

theorem part_one
    {bytes : List UInt8}
    {start : Nat}
    (inside : start + 1 ≤ bytes.length) :
    part bytes start 1 = [(field bytes start 1).toUInt8] :=
  (field_one_eq_iff inside).mp (UInt8.toNat_ofNat_of_lt' (field_lt inside)).symm

theorem toUInt16_field_eq_iff
    {bytes : List UInt8}
    {start : Nat}
    {value : UInt16}
    (inside : start + 2 ≤ bytes.length) :
    (field bytes start 2).toUInt16 = value ↔
      part bytes start 2 = littleEndian 2 value.toNat := by
  rw [← UInt16.toNat_inj, Nat.toUInt16_eq, UInt16.toNat_ofNat_of_lt' (field_lt inside),
    field_eq_iff inside value.toNat_lt]

theorem toUInt32_field_eq_iff
    {bytes : List UInt8}
    {start : Nat}
    {value : UInt32}
    (inside : start + 4 ≤ bytes.length) :
    (field bytes start 4).toUInt32 = value ↔
      part bytes start 4 = littleEndian 4 value.toNat := by
  rw [← UInt32.toNat_inj, Nat.toUInt32_eq, UInt32.toNat_ofNat_of_lt' (field_lt inside),
    field_eq_iff inside value.toNat_lt]

theorem toUInt64_field_eq_iff
    {bytes : List UInt8}
    {start : Nat}
    {value : UInt64}
    (inside : start + 8 ≤ bytes.length) :
    (field bytes start 8).toUInt64 = value ↔
      part bytes start 8 = littleEndian 8 value.toNat := by
  rw [← UInt64.toNat_inj, Nat.toUInt64_eq, UInt64.toNat_ofNat_of_lt' (field_lt inside),
    field_eq_iff inside value.toNat_lt]

end Digest
end GossipGroup
