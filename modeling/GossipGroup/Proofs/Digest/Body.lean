import GossipGroup.Proofs.Digest.Records

/-!
# What a body writes

The body of a datagram is made of its records, of a root at its end, and of any
bytes before the records and between the records and the root. The root holds
the offset from itself back to the first record, as a signed number of 32 bits,
and the number of the records. The records begin at a multiple of eight bytes
and the body ends at a multiple of four. A body is read as the reports that it
writes, and a body that writes none is not read.
-/

namespace GossipGroup
namespace Digest

/-! ## Roots -/

/-- The eight bytes of a root. -/
def rootOf (offset : Int32) (count : UInt32) : List UInt8 :=
  littleEndian 4 offset.toUInt32.toNat ++ littleEndian 4 count.toNat

@[simp] theorem length_rootOf (offset : Int32) (count : UInt32) :
    (rootOf offset count).length = rootSize := by
  rw [rootOf, List.length_append, length_littleEndian, length_littleEndian, rootSize]

/-- The word of an offset is read as the offset. -/
theorem signedWord_toNat (offset : Int32) :
    signedWord offset.toUInt32.toNat = offset.toInt := by
  have word : offset.toUInt32.toNat = offset.toBitVec.toNat := rfl
  have value : offset.toInt = offset.toBitVec.toInt := rfl
  rw [signedWord, word, value, BitVec.toInt_eq_toNat_cond, UInt32.size]
  split <;> split <;> omega

/-- The last eight bytes are a root exactly if its two numbers are read there. -/
theorem rootOf_eq_drop_iff
    {bytes : List UInt8}
    {offset : Int32}
    {count : UInt32}
    {position : Nat}
    (room : position + rootSize = bytes.length) :
    rootOf offset count = bytes.drop position ↔
      field bytes position 4 = offset.toUInt32.toNat ∧
        field bytes (position + 4) 4 = count.toNat := by
  rw [rootSize] at room
  have halves : bytes.drop position = part bytes position 4 ++ part bytes (position + 4) 4 := by
    rw [← part_add, part_to_end room]
  have widths : (littleEndian 4 offset.toUInt32.toNat).length = (part bytes position 4).length := by
    rw [length_littleEndian, length_part (by omega)]
  rw [halves, rootOf, field_eq_iff (by omega) offset.toUInt32.toNat_lt,
    field_eq_iff (by omega) count.toNat_lt]
  constructor
  · intro same
    obtain ⟨first, second⟩ := List.append_inj same widths
    exact ⟨first.symm, second.symm⟩
  · rintro ⟨first, second⟩
    rw [first, second]

/-- Any eight bytes are a root. -/
theorem exists_rootOf_eq_drop
    {bytes : List UInt8}
    {position : Nat}
    (room : position + rootSize = bytes.length) :
    ∃ offset count, rootOf offset count = bytes.drop position ∧
      offset.toUInt32.toNat = field bytes position 4 ∧
      count.toNat = field bytes (position + 4) 4 := by
  have size : rootSize = 4 + 4 := rfl
  have offsetField : (field bytes position 4).toUInt32.toInt32.toUInt32.toNat =
      field bytes position 4 :=
    UInt32.toNat_ofNat_of_lt' (field_lt (by omega))
  have countField : (field bytes (position + 4) 4).toUInt32.toNat =
      field bytes (position + 4) 4 :=
    UInt32.toNat_ofNat_of_lt' (field_lt (by omega))
  exact ⟨_, _, (rootOf_eq_drop_iff room).mpr ⟨offsetField.symm, countField.symm⟩,
    offsetField, countField⟩

/-! ## Bodies -/

/-- A body writes reports. -/
inductive WritesBody : List UInt8 → List Report → Prop
  | mk {front records gap : List UInt8} {offset : Int32} {count : UInt32}
      {reports : List Report}
      (written : WritesReports records reports)
      (offset_eq : offset.toInt = front.length - (front ++ records ++ gap).length)
      (count_eq : count.toNat = reports.length)
      (frontAligned : 8 ∣ front.length)
      (aligned : 4 ∣ (front ++ records ++ gap ++ rootOf offset count).length) :
      WritesBody (front ++ records ++ gap ++ rootOf offset count) reports

/-- The root of a body, at the given position, says that a number of records
begin at a place where they may. -/
structure Placed (bytes : List UInt8) (position start count : Nat) : Prop where
  room : position + rootSize = bytes.length
  aligned : bytes.length % 4 = 0
  start_eq : (start : Int) = position + signedWord (field bytes position 4)
  count_eq : count = field bytes (position + 4) 4
  startAligned : start % 8 = 0
  inside : start + recordSize * count ≤ position

theorem recordsPlace?_eq_some_iff {bytes : List UInt8} {start count : Nat} :
    recordsPlace? bytes = some (start, count) ↔
      ∃ position, Placed bytes position start count := by
  constructor
  · intro found
    unfold recordsPlace? at found
    simp only at found
    split at found
    · contradiction
    · split at found
      · contradiction
      · split at found
        · contradiction
        · obtain ⟨rfl, rfl⟩ := Prod.mk.inj (Option.some.inj found)
          refine ⟨bytes.length - rootSize, ?_, ?_, ?_, rfl, ?_, ?_⟩ <;> omega
  · rintro ⟨position, room, aligned, start_eq, rfl, startAligned, inside⟩
    obtain rfl : position = bytes.length - rootSize := by omega
    rw [recordsPlace?]
    simp only
    rw [if_neg (by omega), if_neg (by omega), if_neg (by omega), ← start_eq]
    rfl

/-- Records where the root places them make a body that writes their reports. -/
theorem Placed.writesBody
    {bytes : List UInt8}
    {reports : List Report}
    {position start count : Nat}
    (placed : Placed bytes position start count)
    (written : WritesReports (part bytes start (recordSize * count)) reports) :
    WritesBody bytes reports := by
  obtain ⟨room, aligned, start_eq, count_eq, startAligned, inside⟩ := placed
  obtain ⟨offset, number, rootWritten, offsetField, numberField⟩ := exists_rootOf_eq_drop room
  have counted : count = reports.length := by
    have length := written.length
    rw [length_part (by omega)] at length
    exact Nat.eq_of_mul_eq_mul_left (by decide) length
  obtain ⟨gap, gap_eq⟩ := Nat.exists_eq_add_of_le inside
  have beforeRoot : bytes.take position =
      bytes.take start ++ part bytes start (recordSize * count) ++
        part bytes (start + recordSize * count) gap := by
    rw [gap_eq, List.take_add, List.take_add]
    rfl
  have whole : bytes.take start ++ part bytes start (recordSize * count) ++
      part bytes (start + recordSize * count) gap ++ rootOf offset number = bytes := by
    rw [← beforeRoot, rootWritten, List.take_append_drop]
  have startLength : (bytes.take start).length = start := by
    rw [List.length_take]
    omega
  rw [← whole]
  refine .mk written ?_ ?_ ?_ ?_
  · rw [← signedWord_toNat, offsetField, ← beforeRoot, startLength, List.length_take]
    omega
  · rw [numberField, ← count_eq, counted]
  · rw [startLength]
    omega
  · rw [whole]
    omega

/-- The root of a body that writes reports places their records. -/
theorem WritesBody.placed
    {bytes : List UInt8}
    {reports : List Report}
    (written : WritesBody bytes reports) :
    ∃ position start, Placed bytes position start reports.length ∧
      WritesReports (part bytes start (recordSize * reports.length)) reports := by
  cases written with
  | @mk front records gap offset count _ written offset_eq count_eq frontAligned aligned =>
      have length := written.length
      have room : (front ++ records ++ gap).length + rootSize =
          (front ++ records ++ gap ++ rootOf offset count).length := by
        simp only [List.length_append, length_rootOf]
      obtain ⟨offsetField, countField⟩ := (rootOf_eq_drop_iff room).mp List.drop_left.symm
      refine ⟨(front ++ records ++ gap).length, front.length, ⟨room, ?_, ?_, ?_, ?_, ?_⟩, ?_⟩
      · omega
      · rw [offsetField, signedWord_toNat, offset_eq]
        omega
      · rw [countField, count_eq]
      · omega
      · rw [List.length_append, List.length_append, length]
        omega
      · rw [← length, part, List.append_assoc, List.append_assoc, List.drop_left,
          List.take_left]
        exact written

/-- A body is read as the reports that it writes. -/
theorem readBody?_eq_some_iff {bytes : List UInt8} {reports : List Report} :
    readBody? bytes = some reports ↔ WritesBody bytes reports := by
  have records : ∀ {position start count : Nat}, Placed bytes position start count →
      (reportsOf? count (bytes.drop start) = some reports ↔
        WritesReports (part bytes start (recordSize * count)) reports) := by
    intro position start count placed
    apply reportsOf?_eq_some_iff
    have room := placed.room
    have inside := placed.inside
    rw [List.length_drop]
    omega
  unfold readBody?
  constructor
  · intro read
    split at read
    · contradiction
    · rename_i start count found
      obtain ⟨position, placed⟩ := recordsPlace?_eq_some_iff.mp found
      exact placed.writesBody ((records placed).mp read)
  · intro written
    obtain ⟨position, start, placed, recordsWritten⟩ := written.placed
    rw [recordsPlace?_eq_some_iff.mpr ⟨position, placed⟩]
    exact (records placed).mpr recordsWritten

end Digest
end GossipGroup
