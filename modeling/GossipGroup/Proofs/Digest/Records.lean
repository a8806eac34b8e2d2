import GossipGroup.Proofs.Address.Recognition
import GossipGroup.Proofs.Digest.Fields

/-!
# What a record writes

A record of 56 bytes writes a report if each field of the report stands at its
place; the bytes that no field uses may hold anything. Records are read as
reports exactly when they write them, so of a record whose tags are known one
report is read and of any other none.
-/

namespace GossipGroup

/-! ## Hosts -/

theorem HostV6.bytes_injective : Function.Injective HostV6.bytes := by
  rintro ⟨⟩ ⟨⟩ same
  simp only [bytes, groups, List.flatMap_cons, List.flatMap_nil, List.cons_append,
    List.nil_append, List.cons.injEq] at same
  grind [group_eq_of_bytes_eq]

namespace Digest

theorem octets_hostV4At
    {bytes : List UInt8}
    {start : Nat}
    (inside : start + 4 ≤ bytes.length) :
    (hostV4At bytes start).octets = part bytes start 4 := by
  rw [part_add bytes start 1 3, part_add bytes (start + 1) 1 2,
    part_add bytes (start + 1 + 1) 1 1]
  repeat rw [part_one (by omega)]
  rfl

theorem bytes_groupAt
    {bytes : List UInt8}
    {start : Nat}
    (inside : start + 2 ≤ bytes.length) :
    [(groupAt bytes start >>> 8).toUInt8, (groupAt bytes start).toUInt8] =
      part bytes start 2 := by
  have high : field bytes start 1 < 256 := field_lt (by omega)
  have low : field bytes (start + 1) 1 < 256 := field_lt (by omega)
  rw [part_add bytes start 1 1, part_one (by omega), part_one (by omega),
    List.cons_append, List.nil_append, List.cons.injEq, List.cons.injEq]
  refine ⟨?_, ?_, rfl⟩
  · apply UInt8.toNat_inj.mp
    simp [groupAt, Nat.shiftRight_eq_div_pow]
    omega
  · apply UInt8.toNat_inj.mp
    simp [groupAt]

theorem bytes_hostV6At
    {bytes : List UInt8}
    {start : Nat}
    (inside : start + 16 ≤ bytes.length) :
    (hostV6At bytes start).bytes = part bytes start 16 := by
  rw [part_add bytes start 2 14, part_add bytes (start + 2) 2 12,
    part_add bytes (start + 2 + 2) 2 10, part_add bytes (start + 2 + 2 + 2) 2 8,
    part_add bytes (start + 2 + 2 + 2 + 2) 2 6, part_add bytes (start + 2 + 2 + 2 + 2 + 2) 2 4,
    part_add bytes (start + 2 + 2 + 2 + 2 + 2 + 2) 2 2]
  repeat rw [← bytes_groupAt (by omega)]
  rfl

theorem hostV4At_eq_iff
    {bytes : List UInt8}
    {start : Nat}
    {host : HostV4}
    (inside : start + 4 ≤ bytes.length) :
    hostV4At bytes start = host ↔ part bytes start 4 = host.octets := by
  rw [← octets_hostV4At inside, HostV4.octets_injective.eq_iff]

theorem hostV6At_eq_iff
    {bytes : List UInt8}
    {start : Nat}
    {host : HostV6}
    (inside : start + 16 ≤ bytes.length) :
    hostV6At bytes start = host ↔ part bytes start 16 = host.bytes := by
  rw [← bytes_hostV6At inside, HostV6.bytes_injective.eq_iff]

/-! ## One record -/

/-- The first 32 bytes of a record write an address. -/
def WritesAddress (record : List UInt8) : SocketAddress → Prop
  | .v4 host portNumber =>
      part record 0 1 = [0] ∧
        part record 2 4 = host.octets ∧
        part record 6 2 = littleEndian 2 portNumber.toNat
  | .v6 host portNumber flow scope =>
      part record 0 1 = [1] ∧
        part record 4 16 = host.bytes ∧
        part record 20 2 = littleEndian 2 portNumber.toNat ∧
        part record 24 4 = littleEndian 4 flow.toNat ∧
        part record 28 4 = littleEndian 4 scope.toNat

/-- A record writes a report. -/
structure WritesReport (record : List UInt8) (report : Report) : Prop where
  length : record.length = recordSize
  address : WritesAddress record report.identity.address
  joinedAt : part record 32 8 = littleEndian 8 report.identity.joinedAt.toNat
  heartbeat : part record 40 8 = littleEndian 8 report.heartbeat.toNat
  status : part record 48 1 = [statusByte report.status]

theorem addressOf?_eq_some_iff
    {record : List UInt8}
    {address : SocketAddress}
    (inside : 32 ≤ record.length) :
    addressOf? record = some address ↔ WritesAddress record address := by
  have tagged : ∀ tag : UInt8, part record 0 1 = [tag] ↔ field record 0 1 = tag.toNat :=
    fun tag => (field_one_eq_iff (by omega)).symm
  cases address with
  | v4 host portNumber =>
      rw [WritesAddress, tagged, ← hostV4At_eq_iff (by omega),
        ← toUInt16_field_eq_iff (by omega)]
      unfold addressOf?
      split <;> simp_all
  | v6 host portNumber flow scope =>
      rw [WritesAddress, tagged, ← hostV6At_eq_iff (by omega),
        ← toUInt16_field_eq_iff (by omega), ← toUInt32_field_eq_iff (by omega),
        ← toUInt32_field_eq_iff (by omega)]
      unfold addressOf?
      split <;> simp_all

theorem statusOf?_eq_some_iff
    {record : List UInt8}
    {status : Status}
    (inside : 49 ≤ record.length) :
    statusOf? record = some status ↔ part record 48 1 = [statusByte status] := by
  rw [← field_one_eq_iff (by omega)]
  unfold statusOf?
  split <;> cases status <;> simp_all [statusByte]

/-- A record is read as the report that it writes. -/
theorem reportOf?_eq_some_iff
    {record : List UInt8}
    {report : Report}
    (length : record.length = recordSize) :
    reportOf? record = some report ↔ WritesReport record report := by
  have size : recordSize = 56 := rfl
  have joined : (field record 32 8).toUInt64 = report.identity.joinedAt ↔ _ :=
    toUInt64_field_eq_iff (by omega)
  have beat : (field record 40 8).toUInt64 = report.heartbeat ↔ _ :=
    toUInt64_field_eq_iff (by omega)
  constructor
  · intro read
    unfold reportOf? at read
    split at read
    · rename_i address status addressRead statusRead
      obtain rfl := Option.some.inj read
      exact {
        length
        address := (addressOf?_eq_some_iff (by omega)).mp addressRead
        joinedAt := joined.mp rfl
        heartbeat := beat.mp rfl
        status := (statusOf?_eq_some_iff (by omega)).mp statusRead }
    · contradiction
  · intro written
    rw [reportOf?, (addressOf?_eq_some_iff (by omega)).mpr written.address,
      (statusOf?_eq_some_iff (by omega)).mpr written.status]
    simp only [joined.mpr written.joinedAt, beat.mpr written.heartbeat]

/-! ## Consecutive records -/

/-- Consecutive records write reports, one each. -/
inductive WritesReports : List UInt8 → List Report → Prop
  | nil : WritesReports [] []
  | cons {record rest : List UInt8} {report : Report} {reports : List Report}
      (first : WritesReport record report)
      (others : WritesReports rest reports) :
      WritesReports (record ++ rest) (report :: reports)

namespace WritesReports

theorem length
    {records : List UInt8}
    {reports : List Report}
    (written : WritesReports records reports) :
    records.length = recordSize * reports.length := by
  induction written with
  | nil => rfl
  | cons first others inductionHypothesis =>
      rw [List.length_append, first.length, inductionHypothesis, List.length_cons,
        Nat.mul_succ, Nat.add_comm]

theorem eq_nil
    {reports : List Report}
    (written : WritesReports [] reports) :
    reports = [] := by
  have length := written.length
  rw [List.length_nil, recordSize] at length
  apply List.eq_nil_of_length_eq_zero
  omega

/-- What begins with a record writes a report about it first. -/
theorem append_inv
    {record rest : List UInt8}
    {reports : List Report}
    (size : record.length = recordSize)
    (written : WritesReports (record ++ rest) reports) :
    ∃ report others, reports = report :: others ∧
      WritesReport record report ∧ WritesReports rest others := by
  generalize whole : record ++ rest = records at written
  cases written with
  | nil =>
      rw [List.append_eq_nil_iff] at whole
      rw [whole.1] at size
      contradiction
  | @cons front back report others first remaining =>
      obtain ⟨rfl, rfl⟩ := List.append_inj whole (size.trans first.length.symm)
      exact ⟨report, others, rfl, first, remaining⟩

end WritesReports

/-- As many records as are counted are read as the reports that they write. -/
theorem reportsOf?_eq_some_iff
    {count : Nat}
    {bytes : List UInt8}
    {reports : List Report}
    (inside : recordSize * count ≤ bytes.length) :
    reportsOf? count bytes = some reports ↔
      WritesReports (bytes.take (recordSize * count)) reports := by
  induction count generalizing bytes reports with
  | zero =>
      rw [reportsOf?, Nat.mul_zero, List.take_zero, Option.some.injEq]
      constructor
      · rintro rfl
        exact .nil
      · exact fun written => written.eq_nil.symm
  | succ count inductionHypothesis =>
      rw [Nat.mul_succ, Nat.add_comm] at inside
      have first : (bytes.take recordSize).length = recordSize := by
        rw [List.length_take]
        omega
      have others : ∀ rest, reportsOf? count (bytes.drop recordSize) = some rest ↔
          WritesReports ((bytes.drop recordSize).take (recordSize * count)) rest := by
        intro rest
        apply inductionHypothesis
        rw [List.length_drop]
        omega
      rw [reportsOf?, Nat.mul_succ, Nat.add_comm, List.take_add]
      constructor
      · intro read
        split at read
        · contradiction
        · rename_i report found
          obtain ⟨rest, restRead, rfl⟩ := Option.map_eq_some_iff.mp read
          exact .cons ((reportOf?_eq_some_iff first).mp found) ((others rest).mp restRead)
      · intro written
        obtain ⟨report, rest, rfl, firstWritten, restWritten⟩ := written.append_inv first
        rw [(reportOf?_eq_some_iff first).mpr firstWritten, (others rest).mpr restWritten]
        rfl

end Digest
end GossipGroup
