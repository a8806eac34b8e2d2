import GossipGroup.Proofs.Digest.Datagram
import GossipGroup.Proofs.Digest.Freshest
import GossipGroup.Proofs.Identity.Text
import Mathlib.Data.List.Perm.Subperm

/-!
# A digest is read back from its bytes

The bytes of a digest write its reports, so the digest is read back from them
with every field as it was, the flow label of an IPv6 address included, although
it makes no difference between members. This takes a root: the offset back to
the first record has to be one of 32 bits, which it is for up to two gibibytes of
records. A digest with more is not written. There are such digests, but none was
ever read from a datagram.
-/

namespace GossipGroup
namespace Digest

/-! ## Records -/

theorem length_addressField (address : SocketAddress) :
    (addressField address).length = 32 := by
  cases address <;> simp [addressField, HostV4.octets]

theorem writesAddress_addressField (address : SocketAddress) (rest : List UInt8) :
    WritesAddress (addressField address ++ rest) address := by
  cases address with
  | v4 host portNumber => exact ⟨rfl, rfl, rfl⟩
  | v6 host portNumber flow scope => exact ⟨rfl, rfl, rfl, rfl, rfl⟩

/-- The record of a report writes it. -/
theorem writesReport_record (report : Report) : WritesReport (record report) report := by
  have split : record report = addressField report.identity.address ++
      (littleEndian 8 report.identity.joinedAt.toNat ++
        (littleEndian 8 report.heartbeat.toNat ++ statusByte report.status :: zeros 7)) := by
    rw [record, List.append_assoc, List.append_assoc]
  have behind := fun start width => part_append_right
    (addressField report.identity.address)
    (littleEndian 8 report.identity.joinedAt.toNat ++
      (littleEndian 8 report.heartbeat.toNat ++ statusByte report.status :: zeros 7))
    start width
  rw [← split, length_addressField] at behind
  exact {
    length := by
      rw [split, List.length_append, length_addressField]
      rfl
    address := by
      rw [split]
      exact writesAddress_addressField report.identity.address _
    joinedAt := (behind 0 8).trans rfl
    heartbeat := (behind 8 8).trans rfl
    status := (behind 16 1).trans rfl }

theorem writesReports_flatMap_record (reports : List Report) :
    WritesReports (reports.flatMap record) reports := by
  induction reports with
  | nil => exact .nil
  | cons report rest inductionHypothesis =>
      exact .cons (writesReport_record report) inductionHypothesis

/-- A digest of `n` reports takes `56 n + 12` bytes. -/
theorem length_bytes (digest : Digest) :
    digest.bytes.length = 56 * digest.size + 12 := by
  have records := (writesReports_flatMap_record digest.reports).length
  simp only [bytes, body, root, List.length_append, length_littleEndian, records, recordSize,
    checksumSize, size]

/-! ## Roots -/

/-- There is a root for a digest: the offset back to its first record is a
signed number of 32 bits, and the number of its reports is one of 32 bits. -/
def HasRoot (digest : Digest) : Prop :=
  ∃ (offset : Int32) (count : UInt32),
    offset.toInt = -(recordSize * digest.size : Nat) ∧ count.toNat = digest.size

/-- A digest has a root as long as its records take at most two gibibytes. -/
theorem hasRoot_iff {digest : Digest} :
    digest.HasRoot ↔ recordSize * digest.size ≤ 2 ^ 31 := by
  rw [HasRoot, recordSize]
  constructor
  · rintro ⟨offset, count, offset_eq, -⟩
    have least := offset.le_toInt
    omega
  · intro small
    refine ⟨.ofInt (-(56 * digest.size : Nat)), .ofNat digest.size, ?_, ?_⟩
    · apply Int32.toInt_ofInt_of_le <;> omega
    · apply UInt32.toNat_ofNat_of_lt'
      rw [UInt32.size]
      omega

/-- A digest with a root is written with its bytes. -/
theorem encode_eq_ok_iff {digest : Digest} {datagram : List UInt8} :
    digest.encode = .ok datagram ↔ digest.HasRoot ∧ datagram = digest.bytes := by
  have half : UInt32.size / 2 = 2 ^ 31 := rfl
  rw [encode, hasRoot_iff, half]
  split
  · rename_i long
    exact iff_of_false nofun fun fits => absurd fits.1 (Nat.not_le.mpr long)
  · rename_i fits
    rw [Except.ok.injEq, eq_comm, and_iff_right (Nat.not_lt.mp fits)]

/-- A digest without a root is not written. -/
theorem encode_eq_error_iff {digest : Digest} :
    digest.encode = .error .rootOutOfReach ↔ ¬digest.HasRoot := by
  have half : UInt32.size / 2 = 2 ^ 31 := rfl
  rw [encode, hasRoot_iff, half, Nat.not_le]
  split
  · rename_i long
    exact iff_of_true rfl long
  · rename_i fits
    exact iff_of_false nofun fits

theorem HasRoot.encode_eq {digest : Digest} (hasRoot : digest.HasRoot) :
    digest.encode = .ok digest.bytes :=
  encode_eq_ok_iff.mpr ⟨hasRoot, rfl⟩

/-- The offset in a root is written as the word that is read as it. -/
theorem offsetWord_toInt (offset : Int32) :
    offsetWord offset.toInt = offset.toUInt32.toNat := by
  have small := offset.toUInt32.toNat_lt
  rw [← signedWord_toNat, offsetWord, signedWord, UInt32.size]
  split <;> omega

/-- A body writes the reports of its digest, also behind other bytes as long as
these keep it aligned. -/
theorem HasRoot.writesBody
    {digest : Digest}
    {front : List UInt8}
    (hasRoot : digest.HasRoot)
    (aligned : 8 ∣ front.length) :
    WritesBody (front ++ digest.body) digest.reports := by
  obtain ⟨offset, count, offset_eq, count_eq⟩ := hasRoot
  have records := writesReports_flatMap_record digest.reports
  have length := records.length
  have rootWritten : root digest.size = rootOf offset count := by
    rw [root, rootOf, ← offset_eq, offsetWord_toInt, count_eq]
  have whole : front ++ digest.body =
      front ++ digest.reports.flatMap record ++ [] ++ rootOf offset count := by
    rw [body, rootWritten, List.append_nil, List.append_assoc]
  rw [whole]
  refine .mk records ?_ count_eq aligned ?_
  · rw [offset_eq, List.append_nil, List.length_append, length, size]
    omega
  · rw [List.append_nil, List.length_append, List.length_append, length, length_rootOf,
      recordSize, rootSize]
    omega

/-- What was read from a datagram has a root. -/
theorem WritesBody.hasRoot
    {bytes : List UInt8}
    {digest : Digest}
    (written : WritesBody bytes digest.reports) :
    digest.HasRoot := by
  rw [hasRoot_iff]
  cases written with
  | @mk front records gap offset count _ written offset_eq count_eq frontAligned aligned =>
      have length := written.length
      have least := offset.le_toInt
      rw [List.length_append, List.length_append, length] at offset_eq
      rw [size]
      omega

/-! ## Reading back -/

theorem decode_bytes
    {digest : Digest}
    (hasRoot : digest.HasRoot)
    (ordered : Ascending digest.reports) :
    decode digest.bytes = .ok digest := by
  have written : WritesBody ([] ++ digest.body) digest.reports :=
    hasRoot.writesBody (Nat.dvd_zero 8)
  exact decode_eq_ok_iff.mpr ⟨digest.body, rfl, written, ordered⟩

/-- What was written of an ascending digest is read as that digest. -/
theorem decode_of_encode
    {digest : Digest}
    {datagram : List UInt8}
    (encoded : digest.encode = .ok datagram)
    (ordered : Ascending digest.reports) :
    decode datagram = .ok digest := by
  obtain ⟨hasRoot, rfl⟩ := encode_eq_ok_iff.mp encoded
  exact decode_bytes hasRoot ordered

/-- The greatest number of reports whose records a root reaches back over. -/
theorem hasRoot_iff_size_le {digest : Digest} :
    digest.HasRoot ↔ digest.size ≤ 38347922 := by
  rw [hasRoot_iff, recordSize]
  omega

/-- A digest with strictly ascending reports is written exactly if a root reaches back
over them. Then it takes `56 n + 12` bytes and is read back from these as it was. And
whatever bytes a digest was read from, it can be written and is read back from the bytes
that it is then written with. -/
theorem round_trip :
    (∀ digest : Digest,
        (digest.reports.Pairwise fun earlier later =>
          earlier.identity.order later.identity = .lt) →
        (digest.size ≤ 38347922 →
          ∃ datagram, digest.encode = .ok datagram ∧
            datagram.length = 56 * digest.size + 12 ∧ decode datagram = .ok digest) ∧
        (38347922 < digest.size → digest.encode = .error .rootOutOfReach)) ∧
      ∀ received digest, decode received = .ok digest →
        ∃ datagram, digest.encode = .ok datagram ∧
          datagram.length = 56 * digest.size + 12 ∧ decode datagram = .ok digest := by
  have readBack : ∀ digest : Digest, Ascending digest.reports → digest.HasRoot →
      ∃ datagram, digest.encode = .ok datagram ∧
        datagram.length = 56 * digest.size + 12 ∧ decode datagram = .ok digest :=
    fun digest ordered hasRoot =>
      ⟨digest.bytes, hasRoot.encode_eq, digest.length_bytes, decode_bytes hasRoot ordered⟩
  constructor
  · intro digest ordered
    constructor
    · intro few
      exact readBack digest (ascending_iff_order.mpr ordered) (hasRoot_iff_size_le.mpr few)
    · intro many
      rw [encode_eq_error_iff, hasRoot_iff_size_le]
      exact Nat.not_le.mpr many
  · intro received digest read
    obtain ⟨body, -, written, ordered⟩ := decode_eq_ok_iff.mp read
    exact readBack digest ordered written.hasRoot

/-- Two reports, of which the second has a flow label, are read back; and so they
are after they were read from a datagram with eight more bytes in front. -/
theorem round_trip_of_two_reports :
    ∃ (digest : Digest) (datagram : List UInt8),
      digest.reports =
        [⟨⟨.v4 ⟨127, 0, 0, 1⟩ 8000, 5⟩, 3, .alive⟩,
          ⟨⟨.v6 ⟨0xfe80, 0, 0, 0, 0, 0, 0, 1⟩ 9000 7 2, 4⟩, 9, .left⟩] ∧
      (digest.reports.Pairwise fun earlier later =>
        earlier.identity.order later.identity = .lt) ∧
      digest.encode = .ok datagram ∧
      datagram.length = 124 ∧
      decode datagram = .ok digest ∧
      decode (zeros 8 ++ digest.body ++
        littleEndian 4 (checksum (zeros 8 ++ digest.body)).toNat) = .ok digest := by
  let digest : Digest :=
    ⟨[⟨⟨.v4 ⟨127, 0, 0, 1⟩ 8000, 5⟩, 3, .alive⟩,
      ⟨⟨.v6 ⟨0xfe80, 0, 0, 0, 0, 0, 0, 1⟩ 9000 7 2, 4⟩, 9, .left⟩]⟩
  have ordered : digest.reports.Pairwise fun earlier later =>
      earlier.identity.order later.identity = .lt := by
    decide +kernel
  have hasRoot : digest.HasRoot := ⟨-112, 2, by decide, by decide⟩
  have displaced : decode (zeros 8 ++ digest.body ++
      littleEndian 4 (checksum (zeros 8 ++ digest.body)).toNat) = .ok digest :=
    decode_eq_ok_iff.mpr
      ⟨_, rfl, hasRoot.writesBody (Nat.dvd_refl 8), ascending_iff_order.mpr ordered⟩
  obtain ⟨datagram, encoded, length, -⟩ := (round_trip.1 digest ordered).1 (by decide)
  obtain ⟨again, encodedAgain, -, read⟩ := round_trip.2 _ digest displaced
  have same : again = datagram := Except.ok.inj (encodedAgain.symm.trans encoded)
  exact ⟨digest, datagram, rfl, ordered, encoded, length, same ▸ read, displaced⟩

/-! ## Digests that are not written -/

/-- A report about a member that joined at a time, always at the same address. -/
def arrival (time : Nat) : Report := ⟨⟨.v4 ⟨127, 0, 0, 1⟩ 7000, .ofNat time⟩, 0, .alive⟩

/-- As many times as there are, so many members can join at one address. -/
theorem le_size_ofReports_arrivals
    {count : Nat}
    (timely : count ≤ UInt64.size) :
    count ≤ (ofReports ((List.range count).map arrival)).size := by
  have told : List.range count ⊆
      (ofReports ((List.range count).map arrival)).reports.map (·.identity.joinedAt.toNat) := by
    intro time early
    obtain ⟨report, kept, same⟩ := exists_mem_ofReports_iff.mpr
      ⟨arrival time, List.mem_map_of_mem early, Identity.same_refl _⟩
    have joined : report.identity.joinedAt = .ofNat time := (Identity.same_iff.mp same).2
    refine List.mem_map.mpr ⟨report, kept, ?_⟩
    rw [joined, UInt64.toNat_ofNat_of_lt']
    exact Nat.lt_of_lt_of_le (List.mem_range.mp early) timely
  have length := (List.subperm_of_subset List.nodup_range told).length_le
  rwa [List.length_range, List.length_map] at length

/-- There are ascending digests of as many reports as there are times to join at. -/
theorem exists_ascending_of_size
    {count : Nat}
    (timely : count ≤ UInt64.size) :
    ∃ digest : Digest, digest.size = count ∧ Ascending digest.reports := by
  let whole := ofReports ((List.range count).map arrival)
  refine ⟨⟨whole.reports.take count⟩, ?_, ?_⟩
  · exact List.length_take_of_le (le_size_ofReports_arrivals timely)
  · exact (ascending_ofReports _).sublist (List.take_sublist count whole.reports)

/-- One report more than a root reaches back over, and the digest is not written, although
its reports ascend. -/
theorem crowd_is_not_written :
    ∃ digest : Digest,
      digest.size = 38347923 ∧
      (digest.reports.Pairwise fun earlier later =>
        earlier.identity.order later.identity = .lt) ∧
      digest.encode = .error .rootOutOfReach ∧
      ¬∃ datagram, digest.encode = .ok datagram := by
  obtain ⟨digest, size, ordered⟩ :=
    exists_ascending_of_size (show 38347923 ≤ UInt64.size by decide)
  have rootless : ¬digest.HasRoot := by
    rw [hasRoot_iff_size_le, size]
    decide
  have unwritten := encode_eq_error_iff.mpr rootless
  refine ⟨digest, size, ascending_iff_order.mp ordered, unwritten, ?_⟩
  rintro ⟨datagram, encoded⟩
  exact rootless (encode_eq_ok_iff.mp encoded).1

end Digest
end GossipGroup
