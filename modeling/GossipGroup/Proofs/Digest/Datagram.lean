import GossipGroup.Proofs.Digest.Body
import GossipGroup.Proofs.Digest.Ordering

/-!
# Which datagrams are read

A datagram carries a body if it is that body with its checksum after it. The
datagrams that are read are those that carry a body which writes strictly
ascending reports, and each of the four errors tells which part of this fails
first.
-/

namespace GossipGroup
namespace Digest

/-! ## The checksum at the end -/

/-- A datagram carries a body: the body comes first and its checksum after it. -/
def Carries (bytes body : List UInt8) : Prop :=
  bytes = body ++ littleEndian checksumSize (checksum body).toNat

namespace Carries

theorem length_eq
    {bytes body : List UInt8}
    (carries : Carries bytes body) :
    bytes.length = body.length + checksumSize := by
  rw [carries, List.length_append, length_littleEndian]

theorem eq_take
    {bytes body : List UInt8}
    (carries : Carries bytes body) :
    body = bytes.take (bytes.length - checksumSize) := by
  rw [carries.length_eq, Nat.add_sub_cancel, carries, List.take_left]

end Carries

/-- A digest that is written is carried by what is sent of it. -/
theorem carries_of_encode
    {digest : Digest}
    {sent : List UInt8}
    (encoded : digest.encode = .ok sent) :
    Carries sent digest.body := by
  unfold encode at encoded
  split at encoded
  · contradiction
  · exact (Except.ok.inj encoded).symm

/-- A datagram carries all but its last four bytes exactly if these are read as
the checksum of the others. -/
theorem carries_take_iff
    {bytes : List UInt8}
    (room : checksumSize ≤ bytes.length) :
    Carries bytes (bytes.take (bytes.length - checksumSize)) ↔
      field bytes (bytes.length - checksumSize) checksumSize =
        (checksum (bytes.take (bytes.length - checksumSize))).toNat := by
  have split := List.take_append_drop (bytes.length - checksumSize) bytes
  rw [field_eq_iff (by omega) (UInt32.toNat_lt _), part_to_end (by omega), Carries]
  constructor
  · intro whole
    exact List.append_cancel_left (split.trans whole)
  · intro trailer
    exact split.symm.trans (congrArg _ trailer)

theorem decode_of_short
    {bytes : List UInt8}
    (short : bytes.length < checksumSize) :
    decode bytes = .error (.truncated bytes.length) := if_pos short

theorem decode_of_not_carries
    {bytes : List UInt8}
    (room : checksumSize ≤ bytes.length)
    (mismatch : ∀ body, ¬Carries bytes body) :
    decode bytes = .error .checksumMismatch := by
  rw [decode, if_neg (Nat.not_lt.mpr room)]
  exact if_pos fun same => mismatch _ ((carries_take_iff room).mpr same.symm)

theorem decode_of_carries
    {bytes body : List UInt8}
    (carries : Carries bytes body) :
    decode bytes =
      match readBody? body with
      | none => .error .corrupted
      | some reports => if ascending reports then .ok ⟨reports⟩ else .error .unordered := by
  have room : checksumSize ≤ bytes.length := carries.length_eq ▸ Nat.le_add_left _ _
  obtain rfl := carries.eq_take
  rw [decode, if_neg (Nat.not_lt.mpr room)]
  exact if_neg (not_not_intro ((carries_take_iff room).mp carries).symm)

/-! ## The outcomes of reading -/

/-- What reading a datagram comes to. -/
inductive Reading (bytes : List UInt8) : Except DecodeError Digest → Prop
  | truncated
      (short : bytes.length < checksumSize) :
      Reading bytes (.error (.truncated bytes.length))
  | mismatched
      (room : checksumSize ≤ bytes.length)
      (mismatch : ∀ body, ¬Carries bytes body) :
      Reading bytes (.error .checksumMismatch)
  | corrupted {body : List UInt8}
      (carries : Carries bytes body)
      (unwritten : ∀ reports, ¬WritesBody body reports) :
      Reading bytes (.error .corrupted)
  | unordered {body : List UInt8} {reports : List Report}
      (carries : Carries bytes body)
      (written : WritesBody body reports)
      (disordered : ¬Ascending reports) :
      Reading bytes (.error .unordered)
  | read {body : List UInt8} {reports : List Report}
      (carries : Carries bytes body)
      (written : WritesBody body reports)
      (ordered : Ascending reports) :
      Reading bytes (.ok ⟨reports⟩)

theorem reading_decode (bytes : List UInt8) : Reading bytes (decode bytes) := by
  by_cases short : bytes.length < checksumSize
  · rw [decode_of_short short]
    exact .truncated short
  · by_cases carried : ∃ body, Carries bytes body
    · obtain ⟨body, carries⟩ := carried
      rw [decode_of_carries carries]
      cases found : readBody? body with
      | none =>
          refine .corrupted carries fun reports written => ?_
          rw [readBody?_eq_some_iff.mpr written] at found
          contradiction
      | some reports =>
          have written := readBody?_eq_some_iff.mp found
          simp only
          split
          · rename_i ordered
            exact .read carries written (ascending_iff.mp ordered)
          · rename_i disordered
            exact .unordered carries written fun ordered =>
              disordered (ascending_iff.mpr ordered)
    · have mismatch : ∀ body, ¬Carries bytes body :=
        fun body carries => carried ⟨body, carries⟩
      rw [decode_of_not_carries (Nat.not_lt.mp short) mismatch]
      exact .mismatched (Nat.not_lt.mp short) mismatch

/-- Of the outcomes exactly one is possible, and it is the one that reading
has. -/
theorem decode_eq_iff {bytes : List UInt8} {result : Except DecodeError Digest} :
    decode bytes = result ↔ Reading bytes result := by
  constructor
  · rintro rfl
    exact reading_decode bytes
  · intro reading
    cases reading with
    | truncated short => exact decode_of_short short
    | mismatched room mismatch => exact decode_of_not_carries room mismatch
    | @corrupted body carries unwritten =>
        rw [decode_of_carries carries]
        cases found : readBody? body with
        | none => rfl
        | some reports => exact absurd (readBody?_eq_some_iff.mp found) (unwritten reports)
    | unordered carries written disordered =>
        rw [decode_of_carries carries, readBody?_eq_some_iff.mpr written]
        exact if_neg fun ordered => disordered (ascending_iff.mp ordered)
    | read carries written ordered =>
        rw [decode_of_carries carries, readBody?_eq_some_iff.mpr written]
        exact if_pos (ascending_iff.mpr ordered)

theorem decode_eq_ok_iff {bytes : List UInt8} {digest : Digest} :
    decode bytes = .ok digest ↔
      ∃ body, Carries bytes body ∧ WritesBody body digest.reports ∧
        Ascending digest.reports := by
  rw [decode_eq_iff]
  constructor
  · intro reading
    cases reading with
    | read carries written ordered => exact ⟨_, carries, written, ordered⟩
  · rintro ⟨body, carries, written, ordered⟩
    exact .read carries written ordered

theorem decode_eq_checksumMismatch_iff {bytes : List UInt8} :
    decode bytes = .error .checksumMismatch ↔
      checksumSize ≤ bytes.length ∧ ∀ body, ¬Carries bytes body := by
  rw [decode_eq_iff]
  constructor
  · intro reading
    cases reading with
    | mismatched room mismatch => exact ⟨room, mismatch⟩
  · rintro ⟨room, mismatch⟩
    exact .mismatched room mismatch

theorem ascending_iff_order {reports : List Report} :
    Ascending reports ↔
      reports.Pairwise fun earlier later =>
        earlier.identity.order later.identity = .lt := by
  have precedes : ∀ earlier later : Report,
      earlier.identity.precedes later.identity = true ↔
        earlier.identity.order later.identity = .lt :=
    fun _ _ => Identity.order_eq_lt_iff.symm
  exact List.Pairwise.iff fun {earlier later} => precedes earlier later

/-- A datagram is read as a digest exactly if it carries a body that writes the
reports of the digest and these are strictly ascending. It is truncated exactly
if it has fewer than four bytes; of the others, its checksum is wrong exactly if
it carries no body, its reports are out of order exactly if it carries a body
that writes such reports, and it is corrupted if it carries a body that writes
no reports at all. -/
theorem outcome_of_decode (bytes : List UInt8) :
    (∀ digest, decode bytes = .ok digest ↔
        ∃ body, bytes = body ++ littleEndian 4 (checksum body).toNat ∧
          WritesBody body digest.reports ∧
          digest.reports.Pairwise fun earlier later =>
            earlier.identity.order later.identity = .lt) ∧
      (∀ length, decode bytes = .error (.truncated length) ↔
        bytes.length < 4 ∧ length = bytes.length) ∧
      (decode bytes = .error .checksumMismatch ↔
        4 ≤ bytes.length ∧
          ∀ body, bytes ≠ body ++ littleEndian 4 (checksum body).toNat) ∧
      (decode bytes = .error .unordered ↔
        ∃ body reports, bytes = body ++ littleEndian 4 (checksum body).toNat ∧
          WritesBody body reports ∧
          ¬reports.Pairwise fun earlier later =>
            earlier.identity.order later.identity = .lt) ∧
      (decode bytes = .error .corrupted ↔
        ∃ body, bytes = body ++ littleEndian 4 (checksum body).toNat ∧
          ∀ reports, ¬WritesBody body reports) := by
  refine ⟨fun digest => ?_, fun length => ?_, decode_eq_checksumMismatch_iff, ?_, ?_⟩
  · rw [← ascending_iff_order]
    exact decode_eq_ok_iff
  · rw [decode_eq_iff]
    constructor
    · intro reading
      cases reading with
      | truncated short => exact ⟨short, rfl⟩
    · rintro ⟨short, rfl⟩
      exact .truncated short
  · rw [decode_eq_iff]
    constructor
    · intro reading
      cases reading with
      | unordered carries written disordered =>
          exact ⟨_, _, carries, written, fun pairwise =>
            disordered (ascending_iff_order.mpr pairwise)⟩
    · rintro ⟨body, reports, carries, written, disordered⟩
      exact .unordered carries written fun ordered =>
        disordered (ascending_iff_order.mp ordered)
  · rw [decode_eq_iff]
    constructor
    · intro reading
      cases reading with
      | corrupted carries unwritten => exact ⟨_, carries, unwritten⟩
    · rintro ⟨body, carries, unwritten⟩
      exact .corrupted carries unwritten

end Digest
end GossipGroup
