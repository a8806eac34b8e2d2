import GossipGroup.Proofs.Checksum.Bursts
import GossipGroup.Proofs.Digest.Datagram

/-!
# Damage to a datagram

A datagram that arrives damaged within four neighbouring bytes is refused for
its checksum, wherever these bytes are. No case needs to be made of a burst in
the records, in the checksum or across their border: a datagram carries a body
exactly if its bytes, the checksum among them, leave the residue in the register,
and a burst changes what is left there.
-/

namespace GossipGroup
namespace Digest

theorem carries_iff_run_eq_residue
    {bytes : List UInt8}
    (room : checksumSize ≤ bytes.length) :
    (∃ body, Carries bytes body) ↔ Checksum.run 0xffffffff#32 bytes = Checksum.residue := by
  constructor
  · rintro ⟨body, rfl⟩
    exact (Checksum.run_eq_residue_iff (length_littleEndian _ _)).mpr rfl
  · intro settled
    have whole := List.take_append_drop (bytes.length - checksumSize) bytes
    have trailer : (bytes.drop (bytes.length - checksumSize)).length = 4 := by
      rw [List.length_drop]
      exact Nat.sub_sub_self room
    rw [← whole, Checksum.run_eq_residue_iff trailer] at settled
    exact ⟨_, whole.symm.trans (congrArg _ settled)⟩

/-- Bytes that differ at most in a window are the same in front of it and behind
it. -/
theorem exists_around_window
    {sent received : List UInt8}
    {start width : Nat}
    (sameLength : received.length = sent.length)
    (elsewhere : ∀ position < received.length, position < start ∨ start + width ≤ position →
      received[position]? = sent[position]?) :
    ∃ front back, received = front ++ part received start width ++ back ∧
      sent = front ++ part sent start width ++ back := by
  have same : ∀ position, position < start ∨ start + width ≤ position →
      received[position]? = sent[position]? := by
    intro position outside
    by_cases inside : position < received.length
    · exact elsewhere position inside outside
    · rw [List.getElem?_eq_none (by omega), List.getElem?_eq_none (by omega)]
  have front : received.take start = sent.take start := by
    apply List.ext_getElem?
    intro position
    by_cases before : position < start
    · rw [List.getElem?_take_of_lt before, List.getElem?_take_of_lt before]
      exact same position (.inl before)
    · rw [List.getElem?_take_eq_none (by omega), List.getElem?_take_eq_none (by omega)]
  have back : received.drop (start + width) = sent.drop (start + width) := by
    apply List.ext_getElem?
    intro position
    rw [List.getElem?_drop, List.getElem?_drop]
    exact same _ (.inr (Nat.le_add_right _ _))
  refine ⟨sent.take start, sent.drop (start + width), ?_, eq_around_part sent start width⟩
  rw [← front, ← back]
  exact eq_around_part received start width

/-- A datagram of the right length that differs from the one sent, and differs
from it only within four neighbouring bytes, is refused for its checksum. -/
theorem decode_of_burst
    {digest : Digest}
    {sent received : List UInt8}
    {start : Nat}
    (encoded : digest.encode = .ok sent)
    (sameLength : received.length = sent.length)
    (damaged : received ≠ sent)
    (elsewhere : ∀ position < received.length, position < start ∨ start + 4 ≤ position →
      received[position]? = sent[position]?) :
    decode received = .error .checksumMismatch := by
  have carries := carries_of_encode encoded
  obtain ⟨front, back, arrived, split⟩ := exists_around_window sameLength elsewhere
  have different : part received start 4 ≠ part sent start 4 := by
    intro equal
    exact damaged (by rw [arrived, equal, ← split])
  have lengths : (part received start 4).length = (part sent start 4).length := by
    rw [part, part, List.length_take, List.length_take, List.length_drop, List.length_drop,
      sameLength]
  have roomSent : checksumSize ≤ sent.length := by
    rw [carries.length_eq]
    exact Nat.le_add_left _ _
  have room : checksumSize ≤ received.length := sameLength ▸ roomSent
  rw [decode_eq_checksumMismatch_iff]
  refine ⟨room, fun body carried => ?_⟩
  have settled := (carries_iff_run_eq_residue roomSent).mp ⟨_, carries⟩
  have disturbed := (carries_iff_run_eq_residue room).mp ⟨body, carried⟩
  rw [split] at settled
  rw [arrived] at disturbed
  exact Checksum.run_ne_of_burst _ lengths (List.length_take_le _ _) different
    (disturbed.trans settled.symm)

/-- Of a datagram of 68 bytes, the last two bytes of the root and the first two of
the checksum arrive damaged. -/
theorem decode_of_burst_across_border :
    ∃ (digest : Digest) (sent received : List UInt8),
      digest.reports = [⟨⟨.v4 ⟨127, 0, 0, 1⟩ 8000, 5⟩, 3, .alive⟩] ∧
      digest.encode = .ok sent ∧
      received = sent.take 62 ++ [255, 0, 255, 255] ++ sent.drop 66 ∧
      received ≠ sent ∧
      decode received = .error .checksumMismatch := by
  let digest : Digest := ⟨[⟨⟨.v4 ⟨127, 0, 0, 1⟩ 8000, 5⟩, 3, .alive⟩]⟩
  let sent := digest.bytes
  let received := sent.take 62 ++ [255, 0, 255, 255] ++ sent.drop 66
  have encoded : digest.encode = .ok sent := rfl
  have sameLength : received.length = sent.length := by decide +kernel
  have damaged : received ≠ sent := by decide +kernel
  have elsewhere : ∀ position < received.length, position < 62 ∨ 62 + 4 ≤ position →
      received[position]? = sent[position]? := by
    decide +kernel
  exact ⟨digest, sent, received, rfl, encoded, rfl, damaged,
    decode_of_burst encoded sameLength damaged elsewhere⟩

end Digest
end GossipGroup
