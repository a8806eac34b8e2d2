import GossipGroup.Proofs.Digest.Fields

/-!
# What a burst does to the register

A step of one bit is linear in exclusive or and loses nothing: the bit that
leaves the register comes back as its new high bit. So the register after some
bytes determines the register before them, and up to four bytes act on it as the
one word that they write does, all before the first bit of it has left. Two
sequences that differ only in a burst of up to four bytes therefore leave
different registers behind.

Bytes followed by their own checksum always leave the same register behind, the
residue, and no other four bytes in place of the checksum do. The checksum may
thus be taken for bytes like all others, and a burst may reach into it.
-/

namespace GossipGroup
namespace Checksum

/-! ## Steps of bits -/

theorem shiftBit_xor (left right : BitVec 32) :
    shiftBit (left ^^^ right) = shiftBit left ^^^ shiftBit right := by
  have cancel : polynomial ^^^ polynomial = 0#32 := BitVec.xor_self
  unfold shiftBit
  rw [BitVec.getLsbD_xor, BitVec.ushiftRight_xor_distrib]
  cases left.getLsbD 0 with
  | false =>
      cases right.getLsbD 0 with
      | false => rfl
      | true => exact BitVec.xor_assoc _ _ _
  | true =>
      cases right.getLsbD 0 with
      | false =>
          simp only [Bool.xor_false, if_true, Bool.false_eq_true, if_false]
          ac_rfl
      | true =>
          -- Both steps add the polynomial, and twice is not at all.
          simp only [Bool.xor_self, if_true, Bool.false_eq_true, if_false]
          rw [BitVec.xor_assoc, BitVec.xor_comm polynomial, BitVec.xor_assoc, cancel,
            BitVec.xor_zero]

/-- The bit that leaves the register is its new high bit. -/
theorem msb_shiftBit (register : BitVec 32) :
    (shiftBit register).msb = register.getLsbD 0 := by
  have set : polynomial.msb = true := by decide
  unfold shiftBit
  split <;> simp_all

theorem shiftBit_eq_zero
    {register : BitVec 32}
    (zero : shiftBit register = 0#32) :
    register = 0#32 := by
  have clear : register.getLsbD 0 = false := by
    rw [← msb_shiftBit, zero]
    rfl
  rw [shiftBit, clear, if_neg Bool.false_ne_true] at zero
  apply BitVec.eq_of_getLsbD_eq
  intro position _
  cases position with
  | zero => simpa using clear
  | succ position =>
      have bit := congrArg (fun vector => vector.getLsbD position) zero
      simpa [Nat.add_comm] using bit

theorem shiftBits_xor (count : Nat) (left right : BitVec 32) :
    shiftBits count (left ^^^ right) = shiftBits count left ^^^ shiftBits count right := by
  induction count generalizing left right with
  | zero => rfl
  | succ count inductionHypothesis =>
      simp only [shiftBits, shiftBit_xor, inductionHypothesis]

theorem shiftBits_eq_zero
    {count : Nat}
    {register : BitVec 32}
    (zero : shiftBits count register = 0#32) :
    register = 0#32 := by
  induction count generalizing register with
  | zero => exact zero
  | succ count inductionHypothesis => exact shiftBit_eq_zero (inductionHypothesis zero)

theorem shiftBits_injective (count : Nat) : Function.Injective (shiftBits count) := by
  intro left right same
  have difference : shiftBits count (left ^^^ right) = 0#32 := by
    rw [shiftBits_xor, same, BitVec.xor_self]
  exact BitVec.xor_eq_zero_iff.mp (shiftBits_eq_zero difference)

theorem shiftBits_add (first second : Nat) (register : BitVec 32) :
    shiftBits (first + second) register = shiftBits second (shiftBits first register) := by
  induction first generalizing register with
  | zero => rw [Nat.zero_add, shiftBits]
  | succ first inductionHypothesis =>
      rw [Nat.add_right_comm]
      exact inductionHypothesis (shiftBit register)

/-- Bits that are clear leave the register without a trace. -/
theorem shiftBits_eq_ushiftRight
    {count : Nat}
    {register : BitVec 32}
    (clear : ∀ position < count, register.getLsbD position = false) :
    shiftBits count register = register >>> count := by
  induction count generalizing register with
  | zero => rw [BitVec.ushiftRight_zero, shiftBits]
  | succ count inductionHypothesis =>
      have shifted : shiftBit register = register >>> 1 := by
        rw [shiftBit, clear 0 (Nat.zero_lt_succ count), if_neg Bool.false_ne_true]
      rw [shiftBits, shifted, inductionHypothesis, ← BitVec.shiftRight_add, Nat.add_comm]
      intro position below
      rw [BitVec.getLsbD_ushiftRight]
      exact clear (1 + position) (by omega)

/-! ## Words of up to four bytes -/

/-- The word that up to four bytes write, the first one lowest. -/
def word (bytes : List UInt8) : BitVec 32 := BitVec.ofNat 32 (ofLittleEndian bytes)

theorem ofLittleEndian_lt_of_short
    {bytes : List UInt8}
    {width : Nat}
    (short : bytes.length ≤ width) :
    ofLittleEndian bytes < 256 ^ width :=
  Nat.lt_of_lt_of_le (ofLittleEndian_lt bytes) (Nat.pow_le_pow_right (by decide) short)

theorem word_cons (byte : UInt8) (rest : List UInt8) :
    word (byte :: rest) = byte.toBitVec.setWidth 32 ^^^ (word rest <<< 8) := by
  apply BitVec.eq_of_getLsbD_eq
  intro position inside
  have split := Nat.testBit_two_pow_mul_add (ofLittleEndian rest) byte.toNat_lt position
  rw [word, ofLittleEndian, BitVec.getLsbD_ofNat, Nat.add_comm byte.toNat, split,
    BitVec.getLsbD_xor, BitVec.getLsbD_setWidth, BitVec.getLsbD_shiftLeft, word,
    BitVec.getLsbD_ofNat]
  by_cases below : position < 8
  · simp [below, inside, BitVec.getLsbD]
  · simp [below, inside, BitVec.getLsbD_of_ge byte.toBitVec position (by omega)]
    omega

/-- A word of less than four bytes moves down a byte unchanged. -/
theorem shiftBits_word_shiftLeft
    {bytes : List UInt8}
    (short : bytes.length ≤ 3) :
    shiftBits 8 (word bytes <<< 8) = word bytes := by
  have bounded := ofLittleEndian_lt_of_short short
  rw [shiftBits_eq_ushiftRight]
  · apply BitVec.eq_of_toNat_eq
    simp only [word, BitVec.toNat_ushiftRight, BitVec.toNat_shiftLeft, BitVec.toNat_ofNat,
      Nat.shiftLeft_eq, Nat.shiftRight_eq_div_pow]
    omega
  · intro position below
    simp [below]

theorem word_inj
    {left right : List UInt8}
    (sameLength : left.length = right.length)
    (short : left.length ≤ 4) :
    word left = word right ↔ left = right := by
  have toNat_word : ∀ bytes : List UInt8, bytes.length ≤ 4 →
      (word bytes).toNat = ofLittleEndian bytes := by
    intro bytes few
    rw [word, BitVec.toNat_ofNat]
    exact Nat.mod_eq_of_lt (ofLittleEndian_lt_of_short few)
  constructor
  · intro same
    have numbers := congrArg BitVec.toNat same
    rw [toNat_word left short, toNat_word right (sameLength ▸ short)] at numbers
    rw [← littleEndian_ofLittleEndian left, numbers, sameLength, littleEndian_ofLittleEndian]
  · rintro rfl
    rfl

theorem word_littleEndian (value : UInt32) :
    word (littleEndian 4 value.toNat) = value.toBitVec := by
  rw [word, ofLittleEndian_littleEndian value.toNat_lt]
  exact (BitVec.ofNat_toNat 32 value.toBitVec).trans (BitVec.setWidth_eq _)

/-! ## Steps of bytes -/

theorem run_append (register : BitVec 32) (left right : List UInt8) :
    run register (left ++ right) = run (run register left) right := List.foldl_append

/-- Up to four bytes act on the register as their word does. -/
theorem run_eq_shiftBits
    {bytes : List UInt8}
    (register : BitVec 32)
    (short : bytes.length ≤ 4) :
    run register bytes = shiftBits (8 * bytes.length) (register ^^^ word bytes) := by
  induction bytes generalizing register with
  | nil => exact BitVec.xor_zero.symm
  | cons byte rest inductionHypothesis =>
      rw [List.length_cons] at short
      calc
        run register (byte :: rest)
          = shiftBits (8 * rest.length)
              (shiftBits 8 (register ^^^ byte.toBitVec.setWidth 32) ^^^ word rest) :=
            inductionHypothesis (feed register byte) (by omega)
        _ = shiftBits (8 * rest.length) (shiftBits 8 (register ^^^ word (byte :: rest))) := by
            rw [word_cons, ← BitVec.xor_assoc, shiftBits_xor 8 (_ ^^^ _),
              shiftBits_word_shiftLeft (Nat.le_of_succ_le_succ short)]
        _ = shiftBits (8 * (byte :: rest).length) (register ^^^ word (byte :: rest)) := by
            rw [← shiftBits_add, List.length_cons, Nat.mul_add, Nat.add_comm]

/-- The register is known from what bytes make of it. -/
theorem run_injective (bytes : List UInt8) :
    Function.Injective fun register => run register bytes := by
  induction bytes with
  | nil => exact fun _ _ same => same
  | cons byte rest inductionHypothesis =>
      intro left right same
      have fed := shiftBits_injective 8 (inductionHypothesis same)
      exact (BitVec.xor_left_inj _).mp fed

/-- Up to four bytes are known from what they make of a register. -/
theorem run_inj_of_short
    {left right : List UInt8}
    (register : BitVec 32)
    (sameLength : left.length = right.length)
    (short : left.length ≤ 4) :
    run register left = run register right ↔ left = right := by
  rw [run_eq_shiftBits register short, run_eq_shiftBits register (sameLength ▸ short),
    sameLength, (shiftBits_injective _).eq_iff, BitVec.xor_right_inj,
    word_inj sameLength short]

/-- A burst of up to four bytes changes the register that is left behind. -/
theorem run_ne_of_burst
    {front sent received back : List UInt8}
    (register : BitVec 32)
    (sameLength : received.length = sent.length)
    (short : received.length ≤ 4)
    (damaged : received ≠ sent) :
    run register (front ++ received ++ back) ≠ run register (front ++ sent ++ back) := by
  intro same
  rw [run_append, run_append, run_append, run_append] at same
  exact damaged ((run_inj_of_short _ sameLength short).mp (run_injective back same))

/-! ## Residues -/

/-- The register that bytes followed by their checksum leave behind. -/
def residue : BitVec 32 := shiftBits 32 (BitVec.allOnes 32)

/-- Among the bytes that may follow a body, its checksum is what leaves the
residue behind. -/
theorem run_eq_residue_iff
    {body trailer : List UInt8}
    (length : trailer.length = 4) :
    run 0xffffffff#32 (body ++ trailer) = residue ↔
      trailer = littleEndian 4 (checksum body).toNat := by
  have filled : run 0xffffffff#32 body ^^^ word (littleEndian 4 (checksum body).toNat) =
      BitVec.allOnes 32 := by
    rw [word_littleEndian, checksum, ← BitVec.not_xor_right, BitVec.xor_self, BitVec.not_zero]
  rw [run_append, run_eq_shiftBits _ (Nat.le_of_eq length), length, residue,
    (shiftBits_injective 32).eq_iff, ← filled, BitVec.xor_right_inj,
    word_inj (by rw [length, length_littleEndian]) (Nat.le_of_eq length)]

end Checksum
end GossipGroup
