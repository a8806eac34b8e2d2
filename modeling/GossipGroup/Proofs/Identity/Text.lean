import GossipGroup.Proofs.Address.Recognition
import GossipGroup.Proofs.Identity.Order

/-!
# Members are told apart by their written forms

The key of an identity is its whole written form, so two identities name the
same member exactly when they are written alike. As no address contains an
angle bracket, such identities have equally written addresses and the same join
time, and seniority treats them alike.
-/

namespace GossipGroup
namespace Identity

/-- A written identity fits into the room of a key. -/
theorem length_text_le_keyCapacity (identity : Identity) :
    identity.text.length ≤ keyCapacity := by
  have addressLength := identity.address.length_text_le
  have timeLength := length_decimal_le 20 (by decide)
    (Nat.lt_of_lt_of_le identity.joinedAt.toNat_lt (by decide))
  simp only [text, keyCapacity, List.length_append, List.length_cons, List.length_nil]
  omega

/-- The characters in which identities are written. -/
def alphabet : List Char := '<' :: '>' :: addressAlphabet

theorem text_subset_alphabet (identity : Identity) : identity.text ⊆ alphabet := by
  have opening : '<' ∈ alphabet := by decide
  have closing : '>' ∈ alphabet := by decide
  have extended : addressAlphabet ⊆ alphabet := by decide
  simp only [text, List.append_subset, List.cons_subset]
  exact ⟨⟨List.Subset.trans identity.address.text_subset_addressAlphabet extended, opening,
    List.Subset.trans (decimal_subset_addressAlphabet _) extended⟩, closing, List.nil_subset _⟩

/-- The key of an identity holds all bytes of its written form. -/
theorem key_eq (identity : Identity) :
    identity.key = identity.text.map fun character => character.toNat.toUInt8 := by
  rw [key, List.take_of_length_le]
  rw [List.length_map]
  exact identity.length_text_le_keyCapacity

theorem toNat_lt_of_mem_alphabet
    {character : Char}
    (written : character ∈ alphabet) :
    character.toNat < 128 := by
  have ascii : alphabet.all (fun character => decide (character.toNat < 128)) = true := by
    decide
  exact of_decide_eq_true (List.all_eq_true.mp ascii character written)

/-- Characters that identities are written in are known by their bytes. -/
theorem eq_of_toUInt8_eq
    {left right : Char}
    (leftWritten : left ∈ alphabet)
    (rightWritten : right ∈ alphabet)
    (same : left.toNat.toUInt8 = right.toNat.toUInt8) :
    left = right := by
  have leftSmall := toNat_lt_of_mem_alphabet leftWritten
  have rightSmall := toNat_lt_of_mem_alphabet rightWritten
  have numbers := congrArg UInt8.toNat same
  simp only [Nat.toUInt8_eq, UInt8.toNat_ofNat'] at numbers
  apply Char.toNat_inj.mp
  omega

theorem map_toUInt8_inj
    {left right : List Char}
    (leftWritten : left ⊆ alphabet)
    (rightWritten : right ⊆ alphabet)
    (same : left.map (fun character => character.toNat.toUInt8) =
      right.map fun character => character.toNat.toUInt8) :
    left = right := by
  induction left generalizing right with
  | nil => exact (List.map_eq_nil_iff.mp same.symm).symm
  | cons first rest inductionHypothesis =>
      cases right with
      | nil => contradiction
      | cons other others =>
          rw [List.map_cons, List.map_cons, List.cons.injEq] at same
          rw [List.cons_subset] at leftWritten rightWritten
          rw [eq_of_toUInt8_eq leftWritten.1 rightWritten.1 same.1,
            inductionHypothesis leftWritten.2 rightWritten.2 same.2]

/-- Two identities name the same member exactly when they are written alike. -/
theorem same_iff_text_eq {left right : Identity} :
    left.same right = true ↔ left.text = right.text := by
  rw [same_iff_key_eq, key_eq, key_eq]
  constructor
  · exact map_toUInt8_inj left.text_subset_alphabet right.text_subset_alphabet
  · intro alike
    rw [alike]

/-- Identities name the same member exactly when their addresses are written
alike and their join times are equal. -/
theorem same_iff {left right : Identity} :
    left.same right = true ↔
      left.address.text = right.address.text ∧ left.joinedAt = right.joinedAt := by
  have outside : '<' ∉ addressAlphabet := by decide
  have free : ∀ identity : Identity, '<' ∉ identity.address.text :=
    fun identity present => outside (identity.address.text_subset_addressAlphabet present)
  rw [same_iff_text_eq]
  constructor
  · intro alike
    simp only [text, List.append_assoc, List.cons_append] at alike
    obtain ⟨addresses, times⟩ := append_cons_inj (free left) (free right) alike
    have numbers := decimal_inj.mp (List.append_cancel_right times)
    exact ⟨addresses, UInt64.toNat_inj.mp numbers⟩
  · rintro ⟨addresses, times⟩
    rw [text, text, addresses, times]

/-! ## Seniority -/

instance : Std.TransCmp seniority :=
  inferInstanceAs (Std.TransCmp (compareLex (compareOn Identity.joinedAt) order))

/-- No two members are equally senior. -/
theorem seniority_eq_eq_iff {left right : Identity} :
    left.seniority right = .eq ↔ left.same right = true := by
  rw [seniority, Ordering.then_eq_eq, Std.LawfulEqCmp.compare_eq_iff_eq, order_eq_eq_iff]
  exact ⟨fun both => both.2, fun same => ⟨(same_iff.mp same).2, same⟩⟩

end Identity
end GossipGroup
