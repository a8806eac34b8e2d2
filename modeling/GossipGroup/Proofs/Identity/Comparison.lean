import GossipGroup.Proofs.Identity.Text

/-!
# The order of identities is that of their written forms

A written identity is ASCII, so its characters are its bytes, and it fits into
the room of a key. Comparing keys therefore compares the written forms byte by
byte, and as these tell apart whatever is not a flow label, the order finds two
identities equal exactly if they agree in everything else.
-/

namespace GossipGroup
namespace Identity

/-! ## Bytes of the written form -/

/-- The bytes of the written form. -/
def written (identity : Identity) : List UInt8 := (toString identity).toUTF8.data.toList

/-- ASCII characters are their own bytes. -/
theorem flatMap_utf8EncodeChar
    {characters : List Char}
    (ascii : ∀ character ∈ characters, character.toNat < 128) :
    characters.flatMap String.utf8EncodeChar =
      characters.map fun character => character.toNat.toUInt8 := by
  induction characters with
  | nil => rfl
  | cons first rest inductionHypothesis =>
      have single : String.utf8EncodeChar first = [first.toNat.toUInt8] :=
        if_pos (Nat.le_of_lt_succ (ascii first List.mem_cons_self))
      have others := inductionHypothesis fun character present =>
        ascii character (List.mem_cons_of_mem first present)
      rw [List.flatMap_cons, single, others, List.map_cons, List.singleton_append]

/-- A key holds the whole written form. -/
theorem key_eq_written (identity : Identity) : identity.key = identity.written := by
  have ascii : ∀ character ∈ identity.text, character.toNat < 128 := by
    intro character present
    exact toNat_lt_of_mem_alphabet (identity.text_subset_alphabet present)
  have text : toString identity = String.ofList identity.text := rfl
  rw [key_eq, written, text, String.toUTF8_eq_toByteArray, String.toByteArray_ofList,
    List.utf8Encode, List.toList_data_toByteArray, flatMap_utf8EncodeChar ascii]

theorem length_written_le_keyCapacity (identity : Identity) :
    identity.written.length ≤ keyCapacity := by
  rw [← key_eq_written, key_eq, List.length_map]
  exact identity.length_text_le_keyCapacity

/-! ## The order -/

/-- Two identities name the same member exactly if at most a flow label tells
them apart. -/
theorem same_iff_eqExceptFlow {left right : Identity} :
    left.same right = true ↔
      left.address.EqExceptFlow right.address ∧ left.joinedAt = right.joinedAt := by
  rw [same_iff, SocketAddress.text_eq_iff]

/-- The order compares identities by the bytes of their written forms, of which
no key cuts anything off. It is total, naming the same member and coming before
agree with it, and it finds two identities equal, and their keys are equal,
exactly if they have the same address, up to the flow label, and the same join
time. -/
theorem order_eq_compare_written :
    Std.TransCmp order ∧
      ∀ left right : Identity,
        left.order right = compare left.written right.written ∧
          left.order? right = some (left.order right) ∧
          (left.same right = true ↔ left.order right = .eq) ∧
          (left.precedes right = true ↔ left.order right = .lt) ∧
          (left.key = left.written ∧ left.written.length ≤ keyCapacity) ∧
          (left.order right = .eq ↔
            left.address.EqExceptFlow right.address ∧ left.joinedAt = right.joinedAt) ∧
          (left.key = right.key ↔
            left.address.EqExceptFlow right.address ∧ left.joinedAt = right.joinedAt) := by
  refine ⟨inferInstance, fun left right => ⟨?_, rfl, order_eq_eq_iff.symm, order_eq_lt_iff.symm,
    ⟨left.key_eq_written, left.length_written_le_keyCapacity⟩, ?_, ?_⟩⟩
  · rw [order_eq_compare_key, key_eq_written, key_eq_written]
  · rw [order_eq_eq_iff, same_iff_eqExceptFlow]
  · rw [← same_iff_key_eq, same_iff_eqExceptFlow]

end Identity
end GossipGroup
