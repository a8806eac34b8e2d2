import GossipGroup.Identity

/-!
# The order of identities is lawful

Identities are compared by their keys, and the shortcut for equal addresses and
join times never disagrees with that. The order is therefore total and
transitive, naming the same member is an equivalence that it respects, and
coming before is a strict order.
-/

namespace GossipGroup
namespace Identity

/-- The shortcut of the order agrees with the comparison of keys. -/
theorem order_eq_compare_key (left right : Identity) :
    left.order right = compare left.key right.key := by
  unfold order
  split
  · rename_i equal
    have identical : left = right := by
      cases left
      cases right
      simp_all
    rw [identical, Std.compare_self]
  · rfl

instance : Std.TransCmp order where
  eq_swap := by
    intro left right
    rw [order_eq_compare_key, order_eq_compare_key right left]
    exact Std.OrientedCmp.eq_swap
  isLE_trans := by
    intro first second third
    simp only [order_eq_compare_key]
    exact Std.TransCmp.isLE_trans

/-- Identities name the same member exactly when they have the same key. -/
theorem same_iff_key_eq {left right : Identity} :
    left.same right = true ↔ left.key = right.key := by
  rw [same, beq_iff_eq, order_eq_compare_key]
  exact Std.LawfulEqCmp.compare_eq_iff_eq

theorem order_eq_eq_iff {left right : Identity} :
    left.order right = .eq ↔ left.same right = true := by
  rw [same, beq_iff_eq]

theorem order_eq_lt_iff {left right : Identity} :
    left.order right = .lt ↔ left.precedes right = true := by
  rw [precedes, beq_iff_eq]

theorem order_eq_gt_iff {left right : Identity} :
    left.order right = .gt ↔ right.precedes left = true := by
  rw [Std.OrientedCmp.gt_iff_lt, order_eq_lt_iff]

/-! ## Naming the same member -/

@[simp] theorem same_refl (identity : Identity) : identity.same identity = true :=
  same_iff_key_eq.mpr rfl

theorem same_symm
    {left right : Identity}
    (same : left.same right = true) :
    right.same left = true :=
  same_iff_key_eq.mpr (same_iff_key_eq.mp same).symm

theorem same_comm (left right : Identity) : left.same right = right.same left := by
  rw [Bool.eq_iff_iff]
  exact ⟨same_symm, same_symm⟩

theorem same_trans
    {first second third : Identity}
    (left : first.same second = true)
    (right : second.same third = true) :
    first.same third = true :=
  same_iff_key_eq.mpr ((same_iff_key_eq.mp left).trans (same_iff_key_eq.mp right))

/-- Nothing that is compared with an identity tells it from another of the same
member. -/
theorem same_congr_right
    {left right : Identity}
    (same : left.same right = true)
    (identity : Identity) :
    identity.same left = identity.same right := by
  rw [Bool.eq_iff_iff]
  exact ⟨fun holds => same_trans holds same,
    fun holds => same_trans holds (same_symm same)⟩

theorem same_congr_left
    {left right : Identity}
    (same : left.same right = true)
    (identity : Identity) :
    left.same identity = right.same identity := by
  rw [same_comm left, same_comm right]
  exact same_congr_right same identity

/-! ## Coming before -/

theorem precedes_trans
    {first second third : Identity}
    (left : first.precedes second = true)
    (right : second.precedes third = true) :
    first.precedes third = true := by
  rw [← order_eq_lt_iff] at *
  exact Std.TransCmp.lt_trans left right

theorem precedes_of_precedes_of_same
    {first second third : Identity}
    (left : first.precedes second = true)
    (right : second.same third = true) :
    first.precedes third = true := by
  rw [← order_eq_lt_iff] at *
  exact Std.TransCmp.lt_of_lt_of_eq left (order_eq_eq_iff.mpr right)

theorem precedes_of_same_of_precedes
    {first second third : Identity}
    (left : first.same second = true)
    (right : second.precedes third = true) :
    first.precedes third = true := by
  rw [← order_eq_lt_iff] at *
  exact Std.TransCmp.lt_of_eq_of_lt (order_eq_eq_iff.mpr left) right

/-- An identity that comes before another names a different member. -/
theorem same_eq_false_of_precedes
    {left right : Identity}
    (before : left.precedes right = true) :
    left.same right = false := by
  rw [← Bool.not_eq_true, ← order_eq_eq_iff, order_eq_lt_iff.mpr before]
  decide

end Identity
end GossipGroup
