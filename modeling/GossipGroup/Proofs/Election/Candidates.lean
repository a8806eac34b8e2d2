import GossipGroup.Proofs.Identity.Text
import GossipGroup.Proofs.Roster.Living

/-!
# Whom a roster puts first

An election chooses among the live members of a roster, and chooses the most
senior. Which member that is depends only on who is alive, not on the values by
which rosters name the living.
-/

namespace GossipGroup
namespace Identity

/-- Among identities, one that none of the others is senior to. -/
structure IsEldest (eldest : Identity) (identities : List Identity) : Prop where
  present : eldest ∈ identities
  isLE : ∀ other ∈ identities, (eldest.seniority other).isLE = true

/-- Identities of one member are equally senior. -/
theorem isLE_seniority_of_same
    {left right : Identity}
    (same : left.same right = true) :
    (left.seniority right).isLE = true := by
  rw [seniority_eq_eq_iff.mpr same]
  rfl

/-- An identity is at least as senior as those of whoever is named among others
it is at least as senior to. -/
theorem isLE_of_same_mem
    {eldest identity : Identity}
    {identities : List Identity}
    (isLE : ∀ other ∈ identities, (eldest.seniority other).isLE = true)
    (named : ∃ other ∈ identities, other.same identity = true) :
    (eldest.seniority identity).isLE = true := by
  obtain ⟨other, present, same⟩ := named
  exact Std.TransCmp.isLE_trans (isLE other present) (isLE_seniority_of_same same)

theorem same_of_isLE_of_isLE
    {left right : Identity}
    (leftFirst : (left.seniority right).isLE = true)
    (rightFirst : (right.seniority left).isLE = true) :
    left.same right = true :=
  seniority_eq_eq_iff.mp (Std.OrientedCmp.isLE_antisymm leftFirst rightFirst)

end Identity

namespace Roster

open Identity

/-! ## The choice of an election -/

theorem moreSenior_eq_or_eq (left right : Identity) :
    moreSenior left right = left ∨ moreSenior left right = right := by
  unfold moreSenior
  split
  · exact .inr rfl
  · exact .inl rfl

theorem isLE_moreSenior_left (left right : Identity) :
    ((moreSenior left right).seniority left).isLE = true := by
  unfold moreSenior
  split
  · rename_i senior
    rw [beq_iff_eq.mp senior]
    rfl
  · exact isLE_seniority_of_same (same_refl left)

theorem isLE_moreSenior_right (left right : Identity) :
    ((moreSenior left right).seniority right).isLE = true := by
  unfold moreSenior
  split
  · exact isLE_seniority_of_same (same_refl right)
  · rename_i notSenior
    rw [beq_iff_eq, ← Std.OrientedCmp.gt_iff_lt] at notSenior
    exact Ordering.isLE_iff_ne_gt.mpr notSenior

/-- Comparing all of some identities with the most senior so far ends with the
eldest. -/
theorem isEldest_foldl_moreSenior (first : Identity) (rest : List Identity) :
    (rest.foldl moreSenior first).IsEldest (first :: rest) := by
  induction rest generalizing first with
  | nil =>
      refine ⟨List.mem_cons_self, fun other present => ?_⟩
      rw [List.mem_singleton.mp present]
      exact isLE_seniority_of_same (same_refl first)
  | cons second rest inductionHypothesis =>
      obtain ⟨present, isLE⟩ := inductionHypothesis (moreSenior first second)
      have isLEBest := isLE _ List.mem_cons_self
      rw [List.foldl_cons]
      refine ⟨?_, ?_⟩
      · rcases List.mem_cons.mp present with best | inRest
        · rw [best]
          rcases moreSenior_eq_or_eq first second with isFirst | isSecond
          · rw [isFirst]
            exact List.mem_cons_self
          · rw [isSecond]
            exact List.mem_cons_of_mem first List.mem_cons_self
        · exact List.mem_cons_of_mem first (List.mem_cons_of_mem second inRest)
      · intro other otherPresent
        rcases List.mem_cons.mp otherPresent with isFirst | inOthers
        · rw [isFirst]
          exact Std.TransCmp.isLE_trans isLEBest (isLE_moreSenior_left first second)
        · rcases List.mem_cons.mp inOthers with isSecond | inRest
          · rw [isSecond]
            exact Std.TransCmp.isLE_trans isLEBest (isLE_moreSenior_right first second)
          · exact isLE other (List.mem_cons_of_mem _ inRest)

/-- Those among whom an election chooses: the live members, or the node itself
if nobody is alive. -/
def candidates (roster : Roster) : List Identity :=
  if roster.alive = [] then [roster.self] else roster.alive

/-- An election chooses the eldest of the candidates. -/
theorem isEldest_oldestAlive (roster : Roster) :
    roster.oldestAlive.IsEldest roster.candidates := by
  unfold oldestAlive candidates
  cases roster.alive with
  | nil => exact isEldest_foldl_moreSenior roster.self []
  | cons first rest => exact isEldest_foldl_moreSenior first rest

/-- Where anybody is alive, the candidates are those alive. -/
theorem candidates_eq_alive
    {roster : Roster}
    (ascending : Ascending roster.members)
    {identity : Identity}
    (living : roster.IsAlive identity) :
    roster.candidates = roster.alive := by
  obtain ⟨other, present, -⟩ := (isAlive_iff ascending).mp living
  exact if_neg (List.ne_nil_of_mem present)

end Roster
end GossipGroup
