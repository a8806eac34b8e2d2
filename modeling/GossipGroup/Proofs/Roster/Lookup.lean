import GossipGroup.Proofs.Ascending
import GossipGroup.Roster.Query

/-!
# Looking members up in an ordered roster

The binary search of a roster finds what a search through all entries finds, as
long as the entries are ascending. The digests that a roster makes for others
are ascending with it.
-/

namespace GossipGroup
namespace Roster

/-- Below an entry that comes before a member there is nothing about it. -/
private theorem entryAbout_above
    {identity : Identity}
    {below above : List Member}
    {middle : Member}
    (ascending : Ascending (below ++ middle :: above))
    (before : middle.identity.precedes identity = true) :
    entryAbout identity (below ++ middle :: above) = entryAbout identity above := by
  have belowMiddle := (List.pairwise_append.mp ascending).2.2
  have nothingBelow : entryAbout identity below = none :=
    entryAbout_eq_none_of_follows fun entry present =>
      Identity.precedes_trans (belowMiddle entry present middle List.mem_cons_self) before
  rw [entryAbout_append, nothingBelow, Option.none_or, entryAbout_cons, name_member,
    Identity.same_eq_false_of_precedes before, if_neg Bool.false_ne_true]

/-- From an entry on that comes after a member there is nothing about it. -/
private theorem entryAbout_below
    {identity : Identity}
    {below above : List Member}
    {middle : Member}
    (ascending : Ascending (below ++ middle :: above))
    (after : identity.precedes middle.identity = true) :
    entryAbout identity (below ++ middle :: above) = entryAbout identity below := by
  have upper : Ascending (middle :: above) := (List.pairwise_append.mp ascending).2.1
  have nothingAbove : entryAbout identity (middle :: above) = none := by
    refine entryAbout_eq_none_of_precedes fun entry present => ?_
    rcases List.mem_cons.mp present with equal | inAbove
    · rw [equal]
      exact after
    · exact Identity.precedes_trans after ((ascending_cons.mp upper).1 entry inAbove)
  rw [entryAbout_append, nothingAbove, Option.or_none]

/-- Binary search among ascending members finds the entry about a member. -/
theorem search_eq_entryAbout
    (identity : Identity)
    (fuel : Nat)
    {members : List Member}
    (ascending : Ascending members)
    (enough : members.length ≤ fuel) :
    search identity fuel members = entryAbout identity members := by
  induction fuel generalizing members with
  | zero =>
      rw [List.length_eq_zero_iff.mp (Nat.le_zero.mp enough)]
      rfl
  | succ fuel inductionHypothesis =>
      have split := List.take_append_drop (members.length / 2) members
      have lengthBelow : (members.take (members.length / 2)).length = members.length / 2 :=
        List.length_take_of_le (Nat.div_le_self _ _)
      have lengthAbove := List.length_drop (i := members.length / 2) (l := members)
      rw [search]
      generalize members.take (members.length / 2) = below at split lengthBelow
      generalize members.drop (members.length / 2) = rest at split lengthAbove
      cases rest with
      | nil =>
          have empty : members = [] := by
            rw [List.length_nil] at lengthAbove
            rw [← List.length_eq_zero_iff]
            omega
          rw [empty]
          rfl
      | cons middle above =>
          rw [List.length_cons] at lengthAbove
          rw [← split] at ascending
          simp only
          cases compared : middle.identity.order identity with
          | eq =>
              have same := Identity.order_eq_eq_iff.mp compared
              rw [← split]
              exact (ascending.entryAbout_eq_some_iff.mpr
                ⟨List.mem_append_right below List.mem_cons_self, same⟩).symm
          | lt =>
              have before := Identity.order_eq_lt_iff.mp compared
              rw [← split, entryAbout_above ascending before]
              have upper : Ascending (middle :: above) :=
                (List.pairwise_append.mp ascending).2.1
              exact inductionHypothesis upper.tail (by omega)
          | gt =>
              have after := Identity.order_eq_gt_iff.mp compared
              rw [← split, entryAbout_below ascending after]
              have lower : Ascending below := (List.pairwise_append.mp ascending).1
              exact inductionHypothesis lower (by omega)

theorem find?_eq_entryAbout
    {roster : Roster}
    (ascending : Ascending roster.members)
    (identity : Identity) :
    roster.find? identity = entryAbout identity roster.members :=
  search_eq_entryAbout identity _ ascending (Nat.le_refl _)

/-- Looking a member up gives the one entry about it. -/
theorem find?_eq_some_iff
    {roster : Roster}
    (ascending : Ascending roster.members)
    {identity : Identity}
    {member : Member} :
    roster.find? identity = some member ↔
      member ∈ roster.members ∧ member.identity.same identity = true := by
  rw [find?_eq_entryAbout ascending, ascending.entryAbout_eq_some_iff]
  rfl

/-- The report about an entry, if it is shared. -/
def sharedReport (roster : Roster) (now : Instant) (member : Member) : Option Report :=
  if roster.isShared now member then some member.report else none

theorem reports_shared (roster : Roster) (now : Instant) :
    (roster.shared now).reports = roster.members.filterMap (roster.sharedReport now) := by
  unfold shared sharedReport
  induction roster.members with
  | nil => rfl
  | cons member members inductionHypothesis =>
      rw [List.filterMap_cons, List.filter_cons]
      split <;> simp_all

theorem sharedReport_identity
    {roster : Roster}
    {now : Instant}
    {member : Member}
    {report : Report}
    (shared : roster.sharedReport now member = some report) :
    report.identity.same member.identity = true := by
  unfold sharedReport at shared
  split at shared
  · rw [← Option.some.inj shared]
    exact Identity.same_refl _
  · contradiction

/-- What a roster shares is as ascending as the roster. -/
theorem ascending_shared
    {roster : Roster}
    (ascending : Ascending roster.members)
    (now : Instant) :
    Ascending (roster.shared now).reports := by
  rw [reports_shared]
  exact ascending.filterMap fun _ _ => sharedReport_identity

/-- What a shared digest reports about a member. -/
theorem entryAbout_shared
    {roster : Roster}
    (ascending : Ascending roster.members)
    (now : Instant)
    (identity : Identity) :
    entryAbout identity (roster.shared now).reports =
      (entryAbout identity roster.members).bind (roster.sharedReport now) := by
  rw [reports_shared]
  exact ascending.entryAbout_filterMap (fun _ _ => sharedReport_identity) identity

/-- What a roster shares it holds, and not as failed. -/
theorem mem_shared
    {roster : Roster}
    {now : Instant}
    {report : Report}
    (told : report ∈ (roster.shared now).reports) :
    report.status ≠ .failed ∧ ∃ member ∈ roster.members, member.report = report := by
  obtain ⟨member, kept, rfl⟩ := List.mem_map.mp told
  obtain ⟨present, isShared⟩ := List.mem_filter.mp kept
  refine ⟨fun failed => ?_, member, present, rfl⟩
  have status : member.status = .failed := failed
  rw [Roster.isShared, status] at isShared
  contradiction

/-- A node's own heartbeat is that of the entry about it. -/
theorem ownHeartbeat_eq
    {roster : Roster}
    {own : Member}
    (ascending : Ascending roster.members)
    (held : entryAbout roster.self roster.members = some own) :
    roster.ownHeartbeat = own.heartbeat := by
  rw [ownHeartbeat, find?_eq_entryAbout ascending, held]

/-- A heartbeat is raised by the whole margin unless that exceeds the greatest. -/
theorem toNat_raised
    {heartbeat margin : UInt64}
    (unsaturated : heartbeat.toNat + margin.toNat < UInt64.size) :
    (raised heartbeat margin).toNat = heartbeat.toNat + margin.toNat := by
  have greatest : greatestHeartbeat.toNat = 18446744073709551615 := by decide
  have size : UInt64.size = 18446744073709551616 := rfl
  rw [raised, if_neg (by omega), UInt64.toNat_add, Nat.mod_eq_of_lt unsaturated]

/-- A heartbeat never falls when it is raised. -/
theorem le_raised (heartbeat margin : UInt64) : heartbeat ≤ raised heartbeat margin := by
  have greatest : greatestHeartbeat.toNat = 18446744073709551615 := by decide
  have size : UInt64.size = 18446744073709551616 := rfl
  have bound := heartbeat.toNat_lt
  rw [UInt64.le_iff_toNat_le]
  by_cases unsaturated : heartbeat.toNat + margin.toNat < UInt64.size
  · rw [toNat_raised unsaturated]
    exact Nat.le_add_right _ _
  · rw [raised, if_pos (by omega)]
    omega

theorem ascending_leaveNotice (roster : Roster) (margin : UInt64) :
    Ascending (roster.leaveNotice margin).reports :=
  ascending_singleton _

end Roster
end GossipGroup
