import GossipGroup.Proofs.Election.Voters

/-!
# When two nodes name the same leader

Nodes whose rosters agree on who is alive need not agree on the leader, for an
election is not repeated when a more senior member turns up. They agree exactly
when the eldest of the live members that either of them has polled was polled
by both. So they agree, and on the eldest live member, once both have polled it.
-/

namespace GossipGroup
namespace Voter

variable {listener : Type}

theorem polled_congr
    {left right : Identity}
    (same : left.same right = true)
    (voter : Voter listener) :
    voter.Polled left ↔ voter.Polled right := by
  simp only [Polled, Identity.same_congr_right same]

theorem Leads.polled
    {voter : Voter listener}
    {leader : Identity}
    (leads : voter.Leads leader) :
    voter.Polled leader :=
  ⟨leader, leads.eldest.present, Identity.same_refl leader⟩

/-- Nobody polled is senior to the leader. -/
theorem Leads.isLE
    {voter : Voter listener}
    {leader identity : Identity}
    (leads : voter.Leads leader)
    (polled : voter.Polled identity) :
    (leader.seniority identity).isLE = true :=
  Identity.isLE_of_same_mem leads.eldest.isLE polled

/-- A leader that is not alive is the node itself. -/
theorem Leads.same_self
    {voter : Voter listener}
    {leader : Identity}
    (leads : voter.Leads leader)
    (dead : ¬voter.roster.IsAlive leader) :
    leader = voter.roster.self := by
  rcases leads.alive_or_alone with living | ⟨itself, -⟩
  · exact absurd living dead
  · exact itself

/-- The leader is the eldest of the live members that were polled. -/
theorem Leads.same_of_isLE
    {voter : Voter listener}
    {leader identity : Identity}
    (leads : voter.Leads leader)
    (polled : voter.Polled identity)
    (isLE : ∀ other, voter.roster.IsAlive other → voter.Polled other →
      (identity.seniority other).isLE = true) :
    leader.same identity = true := by
  rcases leads.alive_or_alone with living | ⟨itself, alone⟩
  · exact Identity.same_of_isLE_of_isLE (leads.isLE polled)
      (isLE leader living leads.polled)
  · obtain ⟨candidate, present, same⟩ := polled
    rw [alone, List.mem_singleton] at present
    rw [itself, ← present]
    exact same

/-- The leader is the eldest live member exactly if that one was polled. -/
theorem Leads.same_oldestAlive_iff
    {voter : Voter listener}
    {leader eldest : Identity}
    (leads : voter.Leads leader)
    (isLE : ∀ other, voter.roster.IsAlive other → (eldest.seniority other).isLE = true) :
    leader.same eldest = true ↔ voter.Polled eldest := by
  constructor
  · exact fun same => (polled_congr same voter).mp leads.polled
  · exact fun polled => leads.same_of_isLE polled fun other living _ => isLE other living

/-- Nobody alive is senior to the eldest live member. -/
theorem isLE_oldestAlive
    {roster : Roster}
    (ascending : Ascending roster.members)
    {identity : Identity}
    (living : roster.IsAlive identity) :
    (roster.oldestAlive.seniority identity).isLE = true := by
  have eldest := roster.isEldest_oldestAlive
  rw [Roster.candidates_eq_alive ascending living] at eldest
  exact Identity.isLE_of_same_mem eldest.isLE ((Roster.isAlive_iff ascending).mp living)

/-- Two nodes with the same live members name the same leader exactly when the
eldest of the live members that either has polled was polled by both. They name
the eldest live member exactly when both have polled it, and then not both of
them lead. -/
theorem leaders_agree_iff
    {first second : Voter listener}
    {firstLeader secondLeader : Identity}
    (firstReachable : first.Reachable)
    (secondReachable : second.Reachable)
    (different : first.roster.self.same second.roster.self = false)
    (firstNamed : first.election.leader = some firstLeader)
    (secondNamed : second.election.leader = some secondLeader)
    (sameAlive : ∀ identity,
      first.roster.IsAlive identity ↔ second.roster.IsAlive identity) :
    (firstLeader.same secondLeader = true ↔
        ∃ identity, first.roster.IsAlive identity ∧
          first.Polled identity ∧ second.Polled identity ∧
            ∀ other, first.roster.IsAlive other → first.Polled other ∨ second.Polled other →
              (identity.seniority other).isLE = true) ∧
      (firstLeader.same first.roster.oldestAlive = true ∧
          secondLeader.same first.roster.oldestAlive = true ↔
        first.Polled first.roster.oldestAlive ∧ second.Polled first.roster.oldestAlive) ∧
      (first.Polled first.roster.oldestAlive → second.Polled first.roster.oldestAlive →
        ¬(first.election.isLeader = true ∧ second.election.isLeader = true)) := by
  have firstSound := firstReachable.sound
  have secondSound := secondReachable.sound
  have firstLeads := firstSound.leads firstLeader firstNamed
  have secondLeads := secondSound.leads secondLeader secondNamed
  have eldest : ∀ other, first.roster.IsAlive other →
      (first.roster.oldestAlive.seniority other).isLE = true :=
    fun other living => isLE_oldestAlive firstSound.wellFormed.ascending living
  have firstNames := firstLeads.same_oldestAlive_iff eldest
  have secondNames := secondLeads.same_oldestAlive_iff
    fun other living => eldest other ((sameAlive other).mpr living)
  refine ⟨⟨fun same => ?_, ?_⟩, and_congr firstNames secondNames, ?_⟩
  · refine ⟨firstLeader, ?_, firstLeads.polled,
      (polled_congr same second).mpr secondLeads.polled, ?_⟩
    · -- Otherwise both nodes would have chosen themselves for want of anybody.
      refine Classical.byContradiction fun dead => ?_
      have secondDead : ¬second.roster.IsAlive secondLeader := by
        rw [← sameAlive, ← Roster.isAlive_congr same]
        exact dead
      rw [firstLeads.same_self dead, secondLeads.same_self secondDead, different] at same
      contradiction
    · rintro other - (byFirst | bySecond)
      · exact firstLeads.isLE byFirst
      · exact Std.TransCmp.isLE_trans (Identity.isLE_seniority_of_same same)
          (secondLeads.isLE bySecond)
  · rintro ⟨identity, -, byFirst, bySecond, isLE⟩
    have sameFirst := firstLeads.same_of_isLE byFirst
      fun other living polled => isLE other living (.inl polled)
    have sameSecond := secondLeads.same_of_isLE bySecond
      fun other living polled => isLE other ((sameAlive other).mpr living) (.inr polled)
    exact Identity.same_trans sameFirst (Identity.same_symm sameSecond)
  · rintro byFirst bySecond ⟨firstIsLeader, secondIsLeader⟩
    have agree := Identity.same_trans (firstNames.mpr byFirst)
      (Identity.same_symm (secondNames.mpr bySecond))
    simp only [Election.isLeader, firstNamed, firstSound.sameSelf] at firstIsLeader
    simp only [Election.isLeader, secondNamed, secondSound.sameSelf] at secondIsLeader
    have selves := Identity.same_trans (Identity.same_symm firstIsLeader)
      (Identity.same_trans agree secondIsLeader)
    rw [different] at selves
    contradiction

/-- Two nodes that elect after they have heard of each other agree. -/
theorem leaders_agree_of_late_elections :
    ∃ first second : Voter Unit, first.Reachable ∧ second.Reachable ∧
      first.roster.alive = [senior, junior] ∧ second.roster.alive = [senior, junior] ∧
        ∃ firstLeader secondLeader, first.election.leader = some firstLeader ∧
          second.election.leader = some secondLeader ∧
            firstLeader.same secondLeader = true := by
  let first : Voter Unit :=
    ⟨⟨senior, [⟨senior, 0, ⟨0⟩, .alive⟩, ⟨junior, 1, ⟨10⟩, .alive⟩], .ofSeconds 2, .ofSeconds 5⟩,
      ⟨senior, some senior, .empty, none⟩, [senior, junior]⟩
  let second : Voter Unit :=
    ⟨⟨junior, [⟨senior, 1, ⟨10⟩, .alive⟩, ⟨junior, 0, ⟨0⟩, .alive⟩], .ofSeconds 2, .ofSeconds 5⟩,
      ⟨junior, some senior, .empty, none⟩, [senior, junior]⟩
  have firstReachable : first.Reachable :=
    ⟨senior, .ofSeconds 2, .ofSeconds 5, ⟨0⟩,
      [.revise (.merge [⟨junior, 1, .alive⟩] ⟨10⟩), .elect],
      Roster.eq_ok_of_toOption_eq_some (by decide +kernel)⟩
  have secondReachable : second.Reachable :=
    ⟨junior, .ofSeconds 2, .ofSeconds 5, ⟨0⟩,
      [.revise (.merge [⟨senior, 1, .alive⟩] ⟨10⟩), .elect],
      Roster.eq_ok_of_toOption_eq_some (by decide +kernel)⟩
  have sameAlive := Roster.isAlive_iff_of_alive_eq firstReachable.sound.wellFormed.ascending
    secondReachable.sound.wellFormed.ascending (by decide +kernel)
  have firstPolled : first.Polled first.roster.oldestAlive :=
    ⟨senior, by decide, by decide +kernel⟩
  have secondPolled : second.Polled first.roster.oldestAlive :=
    ⟨senior, by decide, by decide +kernel⟩
  obtain ⟨-, both, -⟩ := leaders_agree_iff firstReachable secondReachable
    (by decide +kernel) rfl rfl sameAlive
  obtain ⟨firstNames, secondNames⟩ := both.mpr ⟨firstPolled, secondPolled⟩
  exact ⟨first, second, firstReachable, secondReachable, by decide +kernel, by decide +kernel,
    senior, senior, rfl, rfl, Identity.same_trans firstNames (Identity.same_symm secondNames)⟩

/-- Two nodes that elect before they have heard of each other both lead, though
afterwards their rosters agree on who is alive. -/
theorem leaders_disagree_after_early_elections :
    ∃ first second : Voter Unit, first.Reachable ∧ second.Reachable ∧
      first.roster.alive = [senior, junior] ∧ second.roster.alive = [senior, junior] ∧
        first.election.isLeader = true ∧ second.election.isLeader = true ∧
          ∃ firstLeader secondLeader, first.election.leader = some firstLeader ∧
            second.election.leader = some secondLeader ∧
              firstLeader.same secondLeader = false := by
  let first : Voter Unit :=
    ⟨⟨senior, [⟨senior, 0, ⟨0⟩, .alive⟩, ⟨junior, 1, ⟨10⟩, .alive⟩], .ofSeconds 2, .ofSeconds 5⟩,
      ⟨senior, some senior, .empty, none⟩, [senior]⟩
  let second : Voter Unit :=
    ⟨⟨junior, [⟨senior, 1, ⟨10⟩, .alive⟩, ⟨junior, 0, ⟨0⟩, .alive⟩], .ofSeconds 2, .ofSeconds 5⟩,
      ⟨junior, some junior, .empty, none⟩, [junior]⟩
  have firstReachable : first.Reachable :=
    ⟨senior, .ofSeconds 2, .ofSeconds 5, ⟨0⟩,
      [.elect, .revise (.merge [⟨junior, 1, .alive⟩] ⟨10⟩)],
      Roster.eq_ok_of_toOption_eq_some (by decide +kernel)⟩
  have secondReachable : second.Reachable :=
    ⟨junior, .ofSeconds 2, .ofSeconds 5, ⟨0⟩,
      [.elect, .revise (.merge [⟨senior, 1, .alive⟩] ⟨10⟩)],
      Roster.eq_ok_of_toOption_eq_some (by decide +kernel)⟩
  exact ⟨first, second, firstReachable, secondReachable, by decide +kernel, by decide +kernel,
    by decide +kernel, by decide +kernel, senior, junior, rfl, rfl, by decide +kernel⟩

end Voter
end GossipGroup
