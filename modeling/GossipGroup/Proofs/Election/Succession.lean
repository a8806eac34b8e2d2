import GossipGroup.Proofs.Election.Voters

/-!
# How leaders succeed each other

A node that hears of every change to its roster never keeps a leader it cannot
use: whoever it names is alive, or is the node itself. It names somebody from its
first election until it is reset, and in between it turns to somebody else only
when it elects, or when its leader departs. Whoever is elected then is the one of
those alive that joined first.
-/

namespace GossipGroup
namespace Roster

/-- Whom an election may choose: of those alive the one that joined first, and of
several that joined at once the one whose identity comes first; the node itself
if nobody is alive. -/
inductive IsChoice (roster : Roster) (leader : Identity) : Prop
  | eldest
      (living : leader ∈ roster.alive)
      (first : ∀ other ∈ roster.alive, leader.joinedAt < other.joinedAt ∨
        leader.joinedAt = other.joinedAt ∧ (leader.order other).isLE = true)
  | alone
      (nobody : roster.alive = [])
      (itself : leader = roster.self)

/-- Elections choose whom they may. -/
theorem isChoice_oldestAlive (roster : Roster) : roster.IsChoice roster.oldestAlive := by
  obtain ⟨present, isLE⟩ := roster.isEldest_oldestAlive
  by_cases nobody : roster.alive = []
  · rw [candidates, if_pos nobody, List.mem_singleton] at present
    exact .alone nobody present
  · rw [candidates, if_neg nobody] at present isLE
    refine .eldest present fun other living => ?_
    have senior := isLE other living
    rw [Identity.seniority, Ordering.isLE_then_iff_or, Std.compare_eq_lt,
      Std.LawfulEqCmp.compare_eq_iff_eq] at senior
    exact senior

end Roster

namespace Transition

/-- Members depart by failing, leaving or being evicted. -/
theorem isDeparture_iff {transition : Transition} :
    transition.isDeparture = true ↔ transition ∈ [.failed, .left, .evicted] := by
  cases transition <;> decide

end Transition

namespace Voter

variable {listener : Type} {voter next : Voter listener} {deed : Deed}

/-- The leader that a voter names is among those whose departure is told. -/
def LeaderDeparts (voter : Voter listener) (changes : List Change) : Prop :=
  ∃ leader, voter.election.leader = some leader ∧
    ∃ change ∈ changes, change.identity.same leader = true ∧
      change.transition ∈ [.failed, .left, .evicted]

/-- Elections notice the departure of their leader. -/
theorem losesLeader_iff {changes : List Change} :
    voter.election.losesLeader changes = true ↔ voter.LeaderDeparts changes := by
  simp only [Election.losesLeader, Election.isLedBy, List.any_eq_true, Bool.and_eq_true,
    Transition.isDeparture_iff, LeaderDeparts]
  cases voter.election.leader with
  | none => simp
  | some leader => simp [Identity.same_comm leader]

/-- All that a deed can do to who leads. -/
inductive Succession (voter next : Voter listener) : Deed → Prop
  | elected
      (elected : next.election.leader = some next.roster.oldestAlive) :
      Succession voter next .elect
  | replaced {operation changes}
      (applied : voter.roster.apply operation = .ok (next.roster, changes))
      (departs : voter.LeaderDeparts changes)
      (elected : next.election.leader = some next.roster.oldestAlive) :
      Succession voter next (.revise operation)
  | kept {operation changes}
      (applied : voter.roster.apply operation = .ok (next.roster, changes))
      (stays : ¬voter.LeaderDeparts changes)
      (unmoved : next.election.leader = voter.election.leader) :
      Succession voter next (.revise operation)
  | reset
      (unnamed : next.election.leader = none) :
      Succession voter next .reset

/-- Whatever is performed is one of these. -/
theorem succession_of_perform (performed : voter.perform deed = .ok next) :
    voter.Succession next deed := by
  cases deed with
  | revise operation =>
      rw [perform] at performed
      split at performed
      · rename_i roster changes applied
        obtain rfl := Except.ok.inj performed
        by_cases departs : voter.LeaderDeparts changes
        · refine .replaced applied departs ?_
          rw [revised, Election.observe, if_pos (losesLeader_iff.mpr departs)]
          rfl
        · refine .kept applied departs ?_
          rw [revised, Election.observe, if_neg (mt losesLeader_iff.mp departs)]
      · contradiction
  | elect =>
      obtain rfl := Except.ok.inj performed
      exact .elected rfl
  | reset =>
      obtain rfl := Except.ok.inj performed
      exact .reset rfl

/-- Deeds leave an election with its node. -/
theorem self_perform (performed : voter.perform deed = .ok next) :
    next.election.self = voter.election.self := by
  cases deed with
  | revise operation =>
      rw [perform] at performed
      split at performed
      · obtain rfl := Except.ok.inj performed
        rw [revised, Election.observe]
        split <;> rfl
      · contradiction
  | elect | reset =>
      obtain rfl := Except.ok.inj performed
      rfl

theorem self_run {deeds : List Deed} (ran : voter.run deeds = .ok next) :
    next.election.self = voter.election.self := by
  induction deeds generalizing voter with
  | nil => rw [← Except.ok.inj ran]
  | cons deed deeds inductionHypothesis =>
      rw [run] at ran
      split at ran
      · rename_i between performed
        exact (inductionHypothesis ran).trans (self_perform performed)
      · contradiction

/-- Whoever a node names as its leader is the node itself or alive, however its
roster and its election came about. It begins to name somebody only by electing
and ceases only by a reset, and what is done to its roster changes the leader only
if the departure of the leader is told, and then by another election. Elections
choose the one of those alive that joined first, or the node itself if nobody
is. -/
theorem leader_is_usable
    {self : Identity}
    {failTimeout cleanupTimeout : Span}
    {start : Instant}
    {deeds : List Deed}
    (ran : (founding self failTimeout cleanupTimeout start).run deeds = .ok voter) :
    (∀ leader, voter.election.leader = some leader →
      leader.same self = true ∨ voter.roster.IsAlive leader) ∧
    ∀ deed next, voter.perform deed = .ok next →
      (voter.election.leader = none → next.election.leader ≠ none → deed = .elect) ∧
      (voter.election.leader ≠ none → next.election.leader = none → deed = .reset) ∧
      (deed = .elect →
        ∃ leader, next.election.leader = some leader ∧ next.roster.IsChoice leader) ∧
      ∀ operation, deed = .revise operation →
        ∃ changes, voter.roster.apply operation = .ok (next.roster, changes) ∧
          (voter.LeaderDeparts changes →
            ∃ leader, next.election.leader = some leader ∧ next.roster.IsChoice leader) ∧
          (¬voter.LeaderDeparts changes →
            next.election.leader = voter.election.leader) := by
  constructor
  · intro leader named
    have sound := (sound_founding self failTimeout cleanupTimeout start).run ran
    rcases (sound.leads leader named).alive_or_alone with living | ⟨rfl, -⟩
    · exact .inr living
    · rw [← sound.sameSelf, self_run ran]
      exact .inl (Identity.same_refl self)
  · intro deed next performed
    have chooses := next.roster.isChoice_oldestAlive
    cases succession_of_perform performed with
    | elected elected =>
        have named : next.election.leader ≠ none := elected ▸ Option.some_ne_none _
        exact ⟨fun _ _ => rfl, fun _ unnamed => absurd unnamed named,
          fun _ => ⟨_, elected, chooses⟩, nofun⟩
    | @replaced operation changes applied departs elected =>
        have wasNamed : voter.election.leader ≠ none := by
          obtain ⟨leader, named, -⟩ := departs
          exact named ▸ Option.some_ne_none leader
        have named : next.election.leader ≠ none := elected ▸ Option.some_ne_none _
        refine ⟨fun unnamed => absurd unnamed wasNamed, fun _ unnamed => absurd unnamed named,
          nofun, fun _ same => ?_⟩
        obtain rfl := Deed.revise.inj same
        exact ⟨changes, applied, fun _ => ⟨_, elected, chooses⟩, fun stays => absurd departs stays⟩
    | @kept operation changes applied stays unmoved =>
        rw [unmoved]
        refine ⟨fun unnamed named => absurd unnamed named,
          fun named unnamed => absurd unnamed named, nofun, fun _ same => ?_⟩
        obtain rfl := Deed.revise.inj same
        exact ⟨changes, applied, fun departs => absurd departs stays, fun _ => rfl⟩
    | reset unnamed =>
        exact ⟨fun _ named => absurd unnamed named, fun _ _ => rfl, nofun, nofun⟩

/-- The junior has elected the senior, which is alive, and elects again when the
senior leaves. -/
theorem leader_is_replaced_when_it_leaves :
    ∃ voter next : Voter Unit,
      (founding junior (.ofSeconds 2) (.ofSeconds 5) ⟨0⟩).run
        [.revise (.merge [⟨senior, 1, .alive⟩] ⟨10⟩), .elect] = .ok voter ∧
      voter.election.leader = some senior ∧
      (senior.same junior = true ∨ voter.roster.IsAlive senior) ∧
      voter.perform (.revise (.merge [⟨senior, 11, .left⟩] ⟨20⟩)) = .ok next ∧
      voter.LeaderDeparts [⟨senior, .left⟩] ∧
      next.election.leader = some junior ∧
      next.roster.IsChoice junior := by
  let voter : Voter Unit :=
    ⟨⟨junior, [⟨senior, 1, ⟨10⟩, .alive⟩, ⟨junior, 0, ⟨0⟩, .alive⟩], .ofSeconds 2, .ofSeconds 5⟩,
      ⟨junior, some senior, .empty, none⟩, [senior, junior]⟩
  let next : Voter Unit :=
    ⟨⟨junior, [⟨senior, 11, ⟨20⟩, .left⟩, ⟨junior, 0, ⟨0⟩, .alive⟩], .ofSeconds 2, .ofSeconds 5⟩,
      ⟨junior, some junior, .empty, none⟩, [junior]⟩
  have ran : (founding junior (.ofSeconds 2) (.ofSeconds 5) ⟨0⟩).run
      [.revise (.merge [⟨senior, 1, .alive⟩] ⟨10⟩), .elect] = .ok voter :=
    Roster.eq_ok_of_toOption_eq_some (by decide +kernel)
  have performed : voter.perform (.revise (.merge [⟨senior, 11, .left⟩] ⟨20⟩)) = .ok next :=
    Roster.eq_ok_of_toOption_eq_some (by decide +kernel)
  have told : (voter.roster.apply (.merge [⟨senior, 11, .left⟩] ⟨20⟩)).toOption =
      some (next.roster, [⟨senior, .left⟩]) := by
    decide +kernel
  have departs : voter.LeaderDeparts [⟨senior, .left⟩] :=
    ⟨senior, rfl, _, List.mem_cons_self, Identity.same_refl senior, by decide⟩
  obtain ⟨usable, step⟩ := leader_is_usable ran
  obtain ⟨-, -, -, revised⟩ := step _ next performed
  obtain ⟨changes, applied, replaced, -⟩ := revised _ rfl
  rw [applied] at told
  obtain ⟨-, rfl⟩ := Prod.mk.inj (Option.some.inj told)
  obtain ⟨leader, named, chosen⟩ := replaced departs
  obtain rfl := Option.some.inj named
  exact ⟨voter, next, ran, rfl, usable senior rfl, performed, departs, rfl, chosen⟩

end Voter
end GossipGroup
