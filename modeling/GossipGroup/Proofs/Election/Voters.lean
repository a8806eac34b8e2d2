import GossipGroup.Election
import GossipGroup.Proofs.Election.Candidates

/-!
# Nodes that elect

A voter is a roster together with an election that hears of every change to it.
Its node elects at moments of its own choosing and again whenever its leader
departs. The leader it names is always the eldest of those who were candidates
when it last elected; later newcomers do not count, however senior they are.
-/

namespace GossipGroup

/-- A node with an election that hears of every change to the node's roster. -/
structure Voter (listener : Type) where
  roster : Roster
  election : Election listener
  /-- The candidates when the node last elected. No step depends on them. -/
  polled : List Identity
  deriving DecidableEq

namespace Voter

variable {listener : Type}

/-- What can happen to a voter. -/
inductive Deed
  /-- Something is done to the roster, and the election hears of the changes. -/
  | revise (operation : Roster.Operation)
  /-- The node elects. -/
  | elect
  /-- The node forgets its leader. -/
  | reset
  deriving DecidableEq

/-- A node that knows only itself and has not elected. -/
def founding
    (self : Identity)
    (failTimeout cleanupTimeout : Span)
    (start : Instant) : Voter listener :=
  ⟨.founding self failTimeout cleanupTimeout start, .initial self, []⟩

/-- The voter after an election among the candidates of its roster. -/
def electing (voter : Voter listener) : Voter listener :=
  { voter with
    election := (voter.election.elect voter.roster).1
    polled := voter.roster.candidates }

/-- The voter with another roster, after its election heard of the changes. -/
def revised
    (voter : Voter listener)
    (roster : Roster)
    (changes : List Change) : Voter listener :=
  { roster
    election := (voter.election.observe roster changes).1
    polled := if voter.election.losesLeader changes then roster.candidates else voter.polled }

/-- What a deed makes of a voter. -/
def perform (voter : Voter listener) : Deed → Except Roster.AgeError (Voter listener)
  | .revise operation =>
      match voter.roster.apply operation with
      | .ok (roster, changes) => .ok (voter.revised roster changes)
      | .error error => .error error
  | .elect => .ok voter.electing
  | .reset => .ok { voter with election := voter.election.reset.2 }

/-- One deed after another, as long as the node's heartbeat can be counted up. -/
def run (voter : Voter listener) : List Deed → Except Roster.AgeError (Voter listener)
  | [] => .ok voter
  | deed :: deeds =>
      match voter.perform deed with
      | .ok next => next.run deeds
      | .error error => .error error

/-- A voter that a run of some deeds leads to. -/
def Reachable (voter : Voter listener) : Prop :=
  ∃ self failTimeout cleanupTimeout start deeds,
    (founding self failTimeout cleanupTimeout start).run deeds = .ok voter

/-- A member was a candidate when the voter last elected. -/
def Polled (voter : Voter listener) (identity : Identity) : Prop :=
  ∃ candidate ∈ voter.polled, candidate.same identity = true

/-- The leader is the eldest of the candidates polled, and it is alive unless
nobody was and the node chose itself. -/
structure Leads (voter : Voter listener) (leader : Identity) : Prop where
  eldest : leader.IsEldest voter.polled
  alive_or_alone : voter.roster.IsAlive leader ∨
    leader = voter.roster.self ∧ voter.polled = [voter.roster.self]

/-- The roster is well formed, the election is that of its node, and whoever the
election names leads. -/
structure Sound (voter : Voter listener) : Prop where
  wellFormed : voter.roster.WellFormed
  sameSelf : voter.election.self = voter.roster.self
  leads : ∀ leader, voter.election.leader = some leader → voter.Leads leader

/-! ## The invariant -/

theorem sound_founding
    (self : Identity)
    (failTimeout cleanupTimeout : Span)
    (start : Instant) :
    (founding self failTimeout cleanupTimeout start : Voter listener).Sound where
  wellFormed := Roster.wellFormed_founding self failTimeout cleanupTimeout start
  sameSelf := rfl
  leads := fun _ impossible => absurd impossible (Option.some_ne_none _).symm

/-- Whoever an election chooses is alive, or nobody is and the node chose
itself. -/
theorem leads_oldestAlive
    (voter : Voter listener)
    (wellFormed : voter.roster.WellFormed)
    (polled : voter.polled = voter.roster.candidates) :
    voter.Leads voter.roster.oldestAlive := by
  have eldest := voter.roster.isEldest_oldestAlive
  refine ⟨polled ▸ eldest, ?_⟩
  by_cases nobody : voter.roster.alive = []
  · have alone : voter.roster.candidates = [voter.roster.self] := if_pos nobody
    refine .inr ⟨?_, polled.trans alone⟩
    exact List.mem_singleton.mp (alone ▸ eldest.present)
  · have living : voter.roster.candidates = voter.roster.alive := if_neg nobody
    refine .inl ((Roster.isAlive_iff wellFormed.ascending).mpr ?_)
    exact ⟨_, living ▸ eldest.present, Identity.same_refl _⟩

theorem Sound.electing {voter : Voter listener} (sound : voter.Sound) :
    voter.electing.Sound where
  wellFormed := sound.wellFormed
  sameSelf := sound.sameSelf
  leads := by
    intro leader named
    rw [← Option.some.inj named]
    exact leads_oldestAlive voter.electing sound.wellFormed rfl

/-- The leader stays in place as long as no departure of it is told. -/
theorem Leads.kept
    {voter : Voter listener}
    {operation : Roster.Operation}
    {roster : Roster}
    {changes : List Change}
    {leader : Identity}
    (leads : voter.Leads leader)
    (wellFormed : voter.roster.WellFormed)
    (named : voter.election.leader = some leader)
    (applied : voter.roster.apply operation = .ok (roster, changes))
    (stays : voter.election.losesLeader changes = false) :
    Leads { voter with roster } leader := by
  refine ⟨leads.eldest, ?_⟩
  rcases leads.alive_or_alone with living | ⟨itself, alone⟩
  · rcases Roster.isAlive_or_departs wellFormed.ascending applied living with still | departs
    · exact .inl still
    · obtain ⟨change, told, same, departure⟩ := departs
      have loses : voter.election.losesLeader changes = true := by
        rw [Election.losesLeader, List.any_eq_true]
        refine ⟨change, told, ?_⟩
        rw [Election.isLedBy, named, departure, Bool.and_true]
        exact Identity.same_symm same
      rw [loses] at stays
      contradiction
  · have sameSelf := (wellFormed.apply applied).2
    exact .inr ⟨itself.trans sameSelf.symm, by simp only [alone, sameSelf]⟩

/-- Hearing of a revision keeps a voter sound. -/
theorem Sound.revised
    {voter : Voter listener}
    {operation : Roster.Operation}
    {roster : Roster}
    {changes : List Change}
    (sound : voter.Sound)
    (applied : voter.roster.apply operation = .ok (roster, changes)) :
    (voter.revised roster changes).Sound := by
  obtain ⟨wellFormed, sameSelf⟩ := sound.wellFormed.apply applied
  cases loses : voter.election.losesLeader changes with
  | true =>
      have elected : voter.revised roster changes = Voter.electing { voter with roster } := by
        simp [Voter.revised, Voter.electing, Election.observe, loses]
      have present : (voter.revised roster changes).Leads roster.oldestAlive := by
        rw [elected]
        exact leads_oldestAlive (Voter.electing { voter with roster }) wellFormed rfl
      rw [elected] at present ⊢
      refine ⟨wellFormed, sound.sameSelf.trans sameSelf.symm, fun leader named => ?_⟩
      rw [← Option.some.inj named]
      exact present
  | false =>
      have unheard : voter.revised roster changes = { voter with roster } := by
        simp [Voter.revised, Election.observe, loses]
      rw [unheard]
      exact ⟨wellFormed, sound.sameSelf.trans sameSelf.symm, fun leader named =>
        (sound.leads leader named).kept sound.wellFormed named applied loses⟩

/-- One deed keeps a voter sound. -/
theorem Sound.perform
    {voter next : Voter listener}
    {deed : Deed}
    (sound : voter.Sound)
    (performed : voter.perform deed = .ok next) :
    next.Sound := by
  cases deed with
  | revise operation =>
      rw [Voter.perform] at performed
      split at performed
      · rename_i roster changes applied
        rw [← Except.ok.inj performed]
        exact sound.revised applied
      · contradiction
  | elect =>
      rw [← Except.ok.inj performed]
      exact sound.electing
  | reset =>
      rw [← Except.ok.inj performed]
      exact ⟨sound.wellFormed, sound.sameSelf,
        fun _ impossible => absurd impossible (Option.some_ne_none _).symm⟩

/-- A run keeps a voter sound. -/
theorem Sound.run
    {voter last : Voter listener}
    {deeds : List Deed}
    (sound : voter.Sound)
    (ran : voter.run deeds = .ok last) :
    last.Sound := by
  induction deeds generalizing voter with
  | nil =>
      rw [← Except.ok.inj ran]
      exact sound
  | cons deed deeds inductionHypothesis =>
      rw [Voter.run] at ran
      split at ran
      · rename_i next performed
        exact inductionHypothesis (sound.perform performed) ran
      · contradiction

theorem Reachable.sound {voter : Voter listener} (reachable : voter.Reachable) :
    voter.Sound := by
  obtain ⟨self, failTimeout, cleanupTimeout, start, deeds, ran⟩ := reachable
  exact (sound_founding self failTimeout cleanupTimeout start).run ran

/-- A member of a group of two, the first to join it. -/
def senior : Identity := ⟨.v4 ⟨127, 0, 0, 1⟩ 7000, 1⟩

/-- The other member of the group, which joined later. -/
def junior : Identity := ⟨.v4 ⟨127, 0, 0, 1⟩ 7001, 2⟩

end Voter
end GossipGroup
