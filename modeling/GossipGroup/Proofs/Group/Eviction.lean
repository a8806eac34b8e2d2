import GossipGroup.Proofs.Group.Cluster
import GossipGroup.Proofs.Roster.Living

/-!
# When an evicted member comes back

Once a member has crashed, only peers that still hold it alive can bring it back
to one that has evicted it: any of them can, with its next push, and as soon as
there is none nobody is told of the member again. A peer holds a crashed member
alive for no longer than the fail timeout and the gossip interval after it last
refreshed it. But a refresh may be passed on, and as each peer counts from its
own refresh, there can be such peers when another has already waited for the
whole cleanup timeout.
-/

namespace GossipGroup

/-- A peer's roster is well formed and has the settings of the cluster, a running
peer has aged lately, and whom it held alive then it had refreshed before. -/
structure Peer.Sound (settings : Settings) (clock : Instant) (peer : Peer) : Prop where
  wellFormed : peer.roster.WellFormed
  failTimeout : peer.roster.failTimeout = settings.failTimeout
  agedAt_le : peer.agedAt ≤ clock
  punctual : peer.running = true → clock.since peer.agedAt ≤ settings.gossipInterval
  fresh : ∀ member ∈ peer.roster.members, member.status = .alive →
    member.identity.same peer.roster.self = false →
      peer.agedAt.since member.refreshedAt ≤ settings.failTimeout

namespace Cluster

/-- No two peers are the same member, and every peer is sound. -/
structure Sound (cluster : Cluster) : Prop where
  distinct : Distinct (cluster.peers.map (·.roster.self))
  peers : ∀ peer ∈ cluster.peers, peer.Sound cluster.settings cluster.clock

/-- No running peer holds a member alive. -/
def Forgotten (cluster : Cluster) (identity : Identity) : Prop :=
  ∀ peer ∈ cluster.peers, peer.running = true → ¬peer.roster.IsAlive identity

/-! ## Soundness -/

theorem sound_founding (settings : Settings) (clock : Instant) :
    (founding settings clock).Sound where
  distinct := List.Pairwise.nil
  peers := nofun

theorem Sound.put
    {cluster : Cluster}
    {peer : Nat}
    {state later : Peer}
    (sound : cluster.Sound)
    (running : cluster.running? peer = some state)
    (self : later.roster.self = state.roster.self)
    (laterSound : later.Sound cluster.settings cluster.clock) :
    (cluster.put peer later).Sound := by
  have present := (running?_eq_some_iff.mp running).1
  refine ⟨?_, fun other otherPresent => ?_⟩
  · rw [Cluster.put, map_set_of_present present self]
    exact sound.distinct
  · rcases List.mem_or_eq_of_mem_set otherPresent with before | equal
    · exact sound.peers other before
    · exact equal ▸ laterSound

theorem sound_newcomer (cluster : Cluster) (identity : Identity) :
    (cluster.newcomer identity).Sound cluster.settings cluster.clock where
  wellFormed := Roster.wellFormed_founding _ _ _ _
  failTimeout := rfl
  agedAt_le := Int.le_refl _
  punctual := fun _ => by
    rw [newcomer, Instant.since_self]
    exact Nat.zero_le _
  fresh := by
    intro member present alive other
    rw [List.mem_singleton.mp present, newcomer, Roster.self_founding,
      Identity.same_refl] at other
    contradiction

theorem sound_aged
    {settings : Settings}
    {clock : Instant}
    {peer : Peer}
    (sound : peer.Sound settings clock) :
    Peer.Sound settings clock
      { peer with roster := peer.roster.aged clock, agedAt := clock } where
  wellFormed := sound.wellFormed.aged clock
  failTimeout := sound.failTimeout
  agedAt_le := Int.le_refl _
  punctual := fun _ => by
    rw [Instant.since_self]
    exact Nat.zero_le _
  fresh := fun member present alive other => by
    rw [← sound.failTimeout]
    exact Roster.silence_le_of_mem_aged present alive other

theorem sound_merge
    {settings : Settings}
    {clock : Instant}
    {peer : Peer}
    {digest : Digest}
    (sound : peer.Sound settings clock)
    (ascending : Ascending digest.reports) :
    Peer.Sound settings clock { peer with roster := (peer.roster.merge digest clock).1 } where
  wellFormed := sound.wellFormed.merge ascending clock
  failTimeout := sound.failTimeout
  agedAt_le := sound.agedAt_le
  punctual := sound.punctual
  fresh := by
    intro member present alive other
    rcases Roster.mem_merge sound.wellFormed.ascending ascending present with
      before | ⟨report, -, rfl⟩
    · exact sound.fresh member before alive other
    · have agedAt_le := sound.agedAt_le
      rw [Instant.le_iff] at agedAt_le
      simp only [Report.memberAt, Instant.since, Span.le_iff]
      omega

/-- One deed keeps a cluster sound. -/
theorem Sound.effect
    {cluster next : Cluster}
    {deed : Deed}
    {news : List News}
    (sound : cluster.Sound)
    (effect : cluster.Effect deed next news) :
    next.Sound := by
  cases effect with
  | @entered identity new =>
      refine ⟨?_, fun peer present => ?_⟩
      · rw [List.map_append]
        refine List.pairwise_append.mpr ⟨sound.distinct, List.pairwise_singleton _ _, ?_⟩
        intro left leftPresent right rightPresent
        obtain ⟨peer, present, rfl⟩ := List.mem_map.mp leftPresent
        rw [List.mem_singleton.mp rightPresent]
        exact new peer present
      · rcases List.mem_append.mp present with before | added
        · exact sound.peers peer before
        · rw [List.mem_singleton.mp added]
          exact sound_newcomer cluster identity
  | aged running canBeat =>
      exact sound.put running rfl (sound_aged (sound.peers _ (mem_of_running? running)))
  | lost sending crashed => exact sound
  | pushed sending receiving =>
      have source := sound.peers _ (mem_of_running? sending)
      exact sound.put receiving rfl
        (sound_merge (sound.peers _ (mem_of_running? receiving))
          (Roster.ascending_shared source.wellFormed.ascending cluster.clock))
  | @waited span punctual =>
      refine ⟨sound.distinct, fun peer present => ?_⟩
      have before := sound.peers peer present
      refine ⟨before.wellFormed, before.failTimeout, ?_, fun running => ?_, before.fresh⟩
      · have agedAt_le := before.agedAt_le
        rw [Instant.le_iff] at *
        simp only [Instant.after]
        omega
      · have inTime := punctual peer present
        simpa [isPunctual, running] using inTime
  | @crashed peer state running =>
      have before := sound.peers state (mem_of_running? running)
      exact sound.put running rfl
        ⟨before.wellFormed, before.failTimeout, before.agedAt_le, nofun, before.fresh⟩

/-- A run keeps a cluster sound. -/
theorem Sound.run
    {cluster last : Cluster}
    {deeds : List Deed}
    {news : List News}
    (sound : cluster.Sound)
    (ran : cluster.run deeds = some (last, news)) :
    last.Sound := by
  induction deeds generalizing cluster news with
  | nil =>
      obtain ⟨rfl, -⟩ := Prod.mk.inj (Option.some.inj ran)
      exact sound
  | cons deed deeds inductionHypothesis =>
      obtain ⟨next, told, later, performed, ranRest, -⟩ := run_cons_eq_some ran
      exact inductionHypothesis (sound.effect (effect_of_perform performed)) ranRest

theorem Reachable.sound {cluster : Cluster} (reachable : cluster.Reachable) :
    cluster.Sound := by
  obtain ⟨settings, start, deeds, news, ran⟩ := reachable
  exact (sound_founding settings start).run ran

/-! ## Members that have crashed -/

/-- A running peer is not a member that has crashed. -/
theorem Crashed.other
    {cluster : Cluster}
    {identity : Identity}
    {peer : Nat}
    {state : Peer}
    (crashed : cluster.Crashed identity)
    (distinct : Distinct (cluster.peers.map (·.roster.self)))
    (running : cluster.running? peer = some state) :
    state.roster.self.same identity = false := by
  obtain ⟨gone, present, stopped, same⟩ := crashed
  rw [← Bool.not_eq_true]
  intro itself
  have equal := distinct.eq_of_same (mem_of_running? running) present
    (Identity.same_trans itself (Identity.same_symm same))
  rw [← equal, (running?_eq_some_iff.mp running).2] at stopped
  contradiction

theorem Crashed.put
    {cluster : Cluster}
    {identity : Identity}
    {peer : Nat}
    {state : Peer}
    (crashed : cluster.Crashed identity)
    (running : cluster.running? peer = some state)
    (later : Peer) :
    (cluster.put peer later).Crashed identity := by
  obtain ⟨gone, present, stopped, same⟩ := crashed
  obtain ⟨found, active⟩ := running?_eq_some_iff.mp running
  rcases mem_set_of_mem found present with itself | unchanged
  · rw [itself, active] at stopped
    contradiction
  · exact ⟨gone, unchanged, stopped, same⟩

/-- Who has crashed stays so. -/
theorem Crashed.effect
    {cluster next : Cluster}
    {identity : Identity}
    {deed : Deed}
    {news : List News}
    (crashed : cluster.Crashed identity)
    (effect : cluster.Effect deed next news) :
    next.Crashed identity := by
  cases effect with
  | entered new =>
      obtain ⟨gone, present, stopped, same⟩ := crashed
      exact ⟨gone, List.mem_append_left _ present, stopped, same⟩
  | aged running canBeat => exact crashed.put running _
  | lost sending receiver => exact crashed
  | pushed sending receiving => exact crashed.put receiving _
  | waited punctual => exact crashed
  | crashed running => exact crashed.put running _

theorem Forgotten.put
    {cluster : Cluster}
    {identity : Identity}
    {peer : Nat}
    {later : Peer}
    (forgotten : cluster.Forgotten identity)
    (dead : later.running = true → ¬later.roster.IsAlive identity) :
    (cluster.put peer later).Forgotten identity := by
  intro other present running
  rcases List.mem_or_eq_of_mem_set present with before | equal
  · exact forgotten other before running
  · exact equal ▸ dead (equal ▸ running)

/-- Whom nobody holds alive stays so after a crash, and nobody is told that the
member joins. -/
theorem Forgotten.effect
    {cluster next : Cluster}
    {identity : Identity}
    {deed : Deed}
    {news : List News}
    (forgotten : cluster.Forgotten identity)
    (sound : cluster.Sound)
    (crashed : cluster.Crashed identity)
    (effect : cluster.Effect deed next news) :
    next.Forgotten identity ∧
      ∀ peer change, (peer, change) ∈ news → change.identity.same identity = true →
        change.transition ≠ .joined := by
  cases effect with
  | @entered newcomer new =>
      refine ⟨fun peer present running living => ?_, nofun⟩
      rcases List.mem_append.mp present with before | added
      · exact forgotten peer before running living
      · obtain ⟨gone, gonePresent, -, same⟩ := crashed
        obtain ⟨member, found, -⟩ := living
        rw [List.mem_singleton.mp added] at found
        have self := List.mem_singleton.mp (mem_of_entryAbout found)
        have itself := same_of_entryAbout found
        rw [self] at itself
        have clash := Identity.same_trans same (Identity.same_symm itself)
        rw [name_member, new gone gonePresent] at clash
        contradiction
  | @aged peer state running canBeat =>
      have ascending := (sound.peers state (mem_of_running? running)).wellFormed.ascending
      refine ⟨forgotten.put fun active living => ?_, fun other change told _ => ?_⟩
      · exact forgotten state (mem_of_running? running) active
          (Roster.isAlive_of_isAlive_aged ascending (crashed.other sound.distinct running) living)
      · obtain ⟨aged, agedTold, equal⟩ := List.mem_map.mp told
        rw [← (Prod.mk.inj equal).2]
        exact Roster.not_joined_of_mem_agedChanges agedTold
  | lost sending receiver => exact ⟨forgotten, nofun⟩
  | @pushed sender receiver source target sending receiving =>
      have sourceAscending :=
        (sound.peers source (mem_of_running? sending)).wellFormed.ascending
      have targetAscending :=
        (sound.peers target (mem_of_running? receiving)).wellFormed.ascending
      have sharedAscending := Roster.ascending_shared sourceAscending cluster.clock
      have notReported := mt (Roster.isAlive_iff_shared sourceAscending cluster.clock identity).mpr
        (forgotten source (mem_of_running? sending) (running?_eq_some_iff.mp sending).2)
      refine ⟨forgotten.put fun active living => ?_, fun other change told same joined => ?_⟩
      · exact notReported (Roster.reportedAlive_of_isAlive_merge targetAscending sharedAscending
          (forgotten target (mem_of_running? receiving) active) living)
      · obtain ⟨merged, mergedTold, equal⟩ := List.mem_map.mp told
        obtain ⟨-, rfl⟩ := Prod.mk.inj equal
        have reported :=
          Roster.reportedAlive_of_joined targetAscending sharedAscending mergedTold joined
        rw [entryAbout_congr same] at reported
        exact notReported reported
  | waited punctual => exact ⟨forgotten, nofun⟩
  | crashed running => exact ⟨forgotten.put nofun, nofun⟩

/-- Whom nobody holds alive after a crash, nobody is ever told to join again. -/
theorem Forgotten.run
    {cluster last : Cluster}
    {identity : Identity}
    {deeds : List Deed}
    {news : List News}
    (forgotten : cluster.Forgotten identity)
    (sound : cluster.Sound)
    (crashed : cluster.Crashed identity)
    (ran : cluster.run deeds = some (last, news)) :
    ∀ peer change, (peer, change) ∈ news → change.identity.same identity = true →
      change.transition ≠ .joined := by
  induction deeds generalizing cluster news with
  | nil =>
      obtain ⟨-, rfl⟩ := Prod.mk.inj (Option.some.inj ran)
      exact nofun
  | cons deed deeds inductionHypothesis =>
      obtain ⟨next, told, later, performed, ranRest, rfl⟩ := run_cons_eq_some ran
      have effect := effect_of_perform performed
      obtain ⟨stillForgotten, notTold⟩ := forgotten.effect sound crashed effect
      intro peer change present
      rcases List.mem_append.mp present with now | afterwards
      · exact notTold peer change now
      · exact inductionHypothesis stillForgotten (sound.effect effect) (crashed.effect effect)
          ranRest peer change afterwards

/-- A running peer that holds a member alive can bring it to any running peer
that does not hold it at all. -/
theorem run_push_of_carrier
    {cluster : Cluster}
    {identity : Identity}
    {carrier peer : Nat}
    {source target : Peer}
    (sound : cluster.Sound)
    (sending : cluster.running? carrier = some source)
    (receiving : cluster.running? peer = some target)
    (living : source.roster.IsAlive identity)
    (unknown : entryAbout identity target.roster.members = none) :
    ∃ last news, cluster.run [.push carrier peer] = some (last, news) ∧
      ∃ change, (peer, change) ∈ news ∧ change.identity.same identity = true ∧
        change.transition = .joined := by
  have sourceAscending := (sound.peers source (mem_of_running? sending)).wellFormed.ascending
  have targetAscending := (sound.peers target (mem_of_running? receiving)).wellFormed.ascending
  obtain ⟨report, reported, alive⟩ :=
    (Roster.isAlive_iff_shared sourceAscending cluster.clock identity).mp living
  obtain ⟨change, told, same, joined⟩ := Roster.joined_of_reportedAlive targetAscending
    (Roster.ascending_shared sourceAscending cluster.clock) unknown reported alive cluster.clock
  have ran : cluster.run [.push carrier peer] =
      some (cluster.put peer { target with
          roster := (target.roster.merge (source.roster.shared cluster.clock) cluster.clock).1 },
        (target.roster.merge (source.roster.shared cluster.clock) cluster.clock).2.map (peer, ·) ++
          []) := by
    rw [run, perform, sending, receiving]
    rfl
  exact ⟨_, _, ran, change, List.mem_append_left _ (List.mem_map_of_mem told), same, joined⟩

/-- A running peer that holds a crashed member alive has refreshed it within the
fail timeout and the gossip interval. -/
theorem Sound.since_refreshedAt_le
    {cluster : Cluster}
    {identity : Identity}
    {peer : Nat}
    {state : Peer}
    {member : Member}
    (sound : cluster.Sound)
    (crashed : cluster.Crashed identity)
    (running : cluster.running? peer = some state)
    (held : entryAbout identity state.roster.members = some member)
    (alive : member.status = .alive) :
    (cluster.clock.since member.refreshedAt).nanoseconds ≤
      cluster.settings.failTimeout.nanoseconds +
        cluster.settings.gossipInterval.nanoseconds := by
  have stateSound := sound.peers state (mem_of_running? running)
  have same : member.identity.same identity = true := same_of_entryAbout held
  have other : member.identity.same state.roster.self = false := by
    rw [Identity.same_comm, Identity.same_congr_right same]
    exact crashed.other sound.distinct running
  have fresh := stateSound.fresh member (mem_of_entryAbout held) alive other
  have punctual := stateSound.punctual (running?_eq_some_iff.mp running).2
  simp only [Span.le_iff, Instant.since] at *
  omega

/-- After a peer has aged and evicted a member that has crashed, it can be told
to let the member join again exactly if some running peer then holds the member
alive, and such a peer has refreshed the member no longer ago than the fail
timeout and the gossip interval. -/
theorem rejoins_iff_held_alive
    {cluster next : Cluster}
    {peer : Nat}
    {identity : Identity}
    {told : List News}
    (reachable : cluster.Reachable)
    (crashed : cluster.Crashed identity)
    (aged : cluster.perform (.age peer) = some (next, told))
    (evicted : (peer, ⟨identity, .evicted⟩) ∈ told) :
    ((∃ deeds last news, next.run deeds = some (last, news) ∧
        ∃ change, (peer, change) ∈ news ∧ change.identity.same identity = true ∧
          change.transition = .joined) ↔
      ∃ carrier source, next.running? carrier = some source ∧
        source.roster.IsAlive identity) ∧
    ∀ carrier source member, next.running? carrier = some source →
      source.roster.find? identity = some member → member.status = .alive →
        (next.clock.since member.refreshedAt).nanoseconds ≤
          next.settings.failTimeout.nanoseconds + next.settings.gossipInterval.nanoseconds := by
  have effect := effect_of_perform aged
  have sound := reachable.sound.effect effect
  have stillCrashed := crashed.effect effect
  refine ⟨⟨?_, ?_⟩, ?_⟩
  · rintro ⟨deeds, last, news, ran, change, present, same, joined⟩
    refine Classical.byContradiction fun nobody => ?_
    have forgotten : next.Forgotten identity := by
      intro state statePresent running living
      obtain ⟨carrier, found⟩ := List.mem_iff_getElem?.mp statePresent
      exact nobody ⟨carrier, state, running?_eq_some_iff.mpr ⟨found, running⟩, living⟩
    exact forgotten.run sound stillCrashed ran peer change present same joined
  · rintro ⟨carrier, source, sending, living⟩
    cases effect with
    | @aged _ state running canBeat =>
        have ascending :=
          (reachable.sound.peers state (mem_of_running? running)).wellFormed.ascending
        obtain ⟨change, changeTold, equal⟩ := List.mem_map.mp evicted
        obtain ⟨-, rfl⟩ := Prod.mk.inj equal
        have receiving := running?_put_self running
          { state with roster := state.roster.aged cluster.clock, agedAt := cluster.clock }
          (running?_eq_some_iff.mp running).2
        exact ⟨_, run_push_of_carrier sound sending receiving living
          (Roster.entryAbout_eq_none_of_evicted ascending changeTold)⟩
  · intro carrier source member running found alive
    have ascending := (sound.peers source (mem_of_running? running)).wellFormed.ascending
    rw [Roster.find?_eq_entryAbout ascending] at found
    exact sound.since_refreshedAt_le stillCrashed running found alive

/-- A peer of the clusters below, by its place in them. -/
def peerAt (place : UInt16) : Identity :=
  ⟨.v4 ⟨127, 0, 0, 1⟩ (7000 + place), place.toUInt64 + 1⟩

/-- A lonely peer forgets the one member it knew, and for good. -/
theorem lonely_peer_forgets :
    ∃ (cluster next : Cluster) (told : List News),
      cluster.Reachable ∧ cluster.Crashed (peerAt 1) ∧
      cluster.perform (.age 0) = some (next, told) ∧
      (0, ⟨peerAt 1, .evicted⟩) ∈ told ∧
      ¬∃ deeds last news, next.run deeds = some (last, news) ∧
        ∃ change, (0, change) ∈ news ∧ change.identity.same (peerAt 1) = true ∧
          change.transition = .joined := by
  let settings : Settings :=
    { gossipInterval := ⟨1⟩, failTimeout := ⟨2⟩, cleanupTimeout := ⟨3⟩ }
  let gone : Peer :=
    ⟨⟨peerAt 1, [⟨peerAt 1, 0, ⟨0⟩, .alive⟩], ⟨2⟩, ⟨3⟩⟩, false, ⟨0⟩⟩
  let cluster : Cluster :=
    ⟨settings, ⟨4⟩,
      [⟨⟨peerAt 0, [⟨peerAt 0, 3, ⟨3⟩, .alive⟩, ⟨peerAt 1, 0, ⟨0⟩, .failed⟩], ⟨2⟩, ⟨3⟩⟩,
        true, ⟨3⟩⟩, gone]⟩
  let next : Cluster :=
    ⟨settings, ⟨4⟩,
      [⟨⟨peerAt 0, [⟨peerAt 0, 4, ⟨4⟩, .alive⟩], ⟨2⟩, ⟨3⟩⟩, true, ⟨4⟩⟩, gone]⟩
  have reachable : cluster.Reachable := by
    refine ⟨settings, ⟨0⟩, [.enter (peerAt 0), .enter (peerAt 1), .push 1 0, .crash 1,
      .wait ⟨1⟩, .age 0, .wait ⟨1⟩, .age 0, .wait ⟨1⟩, .age 0, .wait ⟨1⟩],
      [(0, ⟨peerAt 1, .joined⟩), (0, ⟨peerAt 1, .failed⟩)], ?_⟩
    decide +kernel
  have crashed : cluster.Crashed (peerAt 1) :=
    ⟨gone, List.mem_cons_of_mem _ List.mem_cons_self, rfl, Identity.same_refl _⟩
  have aged : cluster.perform (.age 0) = some (next, [(0, ⟨peerAt 1, .evicted⟩)]) := by
    decide +kernel
  refine ⟨cluster, next, _, reachable, crashed, aged, List.mem_cons_self, ?_⟩
  rw [(rejoins_iff_held_alive reachable crashed aged List.mem_cons_self).1]
  rintro ⟨carrier, source, running, member, found, -⟩
  have active := (running?_eq_some_iff.mp running).2
  rcases List.mem_cons.mp (mem_of_running? running) with rfl | inRest
  · have unknown : entryAbout (peerAt 1) [(⟨peerAt 0, 4, ⟨4⟩, .alive⟩ : Member)] = none := by
      decide +kernel
    exact absurd (unknown.symm.trans found) (Option.some_ne_none _).symm
  · rw [List.mem_singleton.mp inRest] at active
    contradiction

/-! ## A member that comes back -/

/-- Three peers that know each other, of which the first has just heard of a
fourth, which has crashed. They gossip once a second and otherwise have the
default settings. -/
def bereaved : Cluster where
  settings := { gossipInterval := .ofSeconds 1 }
  clock := ⟨0⟩
  peers :=
    let entry := fun place => ⟨peerAt place, 0, ⟨0⟩, .alive⟩
    let lost := ⟨peerAt 3, 1, ⟨0⟩, .alive⟩
    [⟨⟨peerAt 0, [entry 0, entry 1, entry 2, lost], .ofSeconds 2, .ofSeconds 5⟩, true, ⟨0⟩⟩,
      ⟨⟨peerAt 1, [entry 0, entry 1, entry 2], .ofSeconds 2, .ofSeconds 5⟩, true, ⟨0⟩⟩,
      ⟨⟨peerAt 2, [entry 0, entry 1, entry 2], .ofSeconds 2, .ofSeconds 5⟩, true, ⟨0⟩⟩,
      ⟨⟨peerAt 3, [lost], .ofSeconds 2, .ofSeconds 5⟩, false, ⟨0⟩⟩]

/-- How they have come to know each other. -/
def meeting : List Deed :=
  [.enter (peerAt 0), .enter (peerAt 1), .enter (peerAt 2), .enter (peerAt 3),
    .push 1 0, .push 2 0, .push 0 1, .push 0 2, .age 3, .push 3 0, .crash 3]

/-- Each second the three peers age and push to one they hold alive. The first
tells the second of the lost member after two seconds, the second tells the
third after four, and the third tells the first after six. -/
def whispers : List Deed :=
  [.wait (.ofSeconds 1), .age 0, .push 0 3, .age 1, .push 1 0, .age 2, .push 2 1,
    .wait (.ofSeconds 1), .age 1, .push 1 2, .age 2, .push 2 0, .age 0, .push 0 1,
    .wait (.ofSeconds 1), .age 0, .push 0 1, .age 1, .push 1 0, .age 2, .push 2 1,
    .wait (.ofSeconds 1), .age 0, .push 0 1, .age 1, .push 1 2, .age 2, .push 2 1,
    .wait (.ofSeconds 1), .age 1, .push 1 0, .age 0, .push 0 1, .age 2, .push 2 1,
    .wait (.ofSeconds 1), .age 0, .age 2, .push 2 0]

/-- The first peer evicts the lost member, and then lets it join again, though it
has crashed more than the cleanup timeout before and everybody has gossiped in
time. -/
theorem evicted_member_rejoins :
    bereaved.Reachable ∧ bereaved.settings.fault? = none ∧ bereaved.Crashed (peerAt 3) ∧
      bereaved.onlyGossips whispers = true ∧
      ∃ last earlier later, bereaved.run whispers =
          some (last, earlier ++ (0, ⟨peerAt 3, .evicted⟩) :: later) ∧
        (0, ⟨peerAt 3, .joined⟩) ∈ later := by
  have formed : ((founding bereaved.settings ⟨0⟩).run meeting).map (·.1) = some bereaved := by
    decide +kernel
  have told : (bereaved.run whispers).map (·.2) = some
      ([(1, ⟨peerAt 3, .joined⟩), (0, ⟨peerAt 3, .failed⟩), (2, ⟨peerAt 0, .failed⟩),
        (2, ⟨peerAt 0, .joined⟩), (2, ⟨peerAt 3, .joined⟩), (1, ⟨peerAt 3, .failed⟩)] ++
          (0, ⟨peerAt 3, .evicted⟩) :: [(0, ⟨peerAt 3, .joined⟩)]) := by
    decide +kernel
  refine ⟨?_, by decide, ?_, by decide +kernel, ?_⟩
  · obtain ⟨⟨cluster, news⟩, ran, equal⟩ := Option.map_eq_some_iff.mp formed
    obtain rfl : cluster = bereaved := equal
    exact ⟨bereaved.settings, ⟨0⟩, meeting, news, ran⟩
  · exact ⟨⟨⟨peerAt 3, [⟨peerAt 3, 1, ⟨0⟩, .alive⟩], .ofSeconds 2, .ofSeconds 5⟩, false, ⟨0⟩⟩,
      by decide +kernel, rfl, Identity.same_refl _⟩
  · obtain ⟨⟨last, news⟩, ran, equal⟩ := Option.map_eq_some_iff.mp told
    obtain rfl : news = _ := equal
    exact ⟨last, _, _, ran, List.mem_cons_self⟩

end Cluster
end GossipGroup
