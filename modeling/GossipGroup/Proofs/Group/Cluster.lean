import GossipGroup.Proofs.Election.Candidates
import GossipGroup.Proofs.Group.Nodes
import GossipGroup.Settings

/-!
# A cluster in time

The peers of a cluster share their settings and one clock. What a peer pushes
arrives at once: gossip goes to those the sender holds alive, and negotiation to
an introducer, whoever that is, so a push may go to any peer. Time passes only
as long as no running peer is late with its next round. A peer that crashes does
nothing more, and what is pushed to it is lost.
-/

namespace GossipGroup

/-- A peer of a cluster. -/
structure Peer where
  roster : Roster
  running : Bool
  /-- When the peer last aged its roster, or else when it entered. -/
  agedAt : Instant
  deriving DecidableEq

/-- The peers of a cluster, their settings and their clock. -/
structure Cluster where
  settings : Settings
  clock : Instant
  peers : List Peer
  deriving DecidableEq

namespace Cluster

/-- A change that a peer tells. -/
abbrev News : Type := Nat × Change

/-- What can happen in a cluster. -/
inductive Deed
  /-- A peer that nobody knows of enters. -/
  | enter (identity : Identity)
  /-- A peer ages its roster. -/
  | age (peer : Nat)
  /-- A peer pushes what its roster shares to another. -/
  | push (sender receiver : Nat)
  /-- Time passes. -/
  | wait (span : Span)
  /-- A peer crashes. -/
  | crash (peer : Nat)
  deriving DecidableEq

/-- A cluster without peers. -/
def founding (settings : Settings) (clock : Instant) : Cluster := ⟨settings, clock, []⟩

/-- A peer that enters now and knows only itself. -/
def newcomer (cluster : Cluster) (identity : Identity) : Peer where
  roster := .founding identity cluster.settings.failTimeout cluster.settings.cleanupTimeout
    cluster.clock
  running := true
  agedAt := cluster.clock

/-- A peer that has not crashed. -/
def running? (cluster : Cluster) (peer : Nat) : Option Peer :=
  cluster.peers[peer]?.filter (·.running)

/-- The cluster with another state of one peer. -/
def put (cluster : Cluster) (peer : Nat) (state : Peer) : Cluster :=
  { cluster with peers := cluster.peers.set peer state }

/-- Whether a peer ages often enough, at a given moment. -/
def isPunctual (cluster : Cluster) (now : Instant) (peer : Peer) : Bool :=
  !peer.running || now.since peer.agedAt ≤ cluster.settings.gossipInterval

/-- What a deed makes of a cluster, and the news it causes, unless it is not
possible. -/
def perform (cluster : Cluster) : Deed → Option (Cluster × List News)
  | .enter identity =>
      if cluster.peers.any (·.roster.self.same identity) then none
      else some ({ cluster with peers := cluster.peers ++ [cluster.newcomer identity] }, [])
  | .age peer =>
      match cluster.running? peer with
      | none => none
      | some state =>
          match state.roster.age cluster.clock with
          | .error _ => none
          | .ok (roster, changes) =>
              some (cluster.put peer { state with roster, agedAt := cluster.clock },
                changes.map (peer, ·))
  | .push sender receiver =>
      match cluster.running? sender, cluster.running? receiver with
      | none, _ => none
      | some _, none => some (cluster, [])
      | some source, some target =>
          let (roster, changes) :=
            target.roster.merge (source.roster.shared cluster.clock) cluster.clock
          some (cluster.put receiver { target with roster }, changes.map (receiver, ·))
  | .wait span =>
      if cluster.peers.all (cluster.isPunctual (cluster.clock.after span)) then
        some ({ cluster with clock := cluster.clock.after span }, [])
      else none
  | .crash peer =>
      match cluster.running? peer with
      | none => none
      | some state => some (cluster.put peer { state with running := false }, [])

/-- One deed after another, with all the news they cause. -/
def run (cluster : Cluster) : List Deed → Option (Cluster × List News)
  | [] => some (cluster, [])
  | deed :: deeds =>
      match cluster.perform deed with
      | none => none
      | some (next, news) =>
          match next.run deeds with
          | none => none
          | some (last, later) => some (last, news ++ later)

/-- Whether a deed, if it is a push, goes to a peer that the sender holds alive. -/
def isGossip (cluster : Cluster) : Deed → Bool
  | .push sender receiver =>
      match cluster.peers[sender]?, cluster.peers[receiver]? with
      | some source, some target => source.roster.alive.any (·.same target.roster.self)
      | _, _ => false
  | _ => true

/-- Whether all pushes of a run are gossip. -/
def onlyGossips (cluster : Cluster) : List Deed → Bool
  | [] => true
  | deed :: deeds =>
      cluster.isGossip deed &&
        match cluster.perform deed with
        | none => false
        | some (next, _) => next.onlyGossips deeds

/-- A cluster that a run of some deeds leads to. -/
def Reachable (cluster : Cluster) : Prop :=
  ∃ settings start deeds news, (founding settings start).run deeds = some (cluster, news)

/-- The member has crashed. -/
def Crashed (cluster : Cluster) (identity : Identity) : Prop :=
  ∃ peer ∈ cluster.peers, peer.running = false ∧ peer.roster.self.same identity = true

/-- The first of several deeds, and the rest. -/
theorem run_cons_eq_some
    {cluster last : Cluster}
    {deed : Deed}
    {deeds : List Deed}
    {news : List News}
    (ran : cluster.run (deed :: deeds) = some (last, news)) :
    ∃ next told later, cluster.perform deed = some (next, told) ∧
      next.run deeds = some (last, later) ∧ news = told ++ later := by
  rw [run] at ran
  split at ran
  · contradiction
  · rename_i next told performed
    split at ran
    · contradiction
    · rename_i final later ranRest
      obtain ⟨rfl, rfl⟩ := Prod.mk.inj (Option.some.inj ran)
      exact ⟨next, told, later, performed, ranRest, rfl⟩

theorem running?_eq_some_iff {cluster : Cluster} {peer : Nat} {state : Peer} :
    cluster.running? peer = some state ↔
      cluster.peers[peer]? = some state ∧ state.running = true := by
  rw [running?, Option.filter_eq_some_iff]

theorem mem_of_running?
    {cluster : Cluster}
    {peer : Nat}
    {state : Peer}
    (running : cluster.running? peer = some state) :
    state ∈ cluster.peers :=
  List.mem_of_getElem? (running?_eq_some_iff.mp running).1

/-- The state a running peer was given. -/
theorem running?_put_self
    {cluster : Cluster}
    {peer : Nat}
    {state : Peer}
    (running : cluster.running? peer = some state)
    (later : Peer)
    (active : later.running = true) :
    (cluster.put peer later).running? peer = some later := by
  have present := (running?_eq_some_iff.mp running).1
  rw [running?_eq_some_iff, put, getElem?_set_of_present present, if_pos rfl]
  exact ⟨rfl, active⟩

/-! ## What deeds do -/

/-- All that a deed can do. -/
inductive Effect (cluster : Cluster) : Deed → Cluster → List News → Prop
  | entered {identity}
      (new : ∀ peer ∈ cluster.peers, peer.roster.self.same identity = false) :
      Effect cluster (.enter identity)
        { cluster with peers := cluster.peers ++ [cluster.newcomer identity] } []
  | aged {peer state}
      (running : cluster.running? peer = some state)
      (canBeat : state.roster.CanBeat) :
      Effect cluster (.age peer)
        (cluster.put peer
          { state with roster := state.roster.aged cluster.clock, agedAt := cluster.clock })
        ((state.roster.agedChanges cluster.clock).map (peer, ·))
  | lost {sender receiver source}
      (sending : cluster.running? sender = some source)
      (crashed : cluster.running? receiver = none) :
      Effect cluster (.push sender receiver) cluster []
  | pushed {sender receiver source target}
      (sending : cluster.running? sender = some source)
      (receiving : cluster.running? receiver = some target) :
      Effect cluster (.push sender receiver)
        (cluster.put receiver { target with
          roster :=
            (target.roster.merge (source.roster.shared cluster.clock) cluster.clock).1 })
        ((target.roster.merge (source.roster.shared cluster.clock) cluster.clock).2.map
          (receiver, ·))
  | waited {span}
      (punctual : ∀ peer ∈ cluster.peers,
        cluster.isPunctual (cluster.clock.after span) peer = true) :
      Effect cluster (.wait span) { cluster with clock := cluster.clock.after span } []
  | crashed {peer state}
      (running : cluster.running? peer = some state) :
      Effect cluster (.crash peer) (cluster.put peer { state with running := false }) []

/-- Whatever is performed has one of these effects. -/
theorem effect_of_perform
    {cluster next : Cluster}
    {deed : Deed}
    {news : List News}
    (performed : cluster.perform deed = some (next, news)) :
    cluster.Effect deed next news := by
  cases deed with
  | enter identity =>
      rw [perform] at performed
      split at performed
      · contradiction
      · rename_i new
        obtain ⟨rfl, rfl⟩ := Prod.mk.inj (Option.some.inj performed)
        exact .entered (by simpa using new)
  | age peer =>
      rw [perform] at performed
      split at performed
      · contradiction
      · rename_i state running
        split at performed
        · contradiction
        · rename_i roster changes aged
          obtain ⟨canBeat, result⟩ := Roster.age_eq_ok_iff.mp aged
          obtain ⟨rfl, rfl⟩ := Prod.mk.inj result
          obtain ⟨rfl, rfl⟩ := Prod.mk.inj (Option.some.inj performed)
          exact .aged running canBeat
  | push sender receiver =>
      rw [perform] at performed
      split at performed
      · contradiction
      · rename_i sending crashed
        obtain ⟨rfl, rfl⟩ := Prod.mk.inj (Option.some.inj performed)
        exact .lost sending crashed
      · rename_i sending receiving
        obtain ⟨rfl, rfl⟩ := Prod.mk.inj (Option.some.inj performed)
        exact .pushed sending receiving
  | wait span =>
      rw [perform] at performed
      split at performed
      · rename_i punctual
        obtain ⟨rfl, rfl⟩ := Prod.mk.inj (Option.some.inj performed)
        exact .waited (List.all_eq_true.mp punctual)
      · contradiction
  | crash peer =>
      rw [perform] at performed
      split at performed
      · contradiction
      · rename_i state running
        obtain ⟨rfl, rfl⟩ := Prod.mk.inj (Option.some.inj performed)
        exact .crashed running

end Cluster
end GossipGroup
