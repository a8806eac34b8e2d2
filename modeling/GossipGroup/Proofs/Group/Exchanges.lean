import GossipGroup.Proofs.Group.Nodes
import GossipGroup.Proofs.Roster.Runs

/-!
# A closed group exchanging digests

A group is a number of nodes and every digest that any of them has ever sent.
Digests are never taken out again, so a node may hear each of them late, many
times, in any order or not at all. A node that stops sends its leave notice and
does nothing more. A deed that is not possible, such as one of a node that has
stopped, changes nothing.
-/

namespace GossipGroup

/-- What a node starts with. -/
structure Charter where
  self : Identity
  failTimeout : Span
  cleanupTimeout : Span
  start : Instant
  leaveMargin : UInt64

/-- A node of a group. -/
structure Participant where
  charter : Charter
  roster : Roster
  stopped : Bool

/-- A node that knows only itself. -/
def Charter.participant (charter : Charter) : Participant where
  charter := charter
  roster := .founding charter.self charter.failTimeout charter.cleanupTimeout charter.start
  stopped := false

/-- The nodes of a group, and all digests that were ever sent. -/
structure Group where
  participants : List Participant
  sent : List Digest

namespace Group

/-- A group of nodes that have not heard of each other. -/
def founding (charters : List Charter) : Group := ⟨charters.map (·.participant), []⟩

/-- Who the nodes of a group are. -/
def selves (group : Group) : List Identity :=
  group.participants.map (·.roster.self)

/-- What the nodes of a group started with. -/
def charters (group : Group) : List Charter :=
  group.participants.map (·.charter)

/-- What a node of a group can do. -/
inductive Deed
  /-- The node ages its roster. -/
  | age (node : Nat) (now : Instant)
  /-- The node sends what its roster shares. -/
  | share (node : Nat) (now : Instant)
  /-- The node merges a digest that was sent. -/
  | hear (node message : Nat) (now : Instant)
  /-- The node stops and sends its leave notice. -/
  | leave (node : Nat)
  deriving DecidableEq

/-- The node that does a deed. -/
def Deed.actor : Deed → Nat
  | .age node _ | .share node _ | .hear node _ _ | .leave node => node

/-- Whether a deed counts up the heartbeat of a node. -/
def Deed.beats (deed : Deed) (node : Nat) : Bool :=
  match deed with
  | .age actor _ => actor == node
  | _ => false

theorem Deed.actor_eq_of_beats
    {deed : Deed}
    {node : Nat}
    (beating : deed.beats node = true) :
    deed.actor = node := by
  cases deed with
  | age actor now => exact beq_iff_eq.mp beating
  | share actor now => contradiction
  | hear actor message now => contradiction
  | leave actor => contradiction

/-- A node that has not stopped. -/
def running? (group : Group) (node : Nat) : Option Participant :=
  group.participants[node]?.filter fun participant => !participant.stopped

/-- The group with another state of one node. -/
def put (group : Group) (node : Nat) (participant : Participant) : Group :=
  { group with participants := group.participants.set node participant }

/-- The group after a digest was sent. -/
def post (group : Group) (digest : Digest) : Group :=
  { group with sent := group.sent ++ [digest] }

/-- What a deed makes of a group, and the changes the node tells. -/
def perform (group : Group) : Deed → Except Roster.AgeError (Group × List Change)
  | .age node now =>
      match group.running? node with
      | none => .ok (group, [])
      | some participant =>
          match participant.roster.age now with
          | .ok (roster, changes) => .ok (group.put node { participant with roster }, changes)
          | .error error => .error error
  | .share node now =>
      match group.running? node with
      | none => .ok (group, [])
      | some participant => .ok (group.post (participant.roster.shared now), [])
  | .hear node message now =>
      match group.running? node, group.sent[message]? with
      | some participant, some digest =>
          let (roster, changes) := participant.roster.merge digest now
          .ok (group.put node { participant with roster }, changes)
      | _, _ => .ok (group, [])
  | .leave node =>
      match group.running? node with
      | none => .ok (group, [])
      | some participant =>
          .ok ((group.put node { participant with stopped := true }).post
            (participant.roster.leaveNotice participant.charter.leaveMargin), [])

/-- One deed after another, as long as heartbeats can be counted up. -/
def run (group : Group) : List Deed → Except Roster.AgeError Group
  | [] => .ok group
  | deed :: deeds =>
      match group.perform deed with
      | .ok (next, _) => next.run deeds
      | .error error => .error error

theorem running?_eq_some_iff {group : Group} {node : Nat} {participant : Participant} :
    group.running? node = some participant ↔
      group.participants[node]? = some participant ∧ participant.stopped = false := by
  rw [running?, Option.filter_eq_some_iff, Bool.not_eq_true']

theorem mem_of_running?
    {group : Group}
    {node : Nat}
    {participant : Participant}
    (running : group.running? node = some participant) :
    participant ∈ group.participants :=
  List.mem_of_getElem? (running?_eq_some_iff.mp running).1

/-! ## What deeds do -/

/-- All that a deed can do. -/
inductive Effect (group : Group) : Deed → Group → List Change → Prop
  | absent {deed}
      (absent : group.running? deed.actor = none) :
      Effect group deed group []
  | unsent {node message now}
      (unsent : group.sent[message]? = none) :
      Effect group (.hear node message now) group []
  | aged {node now participant}
      (running : group.running? node = some participant)
      (canBeat : participant.roster.CanBeat) :
      Effect group (.age node now)
        (group.put node { participant with roster := participant.roster.aged now })
        (participant.roster.agedChanges now)
  | shared {node now participant}
      (running : group.running? node = some participant) :
      Effect group (.share node now) (group.post (participant.roster.shared now)) []
  | heard {node message now participant digest}
      (running : group.running? node = some participant)
      (sent : group.sent[message]? = some digest) :
      Effect group (.hear node message now)
        (group.put node
          { participant with roster := (participant.roster.merge digest now).1 })
        (participant.roster.merge digest now).2
  | left {node participant}
      (running : group.running? node = some participant) :
      Effect group (.leave node)
        ((group.put node { participant with stopped := true }).post
          (participant.roster.leaveNotice participant.charter.leaveMargin)) []

/-- Whatever is performed has one of these effects. -/
theorem effect_of_perform
    {group next : Group}
    {deed : Deed}
    {changes : List Change}
    (performed : group.perform deed = .ok (next, changes)) :
    group.Effect deed next changes := by
  cases deed with
  | age node now =>
      rw [perform] at performed
      split at performed
      · rename_i absent
        obtain ⟨rfl, rfl⟩ := Prod.mk.inj (Except.ok.inj performed)
        exact .absent absent
      · rename_i participant running
        split at performed
        · rename_i roster told aged
          obtain ⟨canBeat, result⟩ := Roster.age_eq_ok_iff.mp aged
          obtain ⟨rfl, rfl⟩ := Prod.mk.inj result
          obtain ⟨rfl, rfl⟩ := Prod.mk.inj (Except.ok.inj performed)
          exact .aged running canBeat
        · contradiction
  | share node now =>
      rw [perform] at performed
      split at performed
      · rename_i absent
        obtain ⟨rfl, rfl⟩ := Prod.mk.inj (Except.ok.inj performed)
        exact .absent absent
      · rename_i participant running
        obtain ⟨rfl, rfl⟩ := Prod.mk.inj (Except.ok.inj performed)
        exact .shared running
  | hear node message now =>
      rw [perform] at performed
      cases running : group.running? node with
      | none =>
          simp only [running, Except.ok.injEq, Prod.mk.injEq] at performed
          obtain ⟨rfl, rfl⟩ := performed
          exact .absent running
      | some participant =>
          cases sent : group.sent[message]? with
          | none =>
              simp only [running, sent, Except.ok.injEq, Prod.mk.injEq] at performed
              obtain ⟨rfl, rfl⟩ := performed
              exact .unsent sent
          | some digest =>
              simp only [running, sent, Except.ok.injEq, Prod.mk.injEq] at performed
              obtain ⟨rfl, rfl⟩ := performed
              exact .heard running sent
  | leave node =>
      rw [perform] at performed
      split at performed
      · rename_i absent
        obtain ⟨rfl, rfl⟩ := Prod.mk.inj (Except.ok.inj performed)
        exact .absent absent
      · rename_i participant running
        obtain ⟨rfl, rfl⟩ := Prod.mk.inj (Except.ok.inj performed)
        exact .left running

theorem running?_put
    {group : Group}
    {node : Nat}
    {participant : Participant}
    (present : group.participants[node]? = some participant)
    (later : Participant)
    (other : Nat) :
    (group.put node later).running? other =
      if node = other then (some later).filter (fun state => !state.stopped)
      else group.running? other := by
  rw [running?, put, getElem?_set_of_present present]
  split <;> rfl

/-- Deeds change neither who the nodes are nor what they started with. -/
theorem Effect.constant
    {group next : Group}
    {deed : Deed}
    {changes : List Change}
    (effect : group.Effect deed next changes) :
    next.selves = group.selves ∧ next.charters = group.charters := by
  have unchanged : ∀ {node participant later}, group.running? node = some participant →
      later.roster.self = participant.roster.self → later.charter = participant.charter →
        (group.put node later).selves = group.selves ∧
          (group.put node later).charters = group.charters := by
    intro node participant later running sameSelf sameCharter
    have present := (running?_eq_some_iff.mp running).1
    exact ⟨map_set_of_present present sameSelf, map_set_of_present present sameCharter⟩
  cases effect with
  | absent absent => exact ⟨rfl, rfl⟩
  | unsent unsent => exact ⟨rfl, rfl⟩
  | aged running canBeat => exact unchanged running rfl rfl
  | shared running => exact ⟨rfl, rfl⟩
  | heard running sent => exact unchanged running rfl rfl
  | left running => exact unchanged running rfl rfl

end Group
end GossipGroup
