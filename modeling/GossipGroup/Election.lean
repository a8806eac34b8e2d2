import GossipGroup.Roster.Query
import GossipGroup.Subscribers

/-!
# Electing a leader

The leader of a group is its most senior live member. Every node elects for
itself, from its own roster, once after a while and again whenever the leader
it has elected departs, so nodes agree as soon as their rosters do. Listeners
hear each new leader, and a listener that subscribes hears the present one at
once.
-/

namespace GossipGroup

/-- What one node knows about the leader of its group. -/
structure Election (listener : Type) where
  self : Identity
  leader : Option Identity
  listeners : Subscribers listener
  /-- The subscription by which the election hears changes of the roster. -/
  observation : Option SubscriptionId
  deriving DecidableEq

/-- A leader is told to a listener. While the listener is called it may ask the
election who leads and whether the node itself does. -/
structure LeaderNews (listener : Type) where
  recipient : listener
  leader : Identity
  askedLeader : Option Identity
  askedIsLeader : Bool

namespace Election

variable {listener : Type}

/-- No leader has been elected and nobody listens. -/
def initial (self : Identity) : Election listener := ⟨self, none, .empty, none⟩

/-- Whether the node itself leads. -/
def isLeader (election : Election listener) : Bool :=
  match election.leader with
  | some leader => leader.same election.self
  | none => false

/-- What a listener is told about a leader. -/
def newsFor
    (election : Election listener)
    (leader : Identity)
    (recipient : listener) : LeaderNews listener :=
  ⟨recipient, leader, election.leader, election.isLeader⟩

/-- Whether an identity is the present leader. -/
def isLedBy (election : Election listener) (identity : Identity) : Bool :=
  match election.leader with
  | some leader => leader.same identity
  | none => false

/-- The most senior live member becomes the leader. Listeners hear of it if it
was not the leader before. -/
def elect
    (election : Election listener)
    (roster : Roster) : Election listener × List (LeaderNews listener) :=
  let chosen := roster.oldestAlive
  let elected := { election with leader := some chosen }
  (elected,
    if election.isLedBy chosen then []
    else elected.listeners.listeners.map (elected.newsFor chosen))

/-- Whether one of the changes is a departure of the present leader. -/
def losesLeader (election : Election listener) (changes : List Change) : Bool :=
  changes.any fun change =>
    election.isLedBy change.identity && change.transition.isDeparture

/-- Elect again if the leader is among those who departed. -/
def observe
    (election : Election listener)
    (roster : Roster)
    (changes : List Change) : Election listener × List (LeaderNews listener) :=
  if election.losesLeader changes then election.elect roster else (election, [])

/-- A listener subscribes and hears the present leader, if there is one. -/
def subscribe
    (election : Election listener)
    (newcomer : listener) :
    SubscriptionId × Election listener × List (LeaderNews listener) :=
  let (id, listeners) := election.listeners.subscribe newcomer
  let joined := { election with listeners }
  (id, joined,
    match joined.leader with
    | some leader => [joined.newsFor leader newcomer]
    | none => [])

/-- A listener is removed; the answer says whether it was there. -/
def unsubscribe
    (election : Election listener)
    (id : SubscriptionId) : Bool × Election listener :=
  let (present, listeners) := election.listeners.unsubscribe id
  (present, { election with listeners })

/-- Remember the subscription by which changes of the roster are heard. -/
def observing (election : Election listener) (id : SubscriptionId) : Election listener :=
  { election with observation := some id }

/-- Forget the leader and all listeners, and give back the subscription by
which changes of the roster were heard. -/
def reset (election : Election listener) :
    Option SubscriptionId × Election listener :=
  (election.observation,
    { election with
      leader := none
      listeners := election.listeners.clear
      observation := none })

end Election
end GossipGroup
