import GossipGroup.Election
import GossipGroup.Node.Basic

/-!
# An election attached to a node

The service waits for a while after it was attached, so that the node can learn
who else is in the group. Then, in one step, it elects a leader from the node's
roster and subscribes to the changes of the roster. Closing it cancels an
election that is still to come and takes the subscription back.
-/

namespace GossipGroup

/-- How far an election service has come. -/
inductive ServicePhase
  | settling (due : Instant)
  | observing
  | closed
  deriving DecidableEq, Inhabited

/-- An election attached to a node. -/
structure ElectionService (listener : Type) where
  election : Election listener
  phase : ServicePhase

/-- Why an election service cannot be attached. -/
inductive ServiceError
  | nodeStopped
  deriving DecidableEq, Inhabited

/-- The text of a service error. -/
def ServiceError.message : ServiceError → String
  | .nodeStopped =>
      "Failed to initialised cluster extension: Cannot start leader election on a stopped node."

namespace ElectionService

variable {listener ear : Type}

/-- How long the service waits before its first election, unless it is told
otherwise. -/
def defaultSettleDelay : Span := .ofSeconds 3

/-- Attach an election to a node that has not been told to stop. -/
def attach
    (node : Node ear)
    (settleDelay : Span)
    (now : Instant) : Except ServiceError (ElectionService listener) :=
  if node.stopped then .error .nodeStopped
  else .ok ⟨.initial node.identity, .settling (now.after settleDelay.waited)⟩

/-- The wait is over: elect from the node's roster and subscribe to its
changes, by way of an ear that belongs to the service. -/
def settle
    (service : ElectionService listener)
    (node : Node ear)
    (own : ear) : ElectionService listener × Node ear × List (LeaderNews listener) :=
  match service.phase with
  | .observing | .closed => (service, node, [])
  | .settling _ =>
      let (election, news) := service.election.elect node.roster
      let (id, node) := node.subscribe own
      (⟨election.observing id, .observing⟩, node, news)

/-- The node tells the service of changes to its roster. -/
def observe
    (service : ElectionService listener)
    (roster : Roster)
    (changes : List Change) : ElectionService listener × List (LeaderNews listener) :=
  let (election, news) := service.election.observe roster changes
  ({ service with election }, news)

/-- Close the service: no election is to come, no leader is known, nobody
listens and the node's changes are no longer heard. -/
def close
    (service : ElectionService listener)
    (node : Node ear) : ElectionService listener × Node ear :=
  let (observation, election) := service.election.reset
  (⟨election, .closed⟩,
    match observation with
    | some id => (node.unsubscribe id).2
    | none => node)

end ElectionService
end GossipGroup
