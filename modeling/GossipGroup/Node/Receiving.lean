import GossipGroup.Node.Rounds
import GossipGroup.Transport.Failure

/-!
# How a node takes datagrams in

The receiver of a node takes in, one after the other, what the node's socket
has for it. A datagram that is longer than the settings allow is passed over;
any other is merged into the roster, or, if it cannot be read, stops the node.
Failures that say nothing about the node's own socket are passed over as well;
any other failure ends the receiver, but not the node.
-/

namespace GossipGroup

/-- What a node's socket has for it. -/
inductive Arrival
  | payload (bytes : List UInt8)
  | failure (kind : FailureKind)
  deriving DecidableEq, Inhabited

namespace Node

variable {listener : Type}

/-- The node after it has counted one more merged digest. -/
def countMerge (node : Node listener) : Node listener :=
  { node with
    statistics := { node.statistics with merged := node.statistics.merged + 1 } }

/-- A digest is merged into the roster, and the changes are published. -/
def absorb
    (node : Node listener)
    (now : Instant)
    (digest : Digest) : Reaction listener :=
  let (roster, changes) := node.roster.merge digest now
  node.countMerge.publish roster changes

/-- Whether the receiver is still taking datagrams in. -/
def isReceiving (node : Node listener) : Bool :=
  !node.stopped && node.receiver == .listening

/-- The bytes of a datagram are taken in. -/
def receivePayload
    (node : Node listener)
    (now : Instant)
    (bytes : List UInt8) : Reaction listener :=
  if node.settings.maxDatagram < bytes.length then .quiet node
  else
    match Digest.decode bytes with
    | .error error => .quiet { node with stopped := true, receiver := .refused error }
    | .ok digest => node.absorb now digest

/-- The node takes in what its socket has for it. A receiver that has ended
takes in nothing. -/
def receive
    (node : Node listener)
    (now : Instant)
    (arrival : Arrival) : Reaction listener :=
  if node.isReceiving then
    match arrival with
    | .payload bytes => node.receivePayload now bytes
    | .failure kind =>
        .quiet (if kind.isTransient then node else { node with receiver := .ended })
  else .quiet node

end Node
end GossipGroup
