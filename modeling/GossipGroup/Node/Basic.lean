import GossipGroup.Digest.Decoding
import GossipGroup.Roster.Query
import GossipGroup.Settings
import GossipGroup.Subscribers

/-!
# A node of the group

A node keeps a roster, counts what it does and holds the listeners that want to
hear of changes to the roster. Beside them it keeps the list of live members as
it was last published, which others may watch instead of listening.
-/

namespace GossipGroup

/-- Counts that a node keeps about its roster and its work. -/
structure Statistics where
  alive : Nat
  failed : Nat
  left : Nat
  rounds : Nat
  merged : Nat
  deriving DecidableEq, Inhabited

namespace Statistics

/-- No work has been done and nobody is known. -/
def blank : Statistics := ⟨0, 0, 0, 0, 0⟩

/-- The statistics with the counts of a roster. -/
def recording (statistics : Statistics) (roster : Roster) : Statistics :=
  { statistics with
    alive := roster.count .alive
    failed := roster.count .failed
    left := roster.count .left }

end Statistics

/-- What a node's receiver is doing: listening, or ended, possibly because of a
datagram that could not be read. -/
inductive Receiver
  | listening
  | ended
  | refused (error : DecodeError)
  deriving DecidableEq, Inhabited

/-- A node of the group, with listeners of a type of the caller's choice. -/
structure Node (listener : Type) where
  identity : Identity
  endpoints : Endpoints
  settings : Settings
  roster : Roster
  statistics : Statistics
  subscribers : Subscribers listener
  /-- The live members as last published. -/
  watched : List Identity
  /-- Whether the node has been told to stop. -/
  stopped : Bool
  receiver : Receiver

/-- A batch of changes is told to a listener, with the roster as it stands
right after them. -/
structure RosterNews (listener : Type) where
  recipient : listener
  changes : List Change
  roster : Roster

/-- A datagram that a node hands to its socket. -/
structure Outgoing where
  target : SocketAddress
  payload : List UInt8
  deriving DecidableEq, Inhabited

/-- A node after it reacted, the changes of its roster, what its listeners are
told of them and what it sends. -/
structure Reaction (listener : Type) where
  node : Node listener
  changes : List Change
  news : List (RosterNews listener)
  outgoing : List Outgoing

namespace Node

variable {listener : Type}

/-- A node that joins the group: its roster holds nobody else, and nobody
listens yet. -/
def joining
    (endpoints : Endpoints)
    (settings : Settings)
    (wallTime : WallTime)
    (now : Instant) : Node listener :=
  let identity := Identity.joining endpoints.advertised wallTime
  let roster := Roster.founding identity settings.failTimeout settings.cleanupTimeout now
  { identity, endpoints, settings, roster
    statistics := Statistics.blank.recording roster
    subscribers := .empty
    watched := roster.alive
    stopped := false
    receiver := .listening }

/-- A listener subscribes to the changes of the roster. -/
def subscribe
    (node : Node listener)
    (newcomer : listener) : SubscriptionId × Node listener :=
  let (id, subscribers) := node.subscribers.subscribe newcomer
  (id, { node with subscribers })

/-- A listener is removed; the answer says whether it was there. -/
def unsubscribe
    (node : Node listener)
    (id : SubscriptionId) : Bool × Node listener :=
  let (present, subscribers) := node.subscribers.unsubscribe id
  (present, { node with subscribers })

/-- The node is told to stop. -/
def stop (node : Node listener) : Node listener := { node with stopped := true }

end Node

/-- The reaction of a node whose roster stays as it is. -/
def Reaction.quiet {listener : Type} (node : Node listener) : Reaction listener :=
  ⟨node, [], [], []⟩

end GossipGroup
