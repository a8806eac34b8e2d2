import GossipGroup.Node.Basic

/-!
# The rounds of a node

A node acts on its own at two times. A round of gossip ages the roster,
publishes the changes and pushes the node's digest to one live member chosen at
random. A round of negotiation pushes the digest to the introducer, so that a
node that is new to the group, or was cut off from it, is found again. A digest
that cannot be written, or whose bytes are longer than the settings allow, is not
sent in either.

A round of gossip fails when the node's own heartbeat cannot be counted up. The
node then loses the entries of its roster and is not stopped by it.

Choices are made by random numbers that the caller supplies, so that every
statement about a choice can be made for all numbers.
-/

namespace GossipGroup

/-- One of the choices, at the place that a random number gives. -/
def pick {α : Type} (number : Nat) (choices : List α) : Option α :=
  choices[number % choices.length]?

namespace Node

variable {listener : Type}

/-- Publish a new roster and the changes that led to it: first the statistics
are brought up to date, then every listener is told in the order of
subscription, then the watched list follows. Without changes there is nothing
to tell and nothing to watch. -/
def publish
    (node : Node listener)
    (roster : Roster)
    (changes : List Change) : Reaction listener :=
  let counted := { node with roster, statistics := node.statistics.recording roster }
  match changes with
  | [] => .quiet counted
  | _ :: _ =>
      { node := { counted with watched := roster.alive }
        changes
        news := node.subscribers.listeners.map fun recipient => ⟨recipient, changes, roster⟩
        outgoing := [] }

/-- The datagram that carries a digest, if it can be written and is no longer than
the settings allow. -/
def parcel
    (node : Node listener)
    (target : SocketAddress)
    (digest : Digest) : List Outgoing :=
  match digest.encode with
  | .error _ => []
  | .ok payload =>
      if node.settings.maxDatagram < payload.length then [] else [⟨target, payload⟩]

/-- The node after it has counted one more round of gossip. -/
def countRound (node : Node listener) : Node listener :=
  { node with
    statistics := { node.statistics with rounds := node.statistics.rounds + 1 } }

/-- A round of gossip. The random number chooses the live member that the
digest is pushed to; if the node knows of no other, nothing is sent. -/
def gossip
    (node : Node listener)
    (now : Instant)
    (number : Nat) : Except Roster.AgeError (Reaction listener) :=
  (node.roster.age now).map fun (roster, changes) =>
    let reaction := node.countRound.publish roster changes
    { reaction with
      outgoing :=
        match pick number roster.aliveOthers with
        | none => []
        | some peer => node.parcel peer.address (roster.shared now) }

/-- The node after a round of gossip that failed. The round is not counted and
nothing is published, but the entries that were being aged are lost. -/
def loseRound (node : Node listener) : Node listener :=
  { node with roster := node.roster.emptied }

/-- A round of negotiation. -/
def negotiate (node : Node listener) (now : Instant) : List Outgoing :=
  node.parcel node.endpoints.introducer (node.roster.shared now)

end Node
end GossipGroup
