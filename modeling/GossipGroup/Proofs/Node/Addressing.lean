import GossipGroup.Proofs.Identity.Comparison
import GossipGroup.Proofs.Node.Limits

/-!
# Whom a node sends to

A node chooses members by their identities, and never itself, but datagrams go to
addresses. As a process that comes back at an address is another member than the one
that was there before, a node that still holds an earlier one alive may choose it, and
then sends to its own address. There is no other way for it to do so.
-/

namespace GossipGroup

namespace Roster

end Roster

namespace Node

variable {listener : Type} {node : Node listener}

/-- What a guest takes in when it is told that the introducer is alive. -/
def introduction : List (Turn Nat) :=
  [.arrival ⟨10⟩ (.payload (Digest.bytes ⟨[⟨introducer.identity, 1, .alive⟩]⟩))]

end Node
end GossipGroup
