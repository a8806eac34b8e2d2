import GossipGroup.Digest.Decoding
import GossipGroup.Transport.Failure

/-!
# What can be seen of a group from outside

Everything that nodes let be seen while they live in a simulated world: the
datagrams they send, the changes and leaders that their listeners are told of,
and the notes they write into their logs.
-/

namespace GossipGroup
namespace Simulation

/-- A note that a node writes into its log. -/
inductive Notice
  | joining (identity : Identity)
  | bound (address : SocketAddress)
  | connected (identity : Identity)
  | changed (identity : Identity) (change : Change)
  | electing (identity : Identity)
  | elected (identity leader : Identity)
  | electionStopped (identity : Identity)
  | unreadable (identity : Identity) (error : DecodeError)
  | shuttingDown (identity : Identity)
  deriving DecidableEq, Inhabited

namespace Notice

/-- A sentence of a log, with the node that it is about. -/
def about (identity : Identity) (sentence : String) : String :=
  sentence ++ " self_id=" ++ toString identity

/-- The text of a notice. -/
def text : Notice → String
  | .joining identity => about identity "Joining group."
  | .bound address => "Bound gossip socket. listen_addr=" ++ toString address
  | .connected identity => about identity "Membership node connected."
  | .changed identity change =>
      about identity "Membership has changed." ++ " change=" ++ change.text
  | .electing identity => about identity "Starting leader election."
  | .elected identity leader =>
      about identity "Elected new leader." ++ " leader=" ++ toString leader
  | .electionStopped identity => about identity "Leader election stopped."
  | .unreadable identity error =>
      about identity "Received a membership snapshot which could not be read. Stopping node." ++
        " error=" ++ error.message
  | .shuttingDown identity => about identity "Shutting down the node."

end Notice

/-- Something that can be seen from outside. Times are in milliseconds since the
beginning of the world, nodes are given by name and listeners by number. -/
inductive Happening
  | sent
      (time : Nat)
      (sender target : SocketAddress)
      (payload : List UInt8)
      (failure : Option FailureKind)
  | heard
      (time : Nat)
      (node : String)
      (recorder : Nat)
      (changes : List Change)
      (alive : List Identity)
  | led (time : Nat) (node : String) (recorder : Nat) (leader : Identity)
  | noted (notice : Notice)
  deriving DecidableEq, Inhabited

end Simulation
end GossipGroup
