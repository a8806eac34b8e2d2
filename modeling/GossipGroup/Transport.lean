import GossipGroup.Transport.Loopback
import GossipGroup.Transport.Network

/-!
# The transport of a node

Nodes push their digests over unreliable datagrams and need nothing of a
transport but that it opens sockets, sends and receives. It is either a network
in memory or the datagram sockets of a host.
-/

namespace GossipGroup

/-- What carries the datagrams of a group of nodes. -/
inductive Transport
  | memory (network : Network)
  | loopback (host : Loopback)
  deriving DecidableEq, Inhabited

namespace Transport

/-- Open a socket at an address. A host's socket has room for datagrams of the
given size; a network in memory delivers datagrams whole. -/
def openAt
    (transport : Transport)
    (address : SocketAddress)
    (room : Nat) : Except TransportError (SocketId × Transport) :=
  match transport with
  | .memory network =>
      (network.openAt address).map fun (id, network) => (id, .memory network)
  | .loopback host => (host.bind address room).map fun (id, host) => (id, .loopback host)

/-- Send a datagram from a socket. -/
def send
    (transport : Transport)
    (id : SocketId)
    (target : SocketAddress)
    (payload : List UInt8) : Except TransportError Transport :=
  match transport with
  | .memory network => (network.send id target payload).map .memory
  | .loopback host => (host.send id target payload).map .loopback

/-- Take what a socket has for its owner. -/
def receive (transport : Transport) (id : SocketId) : Reception × Transport :=
  match transport with
  | .memory network =>
      let (reception, network) := network.receive id
      (reception, .memory network)
  | .loopback host =>
      let (reception, host) := host.receive id
      (reception, .loopback host)

/-- The number of datagrams that wait for the owner of a socket. -/
def waiting (transport : Transport) (id : SocketId) : Nat :=
  match transport with
  | .memory network => (network.socket? id).elim 0 (·.inbox.length)
  | .loopback host => (host.socket? id).elim 0 (·.inbox.length)

/-- Give a socket up. -/
def release (transport : Transport) (id : SocketId) : Transport :=
  match transport with
  | .memory network => .memory (network.drop id)
  | .loopback host => .loopback (host.close id)

/-- Kill an address of a network in memory; hosts have nothing of the kind. -/
def kill (transport : Transport) (address : SocketAddress) : Transport :=
  match transport with
  | .memory network => .memory (network.kill address)
  | .loopback host => .loopback host

/-- The addresses with an open socket. -/
def openAddresses : Transport → List SocketAddress
  | .memory network => network.openAddresses
  | .loopback host => host.boundAddresses

/-- Take everything a socket has, and whether it is closed after that. -/
def drain (transport : Transport) (id : SocketId) : (List Datagram × Bool) × Transport :=
  go (transport.waiting id) transport
where
  /-- Receive a bounded number of datagrams, and then look once more. -/
  go : Nat → Transport → (List Datagram × Bool) × Transport
    | 0, transport =>
        match transport.receive id with
        | (.closed, transport) => (([], true), transport)
        | (_, transport) => (([], false), transport)
    | bound + 1, transport =>
        match transport.receive id with
        | (.datagram datagram, transport) =>
            let ((rest, closed), transport) := go bound transport
            ((datagram :: rest, closed), transport)
        | (.closed, transport) => (([], true), transport)
        | (.idle, transport) => (([], false), transport)

end Transport
end GossipGroup
