import GossipGroup.Transport.Failure

/-!
# A network in memory

Sockets of one process that send datagrams to each other. An address is
registered to at most one socket. Datagrams are delivered at once and in order
to the socket registered at their target; without one they are lost. An address
can be killed: its socket is no longer registered and can no longer send, and
what was delivered to it before can still be received. Opening a killed address
again lifts the kill.
-/

namespace GossipGroup

/-- A socket on the network, from its opening until its owner drops it. -/
structure NetworkSocket where
  id : SocketId
  address : SocketAddress
  inbox : List Datagram
  deriving DecidableEq, Inhabited

/-- A network in memory. -/
structure Network where
  next : Nat
  sockets : List NetworkSocket
  /-- The socket that is registered at each address with an open socket. -/
  registered : List (SocketAddress × SocketId)
  killed : List SocketAddress
  deriving DecidableEq, Inhabited

namespace Network

/-- A network without sockets. -/
def empty : Network := ⟨0, [], [], []⟩

/-- The socket registered at an address. -/
def owner? (network : Network) (address : SocketAddress) : Option SocketId :=
  (network.registered.find? (·.1 = address)).map (·.2)

/-- A socket that has not been dropped. -/
def socket? (network : Network) (id : SocketId) : Option NetworkSocket :=
  network.sockets.find? (·.id = id)

/-- Open a socket at an address that has none. -/
def openAt
    (network : Network)
    (address : SocketAddress) : Except TransportError (SocketId × Network) :=
  match network.owner? address with
  | some _ => .error (.addressOpen address)
  | none =>
      .ok (⟨network.next⟩,
        { next := network.next + 1
          sockets := network.sockets ++ [⟨⟨network.next⟩, address, []⟩]
          registered := network.registered ++ [(address, ⟨network.next⟩)]
          killed := network.killed.filter (· ≠ address) })

/-- Kill an address, whether or not it has a socket. -/
def kill (network : Network) (address : SocketAddress) : Network :=
  { network with
    registered := network.registered.filter (·.1 ≠ address)
    killed := address :: network.killed.filter (· ≠ address) }

/-- Put a datagram into the inbox of a socket. -/
def deliver (network : Network) (id : SocketId) (datagram : Datagram) : Network :=
  { network with
    sockets := network.sockets.map fun socket =>
      if socket.id = id then { socket with inbox := socket.inbox ++ [datagram] }
      else socket }

/-- Send a datagram from a socket. It arrives at once if a socket is registered
at the target and is lost otherwise. -/
def send
    (network : Network)
    (id : SocketId)
    (target : SocketAddress)
    (payload : List UInt8) : Except TransportError Network :=
  match network.socket? id with
  | none => .error .socketClosed
  | some socket =>
      if socket.address ∈ network.killed then .error .socketKilled
      else
        match network.owner? target with
        | none => .ok network
        | some receiver => .ok (network.deliver receiver ⟨socket.address, payload⟩)

/-- Whether a socket is the one registered at its address. -/
def isRegistered (network : Network) (id : SocketId) : Bool :=
  network.registered.any (·.2 = id)

/-- Take the oldest datagram a socket has. A socket that is no longer
registered is closed once it has none left. -/
def receive (network : Network) (id : SocketId) : Reception × Network :=
  match network.socket? id with
  | none => (.closed, network)
  | some socket =>
      match socket.inbox with
      | [] => (if network.isRegistered id then .idle else .closed, network)
      | datagram :: rest =>
          (.datagram datagram,
            { network with
              sockets := network.sockets.map fun other =>
                if other.id = id then { other with inbox := rest } else other })

/-- The owner of a socket drops it. Its address is closed only if the socket is
still the one registered there. -/
def drop (network : Network) (id : SocketId) : Network :=
  { network with
    sockets := network.sockets.filter (·.id ≠ id)
    registered := network.registered.filter (·.2 ≠ id) }

/-- The addresses with an open socket. -/
def openAddresses (network : Network) : List SocketAddress :=
  network.registered.map (·.1)

end Network
end GossipGroup
