import GossipGroup.Settings
import GossipGroup.Transport.Failure

/-!
# Datagram sockets of one host

The sockets of one host that reach each other over its loopback interface. A
datagram holds at most 65507 bytes. It is delivered at once, in order and
without loss while the link is up, and lost if nobody is bound to its target. A
receiver gets as many bytes of a datagram as it has room for. While the link is
down every send fails, and while it is bridged datagrams leave the host and are
carried by others.
-/

namespace GossipGroup

/-- The state of a host's loopback interface. -/
inductive Link
  | up
  | down
  | bridged
  deriving DecidableEq, Inhabited

/-- A bound datagram socket. -/
structure BoundSocket where
  id : SocketId
  address : SocketAddress
  /-- The number of bytes its receiver has room for. -/
  room : Nat
  inbox : List Datagram
  deriving DecidableEq, Inhabited

/-- The datagram sockets of one host. -/
structure Loopback where
  link : Link
  next : Nat
  sockets : List BoundSocket
  deriving DecidableEq, Inhabited

namespace Loopback

/-- A host without sockets. -/
def idle (link : Link) : Loopback := ⟨link, 0, []⟩

/-- A socket that is still bound. -/
def socket? (host : Loopback) (id : SocketId) : Option BoundSocket :=
  host.sockets.find? (·.id = id)

/-- Bind a socket to an address that is free, with room for datagrams of up to
the given number of bytes, and never more than a datagram can hold. -/
def bind
    (host : Loopback)
    (address : SocketAddress)
    (room : Nat) : Except TransportError (SocketId × Loopback) :=
  if host.sockets.any (·.address = address) then .error .addressBound
  else
    .ok (⟨host.next⟩,
      { host with
        next := host.next + 1
        sockets := host.sockets ++
          [⟨⟨host.next⟩, address, min room largestDatagram, []⟩] })

/-- A datagram arrives at whatever socket is bound to its target. -/
def deliver (host : Loopback) (target : SocketAddress) (datagram : Datagram) : Loopback :=
  { host with
    sockets := host.sockets.map fun socket =>
      if socket.address = target then { socket with inbox := socket.inbox ++ [datagram] }
      else socket }

/-- Send a datagram from a socket. -/
def send
    (host : Loopback)
    (id : SocketId)
    (target : SocketAddress)
    (payload : List UInt8) : Except TransportError Loopback :=
  match host.socket? id with
  | none => .error .socketClosed
  | some socket =>
      if largestDatagram < payload.length then .error .payloadTooLong
      else
        match host.link with
        | .down => .error .unreachable
        | .up => .ok (host.deliver target ⟨socket.address, payload⟩)
        | .bridged => .ok host

/-- Take the oldest datagram a socket has, as much of it as there is room for. -/
def receive (host : Loopback) (id : SocketId) : Reception × Loopback :=
  match host.socket? id with
  | none => (.closed, host)
  | some socket =>
      match socket.inbox with
      | [] => (.idle, host)
      | datagram :: rest =>
          (.datagram { datagram with payload := datagram.payload.take socket.room },
            { host with
              sockets := host.sockets.map fun other =>
                if other.id = id then { other with inbox := rest } else other })

/-- Close a socket, which frees its address. -/
def close (host : Loopback) (id : SocketId) : Loopback :=
  { host with sockets := host.sockets.filter (·.id ≠ id) }

/-- The addresses with a bound socket. -/
def boundAddresses (host : Loopback) : List SocketAddress :=
  host.sockets.map (·.address)

end Loopback
end GossipGroup
