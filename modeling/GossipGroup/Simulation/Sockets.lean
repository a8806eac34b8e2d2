import GossipGroup.Simulation.World

/-!
# Bare sockets and failures in a simulated world

Sockets that belong to no node are opened and used by their addresses, addresses
are killed, and failures are planted in the sockets of nodes. Whatever becomes
due by it happens before the act is over.
-/

namespace GossipGroup
namespace Simulation
namespace World

/-- The bare socket at an address. -/
def bareAt? (world : World) (address : SocketAddress) : Option SocketId :=
  (world.bare.find? (·.1 = address)).map (·.2)

/-- Give up the bare socket at an address; the answer says whether there was
one. -/
def closeBare (world : World) (address : SocketAddress) : Bool × World :=
  match world.bareAt? address with
  | none => (false, world)
  | some id =>
      (true, { world with
        transport := world.transport.release id
        bare := world.bare.filter (·.1 ≠ address) })

/-- Open a bare socket at an address, in place of one that was killed there. -/
def openBare
    (world : World)
    (address : SocketAddress)
    (room : Nat) : Except TransportError Unit × World :=
  match world.transport.openAt address room with
  | .error error => (.error error, world)
  | .ok (id, transport) =>
      let (_, world) := { world with transport }.closeBare address
      (.ok (), { world with bare := world.bare ++ [(address, id)] })

/-- Send a datagram from the bare socket at an address. -/
def sendBare
    (world : World)
    (sender target : SocketAddress)
    (payload : List UInt8) : Except TransportError Unit × World :=
  match world.bareAt? sender with
  | none => (.error .socketClosed, world)
  | some id =>
      match world.transport.send id target payload with
      | .error error => (.error error, world)
      | .ok transport => (.ok (), { world with transport }.settle)

/-- Take everything the bare socket at an address has, and whether it is closed
after that. -/
def receiveBare
    (world : World)
    (address : SocketAddress) : (List Datagram × Bool) × World :=
  match world.bareAt? address with
  | none => (([], false), world)
  | some id =>
      let (taken, transport) := world.transport.drain id
      (taken, { world with transport })

/-- A datagram from outside the world arrives at a socket of the host. -/
def inject (world : World) (target : SocketAddress) (datagram : Datagram) : World :=
  match world.transport with
  | .loopback host =>
      { world with transport := .loopback (host.deliver target datagram) }.settle
  | .memory _ => world

/-- Kill an address. -/
def kill (world : World) (address : SocketAddress) : World :=
  { world with transport := world.transport.kill address }.settle

/-- Let all sends of the socket at an address fail, or no longer. -/
def plantSendFailure
    (world : World)
    (address : SocketAddress)
    (kind : Option FailureKind) : World :=
  let others := world.planted.filter (·.1 ≠ address)
  match kind with
  | some kind => { world with planted := (address, kind) :: others }
  | none => { world with planted := others }

/-- Let the next receive of the node that opened an address last fail, at
once. -/
def plantReceiveFailure
    (world : World)
    (address : SocketAddress)
    (kind : FailureKind) : World :=
  match world.residents.zipIdx.reverse.find? fun (resident, _) =>
      resident.address = address with
  | none => world
  | some (_, place) => ((arrive place world (.failure kind)).releaseSpent place).settle

end World
end Simulation
end GossipGroup
