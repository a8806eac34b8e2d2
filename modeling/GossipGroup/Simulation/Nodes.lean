import GossipGroup.Simulation.World

/-!
# Nodes of a simulated world

Nodes are started, found, abandoned and shut down by their names, and recorders
listen to the changes of their rosters. Whatever becomes due by it happens
before the act is over.
-/

namespace GossipGroup
namespace Simulation
namespace World

/-- The last resident with a property, and its place. -/
def findLast? (world : World) (property : Resident → Bool) : Option (Nat × Resident) :=
  (world.residents.zipIdx.reverse.find? fun (resident, _) => property resident).map
    fun (resident, place) => (place, resident)

/-- The place and the resident of the node that is held under a name. -/
def find? (world : World) (name : String) : Option (Nat × Resident) :=
  world.findLast? fun resident => resident.held && resident.name == name

/-- The node that is held under a name. -/
def node? (world : World) (name : String) : Option (Node Ear) :=
  (world.find? name).map (·.2.node)

/-- The owner lets go of the node held under a name; its jobs go on. The answer
says whether there was one. -/
def abandon (world : World) (name : String) : Bool × World :=
  match world.find? name with
  | none => (false, world)
  | some (place, resident) =>
      (true, (world.put place { resident with held := false }).releaseSpent place)

/-- The notes about a socket that was opened: a host tells where it was bound, a
network in memory says nothing. -/
def openingNotes (world : World) (address : SocketAddress) : List Happening :=
  match world.transport with
  | .memory _ => []
  | .loopback _ => [.noted (.bound address)]

/-- Start a node under a name. Settings that cannot work are refused before
anything is opened; a node that is already held under the name is abandoned
once the new one has its socket. -/
def start
    (world : World)
    (name : String)
    (endpoints : Endpoints)
    (settings : Settings) : Except NodeError Identity × World :=
  match settings.fault? with
  | some error => (.error (.settings error), world)
  | none =>
      let node : Node Ear := .joining endpoints settings world.wallTime world.now
      let world := world.record [.noted (.joining node.identity)]
      match world.transport.openAt endpoints.listen settings.maxDatagram with
      | .error error => (.error (.transport error), world)
      | .ok (socket, transport) =>
          let (_, world) := { world with transport }.abandon name
          let settled :=
            { world with
              planted := world.planted.filter (·.1 ≠ endpoints.listen)
              residents := world.residents ++ [Resident.settling name node socket world.now] }
          (.ok node.identity,
            (settled.record (settled.openingNotes endpoints.listen ++
              [.noted (.connected node.identity)])).settle)

/-- Send the notices of a leaving node one after the other, until the socket
turns out to be gone. -/
def sendFarewell
    (resident : Resident) : List Outgoing → World → Option TransportError × World
  | [], world => (none, world)
  | outgoing :: rest, world =>
      match world.transmit resident outgoing with
      | (none, world) => sendFarewell resident rest world
      | (some error, world) =>
          if Node.endsFarewell error then (some error, world)
          else sendFarewell resident rest world

/-- Shut down the node held under a name: its jobs end, it says farewell and
its socket is released. -/
def shutdown (world : World) (name : String) : Option (Except NodeError Unit) × World :=
  match world.find? name with
  | none => (none, world)
  | some (place, resident) =>
      let leaving := { resident with node := resident.node.stop, held := false }.quieted
      let (numbers, dice) := world.dice.rolls leaving.node.roster.aliveOthers.length
      let world := ({ world with dice }.put place leaving).record
        [.noted (.shuttingDown leaving.node.identity)]
      let (failure, world) := sendFarewell leaving (leaving.node.farewell numbers) world
      (some (leaving.node.verdict failure), (world.releaseSpent place).settle)

/-- A recorder subscribes to the changes of a node's roster; the answer is its
number and the number of entries of the roster. -/
def subscribe (world : World) (name : String) : Option (Nat × Nat) × World :=
  match world.find? name with
  | none => (none, world)
  | some (place, resident) =>
      let number := resident.recorders.length
      let (id, node) := resident.node.subscribe (.recorder number)
      (some (number, node.roster.size),
        world.put place { resident with node, recorders := resident.recorders ++ [id] })

/-- A recorder is removed; the answer says whether it was there. -/
def unsubscribe (world : World) (name : String) (number : Nat) : Bool × World :=
  match world.find? name with
  | none => (false, world)
  | some (place, resident) =>
      match resident.recorders[number]? with
      | none => (false, world)
      | some id =>
          let (present, node) := resident.node.unsubscribe id
          (present, world.put place { resident with node })

/-- Wait until the watched list of a node has the given length, moving the
clock on by milliseconds, at most up to a limit. The answer is whether it came
to that, and how many milliseconds have passed, counted from those that had
passed before. -/
def awaitMembers (name : String) (count : Nat) :
    (limit passed : Nat) → World → Option (Bool × Nat) × World
  | 0, passed, world =>
      ((world.node? name).map fun node => (node.watched.length = count, passed), world)
  | limit + 1, passed, world =>
      match world.node? name with
      | none => (none, world)
      | some node =>
          if node.watched.length = count then (some (true, passed), world)
          else awaitMembers name count limit (passed + 1) (world.elapse 1)

end World
end Simulation
end GossipGroup
