import GossipGroup.Simulation.Nodes

/-!
# Elections in a simulated world

Election services are attached to nodes and closed, and recorders listen to the
leaders they announce. The service of a node is the one that was attached to it
last; it can be asked even after the node is gone.
-/

namespace GossipGroup
namespace Simulation
namespace World

/-- The place and the resident of a node, and the number and the service that
was attached to it last. -/
def findService? (world : World) (name : String) :
    Option (Nat × Resident × Nat × ElectionService Nat) := do
  let (place, resident) ←
    world.findLast? fun resident => resident.name == name && !resident.services.isEmpty
  let service ← resident.services.getLast?
  return (place, resident, resident.services.length - 1, service)

/-- The election of a node. -/
def election? (world : World) (name : String) : Option (Election Nat) :=
  (world.findService? name).map fun (_, _, _, service) => service.election

/-- Attach an election service to a node. -/
def attachService
    (world : World)
    (name : String)
    (settleDelay : Span) : Option (Except ServiceError Unit) × World :=
  match world.find? name with
  | none => (none, world)
  | some (place, resident) =>
      match ElectionService.attach resident.node settleDelay world.now with
      | .error error => (some (.error error), world)
      | .ok service =>
          let attached := { resident with services := resident.services ++ [service] }
          (some (.ok ()),
            ((world.put place attached).record
              [.noted (.electing resident.node.identity)]).settle)

/-- A recorder subscribes to the leaders of a node's election; the answer is its
number. -/
def subscribeLeader (world : World) (name : String) : Option Nat × World :=
  match world.findService? name with
  | none => (none, world)
  | some (place, resident, number, service) =>
      let recorder := service.election.listeners.next
      let (id, election, news) := service.election.subscribe recorder
      let services := resident.services.set number { service with election }
      (some id.number,
        world.putAll place
          ({ resident with services }, resident.leaderHappenings world.clock news))

/-- A recorder of leaders is removed; the answer says whether it was there. -/
def unsubscribeLeader (world : World) (name : String) (recorder : Nat) : Bool × World :=
  match world.findService? name with
  | none => (false, world)
  | some (place, resident, number, service) =>
      let (present, election) := service.election.unsubscribe ⟨recorder⟩
      let services := resident.services.set number { service with election }
      (present, world.put place { resident with services })

/-- Close the election service of a node; the answer says whether it had one. -/
def closeService (world : World) (name : String) : Bool × World :=
  match world.findService? name with
  | none => (false, world)
  | some (place, resident, number, service) =>
      let (closed, node) := service.close resident.node
      let services := resident.services.set number closed
      (true,
        world.putAll place
          ({ resident with node, services }, [.noted (.electionStopped node.identity)]))

end World
end Simulation
end GossipGroup
