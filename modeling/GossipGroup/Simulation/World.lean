import GossipGroup.Simulation.Resident
import GossipGroup.Transport

/-!
# A world of nodes under a virtual clock

Several nodes on one transport. The clock stands still while the nodes act and
is moved on by whole milliseconds; then every job that is due runs, in the order
in which the jobs became due, and after that every receiver takes in what has
arrived, in the order in which they were first sent something. What can be seen
of all this from outside is recorded.

Random numbers come from a linear congruential generator. Its state is a value of
the world, so a world that is run again does the same again.
-/

namespace GossipGroup
namespace Simulation

/-- A source of random numbers. -/
structure Dice where
  state : UInt64
  deriving DecidableEq, Inhabited

namespace Dice

/-- The next random number. -/
def roll (dice : Dice) : Nat × Dice :=
  let state := dice.state * 6364136223846793005 + 1442695040888963407
  ((state >>> 33).toNat, ⟨state⟩)

/-- A number of random numbers. -/
def rolls : Nat → Dice → List Nat × Dice
  | 0, dice => ([], dice)
  | count + 1, dice =>
      let (number, dice) := dice.roll
      let (numbers, dice) := rolls count dice
      (number :: numbers, dice)

end Dice

/-- The world: the time, what carries the datagrams, and who lives in it. -/
structure World where
  /-- Milliseconds since the beginning. -/
  clock : Nat
  /-- The wall clock at the beginning, in milliseconds of the Unix era. -/
  wallOrigin : Int
  transport : Transport
  /-- Failures planted in the sends of the socket at an address. -/
  planted : List (SocketAddress × FailureKind)
  residents : List Resident
  /-- Sockets that belong to no node. -/
  bare : List (SocketAddress × SocketId)
  dice : Dice
  /-- Where datagrams went since the receivers last took in what had arrived,
  oldest first. -/
  targets : List SocketAddress
  /-- What has happened, the latest first. -/
  happenings : List Happening

namespace World

/-- A world without nodes. -/
def initial (wallOrigin : Int) (transport : Transport) : World :=
  { clock := 0, wallOrigin, transport, planted := [], residents := [], bare := []
    dice := ⟨0x9e3779b97f4a7c15⟩, targets := [], happenings := [] }

/-- The time on the monotonic clock of the nodes. -/
def now (world : World) : Instant := .ofMilliseconds world.clock

/-- The time on the wall clock. -/
def wallTime (world : World) : WallTime := ⟨world.wallOrigin + world.clock⟩

/-- Record happenings. -/
def record (world : World) (happenings : List Happening) : World :=
  { world with happenings := happenings.reverse ++ world.happenings }

/-- What has happened since it was last asked for, oldest first. -/
def taken (world : World) : List Happening × World :=
  (world.happenings.reverse, { world with happenings := [] })

/-- Put a resident back at its place. -/
def put (world : World) (place : Nat) (resident : Resident) : World :=
  { world with residents := world.residents.set place resident }

/-- Put a resident back at its place and record what has happened to it. -/
def putAll (world : World) (place : Nat) (outcome : Resident × List Happening) : World :=
  (world.put place outcome.1).record outcome.2

/-- The next random number. -/
def roll (world : World) : Nat × World :=
  let (number, dice) := world.dice.roll
  (number, { world with dice })

/-! ### Sockets -/

/-- The failure planted in the sends of the socket at an address. -/
def plantedAt? (world : World) (address : SocketAddress) : Option FailureKind :=
  (world.planted.find? (·.1 = address)).map (·.2)

/-- What comes of a resident's handing a datagram to its socket. -/
def attempt
    (world : World)
    (resident : Resident)
    (outgoing : Outgoing) : Except TransportError Transport :=
  match world.plantedAt? resident.address with
  | some kind => .error (.planted kind)
  | none => world.transport.send resident.socket outgoing.target outgoing.payload

/-- A resident hands a datagram to its socket. -/
def transmit
    (world : World)
    (resident : Resident)
    (outgoing : Outgoing) : Option TransportError × World :=
  let happening (failure : Option FailureKind) : Happening :=
    .sent world.clock resident.address outgoing.target outgoing.payload failure
  match world.attempt resident outgoing with
  | .ok transport =>
      let targets := world.targets ++ [outgoing.target]
      (none, { world with transport, targets }.record [happening none])
  | .error error => (some error, world.record [happening (some error.kind)])

/-- A resident hands datagrams to its socket and pays no heed to failures. -/
def transmitAll
    (world : World)
    (resident : Resident)
    (outgoing : List Outgoing) : World :=
  outgoing.foldl (fun world item => (world.transmit resident item).2) world

/-- The socket of a resident that nothing uses any more is released. -/
def releaseSpent (world : World) (place : Nat) : World :=
  match world.residents[place]? with
  | none => world
  | some resident =>
      if resident.isSpent then
        { world with transport := world.transport.release resident.socket }
      else world

/-! ### Jobs -/

/-- A number of rounds of gossip of a resident, one after the other. A round
that fails ends the job. -/
def gossipRounds (place : Nat) : Nat → World → World
  | 0, world => world
  | count + 1, world =>
      match world.residents[place]? with
      | none => world
      | some resident =>
          let (number, world) := world.roll
          match resident.node.gossip world.now number with
          | .error _ =>
              world.put place { resident with node := resident.node.loseRound, gossip := none }
          | .ok reaction =>
              gossipRounds place count
                ((world.putAll place (resident.after world.clock reaction)).transmitAll
                  resident reaction.outgoing)

/-- Run a job of the resident at a place. -/
def run (world : World) (due : DueJob) : World :=
  match world.residents[due.place]? with
  | none => world
  | some resident =>
      match due.job, resident.gossip, resident.negotiation with
      | .gossip, some timer, _ =>
          let (count, timer) := timer.fire world.now
          (gossipRounds due.place count
            (world.put due.place { resident with gossip := some timer })).releaseSpent due.place
      | .negotiation, _, some timer =>
          let (count, timer) := timer.fire world.now
          (world.put due.place { resident with negotiation := some timer }).transmitAll resident
            (List.replicate count (resident.node.negotiate world.now)).flatten
      | .election number, _, _ =>
          world.putAll due.place (resident.settleService world.clock number)
      | _, _, _ => world

/-- The jobs that are due, in the order in which they became due. -/
def dueJobs (world : World) : List DueJob :=
  (world.residents.zipIdx.flatMap fun (resident, place) =>
    resident.dueJobs world.now place).mergeSort fun left right => left.due ≤ right.due

/-! ### Receiving -/

/-- The receiver of the resident at a place takes in one arrival. -/
def arrive (place : Nat) (world : World) (arrival : Arrival) : World :=
  match world.residents[place]? with
  | none => world
  | some resident =>
      let outcome := resident.after world.clock (resident.node.receive world.now arrival)
      (world.putAll place outcome).record (resident.refusalNotes outcome.1)

/-- The receiver of the resident at a place takes in everything that has
arrived. -/
def receive (world : World) (place : Nat) : World :=
  match world.residents[place]? with
  | none => world
  | some resident =>
      if resident.node.isReceiving then
        let ((datagrams, closed), transport) := world.transport.drain resident.socket
        let payloads : List Arrival := datagrams.map fun datagram => .payload datagram.payload
        let ending : List Arrival := if closed then [.failure .notConnected] else []
        ((payloads ++ ending).foldl (arrive place) { world with transport }).releaseSpent place
      else world

/-- The places of the residents in the order in which their receivers take in
what has arrived: whoever was sent a datagram first comes first. -/
def receivers (world : World) : List Nat :=
  let rank (resident : Resident) : Nat := world.targets.idxOf resident.address
  (world.residents.zipIdx.mergeSort fun left right => rank left.1 ≤ rank right.1).map (·.2)

/-! ### Time -/

/-- Let everything that is due happen. -/
def settle (world : World) : World :=
  let ran := world.dueJobs.foldl run world
  { ran.receivers.foldl receive ran with targets := [] }

/-- Move the clock on and let everything that is due happen. -/
def elapse (world : World) (milliseconds : Nat) : World :=
  { world with clock := world.clock + milliseconds }.settle

/-- Move the clock on in a number of equal jumps. -/
def jumps (length : Nat) : Nat → World → World
  | 0, world => world
  | count + 1, world => jumps length count (world.elapse length)

/-- Move the clock on in jumps of the given length, the last one shorter. -/
def advance (world : World) (milliseconds length : Nat) : World :=
  let length := max length 1
  let jumped := jumps length (milliseconds / length) world
  let rest := milliseconds % length
  if rest = 0 then jumped else jumped.elapse rest

end World
end Simulation
end GossipGroup
