import GossipGroup.Proofs.Node.Sending
import GossipGroup.Proofs.Transport.Rooms

/-!
# A node at its socket

A node that starts opens a socket where it listens. From then on it hands its datagrams
to the socket and takes in what the socket hands over, while others use the transport as
they like. When the node is told to stop, its jobs may still finish what they have begun,
and only then it takes its leave.
-/

namespace GossipGroup

/-- A node, its socket, and what carries its datagrams. -/
structure Station (listener : Type) where
  node : Node listener
  socket : SocketId
  transport : Transport

namespace Node

variable {listener : Type}

/-- The node after its receiver has done with what has arrived. Whether the node has been
told to stop in the meantime makes no difference to it. -/
def hear (node : Node listener) (now : Instant) (arrival : Arrival) : Node listener :=
  if node.receiver = .listening then
    match arrival with
    | .payload bytes => (node.receivePayload now bytes).node
    | .failure kind => if kind.isTransient then node else { node with receiver := .ended }
  else node

/-- As long as the node has not been told to stop, it takes in what arrives. -/
theorem hear_eq_receive
    {node : Node listener}
    (running : node.stopped = false)
    (now : Instant)
    (arrival : Arrival) :
    node.hear now arrival = (node.receive now arrival).node := by
  have same : node.isReceiving = true ↔ node.receiver = .listening := by
    simp [isReceiving, running]
  simp only [hear, receive, same]
  split
  · cases arrival <;> rfl
  · rfl

theorem settings_hear (node : Node listener) (now : Instant) (arrival : Arrival) :
    (node.hear now arrival).settings = node.settings := by
  unfold hear
  split
  · cases arrival with
    | payload bytes => exact (node.sameSetup_receivePayload now bytes).settings
    | failure kind =>
        dsimp only
        split <;> rfl
  · rfl

end Node

namespace Station

variable {listener : Type}

/-- Start a node: its settings are checked before its socket is opened. -/
def connect
    (transport : Transport)
    (endpoints : Endpoints)
    (settings : Settings)
    (wallTime : WallTime)
    (now : Instant) : Except NodeError (Station listener) :=
  match settings.fault? with
  | some error => .error (.settings error)
  | none =>
      match transport.openAt endpoints.listen settings.maxDatagram with
      | .error error => .error (.transport error)
      | .ok (socket, transport) => .ok ⟨.joining endpoints settings wallTime now, socket, transport⟩

/-- What can happen to a node at its socket. -/
inductive Event (listener : Type)
  /-- The node goes through a round of gossip. -/
  | round (now : Instant) (number : Nat)
  /-- The node goes through a round of negotiation. -/
  | negotiate (now : Instant)
  /-- The receiver asks the socket for what it has. -/
  | receive (now : Instant)
  /-- Somebody subscribes. -/
  | subscribe (newcomer : listener)
  /-- A subscription is given up. -/
  | unsubscribe (id : SubscriptionId)
  /-- The node is told to stop. -/
  | stop
  /-- Somebody else uses the transport. -/
  | elsewhere (request : Transport.Request)

/-- Datagrams are handed to the socket, whatever comes of it. -/
def handOver (station : Station listener) (outgoing : List Outgoing) : Station listener :=
  { station with
    transport := station.transport.serveAll
      (outgoing.map fun item => .send station.socket item.target item.payload) }

/-- The receiver takes in what the socket has. Once it has ended it asks for nothing. -/
def takeIn (station : Station listener) (now : Instant) : Station listener :=
  if station.node.receiver = .listening then
    match station.transport.receive station.socket with
    | (.datagram datagram, transport) =>
        { station with transport, node := station.node.hear now (.payload datagram.payload) }
    | (.closed, transport) =>
        { station with transport, node := station.node.hear now (.failure .notConnected) }
    | (.idle, transport) => { station with transport }
  else station

/-- What an event makes of a node at its socket. -/
def step (station : Station listener) : Event listener → Station listener
  | .round now number =>
      let reaction := station.node.undergo (.round now number)
      { station with node := reaction.node }.handOver reaction.outgoing
  | .negotiate now => station.handOver (station.node.negotiate now)
  | .receive now => station.takeIn now
  | .subscribe newcomer => { station with node := (station.node.subscribe newcomer).2 }
  | .unsubscribe id => { station with node := (station.node.unsubscribe id).2 }
  | .stop => { station with node := station.node.stop }
  | .elsewhere request => { station with transport := station.transport.serve request }

/-- One event after another. -/
def run (station : Station listener) : List (Event listener) → Station listener
  | [] => station
  | event :: events => (station.step event).run events

/-- The notices of a farewell are sent one after the other, until the socket turns out to
be gone. -/
def sendFarewell
    (socket : SocketId) : List Outgoing → Transport → Option TransportError × Transport
  | [], transport => (none, transport)
  | item :: rest, transport =>
      match transport.send socket item.target item.payload with
      | .ok transport => sendFarewell socket rest transport
      | .error error =>
          if Node.endsFarewell error then (some error, transport)
          else sendFarewell socket rest transport

/-- The node takes its leave and gives its socket up. -/
def leave
    (station : Station listener)
    (numbers : List Nat) : Except NodeError Unit × Transport :=
  let (failure, transport) :=
    sendFarewell station.socket (station.node.farewell numbers) station.transport
  (station.node.verdict failure, transport.release station.socket)

/-- Shut a node down: it is told to stop, its jobs finish what they have begun, and it
takes its leave. -/
def shutdown
    (station : Station listener)
    (last : List (Event listener))
    (numbers : List Nat) : Except NodeError Unit × Transport :=
  ((station.step .stop).run last).leave numbers

variable {station : Station listener} {transport : Transport} {endpoints : Endpoints}
  {settings : Settings} {wallTime : WallTime} {start : Instant}

/-- What a node starts with. -/
theorem connect_eq_ok
    (connected : connect transport endpoints settings wallTime start = .ok station) :
    settings.fault? = none ∧ station.node = .joining endpoints settings wallTime start ∧
      transport.openAt endpoints.listen settings.maxDatagram =
        .ok (station.socket, station.transport) := by
  rw [connect] at connected
  split at connected
  · contradiction
  · rename_i valid
    split at connected
    · contradiction
    · rename_i opened
      rw [← Except.ok.inj connected]
      exact ⟨valid, rfl, opened⟩

theorem run_append (station : Station listener) (events later : List (Event listener)) :
    station.run (events ++ later) = (station.run events).run later := by
  induction events generalizing station with
  | nil => rfl
  | cons event events inductionHypothesis => exact inductionHypothesis (station.step event)

/-! ## What stays as it is -/

/-- A station goes on: it is still the same node at the same socket, and its transport has
only been used. -/
structure Continues (station next : Station listener) : Prop where
  settings : next.node.settings = station.node.settings
  socket : next.socket = station.socket
  transport : station.transport.Continues next.transport

theorem Continues.refl (station : Station listener) : station.Continues station :=
  ⟨rfl, rfl, .refl station.transport⟩

theorem Continues.trans
    {next last : Station listener}
    (first : station.Continues next)
    (second : next.Continues last) :
    station.Continues last where
  settings := second.settings.trans first.settings
  socket := second.socket.trans first.socket
  transport := first.transport.trans second.transport

theorem continues_takeIn (station : Station listener) (now : Instant) :
    station.Continues (station.takeIn now) := by
  have used := station.transport.continues_receive station.socket
  unfold takeIn
  split
  · split
    all_goals
      rename_i received
      rw [received] at used
    · exact ⟨station.node.settings_hear now _, rfl, used⟩
    · exact ⟨station.node.settings_hear now _, rfl, used⟩
    · exact ⟨rfl, rfl, used⟩
  · exact Continues.refl station

theorem continues_step (station : Station listener) (event : Event listener) :
    station.Continues (station.step event) := by
  cases event with
  | round now number =>
      exact ⟨(station.node.keeps_round now number).settings, rfl,
        station.transport.continues_serveAll _⟩
  | negotiate now => exact ⟨rfl, rfl, station.transport.continues_serveAll _⟩
  | receive now => exact station.continues_takeIn now
  | subscribe newcomer => exact ⟨rfl, rfl, .refl station.transport⟩
  | unsubscribe id => exact ⟨rfl, rfl, .refl station.transport⟩
  | stop => exact ⟨rfl, rfl, .refl station.transport⟩
  | elsewhere request => exact ⟨rfl, rfl, station.transport.continues_serve request⟩

theorem continues_run (station : Station listener) (events : List (Event listener)) :
    station.Continues (station.run events) := by
  induction events generalizing station with
  | nil => exact Continues.refl station
  | cons event events inductionHypothesis =>
      exact (station.continues_step event).trans (inductionHypothesis (station.step event))

end Station
end GossipGroup
