import GossipGroup.ElectionService
import GossipGroup.Node.Departure
import GossipGroup.Node.Receiving
import GossipGroup.Simulation.Happening

/-!
# Residents of a simulated world

A resident is a node that lives in a world under a name, with its socket, its
timers and its listeners. The listeners are recorders, whose calls are
happenings, and the election services attached to the node. A resident outlives
its owner's interest in it: its jobs go on until the node is stopped.

A timer fires when its due time has come and is then due one period after that
time, however late it fired. A timer that fires late by more than a grace of
five milliseconds instead leaves out the times it missed: it fires once and is
next due at the first multiple of its period that is still to come. A period is
never longer than the longest wait.
-/

namespace GossipGroup

/-- A timer that fires again and again. -/
structure Timer where
  due : Instant
  period : Span
  deriving DecidableEq, Inhabited

namespace Timer

/-- A timer that is due at once and then after each period. -/
def starting (now : Instant) (period : Span) : Timer := ⟨now, period.waited⟩

/-- How late a timer may fire without leaving out the times it missed. -/
def grace : Span := .ofMilliseconds 5

/-- How often a timer fires at a moment, and the timer after that. -/
def fire (timer : Timer) (now : Instant) : Nat × Timer :=
  if timer.due ≤ now then
    let late := now.since timer.due
    if grace < late then
      let rest := timer.period.nanoseconds - late.nanoseconds % timer.period.nanoseconds
      (1, { timer with due := now.after ⟨rest⟩ })
    else
      let count := late.nanoseconds / timer.period.nanoseconds + 1
      (count, { timer with due := timer.due.after ⟨count * timer.period.nanoseconds⟩ })
  else (0, timer)

end Timer

namespace Simulation

/-- Who listens to the changes of a node's roster. -/
inductive Ear
  | recorder (number : Nat)
  | service (number : Nat)
  deriving DecidableEq, Inhabited

/-- A node that lives in a world under a name. -/
structure Resident where
  name : String
  /-- Whether the owner still holds the node. -/
  held : Bool
  node : Node Ear
  socket : SocketId
  gossip : Option Timer
  negotiation : Option Timer
  services : List (ElectionService Nat)
  /-- The subscriptions of the recorders, in the order of their numbers. -/
  recorders : List SubscriptionId

/-- What a resident does when its time has come. -/
inductive Job
  | gossip
  | negotiation
  | election (number : Nat)
  deriving DecidableEq, Inhabited

/-- A job of the resident at a place, and when it became due. -/
structure DueJob where
  due : Instant
  place : Nat
  job : Job
  deriving DecidableEq, Inhabited

namespace Resident

/-- A node that has just opened its socket: its rounds are due at once, and the
introducer has nobody to negotiate with. -/
def settling
    (name : String)
    (node : Node Ear)
    (socket : SocketId)
    (now : Instant) : Resident :=
  { name, held := true, node, socket
    gossip := some (.starting now node.settings.gossipInterval)
    negotiation :=
      if node.endpoints.isIntroducer then none
      else some (.starting now node.settings.negotiationInterval)
    services := []
    recorders := [] }

/-- The end of all rounds of a node that was told to stop. -/
def quieted (resident : Resident) : Resident :=
  if resident.node.stopped then { resident with gossip := none, negotiation := none }
  else resident

/-- Whether nothing uses the resident's socket any more: its owner has let go of
it, its rounds have ended and so has its receiver. -/
def isSpent (resident : Resident) : Bool :=
  !resident.held && resident.gossip.isNone && resident.negotiation.isNone &&
    !resident.node.isReceiving

/-- The address of the resident's socket. -/
def address (resident : Resident) : SocketAddress := resident.node.endpoints.listen

/-! ### Telling listeners -/

/-- What recorders are told about a leader. -/
def leaderHappenings
    (resident : Resident)
    (time : Nat)
    (news : List (LeaderNews Nat)) : List Happening :=
  news.map fun item => .led time resident.name item.recipient item.leader

/-- The note about an election that has changed the leader. -/
def electionNotes
    (resident : Resident)
    (before after : Election Nat) : List Happening :=
  match after.leader with
  | some leader =>
      if before.isLedBy leader then []
      else [.noted (.elected resident.node.identity leader)]
  | none => []

/-- The notes about changes of the roster. -/
def changeNotes (resident : Resident) (changes : List Change) : List Happening :=
  changes.map fun change => .noted (.changed resident.node.identity change)

/-- Tell one listener of changes. -/
def tell
    (resident : Resident)
    (time : Nat)
    (item : RosterNews Ear) : Resident × List Happening :=
  match item.recipient with
  | .recorder number =>
      (resident, [.heard time resident.name number item.changes item.roster.alive])
  | .service number =>
      match resident.services[number]? with
      | none => (resident, [])
      | some service =>
          let (told, news) := service.observe item.roster item.changes
          ({ resident with services := resident.services.set number told },
            resident.electionNotes service.election told.election ++
              resident.leaderHappenings time news)

/-- Tell all listeners of changes, one after the other. -/
def tellAll (time : Nat) : List (RosterNews Ear) → Resident → Resident × List Happening
  | [], resident => (resident, [])
  | item :: news, resident =>
      let (told, happenings) := resident.tell time item
      let (last, later) := tellAll time news told
      (last, happenings ++ later)

/-- The resident after its node reacted: its listeners have been told and its
rounds have ended if the node was stopped. -/
def after
    (resident : Resident)
    (time : Nat)
    (reaction : Reaction Ear) : Resident × List Happening :=
  let changed := { resident with node := reaction.node }
  let (told, happenings) := changed.tellAll time reaction.news
  (told.quieted, changed.changeNotes reaction.changes ++ happenings)

/-! ### Jobs -/

/-- A job that is due by a timer. -/
def timedJob (now : Instant) (place : Nat) (job : Job) : Option Timer → List DueJob
  | some timer => if timer.due ≤ now then [⟨timer.due, place, job⟩] else []
  | none => []

/-- The first elections that are due. -/
def dueElections (now : Instant) (place : Nat) (resident : Resident) : List DueJob :=
  resident.services.zipIdx.flatMap fun (service, number) =>
    match service.phase with
    | .settling due => if due ≤ now then [⟨due, place, .election number⟩] else []
    | .observing | .closed => []

/-- The jobs of the resident at a place that are due. -/
def dueJobs (now : Instant) (place : Nat) (resident : Resident) : List DueJob :=
  timedJob now place .gossip resident.gossip ++
    timedJob now place .negotiation resident.negotiation ++
    resident.dueElections now place

/-- The wait of an election service is over. -/
def settleService
    (resident : Resident)
    (time : Nat)
    (number : Nat) : Resident × List Happening :=
  match resident.services[number]? with
  | none => (resident, [])
  | some service =>
      let (settled, node, news) := service.settle resident.node (.service number)
      ({ resident with node, services := resident.services.set number settled },
        resident.electionNotes service.election settled.election ++
          resident.leaderHappenings time news)

/-- The notes about a receiver that an unreadable datagram has ended. -/
def refusalNotes (before after : Resident) : List Happening :=
  match before.node.receiver, after.node.receiver with
  | .listening, .refused error => [.noted (.unreadable before.node.identity error)]
  | _, _ => []

end Resident
end Simulation
end GossipGroup
