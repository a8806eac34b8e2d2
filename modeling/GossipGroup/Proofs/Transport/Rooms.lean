import GossipGroup.Transport

/-!
# What a socket hands over

A transport opens sockets, sends, receives and gives sockets up in any order, and a host
is also reached from elsewhere. A network in memory hands every datagram over whole. A
socket of a host keeps the room that it was opened with, however the host is used
afterwards, and hands over as much of a datagram as there is room for.
-/

namespace GossipGroup

namespace Loopback

variable {host next last : Loopback} {id : SocketId} {address target : SocketAddress}
  {payload : List UInt8}

/-- The number that the next socket is given is not that of a socket already. -/
def Counted (host : Loopback) : Prop :=
  ∀ socket ∈ host.sockets, socket.id.number < host.next

/-- A socket, while it is bound, has the given room. -/
structure GivesRoom (host : Loopback) (id : SocketId) (room : Nat) : Prop where
  given : id.number < host.next
  keeps : ∀ socket ∈ host.sockets, socket.id = id → socket.room = room

theorem mem_of_socket?_eq_some
    {socket : BoundSocket}
    (found : host.socket? id = some socket) :
    socket ∈ host.sockets ∧ socket.id = id := by
  have matching := List.find?_some found
  exact ⟨List.mem_of_find?_eq_some found, of_decide_eq_true matching⟩

/-- A host goes on: its sockets are some of those before, with the room that they had,
and others that were given new numbers. -/
structure Continues (host next : Loopback) : Prop where
  count : host.next ≤ next.next
  sockets : ∀ socket ∈ next.sockets,
    (∃ former ∈ host.sockets, former.id = socket.id ∧ former.room = socket.room) ∨
      host.next ≤ socket.id.number ∧ socket.id.number < next.next

theorem Continues.refl (host : Loopback) : host.Continues host where
  count := Nat.le_refl _
  sockets := fun socket present => .inl ⟨socket, present, rfl, rfl⟩

theorem Continues.trans (first : host.Continues next) (second : next.Continues last) :
    host.Continues last where
  count := Nat.le_trans first.count second.count
  sockets := by
    intro socket present
    rcases second.sockets socket present with
      ⟨between, betweenPresent, sameId, sameRoom⟩ | ⟨above, below⟩
    · rcases first.sockets between betweenPresent with
        ⟨former, formerPresent, formerId, formerRoom⟩ | ⟨above, below⟩
      · exact .inl ⟨former, formerPresent, formerId.trans sameId, formerRoom.trans sameRoom⟩
      · rw [sameId] at above below
        exact .inr ⟨above, Nat.lt_of_lt_of_le below second.count⟩
    · exact .inr ⟨Nat.le_trans first.count above, below⟩

theorem Continues.counted (continues : host.Continues next) (counted : host.Counted) :
    next.Counted := by
  intro socket present
  rcases continues.sockets socket present with ⟨former, formerPresent, sameId, -⟩ | ⟨-, below⟩
  · rw [← sameId]
    exact Nat.lt_of_lt_of_le (counted former formerPresent) continues.count
  · exact below

theorem Continues.givesRoom
    {room : Nat}
    (continues : host.Continues next)
    (gives : host.GivesRoom id room) :
    next.GivesRoom id room where
  given := Nat.lt_of_lt_of_le gives.given continues.count
  keeps := by
    intro socket present own
    rcases continues.sockets socket present with
      ⟨former, formerPresent, sameId, sameRoom⟩ | ⟨above, -⟩
    · rw [← sameRoom]
      exact gives.keeps former formerPresent (sameId.trans own)
    · rw [own] at above
      exact absurd gives.given (Nat.not_lt.mpr above)

/-- Sockets may be given other inboxes. -/
theorem continues_map
    (host : Loopback)
    {change : BoundSocket → BoundSocket}
    (same : ∀ socket, (change socket).id = socket.id ∧ (change socket).room = socket.room) :
    host.Continues { host with sockets := host.sockets.map change } where
  count := Nat.le_refl _
  sockets := by
    intro socket present
    obtain ⟨former, formerPresent, rfl⟩ := List.mem_map.mp present
    exact .inl ⟨former, formerPresent, (same former).1.symm, (same former).2.symm⟩

theorem continues_deliver (host : Loopback) (target : SocketAddress) (datagram : Datagram) :
    host.Continues (host.deliver target datagram) :=
  host.continues_map fun socket => by split <;> exact ⟨rfl, rfl⟩

theorem continues_bind {room : Nat} (bound : host.bind address room = .ok (id, next)) :
    host.Continues next := by
  rw [bind] at bound
  split at bound
  · contradiction
  · obtain ⟨-, rfl⟩ := Prod.mk.inj (Except.ok.inj bound)
    refine ⟨Nat.le_succ _, fun socket present => ?_⟩
    rcases List.mem_append.mp present with before | new
    · exact .inl ⟨socket, before, rfl, rfl⟩
    · rw [List.mem_singleton.mp new]
      exact .inr ⟨Nat.le_refl _, Nat.lt_succ_self _⟩

/-- A socket is bound with room for what was asked for, or for the longest datagram. -/
theorem givesRoom_bind
    {room : Nat}
    (counted : host.Counted)
    (bound : host.bind address room = .ok (id, next)) :
    next.GivesRoom id (min room largestDatagram) := by
  rw [bind] at bound
  split at bound
  · contradiction
  · obtain ⟨rfl, rfl⟩ := Prod.mk.inj (Except.ok.inj bound)
    refine ⟨Nat.lt_succ_self _, fun socket present own => ?_⟩
    rcases List.mem_append.mp present with before | new
    · exact absurd (own ▸ counted socket before) (Nat.lt_irrefl _)
    · rw [List.mem_singleton.mp new]

theorem continues_send (sent : host.send id target payload = .ok next) : host.Continues next := by
  rw [send] at sent
  split at sent
  · contradiction
  · split at sent
    · contradiction
    · split at sent
      · contradiction
      · rw [← Except.ok.inj sent]
        exact host.continues_deliver _ _
      · rw [← Except.ok.inj sent]
        exact Continues.refl host

theorem continues_receive (host : Loopback) (id : SocketId) :
    host.Continues (host.receive id).2 := by
  rw [receive]
  split
  · exact Continues.refl host
  · split
    · exact Continues.refl host
    · exact host.continues_map fun socket => by split <;> exact ⟨rfl, rfl⟩

theorem continues_close (host : Loopback) (id : SocketId) : host.Continues (host.close id) where
  count := Nat.le_refl _
  sockets := fun socket present => .inl ⟨socket, (List.mem_filter.mp present).1, rfl, rfl⟩

end Loopback

namespace Transport

variable {transport next last : Transport} {id : SocketId}

/-- Something that is asked of a transport, or that happens to it. -/
inductive Request
  | openAt (address : SocketAddress) (room : Nat)
  | send (id : SocketId) (target : SocketAddress) (payload : List UInt8)
  | receive (id : SocketId)
  | release (id : SocketId)
  | kill (address : SocketAddress)
  /-- A datagram from elsewhere arrives. It can only reach a host. -/
  | arrive (target : SocketAddress) (datagram : Datagram)
  deriving DecidableEq

/-- The transport after a request. One that fails leaves it as it is. -/
def serve (transport : Transport) : Request → Transport
  | .openAt address room =>
      match transport.openAt address room with
      | .ok (_, next) => next
      | .error _ => transport
  | .send id target payload =>
      match transport.send id target payload with
      | .ok next => next
      | .error _ => transport
  | .receive id => (transport.receive id).2
  | .release id => transport.release id
  | .kill address => transport.kill address
  | .arrive target datagram =>
      match transport with
      | .memory network => .memory network
      | .loopback host => .loopback (host.deliver target datagram)

/-- The transport after one request after another. -/
def serveAll (transport : Transport) (requests : List Request) : Transport :=
  requests.foldl serve transport

/-- A transport on which no socket was ever opened. -/
inductive Fresh : Transport → Prop
  | memory : Fresh (.memory .empty)
  | loopback (link : Link) : Fresh (.loopback (.idle link))

/-- The transport is a network in memory. -/
def isMemory : Transport → Bool
  | .memory _ => true
  | .loopback _ => false

/-- The datagrams that wait for the owner of a socket, oldest first. -/
def inbox (transport : Transport) (id : SocketId) : List Datagram :=
  match transport with
  | .memory network => (network.socket? id).elim [] (·.inbox)
  | .loopback host => (host.socket? id).elim [] (·.inbox)

/-- A host does not give a number twice. -/
def Counted : Transport → Prop
  | .memory _ => True
  | .loopback host => host.Counted

/-- A socket of a host has the given room. -/
def GivesRoom (transport : Transport) (id : SocketId) (room : Nat) : Prop :=
  match transport with
  | .memory _ => True
  | .loopback host => host.GivesRoom id room

/-- A transport goes on as what it is. -/
def Continues : Transport → Transport → Prop
  | .memory _, .memory _ => True
  | .loopback host, .loopback next => host.Continues next
  | _, _ => False

theorem Continues.refl (transport : Transport) : transport.Continues transport := by
  cases transport with
  | memory network => trivial
  | loopback host => exact Loopback.Continues.refl host

theorem Continues.trans (first : transport.Continues next) (second : next.Continues last) :
    transport.Continues last := by
  cases transport <;> cases next <;> cases last
  case memory.memory.memory => trivial
  case loopback.loopback.loopback => exact Loopback.Continues.trans first second
  all_goals contradiction

theorem Continues.isMemory_eq (continues : transport.Continues next) :
    next.isMemory = transport.isMemory := by
  cases transport <;> cases next <;> first | rfl | contradiction

theorem Continues.counted (continues : transport.Continues next) (counted : transport.Counted) :
    next.Counted := by
  cases transport <;> cases next
  case memory.memory => trivial
  case loopback.loopback => exact Loopback.Continues.counted continues counted
  all_goals contradiction

theorem Continues.givesRoom
    {room : Nat}
    (continues : transport.Continues next)
    (gives : transport.GivesRoom id room) :
    next.GivesRoom id room := by
  cases transport <;> cases next
  case memory.memory => trivial
  case loopback.loopback => exact Loopback.Continues.givesRoom continues gives
  all_goals contradiction

/-- A socket is opened on a network in memory or bound by a host. -/
theorem openAt_cases
    {address : SocketAddress}
    {room : Nat}
    (opened : transport.openAt address room = .ok (id, next)) :
    (∃ former latter, transport = .memory former ∧ next = .memory latter) ∨
      ∃ host latter, transport = .loopback host ∧ next = .loopback latter ∧
        host.bind address room = .ok (id, latter) := by
  cases transport with
  | memory network =>
      rw [openAt] at opened
      cases attempt : network.openAt address with
      | error error =>
          rw [attempt] at opened
          contradiction
      | ok result =>
          rw [attempt] at opened
          exact .inl ⟨network, result.2, rfl, (Prod.mk.inj (Except.ok.inj opened)).2.symm⟩
  | loopback host =>
      rw [openAt] at opened
      cases attempt : host.bind address room with
      | error error =>
          rw [attempt] at opened
          contradiction
      | ok result =>
          rw [attempt] at opened
          obtain ⟨rfl, rfl⟩ := Prod.mk.inj (Except.ok.inj opened)
          exact .inr ⟨host, result.2, rfl, rfl, attempt⟩

theorem continues_openAt
    {address : SocketAddress}
    {room : Nat}
    (opened : transport.openAt address room = .ok (id, next)) :
    transport.Continues next := by
  obtain ⟨former, latter, rfl, rfl⟩ | ⟨host, latter, rfl, rfl, bound⟩ := openAt_cases opened
  · trivial
  · exact Loopback.continues_bind bound

/-- A socket of a host is opened with room for what was asked for, or for the longest
datagram. -/
theorem givesRoom_openAt
    {address : SocketAddress}
    {room : Nat}
    (counted : transport.Counted)
    (opened : transport.openAt address room = .ok (id, next)) :
    next.GivesRoom id (min room largestDatagram) := by
  obtain ⟨former, latter, rfl, rfl⟩ | ⟨host, latter, rfl, rfl, bound⟩ := openAt_cases opened
  · trivial
  · exact Loopback.givesRoom_bind counted bound

theorem continues_send
    {target : SocketAddress}
    {payload : List UInt8}
    (sent : transport.send id target payload = .ok next) :
    transport.Continues next := by
  cases transport with
  | memory network =>
      rw [send] at sent
      cases attempt : network.send id target payload with
      | error error =>
          rw [attempt] at sent
          contradiction
      | ok result =>
          rw [attempt] at sent
          obtain rfl := Except.ok.inj sent
          trivial
  | loopback host =>
      rw [send] at sent
      cases attempt : host.send id target payload with
      | error error =>
          rw [attempt] at sent
          contradiction
      | ok result =>
          rw [attempt] at sent
          obtain rfl := Except.ok.inj sent
          exact Loopback.continues_send attempt

theorem continues_receive (transport : Transport) (id : SocketId) :
    transport.Continues (transport.receive id).2 := by
  cases transport with
  | memory network => trivial
  | loopback host => exact host.continues_receive id

/-- Whatever is asked of a transport, it goes on. -/
theorem continues_serve (transport : Transport) (request : Request) :
    transport.Continues (transport.serve request) := by
  cases request with
  | openAt address room =>
      rw [serve]
      split
      · rename_i opened
        exact continues_openAt opened
      · exact Continues.refl transport
  | send id target payload =>
      rw [serve]
      split
      · rename_i sent
        exact continues_send sent
      · exact Continues.refl transport
  | receive id => exact transport.continues_receive id
  | release id =>
      cases transport with
      | memory network => trivial
      | loopback host => exact host.continues_close id
  | kill address =>
      cases transport with
      | memory network => trivial
      | loopback host => exact Loopback.Continues.refl host
  | arrive target datagram =>
      cases transport with
      | memory network => trivial
      | loopback host => exact host.continues_deliver target datagram

theorem Fresh.counted (fresh : transport.Fresh) : transport.Counted := by
  cases fresh with
  | memory => trivial
  | loopback link => exact fun _ absent => absurd absent List.not_mem_nil

theorem continues_serveAll (transport : Transport) (requests : List Request) :
    transport.Continues (transport.serveAll requests) := by
  induction requests generalizing transport with
  | nil => exact Continues.refl transport
  | cons request requests inductionHypothesis =>
      exact (transport.continues_serve request).trans (inductionHypothesis _)

/-- What is received is the oldest datagram that waits. A network in memory hands it over
whole, and a host as much of it as there is room for. -/
theorem receive_of_inbox_eq_cons
    {datagram : Datagram}
    {rest : List Datagram}
    {room : Nat}
    (gives : transport.GivesRoom id room)
    (waiting : transport.inbox id = datagram :: rest) :
    (transport.receive id).1 = .datagram
      (if transport.isMemory then datagram
      else { datagram with payload := datagram.payload.take room }) := by
  cases transport with
  | memory network =>
      cases found : network.socket? id with
      | none =>
          rw [inbox, found] at waiting
          contradiction
      | some socket =>
          rw [inbox, found] at waiting
          have waits : socket.inbox = datagram :: rest := waiting
          simp [receive, Network.receive, found, waits, isMemory]
  | loopback host =>
      cases found : host.socket? id with
      | none =>
          rw [inbox, found] at waiting
          contradiction
      | some socket =>
          rw [inbox, found] at waiting
          have waits : socket.inbox = datagram :: rest := waiting
          obtain ⟨present, own⟩ := Loopback.mem_of_socket?_eq_some found
          simp [receive, Loopback.receive, found, waits, isMemory, gives.keeps socket present own]

end Transport
end GossipGroup
