import GossipGroup.Proofs.Transport.Inboxes
import Mathlib.Data.List.Nodup

/-!
# Who is registered where

Sockets are opened, send, receive and are dropped, and addresses are killed, in any
order. Each address has one socket registered at most, and each registration belongs to
the socket that was opened there, which has it until its address is killed or it is
dropped itself.
-/

namespace GossipGroup
namespace Network

/-- Something that is asked of a network. -/
inductive Request
  | openAt (address : SocketAddress)
  | send (id : SocketId) (target : SocketAddress) (payload : List UInt8)
  | receive (id : SocketId)
  | kill (address : SocketAddress)
  | drop (id : SocketId)
  deriving DecidableEq

variable {network next : Network} {id : SocketId} {address : SocketAddress}
  {request : Request} {requests : List Request} {socket : NetworkSocket}

/-- The network after a request. One that fails leaves it as it is. -/
def serve (network : Network) : Request → Network
  | .openAt address =>
      match network.openAt address with
      | .ok (_, next) => next
      | .error _ => network
  | .send id target payload =>
      match network.send id target payload with
      | .ok next => next
      | .error _ => network
  | .receive id => (network.receive id).2
  | .kill address => network.kill address
  | .drop id => network.drop id

/-- The network after one request after another. -/
def serveAll (network : Network) (requests : List Request) : Network :=
  requests.foldl serve network

theorem serveAll_cons (network : Network) (request : Request) (requests : List Request) :
    network.serveAll (request :: requests) = (network.serve request).serveAll requests :=
  rfl

theorem serveAll_append (network : Network) (earlier later : List Request) :
    network.serveAll (earlier ++ later) = (network.serveAll earlier).serveAll later :=
  List.foldl_append

/-- The datagram that a request sends to an address, if it does. -/
def sent? (network : Network) (address : SocketAddress) : Request → Option Datagram
  | .send id target payload =>
      match network.socket? id, network.send id target payload with
      | some socket, .ok _ => if target = address then some ⟨socket.address, payload⟩ else none
      | _, _ => none
  | _ => none

/-- The datagram that a socket receives at a request, if it does. -/
def received? (network : Network) (id : SocketId) : Request → Option Datagram
  | .receive receiver =>
      match (network.receive receiver).1 with
      | .datagram datagram => if receiver = id then some datagram else none
      | _ => none
  | _ => none

/-! ## What a request does -/

/-- Where a socket is registered already, opening another one fails and changes
nothing. -/
theorem serve_openAt (network : Network) (address : SocketAddress) :
    ((network.owner? address).isSome ∧ network.serve (.openAt address) = network) ∨
    (network.owner? address = none ∧ network.serve (.openAt address) =
      { next := network.next + 1
        sockets := network.sockets ++ [⟨⟨network.next⟩, address, []⟩]
        registered := network.registered ++ [(address, ⟨network.next⟩)]
        killed := network.killed.filter (· ≠ address) }) := by
  cases owned : network.owner? address with
  | none =>
      refine .inr ⟨rfl, ?_⟩
      simp only [serve, openAt, owned]
  | some owner =>
      refine .inl ⟨rfl, ?_⟩
      simp only [serve, openAt, owned]

/-- What is sent arrives if there is a socket for it. Otherwise nothing changes. -/
theorem serve_send
    (network : Network)
    (id : SocketId)
    (target : SocketAddress)
    (payload : List UInt8) :
    (network.serve (.send id target payload) = network ∧
      ∀ address, (network.owner? address).isSome →
        network.sent? address (.send id target payload) = none) ∨
    ∃ datagram receiver, network.owner? target = some receiver ∧
      network.serve (.send id target payload) = network.deliver receiver datagram ∧
      ∀ address, network.sent? address (.send id target payload) =
        if target = address then some datagram else none := by
  cases found : network.socket? id with
  | none => exact .inl (by simp [serve, sent?, send, found])
  | some socket =>
      by_cases dead : socket.address ∈ network.killed
      · exact .inl (by simp [serve, sent?, send, found, dead])
      · cases owned : network.owner? target with
        | none =>
            refine .inl ⟨by simp [serve, send, found, dead, owned], fun address owner => ?_⟩
            have other : target ≠ address := fun same => by simp [← same, owned] at owner
            simp [sent?, send, found, dead, owned, other]
        | some receiver =>
            refine .inr ⟨⟨socket.address, payload⟩, receiver, rfl, ?_, fun address => ?_⟩
            · simp [serve, send, found, dead, owned]
            · simp [sent?, send, found, dead, owned]

/-- A socket receives the first of what waits in it. Otherwise nothing changes. -/
theorem serve_receive (network : Network) (receiver : SocketId) :
    (network.serve (.receive receiver) = network ∧
      (∀ id, network.received? id (.receive receiver) = none) ∧
      ∀ socket, network.socket? receiver = some socket → socket.inbox = []) ∨
    ∃ socket datagram rest, network.socket? receiver = some socket ∧
      socket.inbox = datagram :: rest ∧
      network.serve (.receive receiver) =
        { network with
          sockets := network.sockets.map fun other =>
            if other.id = receiver then { other with inbox := rest } else other } ∧
      ∀ id, network.received? id (.receive receiver) =
        if receiver = id then some datagram else none := by
  cases found : network.socket? receiver with
  | none => exact .inl (by simp [serve, received?, receive, found])
  | some socket =>
      cases inbox : socket.inbox with
      | nil =>
          have nothing : ∀ datagram, (network.receive receiver).1 ≠ .datagram datagram := by
            intro datagram
            simp only [receive, found, inbox]
            split <;> simp
          refine .inl ⟨by simp [serve, receive, found, inbox], fun id => ?_, ?_⟩
          · cases reception : (network.receive receiver).1 with
            | datagram datagram => exact absurd reception (nothing datagram)
            | idle => simp only [received?, reception]
            | closed => simp only [received?, reception]
          · exact fun other same => Option.some.inj same ▸ inbox
      | cons datagram rest =>
          refine .inr ⟨socket, datagram, rest, rfl, inbox, ?_, fun id => ?_⟩
          · simp [serve, receive, found, inbox]
          · simp [received?, receive, found, inbox]

/-! ## Networks that keep their books -/

/-- The sockets and their addresses. -/
def places (network : Network) : List (SocketId × SocketAddress) :=
  network.sockets.map fun socket => (socket.id, socket.address)

theorem counted_iff :
    network.Counted ↔ ∀ place ∈ network.places, place.1.number < network.next := by
  rw [Counted, places, List.forall_mem_map]

/-- Each number is that of one socket, each address is registered once and to a socket
that was opened there, and none of them is killed. -/
structure Orderly (network : Network) : Prop where
  counted : network.Counted
  distinct : (network.places.map (·.1)).Nodup
  single : network.openAddresses.Nodup
  placed : ∀ entry ∈ network.registered, (entry.2, entry.1) ∈ network.places
  spared : ∀ entry ∈ network.registered, entry.1 ∉ network.killed

/-- Two networks differ in nothing but what waits in their sockets. -/
structure Alike (network next : Network) : Prop where
  count : next.next = network.next
  places : next.places = network.places
  registered : next.registered = network.registered
  killed : next.killed = network.killed

theorem Alike.orderly (alike : network.Alike next) (orderly : network.Orderly) :
    next.Orderly := by
  obtain ⟨counted, distinct, single, placed, spared⟩ := orderly
  refine ⟨?_, ?_, ?_, ?_, ?_⟩
  · rwa [counted_iff, alike.places, alike.count, ← counted_iff]
  · rwa [alike.places]
  · rwa [openAddresses, alike.registered]
  · rwa [alike.registered, alike.places]
  · rwa [alike.registered, alike.killed]

theorem alike_map
    (network : Network)
    {change : NetworkSocket → NetworkSocket}
    (same : ∀ socket, (change socket).id = socket.id ∧ (change socket).address = socket.address) :
    network.Alike { network with sockets := network.sockets.map change } := by
  refine ⟨rfl, ?_, rfl, rfl⟩
  rw [places, List.map_map]
  exact List.map_congr_left fun socket _ => Prod.ext (same socket).1 (same socket).2

theorem alike_deliver (network : Network) (id : SocketId) (datagram : Datagram) :
    network.Alike (network.deliver id datagram) :=
  network.alike_map fun socket => by split <;> exact ⟨rfl, rfl⟩

theorem alike_send
    (network : Network)
    (id : SocketId)
    (target : SocketAddress)
    (payload : List UInt8) :
    network.Alike (network.serve (.send id target payload)) := by
  rcases network.serve_send id target payload with ⟨same, -⟩ | ⟨datagram, receiver, -, delivers, -⟩
  · rw [same]
    exact ⟨rfl, rfl, rfl, rfl⟩
  · rw [delivers]
    exact network.alike_deliver receiver datagram

theorem alike_receive (network : Network) (id : SocketId) :
    network.Alike (network.serve (.receive id)) := by
  rcases network.serve_receive id with ⟨same, -⟩ | ⟨socket, datagram, rest, -, -, takes, -⟩
  · rw [same]
    exact ⟨rfl, rfl, rfl, rfl⟩
  · rw [takes]
    exact network.alike_map fun other => by split <;> exact ⟨rfl, rfl⟩

theorem owner?_eq_none_iff : network.owner? address = none ↔ address ∉ network.openAddresses := by
  rw [owner?, Option.map_eq_none_iff, List.find?_eq_none]
  simp only [decide_eq_true_eq, openAddresses, List.mem_map, not_exists, not_and]

/-- Only an address that has a socket cannot be opened. -/
theorem openAt_eq_error_iff :
    (∃ failure, network.openAt address = .error failure) ↔ address ∈ network.openAddresses := by
  rw [← not_iff_not, ← owner?_eq_none_iff, openAt]
  cases network.owner? address <;> simp

/-- Where each key is that of one entry, looking for a key finds that entry. -/
theorem find?_eq_some_iff_of_nodup
    {entry key : Type}
    [DecidableEq key]
    {entries : List entry}
    {keyOf : entry → key}
    (single : (entries.map keyOf).Nodup)
    {wanted : key}
    {found : entry} :
    entries.find? (fun candidate => keyOf candidate = wanted) = some found ↔
      found ∈ entries ∧ keyOf found = wanted := by
  constructor
  · intro finds
    exact ⟨List.mem_of_find?_eq_some finds, by simpa using List.find?_some finds⟩
  · rintro ⟨present, rfl⟩
    cases finds : entries.find? fun candidate => keyOf candidate = keyOf found with
    | none => simpa using List.find?_eq_none.mp finds found present
    | some other =>
        have same : keyOf other = keyOf found := by simpa using List.find?_some finds
        rw [List.inj_on_of_nodup_map single (List.mem_of_find?_eq_some finds) present same]

theorem Orderly.owner?_eq_some_iff (orderly : network.Orderly) :
    network.owner? address = some id ↔ (address, id) ∈ network.registered := by
  rw [owner?, Option.map_eq_some_iff]
  constructor
  · rintro ⟨entry, finds, rfl⟩
    obtain ⟨present, rfl⟩ := (find?_eq_some_iff_of_nodup orderly.single).mp finds
    exact present
  · intro present
    exact ⟨(address, id), (find?_eq_some_iff_of_nodup orderly.single).mpr ⟨present, rfl⟩, rfl⟩

theorem orderly_empty : empty.Orderly where
  counted := fun _ present => absurd present List.not_mem_nil
  distinct := .nil
  single := .nil
  placed := fun _ present => absurd present List.not_mem_nil
  spared := fun _ present => absurd present List.not_mem_nil

theorem Orderly.openAt (orderly : network.Orderly) (address : SocketAddress) :
    (network.serve (.openAt address)).Orderly := by
  rcases network.serve_openAt address with ⟨-, same⟩ | ⟨free, opened⟩
  · rwa [same]
  have places : (network.serve (.openAt address)).places =
      network.places ++ [(⟨network.next⟩, address)] := by
    rw [opened, Network.places, List.map_append]
    rfl
  have counted := counted_iff.mp orderly.counted
  refine ⟨?_, ?_, ?_, ?_, ?_⟩
  · rw [counted_iff, places, opened, List.forall_mem_append, List.forall_mem_singleton]
    exact ⟨fun place present => Nat.lt_succ_of_lt (counted place present), Nat.lt_succ_self _⟩
  · rw [places, List.map_append, List.nodup_append]
    refine ⟨orderly.distinct, List.nodup_singleton _, fun id present => ?_⟩
    obtain ⟨place, known, rfl⟩ := List.mem_map.mp present
    refine List.forall_mem_singleton.mpr fun same => ?_
    exact Nat.lt_irrefl _ (congrArg SocketId.number same ▸ counted place known)
  · rw [opened, openAddresses, List.map_append, List.nodup_append]
    refine ⟨orderly.single, List.nodup_singleton _, fun other present => ?_⟩
    refine List.forall_mem_singleton.mpr fun same => ?_
    obtain rfl : other = address := same
    exact owner?_eq_none_iff.mp free present
  · rw [places, opened, List.forall_mem_append, List.forall_mem_singleton]
    exact ⟨fun entry present => List.mem_append_left _ (orderly.placed entry present),
      List.mem_append_right _ (List.mem_singleton_self _)⟩
  · rw [opened, List.forall_mem_append, List.forall_mem_singleton]
    refine ⟨fun entry present killed => ?_, fun killed => ?_⟩
    · exact orderly.spared entry present (List.mem_filter.mp killed).1
    · simpa using (List.mem_filter.mp killed).2

theorem Orderly.kill (orderly : network.Orderly) (address : SocketAddress) :
    (network.kill address).Orderly where
  counted := orderly.counted
  distinct := orderly.distinct
  single := orderly.single.sublist (List.filter_sublist.map _)
  placed := fun entry present => orderly.placed entry (List.mem_filter.mp present).1
  spared := by
    intro entry present killed
    obtain ⟨registered, other⟩ := List.mem_filter.mp present
    rcases List.mem_cons.mp killed with same | former
    · exact of_decide_eq_true other same
    · exact orderly.spared entry registered (List.mem_filter.mp former).1

theorem Orderly.drop (orderly : network.Orderly) (id : SocketId) :
    (network.drop id).Orderly := by
  have places : (network.drop id).places = network.places.filter (·.1 ≠ id) := by
    rw [Network.places, Network.places, List.filter_map]
    rfl
  refine ⟨?_, ?_, ?_, ?_, ?_⟩
  · exact fun socket present => orderly.counted socket (List.mem_filter.mp present).1
  · rw [places]
    exact orderly.distinct.sublist (List.filter_sublist.map _)
  · exact orderly.single.sublist (List.filter_sublist.map _)
  · intro entry present
    obtain ⟨registered, other⟩ := List.mem_filter.mp present
    rw [places]
    exact List.mem_filter.mpr ⟨orderly.placed entry registered, other⟩
  · exact fun entry present => orderly.spared entry (List.mem_filter.mp present).1

theorem Orderly.serve (orderly : network.Orderly) (request : Request) :
    (network.serve request).Orderly := by
  cases request with
  | openAt address => exact orderly.openAt address
  | send id target payload => exact (network.alike_send id target payload).orderly orderly
  | receive id => exact (network.alike_receive id).orderly orderly
  | kill address => exact orderly.kill address
  | drop id => exact orderly.drop id

theorem Orderly.serveAll (orderly : network.Orderly) (requests : List Request) :
    (network.serveAll requests).Orderly := by
  induction requests generalizing network with
  | nil => exact orderly
  | cons request requests inductionHypothesis => exact inductionHypothesis (orderly.serve request)

/-! ## How long a registration lasts -/

/-- A number that has been given stays registered at an address until the address is
killed or its socket is dropped. It is never registered again. -/
theorem Orderly.owner?_serve
    (orderly : network.Orderly)
    (given : id.number < network.next)
    (request : Request) :
    (network.serve request).owner? address = some id ↔
      network.owner? address = some id ∧ request ≠ .kill address ∧ request ≠ .drop id := by
  rw [(orderly.serve request).owner?_eq_some_iff, orderly.owner?_eq_some_iff]
  cases request with
  | openAt other =>
      rcases network.serve_openAt other with ⟨-, same⟩ | ⟨-, opened⟩
      · simp [same]
      · have older : id ≠ ⟨network.next⟩ := fun same => by simp [same] at given
        simp [opened, older]
  | send sender target payload => simp [(network.alike_send sender target payload).registered]
  | receive receiver => simp [(network.alike_receive receiver).registered]
  | kill other =>
      simp only [Network.serve, Network.kill, List.mem_filter, decide_eq_true_eq, ne_eq,
        Request.kill.injEq, reduceCtorEq, not_false_eq_true, and_true,
        @eq_comm _ other]
  | drop other =>
      simp only [Network.serve, Network.drop, List.mem_filter, decide_eq_true_eq, ne_eq,
        Request.drop.injEq, reduceCtorEq, not_false_eq_true, true_and,
        @eq_comm _ other]

theorem next_le_serve (network : Network) (request : Request) :
    network.next ≤ (network.serve request).next := by
  cases request with
  | openAt other =>
      rcases network.serve_openAt other with ⟨-, same⟩ | ⟨-, opened⟩
      · exact Nat.le_of_eq (congrArg Network.next same.symm)
      · rw [opened]
        exact Nat.le_succ _
  | send sender target payload =>
      exact Nat.le_of_eq (network.alike_send sender target payload).count.symm
  | receive receiver => exact Nat.le_of_eq (network.alike_receive receiver).count.symm
  | kill other => exact Nat.le_refl _
  | drop other => exact Nat.le_refl _

theorem next_le_serveAll (network : Network) (requests : List Request) :
    network.next ≤ (network.serveAll requests).next := by
  induction requests generalizing network with
  | nil => exact Nat.le_refl _
  | cons request requests inductionHypothesis =>
      exact Nat.le_trans (network.next_le_serve request) (inductionHypothesis _)

theorem Orderly.owner?_serveAll
    (orderly : network.Orderly)
    (given : id.number < network.next)
    (requests : List Request) :
    (network.serveAll requests).owner? address = some id ↔
      network.owner? address = some id ∧
        ∀ request ∈ requests, request ≠ .kill address ∧ request ≠ .drop id := by
  induction requests generalizing network with
  | nil => simp [Network.serveAll]
  | cons request requests inductionHypothesis =>
      rw [Network.serveAll, List.foldl_cons, ← Network.serveAll, inductionHypothesis
        (orderly.serve request) (Nat.lt_of_lt_of_le given (network.next_le_serve request)),
        orderly.owner?_serve given, List.forall_mem_cons, and_assoc]

/-! ## Who has which number -/

theorem socket?_map
    (network : Network)
    {change : NetworkSocket → NetworkSocket}
    (same : ∀ socket, (change socket).id = socket.id)
    (id : SocketId) :
    { network with sockets := network.sockets.map change }.socket? id =
      (network.socket? id).map change := by
  simp only [socket?, List.find?_map, Function.comp_def, same]

theorem Orderly.socket?_of_mem (orderly : network.Orderly) (present : socket ∈ network.sockets) :
    network.socket? socket.id = some socket := by
  have distinct : (network.sockets.map (·.id)).Nodup := by
    simpa [places, Function.comp_def] using orderly.distinct
  exact (find?_eq_some_iff_of_nodup distinct).mpr ⟨present, rfl⟩

/-- Whoever is registered at an address was opened there and has not been dropped. -/
theorem Orderly.socket?_of_owner?
    (orderly : network.Orderly)
    (owned : network.owner? address = some id) :
    ∃ socket, network.socket? id = some socket ∧ socket.address = address := by
  have placed := orderly.placed _ (orderly.owner?_eq_some_iff.mp owned)
  obtain ⟨owner, present, same⟩ := List.mem_map.mp placed
  obtain ⟨rfl, rfl⟩ := Prod.mk.inj same
  exact ⟨owner, orderly.socket?_of_mem present, rfl⟩

theorem socket?_drop (network : Network) (id : SocketId) :
    (network.serve (.drop id)).socket? id = none := by
  rw [serve, drop, socket?, List.find?_eq_none]
  intro socket present
  simpa using (List.mem_filter.mp present).2

theorem socket?_drop_of_ne
    (found : network.socket? socket.id = some socket)
    (other : socket.id ≠ id) :
    (network.serve (.drop id)).socket? socket.id = some socket := by
  rw [serve, drop, socket?, List.find?_filter, ← found, socket?]
  congr 1
  funext candidate
  by_cases same : candidate.id = socket.id
  · simp [same, other]
  · simp [same]

theorem socket?_eq_none_iff :
    network.socket? id = none ↔ ∀ place ∈ network.places, place.1 ≠ id := by
  simp [socket?, places]

theorem Orderly.given
    (orderly : network.Orderly)
    (found : network.socket? id = some socket) :
    id.number < network.next := by
  obtain ⟨present, rfl⟩ := mem_of_socket?_eq_some found
  exact orderly.counted _ present

/-- No socket has a number that is still to be given. -/
theorem Orderly.socket?_of_ungiven
    (orderly : network.Orderly)
    (ungiven : network.next ≤ id.number) :
    network.socket? id = none := by
  refine socket?_eq_none_iff.mpr fun place present same => ?_
  exact Nat.not_lt.mpr ungiven (same ▸ counted_iff.mp orderly.counted place present)

theorem mem_places_serve
    {place : SocketId × SocketAddress}
    (request : Request)
    (present : place ∈ (network.serve request).places) :
    place ∈ network.places ∨ place.1 = ⟨network.next⟩ := by
  cases request with
  | openAt address =>
      rcases network.serve_openAt address with ⟨-, same⟩ | ⟨-, opened⟩
      · exact .inl (same ▸ present)
      · rw [opened, places, List.map_append] at present
        rcases List.mem_append.mp present with former | newcomer
        · exact .inl former
        · rw [List.mem_singleton.mp newcomer]
          exact .inr rfl
  | send sender target payload => exact .inl ((alike_send _ _ _ _).places ▸ present)
  | receive receiver => exact .inl ((alike_receive _ _).places ▸ present)
  | kill address => exact .inl present
  | drop id =>
      obtain ⟨socket, kept, rfl⟩ := List.mem_map.mp present
      exact .inl (List.mem_map_of_mem (List.mem_filter.mp kept).1)

/-- A number that was given is not given again. -/
theorem socket?_serve_of_gone
    (given : id.number < network.next)
    (gone : network.socket? id = none)
    (request : Request) :
    (network.serve request).socket? id = none := by
  rw [socket?_eq_none_iff] at gone ⊢
  intro place present
  rcases mem_places_serve request present with former | newcomer
  · exact gone place former
  · rintro rfl
    exact Nat.lt_irrefl _ (newcomer ▸ given)

/-- A socket that is opened is registered at its address, and nothing waits in it. -/
theorem Orderly.opens
    {opened : Network}
    (orderly : network.Orderly)
    (opens : network.openAt address = .ok (id, opened)) :
    network.serve (.openAt address) = opened ∧ network.next = id.number ∧
      opened.owner? address = some id ∧ opened.socket? id = some ⟨id, address, []⟩ := by
  have serves : network.serve (.openAt address) = opened := by rw [Network.serve, opens]
  have orderlyAfter := serves ▸ orderly.serve (.openAt address)
  obtain ⟨rfl, -, sockets⟩ := openAt_eq_ok opens
  refine ⟨serves, rfl, orderlyAfter.owner?_eq_some_iff.mpr ?_, ?_⟩
  · rcases network.serve_openAt address with ⟨taken, -⟩ | ⟨-, registers⟩
    · obtain ⟨owner, owned⟩ := Option.isSome_iff_exists.mp taken
      simp [Network.openAt, owned] at opens
    · rw [← serves, registers]
      exact List.mem_append_right _ (List.mem_singleton_self _)
  · refine @Orderly.socket?_of_mem opened ⟨_, address, []⟩ orderlyAfter ?_
    rw [sockets]
    exact List.mem_append_right _ (List.mem_singleton_self _)

end Network
end GossipGroup
