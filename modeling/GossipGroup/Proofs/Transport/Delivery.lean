import GossipGroup.Proofs.Transport.Registration

/-!
# What a socket receives

What a socket has received, followed by what waits in it, is what was sent to its address
while it was registered there: nothing is lost, doubled or put out of order on the way,
and nothing reaches a socket that was meant for another at the same address.
-/

namespace GossipGroup
namespace Network

variable {network next : Network} {id : SocketId} {address : SocketAddress}
  {request : Request} {requests : List Request} {socket : NetworkSocket}

/-- The datagram that a request sends to an address while a socket is registered there. -/
def arriving?
    (network : Network)
    (id : SocketId)
    (address : SocketAddress)
    (request : Request) : Option Datagram :=
  if network.owner? address = some id then network.sent? address request else none

/-- What is sent to an address while a socket is registered there. -/
def sentTo (id : SocketId) (address : SocketAddress) : Network → List Request → List Datagram
  | _, [] => []
  | network, request :: requests =>
      (network.arriving? id address request).toList ++
        sentTo id address (network.serve request) requests

/-- What a socket receives. -/
def received (id : SocketId) : Network → List Request → List Datagram
  | _, [] => []
  | network, request :: requests =>
      (network.received? id request).toList ++ received id (network.serve request) requests

/-- What is sent to an address does not concern a socket that is not registered there. -/
theorem Orderly.sentTo_eq_nil
    (orderly : network.Orderly)
    (given : id.number < network.next)
    (gone : network.owner? address ≠ some id)
    (requests : List Request) :
    network.sentTo id address requests = [] := by
  induction requests generalizing network with
  | nil => rfl
  | cons request requests inductionHypothesis =>
      have goneAfter : (network.serve request).owner? address ≠ some id :=
        fun owned => gone ((orderly.owner?_serve given request).mp owned).1
      rw [sentTo, arriving?, if_neg gone, Option.toList_none, List.nil_append]
      exact inductionHypothesis (orderly.serve request)
        (Nat.lt_of_lt_of_le given (network.next_le_serve request)) goneAfter

/-! ## What becomes of a socket -/

/-- At a request a socket may receive the first that waits in it, and something may
arrive after the last. -/
structure Turns
    (network : Network)
    (socket : NetworkSocket)
    (request : Request)
    (waiting : List Datagram) : Prop where
  found : (network.serve request).socket? socket.id = some { socket with inbox := waiting }
  balance : (network.received? socket.id request).toList ++ waiting =
    socket.inbox ++ (network.arriving? socket.id socket.address request).toList

theorem arriving?_of_sent?_eq_none (silent : network.sent? address request = none) :
    network.arriving? id address request = none := by
  rw [arriving?, silent, ite_self]

/-- A request that neither brings a socket anything nor takes anything from it. -/
theorem turns_of_quiet
    (stays : (network.serve request).socket? socket.id = some socket)
    (nothing : network.received? socket.id request = none)
    (silent : network.arriving? socket.id socket.address request = none) :
    network.Turns socket request socket.inbox := by
  refine ⟨stays, ?_⟩
  rw [nothing, silent, Option.toList_none, List.append_nil, List.nil_append]

theorem turns_send
    (orderly : network.Orderly)
    (found : network.socket? socket.id = some socket)
    (sender : SocketId)
    (target : SocketAddress)
    (payload : List UInt8) :
    ∃ waiting, network.Turns socket (.send sender target payload) waiting := by
  rcases network.serve_send sender target payload with
    ⟨same, lost⟩ | ⟨datagram, receiver, owned, delivers, sent⟩
  · refine ⟨socket.inbox, turns_of_quiet (by rw [same, found]) rfl ?_⟩
    rw [arriving?, ite_eq_right_iff]
    intro registered
    exact lost _ (by rw [registered, Option.isSome_some])
  · have delivered : (network.serve (.send sender target payload)).socket? socket.id =
        some (if socket.id = receiver then
          { socket with inbox := socket.inbox ++ [datagram] } else socket) := by
      rw [delivers, deliver, socket?_map network (fun other => by split <;> rfl), found,
        Option.map_some]
    by_cases arrives : socket.id = receiver
    · obtain ⟨owner, ownerFound, rfl⟩ := orderly.socket?_of_owner? owned
      rw [← arrives] at owned ownerFound
      obtain rfl := Option.some.inj (found.symm.trans ownerFound)
      rw [if_pos arrives] at delivered
      refine ⟨_, delivered, ?_⟩
      rw [arriving?, if_pos owned, sent, if_pos rfl]
      rfl
    · rw [if_neg arrives] at delivered
      refine ⟨socket.inbox, turns_of_quiet delivered rfl ?_⟩
      rw [arriving?, ite_eq_right_iff, sent]
      intro registered
      refine if_neg fun same => arrives ?_
      exact Option.some.inj (registered.symm.trans (same ▸ owned))

theorem turns_receive
    (found : network.socket? socket.id = some socket)
    (receiver : SocketId) :
    ∃ waiting, network.Turns socket (.receive receiver) waiting := by
  have silent : network.arriving? socket.id socket.address (.receive receiver) = none :=
    arriving?_of_sent?_eq_none rfl
  rcases network.serve_receive receiver with
    ⟨same, nothing, -⟩ | ⟨owner, datagram, rest, ownerFound, inbox, takes, received⟩
  · exact ⟨socket.inbox, turns_of_quiet (by rw [same, found]) (nothing _) silent⟩
  · have taken : (network.serve (.receive receiver)).socket? socket.id =
        some (if socket.id = receiver then { socket with inbox := rest } else socket) := by
      rw [takes, socket?_map network (fun other => by split <;> rfl), found, Option.map_some]
    by_cases own : socket.id = receiver
    · rw [← own] at ownerFound
      obtain rfl := Option.some.inj (found.symm.trans ownerFound)
      rw [if_pos own] at taken
      refine ⟨rest, taken, ?_⟩
      rw [received, if_pos own.symm, silent, inbox, Option.toList_none, List.append_nil]
      rfl
    · rw [if_neg own] at taken
      have nothing := (received socket.id).trans (if_neg (Ne.symm own))
      exact ⟨socket.inbox, turns_of_quiet taken nothing silent⟩

/-- Unless it is dropped, a socket stays where it is. -/
theorem Orderly.turns
    (orderly : network.Orderly)
    (found : network.socket? socket.id = some socket)
    (kept : request ≠ .drop socket.id) :
    ∃ waiting, network.Turns socket request waiting := by
  cases request with
  | openAt address =>
      refine ⟨socket.inbox, turns_of_quiet ?_ rfl (arriving?_of_sent?_eq_none rfl)⟩
      rcases network.serve_openAt address with ⟨-, same⟩ | ⟨-, opened⟩
      · rw [same, found]
      · rw [opened, socket?, List.find?_append, ← socket?, found, Option.some_or]
  | send sender target payload => exact turns_send orderly found sender target payload
  | receive receiver => exact turns_receive found receiver
  | kill address =>
      exact ⟨socket.inbox, turns_of_quiet found rfl (arriving?_of_sent?_eq_none rfl)⟩
  | drop id =>
      have other : socket.id ≠ id := fun same => kept (congrArg Request.drop same.symm)
      exact ⟨socket.inbox, turns_of_quiet (socket?_drop_of_ne found other) rfl
        (arriving?_of_sent?_eq_none rfl)⟩

/-- A socket receives something only if it is asked to and something waits in it. -/
theorem received?_eq_none_iff :
    network.received? id request = none ↔
      (request = .receive id → ∀ socket ∈ network.socket? id, socket.inbox = []) := by
  cases request with
  | receive receiver =>
      rcases network.serve_receive receiver with
        ⟨-, nothing, idle⟩ | ⟨owner, datagram, rest, ownerFound, inbox, -, received⟩
      · refine iff_of_true (nothing id) fun own socket present => ?_
        exact idle socket (Request.receive.inj own ▸ present)
      · rw [received]
        by_cases own : receiver = id
        · subst own
          refine iff_of_false (by simp) fun idle => ?_
          exact List.cons_ne_nil _ _ (inbox.symm.trans (idle rfl owner ownerFound))
        · exact iff_of_true (if_neg own) fun same => absurd (Request.receive.inj same) own
  | _ => exact iff_of_true rfl nofun

/-- A socket that is not there receives nothing. -/
theorem received?_of_gone (gone : network.socket? id = none) (request : Request) :
    network.received? id request = none :=
  received?_eq_none_iff.mpr fun _ _ present => absurd (gone.symm.trans present) nofun

theorem received_append (network : Network) (id : SocketId) (earlier later : List Request) :
    network.received id (earlier ++ later) =
      network.received id earlier ++ (network.serveAll earlier).received id later := by
  induction earlier generalizing network with
  | nil => rfl
  | cons request earlier inductionHypothesis =>
      rw [List.cons_append, received, received, inductionHypothesis, List.append_assoc,
        serveAll_cons]

/-- A socket that has been dropped does not come back and receives nothing. -/
theorem gone_after
    (given : id.number < network.next)
    (gone : network.socket? id = none)
    (requests : List Request) :
    network.received id requests = [] ∧ (network.serveAll requests).socket? id = none := by
  induction requests generalizing network with
  | nil => exact ⟨rfl, gone⟩
  | cons request requests inductionHypothesis =>
      obtain ⟨nothing, goneAfter⟩ := inductionHypothesis
        (Nat.lt_of_lt_of_le given (network.next_le_serve request))
        (socket?_serve_of_gone given gone request)
      rw [received, received?_of_gone gone, nothing]
      exact ⟨rfl, goneAfter⟩

/-- What a socket has received, followed by what waits in it, is what waited in it and
then what arrived. -/
theorem Orderly.conservation
    (orderly : network.Orderly)
    (found : network.socket? socket.id = some socket)
    (requests : List Request) :
    ∃ waiting, network.received socket.id requests ++ waiting =
        socket.inbox ++ network.sentTo socket.id socket.address requests ∧
      (network.serveAll requests).socket? socket.id =
        if .drop socket.id ∈ requests then none else some { socket with inbox := waiting } := by
  induction requests generalizing network socket with
  | nil =>
      exact ⟨socket.inbox, by simp [received, sentTo], found⟩
  | cons request requests inductionHypothesis =>
      have given := orderly.given found
      have givenAfter := Nat.lt_of_lt_of_le given (network.next_le_serve request)
      by_cases kept : request = .drop socket.id
      · subst kept
        obtain ⟨nothing, goneAfter⟩ := gone_after givenAfter (network.socket?_drop _) requests
        have unregistered : (network.serve (.drop socket.id)).owner? socket.address ≠
            some socket.id :=
          fun owned => ((orderly.owner?_serve given _).mp owned).2.2 rfl
        have silent : network.arriving? socket.id socket.address (.drop socket.id) = none :=
          arriving?_of_sent?_eq_none rfl
        refine ⟨socket.inbox, ?_, ?_⟩
        · rw [received, sentTo, nothing, silent,
            (orderly.serve _).sentTo_eq_nil givenAfter unregistered]
          simp [received?]
        · rw [serveAll_cons, goneAfter, if_pos List.mem_cons_self]
      · obtain ⟨waiting, foundAfter, balance⟩ := orderly.turns found kept
        obtain ⟨rest, later, stays⟩ := @inductionHypothesis _ { socket with inbox := waiting }
          (orderly.serve request) foundAfter
        refine ⟨rest, ?_, ?_⟩
        · rw [received, sentTo, List.append_assoc, later, ← List.append_assoc, balance,
            List.append_assoc]
        · rw [serveAll_cons, stays]
          simp only [List.mem_cons, Ne.symm kept, false_or]

/-- A socket receives nothing before it is opened. -/
theorem Orderly.received_of_ungiven
    (orderly : network.Orderly)
    (ungiven : (network.serveAll requests).next ≤ id.number) :
    network.received id requests = [] := by
  induction requests generalizing network with
  | nil => rfl
  | cons request requests inductionHypothesis =>
      have before := Nat.le_trans (network.next_le_serveAll (request :: requests)) ungiven
      rw [received, received?_of_gone (orderly.socket?_of_ungiven before),
        inductionHypothesis (orderly.serve request) ungiven]
      rfl

/-- Whatever is done to a network, each address has one registered socket at most, and
opening another one there fails and changes nothing. A socket stays registered at the
address it was opened at until that address is killed or the socket itself is dropped.
What it receives, in order, is what is sent to its address as long as it is registered
there. Until it is dropped, what it has not received yet waits in it. -/
theorem sockets_receive_what_arrives (requests : List Request) :
    (empty.serveAll requests).openAddresses.Nodup ∧
    (∀ address, address ∈ (empty.serveAll requests).openAddresses ↔
      ∃ failure, (empty.serveAll requests).openAt address = .error failure) ∧
    (∀ address failure, (empty.serveAll requests).openAt address = .error failure →
      (empty.serveAll (requests ++ [.openAt address])).registered =
        (empty.serveAll requests).registered ∧
      (empty.serveAll (requests ++ [.openAt address])).killed =
        (empty.serveAll requests).killed) ∧
    ∀ before address after id opened, requests = before ++ .openAt address :: after →
      (empty.serveAll before).openAt address = .ok (id, opened) →
      ((empty.serveAll requests).owner? address = some id ↔
        ∀ request ∈ after, request ≠ .kill address ∧ request ≠ .drop id) ∧
      empty.received id requests <+: opened.sentTo id address after ∧
      ∀ socket ∈ (empty.serveAll requests).socket? id, socket.address = address ∧
        empty.received id requests ++ socket.inbox = opened.sentTo id address after := by
  have orderly := orderly_empty.serveAll requests
  refine ⟨orderly.single, fun _ => openAt_eq_error_iff.symm, fun _ _ fails => ?_, ?_⟩
  · rw [serveAll_append, serveAll_cons, serve, fails]
    exact ⟨rfl, rfl⟩
  · rintro before address after id opened rfl opens
    have orderlyBefore := orderly_empty.serveAll before
    obtain ⟨serves, number, owned, found⟩ := orderlyBefore.opens opens
    have orderlyOpened : opened.Orderly := serves ▸ orderlyBefore.serve _
    have heard : empty.received id (before ++ .openAt address :: after) =
        opened.received id after := by
      rw [received_append, orderly_empty.received_of_ungiven (Nat.le_of_eq number), received,
        serves]
      rfl
    obtain ⟨waiting, balance, stays⟩ := @Orderly.conservation opened ⟨id, address, []⟩
      orderlyOpened found after
    rw [heard, serveAll_append, serveAll_cons, serves,
      orderlyOpened.owner?_serveAll (orderlyOpened.given found)]
    refine ⟨by simp [owned], ⟨waiting, balance⟩, fun socket present => ?_⟩
    rw [Option.mem_def, stays] at present
    split at present
    · contradiction
    · rw [← Option.some.inj present]
      exact ⟨rfl, balance⟩

/-- Two addresses that sockets are opened at. -/
def home : SocketAddress := .v4 ⟨127, 0, 0, 1⟩ 7000

def peer : SocketAddress := .v4 ⟨127, 0, 0, 1⟩ 7001

/-- A datagram waits at one of them. -/
def busy : List Request :=
  [.openAt home, .openAt peer, .send ⟨1⟩ home [1]]

/-- That address is killed and opened again, and the socket that had it before is dropped
late. -/
def relaunch : List Request :=
  busy ++ .kill home :: .openAt home ::
    [.send ⟨1⟩ home [2], .drop ⟨0⟩, .receive ⟨2⟩, .send ⟨1⟩ home [3]]

/-- The newer socket stays registered, receives only what was sent since, and nobody else
can have its address. -/
theorem newer_socket_survives_late_drop :
    (empty.serveAll relaunch).owner? home = some ⟨2⟩ ∧
    empty.received ⟨2⟩ relaunch <+: [⟨peer, [2]⟩, ⟨peer, [3]⟩] ∧
    (empty.serveAll (relaunch ++ [.openAt home])).registered =
      (empty.serveAll relaunch).registered := by
  obtain ⟨-, -, fails, delivers⟩ := sockets_receive_what_arrives relaunch
  obtain ⟨registered, received, -⟩ := delivers (busy ++ [.kill home]) home _ ⟨2⟩ _ rfl rfl
  exact ⟨registered.mpr (by decide), received, (fails home (.addressOpen home) rfl).1⟩

end Network
end GossipGroup
