import GossipGroup.Proofs.Transport.Delivery
import Mathlib.Data.List.Induction

/-!
# What is left of a killed socket

A socket whose address is killed is registered nowhere any more, and nothing reaches it.
It is not quite dead, however: what waited in it is still received, and a kill is of an
address, so that the socket sends again as soon as its address is opened for another.
Short of these two it stays silent.
-/

namespace GossipGroup
namespace Network

variable {network : Network} {id : SocketId} {address : SocketAddress}
  {request : Request} {requests : List Request} {socket : NetworkSocket}

/-- What waits in a socket. -/
def inbox (network : Network) (id : SocketId) : List Datagram :=
  (network.socket? id).elim [] (·.inbox)

/-- While requests are served, a socket neither receives anything nor sends with
success. -/
structure Silent (network : Network) (id : SocketId) (requests : List Request) : Prop where
  receives : network.received id requests = []
  sends : ∀ before target payload after, requests = before ++ .send id target payload :: after →
    ∃ failure, (network.serveAll before).send id target payload = .error failure

/-- An address has been opened since it was last killed. -/
def Reopened (address : SocketAddress) (requests : List Request) : Prop :=
  ∃ before after, requests = before ++ .openAt address :: after ∧ .kill address ∉ after

/-! ## How long an address is killed -/

theorem reopened_concat :
    Reopened address (requests ++ [request]) ↔
      request = .openAt address ∨ Reopened address requests ∧ request ≠ .kill address := by
  constructor
  · rintro ⟨before, after, split, spared⟩
    rcases List.eq_nil_or_concat' after with rfl | ⟨rest, last, rfl⟩
    · exact .inl (List.singleton_inj.mp (List.append_inj' split rfl).2)
    · rw [← List.cons_append, ← List.append_assoc] at split
      obtain ⟨rfl, same⟩ := List.append_inj' split rfl
      obtain rfl := List.singleton_inj.mp same
      rw [List.mem_append, List.mem_singleton, not_or] at spared
      exact .inr ⟨⟨before, rest, rfl, spared.1⟩, Ne.symm spared.2⟩
  · rintro (rfl | ⟨⟨before, after, rfl, spared⟩, other⟩)
    · exact ⟨requests, [], rfl, List.not_mem_nil⟩
    · refine ⟨before, after ++ [request], by rw [List.append_assoc, List.cons_append], ?_⟩
      rw [List.mem_append, List.mem_singleton]
      exact not_or.mpr ⟨spared, Ne.symm other⟩

/-- A killed address stays killed until it is opened. -/
theorem Orderly.mem_killed_serve (orderly : network.Orderly) (request : Request) :
    address ∈ (network.serve request).killed ↔
      request = .kill address ∨ address ∈ network.killed ∧ request ≠ .openAt address := by
  cases request with
  | openAt other =>
      rcases network.serve_openAt other with ⟨taken, same⟩ | ⟨-, opened⟩
      · have spared : other ∉ network.killed := by
          obtain ⟨owner, owned⟩ := Option.isSome_iff_exists.mp taken
          exact orderly.spared _ (orderly.owner?_eq_some_iff.mp owned)
        simp only [same, reduceCtorEq, false_or, ne_eq, Request.openAt.injEq, iff_self_and]
        exact fun killed equal => spared (equal ▸ killed)
      · simp [opened, @eq_comm _ other]
  | send sender target payload => simp [(network.alike_send sender target payload).killed]
  | receive receiver => simp [(network.alike_receive receiver).killed]
  | kill other =>
      by_cases same : address = other
      · simp [Network.serve, Network.kill, same]
      · simp [Network.serve, Network.kill, same, Ne.symm same]
  | drop id => simp [Network.serve, Network.drop]

theorem Orderly.mem_killed_serveAll
    (orderly : network.Orderly)
    (killed : address ∈ network.killed)
    (requests : List Request) :
    address ∈ (network.serveAll requests).killed ↔ ¬ Reopened address requests := by
  induction requests using List.reverseRecOn with
  | nil => exact iff_of_true killed (by simp [Reopened])
  | append_singleton requests request inductionHypothesis =>
      have serves : network.serveAll (requests ++ [request]) =
          (network.serveAll requests).serve request := serveAll_append _ _ _
      rw [serves, (orderly.serveAll requests).mem_killed_serve, inductionHypothesis,
        reopened_concat]
      have distinct : request = .kill address → request ≠ .openAt address := by
        rintro rfl
        exact nofun
      tauto

/-! ## What a killed socket still does -/

theorem received_eq_nil_iff :
    network.received id requests = [] ↔
      ∀ before request after, requests = before ++ request :: after →
        (network.serveAll before).received? id request = none := by
  induction requests generalizing network with
  | nil => simp [received]
  | cons first requests inductionHypothesis =>
      rw [received, List.append_eq_nil_iff, Option.toList_eq_nil_iff, inductionHypothesis]
      constructor
      · rintro ⟨nothing, nothingLater⟩ before request after split
        cases before with
        | nil =>
            obtain ⟨rfl, -⟩ := List.cons.inj split
            exact nothing
        | cons earlier before =>
            obtain ⟨rfl, later⟩ := List.cons.inj split
            exact nothingLater before request after later
      · intro nothing
        refine ⟨nothing [] first requests rfl, fun before request after split => ?_⟩
        exact nothing (first :: before) request after (congrArg (first :: ·) split)

theorem send_eq_error_iff {target : SocketAddress} {payload : List UInt8} :
    (∃ failure, network.send id target payload = .error failure) ↔
      ∀ socket ∈ network.socket? id, socket.address ∈ network.killed := by
  rw [send]
  cases found : network.socket? id with
  | none => simp
  | some socket =>
      by_cases dead : socket.address ∈ network.killed
      · simp [dead]
      · cases network.owner? target <;> simp [dead]

/-- Nothing more reaches a socket whose address is killed. -/
theorem Orderly.received_append_inbox
    (orderly : network.Orderly)
    (found : network.socket? socket.id = some socket)
    (killed : socket.address ∈ network.killed)
    (requests : List Request) :
    ∃ waiting, network.received socket.id requests ++ waiting = socket.inbox ∧
      (network.serveAll requests).socket? socket.id =
        if .drop socket.id ∈ requests then none else some { socket with inbox := waiting } := by
  have gone : network.owner? socket.address ≠ some socket.id := fun owned =>
    orderly.spared _ (orderly.owner?_eq_some_iff.mp owned) killed
  obtain ⟨waiting, balance, stays⟩ := orderly.conservation found requests
  rw [orderly.sentTo_eq_nil (orderly.given found) gone, List.append_nil] at balance
  exact ⟨waiting, balance, stays⟩

theorem Orderly.received_eq_nil_iff
    (orderly : network.Orderly)
    (found : network.socket? socket.id = some socket)
    (killed : socket.address ∈ network.killed) :
    network.received socket.id requests = [] ↔
      ∀ before after, requests = before ++ .receive socket.id :: after →
        .drop socket.id ∉ before → socket.inbox = [] := by
  rw [Network.received_eq_nil_iff]
  constructor
  · intro nothing before after split kept
    obtain ⟨waiting, balance, stays⟩ := orderly.received_append_inbox found killed before
    have nothingBefore : network.received socket.id before = [] := by
      refine Network.received_eq_nil_iff.mpr fun earlier request later splitBefore => ?_
      refine nothing earlier request (later ++ .receive socket.id :: after) ?_
      rw [split, splitBefore, List.append_assoc, List.cons_append]
    rw [if_neg kept] at stays
    rw [← balance, nothingBefore]
    exact received?_eq_none_iff.mp (nothing before _ after split) rfl _ stays
  · intro empties before request after split
    obtain ⟨waiting, balance, stays⟩ := orderly.received_append_inbox found killed before
    refine received?_eq_none_iff.mpr fun receives other present => ?_
    subst receives
    rw [Option.mem_def, stays] at present
    split at present
    · contradiction
    · rename_i kept
      rw [empties before after split kept, List.append_eq_nil_iff] at balance
      rw [← Option.some.inj present]
      exact balance.2

theorem Orderly.send_fails_iff
    {target : SocketAddress}
    {payload : List UInt8}
    (orderly : network.Orderly)
    (found : network.socket? socket.id = some socket)
    (killed : socket.address ∈ network.killed) :
    (∃ failure, (network.serveAll requests).send socket.id target payload = .error failure) ↔
      (.drop socket.id ∉ requests → ¬ Reopened socket.address requests) := by
  obtain ⟨waiting, -, stays⟩ := orderly.received_append_inbox found killed requests
  rw [send_eq_error_iff, stays, ← orderly.mem_killed_serveAll killed]
  by_cases kept : .drop socket.id ∈ requests
  · simp [kept]
  · simp [kept]

/-- A socket whose address is killed stays silent exactly as long as it is not asked for
what it can still do: to receive what already waited in it, and to send after its
address has been opened again. -/
theorem killed_socket_is_silent_iff
    {history : List Request}
    (owned : (empty.serveAll history).owner? address = some id)
    (requests : List Request) :
    ((empty.serveAll history).kill address).Silent id requests ↔
      ∀ before request after, requests = before ++ request :: after → .drop id ∉ before →
        (request = .receive id → (empty.serveAll history).inbox id = []) ∧
        ∀ target payload, request = .send id target payload → ¬ Reopened address before := by
  have orderlyBefore := orderly_empty.serveAll history
  obtain ⟨socket, found, rfl⟩ := orderlyBefore.socket?_of_owner? owned
  obtain ⟨-, rfl⟩ := mem_of_socket?_eq_some found
  have orderly := orderlyBefore.kill socket.address
  have killed : socket.address ∈ ((empty.serveAll history).kill socket.address).killed :=
    List.mem_cons_self
  have inbox : (empty.serveAll history).inbox socket.id = socket.inbox := by
    rw [inbox, found, Option.elim_some]
  rw [inbox]
  constructor
  · intro silent before request after split kept
    constructor
    · rintro rfl
      exact (orderly.received_eq_nil_iff found killed).mp silent.receives before after split kept
    · rintro target payload rfl
      have fails := silent.sends before target payload after split
      exact (orderly.send_fails_iff found killed).mp fails kept
  · intro spared
    constructor
    · refine (orderly.received_eq_nil_iff found killed).mpr fun before after split kept => ?_
      exact (spared before _ after split kept).1 rfl
    · intro before target payload after split
      refine (orderly.send_fails_iff found killed).mpr fun kept => ?_
      exact (spared before _ after split kept).2 target payload rfl

/-- A socket stays silent if nothing waited in it and its address is not opened again. -/
theorem killed_socket_is_silent_at_closed_address :
    (empty.serveAll [.openAt home]).owner? home = some ⟨0⟩ ∧
    ((empty.serveAll [.openAt home]).kill home).Silent ⟨0⟩
      [.openAt peer, .send ⟨1⟩ home [1], .receive ⟨0⟩, .send ⟨0⟩ peer [2]] := by
  refine ⟨rfl, (killed_socket_is_silent_iff rfl _).mpr fun before request after split _ =>
    ⟨fun _ => rfl, ?_⟩⟩
  rintro target payload - ⟨earlier, later, rfl, -⟩
  have opened : .openAt home ∈ earlier ++ .openAt home :: later ++ request :: after := by simp
  rw [← split] at opened
  exact absurd opened (by decide)

/-- A killed socket still receives what waited in it, and it sends again once its address
is opened for another. -/
theorem killed_socket_comes_back :
    (empty.serveAll busy).owner? home = some ⟨0⟩ ∧
    ¬ ((empty.serveAll busy).kill home).Silent ⟨0⟩ [.receive ⟨0⟩] ∧
    ¬ ((empty.serveAll busy).kill home).Silent ⟨0⟩ [.openAt home, .send ⟨0⟩ peer [2]] := by
  refine ⟨rfl, fun silent => absurd silent.receives (by decide), fun silent => ?_⟩
  obtain ⟨failure, fails⟩ := silent.sends [.openAt home] peer [2] [] rfl
  exact nomatch fails

end Network
end GossipGroup
