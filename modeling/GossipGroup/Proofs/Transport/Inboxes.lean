import GossipGroup.Transport.Network

/-!
# What waits in a network

Whatever happens to a network, a socket stays at the address it was opened at, and
a number that was given to a socket is not given to another. A datagram waits in an
inbox only if it was sent, and then it bears the address of the socket it was sent
from.
-/

namespace GossipGroup
namespace Network

variable {network next : Network} {id : SocketId} {address target : SocketAddress}
  {payload : List UInt8} {datagram : Datagram} {arrived : Datagram → Prop}

/-- A datagram has been delivered and not been received yet. -/
def Waits (network : Network) (datagram : Datagram) : Prop :=
  ∃ socket ∈ network.sockets, datagram ∈ socket.inbox

/-- The number that the next socket is given is not that of a socket already. -/
def Counted (network : Network) : Prop :=
  ∀ socket ∈ network.sockets, socket.id.number < network.next

/-- A network goes on without another socket being opened, and of the datagrams that
wait the new ones are some of those given. -/
structure Continues (network next : Network) (arrived : Datagram → Prop) : Prop where
  count : next.next = network.next
  sockets : ∀ socket ∈ next.sockets, ∃ former ∈ network.sockets,
    former.id = socket.id ∧ former.address = socket.address
  waits : ∀ datagram, next.Waits datagram → network.Waits datagram ∨ arrived datagram

theorem mem_of_socket?_eq_some
    {socket : NetworkSocket}
    (found : network.socket? id = some socket) :
    socket ∈ network.sockets ∧ socket.id = id := by
  have matching := List.find?_some found
  exact ⟨List.mem_of_find?_eq_some found, of_decide_eq_true matching⟩

theorem Continues.refl (network : Network) (arrived : Datagram → Prop) :
    network.Continues network arrived where
  count := rfl
  sockets := fun socket present => ⟨socket, present, rfl, rfl⟩
  waits := fun _ waits => .inl waits

theorem Continues.counted
    (continues : network.Continues next arrived)
    (counted : network.Counted) :
    next.Counted := by
  intro socket present
  obtain ⟨former, formerPresent, sameId, -⟩ := continues.sockets socket present
  rw [continues.count, ← sameId]
  exact counted former formerPresent

/-- Sockets may be given other inboxes. -/
theorem continues_map
    (network : Network)
    {change : NetworkSocket → NetworkSocket}
    (same : ∀ socket, (change socket).id = socket.id ∧ (change socket).address = socket.address)
    (waits : ∀ socket ∈ network.sockets, ∀ datagram ∈ (change socket).inbox,
      network.Waits datagram ∨ arrived datagram) :
    network.Continues { network with sockets := network.sockets.map change } arrived where
  count := rfl
  sockets := by
    intro socket present
    obtain ⟨former, formerPresent, rfl⟩ := List.mem_map.mp present
    exact ⟨former, formerPresent, (same former).1.symm, (same former).2.symm⟩
  waits := by
    rintro datagram ⟨socket, present, waiting⟩
    obtain ⟨former, formerPresent, rfl⟩ := List.mem_map.mp present
    exact waits former formerPresent datagram waiting

theorem continues_kill (network : Network) (address : SocketAddress) :
    network.Continues (network.kill address) arrived :=
  ⟨rfl, (Continues.refl network arrived).sockets, fun _ waits => .inl waits⟩

theorem continues_drop (network : Network) (id : SocketId) :
    network.Continues (network.drop id) arrived where
  count := rfl
  sockets := fun socket present => ⟨socket, (List.mem_filter.mp present).1, rfl, rfl⟩
  waits := by
    rintro datagram ⟨socket, present, waiting⟩
    exact .inl ⟨socket, (List.mem_filter.mp present).1, waiting⟩

theorem continues_deliver (network : Network) (id : SocketId) (datagram : Datagram) :
    network.Continues (network.deliver id datagram) (· = datagram) := by
  refine network.continues_map (fun socket => by split <;> exact ⟨rfl, rfl⟩) ?_
  intro socket present other waiting
  split at waiting
  · rcases List.mem_append.mp waiting with before | last
    · exact .inl ⟨socket, present, before⟩
    · exact .inr (List.mem_singleton.mp last)
  · exact .inl ⟨socket, present, waiting⟩

/-- What arrives bears the address of the socket it was sent from. -/
theorem continues_send (sent : network.send id target payload = .ok next) :
    network.Continues next fun datagram =>
      ∃ socket ∈ network.sockets, socket.id = id ∧ datagram = ⟨socket.address, payload⟩ := by
  rw [send] at sent
  split at sent
  · contradiction
  · rename_i socket found
    obtain ⟨present, sameId⟩ := mem_of_socket?_eq_some found
    split at sent
    · contradiction
    · split at sent
      · rw [← Except.ok.inj sent]
        exact Continues.refl network _
      · rename_i receiver owned
        rw [← Except.ok.inj sent]
        have delivered := network.continues_deliver receiver ⟨socket.address, payload⟩
        refine ⟨delivered.count, delivered.sockets, fun datagram waiting => ?_⟩
        exact (delivered.waits datagram waiting).imp_right
          fun same => ⟨socket, present, sameId, same⟩

/-- Whatever is received waited before. -/
theorem waits_of_receive (received : network.receive id = (.datagram datagram, next)) :
    network.Waits datagram := by
  rw [receive] at received
  split at received
  · exact nomatch (Prod.mk.inj received).1
  · rename_i socket found
    split at received
    · split at received <;> exact nomatch (Prod.mk.inj received).1
    · rename_i oldest rest inbox
      obtain ⟨present, -⟩ := mem_of_socket?_eq_some found
      obtain ⟨same, -⟩ := Prod.mk.inj received
      rw [← Reception.datagram.inj same]
      exact ⟨socket, present, inbox ▸ List.mem_cons_self⟩

theorem continues_receive
    {reception : Reception}
    (received : network.receive id = (reception, next)) :
    network.Continues next arrived := by
  obtain rfl : next = (network.receive id).2 := (congrArg Prod.snd received).symm
  rw [receive]
  split
  · exact Continues.refl network arrived
  · rename_i socket found
    split
    · exact Continues.refl network arrived
    · rename_i oldest rest inbox
      obtain ⟨present, -⟩ := mem_of_socket?_eq_some found
      refine network.continues_map (fun other => by split <;> exact ⟨rfl, rfl⟩) ?_
      intro other otherPresent datagram waiting
      split at waiting
      · exact .inl ⟨socket, present, inbox ▸ List.mem_cons_of_mem _ waiting⟩
      · exact .inl ⟨other, otherPresent, waiting⟩

/-- A socket is opened with a number that was not given before, and nothing waits in
it. -/
theorem openAt_eq_ok (opened : network.openAt address = .ok (id, next)) :
    id = ⟨network.next⟩ ∧ next.next = network.next + 1 ∧
      next.sockets = network.sockets ++ [⟨id, address, []⟩] := by
  rw [openAt] at opened
  split at opened
  · contradiction
  · obtain ⟨rfl, rfl⟩ := Prod.mk.inj (Except.ok.inj opened)
    exact ⟨rfl, rfl, rfl⟩

theorem Counted.openAt
    (counted : network.Counted)
    (opened : network.openAt address = .ok (id, next)) :
    next.Counted := by
  obtain ⟨rfl, count, sockets⟩ := openAt_eq_ok opened
  rw [Counted, sockets, count]
  refine List.forall_mem_append.mpr ⟨fun socket present => ?_,
    List.forall_mem_singleton.mpr (Nat.lt_succ_self _)⟩
  exact Nat.lt_succ_of_lt (counted socket present)

theorem waits_of_openAt
    (opened : network.openAt address = .ok (id, next))
    (waits : next.Waits datagram) :
    network.Waits datagram := by
  obtain ⟨-, -, sockets⟩ := openAt_eq_ok opened
  obtain ⟨socket, present, waiting⟩ := waits
  rw [sockets] at present
  rcases List.mem_append.mp present with before | last
  · exact ⟨socket, before, waiting⟩
  · rw [List.mem_singleton.mp last] at waiting
    exact absurd waiting List.not_mem_nil

end Network
end GossipGroup
