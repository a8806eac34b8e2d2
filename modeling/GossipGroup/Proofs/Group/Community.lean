import GossipGroup.Proofs.Group.Nodes
import GossipGroup.Proofs.Node.Sending
import GossipGroup.Proofs.Transport.Inboxes

/-!
# Nodes on one network

A community is a number of nodes, each with a socket of its own on one network in
memory. Nodes start, go through rounds, take in what their sockets have for them,
are told to stop and take their leave; addresses are killed, and sockets dropped.
Nobody else uses the network. Every datagram that waits in it was written by one
of the nodes from a digest that can be read, and so no node is ever stopped by what
it takes in.
-/

namespace GossipGroup

/-- A node and the number of its socket. -/
structure Inhabitant (listener : Type) where
  node : Node listener
  socket : SocketId

/-- A digest that was sent, and the place of the node that wrote it. -/
structure Letter where
  writer : Nat
  digest : Digest
  deriving DecidableEq

/-- Nodes on one network. -/
structure Community (listener : Type) where
  network : Network
  inhabitants : List (Inhabitant listener)
  /-- What was ever sent. No step depends on it. -/
  letters : List Letter

namespace Community

variable {listener : Type}

/-- Nobody has started yet. -/
def empty : Community listener := ⟨.empty, [], []⟩

/-- What a node can do or be asked for. -/
inductive Action (listener : Type)
  /-- The node goes through a round of gossip. -/
  | round (now : Instant) (number : Nat)
  /-- The node goes through a round of negotiation. -/
  | negotiate (now : Instant)
  /-- The node takes in what its socket has for it. -/
  | receive (now : Instant)
  /-- Somebody subscribes. -/
  | subscribe (newcomer : listener)
  /-- A subscription is given up. -/
  | unsubscribe (id : SubscriptionId)
  /-- The node is told to stop. -/
  | stop
  /-- The node sends its leave notices. -/
  | farewell (numbers : List Nat)
  /-- The node gives its socket up. -/
  | drop

/-- What can happen in a community. -/
inductive Deed (listener : Type)
  /-- A node starts. -/
  | start (endpoints : Endpoints) (settings : Settings) (wallTime : WallTime) (now : Instant)
  /-- A node does something. -/
  | act (place : Nat) (action : Action listener)
  /-- An address is killed. -/
  | kill (address : SocketAddress)

/-- Where the nodes listen. -/
def addresses (community : Community listener) : List SocketAddress :=
  community.inhabitants.map (·.node.endpoints.listen)

/-- The community with a node that starts. It does not with settings that have a fault
or at an address that is taken. -/
def welcome
    (community : Community listener)
    (endpoints : Endpoints)
    (settings : Settings)
    (wallTime : WallTime)
    (now : Instant) : Community listener :=
  match settings.fault?, community.network.openAt endpoints.listen with
  | none, .ok (socket, network) =>
      { community with
        network
        inhabitants :=
          community.inhabitants ++ [⟨.joining endpoints settings wallTime now, socket⟩] }
  | _, _ => community

/-- The community with another state of a node. -/
def put
    (community : Community listener)
    (place : Nat)
    (socket : SocketId)
    (node : Node listener) : Community listener :=
  { community with inhabitants := community.inhabitants.set place ⟨node, socket⟩ }

/-- The network after a datagram was handed to a socket. If it cannot be sent, nothing
happens. -/
def handOver (socket : SocketId) (network : Network) (item : Outgoing) : Network :=
  match network.send socket item.target item.payload with
  | .ok next => next
  | .error _ => network

/-- The community after a node has sent the datagrams that carry a digest. -/
def mail
    (community : Community listener)
    (place : Nat)
    (socket : SocketId)
    (digest : Digest)
    (outgoing : List Outgoing) : Community listener :=
  { community with
    network := outgoing.foldl (handOver socket) community.network
    letters := community.letters ++ outgoing.map fun _ => ⟨place, digest⟩ }

/-- The community after a node took in what its socket has for it, if it still takes
anything in. -/
def takeIn
    (community : Community listener)
    (place : Nat)
    (inhabitant : Inhabitant listener)
    (now : Instant) : Community listener :=
  if inhabitant.node.isReceiving then
    match community.network.receive inhabitant.socket with
    | (.datagram datagram, network) =>
        { community with network }.put place inhabitant.socket
          (inhabitant.node.receive now (.payload datagram.payload)).node
    | (.closed, _) =>
        community.put place inhabitant.socket
          (inhabitant.node.receive now (.failure .notConnected)).node
    | (.idle, _) => community
  else community

/-- The community after a node did something. -/
def act
    (community : Community listener)
    (place : Nat)
    (inhabitant : Inhabitant listener) : Action listener → Community listener
  | .round now number =>
      let reaction := inhabitant.node.undergo (.round now number)
      (community.put place inhabitant.socket reaction.node).mail place inhabitant.socket
        (reaction.node.roster.shared now) reaction.outgoing
  | .negotiate now =>
      community.mail place inhabitant.socket (inhabitant.node.roster.shared now)
        (inhabitant.node.negotiate now)
  | .receive now => community.takeIn place inhabitant now
  | .subscribe newcomer =>
      community.put place inhabitant.socket (inhabitant.node.subscribe newcomer).2
  | .unsubscribe id => community.put place inhabitant.socket (inhabitant.node.unsubscribe id).2
  | .stop => community.put place inhabitant.socket inhabitant.node.stop
  | .farewell numbers =>
      community.mail place inhabitant.socket
        (inhabitant.node.roster.leaveNotice inhabitant.node.settings.leaveMargin)
        (inhabitant.node.farewell numbers)
  | .drop => { community with network := community.network.drop inhabitant.socket }

/-- What a deed makes of a community. -/
def perform (community : Community listener) : Deed listener → Community listener
  | .start endpoints settings wallTime now => community.welcome endpoints settings wallTime now
  | .act place action =>
      match community.inhabitants[place]? with
      | some inhabitant => community.act place inhabitant action
      | none => community
  | .kill address => { community with network := community.network.kill address }

/-- One deed after another. -/
def run (community : Community listener) : List (Deed listener) → Community listener
  | [] => community
  | deed :: deeds => (community.perform deed).run deeds

/-! ## The invariant -/

variable {community : Community listener} {place : Nat} {inhabitant : Inhabitant listener}

/-- A datagram carries a letter of the node that listens where it comes from. -/
def Wrote (community : Community listener) (datagram : Datagram) : Prop :=
  ∃ letter ∈ community.letters, community.addresses[letter.writer]? = some datagram.sender ∧
    letter.digest.encode = .ok datagram.payload

/-- A node in good order, with a socket of its own where it listens, unless it has given
that up. -/
structure Settled (inhabitant : Inhabitant listener) (network : Network) : Prop where
  sound : inhabitant.node.Sound
  numbered : inhabitant.socket.number < network.next
  housed : ∀ socket ∈ network.sockets,
    socket.id = inhabitant.socket → socket.address = inhabitant.node.endpoints.listen

/-- Every node has settled, the reports of every letter ascend, and all that waits was
written by a node. -/
structure Orderly (community : Community listener) : Prop where
  counted : community.network.Counted
  settled : ∀ inhabitant ∈ community.inhabitants, Settled inhabitant community.network
  ascending : ∀ letter ∈ community.letters, Ascending letter.digest.reports
  written : ∀ datagram, community.network.Waits datagram → community.Wrote datagram

theorem orderly_empty : (empty : Community listener).Orderly where
  counted := fun _ absent => absurd absent List.not_mem_nil
  settled := fun _ absent => absurd absent List.not_mem_nil
  ascending := fun _ absent => absurd absent List.not_mem_nil
  written := by
    rintro datagram ⟨socket, absent, -⟩
    exact absurd absent List.not_mem_nil

theorem Settled.continue
    {network next : Network}
    {arrived : Datagram → Prop}
    (settled : Settled inhabitant network)
    (continues : network.Continues next arrived) :
    Settled inhabitant next where
  sound := settled.sound
  numbered := continues.count ▸ settled.numbered
  housed := by
    intro socket present own
    obtain ⟨former, formerPresent, sameId, sameAddress⟩ := continues.sockets socket present
    rw [← sameAddress]
    exact settled.housed former formerPresent (sameId.trans own)

/-- Somebody else's socket is another one. -/
theorem Settled.openAt
    {network next : Network}
    {address : SocketAddress}
    {id : SocketId}
    (settled : Settled inhabitant network)
    (opened : network.openAt address = .ok (id, next)) :
    Settled inhabitant next := by
  obtain ⟨rfl, count, sockets⟩ := Network.openAt_eq_ok opened
  refine ⟨settled.sound, count ▸ Nat.lt_succ_of_lt settled.numbered, ?_⟩
  rw [sockets]
  refine List.forall_mem_append.mpr ⟨settled.housed, List.forall_mem_singleton.mpr fun own => ?_⟩
  exact absurd (own ▸ settled.numbered) (Nat.lt_irrefl _)

theorem settled_joining
    {network next : Network}
    {endpoints : Endpoints}
    {settings : Settings}
    {id : SocketId}
    (counted : network.Counted)
    (opened : network.openAt endpoints.listen = .ok (id, next))
    (wallTime : WallTime)
    (now : Instant) :
    Settled (⟨.joining endpoints settings wallTime now, id⟩ : Inhabitant listener) next := by
  obtain ⟨rfl, count, sockets⟩ := Network.openAt_eq_ok opened
  refine ⟨Node.sound_joining endpoints settings wallTime now, count ▸ Nat.lt_succ_self _, ?_⟩
  rw [sockets]
  refine List.forall_mem_append.mpr ⟨fun socket present own => ?_,
    List.forall_mem_singleton.mpr fun _ => rfl⟩
  exact absurd (own ▸ counted socket present) (Nat.lt_irrefl _)

/-- Another network, in which nothing waits but what waited before or was written. -/
theorem Orderly.continue
    {network : Network}
    {arrived : Datagram → Prop}
    (orderly : community.Orderly)
    (continues : community.network.Continues network arrived)
    (written : ∀ datagram, arrived datagram → community.Wrote datagram) :
    Orderly { community with network } where
  counted := continues.counted orderly.counted
  settled := fun inhabitant present => (orderly.settled inhabitant present).continue continues
  ascending := orderly.ascending
  written := by
    intro datagram waits
    rcases continues.waits datagram waits with before | arrival
    · exact orderly.written datagram before
    · exact written datagram arrival

/-- A node may change as long as it stays in good order and where it is. -/
theorem Orderly.put
    {node : Node listener}
    (orderly : community.Orderly)
    (present : community.inhabitants[place]? = some inhabitant)
    (sameEndpoints : node.endpoints = inhabitant.node.endpoints)
    (sound : node.Sound) :
    (community.put place inhabitant.socket node).Orderly := by
  have settled := orderly.settled inhabitant (List.mem_of_getElem? present)
  have sameAddress := congrArg Endpoints.listen sameEndpoints
  have sameAddresses : (community.put place inhabitant.socket node).addresses =
      community.addresses :=
    map_set_of_present present sameAddress
  refine ⟨orderly.counted, fun other otherPresent => ?_, orderly.ascending, ?_⟩
  · rcases List.mem_or_eq_of_mem_set otherPresent with before | rfl
    · exact orderly.settled other before
    · exact ⟨sound, settled.numbered, fun socket socketPresent own =>
        (settled.housed socket socketPresent own).trans sameAddress.symm⟩
  · intro datagram waits
    obtain ⟨letter, sent, sender, payload⟩ := orderly.written datagram waits
    exact ⟨letter, sent, sameAddresses ▸ sender, payload⟩

/-- More letters may be written, if their reports ascend. -/
theorem Orderly.post
    {letters : List Letter}
    (orderly : community.Orderly)
    (ascending : ∀ letter ∈ letters, Ascending letter.digest.reports) :
    Orderly { community with letters := community.letters ++ letters } where
  counted := orderly.counted
  settled := orderly.settled
  ascending := List.forall_mem_append.mpr ⟨orderly.ascending, ascending⟩
  written := by
    intro datagram waits
    obtain ⟨letter, sent, sender, payload⟩ := orderly.written datagram waits
    exact ⟨letter, List.mem_append_left _ sent, sender, payload⟩

/-- A node may hand over what it has written. -/
theorem Orderly.handOver
    {item : Outgoing}
    {letter : Letter}
    (orderly : community.Orderly)
    (present : community.inhabitants[place]? = some inhabitant)
    (sent : letter ∈ community.letters)
    (writer : letter.writer = place)
    (payload : letter.digest.encode = .ok item.payload) :
    Orderly { community with
      network := Community.handOver inhabitant.socket community.network item } := by
  rw [Community.handOver]
  split
  · rename_i next delivered
    refine orderly.continue (Network.continues_send delivered) ?_
    rintro datagram ⟨socket, socketPresent, own, rfl⟩
    refine ⟨letter, sent, ?_, payload⟩
    rw [addresses, List.getElem?_map, writer, present, Option.map_some]
    have settled := orderly.settled inhabitant (List.mem_of_getElem? present)
    exact congrArg some (settled.housed socket socketPresent own).symm
  · exact orderly

/-- So it may hand over one datagram after another. -/
theorem Orderly.handOverAll
    {outgoing : List Outgoing}
    {letter : Letter}
    (orderly : community.Orderly)
    (present : community.inhabitants[place]? = some inhabitant)
    (sent : letter ∈ community.letters)
    (writer : letter.writer = place)
    (payloads : ∀ item ∈ outgoing, letter.digest.encode = .ok item.payload) :
    Orderly { community with
      network := outgoing.foldl (Community.handOver inhabitant.socket) community.network } := by
  induction outgoing generalizing community with
  | nil => exact orderly
  | cons item outgoing inductionHypothesis =>
      obtain ⟨payload, payloads⟩ := List.forall_mem_cons.mp payloads
      exact inductionHypothesis (orderly.handOver present sent writer payload) present sent payloads

/-- A node may send whatever carries a digest that can be read. -/
theorem Orderly.mail
    {digest : Digest}
    {outgoing : List Outgoing}
    (orderly : community.Orderly)
    (present : community.inhabitants[place]? = some inhabitant)
    (sends : Node.Sends digest outgoing) :
    (community.mail place inhabitant.socket digest outgoing).Orderly := by
  have posted : Orderly { community with
      letters := community.letters ++ outgoing.map fun _ => ⟨place, digest⟩ } := by
    refine orderly.post fun letter written => ?_
    obtain ⟨item, sent, rfl⟩ := List.mem_map.mp written
    exact (sends item sent).2
  by_cases silent : outgoing = []
  · rw [silent] at posted ⊢
    exact posted
  · -- All the datagrams carry the same letter, which is posted with the first of them.
    have sent : (⟨place, digest⟩ : Letter) ∈
        community.letters ++ outgoing.map fun _ => ⟨place, digest⟩ := by
      obtain ⟨item, first⟩ := List.exists_mem_of_ne_nil outgoing silent
      exact List.mem_append_right _ (List.mem_map_of_mem first)
    exact posted.handOverAll present sent rfl fun item carried => (sends item carried).1

/-! ## What keeps the order -/

/-- A node that starts has a socket of its own, in which nothing waits. -/
theorem Orderly.welcome
    (orderly : community.Orderly)
    (endpoints : Endpoints)
    (settings : Settings)
    (wallTime : WallTime)
    (now : Instant) :
    (community.welcome endpoints settings wallTime now).Orderly := by
  rw [Community.welcome]
  split
  · rename_i socket network _ opened
    refine ⟨orderly.counted.openAt opened, ?_, orderly.ascending, ?_⟩
    · exact List.forall_mem_append.mpr
        ⟨fun inhabitant present => (orderly.settled inhabitant present).openAt opened,
          List.forall_mem_singleton.mpr
            (settled_joining orderly.counted opened wallTime now)⟩
    · intro datagram waits
      obtain ⟨letter, sent, sender, payload⟩ :=
        orderly.written datagram (Network.waits_of_openAt opened waits)
      refine ⟨letter, sent, ?_, payload⟩
      obtain ⟨bound, -⟩ := List.getElem?_eq_some_iff.mp sender
      rw [addresses, List.map_append]
      exact (List.getElem?_append_left bound).trans sender
  · exact orderly

/-- Whatever a node takes in was written by a node, and so can be read. -/
theorem Orderly.takeIn
    (orderly : community.Orderly)
    (present : community.inhabitants[place]? = some inhabitant)
    (now : Instant) :
    (community.takeIn place inhabitant now).Orderly := by
  have sound := (orderly.settled inhabitant (List.mem_of_getElem? present)).sound
  have ascending := fun arrival => (Node.ascending_undergo sound.ascending (.arrival now arrival)).1
  rw [Community.takeIn]
  split
  · rename_i receiving
    split
    · rename_i datagram network received
      have continues : community.network.Continues network fun _ => False :=
        Network.continues_receive received
      obtain ⟨letter, sent, -, payload⟩ :=
        orderly.written datagram (Network.waits_of_receive received)
      have keeps := Node.keeps_receive_of_encode payload (orderly.ascending letter sent)
        receiving now
      exact (orderly.continue continues fun _ => False.elim).put present keeps.endpoints
        (sound.of_keeps keeps (ascending _))
    · have keeps := inhabitant.node.keeps_receive_failure now .notConnected
      exact orderly.put present keeps.endpoints (sound.of_keeps keeps (ascending _))
    · exact orderly
  · exact orderly

/-- Nothing that a node does disturbs the order. -/
theorem Orderly.act
    (orderly : community.Orderly)
    (present : community.inhabitants[place]? = some inhabitant)
    (action : Action listener) :
    (community.act place inhabitant action).Orderly := by
  have sound := (orderly.settled inhabitant (List.mem_of_getElem? present)).sound
  cases action with
  | round now number =>
      have keeps := inhabitant.node.keeps_round now number
      have ascending := (Node.ascending_undergo sound.ascending (.round now number)).1
      have changed := orderly.put present keeps.endpoints (sound.of_keeps keeps ascending)
      have still : (community.put place inhabitant.socket
          (inhabitant.node.undergo (.round now number)).node).inhabitants[place]? =
            some ⟨(inhabitant.node.undergo (.round now number)).node, inhabitant.socket⟩ := by
        rw [Community.put, getElem?_set_of_present present, if_pos rfl]
      have mailed := changed.mail still (Node.sends_round sound now number)
      exact mailed
  | negotiate now => exact orderly.mail present (Node.sends_negotiate sound now)
  | receive now => exact orderly.takeIn present now
  | subscribe newcomer => exact orderly.put present rfl ⟨sound.ascending, sound.readable⟩
  | unsubscribe id => exact orderly.put present rfl ⟨sound.ascending, sound.readable⟩
  | stop => exact orderly.put present rfl ⟨sound.ascending, sound.readable⟩
  | farewell numbers => exact orderly.mail present (inhabitant.node.sends_farewell numbers)
  | drop =>
      exact orderly.continue (community.network.continues_drop inhabitant.socket)
        fun _ => False.elim

theorem Orderly.perform (orderly : community.Orderly) (deed : Deed listener) :
    (community.perform deed).Orderly := by
  cases deed with
  | start endpoints settings wallTime now => exact orderly.welcome endpoints settings wallTime now
  | act place action =>
      rw [Community.perform]
      split
      · rename_i inhabitant present
        exact orderly.act present action
      · exact orderly
  | kill address =>
      exact orderly.continue (community.network.continues_kill address) fun _ => False.elim

/-- A community stays in order, whatever happens. -/
theorem Orderly.run (orderly : community.Orderly) (deeds : List (Deed listener)) :
    (community.run deeds).Orderly := by
  induction deeds generalizing community with
  | nil => exact orderly
  | cons deed deeds inductionHypothesis => exact inductionHypothesis (orderly.perform deed)

/-- A node that has not refused a datagram does not end for want of reading one. -/
theorem verdict_ne_unreadable
    {node : Node listener}
    (sound : node.Sound)
    (farewellError : Option TransportError)
    (error : DecodeError) :
    node.verdict farewellError ≠ .error (.unreadable error) := by
  unfold Node.verdict
  split
  · rename_i refusal refused
    exact absurd refused (sound.readable refusal)
  · exact nofun
  · exact nofun

/-- Whatever happens in a community, no node is ever stopped by what it takes in. What
a node has waiting for it is what another, or itself, has written, and reads as the
very digest that was written. If it is too long for the node, the node passes over it;
otherwise the node takes that digest in. -/
theorem nodes_never_stop_each_other
    {deeds : List (Deed listener)}
    (present : inhabitant ∈ (empty.run deeds).inhabitants) :
    (∀ error, inhabitant.node.receiver ≠ .refused error) ∧
    (∀ farewellError error, inhabitant.node.verdict farewellError ≠ .error (.unreadable error)) ∧
    ∀ datagram network,
      (empty.run deeds).network.receive inhabitant.socket = (.datagram datagram, network) →
        ∃ letter ∈ (empty.run deeds).letters,
          (empty.run deeds).addresses[letter.writer]? = some datagram.sender ∧
          letter.digest.encode = .ok datagram.payload ∧
          Digest.decode datagram.payload = .ok letter.digest ∧
          ∀ now, inhabitant.node.isReceiving = true →
            inhabitant.node.receive now (.payload datagram.payload) =
              if inhabitant.node.settings.maxDatagram < datagram.payload.length then
                .quiet inhabitant.node
              else inhabitant.node.absorb now letter.digest := by
  have orderly : (empty.run deeds).Orderly := orderly_empty.run deeds
  have sound := (orderly.settled inhabitant present).sound
  refine ⟨sound.readable, verdict_ne_unreadable sound, fun datagram network received => ?_⟩
  obtain ⟨letter, sent, sender, payload⟩ :=
    orderly.written datagram (Network.waits_of_receive received)
  have ascending := orderly.ascending letter sent
  exact ⟨letter, sent, sender, payload, Digest.decode_of_encode payload ascending,
    fun now receiving => Node.receive_of_encode payload ascending receiving now⟩

/-- Where the introducer listens. -/
def hearth : SocketAddress := .v4 ⟨127, 0, 0, 1⟩ 7000

/-- Where a newcomer listens. -/
def doorstep : SocketAddress := .v4 ⟨127, 0, 0, 1⟩ 7001

/-- An introducer that takes in datagrams of up to so many bytes, when it starts. -/
def host (room : Nat) : Inhabitant Unit :=
  ⟨.joining ⟨hearth, hearth, hearth⟩ { maxDatagram := room } ⟨1⟩ ⟨0⟩, ⟨0⟩⟩

/-- A newcomer when it starts. -/
def guest : Inhabitant Unit := ⟨.joining ⟨doorstep, doorstep, hearth⟩ {} ⟨2⟩ ⟨5⟩, ⟨1⟩⟩

/-- The newcomer turns to the introducer. -/
def introduction (room : Nat) : List (Deed Unit) :=
  [.start (host room).node.endpoints (host room).node.settings ⟨1⟩ ⟨0⟩,
    .start guest.node.endpoints guest.node.settings ⟨2⟩ ⟨5⟩,
    .act 1 (.negotiate ⟨10⟩)]

/-- What the newcomer writes. -/
def greeting : Digest := ⟨[⟨guest.node.identity, 0, .alive⟩]⟩

/-- An introducer with room for it takes in what a newcomer has written, and one without
passes over it. -/
theorem greeting_is_read_or_passed_over :
    (host 100 ∈ (empty.run (introduction 100)).inhabitants ∧
      ∃ datagram network,
        (empty.run (introduction 100)).network.receive ⟨0⟩ = (.datagram datagram, network) ∧
        Digest.decode datagram.payload = .ok greeting ∧
        (host 100).node.receive ⟨20⟩ (.payload datagram.payload) =
          (host 100).node.absorb ⟨20⟩ greeting) ∧
    host 60 ∈ (empty.run (introduction 60)).inhabitants ∧
      ∃ datagram network,
        (empty.run (introduction 60)).network.receive ⟨0⟩ = (.datagram datagram, network) ∧
        (host 60).node.receive ⟨20⟩ (.payload datagram.payload) = .quiet (host 60).node := by
  constructor
  · have present : host 100 ∈ (empty.run (introduction 100)).inhabitants := List.mem_cons_self
    have computed : (empty.run (introduction 100)).letters = [⟨1, greeting⟩] ∧
        ((empty.run (introduction 100)).network.receive ⟨0⟩).1 =
          .datagram ⟨doorstep, greeting.bytes⟩ := by
      decide +kernel
    obtain ⟨-, -, arrives⟩ := nodes_never_stop_each_other present
    cases received : (empty.run (introduction 100)).network.receive ⟨0⟩ with
    | mk reception network =>
        rw [received] at computed
        obtain ⟨letters, rfl⟩ := computed
        obtain ⟨letter, sent, -, -, decoded, taken⟩ := arrives _ network received
        rw [letters, List.mem_singleton] at sent
        rw [sent] at decoded taken
        exact ⟨present, _, network, rfl, decoded,
          (taken ⟨20⟩ rfl).trans (if_neg (by decide +kernel))⟩
  · have present : host 60 ∈ (empty.run (introduction 60)).inhabitants := List.mem_cons_self
    have waiting : ((empty.run (introduction 60)).network.receive ⟨0⟩).1 =
        .datagram ⟨doorstep, greeting.bytes⟩ := by
      decide +kernel
    obtain ⟨-, -, arrives⟩ := nodes_never_stop_each_other present
    cases received : (empty.run (introduction 60)).network.receive ⟨0⟩ with
    | mk reception network =>
        rw [received] at waiting
        obtain rfl := waiting
        obtain ⟨letter, -, -, -, -, taken⟩ := arrives _ network received
        exact ⟨present, _, network, rfl, (taken ⟨20⟩ rfl).trans (if_pos (by decide +kernel))⟩

end Community
end GossipGroup
