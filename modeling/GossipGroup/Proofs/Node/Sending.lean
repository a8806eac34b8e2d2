import GossipGroup.Node.Departure
import GossipGroup.Proofs.Digest.RoundTrip
import GossipGroup.Proofs.Node.Listening

/-!
# What nodes send to each other

A node sends nothing but digests that can be read: it has written them, and their
reports ascend, for its roster does. Another node passes over a digest that is too
long for it and takes in any other as it was sent.
-/

namespace GossipGroup

namespace Node

variable {listener : Type} {node next : Node listener} {digest : Digest} {item : Outgoing}

/-! ## What stays as it is -/

/-- A node keeps its addresses and its settings, and has not begun to refuse
datagrams. -/
structure Keeps (node next : Node listener) : Prop where
  endpoints : next.endpoints = node.endpoints
  settings : next.settings = node.settings
  refuses : ∀ error, next.receiver = .refused error → node.receiver = .refused error

theorem Keeps.refl (node : Node listener) : node.Keeps node := ⟨rfl, rfl, fun _ => id⟩

theorem keeps_publish (node : Node listener) (roster : Roster) (changes : List Change) :
    node.Keeps (node.publish roster changes).node := by
  cases changes with
  | nil => exact ⟨rfl, rfl, fun _ => id⟩
  | cons change changes => exact ⟨rfl, rfl, fun _ => id⟩

theorem keeps_absorb (node : Node listener) (now : Instant) (digest : Digest) :
    node.Keeps (node.absorb now digest).node := by
  have published := node.countMerge.keeps_publish (node.roster.merge digest now).1
    (node.roster.merge digest now).2
  exact ⟨published.endpoints, published.settings, published.refuses⟩

theorem keeps_round (node : Node listener) (now : Instant) (number : Nat) :
    node.Keeps (node.undergo (.round now number)).node := by
  rw [undergo, gossip]
  cases node.roster.age now with
  | error error => exact ⟨rfl, rfl, fun _ => id⟩
  | ok result =>
      have published := node.countRound.keeps_publish result.1 result.2
      exact ⟨published.endpoints, published.settings, published.refuses⟩

theorem keeps_receive_failure (node : Node listener) (now : Instant) (kind : FailureKind) :
    node.Keeps (node.receive now (.failure kind)).node := by
  unfold receive
  split
  · dsimp only
    split
    · exact Keeps.refl node
    · exact ⟨rfl, rfl, nofun⟩
  · exact Keeps.refl node

/-- A digest that was written is passed over if it is too long, and taken in
otherwise. -/
theorem receive_of_encode
    {payload : List UInt8}
    (encoded : digest.encode = .ok payload)
    (ascending : Ascending digest.reports)
    (receiving : node.isReceiving = true)
    (now : Instant) :
    node.receive now (.payload payload) =
      if node.settings.maxDatagram < payload.length then .quiet node
      else node.absorb now digest := by
  rw [receive, if_pos receiving]
  simp only [receivePayload, Digest.decode_of_encode encoded ascending]

theorem keeps_receive_of_encode
    {payload : List UInt8}
    (encoded : digest.encode = .ok payload)
    (ascending : Ascending digest.reports)
    (receiving : node.isReceiving = true)
    (now : Instant) :
    node.Keeps (node.receive now (.payload payload)).node := by
  rw [receive_of_encode encoded ascending receiving now]
  split
  · exact Keeps.refl node
  · exact node.keeps_absorb now digest

/-- One node has the addresses and the settings of another. -/
structure SameSetup (node next : Node listener) : Prop where
  endpoints : next.endpoints = node.endpoints
  settings : next.settings = node.settings

theorem SameSetup.refl (node : Node listener) : node.SameSetup node := ⟨rfl, rfl⟩

theorem SameSetup.trans
    {last : Node listener}
    (first : node.SameSetup next)
    (second : next.SameSetup last) :
    node.SameSetup last :=
  ⟨second.endpoints.trans first.endpoints, second.settings.trans first.settings⟩

theorem Keeps.sameSetup (keeps : node.Keeps next) : node.SameSetup next :=
  ⟨keeps.endpoints, keeps.settings⟩

/-- Even a datagram that stops a node leaves it its addresses and its settings. -/
theorem sameSetup_receivePayload (node : Node listener) (now : Instant) (bytes : List UInt8) :
    node.SameSetup (node.receivePayload now bytes).node := by
  unfold receivePayload
  split
  · exact SameSetup.refl node
  · split
    · exact ⟨rfl, rfl⟩
    · exact (node.keeps_absorb now _).sameSetup

/-- No turn changes the addresses or the settings of a node. -/
theorem sameSetup_undergo (node : Node listener) (turn : Turn listener) :
    node.SameSetup (node.undergo turn).node := by
  cases turn with
  | round now number => exact (node.keeps_round now number).sameSetup
  | arrival now arrival =>
      cases arrival with
      | failure kind => exact (node.keeps_receive_failure now kind).sameSetup
      | payload bytes =>
          rw [undergo, receive]
          split
          · exact node.sameSetup_receivePayload now bytes
          · exact SameSetup.refl node
  | subscribe newcomer => exact ⟨rfl, rfl⟩
  | unsubscribe id => exact ⟨rfl, rfl⟩
  | stop => exact ⟨rfl, rfl⟩

/-- A node in good order: its roster ascends and it has not refused a datagram. -/
structure Sound (node : Node listener) : Prop where
  ascending : Ascending node.roster.members
  readable : ∀ error, node.receiver ≠ .refused error

theorem sound_joining
    (endpoints : Endpoints)
    (settings : Settings)
    (wallTime : WallTime)
    (start : Instant) :
    (joining endpoints settings wallTime start : Node listener).Sound where
  ascending := ascending_singleton _
  readable := fun _ => nofun

theorem Sound.of_keeps
    (sound : node.Sound)
    (keeps : node.Keeps next)
    (ascending : Ascending next.roster.members) :
    next.Sound where
  ascending := ascending
  readable := fun error refuses => sound.readable error (keeps.refuses error refuses)

/-- A parcel is what a digest is written with, if that is not too long. -/
theorem mem_parcel_iff {target : SocketAddress} :
    item ∈ node.parcel target digest ↔
      digest.encode = .ok item.payload ∧ item.payload.length ≤ node.settings.maxDatagram ∧
        item.target = target := by
  rw [parcel]
  split
  · rename_i error refused
    rw [refused]
    exact iff_of_false List.not_mem_nil fun encoded => nomatch encoded.1
  · rename_i payload encoded
    rw [encoded, Except.ok.injEq]
    split
    · rename_i long
      refine iff_of_false List.not_mem_nil fun ⟨same, fits, _⟩ => ?_
      exact Nat.not_le.mpr long (same ▸ fits)
    · rename_i fits
      rw [List.mem_singleton]
      constructor
      · rintro rfl
        exact ⟨rfl, Nat.not_lt.mp fits, rfl⟩
      · rintro ⟨rfl, -, rfl⟩
        rfl

/-- All that is sent is a digest as it is written, with its reports in order. -/
def Sends (digest : Digest) (outgoing : List Outgoing) : Prop :=
  ∀ item ∈ outgoing, digest.encode = .ok item.payload ∧ Ascending digest.reports

theorem sends_parcel
    (ascending : Ascending digest.reports)
    (target : SocketAddress) :
    Sends digest (node.parcel target digest) :=
  fun _ sent => ⟨(mem_parcel_iff.mp sent).1, ascending⟩

/-- A round of gossip sends what the roster shares after it. -/
theorem sends_round (sound : node.Sound) (now : Instant) (number : Nat) :
    Sends ((node.undergo (.round now number)).node.roster.shared now)
      (node.undergo (.round now number)).outgoing := by
  have ascending := Roster.ascending_shared (ascending_undergo sound.ascending
    (.round now number)).1 now
  rw [undergo, gossip] at ascending ⊢
  cases aged : node.roster.age now with
  | error error => exact fun _ absent => absurd absent List.not_mem_nil
  | ok result =>
      have published := (node.countRound.publishes_publish result.1 result.2).roster
      simp only [aged, Except.map] at ascending ⊢
      rw [published] at ascending ⊢
      split
      · exact fun _ absent => absurd absent List.not_mem_nil
      · exact sends_parcel ascending _

/-- A round of negotiation sends what the roster shares. -/
theorem sends_negotiate (sound : node.Sound) (now : Instant) :
    Sends (node.roster.shared now) (node.negotiate now) :=
  sends_parcel (Roster.ascending_shared sound.ascending now) _

/-- A leave notice, of one report, can be written. -/
theorem farewell_eq (node : Node listener) (numbers : List Nat) :
    node.farewell numbers =
      (sample (numbers.take node.settings.leaveFanout) node.roster.aliveOthers).map fun peer =>
        ⟨peer.address, (node.roster.leaveNotice node.settings.leaveMargin).bytes⟩ := rfl

/-- A farewell sends leave notices, each of one report. -/
theorem sends_farewell (node : Node listener) (numbers : List Nat) :
    Sends (node.roster.leaveNotice node.settings.leaveMargin) (node.farewell numbers) := by
  intro item sent
  rw [farewell_eq] at sent
  obtain ⟨peer, -, rfl⟩ := List.mem_map.mp sent
  exact ⟨rfl, Roster.ascending_leaveNotice _ _⟩

end Node
end GossipGroup
