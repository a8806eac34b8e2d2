import GossipGroup.Proofs.Node.Sending

/-!
# Nothing that is sent is too long

The length of a leave notice is never compared with what the settings allow. It does
not need to be: a datagram with a report in it is no shorter than a notice, so a node
whose limit is below that never learns of anybody and has nobody to take leave of. All
else that a node sends is measured. So whatever a node goes through, and whatever
datagrams it takes in, it keeps to its limit.
-/

namespace GossipGroup

/-- No datagram is shorter than the one that its digest is written with. -/
theorem Digest.length_bytes_le
    {bytes : List UInt8}
    {digest : Digest}
    (read : decode bytes = .ok digest) :
    digest.bytes.length ≤ bytes.length := by
  obtain ⟨body, carries, written, -⟩ := decode_eq_ok_iff.mp read
  have whole := carries.length_eq
  rw [length_bytes, size]
  cases written with
  | mk recordsWritten =>
      have records := recordsWritten.length
      simp only [List.length_append, length_rootOf, rootSize, checksumSize, recordSize] at *
      omega

/-- The length of a datagram with one report. -/
def Digest.oneReportLength : Nat := 68

/-- Among nobody nobody is chosen. -/
theorem sample_nil {α : Type} (numbers : List Nat) : sample numbers ([] : List α) = [] := by
  cases numbers <;> rfl

namespace Roster

variable {roster : Roster}

theorem length_of_encode_leaveNotice
    {margin : UInt64}
    {payload : List UInt8}
    (encoded : (roster.leaveNotice margin).encode = .ok payload) :
    payload.length = Digest.oneReportLength := by
  rw [(Digest.encode_eq_ok_iff.mp encoded).2]
  exact Digest.length_bytes _

/-- The roster holds nobody but its own node. -/
def IsAlone (roster : Roster) : Prop :=
  ∀ member ∈ roster.members, member.identity.same roster.self = true

theorem isAlone_founding
    (self : Identity)
    (failTimeout cleanupTimeout : Span)
    (start : Instant) :
    (founding self failTimeout cleanupTimeout start).IsAlone :=
  List.forall_mem_singleton.mpr (Identity.same_refl self)

theorem isAlone_emptied (roster : Roster) : roster.emptied.IsAlone :=
  fun _ absent => absurd absent List.not_mem_nil

/-- Ageing brings nobody into a roster. -/
theorem IsAlone.aged (alone : roster.IsAlone) (now : Instant) : (roster.aged now).IsAlone := by
  intro member present
  rcases mem_aged present with ⟨own, -, -, rfl⟩ | ⟨held, heldPresent, named, -⟩
  · exact Identity.same_refl roster.self
  · rw [named]
    exact alone held heldPresent

/-- A digest without reports leaves a roster as it is. -/
theorem merge_of_reports_eq_nil
    {digest : Digest}
    (silent : digest.reports = [])
    (roster : Roster)
    (now : Instant) :
    roster.merge digest now = (roster, []) := by
  have unmoved : mergeMembers now roster.members [] = (roster.members, []) := by
    induction roster.members with
    | nil => rfl
    | cons member members inductionHypothesis =>
        rw [mergeMembers, mergeAround, inductionHypothesis]
        rfl
  rw [merge, silent, unmoved]

/-- Who knows nobody else has nobody to choose from. -/
theorem IsAlone.aliveOthers_eq_nil (alone : roster.IsAlone) : roster.aliveOthers = [] := by
  rw [aliveOthers, List.map_eq_nil_iff, List.filter_eq_nil_iff]
  intro member present
  rw [alone member present]
  simp

end Roster

namespace Node

variable {listener : Type} {node : Node listener} {item : Outgoing}

/-! ## Whom a node knows -/

/-- The node has room for datagrams with a report in them, or knows nobody else. -/
def RoomOrAlone (node : Node listener) : Prop :=
  Digest.oneReportLength ≤ node.settings.maxDatagram ∨ node.roster.IsAlone

/-- What is accepted is no longer than the settings allow. -/
theorem length_bytes_le_of_accepted?
    {arrival : Arrival}
    {digest : Digest}
    (accepted : node.accepted? arrival = some digest) :
    digest.bytes.length ≤ node.settings.maxDatagram := by
  cases arrival with
  | failure kind => contradiction
  | payload bytes =>
      rw [accepted?, Option.ite_none_right_eq_some] at accepted
      obtain ⟨⟨-, fits⟩, read⟩ := accepted
      exact Nat.le_trans (Digest.length_bytes_le (Roster.eq_ok_of_toOption_eq_some read)) fits

/-- A node that knows nobody else learns of somebody only if it has room for a
report. -/
theorem RoomOrAlone.undergo
    (limited : node.RoomOrAlone)
    (turn : Turn listener) :
    (node.undergo turn).node.RoomOrAlone := by
  rw [RoomOrAlone, (node.sameSetup_undergo turn).settings]
  refine limited.elim .inl fun alone => ?_
  rw [(node.publishes_undergo turn).roster]
  cases turn with
  | round now number =>
      rw [revision]
      cases aged : node.roster.age now with
      | error error => exact .inr node.roster.isAlone_emptied
      | ok result =>
          obtain ⟨-, rfl⟩ := Roster.age_eq_ok_iff.mp aged
          exact .inr (alone.aged now)
  | arrival now arrival =>
      rw [revision]
      cases accepted : node.accepted? arrival with
      | none => exact .inr alone
      | some digest =>
          have fits := length_bytes_le_of_accepted? accepted
          rw [Digest.length_bytes, Digest.size] at fits
          by_cases silent : digest.reports = []
          · simp only [Roster.merge_of_reports_eq_nil silent]
            exact .inr alone
          · have told := List.length_pos_iff.mpr silent
            refine .inl ?_
            rw [Digest.oneReportLength]
            omega
  | subscribe newcomer => exact .inr alone
  | unsubscribe id => exact .inr alone
  | stop => exact .inr alone

/-! ## What a node sends -/

/-- What a node does or is asked for. -/
inductive Task (listener : Type)
  /-- The node goes through a turn. -/
  | undergo (turn : Turn listener)
  /-- The node goes through a round of negotiation. -/
  | negotiate (now : Instant)
  /-- The node sends its leave notices. -/
  | farewell (numbers : List Nat)

/-- The node after a task. -/
def after (node : Node listener) : Task listener → Node listener
  | .undergo turn => (node.undergo turn).node
  | .negotiate _ | .farewell _ => node

/-- What a node hands to its socket in a task. -/
def handed (node : Node listener) : Task listener → List Outgoing
  | .undergo turn => (node.undergo turn).outgoing
  | .negotiate now => node.negotiate now
  | .farewell numbers => node.farewell numbers

/-- What a node hands to its socket in one task after another. -/
def handedAlong (node : Node listener) : List (Task listener) → List Outgoing
  | [] => []
  | task :: tasks => node.handed task ++ (node.after task).handedAlong tasks

theorem outgoing_publish (node : Node listener) (roster : Roster) (changes : List Change) :
    (node.publish roster changes).outgoing = [] := by
  cases changes <;> rfl

/-- A node does not answer what it takes in. -/
theorem outgoing_receive (node : Node listener) (now : Instant) (arrival : Arrival) :
    (node.receive now arrival).outgoing = [] := by
  cases arrival with
  | failure kind =>
      unfold receive
      split <;> rfl
  | payload bytes =>
      unfold receive receivePayload
      split
      · dsimp only
        split
        · rfl
        · split
          · rfl
          · exact outgoing_publish _ _ _
      · rfl

theorem length_le_of_mem_outgoing
    {turn : Turn listener}
    (sent : item ∈ (node.undergo turn).outgoing) :
    item.payload.length ≤ node.settings.maxDatagram := by
  cases turn with
  | round now number =>
      rw [undergo, gossip] at sent
      cases aged : node.roster.age now with
      | error error =>
          rw [aged] at sent
          exact absurd sent List.not_mem_nil
      | ok result =>
          simp only [aged, Except.map] at sent
          split at sent
          · exact absurd sent List.not_mem_nil
          · exact (mem_parcel_iff.mp sent).2.1
  | arrival now arrival =>
      rw [undergo, outgoing_receive] at sent
      exact absurd sent List.not_mem_nil
  | subscribe newcomer => exact absurd sent List.not_mem_nil
  | unsubscribe id => exact absurd sent List.not_mem_nil
  | stop => exact absurd sent List.not_mem_nil

/-- A node that has anybody to send a leave notice to has room for one. -/
theorem RoomOrAlone.length_le_of_mem_farewell
    {numbers : List Nat}
    (limited : node.RoomOrAlone)
    (sent : item ∈ node.farewell numbers) :
    item.payload.length ≤ node.settings.maxDatagram := by
  rw [Roster.length_of_encode_leaveNotice (sends_farewell node numbers item sent).1]
  refine limited.elim id fun alone => ?_
  rw [farewell_eq, alone.aliveOthers_eq_nil, sample_nil] at sent
  exact absurd sent List.not_mem_nil

theorem RoomOrAlone.length_le_of_mem_handed
    {task : Task listener}
    (limited : node.RoomOrAlone)
    (sent : item ∈ node.handed task) :
    item.payload.length ≤ node.settings.maxDatagram := by
  cases task with
  | undergo turn => exact length_le_of_mem_outgoing sent
  | negotiate now => exact (mem_parcel_iff.mp sent).2.1
  | farewell numbers => exact limited.length_le_of_mem_farewell sent

/-- A task keeps the settings, and that there is room or nobody else. -/
theorem RoomOrAlone.after (limited : node.RoomOrAlone) (task : Task listener) :
    (node.after task).RoomOrAlone ∧ (node.after task).settings = node.settings := by
  cases task with
  | undergo turn => exact ⟨limited.undergo turn, (node.sameSetup_undergo turn).settings⟩
  | negotiate now => exact ⟨limited, rfl⟩
  | farewell numbers => exact ⟨limited, rfl⟩

theorem RoomOrAlone.length_le_of_mem_handedAlong
    {tasks : List (Task listener)}
    (limited : node.RoomOrAlone)
    (sent : item ∈ node.handedAlong tasks) :
    item.payload.length ≤ node.settings.maxDatagram := by
  induction tasks generalizing node with
  | nil => exact absurd sent List.not_mem_nil
  | cons task tasks inductionHypothesis =>
      rcases List.mem_append.mp sent with now | later
      · exact limited.length_le_of_mem_handed now
      · obtain ⟨nextLimited, sameSettings⟩ := limited.after task
        exact sameSettings ▸ inductionHypothesis nextLimited later

/-- Whatever a node goes through, no datagram that it hands to its socket is longer than
its settings allow, and so none of its leave notices is, although nothing measures
them. -/
theorem length_le_maxDatagram
    {endpoints : Endpoints}
    {settings : Settings}
    {wallTime : WallTime}
    {start : Instant}
    {tasks : List (Task listener)}
    (sent : item ∈ (joining endpoints settings wallTime start).handedAlong tasks) :
    item.payload.length ≤ settings.maxDatagram := by
  have limited : (joining endpoints settings wallTime start : Node listener).RoomOrAlone :=
    .inr (Roster.isAlone_founding _ _ _ _)
  exact limited.length_le_of_mem_handedAlong sent

/-- Settings with room for one report and no more. -/
def narrow : Settings := { maxDatagram := 68 }

/-- The visitor announces itself, a round of gossip follows, and the node leaves. -/
def parting : List (Task Nat) :=
  [.undergo (.arrival ⟨10⟩ (.payload (Digest.bytes ⟨[⟨visitor, 3, .alive⟩]⟩))),
    .undergo (.round ⟨20⟩ 0), .farewell [0]]

set_option maxRecDepth 10000 in
/-- With room for one report the digest of two members is not sent, and the leave notice
is. -/
theorem only_the_leave_notice_fits :
    narrow.fault? = none ∧
      ∃ item, (joining introducer.endpoints narrow ⟨1⟩ ⟨0⟩).handedAlong parting = [item] ∧
        item.target = visitor.address ∧
        item.payload.length ≤ narrow.maxDatagram := by
  have computed : narrow.fault? = none ∧
      (joining introducer.endpoints narrow ⟨1⟩ ⟨0⟩).handedAlong parting =
        [⟨visitor.address, Digest.bytes ⟨[⟨introducer.identity, 11, .left⟩]⟩⟩] := by
    decide +kernel
  refine ⟨computed.1, _, computed.2, rfl, ?_⟩
  exact length_le_maxDatagram (computed.2 ▸ List.mem_cons_self)

end Node
end GossipGroup
