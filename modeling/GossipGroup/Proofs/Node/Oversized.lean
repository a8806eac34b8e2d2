import GossipGroup.Proofs.Node.Reading

/-!
# Datagrams beyond the limit

A node passes over what is longer than its settings allow. But it can only tell by what
its socket hands over, and a socket of a host has room for just as much as the settings
allow: what is longer arrives cut to the limit, and the node reads it as if it had been
sent so. Only on a network in memory, which hands datagrams over whole, does the node ever
see that one is too long.
-/

namespace GossipGroup

/-- Settings without a fault keep to what a datagram can carry. -/
theorem Settings.maxDatagram_le
    {settings : Settings}
    (valid : settings.fault? = none) :
    settings.maxDatagram ≤ largestDatagram := by
  refine Nat.not_lt.mp fun long => ?_
  have outOfRange : settings.maxDatagram = 0 ∨ largestDatagram < settings.maxDatagram :=
    .inr long
  unfold fault? at valid
  rw [if_pos outOfRange] at valid
  repeat' split at valid
  all_goals contradiction

/-- A node goes on as before: neither it nor its receiver has stopped, its roster is the
same, and it has not merged anything. -/
structure Node.PassesOver {listener : Type} (node next : Node listener) : Prop where
  stopped : next.stopped = node.stopped
  receiver : next.receiver = node.receiver
  roster : next.roster = node.roster
  merged : next.statistics.merged = node.statistics.merged

theorem Node.passesOver_of_eq
    {listener : Type}
    {node next : Node listener}
    (same : next = node) :
    node.PassesOver next := by
  rw [same]
  exact ⟨rfl, rfl, rfl, rfl⟩

theorem Node.merged_absorb
    {listener : Type}
    (node : Node listener)
    (now : Instant)
    (digest : Digest) :
    (node.absorb now digest).node.statistics.merged = node.statistics.merged + 1 := by
  rw [absorb]
  cases node.roster.merge digest now with
  | mk roster changes => cases changes <;> rfl

namespace Station

variable {listener : Type} {station : Station listener} {transport : Transport}
  {endpoints : Endpoints} {settings : Settings} {wallTime : WallTime} {start : Instant}

/-- The socket of a node keeps the room that the settings ask for. -/
theorem givesRoom_run
    (counted : transport.Counted)
    (connected : connect transport endpoints settings wallTime start = .ok station)
    (events : List (Event listener)) :
    (station.run events).transport.GivesRoom (station.run events).socket settings.maxDatagram := by
  obtain ⟨valid, -, opened⟩ := connect_eq_ok connected
  have continues := station.continues_run events
  have gives := Transport.givesRoom_openAt counted opened
  rw [Nat.min_eq_left (Settings.maxDatagram_le valid)] at gives
  rw [continues.socket]
  exact continues.transport.givesRoom gives

/-- What the receiver gets of the oldest datagram that waits. -/
theorem handed?_of_inbox_eq_cons
    {datagram : Datagram}
    {rest : List Datagram}
    {room : Nat}
    (listening : station.node.receiver = .listening)
    (gives : station.transport.GivesRoom station.socket room)
    (waiting : station.transport.inbox station.socket = datagram :: rest) :
    station.handed? =
      some (if station.transport.isMemory then datagram.payload
        else datagram.payload.take room) := by
  rw [handed?, if_pos listening, Transport.receive_of_inbox_eq_cons gives waiting]
  cases station.transport.isMemory <;> rfl

theorem step_receive_of_ended
    (ended : station.node.receiver ≠ .listening)
    (now : Instant) :
    (station.step (.receive now)).node = station.node := by
  rw [step, takeIn, if_neg ended]

/-- A node that takes in what fits does not go on as before. -/
theorem not_passesOver_of_fits
    {payload : List UInt8}
    (listening : station.node.receiver = .listening)
    (handed : station.handed? = some payload)
    (fits : payload.length ≤ station.node.settings.maxDatagram)
    (now : Instant) :
    ¬station.node.PassesOver (station.step (.receive now)).node := by
  intro passes
  have outcome := step_receive_of_fits handed fits now
  cases decoded : Digest.decode payload with
  | ok digest =>
      have merged := passes.merged
      rw [outcome, decoded, Node.merged_absorb] at merged
      exact Nat.succ_ne_self _ merged
  | error error =>
      have receiver := passes.receiver
      rw [outcome, decoded, listening] at receiver
      contradiction

/-- A node that has been started goes on as before after a datagram beyond its limit exactly
if it is on a network in memory or its receiver has ended. Otherwise the host has cut the
datagram to the limit: if what is left can be read, the node merges it, and if not, the
datagram stops the node. -/
theorem passes_over_oversized_iff
    (fresh : transport.Fresh)
    (earlier : List Transport.Request)
    (connected : connect (transport.serveAll earlier) endpoints settings wallTime start =
      .ok station)
    (events : List (Event listener))
    {datagram : Datagram}
    {rest : List Datagram}
    (waiting : (station.run events).transport.inbox (station.run events).socket =
      datagram :: rest)
    (long : settings.maxDatagram < datagram.payload.length)
    (now : Instant) :
    let last := station.run events
    let next := last.step (.receive now)
    (last.node.PassesOver next.node ↔
      transport.isMemory = true ∨ last.node.receiver ≠ .listening) ∧
    (transport.isMemory = false → last.node.receiver = .listening →
      next.node =
        match Digest.decode (datagram.payload.take settings.maxDatagram) with
        | .ok digest => (last.node.absorb now digest).node
        | .error error => { last.node with stopped := true, receiver := .refused error }) := by
  intro last next
  obtain ⟨-, joined, opened⟩ := connect_eq_ok connected
  have used := transport.continues_serveAll earlier
  have gives := givesRoom_run (used.counted fresh.counted) connected events
  have sameSettings : last.node.settings = settings := by
    rw [(station.continues_run events).settings, joined]
    rfl
  have sameKind : last.transport.isMemory = transport.isMemory := by
    rw [(station.continues_run events).transport.isMemory_eq,
      (Transport.continues_openAt opened).isMemory_eq, used.isMemory_eq]
  by_cases listening : last.node.receiver = .listening
  · have handed := handed?_of_inbox_eq_cons listening gives waiting
    rw [sameKind] at handed
    cases kind : transport.isMemory with
    | true =>
        rw [kind, if_pos rfl] at handed
        have same := step_receive_of_long handed (sameSettings ▸ long) now
        exact ⟨iff_of_true (Node.passesOver_of_eq same) (.inl rfl), nofun⟩
    | false =>
        rw [kind, if_neg Bool.false_ne_true] at handed
        -- The room is the limit itself, so the node never sees that something was cut off.
        have fits : (datagram.payload.take settings.maxDatagram).length ≤
            last.node.settings.maxDatagram := by
          rw [sameSettings, List.length_take]
          exact Nat.min_le_left _ _
        refine ⟨iff_of_false (not_passesOver_of_fits listening handed fits now) ?_,
          fun _ _ => step_receive_of_fits handed fits now⟩
        exact not_or.mpr ⟨Bool.false_ne_true, not_not.mpr listening⟩
  · have same := step_receive_of_ended listening now
    exact ⟨iff_of_true (Node.passesOver_of_eq same) (.inr listening),
      fun _ heard => absurd heard listening⟩

/-- Two reports in one digest, which is too long for settings with room for one. -/
def pair : Digest :=
  ⟨[⟨Node.introducer.identity, 1, .alive⟩, ⟨Node.visitor, 4, .alive⟩]⟩

/-- Another socket is opened at the visitor's address, and sends the pair. -/
def delivery : List (Event Nat) :=
  [.elsewhere (.openAt Node.visitor.address largestDatagram), toDoorway pair.bytes]

set_option maxRecDepth 10000 in
/-- On a network in memory the introducer goes on after the pair. -/
theorem doorway_passes_over_pair :
    connect (Transport.serveAll (.memory .empty) []) Node.introducer.endpoints Node.narrow ⟨1⟩
      ⟨0⟩ = .ok doorway ∧
    (doorway.run delivery).transport.inbox (doorway.run delivery).socket =
      [⟨Node.visitor.address, pair.bytes⟩] ∧
    Node.narrow.maxDatagram < pair.bytes.length ∧
    (doorway.run delivery).node.PassesOver
      ((doorway.run delivery).step (.receive ⟨10⟩)).node := by
  have connected : connect (Transport.serveAll (.memory .empty) []) Node.introducer.endpoints
      Node.narrow ⟨1⟩ ⟨0⟩ = .ok doorway := rfl
  have waiting : (doorway.run delivery).transport.inbox (doorway.run delivery).socket =
      [⟨Node.visitor.address, pair.bytes⟩] := by
    decide +kernel
  have long : Node.narrow.maxDatagram < pair.bytes.length := by
    decide +kernel
  obtain ⟨passesOver, -⟩ :=
    passes_over_oversized_iff .memory [] connected delivery waiting long ⟨10⟩
  exact ⟨connected, waiting, long, passesOver.mpr (.inl rfl)⟩

/-- The introducer, with room for one report, at the first socket of a host. -/
def porch : Station Nat where
  node := .joining Node.introducer.endpoints Node.narrow ⟨1⟩ ⟨0⟩
  socket := ⟨0⟩
  transport := .loopback
    { link := .up
      next := 1
      sockets := [⟨⟨0⟩, Node.introducer.identity.address, 68, []⟩] }

set_option maxRecDepth 10000 in
/-- On a host the same pair, which can be read, stops the introducer. -/
theorem porch_is_stopped_by_pair :
    connect (.loopback (.idle .up)) Node.introducer.endpoints Node.narrow ⟨1⟩ ⟨0⟩ = .ok porch ∧
    (porch.run delivery).transport.inbox (porch.run delivery).socket =
      [⟨Node.visitor.address, pair.bytes⟩] ∧
    pair.encode = .ok pair.bytes ∧
    Digest.decode pair.bytes = .ok pair ∧
    Node.narrow.maxDatagram < pair.bytes.length ∧
    ((porch.run delivery).step (.receive ⟨10⟩)).node.stopped = true ∧
    ((porch.run delivery).step (.receive ⟨10⟩)).node.receiver = .refused .checksumMismatch ∧
    ¬(porch.run delivery).node.PassesOver
      ((porch.run delivery).step (.receive ⟨10⟩)).node := by
  have running : (porch.run delivery).node.stopped = false := by
    decide +kernel
  have stopped : ((porch.run delivery).step (.receive ⟨10⟩)).node.stopped = true := by
    decide +kernel
  refine ⟨rfl, by decide +kernel, rfl, ?_, by decide +kernel, stopped, by decide +kernel, ?_⟩
  · apply Roster.eq_ok_of_toOption_eq_some
    decide +kernel
  · intro passes
    exact nomatch stopped.symm.trans (passes.stopped.trans running)

end Station
end GossipGroup
