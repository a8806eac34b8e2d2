import GossipGroup.Proofs.Node.Limits
import GossipGroup.Proofs.Node.Station

/-!
# What a node reads

The receiver of a node passes over what is too long, merges what it can read and ends at
the first datagram that it cannot read. So the digests that a node merges are those of a
prefix of what it receives, whatever else it does meanwhile, and the error of the datagram
that ends the prefix is what the node ends with.
-/

namespace GossipGroup

namespace Digest

/-! ## The readable prefix -/

/-- What comes of reading the payloads that are no longer than a limit. -/
def readings
    (limit : Nat)
    (payloads : List (List UInt8)) : List (Except DecodeError Digest) :=
  (payloads.filter fun payload => payload.length ≤ limit).map decode

/-- The digests that are read before the first payload that cannot be read. -/
def readablePrefix (limit : Nat) (payloads : List (List UInt8)) : List Digest :=
  ((readings limit payloads).takeWhile (·.isOk)).filterMap (·.toOption)

/-- The error of a payload that cannot be read. -/
def failure? : Except DecodeError Digest → Option DecodeError
  | .ok _ => none
  | .error error => some error

/-- The error of the first payload that cannot be read. -/
def firstFailure? (limit : Nat) (payloads : List (List UInt8)) : Option DecodeError :=
  (readings limit payloads).findSome? failure?

variable {limit : Nat} {payload : List UInt8}

theorem readings_cons_of_long (long : limit < payload.length) (payloads : List (List UInt8)) :
    readings limit (payload :: payloads) = readings limit payloads := by
  rw [readings, List.filter_cons_of_neg (by simpa using long)]
  rfl

theorem readings_cons_of_fits (fits : payload.length ≤ limit) (payloads : List (List UInt8)) :
    readings limit (payload :: payloads) = decode payload :: readings limit payloads := by
  rw [readings, List.filter_cons_of_pos (by simpa using fits)]
  rfl

/-- What is too long counts neither as read nor as a failure. -/
theorem reading_cons_of_long (long : limit < payload.length) (payloads : List (List UInt8)) :
    readablePrefix limit (payload :: payloads) = readablePrefix limit payloads ∧
      firstFailure? limit (payload :: payloads) = firstFailure? limit payloads := by
  rw [readablePrefix, firstFailure?, readings_cons_of_long long]
  exact ⟨rfl, rfl⟩

theorem reading_cons_of_read
    {digest : Digest}
    (fits : payload.length ≤ limit)
    (read : decode payload = .ok digest)
    (payloads : List (List UInt8)) :
    readablePrefix limit (payload :: payloads) = digest :: readablePrefix limit payloads ∧
      firstFailure? limit (payload :: payloads) = firstFailure? limit payloads := by
  rw [readablePrefix, firstFailure?, readings_cons_of_fits fits, read,
    List.takeWhile_cons_of_pos rfl]
  exact ⟨rfl, rfl⟩

theorem reading_cons_of_unread
    {error : DecodeError}
    (fits : payload.length ≤ limit)
    (unread : decode payload = .error error)
    (payloads : List (List UInt8)) :
    readablePrefix limit (payload :: payloads) = [] ∧
      firstFailure? limit (payload :: payloads) = some error := by
  rw [readablePrefix, firstFailure?, readings_cons_of_fits fits, unread,
    List.takeWhile_cons_of_neg Bool.false_ne_true]
  exact ⟨rfl, rfl⟩

/-- A failure among the earlier payloads stays the first one. -/
theorem firstFailure?_append_of_some
    {payloads : List (List UInt8)}
    {error : DecodeError}
    (fails : firstFailure? limit payloads = some error)
    (later : List (List UInt8)) :
    firstFailure? limit (payloads ++ later) = some error := by
  rw [firstFailure?, readings, List.filter_append, List.map_append, List.findSome?_append]
  exact Option.or_eq_some_iff.mpr (.inl fails)

end Digest

namespace Node

variable {listener : Type} {node : Node listener}

/-! ## What a node does besides receiving -/

/-- Something that a node does, apart from being told to stop. -/
inductive Act (listener : Type)
  /-- The node goes through a turn. -/
  | undergo (turn : Turn listener)
  /-- The node merges a digest. -/
  | absorb (now : Instant) (digest : Digest)

/-- The digest that is merged, if one is. -/
def Act.digest? : Act listener → Option Digest
  | .undergo _ => none
  | .absorb _ digest => some digest

/-- The node after an act. -/
def enact (node : Node listener) : Act listener → Node listener
  | .undergo turn => (node.undergo turn).node
  | .absorb now digest => (node.absorb now digest).node

/-- The node after one act after another. -/
def enactAll (node : Node listener) (acts : List (Act listener)) : Node listener :=
  acts.foldl enact node

/-- The node as if it had not been stopped, nor its receiver ended. -/
def awake (node : Node listener) : Node listener :=
  { node with stopped := false, receiver := .listening }

theorem awake_publish (node : Node listener) (roster : Roster) (changes : List Change) :
    (node.publish roster changes).node.awake = (node.awake.publish roster changes).node := by
  cases changes <;> rfl

theorem receiver_publish (node : Node listener) (roster : Roster) (changes : List Change) :
    (node.publish roster changes).node.receiver = node.receiver := by
  cases changes <;> rfl

/-- A round of gossip does not depend on whether the node has been stopped. -/
theorem awake_round (node : Node listener) (now : Instant) (number : Nat) :
    (node.undergo (.round now number)).node.awake =
      (node.awake.undergo (.round now number)).node := by
  rw [undergo, undergo, gossip, gossip]
  have sameRoster : node.awake.roster = node.roster := rfl
  rw [sameRoster]
  cases node.roster.age now with
  | error error => rfl
  | ok result => exact node.countRound.awake_publish result.1 result.2

theorem receiver_round (node : Node listener) (now : Instant) (number : Nat) :
    (node.undergo (.round now number)).node.receiver = node.receiver := by
  rw [undergo, gossip]
  cases node.roster.age now with
  | error error => rfl
  | ok result => exact node.countRound.receiver_publish result.1 result.2

theorem awake_absorb (node : Node listener) (now : Instant) (digest : Digest) :
    (node.absorb now digest).node.awake = (node.awake.absorb now digest).node :=
  node.countMerge.awake_publish _ _

theorem receiver_absorb (node : Node listener) (now : Instant) (digest : Digest) :
    (node.absorb now digest).node.receiver = node.receiver :=
  node.countMerge.receiver_publish _ _

/-- A node ends with the error of a datagram exactly if its receiver has ended with it,
whatever becomes of its farewell. -/
theorem verdict_eq_unreadable_iff
    {farewellError : Option TransportError}
    {error : DecodeError} :
    node.verdict farewellError = .error (.unreadable error) ↔ node.receiver = .refused error := by
  unfold verdict
  split
  · rename_i refusal refused
    rw [refused, Except.error.injEq, NodeError.unreadable.injEq, Receiver.refused.injEq]
  · rename_i listening
    exact iff_of_false nofun (listening error)
  · rename_i listening
    exact iff_of_false nofun (listening error)

end Node

namespace Station

variable {listener : Type} {station : Station listener}

/-! ## What a station receives -/

/-- The payload that the receiver gets if it asks the socket for what it has. -/
def handed? (station : Station listener) : Option (List UInt8) :=
  if station.node.receiver = .listening then
    match (station.transport.receive station.socket).1 with
    | .datagram datagram => some datagram.payload
    | .idle | .closed => none
  else none

/-- The payload that is received at an event, if one is. -/
def received? (station : Station listener) : Event listener → Option (List UInt8)
  | .receive _ => station.handed?
  | _ => none

/-- All payloads that are received, in order. -/
def received (station : Station listener) : List (Event listener) → List (List UInt8)
  | [] => []
  | event :: events => (station.received? event).toList ++ (station.step event).received events

/-- What the node does at an event: it merges what it can read of what is not too long,
and otherwise does what it is asked for. -/
def act? (station : Station listener) : Event listener → Option (Node.Act listener)
  | .round now number => some (.undergo (.round now number))
  | .receive now => do
      let payload ← station.handed?
      if payload.length ≤ station.node.settings.maxDatagram then
        (Digest.decode payload).toOption.map (.absorb now)
      else none
  | .subscribe newcomer => some (.undergo (.subscribe newcomer))
  | .unsubscribe id => some (.undergo (.unsubscribe id))
  | .negotiate _ | .stop | .elsewhere _ => none

/-- All that the node does, in order. -/
def acts (station : Station listener) : List (Event listener) → List (Node.Act listener)
  | [] => []
  | event :: events => (station.act? event).toList ++ (station.step event).acts events

/-- What can come of the receiver's asking for what the socket has. -/
inductive Intake (station : Station listener) (now : Instant) : Prop
  /-- Nothing waits in the socket, or the receiver has ended before. -/
  | idle
      (nothing : station.handed? = none)
      (outcome : (station.step (.receive now)).node = station.node)
  | closed
      (listening : station.node.receiver = .listening)
      (nothing : station.handed? = none)
      (outcome : (station.step (.receive now)).node = { station.node with receiver := .ended })
  | passedOver {payload}
      (listening : station.node.receiver = .listening)
      (handed : station.handed? = some payload)
      (long : station.node.settings.maxDatagram < payload.length)
      (outcome : (station.step (.receive now)).node = station.node)
  | absorbed {payload digest}
      (listening : station.node.receiver = .listening)
      (handed : station.handed? = some payload)
      (fits : payload.length ≤ station.node.settings.maxDatagram)
      (read : Digest.decode payload = .ok digest)
      (outcome : (station.step (.receive now)).node = (station.node.absorb now digest).node)
  | refused {payload error}
      (listening : station.node.receiver = .listening)
      (handed : station.handed? = some payload)
      (fits : payload.length ≤ station.node.settings.maxDatagram)
      (unread : Digest.decode payload = .error error)
      (outcome : (station.step (.receive now)).node =
        { station.node with stopped := true, receiver := .refused error })

/-- There is nothing else that can come of it. -/
theorem intake (station : Station listener) (now : Instant) : station.Intake now := by
  by_cases listening : station.node.receiver = .listening
  · cases received : station.transport.receive station.socket with
    | mk reception transport =>
        cases reception with
        | idle =>
            refine .idle ?_ ?_
            · rw [handed?, if_pos listening, received]
            · rw [step, takeIn, if_pos listening, received]
        | closed =>
            refine .closed listening ?_ ?_
            · rw [handed?, if_pos listening, received]
            · rw [step, takeIn, if_pos listening, received]
              exact if_pos listening
        | datagram datagram =>
            have handed : station.handed? = some datagram.payload := by
              rw [handed?, if_pos listening, received]
            have outcome : (station.step (.receive now)).node =
                (station.node.receivePayload now datagram.payload).node := by
              rw [step, takeIn, if_pos listening, received]
              exact if_pos listening
            rw [Node.receivePayload] at outcome
            by_cases long : station.node.settings.maxDatagram < datagram.payload.length
            · rw [if_pos long] at outcome
              exact .passedOver listening handed long outcome
            · rw [if_neg long] at outcome
              cases decoded : Digest.decode datagram.payload with
              | ok digest =>
                  rw [decoded] at outcome
                  exact .absorbed listening handed (Nat.not_lt.mp long) decoded outcome
              | error error =>
                  rw [decoded] at outcome
                  exact .refused listening handed (Nat.not_lt.mp long) decoded outcome
  · refine .idle ?_ ?_
    · rw [handed?, if_neg listening]
    · rw [step, takeIn, if_neg listening]

/-! ## One event -/

theorem act?_receive_of_none {now : Instant} (nothing : station.handed? = none) :
    station.act? (.receive now) = none := by
  rw [act?, nothing]
  rfl

/-- Of what the receiver gets, it merges what it can read and what is not too long. -/
theorem act?_receive_of_some
    {now : Instant}
    {payload : List UInt8}
    (handed : station.handed? = some payload) :
    station.act? (.receive now) =
      if payload.length ≤ station.node.settings.maxDatagram then
        (Digest.decode payload).toOption.map (.absorb now)
      else none := by
  rw [act?, handed]
  rfl

/-- An event makes of the node what the node does at it, except that it may be stopped and
its receiver may end. -/
theorem awake_step (station : Station listener) (event : Event listener) :
    (station.step event).node.awake =
      station.node.awake.enactAll (station.act? event).toList := by
  cases event with
  | round now number => exact station.node.awake_round now number
  | negotiate now => rfl
  | receive now =>
      cases station.intake now with
      | idle nothing outcome | closed _ nothing outcome =>
          rw [outcome, act?_receive_of_none nothing]
          rfl
      | passedOver _ handed long outcome =>
          rw [outcome, act?_receive_of_some handed, if_neg (Nat.not_le.mpr long)]
          rfl
      | absorbed _ handed fits read outcome =>
          rw [outcome, act?_receive_of_some handed, if_pos fits, read]
          exact station.node.awake_absorb now _
      | refused _ handed fits unread outcome =>
          rw [outcome, act?_receive_of_some handed, if_pos fits, unread]
          rfl
  | subscribe newcomer => rfl
  | unsubscribe id => rfl
  | stop => rfl
  | elsewhere request => rfl

/-- Nothing but receiving concerns the receiver. -/
structure LeavesReceiver (station : Station listener) (event : Event listener) : Prop where
  receiver : (station.step event).node.receiver = station.node.receiver
  nothing : station.received? event = none
  silent : (station.act? event).toList.filterMap Node.Act.digest? = []

theorem leavesReceiver
    {event : Event listener}
    (other : ∀ now, event ≠ .receive now) :
    station.LeavesReceiver event := by
  cases event with
  | round now number => exact ⟨station.node.receiver_round now number, rfl, rfl⟩
  | receive now => exact absurd rfl (other now)
  | negotiate now => exact ⟨rfl, rfl, rfl⟩
  | subscribe newcomer => exact ⟨rfl, rfl, rfl⟩
  | unsubscribe id => exact ⟨rfl, rfl, rfl⟩
  | stop => exact ⟨rfl, rfl, rfl⟩
  | elsewhere request => exact ⟨rfl, rfl, rfl⟩

theorem leavesReceiver_of_idle
    {now : Instant}
    (nothing : station.handed? = none)
    (outcome : (station.step (.receive now)).node = station.node) :
    station.LeavesReceiver (.receive now) where
  receiver := congrArg Node.receiver outcome
  nothing := nothing
  silent := by
    rw [act?_receive_of_none nothing]
    rfl

/-! ## A whole run -/

theorem awake_run (station : Station listener) (events : List (Event listener)) :
    (station.run events).node.awake = station.node.awake.enactAll (station.acts events) := by
  induction events generalizing station with
  | nil => rfl
  | cons event events inductionHypothesis =>
      rw [run, inductionHypothesis, awake_step, acts, Node.enactAll, Node.enactAll, Node.enactAll,
        List.foldl_append]

/-- Once its receiver has ended, a node receives and merges nothing more, and the receiver
stays as it has ended. -/
theorem deaf_run
    (ended : station.node.receiver ≠ .listening)
    (events : List (Event listener)) :
    station.received events = [] ∧
      (station.acts events).filterMap Node.Act.digest? = [] ∧
      (station.run events).node.receiver = station.node.receiver := by
  induction events generalizing station with
  | nil => exact ⟨rfl, rfl, rfl⟩
  | cons event events inductionHypothesis =>
      have leaves : station.LeavesReceiver event := by
        by_cases asks : ∃ now, event = .receive now
        · obtain ⟨now, rfl⟩ := asks
          cases station.intake now with
          | idle nothing outcome => exact leavesReceiver_of_idle nothing outcome
          | closed listening => exact absurd listening ended
          | passedOver listening => exact absurd listening ended
          | absorbed listening => exact absurd listening ended
          | refused listening => exact absurd listening ended
        · exact leavesReceiver fun now same => asks ⟨now, same⟩
      obtain ⟨nothing, silent, same⟩ := inductionHypothesis (leaves.receiver ▸ ended)
      refine ⟨?_, ?_, same.trans leaves.receiver⟩
      · rw [received, leaves.nothing, nothing]
        rfl
      · rw [acts, List.filterMap_append, leaves.silent, silent]
        rfl

/-- A node merges the readable prefix of what it receives, and its receiver ends with the
error of the first payload that it cannot read, if there is one. -/
structure ReadsPrefix (station : Station listener) (events : List (Event listener)) : Prop where
  merged : (station.acts events).filterMap Node.Act.digest? =
    Digest.readablePrefix station.node.settings.maxDatagram (station.received events)
  ends : ∀ error, (station.run events).node.receiver = .refused error ↔
    Digest.firstFailure? station.node.settings.maxDatagram (station.received events) = some error

theorem LeavesReceiver.readsPrefix
    {event : Event listener}
    {events : List (Event listener)}
    (leaves : station.LeavesReceiver event)
    (rest : (station.step event).ReadsPrefix events) :
    station.ReadsPrefix (event :: events) := by
  have sameSettings := (station.continues_step event).settings
  constructor
  · rw [acts, received, List.filterMap_append, leaves.nothing, leaves.silent, rest.merged,
      sameSettings]
    rfl
  · intro error
    rw [run, received, leaves.nothing, rest.ends, sameSettings]
    rfl

/-- If the receiver ends at an event, all that counts is what it gets then. -/
theorem readsPrefix_of_ended
    {now : Instant}
    (ended : (station.step (.receive now)).node.receiver ≠ .listening)
    (merged : (station.act? (.receive now)).toList.filterMap Node.Act.digest? =
      Digest.readablePrefix station.node.settings.maxDatagram station.handed?.toList)
    (ends : ∀ error, (station.step (.receive now)).node.receiver = .refused error ↔
      Digest.firstFailure? station.node.settings.maxDatagram station.handed?.toList = some error)
    (events : List (Event listener)) :
    station.ReadsPrefix (.receive now :: events) := by
  obtain ⟨nothing, silent, same⟩ := deaf_run ended events
  have receives : station.received (.receive now :: events) = station.handed?.toList := by
    rw [received, nothing, List.append_nil]
    rfl
  constructor
  · rw [acts, receives, List.filterMap_append, silent, List.append_nil, merged]
  · intro error
    rw [run, receives, same, ends]

/-- A receiver that listens goes on until it has to end. -/
theorem readsPrefix_run
    (listening : station.node.receiver = .listening)
    (events : List (Event listener)) :
    station.ReadsPrefix events := by
  -- The receiver listens at every event until one of them ends it, and whatever comes after
  -- that does not count, so the induction only ever goes on with a receiver that listens.
  induction events generalizing station with
  | nil =>
      refine ⟨rfl, fun error => iff_of_false (fun refused => ?_) nofun⟩
      exact nomatch listening.symm.trans refused
  | cons event events inductionHypothesis =>
      by_cases asks : ∃ now, event = .receive now
      · obtain ⟨now, rfl⟩ := asks
        have sameSettings := (station.continues_step (.receive now)).settings
        have receives : station.received (.receive now :: events) =
            station.handed?.toList ++ (station.step (.receive now)).received events := rfl
        cases station.intake now with
        | idle nothing outcome =>
            have leaves := leavesReceiver_of_idle nothing outcome
            exact leaves.readsPrefix (inductionHypothesis (leaves.receiver.trans listening))
        | closed _ nothing outcome =>
            refine readsPrefix_of_ended (outcome ▸ nofun) ?_ (fun error => ?_) events
            · rw [act?_receive_of_none nothing, nothing]
              rfl
            · rw [outcome, nothing]
              exact iff_of_false nofun nofun
        | @passedOver payload _ handed long outcome =>
            have rest := inductionHypothesis (outcome ▸ listening)
            have passed := Digest.reading_cons_of_long long
              ((station.step (.receive now)).received events)
            constructor
            · rw [acts, receives, handed, act?_receive_of_some handed, if_neg (Nat.not_le.mpr long),
                Option.toList_some, List.singleton_append, passed.1, ← sameSettings, ← rest.merged]
              rfl
            · intro error
              rw [run, receives, handed, rest.ends, Option.toList_some, List.singleton_append,
                passed.2, sameSettings]
        | @absorbed payload digest _ handed fits read outcome =>
            have stillListening : (station.step (.receive now)).node.receiver = .listening := by
              rw [outcome, Node.receiver_absorb, listening]
            have rest := inductionHypothesis stillListening
            have merged := Digest.reading_cons_of_read fits read
              ((station.step (.receive now)).received events)
            constructor
            · rw [acts, receives, handed, act?_receive_of_some handed, if_pos fits, read,
                Option.toList_some, List.singleton_append, merged.1, ← sameSettings, ← rest.merged]
              rfl
            · intro error
              rw [run, receives, handed, rest.ends, Option.toList_some, List.singleton_append,
                merged.2, sameSettings]
        | @refused payload error _ handed fits unread outcome =>
            have failed := Digest.reading_cons_of_unread fits unread []
            refine readsPrefix_of_ended (outcome ▸ nofun) ?_ (fun other => ?_) events
            · rw [act?_receive_of_some handed, if_pos fits, unread, handed, Option.toList_some,
                failed.1]
              rfl
            · rw [outcome, handed, Option.toList_some, failed.2, Receiver.refused.injEq,
                Option.some.injEq]
      · have leaves : station.LeavesReceiver event :=
          leavesReceiver fun now same => asks ⟨now, same⟩
        exact leaves.readsPrefix (inductionHypothesis (leaves.receiver.trans listening))

theorem received_append (station : Station listener) (events later : List (Event listener)) :
    station.received (events ++ later) =
      station.received events ++ (station.run events).received later := by
  induction events generalizing station with
  | nil => rfl
  | cons event events inductionHypothesis =>
      rw [List.cons_append, received, inductionHypothesis, received, run, List.append_assoc]

/-- What is too long changes nothing about the node. -/
theorem step_receive_of_long
    {payload : List UInt8}
    (handed : station.handed? = some payload)
    (long : station.node.settings.maxDatagram < payload.length)
    (now : Instant) :
    (station.step (.receive now)).node = station.node := by
  cases station.intake now with
  | idle _ outcome => exact outcome
  | closed _ nothing => exact nomatch handed.symm.trans nothing
  | passedOver _ _ _ outcome => exact outcome
  | absorbed _ other fits =>
      obtain rfl := Option.some.inj (handed.symm.trans other)
      exact absurd long (Nat.not_lt.mpr fits)
  | refused _ other fits =>
      obtain rfl := Option.some.inj (handed.symm.trans other)
      exact absurd long (Nat.not_lt.mpr fits)

/-- What fits is merged, or stops the node if it cannot be read. -/
theorem step_receive_of_fits
    {payload : List UInt8}
    (handed : station.handed? = some payload)
    (fits : payload.length ≤ station.node.settings.maxDatagram)
    (now : Instant) :
    (station.step (.receive now)).node =
      match Digest.decode payload with
      | .ok digest => (station.node.absorb now digest).node
      | .error error => { station.node with stopped := true, receiver := .refused error } := by
  cases station.intake now with
  | idle nothing => exact nomatch handed.symm.trans nothing
  | closed _ nothing => exact nomatch handed.symm.trans nothing
  | passedOver _ other long =>
      obtain rfl := Option.some.inj (handed.symm.trans other)
      exact absurd fits (Nat.not_le.mpr long)
  | absorbed _ other _ read outcome =>
      obtain rfl := Option.some.inj (handed.symm.trans other)
      rw [outcome, read]
  | refused _ other _ unread outcome =>
      obtain rfl := Option.some.inj (handed.symm.trans other)
      rw [outcome, unread]

/-- However the farewell goes, shutting a node down fails with the error of the first
payload that it could not read, from before or while its jobs end. -/
theorem shutdown_eq_unreadable_iff
    (listening : station.node.receiver = .listening)
    (events remaining : List (Event listener))
    (numbers : List Nat)
    (error : DecodeError) :
    ((station.run events).shutdown remaining numbers).1 = .error (.unreadable error) ↔
      Digest.firstFailure? station.node.settings.maxDatagram
        (station.received (events ++ .stop :: remaining)) = some error := by
  have whole : station.run (events ++ .stop :: remaining) =
      ((station.run events).step .stop).run remaining :=
    station.run_append events (.stop :: remaining)
  rw [← (readsPrefix_run listening _).ends error, whole]
  exact Node.verdict_eq_unreadable_iff

/-- A node processes exactly the readable prefix of what it receives. Apart from being
stopped, it is what its own acts make of it, and the digests that it merges among them are
those read, in order, from the datagrams within the limit that come before the first that
cannot be read. A datagram beyond the limit changes nothing. One that cannot be read stops
the node and changes nothing else, and nothing is merged afterwards. However the farewell
goes, shutting the node down fails with the error of the first datagram that the node could
not read, from before or while its jobs end, and with no such error if there was none. -/
theorem reads_readable_prefix
    {transport : Transport}
    {endpoints : Endpoints}
    {settings : Settings}
    {wallTime : WallTime}
    {start : Instant}
    (connected : connect transport endpoints settings wallTime start = .ok station)
    (events : List (Event listener)) :
    let limit := settings.maxDatagram
    let last := station.run events
    last.node.awake = station.node.enactAll (station.acts events) ∧
    (station.acts events).filterMap Node.Act.digest? =
      Digest.readablePrefix limit (station.received events) ∧
    (∀ now payload, last.handed? = some payload → limit < payload.length →
      (last.step (.receive now)).node = last.node) ∧
    (∀ now payload error, last.handed? = some payload → payload.length ≤ limit →
      Digest.decode payload = .error error →
      (last.step (.receive now)).node =
        { last.node with stopped := true, receiver := .refused error } ∧
      ∀ later, ((last.step (.receive now)).acts later).filterMap Node.Act.digest? = []) ∧
    ∀ remaining numbers error,
      ((last.shutdown remaining numbers).1 = .error (.unreadable error) ↔
        Digest.firstFailure? limit (station.received (events ++ .stop :: remaining)) =
          some error) ∧
      (Digest.firstFailure? limit (station.received events) = some error →
        (last.shutdown remaining numbers).1 = .error (.unreadable error)) := by
  intro limit last
  obtain ⟨-, joined, -⟩ := connect_eq_ok connected
  obtain ⟨listening, wasAwake, limited⟩ : station.node.receiver = .listening ∧
      station.node.awake = station.node ∧ station.node.settings.maxDatagram = limit := by
    rw [joined]
    exact ⟨rfl, rfl, rfl⟩
  have lastLimited : last.node.settings.maxDatagram = limit := by
    rw [(station.continues_run events).settings, limited]
  refine ⟨?_, ?_, fun now payload handed long => ?_, fun now payload error handed fits unread => ?_,
    fun remaining numbers error => ?_⟩
  · rw [station.awake_run events, wasAwake]
  · rw [← limited]
    exact (readsPrefix_run listening events).merged
  · exact step_receive_of_long handed (lastLimited ▸ long) now
  · have outcome := step_receive_of_fits handed (lastLimited ▸ fits) now
    rw [unread] at outcome
    exact ⟨outcome, fun later => (deaf_run (outcome ▸ nofun) later).2.1⟩
  · rw [shutdown_eq_unreadable_iff listening, limited, received_append]
    exact ⟨Iff.rfl, fun fails => Digest.firstFailure?_append_of_some fails _⟩

/-- The introducer, with room for one report, at the first socket of a network. -/
def doorway : Station Nat where
  node := .joining Node.introducer.endpoints Node.narrow ⟨1⟩ ⟨0⟩
  socket := ⟨0⟩
  transport := .memory
    { next := 1
      sockets := [⟨⟨0⟩, Node.introducer.identity.address, []⟩]
      registered := [(Node.introducer.identity.address, ⟨0⟩)]
      killed := [] }

/-- A datagram from the socket that was opened after the introducer's. -/
def toDoorway (payload : List UInt8) : Event Nat :=
  .elsewhere (.send ⟨1⟩ Node.introducer.identity.address payload)

/-- The introducer is sent a report, two reports at once, something that cannot be read and
another report, and takes them in between two rounds; then its address is killed. -/
def visits : List (Event Nat) :=
  [.elsewhere (.openAt Node.visitor.address 0),
    toDoorway (Digest.bytes ⟨[⟨Node.visitor, 3, .alive⟩]⟩),
    toDoorway (Digest.bytes ⟨[⟨Node.introducer.identity, 1, .alive⟩, ⟨Node.visitor, 4, .alive⟩]⟩),
    toDoorway [1, 2, 3],
    toDoorway (Digest.bytes ⟨[⟨Node.visitor, 13, .left⟩]⟩),
    .receive ⟨10⟩, .round ⟨20⟩ 0, .receive ⟨30⟩, .receive ⟨40⟩, .round ⟨50⟩ 0, .receive ⟨60⟩,
    .elsewhere (.kill Node.introducer.identity.address)]

set_option maxRecDepth 10000 in
/-- The introducer merges the first report only, and ends with what it could not read,
although its farewell fails as well. -/
theorem doorway_reads_first_report :
    connect (.memory .empty) Node.introducer.endpoints Node.narrow ⟨1⟩ ⟨0⟩ = .ok doorway ∧
    (doorway.acts visits).filterMap Node.Act.digest? = [⟨[⟨Node.visitor, 3, .alive⟩]⟩] ∧
    (sendFarewell doorway.socket ((doorway.run visits).node.farewell [0])
      (doorway.run visits).transport).1 = some .socketKilled ∧
    ((doorway.run visits).shutdown [] [0]).1 = .error (.unreadable (.truncated 3)) := by
  have connected :
      connect (.memory .empty) Node.introducer.endpoints Node.narrow ⟨1⟩ ⟨0⟩ = .ok doorway := rfl
  obtain ⟨-, merged, -, -, ends⟩ := reads_readable_prefix connected visits
  refine ⟨connected, merged.trans ?_, by decide +kernel, (ends [] [0] (.truncated 3)).2 ?_⟩
  · decide +kernel
  · decide +kernel

end Station
end GossipGroup
