import GossipGroup.Node.Receiving
import GossipGroup.Proofs.Roster.Replay
import Mathlib.Data.List.Basic

/-!
# What listeners hear

A node goes through rounds of gossip, takes in whatever its socket has for it,
and others subscribe and unsubscribe in between. Whoever is subscribed hears
every batch of changes exactly once, in order and with the roster right after
it. Unless a round of gossip fails, what was heard since the subscription tells
what the roster holds about others than the node itself.
-/

namespace GossipGroup
namespace Node

/-- What a node goes through. -/
inductive Turn (listener : Type)
  /-- A round of gossip. -/
  | round (now : Instant) (number : Nat)
  /-- The receiver takes in what the socket has for it. -/
  | arrival (now : Instant) (arrival : Arrival)
  /-- Somebody subscribes. -/
  | subscribe (newcomer : listener)
  /-- A subscription is given up. -/
  | unsubscribe (id : SubscriptionId)
  /-- The node is told to stop. -/
  | stop

variable {listener : Type}

/-- The reaction of a node. A round of gossip that fails tells nobody anything,
but loses the entries of the roster. -/
def undergo (node : Node listener) : Turn listener → Reaction listener
  | .round now number =>
      match node.gossip now number with
      | .ok reaction => reaction
      | .error _ => .quiet node.loseRound
  | .arrival now arrival => node.receive now arrival
  | .subscribe newcomer => .quiet (node.subscribe newcomer).2
  | .unsubscribe id => .quiet (node.unsubscribe id).2
  | .stop => .quiet node.stop

/-- One turn after another: the node at the end, and everything that listeners
were told, in order. -/
def run (node : Node listener) : List (Turn listener) → Node listener × List (RosterNews listener)
  | [] => (node, [])
  | turn :: turns =>
      let reaction := node.undergo turn
      let rest := reaction.node.run turns
      (rest.1, reaction.news ++ rest.2)

/-- Turns of two runs in a row. -/
theorem run_append (node : Node listener) (turns later : List (Turn listener)) :
    node.run (turns ++ later) =
      (((node.run turns).1.run later).1,
        (node.run turns).2 ++ ((node.run turns).1.run later).2) := by
  induction turns generalizing node with
  | nil => rfl
  | cons turn turns inductionHypothesis =>
      rw [List.cons_append, run, inductionHypothesis, run, List.append_assoc]

/-- The digest that the node reads from what arrives, if it takes it in. -/
def accepted? (node : Node listener) : Arrival → Option Digest
  | .payload bytes =>
      if node.isReceiving ∧ bytes.length ≤ node.settings.maxDatagram then
        (Digest.decode bytes).toOption
      else none
  | .failure _ => none

/-- The roster after a turn, and the changes that the turn makes to it. -/
def revision (node : Node listener) : Turn listener → Roster × List Change
  | .round now _ => (node.roster.age now).toOption.getD (node.roster.emptied, [])
  | .arrival now arrival =>
      match node.accepted? arrival with
      | some digest => node.roster.merge digest now
      | none => (node.roster, [])
  | .subscribe _ | .unsubscribe _ | .stop => (node.roster, [])

/-- The changes of every turn, with the roster of the node right after it. -/
def batches (node : Node listener) : List (Turn listener) → List (List Change × Roster)
  | [] => []
  | turn :: turns =>
      let next := (node.undergo turn).node
      ((node.revision turn).2, next.roster) :: next.batches turns

/-- A turn is not a round of gossip that fails. -/
def succeeds (node : Node listener) : Turn listener → Bool
  | .round now number => (node.gossip now number).isOk
  | .arrival _ _ | .subscribe _ | .unsubscribe _ | .stop => true

/-- No round of gossip fails. -/
def allSucceed (node : Node listener) : List (Turn listener) → Bool
  | [] => true
  | turn :: turns => node.succeeds turn && (node.undergo turn).node.allSucceed turns

/-- What is told to a listener of a batch: nothing, if nothing has changed. -/
def tidings (recipient : listener) (batch : List Change × Roster) :
    Option (RosterNews listener) :=
  if batch.1 = [] then none else some ⟨recipient, batch.1, batch.2⟩

/-- What one of the listeners is told. -/
def heardBy [DecidableEq listener] (me : listener) (news : List (RosterNews listener)) :
    List (RosterNews listener) :=
  news.filter (·.recipient = me)

/-- Batches without changes may be left out when changes are replayed. -/
theorem flatMap_changes_tidings (me : listener) (batches : List (List Change × Roster)) :
    (batches.filterMap (tidings me)).flatMap (·.changes) = batches.flatMap (·.1) := by
  induction batches with
  | nil => rfl
  | cons batch batches inductionHypothesis =>
      rw [List.filterMap_cons, List.flatMap_cons, ← inductionHypothesis]
      by_cases quiet : batch.1 = []
      · rw [tidings, if_pos quiet, quiet, List.nil_append]
      · rw [tidings, if_neg quiet, List.flatMap_cons]

/-! ## What a turn does to the roster -/

/-- What a turn can do to the roster. -/
inductive Revised (node : Node listener) (turn : Turn listener) : Prop
  | merged
      (digest : Digest)
      (now : Instant)
      (ascending : Ascending digest.reports)
      (revision : node.revision turn = node.roster.merge digest now)
  | aged
      (now : Instant)
      (number : Nat)
      (round : turn = .round now number)
      (revision : node.revision turn = (node.roster.aged now, node.roster.agedChanges now))
  | unmoved
      (revision : node.revision turn = (node.roster, []))
  | lost
      (fails : node.succeeds turn = false)
      (revision : node.revision turn = (node.roster.emptied, []))

/-- What is accepted was read from a datagram. -/
theorem ascending_of_accepted?
    {node : Node listener}
    {arrival : Arrival}
    {digest : Digest}
    (accepted : node.accepted? arrival = some digest) :
    Ascending digest.reports := by
  cases arrival with
  | failure kind => contradiction
  | payload bytes =>
      rw [accepted?, Option.ite_none_right_eq_some] at accepted
      exact Digest.ascending_of_decode_eq_ok (Roster.eq_ok_of_toOption_eq_some accepted.2)

/-- There is nothing else that a turn can do to the roster. -/
theorem revised (node : Node listener) (turn : Turn listener) : node.Revised turn := by
  cases turn with
  | round now number =>
      cases aged : node.roster.age now with
      | ok result =>
          have known := (Roster.age_eq_ok_iff.mp aged).2
          refine .aged now number rfl ?_
          rw [revision, aged, ← known]
          rfl
      | error error =>
          refine .lost ?_ ?_
          · rw [succeeds, gossip, aged]
            rfl
          · rw [revision, aged]
            rfl
  | arrival now arrival =>
      cases accepted : node.accepted? arrival with
      | some digest =>
          refine .merged digest now (ascending_of_accepted? accepted) ?_
          rw [revision, accepted]
      | none =>
          refine .unmoved ?_
          rw [revision, accepted]
  | subscribe newcomer => exact .unmoved rfl
  | unsubscribe id => exact .unmoved rfl
  | stop => exact .unmoved rfl

/-- A round of gossip fails exactly where the node's own heartbeat is the
greatest there is. -/
theorem succeeds_round_iff {node : Node listener} {now : Instant} {number : Nat} :
    node.succeeds (.round now number) = true ↔ node.roster.CanBeat := by
  rw [succeeds, gossip]
  cases aged : node.roster.age now with
  | ok result => exact iff_of_true rfl (Roster.age_eq_ok_iff.mp aged).1
  | error error =>
      refine iff_of_false Bool.false_ne_true fun canBeat => ?_
      exact nomatch aged.symm.trans (Roster.age_eq_ok_iff.mpr ⟨canBeat, rfl⟩)

/-! ## What a turn makes of the node -/

/-- The subscriptions after a turn. -/
def resubscribed (node : Node listener) : Turn listener → Subscribers listener
  | .subscribe newcomer => (node.subscribers.subscribe newcomer).2
  | .unsubscribe id => (node.subscribers.unsubscribe id).2
  | .round _ _ | .arrival _ _ | .stop => node.subscribers

/-- A reaction that leaves a node with a roster and subscriptions, tells everybody
who listens to the node what has changed in the roster, and renews the watched
list if anything has. -/
structure Publishes
    (node : Node listener)
    (revision : Roster × List Change)
    (subscribers : Subscribers listener)
    (reaction : Reaction listener) : Prop where
  roster : reaction.node.roster = revision.1
  subscribers : reaction.node.subscribers = subscribers
  watched : reaction.node.watched =
    if revision.2 = [] then node.watched else revision.1.alive
  news : reaction.news = if revision.2 = [] then [] else
    node.subscribers.listeners.map fun recipient => ⟨recipient, revision.2, revision.1⟩

theorem publishes_publish
    (node : Node listener)
    (roster : Roster)
    (changes : List Change) :
    node.Publishes (roster, changes) node.subscribers (node.publish roster changes) := by
  cases changes with
  | nil => exact ⟨rfl, rfl, rfl, rfl⟩
  | cons change changes => exact ⟨rfl, rfl, rfl, rfl⟩

/-- A digest is merged, and what changes is published. -/
theorem publishes_absorb (node : Node listener) (now : Instant) (digest : Digest) :
    node.Publishes (node.roster.merge digest now) node.subscribers (node.absorb now digest) := by
  have published := node.countMerge.publishes_publish (node.roster.merge digest now).1
    (node.roster.merge digest now).2
  exact ⟨published.roster, published.subscribers, published.watched, published.news⟩

/-- A round of gossip publishes what ageing changes, or fails. -/
theorem publishes_round (node : Node listener) (now : Instant) (number : Nat) :
    node.Publishes (node.revision (.round now number)) node.subscribers
      (node.undergo (.round now number)) := by
  rw [revision, undergo, gossip]
  cases node.roster.age now with
  | error error => exact ⟨rfl, rfl, rfl, rfl⟩
  | ok result =>
      obtain ⟨roster, changes⟩ := result
      have published := node.countRound.publishes_publish roster changes
      exact ⟨published.roster, published.subscribers, published.watched, published.news⟩

/-- What is not accepted changes neither the roster nor the subscriptions. -/
theorem publishes_receive (node : Node listener) (now : Instant) (arrival : Arrival) :
    node.Publishes (node.revision (.arrival now arrival)) node.subscribers
      (node.receive now arrival) := by
  rw [revision]
  unfold receive
  cases receiving : node.isReceiving with
  | false =>
      have rejected : node.accepted? arrival = none := by
        cases arrival with
        | failure kind => rfl
        | payload bytes => rw [accepted?, receiving, if_neg (fun both => nomatch both.1)]
      rw [rejected, if_neg Bool.false_ne_true]
      exact ⟨rfl, rfl, rfl, rfl⟩
  | true =>
      rw [if_pos rfl]
      cases arrival with
      | failure kind =>
          simp only [accepted?]
          cases kind.isTransient with
          | true => exact ⟨rfl, rfl, rfl, rfl⟩
          | false => exact ⟨rfl, rfl, rfl, rfl⟩
      | payload bytes =>
          simp only [receivePayload, accepted?, receiving, true_and]
          by_cases long : node.settings.maxDatagram < bytes.length
          · rw [if_pos long, if_neg (Nat.not_le.mpr long)]
            exact ⟨rfl, rfl, rfl, rfl⟩
          · rw [if_neg long, if_pos (Nat.not_lt.mp long)]
            cases Digest.decode bytes with
            | error error => exact ⟨rfl, rfl, rfl, rfl⟩
            | ok digest => exact node.publishes_absorb now digest

/-- Every turn leaves the node with the revised roster, and tells its listeners
what has changed in it. -/
theorem publishes_undergo (node : Node listener) (turn : Turn listener) :
    node.Publishes (node.revision turn) (node.resubscribed turn) (node.undergo turn) := by
  cases turn with
  | round now number => exact node.publishes_round now number
  | arrival now arrival => exact node.publishes_receive now arrival
  | subscribe newcomer => exact ⟨rfl, rfl, rfl, rfl⟩
  | unsubscribe id => exact ⟨rfl, rfl, rfl, rfl⟩
  | stop => exact ⟨rfl, rfl, rfl, rfl⟩

/-! ## The count of subscriptions -/

/-- A turn takes at most one number. -/
theorem next_undergo_le (node : Node listener) (turn : Turn listener) :
    (node.undergo turn).node.subscribers.next ≤ node.subscribers.next + 1 := by
  rw [(node.publishes_undergo turn).subscribers]
  cases turn with
  | subscribe newcomer => exact Nat.le_refl _
  | round | arrival | unsubscribe | stop => exact Nat.le_succ _

/-- As long as there are fewer turns than words of 64 bits, such a word counts the
subscriptions. -/
theorem next_run_le (node : Node listener) (turns : List (Turn listener)) :
    (node.run turns).1.subscribers.next ≤ node.subscribers.next + turns.length := by
  induction turns generalizing node with
  | nil => exact Nat.le_refl _
  | cons turn turns inductionHypothesis =>
      have step := node.next_undergo_le turn
      have rest := inductionHypothesis (node.undergo turn).node
      rw [List.length_cons, Nat.add_comm turns.length, ← Nat.add_assoc]
      exact Nat.le_trans rest (Nat.add_le_add_right step _)

/-! ## The roster along a run -/

/-- No turn takes the order from a roster, or makes it the roster of another
node. -/
theorem ascending_undergo
    {node : Node listener}
    (ascending : Ascending node.roster.members)
    (turn : Turn listener) :
    Ascending (node.undergo turn).node.roster.members ∧
      (node.undergo turn).node.roster.self = node.roster.self := by
  rw [(node.publishes_undergo turn).roster]
  cases node.revised turn with
  | merged digest now digestAscending revision =>
      rw [revision]
      exact ⟨(Roster.mergeMembers_merges now ascending digestAscending).members_ascending, rfl⟩
  | aged now _ _ revision =>
      rw [revision]
      exact ⟨Roster.ascending_aged ascending now, rfl⟩
  | unmoved revision =>
      rw [revision]
      exact ⟨ascending, rfl⟩
  | lost _ revision =>
      rw [revision]
      exact ⟨ascending_nil, rfl⟩

/-- The order is kept along a whole run. -/
theorem ascending_run
    {node : Node listener}
    (ascending : Ascending node.roster.members)
    (turns : List (Turn listener)) :
    Ascending (node.run turns).1.roster.members ∧
      (node.run turns).1.roster.self = node.roster.self := by
  induction turns generalizing node with
  | nil => exact ⟨ascending, rfl⟩
  | cons turn turns inductionHypothesis =>
      have step := ascending_undergo ascending turn
      have rest := inductionHypothesis step.1
      exact ⟨rest.1, rest.2.trans step.2⟩

/-- A node that has joined holds an ordered roster of its own, whatever it goes
through. -/
theorem ascending_run_joining
    (endpoints : Endpoints)
    (settings : Settings)
    (wallTime : WallTime)
    (start : Instant)
    (turns : List (Turn listener)) :
    Ascending ((joining endpoints settings wallTime start).run turns).1.roster.members ∧
      ((joining endpoints settings wallTime start).run turns).1.roster.self =
        Identity.joining endpoints.advertised wallTime := by
  have joined : Ascending
      (joining endpoints settings wallTime start : Node listener).roster.members :=
    ascending_singleton _
  exact ascending_run joined turns

/-- The changes of a turn are about different members. -/
theorem ascending_revision
    {node : Node listener}
    (ascending : Ascending node.roster.members)
    (turn : Turn listener) :
    Ascending (node.revision turn).2 := by
  cases node.revised turn with
  | merged digest now digestAscending revision =>
      rw [revision]
      exact (Roster.mergeMembers_merges now ascending digestAscending).changes_ascending
  | aged now _ _ revision =>
      rw [revision]
      exact Roster.ascending_agedChanges ascending now
  | unmoved revision | lost _ revision =>
      rw [revision]
      exact ascending_nil

/-- The batches of a run are each about different members. -/
theorem ascending_of_mem_batches
    {node : Node listener}
    {turns : List (Turn listener)}
    {batch : List Change × Roster}
    (ascending : Ascending node.roster.members)
    (present : batch ∈ node.batches turns) :
    Ascending batch.1 := by
  induction turns generalizing node with
  | nil => contradiction
  | cons turn turns inductionHypothesis =>
      rcases List.mem_cons.mp present with rfl | later
      · exact ascending_revision ascending turn
      · exact inductionHypothesis (ascending_undergo ascending turn).1 later

/-- A turn that succeeds tells all that it changes about others. -/
theorem explains_undergo
    {node : Node listener}
    {turn : Turn listener}
    {identity : Identity}
    (ascending : Ascending node.roster.members)
    (succeeds : node.succeeds turn = true)
    (other : node.roster.self.same identity = false) :
    View.Explains identity node.roster.view (node.undergo turn).node.roster.view
      (node.revision turn).2 := by
  rw [(node.publishes_undergo turn).roster]
  cases node.revised turn with
  | merged digest now digestAscending revision =>
      rw [revision]
      exact Roster.explains_merge ascending digestAscending now identity
  | aged now _ _ revision =>
      rw [revision]
      exact Roster.explains_aged ascending now other
  | unmoved revision =>
      rw [revision]
      exact View.explains_nil rfl
  | lost fails =>
      rw [fails] at succeeds
      contradiction

/-- A run without a failing round tells all that it changes about others. -/
theorem explains_run
    {node : Node listener}
    {turns : List (Turn listener)}
    {identity : Identity}
    (ascending : Ascending node.roster.members)
    (succeed : node.allSucceed turns = true)
    (other : node.roster.self.same identity = false) :
    View.Explains identity node.roster.view (node.run turns).1.roster.view
      ((node.batches turns).flatMap (·.1)) := by
  induction turns generalizing node with
  | nil => exact View.explains_nil rfl
  | cons turn turns inductionHypothesis =>
      rw [allSucceed, Bool.and_eq_true] at succeed
      obtain ⟨nextAscending, sameSelf⟩ := ascending_undergo ascending turn
      rw [← sameSelf] at other
      have rest := inductionHypothesis nextAscending succeed.2 other
      rw [sameSelf] at other
      rw [batches, List.flatMap_cons]
      exact (explains_undergo ascending succeed.1 other).append rest

/-! ## What a listener hears -/

section Hearing

variable [DecidableEq listener] {me : listener} {id : SubscriptionId}

/-- The subscriptions of one listener. -/
def subscriptions (node : Node listener) (me : listener) : List (SubscriptionId × listener) :=
  node.subscribers.active.filter (·.2 = me)

/-- Nobody else's turn changes the subscriptions of a listener. -/
theorem subscriptions_undergo
    {node : Node listener}
    {turn : Turn listener}
    (stranger : turn ≠ .subscribe me)
    (stays : ∀ entry ∈ node.subscriptions me, turn ≠ .unsubscribe entry.1) :
    (node.undergo turn).node.subscriptions me = node.subscriptions me := by
  rw [subscriptions, (node.publishes_undergo turn).subscribers]
  cases turn with
  | round now number => rfl
  | arrival now arrival => rfl
  | stop => rfl
  | subscribe newcomer =>
      have other : newcomer ≠ me := fun same => stranger (congrArg _ same)
      rw [resubscribed, Subscribers.active_subscribe, List.filter_append,
        List.filter_cons_of_neg (by simpa using other), List.filter_nil, List.append_nil,
        subscriptions]
  | unsubscribe id =>
      rw [resubscribed, Subscribers.active_unsubscribe, List.filter_filter, subscriptions]
      refine List.filter_congr fun entry present => ?_
      by_cases own : entry.2 = me
      · have kept : entry.1 ≠ id := fun same =>
          stays entry (List.mem_filter.mpr ⟨present, decide_eq_true own⟩) (congrArg _ same.symm)
        simp [own, kept]
      · simp [own]

/-- The same along a run. -/
theorem subscriptions_run
    {node : Node listener}
    {turns : List (Turn listener)}
    (alone : ∀ turn ∈ turns, turn ≠ .subscribe me)
    (stays : ∀ turn ∈ turns, ∀ entry ∈ node.subscriptions me, turn ≠ .unsubscribe entry.1) :
    (node.run turns).1.subscriptions me = node.subscriptions me := by
  induction turns generalizing node with
  | nil => rfl
  | cons turn turns inductionHypothesis =>
      obtain ⟨stranger, alone⟩ := List.forall_mem_cons.mp alone
      obtain ⟨kept, stays⟩ := List.forall_mem_cons.mp stays
      have step := subscriptions_undergo stranger kept
      rw [← step] at stays ⊢
      exact inductionHypothesis alone stays

/-- Each subscription of a listener is told of a batch once. -/
theorem heardBy_undergo (node : Node listener) (turn : Turn listener) (me : listener) :
    heardBy me (node.undergo turn).news = (node.subscriptions me).filterMap fun _ =>
      tidings me ((node.revision turn).2, (node.undergo turn).node.roster) := by
  have published := node.publishes_undergo turn
  rw [published.news, published.roster]
  by_cases quiet : (node.revision turn).2 = []
  · simp [tidings, quiet, heardBy]
  · simp only [tidings, if_neg quiet, heardBy, Subscribers.listeners, List.map_map,
      List.filter_map]
    rw [← Function.comp_def some, List.filterMap_eq_map]
    refine List.map_congr_left fun entry present => ?_
    obtain rfl := of_decide_eq_true (List.mem_filter.mp present).2
    rfl

/-- Each subscription of a listener is told of the batches of a run once, in
order. -/
theorem heardBy_run
    {node : Node listener}
    {turns : List (Turn listener)}
    (alone : ∀ turn ∈ turns, turn ≠ .subscribe me)
    (stays : ∀ turn ∈ turns, ∀ entry ∈ node.subscriptions me, turn ≠ .unsubscribe entry.1) :
    heardBy me (node.run turns).2 = (node.batches turns).flatMap fun batch =>
      (node.subscriptions me).filterMap fun _ => tidings me batch := by
  induction turns generalizing node with
  | nil => rfl
  | cons turn turns inductionHypothesis =>
      obtain ⟨stranger, alone⟩ := List.forall_mem_cons.mp alone
      obtain ⟨kept, stays⟩ := List.forall_mem_cons.mp stays
      have step := subscriptions_undergo stranger kept
      have first := node.heardBy_undergo turn me
      rw [← step] at stays
      have rest := inductionHypothesis alone stays
      rw [step] at rest
      rw [run, batches, List.flatMap_cons]
      simp only [heardBy] at *
      rw [List.filter_append, first, rest]

theorem heardBy_append (me : listener) (news later : List (RosterNews listener)) :
    heardBy me (news ++ later) = heardBy me news ++ heardBy me later :=
  List.filter_append _ _

/-- Who is not subscribed hears nothing. -/
theorem heardBy_run_of_stranger
    {node : Node listener}
    {turns : List (Turn listener)}
    (stranger : node.subscriptions me = [])
    (alone : ∀ turn ∈ turns, turn ≠ .subscribe me) :
    heardBy me (node.run turns).2 = [] := by
  rw [heardBy_run alone, stranger]
  · exact List.flatMap_eq_nil_iff.mpr fun _ _ => rfl
  · rw [stranger]
    exact fun _ _ _ present => absurd present List.not_mem_nil

/-- Who is subscribed once hears every batch once. -/
theorem heardBy_run_of_subscribed
    {node : Node listener}
    {turns : List (Turn listener)}
    (subscribed : node.subscriptions me = [(id, me)])
    (alone : ∀ turn ∈ turns, turn ≠ .subscribe me)
    (stays : ∀ turn ∈ turns, turn ≠ .unsubscribe id) :
    heardBy me (node.run turns).2 = (node.batches turns).filterMap (tidings me) := by
  rw [heardBy_run alone, subscribed, List.filterMap_eq_flatMap_toList]
  · refine List.flatMap_congr fun batch _ => ?_
    rw [List.filterMap_cons]
    cases tidings me batch <;> rfl
  · rw [subscribed]
    intro turn present entry own
    rw [List.mem_singleton.mp own]
    exact stays turn present

/-- A listener that subscribes is subscribed once. -/
theorem subscriptions_subscribe
    {node next : Node listener}
    (subscribes : node.subscribe me = (id, next))
    (stranger : node.subscriptions me = []) :
    next.subscriptions me = [(id, me)] := by
  have active : next.subscribers.active = node.subscribers.active ++ [(id, me)] := by
    obtain ⟨rfl, rfl⟩ := Prod.mk.inj subscribes
    rfl
  rw [subscriptions] at stranger
  rw [subscriptions, active, List.filter_append, stranger,
    List.nil_append, List.filter_cons, if_pos (decide_eq_true rfl), List.filter_nil]

/-- Whatever a node goes through, a listener hears, from its subscription on and
for as long as it stays, each batch of changes once, in order and with the
roster right after it. A batch holds at most one change about a member. Unless a
round of gossip fails on the way, replaying what was heard on top of what the
roster held at the subscription gives, for everybody but the node itself, what
the roster holds now; and every change it replays is news. -/
theorem listener_keeps_up
    {endpoints : Endpoints}
    {settings : Settings}
    {wallTime : WallTime}
    {start : Instant}
    {before after : List (Turn listener)}
    {node last : Node listener}
    {news : List (RosterNews listener)}
    (alone : ∀ turn ∈ before ++ after, turn ≠ .subscribe me)
    (subscribes : ((joining endpoints settings wallTime start).run before).1.subscribe me =
      (id, node))
    (stays : ∀ turn ∈ after, turn ≠ .unsubscribe id)
    (passed : (joining endpoints settings wallTime start).run (before ++ .subscribe me :: after) =
      (last, news)) :
    heardBy me news = (node.batches after).filterMap (tidings me) ∧
      (∀ item ∈ heardBy me news, item.changes.Pairwise fun earlier later =>
        earlier.identity.same later.identity = false) ∧
      (node.allSucceed after = true → ∀ identity,
        (Identity.joining endpoints.advertised wallTime).same identity = false →
          node.roster.view.replay ((heardBy me news).flatMap (·.changes)) identity =
              last.roster.view identity ∧
            node.roster.view.EachIsNews identity ((heardBy me news).flatMap (·.changes))) := by
  obtain ⟨aloneBefore, aloneAfter⟩ := List.forall_mem_append.mp alone
  have stranger : ((joining endpoints settings wallTime start).run before).1.subscriptions me =
      [] :=
    subscriptions_run aloneBefore fun _ _ _ present => absurd present List.not_mem_nil
  have once := subscriptions_subscribe subscribes stranger
  -- The run falls into what comes before the subscription and what comes after it.
  have continued : ((joining endpoints settings wallTime start).run before).1.run
      (.subscribe me :: after) = node.run after := by
    rw [run, undergo, subscribes]
    rfl
  rw [run_append, continued] at passed
  obtain ⟨rfl, rfl⟩ := Prod.mk.inj passed
  have heard : heardBy me (((joining endpoints settings wallTime start).run before).2 ++
      (node.run after).2) = (node.batches after).filterMap (tidings me) := by
    rw [heardBy_append, heardBy_run_of_stranger rfl aloneBefore,
      heardBy_run_of_subscribed once aloneAfter stays, List.nil_append]
  have sameRoster : node.roster =
      ((joining endpoints settings wallTime start).run before).1.roster := by
    obtain ⟨-, rfl⟩ := Prod.mk.inj subscribes
    rfl
  obtain ⟨ascending, self⟩ := ascending_run_joining endpoints settings wallTime start before
  rw [← sameRoster] at ascending self
  rw [heard, flatMap_changes_tidings]
  refine ⟨rfl, fun item told => ?_, fun succeed identity other => ?_⟩
  · obtain ⟨batch, present, made⟩ := List.mem_filterMap.mp told
    rw [tidings, Option.ite_none_left_eq_some, Option.some.injEq] at made
    rw [← made.2]
    exact (ascending_of_mem_batches ascending present).imp Identity.same_eq_false_of_precedes
  · have explains := explains_run ascending succeed ((congrArg (·.same identity) self).trans other)
    exact ⟨explains.replay_eq, explains.news⟩

/-- A node that introduces itself. -/
def introducer : Node Nat :=
  joining ⟨.v4 ⟨127, 0, 0, 1⟩ 7000, .v4 ⟨127, 0, 0, 1⟩ 7000, .v4 ⟨127, 0, 0, 1⟩ 7000⟩ {} ⟨1⟩ ⟨0⟩

/-- A member of the group that joined a little later. -/
def visitor : Identity := ⟨.v4 ⟨127, 0, 0, 1⟩ 7001, 2⟩

/-- A node that has joined at another address than the introducer's. -/
def guest : Node Nat :=
  joining ⟨visitor.address, visitor.address, introducer.identity.address⟩ {} ⟨2⟩ ⟨0⟩

/-- The visitor announces itself to a node that has one listener. -/
def welcoming : List (Turn Nat) :=
  [.subscribe 0, .arrival ⟨10⟩ (.payload (Digest.bytes ⟨[⟨visitor, 3, .alive⟩]⟩))]

/-- The visitor leaves and is evicted in the end. -/
def farewells : List (Turn Nat) :=
  [.round ⟨20⟩ 0, .arrival ⟨30⟩ (.payload (Digest.bytes ⟨[⟨visitor, 13, .left⟩]⟩)),
    .unsubscribe ⟨0⟩, .arrival ⟨40⟩ (.payload []), .round ⟨6000000000⟩ 0]

set_option maxRecDepth 10000 in
/-- A second listener, who found the visitor alive, hears how it leaves and is
evicted, and so does not expect it any more. -/
theorem second_listener_keeps_up :
    ∃ node last news,
      (introducer.run welcoming).1.subscribe 1 = (⟨1⟩, node) ∧
      introducer.run (welcoming ++ .subscribe 1 :: farewells) = (last, news) ∧
      node.roster.view visitor = some .alive ∧
      (heardBy 1 news).map (·.changes) = [[⟨visitor, .left⟩], [⟨visitor, .evicted⟩]] ∧
      node.roster.view.replay ((heardBy 1 news).flatMap (·.changes)) visitor =
        last.roster.view visitor ∧
      last.roster.view visitor = none := by
  have alone : ∀ turn ∈ welcoming ++ farewells, turn ≠ .subscribe 1 := by
    simp [welcoming, farewells]
  have stays : ∀ turn ∈ farewells, turn ≠ .unsubscribe ⟨1⟩ := by
    simp [farewells]
  have computed :
      (((introducer.run welcoming).1.subscribe 1).1 = ⟨1⟩ ∧
        ((introducer.run welcoming).1.subscribe 1).2.roster.view visitor = some .alive ∧
        ((introducer.run welcoming).1.subscribe 1).2.allSucceed farewells = true) ∧
      (heardBy 1 (introducer.run (welcoming ++ .subscribe 1 :: farewells)).2).map (·.changes) =
        [[⟨visitor, .left⟩], [⟨visitor, .evicted⟩]] ∧
      (introducer.run (welcoming ++ .subscribe 1 :: farewells)).1.roster.view visitor = none := by
    decide +kernel
  cases subscribes : (introducer.run welcoming).1.subscribe 1 with
  | mk id node =>
      cases passed : introducer.run (welcoming ++ .subscribe 1 :: farewells) with
      | mk last news =>
          rw [subscribes, passed] at computed
          obtain ⟨⟨rfl, found, succeed⟩, heard, gone⟩ := computed
          have keepsUp := listener_keeps_up alone subscribes stays passed
          exact ⟨node, last, news, rfl, rfl, found, heard,
            (keepsUp.2.2 succeed visitor (by decide +kernel)).1, gone⟩

/-- A digest that ascribes the greatest heartbeat to the node itself. -/
def overflowing : List (Turn Nat) :=
  [.arrival ⟨10⟩ (.payload (Digest.bytes
    ⟨[⟨introducer.identity, 0xffffffffffffffff, .alive⟩, ⟨visitor, 3, .alive⟩]⟩)),
    .round ⟨20⟩ 0]

set_option maxRecDepth 10000 in
/-- A listener that only ever heard that the visitor joined expects it in a
roster that a failing round has emptied. -/
theorem listener_loses_track_of_failing_round :
    ∃ node last news,
      introducer.subscribe 0 = (⟨0⟩, node) ∧
      introducer.run (.subscribe 0 :: overflowing) = (last, news) ∧
      (heardBy 0 news).map (·.changes) = [[⟨visitor, .joined⟩]] ∧
      node.roster.view.replay ((heardBy 0 news).flatMap (·.changes)) visitor = some .alive ∧
      last.roster.view visitor = none :=
  ⟨_, _, _, Prod.ext rfl rfl, Prod.ext rfl rfl, by decide +kernel, by decide +kernel,
    by decide +kernel⟩

end Hearing

end Node
end GossipGroup
