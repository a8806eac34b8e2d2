import GossipGroup.Proofs.Subscribers
import Mathlib.Data.List.Nodup

/-!
# What is left of a history of subscriptions

Listeners subscribe, give their subscriptions up, and are all dropped, in any
order. Who listens in the end can be read off the history alone: a subscription
stands as long as nothing that came after it has ended it. Numbers only count
up, so a subscription that has ended cannot be taken for a later one.
-/

namespace GossipGroup
namespace Subscribers

/-- Something that is asked of the listeners as a whole. -/
inductive Request (listener : Type)
  | subscribe (newcomer : listener)
  | unsubscribe (id : SubscriptionId)
  | clear
  deriving DecidableEq

/-- A request together with the answer to it. -/
inductive Event (listener : Type)
  | subscribed (id : SubscriptionId) (newcomer : listener)
  | unsubscribed (id : SubscriptionId) (found : Bool)
  | cleared
  deriving DecidableEq

variable {listener : Type} {subscribers : Subscribers listener} {id : SubscriptionId}
  {events : List (Event listener)}

/-- Whether a request is one for a subscription. -/
def Request.subscribes : Request listener → Bool
  | .subscribe _ => true
  | .unsubscribe _ | .clear => false

/-- What comes of a request. -/
def serve (subscribers : Subscribers listener) :
    Request listener → Event listener × Subscribers listener
  | .subscribe newcomer =>
      let (id, next) := subscribers.subscribe newcomer
      (.subscribed id newcomer, next)
  | .unsubscribe id =>
      let (found, next) := subscribers.unsubscribe id
      (.unsubscribed id found, next)
  | .clear => (.cleared, subscribers.clear)

/-- What comes of one request after another. -/
def serveAll (subscribers : Subscribers listener) :
    List (Request listener) → List (Event listener) × Subscribers listener
  | [] => ([], subscribers)
  | request :: requests =>
      let (event, next) := subscribers.serve request
      let (events, last) := next.serveAll requests
      (event :: events, last)

/-! ## Reading a history -/

/-- The number that is given at an event. -/
def Event.given? : Event listener → Option SubscriptionId
  | .subscribed id _ => some id
  | .unsubscribed _ _ | .cleared => none

/-- Whether an event ends a subscription that was there before. -/
def Event.ends (id : SubscriptionId) : Event listener → Bool
  | .subscribed _ _ => false
  | .unsubscribed other _ => other = id
  | .cleared => true

/-- All numbers that were ever given, in order. -/
def issued (events : List (Event listener)) : List SubscriptionId :=
  events.filterMap Event.given?

/-- The subscriptions that nothing after them has ended, in order. -/
def standing : List (Event listener) → List (SubscriptionId × listener)
  | [] => []
  | .subscribed id newcomer :: later =>
      if later.any (Event.ends id) then standing later
      else (id, newcomer) :: standing later
  | .unsubscribed _ _ :: later | .cleared :: later => standing later

theorem issued_append (earlier later : List (Event listener)) :
    issued (earlier ++ later) = issued earlier ++ issued later :=
  List.filterMap_append

/-- What stands of a longer history: what stood before and was not ended since, and
what has stood since. -/
theorem standing_append (earlier later : List (Event listener)) :
    standing (earlier ++ later) =
      (standing earlier).filter (fun entry => !later.any (Event.ends entry.1)) ++
        standing later := by
  induction earlier with
  | nil => rfl
  | cons event earlier inductionHypothesis =>
      cases event with
      | subscribed id newcomer =>
          rw [List.cons_append, standing, standing, List.any_append, inductionHypothesis]
          cases endedBefore : earlier.any (Event.ends id) <;>
            cases endedSince : later.any (Event.ends id) <;> simp [endedSince]
      | unsubscribed other found => exact inductionHypothesis
      | cleared => exact inductionHypothesis

@[simp] theorem standing_concat_subscribed (newcomer : listener) :
    standing (events ++ [.subscribed id newcomer]) = standing events ++ [(id, newcomer)] := by
  rw [standing_append]
  exact congrArg (· ++ _) (List.filter_eq_self.mpr fun _ _ => rfl)

@[simp] theorem standing_concat_unsubscribed (found : Bool) :
    standing (events ++ [.unsubscribed id found]) = (standing events).filter (·.1 ≠ id) := by
  rw [standing_append, standing, standing, List.append_nil]
  refine List.filter_congr fun entry _ => ?_
  simp [Event.ends, eq_comm]

@[simp] theorem standing_concat_cleared :
    standing (events ++ [.cleared]) = ([] : List (SubscriptionId × listener)) := by
  rw [standing_append, standing, standing, List.append_nil]
  exact List.filter_eq_nil_iff.mpr fun _ _ => Bool.false_ne_true

/-- Subscriptions stand in the order of their numbers. -/
theorem map_fst_standing_sublist (events : List (Event listener)) :
    ((standing events).map (·.1)).Sublist (issued events) := by
  induction events with
  | nil => exact .slnil
  | cons event later inductionHypothesis =>
      cases event with
      | subscribed id newcomer =>
          change ((standing _).map _).Sublist (id :: issued later)
          rw [standing]
          split
          · exact inductionHypothesis.cons id
          · exact inductionHypothesis.cons_cons id
      | unsubscribed other found => exact inductionHypothesis
      | cleared => exact inductionHypothesis

/-! ## One unsubscription -/

/-- A subscription is found exactly if it is there. -/
theorem unsubscribe_fst_eq_true_iff :
    (subscribers.unsubscribe id).1 = true ↔ id ∈ subscribers.ids := by
  rw [unsubscribe, decide_eq_true_eq, Ne, List.length_filter_eq_length_iff]
  simp [ids]

/-- A subscription that is not there takes nobody away. -/
theorem unsubscribe_snd_of_not_mem (absent : id ∉ subscribers.ids) :
    (subscribers.unsubscribe id).2 = subscribers := by
  have kept : subscribers.active.filter (·.1 ≠ id) = subscribers.active := by
    refine List.filter_eq_self.mpr fun entry present => decide_eq_true fun same => absent ?_
    exact List.mem_map.mpr ⟨entry, present, same⟩
  rw [unsubscribe, kept]

/-- A subscription that is there takes its listener away and nobody else. -/
theorem Numbered.active_unsubscribe_of_split
    {before after : List (SubscriptionId × listener)}
    {leaver : listener}
    (numbered : subscribers.Numbered)
    (split : subscribers.active = before ++ (id, leaver) :: after) :
    (subscribers.unsubscribe id).2.active = before ++ after := by
  have distinct := numbered.nodup
  rw [ids, split, List.map_append, List.map_cons, List.nodup_middle, List.nodup_cons,
    ← List.map_append] at distinct
  have others : ∀ entry ∈ before ++ after, entry.1 ≠ id := fun entry present same =>
    distinct.1 (List.mem_map.mpr ⟨entry, present, same⟩)
  rw [active_unsubscribe, split, List.filter_append, List.filter_cons_of_neg (by simp),
    ← List.filter_append]
  exact List.filter_eq_self.mpr fun entry present => decide_eq_true (others entry present)

/-! ## The invariant -/

/-- The listeners are those whose subscriptions stand, and the numbers that were given
are those below the next one. -/
structure Continues (subscribers : Subscribers listener) (events : List (Event listener)) :
    Prop where
  active_eq : subscribers.active = standing events
  issued_eq : (issued events).map (·.number) = List.range subscribers.next

namespace Continues

theorem serve
    (continues : subscribers.Continues events)
    (request : Request listener) :
    (subscribers.serve request).2.Continues (events ++ [(subscribers.serve request).1]) := by
  obtain ⟨active_eq, issued_eq⟩ := continues
  cases request with
  | subscribe newcomer =>
      refine ⟨?_, ?_⟩
      · exact (congrArg (· ++ _) active_eq).trans (standing_concat_subscribed newcomer).symm
      · rw [issued_append, List.map_append, issued_eq]
        exact List.range_succ.symm
  | unsubscribe id =>
      refine ⟨?_, ?_⟩
      · exact (congrArg (List.filter _) active_eq).trans (standing_concat_unsubscribed _).symm
      · rw [issued_append, List.map_append, issued_eq]
        exact List.append_nil _
  | clear =>
      refine ⟨standing_concat_cleared.symm, ?_⟩
      rw [issued_append, List.map_append, issued_eq]
      exact List.append_nil _

theorem serveAll
    (continues : subscribers.Continues events)
    (requests : List (Request listener)) :
    (subscribers.serveAll requests).2.Continues
      (events ++ (subscribers.serveAll requests).1) := by
  induction requests generalizing subscribers events with
  | nil =>
      rw [Subscribers.serveAll, List.append_nil]
      exact continues
  | cons request requests inductionHypothesis =>
      have rest := inductionHypothesis (continues.serve request)
      rw [List.append_assoc] at rest
      exact rest

theorem issued_ascending (continues : subscribers.Continues events) :
    (issued events).Pairwise fun earlier later => earlier.number < later.number := by
  rw [← List.pairwise_map (f := SubscriptionId.number), continues.issued_eq]
  exact List.pairwise_lt_range

theorem lt_next (continues : subscribers.Continues events) (given : id ∈ issued events) :
    id.number < subscribers.next := by
  have present := List.mem_map_of_mem (f := SubscriptionId.number) given
  rw [continues.issued_eq] at present
  exact List.mem_range.mp present

theorem ids_eq (continues : subscribers.Continues events) :
    subscribers.ids = (standing events).map (·.1) := by
  rw [ids, continues.active_eq]

theorem numbered (continues : subscribers.Continues events) : subscribers.Numbered := by
  have ordered := map_fst_standing_sublist events
  rw [← continues.ids_eq] at ordered
  exact ⟨continues.issued_ascending.sublist ordered,
    fun id present => continues.lt_next (ordered.subset present)⟩

/-- A subscription that was ended is not there any more, whatever came after. -/
theorem not_mem_ids_of_ends
    {earlier later : List (Event listener)}
    {event : Event listener}
    (continues : subscribers.Continues (earlier ++ event :: later))
    (given : id ∈ issued earlier)
    (ends : event.ends id = true) :
    id ∉ subscribers.ids := by
  rw [continues.ids_eq, standing_append, List.map_append, List.mem_append]
  rintro (stoodBefore | stoodSince)
  · obtain ⟨entry, kept, rfl⟩ := List.mem_map.mp stoodBefore
    have unended := (List.mem_filter.mp kept).2
    rw [List.any_cons, ends] at unended
    contradiction
  · -- Whatever has stood since has a greater number.
    have ascending := continues.issued_ascending
    rw [issued_append, List.pairwise_append] at ascending
    have givenSince := (map_fst_standing_sublist (event :: later)).subset stoodSince
    exact Nat.lt_irrefl _ (ascending.2.2 id given id givenSince)

end Continues

theorem continues_empty : (empty : Subscribers listener).Continues [] := ⟨rfl, rfl⟩

/-- Every subscription counts up by one, and nothing else does. -/
theorem next_serveAll
    (subscribers : Subscribers listener)
    (requests : List (Request listener)) :
    (subscribers.serveAll requests).2.next =
      subscribers.next + requests.countP Request.subscribes := by
  induction requests generalizing subscribers with
  | nil => rfl
  | cons request requests inductionHypothesis =>
      refine (inductionHypothesis _).trans ?_
      rw [List.countP_cons]
      cases request with
      | subscribe newcomer =>
          rw [Request.subscribes, if_pos rfl, ← Nat.add_assoc, Nat.add_right_comm]
          rfl
      | unsubscribe id => rfl
      | clear => rfl

/-! ## What every history leads to -/

/-- Listeners come and go in any order, and fewer of them ever come than there are words
of 64 bits. The numbers that are given ascend, and all of them and the next one are such
words. Those who listen in the end are those whose subscriptions stand, each once and in
the order of the numbers. A subscription that stands is found and takes its listener away
and nobody else; any other is not found and takes nobody away. One that was given and has
ended, by itself or with all others, is never found again. -/
theorem keeps_standing_subscriptions
    {requests : List (Request listener)}
    {events : List (Event listener)}
    {subscribers : Subscribers listener}
    (few : requests.countP Request.subscribes < UInt64.size)
    (led : (empty : Subscribers listener).serveAll requests = (events, subscribers)) :
    (issued events).Pairwise (fun earlier later => earlier.number < later.number) ∧
    (∀ id ∈ issued events, id.number < subscribers.next) ∧
    subscribers.next < UInt64.size ∧
    subscribers.active = standing events ∧
    subscribers.listeners = (standing events).map (·.2) ∧
    ((standing events).map (·.1)).Sublist (issued events) ∧
    (∀ id, (subscribers.unsubscribe id).1 = true ↔ id ∈ (standing events).map (·.1)) ∧
    (∀ before after id leaver, standing events = before ++ (id, leaver) :: after →
      (subscribers.unsubscribe id).2.active = before ++ after) ∧
    (∀ id, id ∉ (standing events).map (·.1) → (subscribers.unsubscribe id).2 = subscribers) ∧
    ∀ earlier event later, events = earlier ++ event :: later →
      ∀ id ∈ issued earlier, event.ends id = true → (subscribers.unsubscribe id).1 = false := by
  have continues := continues_empty.serveAll requests
  have counted := next_serveAll (empty : Subscribers listener) requests
  rw [led] at continues counted
  have bounded : subscribers.next < UInt64.size := by
    rw [counted]
    simpa [empty] using few
  refine ⟨continues.issued_ascending, fun id given => continues.lt_next given, bounded,
    continues.active_eq, ?_, map_fst_standing_sublist events, fun id => ?_, ?_, fun id absent => ?_,
    ?_⟩
  · rw [listeners, continues.active_eq]
    rfl
  · rw [unsubscribe_fst_eq_true_iff, continues.ids_eq]
    rfl
  · intro before after id leaver split
    exact continues.numbered.active_unsubscribe_of_split (continues.active_eq.trans split)
  · refine unsubscribe_snd_of_not_mem ?_
    rw [continues.ids_eq]
    exact absent
  · intro earlier event later split id given ends
    rw [List.nil_append, split] at continues
    rw [← Bool.not_eq_true, unsubscribe_fst_eq_true_iff]
    exact continues.not_mem_ids_of_ends given ends

/-- Listeners who come and go, among them one who gives up a subscription that is not
made yet and one who gives up a subscription that was dropped with all others. -/
def visitors : List (Request Nat) :=
  [.subscribe 7, .unsubscribe ⟨1⟩, .subscribe 8, .unsubscribe ⟨0⟩, .clear, .subscribe 6,
    .unsubscribe ⟨1⟩, .subscribe 9]

/-- The last two stay, with numbers of their own. The one that was given up and the one
that was dropped are not found again, and the first of those who stayed leaves alone. -/
theorem keeps_standing_subscriptions_of_visitors :
    let served := (empty : Subscribers Nat).serveAll visitors
    issued served.1 = [⟨0⟩, ⟨1⟩, ⟨2⟩, ⟨3⟩] ∧
      served.2.active = [(⟨2⟩, 6), (⟨3⟩, 9)] ∧
      (served.2.unsubscribe ⟨0⟩).1 = false ∧
      (served.2.unsubscribe ⟨1⟩).1 = false ∧
      (served.2.unsubscribe ⟨2⟩).1 = true ∧
      (served.2.unsubscribe ⟨2⟩).2.active = [(⟨3⟩, 9)] := by
  intro served
  have few : visitors.countP Request.subscribes < UInt64.size := by decide
  have led : (empty : Subscribers Nat).serveAll visitors = (served.1, served.2) := rfl
  obtain ⟨-, -, -, stand, -, -, found, leaves, -, ended⟩ := keeps_standing_subscriptions few led
  refine ⟨rfl, stand, ?_, ?_, (found ⟨2⟩).mpr (by decide), leaves [] [(⟨3⟩, 9)] ⟨2⟩ 6 rfl⟩
  · exact ended (served.1.take 3) (.unsubscribed ⟨0⟩ true) (served.1.drop 4) rfl ⟨0⟩
      (by decide) rfl
  · exact ended (served.1.take 4) .cleared (served.1.drop 5) rfl ⟨1⟩ (by decide) rfl

end Subscribers
end GossipGroup
