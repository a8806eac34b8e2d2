import GossipGroup.Proofs.Election.Voters
import GossipGroup.Proofs.Subscribers
import Mathlib.Data.List.Chain
import Mathlib.Data.List.Induction
import Mathlib.Data.List.Nodup

/-!
# What listeners hear of a leader

An election is asked for this and that, one thing after another. Whoever listens
hears the present leader when it subscribes and every other leader once it is
elected, and nothing else. So the leader that a listener heard of last is the
present one, and it never hears of the same leader twice in a row.
-/

namespace GossipGroup
namespace Election

/-- What can be asked of an election. A listener is known by the number of its
subscription. -/
inductive Call
  | elect (roster : Roster)
  | observe (roster : Roster) (changes : List Change)
  | subscribe
  | unsubscribe (id : SubscriptionId)
  | observing (id : SubscriptionId)
  | reset
  deriving DecidableEq

variable {election next : Election SubscriptionId} {self : Identity} {call : Call}
  {id : SubscriptionId} {news later : List (LeaderNews SubscriptionId)}

/-- What becomes of the election, and what is told to listeners. -/
def answer (election : Election SubscriptionId) :
    Call → Election SubscriptionId × List (LeaderNews SubscriptionId)
  | .elect roster => election.elect roster
  | .observe roster changes => election.observe roster changes
  | .subscribe => (election.subscribe ⟨election.listeners.next⟩).2
  | .unsubscribe id => ((election.unsubscribe id).2, [])
  | .observing id => (election.observing id, [])
  | .reset => (election.reset.2, [])

/-- One call after another, and all that is told on the way. -/
def run (election : Election SubscriptionId) :
    List Call → Election SubscriptionId × List (LeaderNews SubscriptionId)
  | [] => (election, [])
  | call :: calls =>
      let (next, news) := election.answer call
      let (last, later) := next.run calls
      (last, news ++ later)

theorem run_concat (election : Election SubscriptionId) (calls : List Call) (call : Call) :
    election.run (calls ++ [call]) =
      (((election.run calls).1.answer call).1,
        (election.run calls).2 ++ ((election.run calls).1.answer call).2) := by
  induction calls generalizing election with
  | nil => simp [run]
  | cons first calls inductionHypothesis =>
      simp only [List.cons_append, run, inductionHypothesis, List.append_assoc]

/-- What becomes of the listeners: they come and go as they ask to, and a reset
drops them all. -/
def resubscribed (subscribers : Subscribers SubscriptionId) : Call → Subscribers SubscriptionId
  | .subscribe => (subscribers.subscribe ⟨subscribers.next⟩).2
  | .unsubscribe id => (subscribers.unsubscribe id).2
  | .reset => subscribers.clear
  | .elect _ | .observe _ _ | .observing _ => subscribers

/-- A leader as it is told to a listener: the election already names it when it is
asked meanwhile. -/
def announcement (self leader : Identity) (recipient : SubscriptionId) :
    LeaderNews SubscriptionId :=
  ⟨recipient, leader, some leader, leader.same self⟩

/-- The leader that a call brings up, if it is not the one there was. -/
def newLeader? (election next : Election SubscriptionId) : Option Identity :=
  next.leader.filter fun leader => !election.isLedBy leader

/-- What a call makes listeners hear: a newcomer of the leader there is, everybody of
one that is not the one there was. -/
def announcements (election next : Election SubscriptionId) (call : Call) :
    List (LeaderNews SubscriptionId) :=
  if call = .subscribe then
    election.leader.toList.map fun leader =>
      announcement election.self leader ⟨election.listeners.next⟩
  else
    (election.newLeader? next).toList.flatMap fun leader =>
      election.listeners.listeners.map (announcement election.self leader)

/-- The leaders that a listener is told of. -/
def heardBy (id : SubscriptionId) (news : List (LeaderNews SubscriptionId)) : List Identity :=
  (news.filter (·.recipient = id)).map (·.leader)

/-- Two leaders are the same, or there is none. -/
def SameLeader (left right : Option Identity) : Prop :=
  Option.Rel (fun left right => left.same right = true) left right

/-! ## One call -/

/-- What a call can do. -/
inductive Announces (election : Election SubscriptionId) (call : Call)
    (next : Election SubscriptionId) (news : List (LeaderNews SubscriptionId)) : Prop
  /-- Another leader is elected, and everybody hears of it. -/
  | elected
      (leader : Identity)
      (nobody : call ≠ .subscribe)
      (stay : resubscribed election.listeners call = election.listeners)
      (named : next.leader = some leader)
      (other : election.isLedBy leader = false)
      (told : news = election.listeners.listeners.map (announcement election.self leader))
  /-- Somebody subscribes and hears of the leader there is. -/
  | joined
      (subscribes : call = .subscribe)
      (unmoved : next.leader = election.leader)
      (told : news = election.leader.toList.map fun leader =>
        announcement election.self leader ⟨election.listeners.next⟩)
  /-- Nobody subscribes, and the leader is the one there was. -/
  | kept
      (nobody : call ≠ .subscribe)
      (unmoved : SameLeader election.leader next.leader)
      (told : news = [])
  /-- Leader and listeners are forgotten. -/
  | forgotten
      (reset : call = .reset)
      (unnamed : next.leader = none)
      (told : news = [])

theorem SameLeader.refl (leader : Option Identity) : SameLeader leader leader := by
  cases leader with
  | none => exact .none
  | some leader => exact .some (Identity.same_refl leader)

theorem SameLeader.symm {left right : Option Identity} (same : SameLeader left right) :
    SameLeader right left := by
  cases same with
  | none => exact .none
  | some same => exact .some (Identity.same_symm same)

theorem SameLeader.trans
    {first second third : Option Identity}
    (left : SameLeader first second)
    (right : SameLeader second third) :
    SameLeader first third := by
  cases left with
  | none => exact right
  | some left =>
      cases right with
      | some right => exact .some (Identity.same_trans left right)

theorem isLedBy_iff {leader : Identity} :
    election.isLedBy leader = true ↔ SameLeader election.leader (some leader) := by
  rw [isLedBy]
  cases election.leader with
  | none => exact iff_of_false Bool.false_ne_true Option.not_rel_none_some
  | some former => rw [SameLeader, Option.rel_some_some]

theorem announces_elect
    (roster : Roster)
    (stay : resubscribed election.listeners call = election.listeners)
    (nobody : call ≠ .subscribe) :
    election.Announces call (election.elect roster).1 (election.elect roster).2 := by
  cases led : election.isLedBy roster.oldestAlive with
  | true =>
      refine .kept nobody (isLedBy_iff.mp led) ?_
      rw [elect, led]
      rfl
  | false =>
      refine .elected roster.oldestAlive nobody stay rfl led ?_
      rw [elect, led]
      refine List.map_congr_left fun recipient _ => ?_
      rfl

/-- What the answer to a call can be. -/
theorem announces_answer (election : Election SubscriptionId) (call : Call) :
    election.Announces call (election.answer call).1 (election.answer call).2 := by
  cases call with
  | elect roster => exact announces_elect roster rfl (by simp)
  | observe roster changes =>
      rw [answer, observe]
      split
      · exact announces_elect roster rfl (by simp)
      · exact .kept (by simp) (SameLeader.refl _) rfl
  | subscribe =>
      refine .joined rfl rfl ?_
      rw [answer, subscribe]
      dsimp only
      cases named : election.leader with
      | none => rfl
      | some leader => simp [newsFor, announcement, isLeader]
  | unsubscribe id => exact .kept (by simp) (SameLeader.refl _) rfl
  | observing id => exact .kept (by simp) (SameLeader.refl _) rfl
  | reset => exact .forgotten rfl rfl rfl

/-- What is told is what the change of leader calls for. -/
theorem answer_eq_announcements (election : Election SubscriptionId) (call : Call) :
    (election.answer call).2 = election.announcements (election.answer call).1 call := by
  cases election.announces_answer call with
  | elected leader nobody stay named other told =>
      rw [announcements, if_neg nobody, newLeader?, named,
        Option.filter_some_pos (by rw [other]; rfl), told]
      exact (List.append_nil _).symm
  | joined subscribes unmoved told => rw [announcements, if_pos subscribes, told]
  | kept nobody unmoved told =>
      rw [announcements, if_neg nobody, newLeader?, told]
      cases named : (election.answer call).1.leader with
      | none => rfl
      | some leader =>
          rw [named] at unmoved
          rw [Option.filter_some_neg (by rw [isLedBy_iff.mpr unmoved]; decide)]
          rfl
  | forgotten reset unnamed told =>
      rw [announcements, if_neg (reset ▸ nofun), newLeader?, unnamed, told]
      rfl

/-- An election stays that of its node, and its listeners are those who want to be. -/
theorem answer_keeps (election : Election SubscriptionId) (call : Call) :
    (election.answer call).1.self = election.self ∧
      (election.answer call).1.listeners = resubscribed election.listeners call := by
  cases call with
  | observe roster changes =>
      rw [answer, observe]
      split
      · exact ⟨rfl, rfl⟩
      · exact ⟨rfl, rfl⟩
  | elect | subscribe | unsubscribe | observing | reset => exact ⟨rfl, rfl⟩

/-! ## What one listener hears -/

theorem heardBy_append (id : SubscriptionId) (news later : List (LeaderNews SubscriptionId)) :
    heardBy id (news ++ later) = heardBy id news ++ heardBy id later := by
  rw [heardBy, List.filter_append, List.map_append, heardBy, heardBy]

/-- Whoever is told of a leader hears of it once, and nobody else does. -/
theorem heardBy_map_announcement
    {recipients : List SubscriptionId}
    (nodup : recipients.Nodup)
    (leader : Identity) :
    heardBy id (recipients.map (announcement self leader)) =
      if id ∈ recipients then [leader] else [] := by
  have chosen : (recipients.map (announcement self leader)).filter (·.recipient = id) =
      (recipients.filter (· = id)).map (announcement self leader) :=
    List.filter_map
  rw [heardBy, chosen, List.filter_eq, nodup.count]
  split <;> rfl

/-- Listeners are known by the numbers of their subscriptions. -/
structure Labelled (subscribers : Subscribers SubscriptionId) : Prop where
  numbered : subscribers.Numbered
  named : ∀ entry ∈ subscribers.active, entry.2 = entry.1

theorem Labelled.listeners_eq_ids
    {subscribers : Subscribers SubscriptionId}
    (labelled : Labelled subscribers) :
    subscribers.listeners = subscribers.ids :=
  List.map_congr_left labelled.named

theorem labelled_resubscribed
    {subscribers : Subscribers SubscriptionId}
    (labelled : Labelled subscribers)
    (call : Call) :
    Labelled (resubscribed subscribers call) := by
  cases call with
  | elect roster => exact labelled
  | observe roster changes => exact labelled
  | subscribe =>
      refine ⟨labelled.numbered.subscribe _, ?_⟩
      rw [resubscribed, Subscribers.active_subscribe, List.forall_mem_append,
        List.forall_mem_singleton]
      exact ⟨labelled.named, rfl⟩
  | unsubscribe id =>
      exact ⟨labelled.numbered.unsubscribe id,
        fun entry present => labelled.named entry (List.mem_filter.mp present).1⟩
  | observing id => exact labelled
  | reset => exact ⟨.clear, fun _ present => absurd present List.not_mem_nil⟩

/-- Everybody subscribed has last heard of the present leader, nobody has heard of
a leader twice in a row, and whoever is still to come has heard nothing. -/
structure Informed (election : Election SubscriptionId)
    (news : List (LeaderNews SubscriptionId)) : Prop where
  labelled : Labelled election.listeners
  upToDate : ∀ id ∈ election.listeners.listeners,
    SameLeader (heardBy id news).getLast? election.leader
  unheard : ∀ id : SubscriptionId, election.listeners.next ≤ id.number → heardBy id news = []
  varied : ∀ id, (heardBy id news).IsChain fun earlier later => earlier.same later = false

theorem informed_initial (self : Identity) : (initial self).Informed [] where
  labelled := ⟨Subscribers.numbered_empty, fun _ present => absurd present List.not_mem_nil⟩
  upToDate := fun _ present => absurd present List.not_mem_nil
  unheard := fun _ _ => rfl
  varied := fun _ => .nil

/-- What one listener hears of a call. -/
inductive Hears (election : Election SubscriptionId) (id : SubscriptionId)
    (next : Election SubscriptionId) (news : List (LeaderNews SubscriptionId)) : Prop
  /-- Nothing: if it listens now, it did before and the leader is the one there was, or
  it is new and there is no leader. -/
  | nothing
      (unheard : heardBy id news = [])
      (stays : id ∈ next.listeners.listeners →
        id ∈ election.listeners.listeners ∧ SameLeader election.leader next.leader ∨
          election.listeners.next ≤ id.number ∧ next.leader = none)
  /-- The present leader: it did not listen before, or the leader was another. -/
  | present
      (leader : Identity)
      (heard : heardBy id news = [leader])
      (named : next.leader = some leader)
      (listens : id ∈ next.listeners.listeners)
      (news : id ∈ election.listeners.listeners ∧ election.isLedBy leader = false ∨
        election.listeners.next ≤ id.number)

theorem next_le_resubscribed (subscribers : Subscribers SubscriptionId) (call : Call) :
    subscribers.next ≤ (resubscribed subscribers call).next := by
  cases call with
  | subscribe => exact Nat.le_succ _
  | elect | observe | unsubscribe | observing | reset => exact Nat.le_refl _

/-- A call takes at most one number. -/
theorem next_resubscribed_le (subscribers : Subscribers SubscriptionId) (call : Call) :
    (resubscribed subscribers call).next ≤ subscribers.next + 1 := by
  cases call with
  | subscribe => exact Nat.le_refl _
  | elect | observe | unsubscribe | observing | reset => exact Nat.le_succ _

/-- Only a call to subscribe adds a listener. -/
theorem mem_of_mem_resubscribed
    {subscribers : Subscribers SubscriptionId}
    (nobody : call ≠ .subscribe)
    (present : id ∈ (resubscribed subscribers call).listeners) :
    id ∈ subscribers.listeners := by
  cases call with
  | subscribe => contradiction
  | unsubscribe gone =>
      obtain ⟨entry, kept, rfl⟩ := List.mem_map.mp present
      exact List.mem_map_of_mem (List.mem_filter.mp kept).1
  | reset => exact absurd present List.not_mem_nil
  | elect | observe | observing => exact present

theorem hears_answer
    (labelled : Labelled election.listeners)
    (call : Call)
    (id : SubscriptionId) :
    election.Hears id (election.answer call).1 (election.answer call).2 := by
  have listeners := (election.answer_keeps call).2
  cases election.announces_answer call with
  | elected leader nobody stay named other told =>
      have nodup : election.listeners.listeners.Nodup :=
        labelled.listeners_eq_ids ▸ labelled.numbered.nodup
      rw [stay] at listeners
      by_cases present : id ∈ election.listeners.listeners
      · refine .present leader ?_ named (listeners ▸ present) (.inl ⟨present, other⟩)
        rw [told, heardBy_map_announcement nodup, if_pos present]
      · refine .nothing ?_ (fun listens => absurd (listeners ▸ listens) present)
        rw [told, heardBy_map_announcement nodup, if_neg present]
  | joined subscribes unmoved told =>
      obtain rfl := subscribes
      rw [resubscribed] at listeners
      by_cases newcomer : id = ⟨election.listeners.next⟩
      · have fresh : election.listeners.next ≤ id.number := newcomer ▸ Nat.le_refl _
        cases named : election.leader with
        | none =>
            rw [named] at unmoved told
            refine .nothing ?_ fun _ => .inr ⟨fresh, unmoved⟩
            rw [told]
            rfl
        | some leader =>
            rw [named] at unmoved told
            refine .present leader ?_ unmoved ?_ (.inr fresh)
            · rw [told, newcomer]
              simp [heardBy, announcement]
            · rw [listeners, Subscribers.listeners_subscribe, newcomer]
              exact List.mem_append_right _ List.mem_cons_self
      · refine .nothing ?_ fun listens => .inl ⟨?_, unmoved ▸ SameLeader.refl _⟩
        · rw [told]
          cases election.leader with
          | none => rfl
          | some leader => simp [heardBy, announcement, Ne.symm newcomer]
        · rw [listeners, Subscribers.listeners_subscribe] at listens
          rcases List.mem_append.mp listens with before | last
          · exact before
          · exact absurd (List.mem_singleton.mp last) newcomer
  | kept nobody unmoved told =>
      refine .nothing (told ▸ rfl) fun listens => .inl ⟨?_, unmoved⟩
      rw [listeners] at listens
      exact mem_of_mem_resubscribed nobody listens
  | forgotten reset unnamed told =>
      refine .nothing (told ▸ rfl) fun listens => ?_
      rw [listeners, reset] at listens
      exact absurd listens List.not_mem_nil

/-! ## Everything that happens -/

/-- A call keeps everybody informed. -/
theorem Informed.answer
    (informed : election.Informed news)
    (call : Call) :
    (election.answer call).1.Informed (news ++ (election.answer call).2) := by
  have listeners := (election.answer_keeps call).2
  have labelled : Labelled (election.answer call).1.listeners :=
    listeners ▸ labelled_resubscribed informed.labelled call
  have hears := hears_answer informed.labelled call
  refine ⟨labelled, ?_, ?_, ?_⟩
  · intro id listens
    rw [heardBy_append]
    cases hears id with
    | nothing unheard stays =>
        rw [unheard, List.append_nil]
        rcases stays listens with ⟨before, same⟩ | ⟨fresh, unnamed⟩
        · exact (informed.upToDate id before).trans same
        · rw [informed.unheard id fresh, unnamed]
          exact .none
    | present leader heard named =>
        rw [heard, List.getLast?_concat, named]
        exact SameLeader.refl _
  · intro id fresh
    rw [heardBy_append]
    cases hears id with
    | nothing unheard =>
        have grown := next_le_resubscribed election.listeners call
        rw [← listeners] at grown
        rw [unheard, List.append_nil, informed.unheard id (Nat.le_trans grown fresh)]
    | present leader heard named listens =>
        rw [labelled.listeners_eq_ids] at listens
        exact absurd (labelled.numbered.given id listens) (Nat.not_lt.mpr fresh)
  · intro id
    rw [heardBy_append]
    cases hears id with
    | nothing unheard =>
        rw [unheard, List.append_nil]
        exact informed.varied id
    | present leader heard named listens news =>
        rw [heard, List.isChain_append]
        refine ⟨informed.varied id, .singleton leader, fun former last leader' head => ?_⟩
        obtain rfl := Option.some.inj head
        rcases news with ⟨before, other⟩ | fresh
        · have upToDate := informed.upToDate id before
          rw [Option.mem_def.mp last] at upToDate
          refine eq_false_of_ne_true fun same => ?_
          rw [isLedBy_iff.mpr (upToDate.symm.trans (.some same))] at other
          contradiction
        · rw [informed.unheard id fresh] at last
          contradiction

/-- So does one call after another. -/
theorem informed_run (self : Identity) (calls : List Call) :
    ((initial self).run calls).1.Informed ((initial self).run calls).2 := by
  induction calls using List.reverseRecOn with
  | nil => exact informed_initial self
  | append_singleton calls call inductionHypothesis =>
      rw [run_concat]
      exact inductionHypothesis.answer call

theorem self_run (election : Election SubscriptionId) (calls : List Call) :
    (election.run calls).1.self = election.self := by
  induction calls generalizing election with
  | nil => rfl
  | cons call calls inductionHypothesis =>
      rw [run]
      exact (inductionHypothesis _).trans (election.answer_keeps call).1

theorem listeners_run (election : Election SubscriptionId) (calls : List Call) :
    (election.run calls).1.listeners = calls.foldl resubscribed election.listeners := by
  induction calls generalizing election with
  | nil => rfl
  | cons call calls inductionHypothesis =>
      rw [run, List.foldl_cons, ← (election.answer_keeps call).2]
      exact inductionHypothesis _

/-- As long as there are fewer calls than words of 64 bits, such a word counts the
subscriptions. -/
theorem next_run_le (election : Election SubscriptionId) (calls : List Call) :
    (election.run calls).1.listeners.next ≤ election.listeners.next + calls.length := by
  induction calls generalizing election with
  | nil => exact Nat.le_refl _
  | cons call calls inductionHypothesis =>
      have step := next_resubscribed_le election.listeners call
      have rest := inductionHypothesis (election.answer call).1
      rw [(election.answer_keeps call).2] at rest
      rw [List.length_cons, Nat.add_comm calls.length, ← Nat.add_assoc]
      exact Nat.le_trans rest (Nat.add_le_add_right step _)

/-- Who does not listen any more hears nothing from then on, for its number is not
given again. -/
theorem heardBy_run_of_gone
    (labelled : Labelled election.listeners)
    (gone : id ∉ election.listeners.listeners)
    (given : id.number < election.listeners.next)
    (calls : List Call) :
    heardBy id (election.run calls).2 = [] := by
  induction calls generalizing election with
  | nil => rfl
  | cons call calls inductionHypothesis =>
      have listeners := (election.answer_keeps call).2
      have stillGiven : id.number < (election.answer call).1.listeners.next :=
        listeners ▸ Nat.lt_of_lt_of_le given (next_le_resubscribed _ call)
      rw [run, heardBy_append]
      cases hears_answer labelled call id with
      | nothing unheard stays =>
          rw [unheard, List.nil_append]
          refine inductionHypothesis (listeners ▸ labelled_resubscribed labelled call) ?_ stillGiven
          intro listens
          rcases stays listens with ⟨before, -⟩ | ⟨fresh, -⟩
          · exact gone before
          · exact absurd given (Nat.not_lt.mpr fresh)
      | present leader heard named listens news =>
          rcases news with ⟨before, -⟩ | fresh
          · exact absurd before gone
          · exact absurd given (Nat.not_lt.mpr fresh)

/-- Whoever unsubscribes, and everybody at a reset, does not listen any more. -/
theorem not_mem_listeners_answer
    (labelled : Labelled election.listeners)
    (leaves : call = .unsubscribe id ∨ call = .reset) :
    id ∉ (election.answer call).1.listeners.listeners := by
  have next := labelled_resubscribed labelled call
  rw [(election.answer_keeps call).2, next.listeners_eq_ids]
  rcases leaves with rfl | rfl
  · rw [resubscribed, Subscribers.ids_unsubscribe]
    exact fun present => of_decide_eq_true (List.mem_filter.mp present).2 rfl
  · exact List.not_mem_nil

/-- Whatever an election is asked for, listeners come and go only as they ask to and
stand in the order of their subscriptions. The leader that a listener has heard of
last is the present one, and it has heard of none only if there is none; no listener
hears of the same leader twice in a row. A call makes everybody hear, in order, of a
leader that was not the leader before, and a newcomer of the leader there is; and
the election, asked meanwhile, already names that leader. Once a listener has
unsubscribed or the election was reset, it hears nothing any more. -/
theorem listeners_hear_each_leader
    {calls : List Call}
    {last : Election SubscriptionId}
    (ran : (initial self).run calls = (last, news)) :
    last.self = self ∧
    last.listeners = calls.foldl resubscribed .empty ∧
    last.listeners.listeners.Pairwise (fun earlier later => earlier.number < later.number) ∧
    (∀ id ∈ last.listeners.listeners, SameLeader (heardBy id news).getLast? last.leader) ∧
    (∀ id, (heardBy id news).IsChain fun earlier later => earlier.same later = false) ∧
    (∀ call next later, last.answer call = (next, later) →
      later = last.announcements next call) ∧
    ∀ id ∈ last.listeners.listeners, ∀ call, call = .unsubscribe id ∨ call = .reset →
      ∀ rest, heardBy id ((last.answer call).1.run rest).2 = [] := by
  have informed := informed_run self calls
  have sameSelf := (initial self).self_run calls
  have listeners := (initial self).listeners_run calls
  rw [ran] at informed sameSelf listeners
  have labelled := informed.labelled
  refine ⟨sameSelf, listeners, ?_, informed.upToDate, informed.varied, ?_, ?_⟩
  · rw [labelled.listeners_eq_ids]
    exact labelled.numbered.ascending
  · intro call next later answered
    have told := last.answer_eq_announcements call
    rw [answered] at told
    exact told
  · intro id listens call leaves
    rw [labelled.listeners_eq_ids] at listens
    refine heardBy_run_of_gone ?_ (not_mem_listeners_answer labelled leaves) ?_
    · rw [(last.answer_keeps call).2]
      exact labelled_resubscribed labelled call
    · rw [(last.answer_keeps call).2]
      exact Nat.lt_of_lt_of_le (labelled.numbered.given id listens)
        (next_le_resubscribed _ call)

/-- What the junior knows while both are alive. -/
def withSenior : Roster :=
  ⟨Voter.junior, [⟨Voter.senior, 1, ⟨10⟩, .alive⟩, ⟨Voter.junior, 0, ⟨0⟩, .alive⟩],
    .ofSeconds 2, .ofSeconds 5⟩

/-- What the junior knows once the senior has left. -/
def withoutSenior : Roster :=
  ⟨Voter.junior, [⟨Voter.senior, 11, ⟨20⟩, .left⟩, ⟨Voter.junior, 0, ⟨0⟩, .alive⟩],
    .ofSeconds 2, .ofSeconds 5⟩

/-- One listener is there before the first election and another one comes after it.
Both hear of the senior and, once it has left, of the junior. -/
theorem two_listeners_hear_each_leader :
    ∃ last news,
      (initial Voter.junior).run
        [.subscribe, .elect withSenior, .subscribe, .elect withSenior,
          .observe withoutSenior [⟨Voter.senior, .left⟩]] = (last, news) ∧
      last.leader = some Voter.junior ∧
      last.listeners.listeners = [⟨0⟩, ⟨1⟩] ∧
      (∀ id ∈ last.listeners.listeners,
        heardBy id news = [Voter.senior, Voter.junior] ∧
          SameLeader (heardBy id news).getLast? last.leader) ∧
      ∀ rest, heardBy ⟨0⟩ ((last.answer (.unsubscribe ⟨0⟩)).1.run rest).2 = [] := by
  let calls : List Call := [.subscribe, .elect withSenior, .subscribe, .elect withSenior,
    .observe withoutSenior [⟨Voter.senior, .left⟩]]
  have computed :
      ((initial Voter.junior).run calls).1.leader = some Voter.junior ∧
        ((initial Voter.junior).run calls).1.listeners.listeners = [⟨0⟩, ⟨1⟩] ∧
          ∀ id ∈ [⟨0⟩, ⟨1⟩],
            heardBy id ((initial Voter.junior).run calls).2 = [Voter.senior, Voter.junior] := by
    decide +kernel
  cases ran : (initial Voter.junior).run calls with
  | mk last news =>
      rw [ran] at computed
      obtain ⟨named, listeners, heard⟩ := computed
      obtain ⟨-, -, -, upToDate, -, -, silent⟩ := listeners_hear_each_leader ran
      refine ⟨last, news, rfl, named, listeners, fun id listens => ⟨?_, upToDate id listens⟩, ?_⟩
      · rw [listeners] at listens
        exact heard id listens
      · exact silent ⟨0⟩ (listeners ▸ List.mem_cons_self) _ (.inl rfl)

end Election
end GossipGroup
