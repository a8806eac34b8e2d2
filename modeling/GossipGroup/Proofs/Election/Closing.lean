import GossipGroup.Proofs.Election.Attachment
import GossipGroup.Proofs.Subscribers

/-!
# What is left of a service that was closed

In whatever order the first election of a service, what its node goes through, others
that come and go as listeners of the node or of the leader, and the closing of the
service happen: when it is closed, exactly the others listen to the node, and nobody
listens to the leader.

A leader may be left all the same. A batch of changes that tells of the departure of the
leader has another one elected, but the election is not locked between the two, and
closing does not wait for the node before it clears the election. If it is cleared just
then, a leader is elected afterwards and nothing clears it again. That is the only way.
-/

namespace GossipGroup

variable {listener ear : Type}

/-! ## What listeners a node has -/

/-- Those who listen to a node: others, with the subscriptions that they count themselves,
and besides them at most the service, which is known by the number of its enrolment. -/
structure Hosts
    [DecidableEq ear]
    (subscribers : Subscribers ear)
    (own : ear)
    (enrolment : Option SubscriptionId)
    (others : List (SubscriptionId × ear)) : Prop where
  numbered : subscribers.Numbered
  others_eq : subscribers.active.filter (·.2 ≠ own) = others
  own_iff : ∀ entry ∈ subscribers.active, entry.2 = own ↔ enrolment = some entry.1
  given : ∀ id ∈ enrolment, id.number < subscribers.next

namespace Hosts

variable [DecidableEq ear] {subscribers : Subscribers ear} {own newcomer : ear}
  {enrolment : Option SubscriptionId} {others : List (SubscriptionId × ear)}
  {id : SubscriptionId}

/-- Somebody else subscribes. -/
theorem subscribe
    (hosts : Hosts subscribers own enrolment others)
    (other : newcomer ≠ own) :
    Hosts (subscribers.subscribe newcomer).2 own enrolment
      (others ++ [(⟨subscribers.next⟩, newcomer)]) where
  numbered := hosts.numbered.subscribe newcomer
  others_eq := by
    rw [Subscribers.active_subscribe, List.filter_append, hosts.others_eq,
      List.filter_cons_of_pos (by simpa using other), List.filter_nil]
  own_iff := by
    rw [Subscribers.active_subscribe, List.forall_mem_append, List.forall_mem_singleton]
    refine ⟨hosts.own_iff, iff_of_false other fun enrolled => ?_⟩
    exact Nat.lt_irrefl _ (hosts.given _ enrolled)
  given := fun id enrolled => Nat.lt_succ_of_lt (hosts.given id enrolled)

/-- A subscription is given up, whosever it is. -/
theorem unsubscribe
    (hosts : Hosts subscribers own enrolment others)
    (id : SubscriptionId) :
    Hosts (subscribers.unsubscribe id).2 own enrolment (others.filter (·.1 ≠ id)) where
  numbered := hosts.numbered.unsubscribe id
  others_eq := by
    rw [Subscribers.active_unsubscribe, List.filter_comm, hosts.others_eq]
  own_iff := by
    rw [Subscribers.active_unsubscribe]
    exact fun entry present => hosts.own_iff entry (List.mem_filter.mp present).1
  given := hosts.given

/-- The service itself subscribes. -/
theorem enrol (hosts : Hosts subscribers own none others) :
    Hosts (subscribers.subscribe own).2 own (some ⟨subscribers.next⟩) others where
  numbered := hosts.numbered.subscribe own
  others_eq := by
    rw [Subscribers.active_subscribe, List.filter_append, hosts.others_eq,
      List.filter_cons_of_neg (by simp), List.filter_nil, List.append_nil]
  own_iff := by
    rw [Subscribers.active_subscribe, List.forall_mem_append, List.forall_mem_singleton]
    refine ⟨fun entry present => ?_, iff_of_true rfl rfl⟩
    -- Whoever was there before has an older number.
    have older := hosts.numbered.given entry.1 (List.mem_map_of_mem present)
    have other : entry.2 ≠ own := fun same => nomatch (hosts.own_iff entry present).mp same
    refine iff_of_false other fun enrolled => ?_
    rw [← Option.some.inj enrolled] at older
    exact Nat.lt_irrefl _ older
  given := by
    rintro id enrolled
    rw [← Option.some.inj enrolled]
    exact Nat.lt_succ_self _

/-- Nobody but others is there without an enrolment. -/
theorem active_eq (hosts : Hosts subscribers own none others) :
    subscribers.active = others := by
  rw [← hosts.others_eq, List.filter_eq_self.mpr]
  intro entry present
  rw [decide_eq_true_eq]
  exact fun same => nomatch (hosts.own_iff entry present).mp same

/-- The service gives its subscription up. -/
theorem release (hosts : Hosts subscribers own (some id) others) :
    Hosts (subscribers.unsubscribe id).2 own none others := by
  have remaining : (subscribers.unsubscribe id).2.active = others := by
    rw [Subscribers.active_unsubscribe, ← hosts.others_eq]
    refine List.filter_congr fun entry present => ?_
    rw [decide_eq_decide, Ne, Ne, hosts.own_iff entry present, Option.some.injEq, eq_comm]
  have strangers : ∀ entry ∈ others, entry.2 ≠ own := by
    intro entry present
    rw [← hosts.others_eq] at present
    exact of_decide_eq_true (List.mem_filter.mp present).2
  refine ⟨hosts.numbered.unsubscribe id, ?_, ?_, nofun⟩
  · rw [remaining, List.filter_eq_self]
    exact fun entry present => decide_eq_true (strangers entry present)
  · rw [remaining]
    exact fun entry present => iff_of_false (strangers entry present) nofun

/-- What a node goes through concerns others. -/
theorem undergo
    {attachment : Attachment listener ear}
    {turn : Node.Turn ear}
    (hosts : Hosts attachment.node.subscribers own enrolment attachment.others)
    (stranger : turn ≠ .subscribe own) :
    Hosts (attachment.node.undergo turn).node.subscribers own enrolment
      (attachment.othersAfter turn) := by
  rw [(attachment.node.publishes_undergo turn).subscribers]
  cases turn with
  | round now number => exact hosts
  | arrival now arrival => exact hosts
  | stop => exact hosts
  | subscribe newcomer => exact hosts.subscribe fun same => stranger (congrArg _ same)
  | unsubscribe id => exact hosts.unsubscribe id

/-- A node tells a service of changes only if the service is enrolled. -/
theorem heardBy_eq_nil
    {node : Node ear}
    (hosts : Hosts node.subscribers own none others)
    (turn : Node.Turn ear) :
    Node.heardBy own (node.undergo turn).news = [] := by
  have absent : node.subscriptions own = [] := by
    refine List.filter_eq_nil_iff.mpr fun entry present same => ?_
    exact nomatch (hosts.own_iff entry present).mp (of_decide_eq_true same)
  rw [Node.heardBy_undergo, absent]
  rfl

end Hosts

/-- Whatever a node goes through, its listeners are numbered. -/
theorem Node.numbered_run
    {node : Node ear}
    (numbered : node.subscribers.Numbered)
    (turns : List (Node.Turn ear)) :
    (node.run turns).1.subscribers.Numbered := by
  induction turns generalizing node with
  | nil => exact numbered
  | cons turn turns inductionHypothesis =>
      refine inductionHypothesis ?_
      rw [(node.publishes_undergo turn).subscribers]
      cases turn with
      | round _ _ | arrival _ _ | stop => exact numbered
      | subscribe newcomer => exact numbered.subscribe newcomer
      | unsubscribe id => exact numbered.unsubscribe id

/-! ## What is left of an election -/

/-- Nobody listens to an election, and it has no subscription. -/
structure Election.IsDeserted (election : Election listener) : Prop where
  unheard : election.listeners.active = []
  unnoted : election.observation = none

namespace Errand

variable {election : Election listener} {errand : Errand listener ear}

/-- An errand changes at most the leader. -/
theorem step_keeps (election : Election listener) (errand : Errand listener ear) :
    (errand.step election).1.listeners = election.listeners ∧
      (errand.step election).1.observation = election.observation := by
  fun_cases step election errand <;> exact ⟨rfl, rfl⟩

/-- Nothing is left of an errand that is done. -/
theorem isDone_step (done : errand.isDone = true) : (errand.step election).2.1.isDone = true := by
  rw [isDone_iff.mp done]
  rfl

/-- There is a leader, or one is to be elected. -/
def Leads (election : Election listener) (errand : Errand listener ear) : Prop :=
  errand.isElecting = true ∨ election.leader ≠ none

/-- An election without a leader minds no changes, so an errand elects a leader only if
there is one, or one is to be elected. -/
theorem leads_step :
    (errand.step election).2.1.Leads (errand.step election).1 ↔ errand.Leads election := by
  fun_cases step election errand with
  | case1 => exact Iff.rfl
  | case2 batch later loses =>
      refine iff_of_true (.inl rfl) (.inr fun leaderless => ?_)
      simp [Election.losesLeader, Election.isLedBy, leaderless] at loses
  | case3 batch later keeps => exact Iff.rfl
  | case4 roster later => exact iff_of_true (.inr (Option.some_ne_none _)) (.inl rfl)
  | case5 leader later => exact Iff.rfl
  | case6 leader recipient audience later => exact Iff.rfl

end Errand

namespace Attachment

variable {attachment : Attachment listener ear}

/-- Closing has not got as far as to clear the election. -/
def IsAtWork (attachment : Attachment listener ear) : Prop :=
  attachment.closing = .unasked ∨ attachment.closing = .asked

/-- The number by which the service will know its subscription. -/
def enrolment (attachment : Attachment listener ear) : Option SubscriptionId :=
  match attachment.closing with
  | .unasked | .asked => attachment.first.enrolment attachment.election.observation
  | .cleared observation => observation
  | .closed => none

/-- At work, the enrolment depends on the first election. -/
theorem IsAtWork.enrolment_eq (atWork : attachment.IsAtWork) :
    attachment.enrolment = attachment.first.enrolment attachment.election.observation := by
  rcases atWork with closing | closing <;> rw [enrolment, closing]

theorem not_isAtWork_of_closed (closed : attachment.closing = .closed) :
    ¬attachment.IsAtWork := by
  simp [IsAtWork, closed]

theorem enrolment_congr
    {next : Attachment listener ear}
    (sameClosing : next.closing = attachment.closing)
    (sameFirst : next.first = attachment.first)
    (sameObservation : next.election.observation = attachment.election.observation) :
    next.enrolment = attachment.enrolment := by
  rw [enrolment, enrolment, sameClosing, sameFirst, sameObservation]

/-- Nobody but the service subscribes in its name. -/
def Strangers (own : ear) (moves : List (Move listener ear)) : Prop :=
  ∀ turn, .turn turn ∈ moves → turn ≠ .subscribe own

theorem strangers_cons
    {own : ear}
    {move : Move listener ear}
    {moves : List (Move listener ear)} :
    Strangers own (move :: moves) ↔
      (∀ turn, move = .turn turn → turn ≠ .subscribe own) ∧ Strangers own moves := by
  simp only [Strangers, List.mem_cons, or_imp, forall_and, eq_comm]

variable [DecidableEq ear] {own : ear}

/-! ## The invariant -/

/-- The service can be known by its enrolment among those who listen to its node, and the
lock of the node is held for it only in its first election or once it is enrolled. Before
its first election is over it has noted no subscription, and when it is not at work any
more the first election is over and the election is deserted. -/
structure Sound (attachment : Attachment listener ear) (own : ear) : Prop where
  hosts : Hosts attachment.node.subscribers own attachment.enrolment attachment.others
  busy : attachment.errand.isDone = false →
    attachment.first = .electing ∨ attachment.enrolment ≠ none
  unnoted : attachment.first ≠ .ended → attachment.election.observation = none
  idle : ¬attachment.IsAtWork → attachment.first = .ended ∧ attachment.election.IsDeserted

/-- Until its first election is over, a service is at work. -/
theorem Sound.isAtWork (sound : attachment.Sound own) (notEnded : attachment.first ≠ .ended) :
    attachment.IsAtWork :=
  Classical.byContradiction fun idle => notEnded (sound.idle idle).1

/-- So its node has the listeners that the first election accounts for. -/
theorem Sound.hosts_of_first
    {first : FirstElection}
    (sound : attachment.Sound own)
    (current : attachment.first = first)
    (notEnded : first ≠ .ended) :
    Hosts attachment.node.subscribers own (first.enrolment attachment.election.observation)
      attachment.others := by
  subst current
  rw [← (sound.isAtWork notEnded).enrolment_eq]
  exact sound.hosts

/-- A service at work is sound if its parts are. -/
theorem sound_at_work
    (atWork : attachment.IsAtWork)
    (hosts : Hosts attachment.node.subscribers own
      (attachment.first.enrolment attachment.election.observation) attachment.others)
    (busy : attachment.errand.isDone = false → attachment.first = .electing ∨
      attachment.first.enrolment attachment.election.observation ≠ none)
    (unnoted : attachment.first ≠ .ended → attachment.election.observation = none) :
    attachment.Sound own := by
  rw [← atWork.enrolment_eq] at hosts busy
  exact ⟨hosts, busy, unnoted, fun idle => absurd atWork idle⟩

/-- Nobody has subscribed for a service that was just attached. -/
theorem sound_fresh
    {node : Node ear}
    {service : ElectionService listener}
    (numbered : node.subscribers.Numbered)
    (strangers : node.subscriptions own = [])
    (unnoted : service.election.observation = none) :
    (fresh node service).Sound own := by
  have other : ∀ entry ∈ node.subscribers.active, entry.2 ≠ own := fun entry present same =>
    List.filter_eq_nil_iff.mp strangers entry present (decide_eq_true same)
  refine sound_at_work (.inl rfl) ⟨numbered, ?_, ?_, nofun⟩ nofun fun _ => unnoted
  · exact List.filter_eq_self.mpr fun entry present => decide_eq_true (other entry present)
  · exact fun entry present => iff_of_false (other entry present) nofun

theorem Sound.turn
    {turn : Node.Turn ear}
    (sound : attachment.Sound own)
    (stranger : turn ≠ .subscribe own) :
    (attachment.perform own (.turn turn)).1.Sound own := by
  rw [perform]
  split
  · refine ⟨sound.hosts.undergo stranger, fun hears => .inr fun unenrolled => ?_,
      sound.unnoted, sound.idle⟩
    have hosts := sound.hosts
    rw [show attachment.enrolment = none from unenrolled] at hosts
    simp only [hosts.heardBy_eq_nil turn] at hears
    contradiction
  · exact sound

theorem Sound.proceed (sound : attachment.Sound own) :
    (attachment.perform own .proceed).1.Sound own := by
  obtain ⟨sameListeners, sameObservation⟩ := attachment.errand.step_keeps attachment.election
  have sameEnrolment : (attachment.perform own .proceed).1.enrolment = attachment.enrolment :=
    enrolment_congr rfl rfl sameObservation
  refine ⟨sameEnrolment ▸ sound.hosts, fun busy => ?_,
    fun notEnded => sameObservation.trans (sound.unnoted notEnded), fun idle => ?_⟩
  · rw [sameEnrolment]
    refine sound.busy (Bool.eq_false_iff.mpr fun done => ?_)
    exact Bool.eq_false_iff.mp busy (Errand.isDone_step done)
  · obtain ⟨first, unheard, unnoted⟩ := sound.idle idle
    exact ⟨first, (congrArg _ sameListeners).trans unheard, sameObservation.trans unnoted⟩

/-- Who listens to the leader does not matter to the node. -/
theorem Sound.of_election
    {election : Election listener}
    (sound : attachment.Sound own)
    (unasked : attachment.closing = .unasked)
    (sameObservation : election.observation = attachment.election.observation) :
    ({ attachment with election } : Attachment listener ear).Sound own := by
  have sameEnrolment : ({ attachment with election } : Attachment listener ear).enrolment =
      attachment.enrolment :=
    enrolment_congr rfl rfl sameObservation
  exact ⟨sameEnrolment ▸ sound.hosts, sameEnrolment ▸ sound.busy,
    fun notEnded => sameObservation.trans (sound.unnoted notEnded),
    fun idle => absurd (.inl unasked) idle⟩

theorem Sound.elect (sound : attachment.Sound own) :
    (attachment.perform own .elect).1.Sound own := by
  rw [perform]
  split
  · rename_i ready
    have notEnded : attachment.first ≠ .ended := by simp [ready.1]
    have hosts := sound.hosts_of_first ready.1 (by simp)
    exact sound_at_work (sound.isAtWork notEnded) hosts (fun _ => .inl rfl)
      fun _ => sound.unnoted notEnded
  · exact sound

theorem Sound.enrol (sound : attachment.Sound own) :
    (attachment.perform own .enrol).1.Sound own := by
  rw [perform]
  split
  · rename_i ready
    have notEnded : attachment.first ≠ .ended := by simp [ready.1]
    have hosts := sound.hosts_of_first ready.1 (by simp)
    exact sound_at_work (sound.isAtWork notEnded) hosts.enrol
      (fun _ => .inr (Option.some_ne_none _)) fun _ => sound.unnoted notEnded
  · exact sound

theorem Sound.note (sound : attachment.Sound own) :
    (attachment.perform own .note).1.Sound own := by
  rw [perform]
  split
  · rename_i id enrolled
    have atWork := sound.isAtWork (by simp [enrolled])
    have hosts := sound.hosts_of_first enrolled (by simp)
    exact sound_at_work atWork hosts (fun _ => .inr (Option.some_ne_none _))
      fun unended => absurd rfl unended
  · exact sound
  · exact sound
  · exact sound

theorem Sound.ask (sound : attachment.Sound own) :
    (attachment.perform own .ask).1.Sound own := by
  rw [perform]
  split
  · rename_i unasked
    have atWork : attachment.IsAtWork := .inl unasked
    obtain ⟨hosts, busy, unnoted, -⟩ := sound
    rw [atWork.enrolment_eq] at hosts busy
    exact sound_at_work (.inr rfl) hosts busy unnoted
  · exact sound

theorem Sound.cancel (sound : attachment.Sound own) :
    (attachment.perform own .cancel).1.Sound own := by
  rw [perform]
  split
  · rename_i ready
    obtain ⟨asked, settling⟩ := ready
    have atWork : attachment.IsAtWork := .inr asked
    obtain ⟨hosts, busy, unnoted, -⟩ := sound
    rw [atWork.enrolment_eq, settling] at hosts busy
    -- Nothing was noted, so the service stays without a subscription.
    have sameEnrolment : FirstElection.ended.enrolment attachment.election.observation =
        FirstElection.settling.enrolment attachment.election.observation :=
      unnoted (by simp [settling])
    refine sound_at_work atWork (sameEnrolment ▸ hosts) (fun notDone => ?_)
      fun unended => absurd rfl unended
    exact absurd rfl ((busy notDone).resolve_left (by simp))
  · exact sound

theorem Sound.clear (sound : attachment.Sound own) :
    (attachment.perform own .clear).1.Sound own := by
  rw [perform]
  split
  · rename_i ready
    obtain ⟨asked, ended⟩ := ready
    have atWork : attachment.IsAtWork := .inr asked
    obtain ⟨hosts, busy, -, -⟩ := sound
    rw [atWork.enrolment_eq, ended] at hosts busy
    exact ⟨hosts, fun notDone => .inr ((busy notDone).resolve_left (by simp)),
      fun notEnded => absurd ended notEnded, fun _ => ⟨ended, rfl, rfl⟩⟩
  · exact sound

theorem Sound.release (sound : attachment.Sound own) :
    (attachment.perform own .release).1.Sound own := by
  have idle : ∀ {observation}, attachment.closing = .cleared observation →
      ¬attachment.IsAtWork := by
    intro observation closing atWork
    simp [IsAtWork, closing] at atWork
  rw [perform]
  split
  · rename_i closing
    have concluded := sound.idle (idle closing)
    obtain ⟨hosts, busy, unnoted, -⟩ := sound
    rw [enrolment, closing] at hosts busy
    exact ⟨hosts, busy, unnoted, fun _ => concluded⟩
  · rename_i id closing
    split
    · rename_i free
      have done := (Bool.and_eq_true_iff.mp free).1
      have hosts := sound.hosts
      rw [enrolment, closing] at hosts
      refine ⟨hosts.release, fun notDone => ?_, sound.unnoted, fun _ => sound.idle (idle closing)⟩
      exact absurd done (Bool.eq_false_iff.mp notDone)
    · exact sound
  · exact sound
  · exact sound
  · exact sound

/-- No move makes a service lose track of its subscription. -/
theorem Sound.perform
    {move : Move listener ear}
    (sound : attachment.Sound own)
    (stranger : ∀ turn, move = .turn turn → turn ≠ .subscribe own) :
    (attachment.perform own move).1.Sound own := by
  cases move with
  | turn turn => exact sound.turn (stranger turn rfl)
  | proceed => exact sound.proceed
  | elect => exact sound.elect
  | enrol => exact sound.enrol
  | note => exact sound.note
  | ask => exact sound.ask
  | cancel => exact sound.cancel
  | clear => exact sound.clear
  | release => exact sound.release
  | follow newcomer =>
      rw [Attachment.perform]
      split
      · rename_i ready
        exact sound.of_election ready.1 rfl
      · exact sound
  | unfollow id =>
      rw [Attachment.perform]
      split
      · rename_i unasked
        exact sound.of_election unasked rfl
      · exact sound

/-- The same along a run. -/
theorem Sound.run
    {moves : List (Move listener ear)}
    (sound : attachment.Sound own)
    (strangers : Strangers own moves) :
    (attachment.run own moves).1.Sound own := by
  induction moves generalizing attachment with
  | nil => exact sound
  | cons move moves inductionHypothesis =>
      obtain ⟨stranger, strangers⟩ := strangers_cons.mp strangers
      exact inductionHypothesis (sound.perform stranger) strangers

/-- A move takes at most one number of each kind. -/
theorem next_perform_le
    (attachment : Attachment listener ear)
    (own : ear)
    (move : Move listener ear) :
    (attachment.perform own move).1.node.subscribers.next ≤
        attachment.node.subscribers.next + 1 ∧
      (attachment.perform own move).1.election.listeners.next ≤
        attachment.election.listeners.next + 1 := by
  cases move with
  | turn turn =>
      rw [perform]
      split
      · exact ⟨attachment.node.next_undergo_le turn, Nat.le_succ _⟩
      · exact ⟨Nat.le_succ _, Nat.le_succ _⟩
  | proceed =>
      have kept := (attachment.errand.step_keeps attachment.election).1
      exact ⟨Nat.le_succ _, Nat.le_trans (Nat.le_of_eq (congrArg _ kept)) (Nat.le_succ _)⟩
  | follow newcomer =>
      rw [perform]
      split
      · exact ⟨Nat.le_succ _, Nat.le_refl _⟩
      · exact ⟨Nat.le_succ _, Nat.le_succ _⟩
  | enrol =>
      rw [perform]
      split
      · exact ⟨Nat.le_refl _, Nat.le_succ _⟩
      · exact ⟨Nat.le_succ _, Nat.le_succ _⟩
  | release =>
      rw [perform]
      split
      · exact ⟨Nat.le_succ _, Nat.le_succ _⟩
      · split
        · exact ⟨Nat.le_succ _, Nat.le_succ _⟩
        · exact ⟨Nat.le_succ _, Nat.le_succ _⟩
      · exact ⟨Nat.le_succ _, Nat.le_succ _⟩
      · exact ⟨Nat.le_succ _, Nat.le_succ _⟩
      · exact ⟨Nat.le_succ _, Nat.le_succ _⟩
  | unfollow id | elect | note | ask | cancel | clear =>
      rw [perform]
      split <;> exact ⟨Nat.le_succ _, Nat.le_succ _⟩

/-- As long as there are fewer moves than words of 64 bits, such words count the
subscriptions of the node and those of the election. -/
theorem next_run_le (attachment : Attachment listener ear) (moves : List (Move listener ear)) :
    (attachment.run own moves).1.node.subscribers.next ≤
        attachment.node.subscribers.next + moves.length ∧
      (attachment.run own moves).1.election.listeners.next ≤
        attachment.election.listeners.next + moves.length := by
  induction moves generalizing attachment with
  | nil => exact ⟨Nat.le_refl _, Nat.le_refl _⟩
  | cons move moves inductionHypothesis =>
      have step := attachment.next_perform_le own move
      have rest := inductionHypothesis (attachment.perform own move).1
      rw [List.length_cons, Nat.add_comm moves.length, ← Nat.add_assoc, ← Nat.add_assoc]
      exact ⟨Nat.le_trans rest.1 (Nat.add_le_add_right step.1 _),
        Nat.le_trans rest.2 (Nat.add_le_add_right step.2 _)⟩

/-! ## Whether a leader is left -/

/-- The election is cleared after it was found that the leader departed and before
another one is elected. -/
def interrupts (attachment : Attachment listener ear) : Move listener ear → Bool
  | .clear =>
      attachment.closing = .asked && attachment.first = .ended && attachment.errand.isElecting
  | .turn _ | .proceed | .follow _ | .unfollow _ | .elect | .enrol | .note | .ask | .cancel
  | .release => false

/-- Clearing the election interrupts a re-election at some time in a run. -/
def isInterrupted (own : ear) (attachment : Attachment listener ear) :
    List (Move listener ear) → Bool
  | [] => false
  | move :: moves =>
      attachment.interrupts move || (attachment.perform own move).1.isInterrupted own moves

/-- There is a leader, or one is to be elected. -/
def IsLed (attachment : Attachment listener ear) : Prop :=
  attachment.errand.Leads attachment.election

/-- The work of a service is ended only by clearing the election, and that leaves a leader
to be elected exactly if it interrupts a re-election. -/
theorem IsAtWork.perform
    (atWork : attachment.IsAtWork)
    (own : ear)
    (move : Move listener ear) :
    (attachment.perform own move).1.IsAtWork ∧ attachment.interrupts move = false ∨
      ¬(attachment.perform own move).1.IsAtWork ∧
        ((attachment.perform own move).1.IsLed ↔ attachment.interrupts move = true) := by
  cases move with
  | clear =>
      rw [Attachment.perform]
      split
      · rename_i ready
        refine .inr ⟨by simp [IsAtWork], ?_⟩
        rw [IsLed, Errand.Leads, interrupts]
        simp [ready, Election.reset]
      · rename_i unready
        refine .inl ⟨atWork, ?_⟩
        rw [interrupts, Bool.and_eq_false_iff]
        exact .inl (by simpa using unready)
  | release =>
      rw [Attachment.perform]
      refine .inl ⟨?_, rfl⟩
      split
      · rename_i closing
        exact absurd atWork (by simp [IsAtWork, closing])
      · rename_i closing
        exact absurd atWork (by simp [IsAtWork, closing])
      · exact atWork
      · exact atWork
      · exact atWork
  | ask =>
      rw [Attachment.perform]
      refine .inl ⟨?_, rfl⟩
      split
      · exact .inr rfl
      · exact atWork
  | proceed => exact .inl ⟨atWork, rfl⟩
  | turn turn | follow newcomer | unfollow id | elect | enrol | note | cancel =>
      rw [Attachment.perform]
      refine .inl ⟨?_, rfl⟩
      split <;> exact atWork

/-- When its election is cleared, it is settled whether a service is left with a leader. -/
theorem Sound.perform_of_idle
    (sound : attachment.Sound own)
    (idle : ¬attachment.IsAtWork)
    (move : Move listener ear) :
    ¬(attachment.perform own move).1.IsAtWork ∧
      ((attachment.perform own move).1.IsLed ↔ attachment.IsLed) ∧
      attachment.interrupts move = false := by
  obtain ⟨first, -⟩ := sound.idle idle
  obtain ⟨asked, unasked⟩ : attachment.closing ≠ .asked ∧ attachment.closing ≠ .unasked :=
    ⟨fun closing => idle (.inr closing), fun closing => idle (.inl closing)⟩
  cases move with
  | turn turn =>
      rw [Attachment.perform]
      split
      · rename_i free
        have done := Errand.isDone_iff.mp (Bool.and_eq_true_iff.mp free).1
        refine ⟨idle, ?_, rfl⟩
        rw [IsLed, IsLed, done]
        exact Iff.rfl
      · exact ⟨idle, Iff.rfl, rfl⟩
  | proceed => exact ⟨idle, Errand.leads_step, rfl⟩
  | release =>
      have concluded : ∀ node, ¬({ attachment with node, closing := .closed } :
          Attachment listener ear).IsAtWork := by simp [IsAtWork]
      rw [Attachment.perform]
      split
      · exact ⟨concluded _, Iff.rfl, rfl⟩
      · split
        · exact ⟨concluded _, Iff.rfl, rfl⟩
        · exact ⟨idle, Iff.rfl, rfl⟩
      · exact ⟨idle, Iff.rfl, rfl⟩
      · exact ⟨idle, Iff.rfl, rfl⟩
      · exact ⟨idle, Iff.rfl, rfl⟩
  | follow newcomer | unfollow id | elect | enrol | note | ask | cancel | clear =>
      simpa [Attachment.perform, interrupts, first, asked, unasked] using idle

/-- The same along a run. -/
theorem Sound.run_of_idle
    {moves : List (Move listener ear)}
    (sound : attachment.Sound own)
    (idle : ¬attachment.IsAtWork)
    (strangers : Strangers own moves) :
    ((attachment.run own moves).1.IsLed ↔ attachment.IsLed) ∧
      attachment.isInterrupted own moves = false := by
  induction moves generalizing attachment with
  | nil => exact ⟨Iff.rfl, rfl⟩
  | cons move moves inductionHypothesis =>
      obtain ⟨stranger, strangers⟩ := strangers_cons.mp strangers
      obtain ⟨stillIdle, sameLed, goesOn⟩ := sound.perform_of_idle idle move
      obtain ⟨sameLater, goesOnLater⟩ :=
        inductionHypothesis (sound.perform stranger) stillIdle strangers
      exact ⟨sameLater.trans sameLed, Bool.or_eq_false_iff.mpr ⟨goesOn, goesOnLater⟩⟩

/-- A service whose election was cleared is left with a leader exactly if a re-election was
interrupted. -/
theorem Sound.isLed_run_iff
    {moves : List (Move listener ear)}
    (sound : attachment.Sound own)
    (atWork : attachment.IsAtWork)
    (strangers : Strangers own moves)
    (idle : ¬(attachment.run own moves).1.IsAtWork) :
    (attachment.run own moves).1.IsLed ↔ attachment.isInterrupted own moves = true := by
  induction moves generalizing attachment with
  | nil => exact absurd atWork idle
  | cons move moves inductionHypothesis =>
      obtain ⟨stranger, strangers⟩ := strangers_cons.mp strangers
      have next := sound.perform stranger
      rw [isInterrupted]
      rcases atWork.perform own move with ⟨stillAtWork, goesOn⟩ | ⟨nowIdle, led⟩
      · rw [goesOn, Bool.false_or]
        exact inductionHypothesis next stillAtWork strangers idle
      · -- The rest of the run changes nothing about that.
        obtain ⟨sameLed, goesOn⟩ := next.run_of_idle nowIdle strangers
        rw [goesOn, Bool.or_false]
        exact sameLed.trans led

/-! ## The end -/

/-- Nothing remains to be done for a closed service. -/
theorem Sound.isDone_of_closed
    (sound : attachment.Sound own)
    (closed : attachment.closing = .closed) :
    attachment.errand.isDone = true := by
  have ended := (sound.idle (not_isAtWork_of_closed closed)).1
  have busy := sound.busy
  rw [enrolment, closed, ended] at busy
  rw [← Bool.not_eq_false]
  exact fun notDone => (busy notDone).elim nofun (absurd rfl)

/-- So a closed service has a leader exactly if it was left with one. -/
theorem Sound.isLed_iff_of_closed
    (sound : attachment.Sound own)
    (closed : attachment.closing = .closed) :
    attachment.IsLed ↔ attachment.election.leader ≠ none := by
  rw [IsLed, Errand.isDone_iff.mp (sound.isDone_of_closed closed)]
  exact or_iff_right nofun

/-- A closed service stays as it is and tells nobody anything, whatever happens. -/
theorem Sound.perform_of_closed
    (sound : attachment.Sound own)
    (closed : attachment.closing = .closed)
    (move : Move listener ear) :
    (attachment.perform own move).1.closing = .closed ∧
      (attachment.perform own move).1.election = attachment.election ∧
      (attachment.perform own move).2 = [] := by
  have ended := (sound.idle (not_isAtWork_of_closed closed)).1
  have done := Errand.isDone_iff.mp (sound.isDone_of_closed closed)
  cases move with
  | turn turn =>
      rw [Attachment.perform]
      split <;> exact ⟨closed, rfl, rfl⟩
  | proceed =>
      rw [Attachment.perform, done]
      exact ⟨closed, rfl, rfl⟩
  | follow newcomer | unfollow id | elect | enrol | note | ask | cancel | clear | release =>
      simp [Attachment.perform, closed, ended]

/-- The same along a run. -/
theorem Sound.run_of_closed
    {moves : List (Move listener ear)}
    (sound : attachment.Sound own)
    (closed : attachment.closing = .closed)
    (strangers : Strangers own moves) :
    (attachment.run own moves).1.closing = .closed ∧
      (attachment.run own moves).1.election = attachment.election ∧
      (attachment.run own moves).2 = [] := by
  induction moves generalizing attachment with
  | nil => exact ⟨closed, rfl, rfl⟩
  | cons move moves inductionHypothesis =>
      obtain ⟨stranger, strangers⟩ := strangers_cons.mp strangers
      obtain ⟨stillClosed, sameElection, quiet⟩ := sound.perform_of_closed closed move
      obtain ⟨inTheEnd, sameLater, quietLater⟩ :=
        inductionHypothesis (sound.perform stranger) stillClosed strangers
      refine ⟨inTheEnd, sameLater.trans sameElection, ?_⟩
      rw [Attachment.run, quiet, quietLater, List.append_nil]

/-- Once closing was asked for and the node is not locked for the service any more, the
moves of the service that are left complete it. -/
theorem closing_run_of_done
    (own : ear)
    (attachment : Attachment listener ear)
    (done : attachment.errand = .hearing [])
    (asked : attachment.closing ≠ .unasked)
    (concluded : ¬attachment.IsAtWork → attachment.first = .ended) :
    (attachment.run own [.enrol, .note, .cancel, .clear, .release]).1.closing = .closed := by
  cases closing : attachment.closing with
  | unasked => exact absurd closing asked
  | asked =>
      cases first : attachment.first <;> cases observation : attachment.election.observation <;>
        simp [run, perform, done, closing, first, isFree, Errand.isDone, Election.reset,
          Election.observing, observation]
  | cleared observation =>
      have ended := concluded (by simp [IsAtWork, closing])
      cases observation <;> simp [run, perform, done, closing, ended, isFree, Errand.isDone]
  | closed =>
      have ended := concluded (not_isAtWork_of_closed closing)
      simp [run, perform, closing, ended]

/-- Nothing that is done for the service under the lock of its node keeps it from being
closed. -/
theorem Sound.exists_run_closed
    (sound : attachment.Sound own)
    (asked : attachment.closing ≠ .unasked) :
    ∃ count, (attachment.run own (List.replicate count .proceed ++
      [.enrol, .note, .cancel, .clear, .release])).1.closing = .closed := by
  obtain ⟨count, election, done⟩ := attachment.exists_proceeds_done own attachment.errand
  have closes := closing_run_of_done own { attachment with election, errand := .hearing [] } rfl
    asked fun idle => (sound.idle idle).1
  refine ⟨count, ?_⟩
  rw [proceeds] at done
  rw [run_append, done]
  exact closes

/-- Nobody has ever subscribed in the name of a service that is about to be attached. -/
theorem sound_attached
    {endpoints : Endpoints}
    {settings : Settings}
    {wallTime : WallTime}
    {start now : Instant}
    {settleDelay : Span}
    {before : List (Node.Turn ear)}
    {node : Node ear}
    {service : ElectionService listener}
    (founded : ((Node.joining endpoints settings wallTime start).run before).1 = node)
    (attached : ElectionService.attach node settleDelay now = .ok service)
    (strangers : ∀ turn ∈ before, turn ≠ .subscribe own) :
    (fresh node service).Sound own := by
  subst founded
  refine sound_fresh (Node.numbered_run Subscribers.numbered_empty before) ?_ ?_
  · exact Node.subscriptions_run strangers fun _ _ _ present => absurd present List.not_mem_nil
  · rw [ElectionService.attach] at attached
    split at attached
    · contradiction
    · rw [← Except.ok.inj attached]
      rfl

/-- What is left of a service that was closed. Let a service be attached to a node that
has gone through anything, and let the end of the wait, what the node goes through and
tells, others that come and go as listeners of the node or of the leader, and the closing
of the service happen in any order, step by step. Once the service is closed, exactly the
others listen to the node, in their order. Nobody listens to the leader, no subscription
is noted, and whatever happens next, the election stays as it is and nobody is told of a
leader any more. No leader is left either, exactly if the election was not cleared between
the discovery that the leader departed and the election of another one. And once closing
was asked for, nothing can keep the service from being closed. -/
theorem closed_leader_eq_none_iff_uninterrupted
    {endpoints : Endpoints}
    {settings : Settings}
    {wallTime : WallTime}
    {start now : Instant}
    {settleDelay : Span}
    {before : List (Node.Turn ear)}
    {node : Node ear}
    {service : ElectionService listener}
    {moves : List (Move listener ear)}
    {last : Attachment listener ear}
    {news : List (LeaderNews listener)}
    (founded : ((Node.joining endpoints settings wallTime start).run before).1 = node)
    (attached : ElectionService.attach node settleDelay now = .ok service)
    (strangersBefore : ∀ turn ∈ before, turn ≠ .subscribe own)
    (strangers : Strangers own moves)
    (ran : (fresh node service).run own moves = (last, news)) :
    (last.closing = .closed →
      last.node.subscribers.active = last.others ∧
      (∀ entry ∈ last.node.subscribers.active, entry.2 ≠ own) ∧
      last.election.listeners.active = [] ∧
      last.election.observation = none ∧
      (last.election.leader = none ↔ (fresh node service).isInterrupted own moves = false) ∧
      ∀ further, Strangers own further →
        (last.run own further).1.closing = .closed ∧
        (last.run own further).1.election = last.election ∧
        (last.run own further).2 = []) ∧
    (last.closing ≠ .unasked →
      ∃ count, (last.run own (List.replicate count .proceed ++
        [.enrol, .note, .cancel, .clear, .release])).1.closing = .closed) := by
  have fresh := sound_attached founded attached strangersBefore
  have sound := fresh.run strangers
  have led := fresh.isLed_run_iff (.inl rfl) strangers
  rw [ran] at sound led
  refine ⟨fun closed => ?_, sound.exists_run_closed⟩
  have idle := not_isAtWork_of_closed closed
  obtain ⟨-, unheard, unnoted⟩ := sound.idle idle
  have hosts := sound.hosts
  rw [enrolment, closed] at hosts
  refine ⟨hosts.active_eq, fun entry present same => ?_, unheard, unnoted, ?_,
    fun further => sound.run_of_closed closed⟩
  · exact nomatch (hosts.own_iff entry present).mp same
  · rw [← Bool.not_eq_true, ← led idle, sound.isLed_iff_of_closed closed, not_not]

/-- A service is to be closed just when it has elected and subscribed but does not yet
know by which number, while a visitor is welcomed and others come and go. -/
def untimely : List (Move Nat Nat) :=
  [.follow 7, .elect, .proceed, .proceed, .proceed, .enrol, .turn (.subscribe 1), .ask,
    .turn (.arrival ⟨10⟩ (.payload (Digest.bytes ⟨[⟨Node.visitor, 3, .alive⟩]⟩))),
    .cancel, .note, .clear, .proceed, .turn (.unsubscribe ⟨0⟩), .release]

set_option maxRecDepth 10000 in
/-- The one who listened to the leader has heard of it, and in the end the one other who
still listens to the node is alone. -/
theorem untimely_closing_leaves_no_leader :
    let node := (Node.introducer.run [.subscribe 0]).1
    let service : ElectionService Nat := ⟨.initial node.identity, .settling ⟨3000000000⟩⟩
    let ran := (fresh node service).run 100 untimely
    ElectionService.attach node (.ofSeconds 3) ⟨0⟩ = .ok service ∧
      ran.2.map (fun item => (item.recipient, item.leader)) = [(7, Node.introducer.identity)] ∧
      ran.1.node.subscribers.active = [(⟨2⟩, 1)] ∧
      ran.1.election.leader = none ∧
      ∀ further, Strangers 100 further → (ran.1.run 100 further).2 = [] := by
  intro node service ran
  have attached : ElectionService.attach node (.ofSeconds 3) ⟨0⟩ = .ok service := rfl
  have strangersBefore : ∀ turn ∈ [Node.Turn.subscribe 0], turn ≠ .subscribe 100 := by simp
  have strangers : Strangers 100 untimely := by simp [Strangers, untimely]
  have closed : ran.1.closing = .closed := by decide +kernel
  have others : ran.1.others = [(⟨2⟩, 1)] := by decide +kernel
  have uninterrupted : (fresh node service).isInterrupted 100 untimely = false := by
    decide +kernel
  have passed : (fresh node service).run 100 untimely = (ran.1, ran.2) := (Prod.eta ran).symm
  have founded : (Node.introducer.run [.subscribe 0]).1 = node := rfl
  rw [Node.introducer] at founded
  obtain ⟨left, -, -, -, leaderless, quiet⟩ :=
    (closed_leader_eq_none_iff_uninterrupted founded attached strangersBefore strangers passed).1
      closed
  exact ⟨attached, by decide +kernel, left.trans others, leaderless.mpr uninterrupted,
    fun further alone => (quiet further alone).2.2⟩

/-- A guest has elected the introducer. When it hears that the introducer leaves, closing
clears the election before another leader is elected. -/
def crossing : List (Move Nat Nat) :=
  [.turn (.arrival ⟨10⟩ (.payload (Digest.bytes ⟨[⟨Node.introducer.identity, 1, .alive⟩]⟩))),
    .elect, .proceed, .proceed, .enrol, .note,
    .turn (.arrival ⟨20⟩ (.payload (Digest.bytes ⟨[⟨Node.introducer.identity, 11, .left⟩]⟩))),
    .proceed, .ask, .clear, .proceed, .proceed, .release]

set_option maxRecDepth 10000 in
/-- The service is closed, and has the guest itself for a leader. -/
theorem crossing_closing_leaves_leader :
    let service : ElectionService Nat := ⟨.initial Node.guest.identity, .settling ⟨3000000000⟩⟩
    let last := ((fresh Node.guest service).run 100 crossing).1
    ElectionService.attach Node.guest (.ofSeconds 3) ⟨0⟩ = .ok service ∧
      Strangers 100 crossing ∧
      last.closing = .closed ∧
      last.node.subscribers.active = [] ∧
      last.election.leader = some Node.guest.identity ∧
      last.election.isLeader = true := by
  intro service last
  have strangers : Strangers 100 crossing := by simp [Strangers, crossing]
  exact ⟨rfl, strangers, by decide +kernel⟩

end Attachment
end GossipGroup
