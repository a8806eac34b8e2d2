import GossipGroup.ElectionService
import GossipGroup.Proofs.Node.Listening

/-!
# A service at work on its node

A service and the node it is attached to go on at the same time, and what the service
does takes several steps, between which others may take theirs. A node is locked while
it tells its listeners of changes. To hear of them, the service looks who leads; if the
leader is among those who departed, it elects another one, and then tells each of those
who listen to it. Its first election takes place under the same lock, and only after it
does the service remember by which number it has subscribed. But the election itself is
not locked in the meantime, and closing the service waits for the node only at its end.

When nobody interferes, the steps make up what services and elections do in one go.
-/

namespace GossipGroup

variable {listener ear : Type}

namespace Election

/-- Those who are to be told of the leader that is elected from a roster. -/
def audience (election : Election listener) (roster : Roster) : List listener :=
  if election.isLedBy roster.oldestAlive then [] else election.listeners.listeners

theorem elect_eq (election : Election listener) (roster : Roster) :
    election.elect roster =
      ((election.elect roster).1,
        (election.audience roster).map ((election.elect roster).1.newsFor roster.oldestAlive)) := by
  rw [elect, audience]
  split <;> rfl

/-- An election is told of several batches of changes, one after the other. -/
def observeAll (election : Election listener) :
    List (RosterNews ear) → Election listener × List (LeaderNews listener)
  | [] => (election, [])
  | batch :: batches =>
      let (next, news) := election.observe batch.roster batch.changes
      let (last, later) := next.observeAll batches
      (last, news ++ later)

end Election

/-! ## What is done under the lock of a node -/

/-- What remains to be done for a service before the lock of its node is given up. -/
inductive Errand (listener ear : Type)
  /-- Batches of changes are to be heard. -/
  | hearing (batches : List (RosterNews ear))
  /-- A leader is to be elected from a roster. -/
  | electing (roster : Roster) (later : List (RosterNews ear))
  /-- Listeners are to be told of the leader that was elected. -/
  | telling (leader : Identity) (audience : List listener) (later : List (RosterNews ear))

namespace Errand

/-- Nothing remains to be done. -/
def isDone : Errand listener ear → Bool
  | .hearing [] => true
  | .hearing (_ :: _) | .electing _ _ | .telling _ _ _ => false

/-- A leader is to be elected. -/
def isElecting : Errand listener ear → Bool
  | .electing _ _ => true
  | .hearing _ | .telling _ _ _ => false

/-- Listeners are being told, and nobody may join them meanwhile. -/
def isTelling : Errand listener ear → Bool
  | .telling _ _ _ => true
  | .hearing _ | .electing _ _ => false

theorem isDone_iff {errand : Errand listener ear} :
    errand.isDone = true ↔ errand = .hearing [] := by
  cases errand with
  | hearing batches => cases batches <;> simp [isDone]
  | electing roster later | telling leader audience later => simp [isDone]

/-- One step of an errand: what becomes of the election, what remains to be done and who
is told of the leader. -/
def step (election : Election listener) :
    Errand listener ear → Election listener × Errand listener ear × List (LeaderNews listener)
  | .hearing [] => (election, .hearing [], [])
  | .hearing (batch :: later) =>
      if election.losesLeader batch.changes then (election, .electing batch.roster later, [])
      else (election, .hearing later, [])
  | .electing roster later =>
      ((election.elect roster).1, .telling roster.oldestAlive (election.audience roster) later, [])
  | .telling _ [] later => (election, .hearing later, [])
  | .telling leader (recipient :: audience) later =>
      (election, .telling leader audience later, [election.newsFor leader recipient])

end Errand

/-! ## Services and their steps -/

/-- How far the first election of a service has come. -/
inductive FirstElection
  /-- It is waited for. -/
  | settling
  /-- It takes place, and the node is locked. -/
  | electing
  /-- The service is subscribed, but does not know yet by which number. -/
  | enrolled (id : SubscriptionId)
  /-- It has come to its end or was cancelled. -/
  | ended
  deriving DecidableEq

/-- The number by which a service will know its subscription, given what it has noted. -/
def FirstElection.enrolment
    (observation : Option SubscriptionId) : FirstElection → Option SubscriptionId
  | .settling | .electing => none
  | .enrolled id => some id
  | .ended => observation

/-- How far the closing of a service has come. -/
inductive Closing
  /-- Nobody has asked for it. -/
  | unasked
  /-- It was asked for, and the first election has to come to an end. -/
  | asked
  /-- The election is cleared, and the subscription it gave back is to be given up. -/
  | cleared (observation : Option SubscriptionId)
  | closed
  deriving DecidableEq

/-- A service in the midst of its work, with the node it is attached to and the
subscriptions that others hold by their own count. -/
structure Attachment (listener ear : Type) where
  node : Node ear
  election : Election listener
  errand : Errand listener ear
  first : FirstElection
  closing : Closing
  others : List (SubscriptionId × ear)

/-- What can happen next. -/
inductive Move (listener ear : Type)
  /-- The node goes through something. -/
  | turn (turn : Node.Turn ear)
  /-- Whoever holds the lock of the node goes on with what is to be done for the service. -/
  | proceed
  /-- Somebody listens to the leader. -/
  | follow (newcomer : listener)
  /-- Somebody does not listen to the leader any more. -/
  | unfollow (id : SubscriptionId)
  /-- The wait is over: the node is locked, and a leader is to be elected. -/
  | elect
  /-- The service subscribes, and the node is free again. -/
  | enrol
  /-- The service remembers its subscription. -/
  | note
  /-- The service is to be closed. -/
  | ask
  /-- A first election that is still waited for is cancelled. -/
  | cancel
  /-- The election is cleared once the first election is over. -/
  | clear
  /-- The subscription is given up. -/
  | release

namespace Attachment

variable {attachment : Attachment listener ear}

/-- A service that was just attached to a node. -/
def fresh (node : Node ear) (service : ElectionService listener) : Attachment listener ear :=
  ⟨node, service.election, .hearing [], .settling, .unasked, node.subscribers.active⟩

/-- Nobody holds the lock of the node. -/
def isFree (attachment : Attachment listener ear) : Bool :=
  attachment.errand.isDone && attachment.first != .electing

/-- The subscriptions that others hold after a turn of the node. -/
def othersAfter (attachment : Attachment listener ear) :
    Node.Turn ear → List (SubscriptionId × ear)
  | .subscribe newcomer =>
      attachment.others ++ [(⟨attachment.node.subscribers.next⟩, newcomer)]
  | .unsubscribe id => attachment.others.filter (·.1 ≠ id)
  | .round _ _ | .arrival _ _ | .stop => attachment.others

variable [DecidableEq ear] {own : ear}

/-- What becomes of a service by a move, and what those who listen to the leader are
told. A move whose time has not come changes nothing. -/
def perform (own : ear) (attachment : Attachment listener ear) :
    Move listener ear → Attachment listener ear × List (LeaderNews listener)
  | .turn turn =>
      if attachment.isFree then
        let reaction := attachment.node.undergo turn
        ({ attachment with
            node := reaction.node
            errand := .hearing (Node.heardBy own reaction.news)
            others := attachment.othersAfter turn }, [])
      else (attachment, [])
  | .proceed =>
      let (election, errand, news) := attachment.errand.step attachment.election
      ({ attachment with election, errand }, news)
  | .follow newcomer =>
      if attachment.closing = .unasked ∧ attachment.errand.isTelling = false then
        let (_, election, news) := attachment.election.subscribe newcomer
        ({ attachment with election }, news)
      else (attachment, [])
  | .unfollow id =>
      if attachment.closing = .unasked then
        ({ attachment with election := (attachment.election.unsubscribe id).2 }, [])
      else (attachment, [])
  | .elect =>
      if attachment.first = .settling ∧ attachment.isFree then
        ({ attachment with
            first := .electing
            errand := .electing attachment.node.roster [] }, [])
      else (attachment, [])
  | .enrol =>
      if attachment.first = .electing ∧ attachment.errand.isDone then
        let (id, node) := attachment.node.subscribe own
        ({ attachment with node, first := .enrolled id }, [])
      else (attachment, [])
  | .note =>
      match attachment.first with
      | .enrolled id =>
          ({ attachment with election := attachment.election.observing id, first := .ended }, [])
      | .settling | .electing | .ended => (attachment, [])
  | .ask =>
      if attachment.closing = .unasked then ({ attachment with closing := .asked }, [])
      else (attachment, [])
  | .cancel =>
      if attachment.closing = .asked ∧ attachment.first = .settling then
        ({ attachment with first := .ended }, [])
      else (attachment, [])
  | .clear =>
      -- Nothing that is going on under the lock of the node is waited for.
      if attachment.closing = .asked ∧ attachment.first = .ended then
        let (observation, election) := attachment.election.reset
        ({ attachment with election, closing := .cleared observation }, [])
      else (attachment, [])
  | .release =>
      match attachment.closing with
      | .cleared none => ({ attachment with closing := .closed }, [])
      | .cleared (some id) =>
          if attachment.isFree then
            ({ attachment with
                node := (attachment.node.unsubscribe id).2
                closing := .closed }, [])
          else (attachment, [])
      | .unasked | .asked | .closed => (attachment, [])

/-- One move after another, and all that is told about leaders on the way. -/
def run (own : ear) (attachment : Attachment listener ear) :
    List (Move listener ear) → Attachment listener ear × List (LeaderNews listener)
  | [] => (attachment, [])
  | move :: moves =>
      let step := attachment.perform own move
      let rest := step.1.run own moves
      (rest.1, step.2 ++ rest.2)

/-- Moves of two runs in a row. -/
theorem run_append (attachment : Attachment listener ear) (moves later : List (Move listener ear)) :
    attachment.run own (moves ++ later) =
      (((attachment.run own moves).1.run own later).1,
        (attachment.run own moves).2 ++ ((attachment.run own moves).1.run own later).2) := by
  induction moves generalizing attachment with
  | nil => rfl
  | cons move moves inductionHypothesis =>
      rw [List.cons_append, run, inductionHypothesis, run, List.append_assoc]

/-! ## Errands without interruption -/

/-- Whoever holds the lock of the node makes so many steps in a row. -/
def proceeds (own : ear) (attachment : Attachment listener ear) (count : Nat) :
    Attachment listener ear × List (LeaderNews listener) :=
  attachment.run own (List.replicate count .proceed)

theorem proceeds_succ (attachment : Attachment listener ear) (count : Nat) :
    attachment.proceeds own (count + 1) =
      (((attachment.perform own .proceed).1.proceeds own count).1,
        (attachment.perform own .proceed).2 ++
          ((attachment.perform own .proceed).1.proceeds own count).2) := by
  rw [proceeds, List.replicate_succ, run]
  rfl

theorem proceeds_add (attachment : Attachment listener ear) (count further : Nat) :
    attachment.proceeds own (count + further) =
      (((attachment.proceeds own count).1.proceeds own further).1,
        (attachment.proceeds own count).2 ++
          ((attachment.proceeds own count).1.proceeds own further).2) := by
  rw [proceeds, List.replicate_add, run_append]
  rfl

/-- All who are to be told of a leader are told. -/
theorem proceeds_telling
    (own : ear)
    (attachment : Attachment listener ear)
    (leader : Identity)
    (audience : List listener)
    (later : List (RosterNews ear)) :
    ({ attachment with errand := .telling leader audience later }).proceeds own
        (audience.length + 1) =
      ({ attachment with errand := .hearing later },
        audience.map (attachment.election.newsFor leader)) := by
  induction audience with
  | nil => rfl
  | cons recipient audience inductionHypothesis =>
      rw [List.length_cons, proceeds_succ]
      simp only [perform, Errand.step, inductionHypothesis]
      rfl

/-- An election that nobody interrupts is an election. -/
theorem proceeds_electing
    (own : ear)
    (attachment : Attachment listener ear)
    (roster : Roster)
    (later : List (RosterNews ear)) :
    ({ attachment with errand := .electing roster later }).proceeds own
        ((attachment.election.audience roster).length + 1 + 1) =
      ({ attachment with
          election := (attachment.election.elect roster).1
          errand := .hearing later },
        (attachment.election.elect roster).2) := by
  have told := proceeds_telling own
    { attachment with election := (attachment.election.elect roster).1 }
    roster.oldestAlive (attachment.election.audience roster) later
  rw [proceeds_succ, attachment.election.elect_eq roster]
  simp only [perform, Errand.step, told, List.nil_append]

/-- Batches that are heard without interruption are observed one after the other. -/
theorem exists_proceeds_hearing
    (own : ear)
    (attachment : Attachment listener ear)
    (batches : List (RosterNews ear)) :
    ∃ count, ({ attachment with errand := .hearing batches }).proceeds own count =
      ({ attachment with
          election := (attachment.election.observeAll batches).1
          errand := .hearing [] },
        (attachment.election.observeAll batches).2) := by
  induction batches generalizing attachment with
  | nil => exact ⟨0, rfl⟩
  | cons batch batches inductionHypothesis =>
      have observed : ∃ count,
          ({ attachment with errand := .hearing (batch :: batches) }).proceeds own count =
            ({ attachment with
                election := (attachment.election.observe batch.roster batch.changes).1
                errand := .hearing batches },
              (attachment.election.observe batch.roster batch.changes).2) := by
        rw [Election.observe]
        split
        · rename_i loses
          have elected := attachment.proceeds_electing own batch.roster batches
          refine ⟨(attachment.election.audience batch.roster).length + 1 + 1 + 1, ?_⟩
          rw [proceeds_succ]
          simp only [perform, Errand.step, loses, if_true, elected, List.nil_append]
        · rename_i keeps
          refine ⟨1, ?_⟩
          rw [proceeds_succ]
          simp only [perform, Errand.step, keeps]
          rfl
      obtain ⟨count, heard⟩ := observed
      obtain ⟨further, rest⟩ := inductionHypothesis
        { attachment with election := (attachment.election.observe batch.roster batch.changes).1 }
      refine ⟨count + further, ?_⟩
      rw [proceeds_add, heard]
      simp only [rest]
      rfl

/-- Whatever remains to be done under the lock of the node comes to an end. -/
theorem exists_proceeds_done
    (own : ear)
    (attachment : Attachment listener ear)
    (errand : Errand listener ear) :
    ∃ count election, (({ attachment with errand }).proceeds own count).1 =
      { attachment with election, errand := .hearing [] } := by
  have hears : ∀ (election : Election listener) later, ∃ count last,
      (({ attachment with election, errand := .hearing later }).proceeds own count).1 =
        { attachment with election := last, errand := .hearing [] } := by
    intro election later
    obtain ⟨count, heard⟩ := exists_proceeds_hearing own { attachment with election } later
    exact ⟨count, _, congrArg Prod.fst heard⟩
  cases errand with
  | hearing batches => exact hears attachment.election batches
  | electing roster later =>
      have elected := attachment.proceeds_electing own roster later
      obtain ⟨further, last, heard⟩ := hears (attachment.election.elect roster).1 later
      refine ⟨(attachment.election.audience roster).length + 1 + 1 + further, last, ?_⟩
      rw [proceeds_add, elected]
      exact heard
  | telling leader audience later =>
      have told := attachment.proceeds_telling own leader audience later
      obtain ⟨further, last, heard⟩ := hears attachment.election later
      refine ⟨audience.length + 1 + further, last, ?_⟩
      rw [proceeds_add, told]
      exact heard

/-! ## Services without interruption -/

/-- The service that an attachment is about, as it stands between its steps. -/
def service (attachment : Attachment listener ear) (phase : ServicePhase) :
    ElectionService listener :=
  ⟨attachment.election, phase⟩

/-- The steps of the first election make up what a service does when its wait is over. -/
theorem exists_run_settle
    (settling : attachment.first = .settling)
    (free : attachment.isFree = true)
    (due : Instant) :
    ∃ count,
      let last := attachment.run own (.elect :: (List.replicate count .proceed ++ [.enrol, .note]))
      (last.1.service .observing, last.1.node, last.2) =
        (attachment.service (.settling due)).settle attachment.node own := by
  have elected := proceeds_electing own { attachment with first := .electing }
    attachment.node.roster []
  refine ⟨(attachment.election.audience attachment.node.roster).length + 1 + 1, ?_⟩
  rw [proceeds] at elected
  simp [run, run_append, perform, settling, free, elected, service, ElectionService.settle,
    Errand.isDone]

/-- The steps of closing make up what a service does when it is closed. -/
theorem run_close
    (phase : ServicePhase)
    (unasked : attachment.closing = .unasked)
    (free : attachment.isFree = true)
    (notEnrolled : ∀ id, attachment.first ≠ .enrolled id) :
    let last := (attachment.run own [.ask, .cancel, .clear, .release]).1
    (last.service .closed, last.node) = (attachment.service phase).close attachment.node := by
  obtain ⟨done, unlocked⟩ := Bool.and_eq_true_iff.mp free
  cases first : attachment.first with
  | enrolled id => exact absurd first (notEnrolled id)
  | electing => simp [first] at unlocked
  | settling | ended =>
      cases observation : attachment.election.observation <;>
        simp [run, perform, unasked, first, service, ElectionService.close, Election.reset,
          observation, isFree, done]

end Attachment
end GossipGroup
