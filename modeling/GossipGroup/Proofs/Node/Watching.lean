import GossipGroup.Proofs.Node.Listening
import GossipGroup.Proofs.Roster.Living
import Mathlib.Data.List.Induction

/-!
# What watchers see

A node keeps the live members as it last published them, for others to watch. The
list is renewed only when a change is told. As long as nothing is told, nobody
comes alive or dies, with two exceptions: a round of gossip revives the node's own
entry without a word, and a round that fails takes everybody away. So the list is
current unless one of the two has happened since a change was last told.
-/

namespace GossipGroup
namespace Roster

variable {roster next : Roster} {identity : Identity}

/-! ## Who is alive where nothing is told -/

/-- If the roster holds the member, it holds it alive. -/
def NotDead (roster : Roster) (identity : Identity) : Prop :=
  ∀ status, roster.view identity = some status → status = .alive

/-- Members are alive exactly when they are seen in that condition. -/
theorem isAlive_iff_view_eq (ascending : Ascending roster.members) :
    roster.IsAlive identity ↔ roster.view identity = some .alive := by
  rw [view_eq ascending, Option.map_eq_some_iff, IsAlive]

/-- Who is not held is not held dead. -/
theorem notDead_of_view_eq_none (absent : roster.view identity = none) :
    roster.NotDead identity := by
  intro status seen
  rw [absent] at seen
  contradiction

theorem notDead_of_view_eq_alive (alive : roster.view identity = some .alive) :
    roster.NotDead identity := by
  intro status seen
  rw [alive, Option.some.injEq] at seen
  exact seen.symm

theorem view_congr
    {left right : Identity}
    (ascending : Ascending roster.members)
    (same : left.same right = true) :
    roster.view left = roster.view right := by
  rw [view_eq ascending, view_eq ascending, entryAbout_congr same]

/-- Two rosters list the living alike exactly if the same members are alive. -/
theorem forall₂_alive_iff
    (ascending : Ascending roster.members)
    (nextAscending : Ascending next.members) :
    List.Forall₂ (fun earlier later => earlier.same later = true) roster.alive next.alive ↔
      ∀ identity, roster.IsAlive identity ↔ next.IsAlive identity := by
  refine ((ascending_alive ascending).forall₂_same_iff (ascending_alive nextAscending)).trans ?_
  simp only [entryAbout_alive_eq_none_iff ascending,
    entryAbout_alive_eq_none_iff nextAscending, not_iff_not]

/-- A roster that holds nobody lists nobody as alive. -/
theorem alive_eq_nil_of_view_eq_none
    (ascending : Ascending roster.members)
    (absent : ∀ identity, roster.view identity = none) :
    roster.alive = [] := by
  refine List.eq_nil_iff_forall_not_mem.mpr fun identity present => ?_
  have living := (isAlive_iff ascending).mpr ⟨identity, present, Identity.same_refl identity⟩
  rw [isAlive_iff_view_eq ascending, absent] at living
  contradiction

/-- A merge that tells nothing leaves everybody in the same condition. -/
theorem view_merge_of_untold
    {digest : Digest}
    {now : Instant}
    (ascending : Ascending roster.members)
    (digestAscending : Ascending digest.reports)
    (untold : (roster.merge digest now).2 = []) :
    (roster.merge digest now).1.view identity = roster.view identity := by
  have explains := explains_merge ascending digestAscending now identity
  rw [untold] at explains
  exact explains.replay_eq.symm

/-- Ageing makes the node's own entry a live one, if there is one. -/
theorem view_self_aged (ascending : Ascending roster.members) (now : Instant) :
    (roster.aged now).view roster.self = (roster.view roster.self).map fun _ => .alive := by
  rw [view_eq (ascending_aged ascending now), view_eq ascending]
  cases held : entryAbout roster.self roster.members with
  | none =>
      rw [entryAbout_aged ascending, held]
      rfl
  | some own =>
      rw [entryAbout_self_aged ascending held]
      rfl

/-- Ageing that tells nothing leaves everybody in the same condition, unless it
revives the node's own entry. -/
theorem view_aged_of_untold
    {now : Instant}
    (ascending : Ascending roster.members)
    (untold : roster.agedChanges now = [])
    (notDead : roster.NotDead roster.self) :
    (roster.aged now).view identity = roster.view identity := by
  cases own : roster.self.same identity with
  | false =>
      have explains := explains_aged ascending now own
      rw [untold] at explains
      exact explains.replay_eq.symm
  | true =>
      have agedAscending := ascending_aged ascending now
      rw [← view_congr agedAscending own, ← view_congr ascending own,
        view_self_aged ascending now]
      cases seen : roster.view roster.self with
      | none => rfl
      | some status => rw [notDead status seen]; rfl

end Roster

namespace Node

variable {listener : Type} {node : Node listener} {turns : List (Turn listener)}

/-! ## Turns that tell nothing -/

/-- The watched list names the live members of the roster, one after the other. -/
def IsCurrent (node : Node listener) : Prop :=
  List.Forall₂ (fun watched living => watched.same living = true)
    node.watched node.roster.alive

/-- None of the turns tells a change. -/
def Untold (node : Node listener) (turns : List (Turn listener)) : Prop :=
  ∀ batch ∈ node.batches turns, batch.1 = []

/-- The last of the turns tells a change, if there is any. -/
def EndsTold (node : Node listener) (turns : List (Turn listener)) : Prop :=
  ∀ earlier turn, turns = earlier ++ [turn] → ((node.run earlier).1.revision turn).2 ≠ []

/-- A turn is a round of gossip. -/
def Turn.isRound : Turn listener → Bool
  | .round _ _ => true
  | .arrival _ _ | .subscribe _ | .unsubscribe _ | .stop => false

theorem exists_of_isRound {turn : Turn listener} (isRound : turn.isRound = true) :
    ∃ now number, turn = .round now number := by
  cases turn with
  | round now number => exact ⟨now, number, rfl⟩
  | arrival | subscribe | unsubscribe | stop => contradiction

theorem untold_cons {turn : Turn listener} :
    node.Untold (turn :: turns) ↔
      (node.revision turn).2 = [] ∧ (node.undergo turn).node.Untold turns :=
  List.forall_mem_cons

theorem batches_append (node : Node listener) (turns later : List (Turn listener)) :
    node.batches (turns ++ later) = node.batches turns ++ (node.run turns).1.batches later := by
  induction turns generalizing node with
  | nil => rfl
  | cons turn turns inductionHypothesis =>
      rw [List.cons_append, batches, batches, inductionHypothesis, run]
      rfl

/-- Every run falls into what came up to the last change that was told and what
came after it. -/
theorem exists_untold (node : Node listener) (turns : List (Turn listener)) :
    ∃ before quiet, turns = before ++ quiet ∧ node.EndsTold before ∧
      (node.run before).1.Untold quiet := by
  induction turns using List.reverseRecOn with
  | nil =>
      refine ⟨[], [], rfl, fun earlier turn ends => ?_, fun _ absent => nomatch absent⟩
      exact absurd ends (by simp)
  | append_singleton turns turn inductionHypothesis =>
      obtain ⟨before, quiet, rfl, endsTold, untold⟩ := inductionHypothesis
      by_cases told : ((node.run (before ++ quiet)).1.revision turn).2 = []
      · refine ⟨before, quiet ++ [turn], by simp, endsTold, fun batch present => ?_⟩
        rw [batches_append] at present
        rcases List.mem_append.mp present with early | late
        · exact untold batch early
        · rw [run_append] at told
          rw [List.mem_singleton.mp late]
          exact told
      · refine ⟨before ++ quiet ++ [turn], [], by simp, fun earlier other ends => ?_,
          fun _ absent => nomatch absent⟩
        obtain ⟨rfl, same⟩ := List.append_inj' ends rfl
        obtain rfl := (List.singleton_inj.mp same)
        exact told

/-- A list is watched as it was when the last change was told. -/
theorem watched_run_of_endsTold
    (published : node.watched = node.roster.alive)
    (endsTold : node.EndsTold turns) :
    (node.run turns).1.watched = (node.run turns).1.roster.alive := by
  rcases List.eq_nil_or_concat turns with rfl | ⟨earlier, turn, rfl⟩
  · exact published
  · rw [List.concat_eq_append] at endsTold ⊢
    have publishes := (node.run earlier).1.publishes_undergo turn
    have watched := publishes.watched
    rw [if_neg (endsTold earlier turn rfl), ← publishes.roster] at watched
    rw [run_append]
    exact watched

theorem watched_run_of_untold (untold : node.Untold turns) :
    (node.run turns).1.watched = node.watched := by
  induction turns generalizing node with
  | nil => rfl
  | cons turn turns inductionHypothesis =>
      obtain ⟨quiet, rest⟩ := untold_cons.mp untold
      have watched := (node.publishes_undergo turn).watched
      rw [if_pos quiet] at watched
      rw [run, inductionHypothesis rest, watched]

/-- A turn that tells nothing leaves everybody in the same condition, unless it
is a round that fails or revives the node's own entry. -/
theorem view_undergo_of_untold
    {turn : Turn listener}
    (ascending : Ascending node.roster.members)
    (untold : (node.revision turn).2 = [])
    (succeeds : node.succeeds turn = true)
    (notDead : turn.isRound = true → node.roster.NotDead node.roster.self)
    (identity : Identity) :
    (node.undergo turn).node.roster.view identity = node.roster.view identity := by
  rw [(node.publishes_undergo turn).roster]
  cases node.revised turn with
  | merged digest now digestAscending revision =>
      rw [revision] at untold ⊢
      exact Roster.view_merge_of_untold ascending digestAscending untold
  | aged now number round revision =>
      rw [revision] at untold ⊢
      rw [round] at notDead
      exact Roster.view_aged_of_untold ascending untold (notDead rfl)
  | unmoved revision => rw [revision]
  | lost fails =>
      rw [fails] at succeeds
      contradiction

/-- A turn that fails takes everybody away. -/
theorem view_undergo_of_fails
    {turn : Turn listener}
    (fails : node.succeeds turn = false)
    (identity : Identity) :
    (node.undergo turn).node.roster.view identity = none := by
  cases turn with
  | round now number =>
      rw [succeeds, gossip] at fails
      rw [undergo, gossip]
      cases aged : node.roster.age now with
      | ok result =>
          rw [aged] at fails
          contradiction
      | error error => rfl
  | arrival | subscribe | unsubscribe | stop => contradiction

/-- The same along a run. -/
theorem view_run_of_untold
    (ascending : Ascending node.roster.members)
    (untold : node.Untold turns)
    (succeed : node.allSucceed turns = true)
    (notDead : (∃ turn ∈ turns, turn.isRound = true) → node.roster.NotDead node.roster.self)
    (identity : Identity) :
    (node.run turns).1.roster.view identity = node.roster.view identity := by
  induction turns generalizing node with
  | nil => rfl
  | cons turn turns inductionHypothesis =>
      obtain ⟨quiet, rest⟩ := untold_cons.mp untold
      rw [allSucceed, Bool.and_eq_true] at succeed
      obtain ⟨nextAscending, sameSelf⟩ := ascending_undergo ascending turn
      have step := view_undergo_of_untold ascending quiet succeed.1
        fun isRound => notDead ⟨turn, List.mem_cons_self, isRound⟩
      rw [run, inductionHypothesis nextAscending rest succeed.2, step]
      rintro ⟨later, present, isRound⟩ status seen
      rw [sameSelf, step] at seen
      exact notDead ⟨later, List.mem_cons_of_mem turn present, isRound⟩ status seen

/-- A round of gossip that does not fail makes the node's own entry a live one, if
there is one. -/
theorem view_self_undergo_round
    {now : Instant}
    {number : Nat}
    (ascending : Ascending node.roster.members)
    (succeeds : node.succeeds (.round now number) = true) :
    (node.undergo (.round now number)).node.roster.view node.roster.self =
      (node.roster.view node.roster.self).map fun _ => .alive := by
  have aged : node.roster.age now = .ok (node.roster.aged now, node.roster.agedChanges now) :=
    Roster.age_eq_ok_iff.mpr ⟨succeeds_round_iff.mp succeeds, rfl⟩
  rw [(node.publishes_undergo _).roster, revision, aged]
  exact Roster.view_self_aged ascending now

/-- If nothing is told, rounds of gossip leave a dead entry of the node itself
alive. -/
theorem view_self_run_of_dead
    (ascending : Ascending node.roster.members)
    (untold : node.Untold turns)
    (succeed : node.allSucceed turns = true)
    (rounds : ∃ turn ∈ turns, turn.isRound = true)
    (dead : ¬node.roster.NotDead node.roster.self) :
    (node.run turns).1.roster.view node.roster.self = some .alive := by
  induction turns generalizing node with
  | nil =>
      obtain ⟨turn, absent, -⟩ := rounds
      contradiction
  | cons turn turns inductionHypothesis =>
      obtain ⟨quiet, rest⟩ := untold_cons.mp untold
      rw [allSucceed, Bool.and_eq_true] at succeed
      obtain ⟨nextAscending, sameSelf⟩ := ascending_undergo ascending turn
      rw [run]
      cases isRound : turn.isRound with
      | false =>
          have step := view_undergo_of_untold ascending quiet succeed.1
            (fun round => absurd (isRound.symm.trans round) Bool.false_ne_true)
          rw [← sameSelf]
          refine inductionHypothesis nextAscending rest succeed.2 ?_ ?_
          · obtain ⟨other, present, otherIsRound⟩ := rounds
            rcases List.mem_cons.mp present with rfl | later
            · exact absurd (isRound.symm.trans otherIsRound) Bool.false_ne_true
            · exact ⟨other, later, otherIsRound⟩
          · rw [Roster.NotDead, sameSelf, step]
            exact dead
      | true =>
          obtain ⟨now, number, rfl⟩ := exists_of_isRound isRound
          have revived : (node.undergo (.round now number)).node.roster.view
              node.roster.self = some .alive := by
            rw [view_self_undergo_round ascending succeed.1]
            cases seen : node.roster.view node.roster.self with
            | none => exact absurd (Roster.notDead_of_view_eq_none seen) dead
            | some status => rfl
          -- From here on the entry is a live one, so nothing changes any more.
          rw [view_run_of_untold nextAscending rest succeed.2, revived]
          rw [sameSelf]
          exact fun _ => Roster.notDead_of_view_eq_alive revived

/-- A round that fails takes everybody away, and nobody comes back unless it is
told. -/
theorem view_run_of_failing
    (ascending : Ascending node.roster.members)
    (untold : node.Untold turns)
    (fails : node.allSucceed turns = false)
    (identity : Identity) :
    (node.run turns).1.roster.view identity = none := by
  induction turns generalizing node with
  | nil => contradiction
  | cons turn turns inductionHypothesis =>
      obtain ⟨-, rest⟩ := untold_cons.mp untold
      have nextAscending := (ascending_undergo ascending turn).1
      rw [run]
      cases later : (node.undergo turn).node.allSucceed turns with
      | false => exact inductionHypothesis nextAscending rest later
      | true =>
          rw [allSucceed, later, Bool.and_true] at fails
          have absent := view_undergo_of_fails fails
          rw [view_run_of_untold nextAscending rest later, absent]
          exact fun _ => Roster.notDead_of_view_eq_none (absent _)

/-- Every run falls into what came up to the last change that was told and what
came after it. The watched list is current, name by name, exactly if no round of
gossip has been gone through since that change, or if the change did not leave
the node's own entry dead; or else, if a round has failed since, exactly if the
change left nobody alive. -/
theorem watch_is_current_iff
    (endpoints : Endpoints)
    (settings : Settings)
    (wallTime : WallTime)
    (start : Instant)
    (turns : List (Turn listener)) :
    ∃ before quiet, turns = before ++ quiet ∧
      (joining endpoints settings wallTime start).EndsTold before ∧
      ((joining endpoints settings wallTime start).run before).1.Untold quiet ∧
      (((joining endpoints settings wallTime start).run turns).1.IsCurrent ↔
        if ((joining endpoints settings wallTime start).run before).1.allSucceed quiet then
          (∃ turn ∈ quiet, turn.isRound = true) →
            ((joining endpoints settings wallTime start).run before).1.roster.NotDead
              (.joining endpoints.advertised wallTime)
        else ((joining endpoints settings wallTime start).run before).1.roster.alive = []) := by
  obtain ⟨before, quiet, rfl, endsTold, untold⟩ :=
    (joining endpoints settings wallTime start).exists_untold turns
  refine ⟨before, quiet, rfl, endsTold, untold, ?_⟩
  obtain ⟨ascending, self⟩ := ascending_run_joining endpoints settings wallTime start before
  have published := watched_run_of_endsTold rfl endsTold
  rw [run_append, ← self]
  generalize ((joining endpoints settings wallTime start).run before).1 = node at *
  have lastAscending := (ascending_run ascending quiet).1
  rw [IsCurrent, watched_run_of_untold untold, published]
  split
  · rename_i succeed
    constructor
    · intro alike rounds
      refine Classical.byContradiction fun dead => ?_
      have revived := view_self_run_of_dead ascending untold succeed rounds dead
      rw [← Roster.isAlive_iff_view_eq lastAscending,
        ← (Roster.forall₂_alive_iff ascending lastAscending).mp alike,
        Roster.isAlive_iff_view_eq ascending] at revived
      exact dead (Roster.notDead_of_view_eq_alive revived)
    · intro notDead
      rw [Roster.forall₂_alive_iff ascending lastAscending]
      intro identity
      rw [Roster.isAlive_iff_view_eq ascending, Roster.isAlive_iff_view_eq lastAscending,
        view_run_of_untold ascending untold succeed notDead]
  · rename_i fails
    rw [Roster.alive_eq_nil_of_view_eq_none lastAscending
      (view_run_of_failing ascending untold (eq_false_of_ne_true fails)),
      List.forall₂_nil_right_iff]

/-- Somebody spreads that the introducer has left, and the introducer goes through
its next round. -/
def slandered : List (Turn Nat) :=
  [.arrival ⟨10⟩ (.payload (Digest.bytes ⟨[⟨introducer.identity, 5, .left⟩]⟩)), .round ⟨20⟩ 0]

/-- A node that was told of its own departure is alive in its own roster after the
next round, but not in the list it lets others watch. -/
theorem watch_misses_revived_node :
    ∃ last news,
      introducer.run slandered = (last, news) ∧
      last.roster.alive = [introducer.identity] ∧
      last.watched = [] ∧
      ¬last.IsCurrent := by
  have computed :
      (introducer.run slandered).1.roster.alive = [introducer.identity] ∧
        (introducer.run slandered).1.watched = [] := by
    decide +kernel
  cases passed : introducer.run slandered with
  | mk last news =>
      rw [passed] at computed
      obtain ⟨alive, watched⟩ := computed
      refine ⟨last, news, rfl, alive, watched, ?_⟩
      rw [IsCurrent, watched, alive, List.forall₂_nil_left_iff]
      exact List.cons_ne_nil _ _

end Node
end GossipGroup
