import GossipGroup.Proofs.Roster.Runs

/-!
# Rebuilding a roster from the changes it tells

Whoever knows the condition of a member and hears of every change afterwards
knows its condition from then on. A merge tells all that it changes about
anybody, and ageing all that it changes about others than the node itself; no
change is told about a member that is already in that condition.
-/

namespace GossipGroup

/-- The condition of every member, as far as there is one. -/
abbrev View : Type := Identity → Option Status

namespace View

variable {view next last : View} {identity : Identity}

/-- The view after one change: the member it is about is in the condition that
is told. -/
def after (view : View) (change : Change) : View := fun identity =>
  if change.identity.same identity then change.transition.status? else view identity

/-- The view after several changes, one after the other. -/
def replay (view : View) (changes : List Change) : View := changes.foldl after view

/-- Whenever a change about the member is replayed, the member is not yet in the
condition that is told. -/
def EachIsNews (identity : Identity) : View → List Change → Prop
  | _, [] => True
  | view, change :: changes =>
      (change.identity.same identity = true → view identity ≠ change.transition.status?) ∧
        EachIsNews identity (view.after change) changes

@[simp] theorem replay_nil (view : View) : view.replay [] = view := rfl

@[simp] theorem replay_cons (view : View) (change : Change) (changes : List Change) :
    view.replay (change :: changes) = (view.after change).replay changes := rfl

theorem after_of_same
    {change : Change}
    (same : change.identity.same identity = true)
    (view : View) :
    view.after change identity = change.transition.status? :=
  if_pos same

theorem after_of_not_same
    {change : Change}
    (different : change.identity.same identity = false)
    (view : View) :
    view.after change identity = view identity :=
  if_neg (ne_true_of_eq_false different)

theorem after_congr
    (agree : view identity = next identity)
    (change : Change) :
    view.after change identity = next.after change identity := by
  unfold after
  rw [agree]

/-- Changes that, told in this order, lead from one view to another as far as a
member is concerned, none of them told in vain. -/
structure Explains (identity : Identity) (view next : View) (changes : List Change) : Prop where
  replay_eq : view.replay changes identity = next identity
  news : view.EachIsNews identity changes

/-- What changes about a member say does not depend on what is known of other
members. -/
theorem Explains.congr
    {changes : List Change}
    (explains : Explains identity next last changes)
    (agree : view identity = next identity) :
    Explains identity view last changes := by
  induction changes generalizing view next with
  | nil => exact ⟨agree.trans explains.replay_eq, trivial⟩
  | cons change changes inductionHypothesis =>
      have rest := inductionHypothesis ⟨explains.replay_eq, explains.news.2⟩
        (after_congr agree change)
      exact ⟨rest.replay_eq, fun same => agree ▸ explains.news.1 same, rest.news⟩

/-- Nothing needs to be told if nothing changes. -/
theorem explains_nil (unmoved : view identity = next identity) :
    Explains identity view next [] :=
  ⟨unmoved, trivial⟩

/-- What is told of somebody else does not matter. -/
theorem Explains.cons_other
    {change : Change}
    {changes : List Change}
    (explains : Explains identity view next changes)
    (other : change.identity.same identity = false) :
    Explains identity view next (change :: changes) := by
  have rest := explains.congr (after_of_not_same other view)
  refine ⟨rest.replay_eq, fun same => ?_, rest.news⟩
  rw [other] at same
  contradiction

/-- One batch of changes may follow another. -/
theorem Explains.append
    {changes later : List Change}
    (first : Explains identity view next changes)
    (second : Explains identity next last later) :
    Explains identity view last (changes ++ later) := by
  induction changes generalizing view with
  | nil => exact second.congr first.replay_eq
  | cons change changes inductionHypothesis =>
      have rest := inductionHypothesis ⟨first.replay_eq, first.news.2⟩
      exact ⟨rest.replay_eq, first.news.1, rest.news⟩

/-- A batch in which nothing is told of a member leaves it as it is. -/
theorem explains_of_quiet
    {changes : List Change}
    (quiet : entryAbout identity changes = none)
    (unmoved : view identity = next identity) :
    Explains identity view next changes := by
  induction changes with
  | nil => exact explains_nil unmoved
  | cons change changes inductionHypothesis =>
      have other := entryAbout_eq_none_iff.mp quiet change List.mem_cons_self
      rw [entryAbout_cons, if_neg (ne_true_of_eq_false other)] at quiet
      exact (inductionHypothesis quiet).cons_other other

/-- In a batch of changes about different members the one about a member is all
that has to explain what became of it. -/
theorem explains_of_told
    {changes : List Change}
    {told : Change}
    (ascending : Ascending changes)
    (found : entryAbout identity changes = some told)
    (reaches : next identity = told.transition.status?)
    (isNews : view identity ≠ told.transition.status?) :
    Explains identity view next changes := by
  induction changes with
  | nil => contradiction
  | cons change changes inductionHypothesis =>
      rw [entryAbout_cons] at found
      split at found
      · rename_i same
        obtain rfl := Option.some.inj found
        have absent : entryAbout identity changes = none := by
          rw [← entryAbout_congr same]
          exact ascending.entryAbout_head_tail
        -- The rest of the batch is about others.
        have rest : Explains identity (view.after change) next changes :=
          explains_of_quiet absent ((after_of_same same view).trans reaches.symm)
        exact ⟨rest.replay_eq, fun _ => isNews, rest.news⟩
      · rename_i different
        exact (inductionHypothesis ascending.tail found).cons_other
          (eq_false_of_ne_true different)

end View

namespace Roster

/-- The conditions of the members that a roster holds. -/
def view (roster : Roster) : View := fun identity =>
  (roster.find? identity).map (·.status)

theorem view_eq
    {roster : Roster}
    (ascending : Ascending roster.members)
    (identity : Identity) :
    roster.view identity = (entryAbout identity roster.members).map (·.status) := by
  rw [view, find?_eq_entryAbout ascending]

/-- A merge tells all that it changes about anybody, and nothing else. -/
theorem explains_merge
    {roster : Roster}
    {digest : Digest}
    (rosterAscending : Ascending roster.members)
    (digestAscending : Ascending digest.reports)
    (now : Instant)
    (identity : Identity) :
    View.Explains identity roster.view (roster.merge digest now).1.view
      (roster.merge digest now).2 := by
  have merges := mergeMembers_merges now rosterAscending digestAscending
  have before := view_eq rosterAscending identity
  have after : (roster.merge digest now).1.view identity = _ :=
    view_eq merges.members_ascending identity
  have told : entryAbout identity (roster.merge digest now).2 = _ :=
    merges.entryAbout_changes identity
  rw [members_merge, merges.entryAbout_members] at after
  cases encounter now (entryAbout identity roster.members)
      (entryAbout identity digest.reports) with
  | unmoved _ kept quiet =>
      rw [kept] at after
      exact View.explains_of_quiet (told.trans quiet) (before.trans after.symm)
  | joined absent _ alive joined change =>
      rw [absent] at before
      rw [joined] at after
      refine View.explains_of_told merges.changes_ascending (told.trans change) ?_ ?_
      · exact after.trans (congrArg some alive)
      · rw [before]
        exact nofun
  | @replaced member report held _ _ replaced change =>
      rw [held] at before
      rw [replaced] at after
      rw [change] at told
      by_cases unchanged : report.status = member.status
      · rw [if_pos unchanged] at told
        refine View.explains_of_quiet told (before.trans (Eq.trans ?_ after.symm))
        exact congrArg some unchanged.symm
      · rw [if_neg unchanged] at told
        refine View.explains_of_told merges.changes_ascending told ?_ ?_
        · rw [after, Transition.status?_into]
          rfl
        · rw [before, Transition.status?_into]
          exact fun same => unchanged (Option.some.inj same).symm

/-- Ageing tells all that it changes about others than the node itself, and
nothing else. -/
theorem explains_aged
    {roster : Roster}
    (ascending : Ascending roster.members)
    (now : Instant)
    {identity : Identity}
    (other : roster.self.same identity = false) :
    View.Explains identity roster.view (roster.aged now).view (roster.agedChanges now) := by
  have before := view_eq ascending identity
  have after := view_eq (ascending_aged ascending now) identity
  have told := entryAbout_agedChanges ascending now identity
  have changesAscending := ascending_agedChanges ascending now
  rw [entryAbout_aged ascending] at after
  cases held : entryAbout identity roster.members with
  | none =>
      rw [held] at before after told
      exact View.explains_of_quiet told (before.trans after.symm)
  | some member =>
      rw [held] at before after told
      rw [Option.bind_some] at after told
      cases roster.fate now member with
      | renewed own => exact nomatch own.symm.trans (same_eq_false_of_entryAbout held other)
      | evicted _ _ evicted change =>
          rw [evicted] at after
          refine View.explains_of_told changesAscending (told.trans change) after ?_
          rw [before]
          exact nofun
      | failed _ _ _ alive failed change =>
          rw [failed] at after
          refine View.explains_of_told changesAscending (told.trans change) after ?_
          rw [before, Option.map_some, alive]
          exact nofun
      | kept _ _ _ kept quiet =>
          rw [kept] at after
          exact View.explains_of_quiet (told.trans quiet) (before.trans after.symm)

end Roster
end GossipGroup
