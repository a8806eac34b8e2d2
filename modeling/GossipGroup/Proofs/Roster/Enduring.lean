import GossipGroup.Proofs.Roster.Runs

/-!
# A roster that goes on after ageing fails

A run of operations ends where the node cannot count its own heartbeat up. The roster
does not: it has lost its entries by then, without telling of it, and whatever comes
next is done to what is left. The module says what becomes of a roster one operation
after another, and what is told of one member on the way.
-/

namespace GossipGroup
namespace Roster

/-- The moment at which an operation ages the roster. -/
def Operation.ageing? : Operation → Option Instant
  | .age now => some now
  | .merge _ _ | .receive _ _ => none

/-- The moments at which operations age the roster. -/
def ageings (operations : List Operation) : List Instant :=
  operations.filterMap Operation.ageing?

/-- What an operation makes of a roster, and the changes it tells. A roster that
fails to age is left without entries and tells nothing. -/
def undergo (roster : Roster) (operation : Operation) : Roster × List Change :=
  match roster.apply operation with
  | .ok result => result
  | .error _ => (roster.emptied, [])

/-- One operation after another, with the moment at which each change is told. -/
def endure (roster : Roster) : List Operation → Roster × List (Instant × Change)
  | [] => (roster, [])
  | operation :: operations =>
      let step := roster.undergo operation
      let rest := step.1.endure operations
      (rest.1, step.2.map (fun change => (operation.moment, change)) ++ rest.2)

/-- What is told of one member. -/
def tidings (identity : Identity) (told : List (Instant × Change)) :
    List (Instant × Transition) :=
  (told.filter fun tiding => tiding.2.identity.same identity).map fun tiding =>
    (tiding.1, tiding.2.transition)

/-- Whenever the roster ages, the node can count its heartbeat up. -/
def Unhindered (roster : Roster) (operations : List Operation) : Prop :=
  ∀ before now, before ++ [.age now] <+: operations → (roster.endure before).1.CanBeat

theorem Operation.ageing?_eq_none
    {operation : Operation}
    (ageless : ∀ now, operation ≠ .age now) :
    operation.ageing? = none := by
  cases operation with
  | merge reports now => rfl
  | receive bytes now => rfl
  | age now => exact absurd rfl (ageless now)

theorem Operation.eq_age_of_mem_ageing?
    {operation : Operation}
    {now : Instant}
    (ageing : now ∈ operation.ageing?) :
    operation = .age now := by
  cases operation with
  | merge reports moment => contradiction
  | receive bytes moment => contradiction
  | age moment => exact congrArg Operation.age (Option.some.inj ageing)

theorem ageings_cons (operation : Operation) (operations : List Operation) :
    ageings (operation :: operations) = operation.ageing?.toList ++ ageings operations := by
  cases operation <;> rfl

theorem undergo_age_of_canBeat
    {roster : Roster}
    (canBeat : roster.CanBeat)
    (now : Instant) :
    roster.undergo (.age now) = (roster.aged now, roster.agedChanges now) := by
  rw [undergo, apply, age_eq_ok_iff.mpr ⟨canBeat, rfl⟩]

theorem undergo_age_of_not_canBeat
    {roster : Roster}
    (hindered : ¬roster.CanBeat)
    (now : Instant) :
    roster.undergo (.age now) = (roster.emptied, []) := by
  rw [undergo, apply]
  cases ages : roster.age now with
  | ok result => exact absurd (age_eq_ok_iff.mp ages).1 hindered
  | error error => rfl

/-- What an operation can make of a roster: a merge of an ascending digest, nothing,
an aged roster, or nothing that is left. -/
inductive Undergone (roster : Roster) (operation : Operation) : Prop
  | merged
      (digest : Digest)
      (read : operation.digest? = some digest)
      (ageless : ∀ now, operation ≠ .age now)
      (ascending : Ascending digest.reports)
      (outcome : roster.undergo operation = roster.merge digest operation.moment)
  | passedOver
      (ageless : ∀ now, operation ≠ .age now)
      (outcome : roster.undergo operation = (roster, []))
  | aged
      (now : Instant)
      (ageing : operation = .age now)
      (canBeat : roster.CanBeat)
      (outcome : roster.undergo operation = (roster.aged now, roster.agedChanges now))
  | lost
      (now : Instant)
      (ageing : operation = .age now)
      (hindered : ¬roster.CanBeat)
      (outcome : roster.undergo operation = (roster.emptied, []))

theorem undergone (roster : Roster) (operation : Operation) : roster.Undergone operation := by
  cases operation.kind with
  | merges digest read ageless ascending applied =>
      refine .merged digest read ageless ascending ?_
      rw [undergo, applied]
  | unreadable _ ageless applied =>
      refine .passedOver ageless ?_
      rw [undergo, applied]
  | ages now ageing =>
      by_cases canBeat : roster.CanBeat
      · exact .aged now ageing canBeat (ageing ▸ undergo_age_of_canBeat canBeat now)
      · exact .lost now ageing canBeat (ageing ▸ undergo_age_of_not_canBeat canBeat now)

theorem ascending_undergo
    {roster : Roster}
    (ascending : Ascending roster.members)
    (operation : Operation) :
    Ascending (roster.undergo operation).1.members ∧ Ascending (roster.undergo operation).2 := by
  cases roster.undergone operation with
  | merged digest _ _ digestAscending outcome =>
      have merges := mergeMembers_merges operation.moment ascending digestAscending
      rw [outcome]
      exact ⟨merges.members_ascending, merges.changes_ascending⟩
  | passedOver _ outcome =>
      rw [outcome]
      exact ⟨ascending, ascending_nil⟩
  | aged now _ _ outcome =>
      rw [outcome]
      exact ⟨ascending_aged ascending now, ascending_agedChanges ascending now⟩
  | lost _ _ _ outcome =>
      rw [outcome]
      exact ⟨ascending_nil, ascending_nil⟩

/-- No operation changes what a roster is given at its founding. -/
theorem settings_undergo (roster : Roster) (operation : Operation) :
    (roster.undergo operation).1.self = roster.self ∧
      (roster.undergo operation).1.failTimeout = roster.failTimeout ∧
      (roster.undergo operation).1.cleanupTimeout = roster.cleanupTimeout := by
  cases roster.undergone operation with
  | merged _ _ _ _ outcome | passedOver _ outcome | aged _ _ _ outcome | lost _ _ _ outcome =>
      rw [outcome]
      exact ⟨rfl, rfl, rfl⟩

/-- One operation tells of a member what the one change about it says. -/
theorem tidings_endure_cons
    {roster : Roster}
    {operation : Operation}
    (ascending : Ascending roster.members)
    (identity : Identity)
    (operations : List Operation) :
    tidings identity (roster.endure (operation :: operations)).2 =
      (entryAbout identity (roster.undergo operation).2).toList.map
          (fun change => (operation.moment, change.transition)) ++
        tidings identity ((roster.undergo operation).1.endure operations).2 := by
  have single := (ascending_undergo ascending operation).2.filter_same_eq_toList identity
  rw [endure, tidings, List.filter_append, List.map_append, List.filter_map, List.map_map, ← single]
  rfl

/-- Operations of two runs in a row. -/
theorem endure_append (roster : Roster) (operations later : List Operation) :
    roster.endure (operations ++ later) =
      (((roster.endure operations).1.endure later).1,
        (roster.endure operations).2 ++ ((roster.endure operations).1.endure later).2) := by
  induction operations generalizing roster with
  | nil => rfl
  | cons operation operations inductionHypothesis =>
      rw [List.cons_append, endure, inductionHypothesis, endure, List.append_assoc]

theorem tidings_append (identity : Identity) (told later : List (Instant × Change)) :
    tidings identity (told ++ later) = tidings identity told ++ tidings identity later := by
  rw [tidings, List.filter_append, List.map_append]
  rfl

theorem ascending_endure
    {roster : Roster}
    (ascending : Ascending roster.members)
    (operations : List Operation) :
    Ascending (roster.endure operations).1.members := by
  induction operations generalizing roster with
  | nil => exact ascending
  | cons operation operations inductionHypothesis =>
      exact inductionHypothesis (ascending_undergo ascending operation).1

theorem unhindered_nil (roster : Roster) : roster.Unhindered [] := by
  intro before now first
  cases before <;> simp at first

theorem unhindered_cons
    {roster : Roster}
    {operation : Operation}
    {operations : List Operation} :
    roster.Unhindered (operation :: operations) ↔
      (∀ now, operation = .age now → roster.CanBeat) ∧
        (roster.undergo operation).1.Unhindered operations := by
  constructor
  · intro unhindered
    refine ⟨fun now ageing => unhindered [] now ?_, fun before now first => ?_⟩
    · rw [ageing]
      exact List.cons_prefix_cons.mpr ⟨rfl, List.nil_prefix⟩
    · exact unhindered (operation :: before) now (List.cons_prefix_cons.mpr ⟨rfl, first⟩)
  · rintro ⟨canBeat, unhindered⟩ before now first
    cases before with
    | nil => exact canBeat now (List.cons_prefix_cons.mp first).1.symm
    | cons earliest before =>
        obtain ⟨rfl, rest⟩ := List.cons_prefix_cons.mp first
        exact unhindered before now rest

/-- Ageing is unhindered exactly if the run of the operations does not fail, and then
it leads to the roster that is left. -/
theorem unhindered_iff
    {roster : Roster}
    {operations : List Operation} :
    roster.Unhindered operations ↔
      roster.run operations = .ok (roster.endure operations).1 := by
  induction operations generalizing roster with
  | nil => exact iff_of_true roster.unhindered_nil rfl
  | cons operation operations inductionHypothesis =>
      rw [unhindered_cons, inductionHypothesis, run, endure]
      cases operation.kind with
      | merges _ _ ageless _ applied | unreadable _ ageless applied =>
          rw [undergo, applied]
          exact and_iff_right fun now ageing => absurd ageing (ageless now)
      | ages now ageing =>
          rw [ageing, apply]
          by_cases canBeat : roster.CanBeat
          · rw [undergo_age_of_canBeat canBeat, age_eq_ok_iff.mpr ⟨canBeat, rfl⟩]
            exact and_iff_right fun _ _ => canBeat
          · refine iff_of_false (fun unhindered => canBeat (unhindered.1 now rfl)) fun ran => ?_
            split at ran
            · rename_i ages
              exact canBeat (age_eq_ok_iff.mp ages).1
            · contradiction

/-- An operation either has a member that is not held join, or leaves it unheard of. -/
theorem joins_or_stays_unheard
    {roster : Roster}
    {identity : Identity}
    (operation : Operation)
    (ascending : Ascending roster.members)
    (absent : entryAbout identity roster.members = none) :
    (∃ change, entryAbout identity (roster.undergo operation).2 = some change ∧
        change.transition = .joined) ∨
      entryAbout identity (roster.undergo operation).1.members = none ∧
        entryAbout identity (roster.undergo operation).2 = none := by
  cases roster.undergone operation with
  | merged digest _ _ digestAscending outcome =>
      have merges := mergeMembers_merges operation.moment ascending digestAscending
      have entry := merges.entryAbout_members identity
      have change := merges.entryAbout_changes identity
      rw [absent] at entry change
      rw [outcome]
      cases encounter operation.moment none (entryAbout identity digest.reports) with
      | unmoved _ kept quiet => exact .inr ⟨entry.trans kept, change.trans quiet⟩
      | joined _ _ _ _ joins => exact .inl ⟨_, change.trans joins, rfl⟩
      | replaced known => contradiction
  | passedOver _ outcome =>
      rw [outcome]
      exact .inr ⟨absent, rfl⟩
  | lost _ _ _ outcome =>
      rw [outcome]
      exact .inr ⟨rfl, rfl⟩
  | aged now _ _ outcome =>
      rw [outcome, entryAbout_aged ascending, entryAbout_agedChanges ascending, absent]
      exact .inr ⟨rfl, rfl⟩

/-- A member that is not held either comes back as one that joins, or stays unheard
of. -/
theorem joined_or_unheard
    {roster : Roster}
    {identity : Identity}
    (operations : List Operation)
    (ascending : Ascending roster.members)
    (absent : entryAbout identity roster.members = none) :
    (∃ now, (now, .joined) ∈ tidings identity (roster.endure operations).2) ∨
      (roster.endure operations).1.find? identity = none ∧
        tidings identity (roster.endure operations).2 = [] := by
  induction operations generalizing roster with
  | nil => exact .inr ⟨(find?_eq_entryAbout ascending identity).trans absent, rfl⟩
  | cons operation operations inductionHypothesis =>
      rw [tidings_endure_cons ascending, endure]
      obtain ⟨change, told, joined⟩ | ⟨stillAbsent, quiet⟩ :=
        joins_or_stays_unheard operation ascending absent
      · refine .inl ⟨operation.moment, List.mem_append_left _ ?_⟩
        rw [told, ← joined]
        exact List.mem_singleton_self _
      · rw [quiet]
        exact inductionHypothesis (ascending_undergo ascending operation).1 stillAbsent

end Roster
end GossipGroup
