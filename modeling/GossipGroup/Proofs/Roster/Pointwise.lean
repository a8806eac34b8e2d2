import GossipGroup.Proofs.Roster.Replay

/-!
# A merge, member by member

A merge compares two ascending lists in one pass. What it comes to can be said
of every member by itself: which entry is kept, replaced, added or passed over,
and that a change is told exactly of those whose condition is another one
afterwards.
-/

namespace GossipGroup
namespace Roster

/-- The change by which somebody in a later roster is in another condition than
before. -/
def difference? (before : Roster) (member : Member) : Option Change :=
  if before.view member.identity = some member.status then none
  else some ⟨member.identity, .into member.status⟩

theorem difference?_identity
    {before : Roster}
    {member : Member}
    {change : Change}
    (differs : before.difference? member = some change) :
    change.identity.same member.identity = true := by
  rw [difference?, Option.ite_none_left_eq_some, Option.some.injEq] at differs
  rw [← differs.2]
  exact Identity.same_refl _

/-- Whether a member is in another condition depends on the entry that was held
about it. -/
theorem difference?_eq
    {before : Roster}
    {member : Member}
    {identity : Identity}
    (ascending : Ascending before.members)
    (same : member.identity.same identity = true) :
    before.difference? member =
      if (entryAbout identity before.members).map (·.status) = some member.status then none
      else some ⟨member.identity, .into member.status⟩ := by
  rw [difference?, view_eq ascending, entryAbout_congr same]

/-- The change that a merge tells about a member is the difference it makes. -/
theorem mergedChange_eq_difference?
    {roster : Roster}
    {digest : Digest}
    (ascending : Ascending roster.members)
    (now : Instant)
    (identity : Identity) :
    mergedChange (entryAbout identity roster.members) (entryAbout identity digest.reports) =
      (mergedEntry now (entryAbout identity roster.members)
        (entryAbout identity digest.reports)).bind roster.difference? := by
  cases encounter now (entryAbout identity roster.members)
      (entryAbout identity digest.reports) with
  | unmoved _ kept quiet =>
      rw [kept, quiet]
      cases held : entryAbout identity roster.members with
      | none => rfl
      | some member =>
          rw [Option.bind_some, difference?_eq ascending (same_of_entryAbout held), held,
            Option.map_some, if_pos rfl]
  | @joined report unknown told alive joined change =>
      have same : (report.memberAt now).identity.same identity = true := same_of_entryAbout told
      have status : (report.memberAt now).status = .alive := alive
      rw [joined, change, Option.bind_some, difference?_eq ascending same, unknown, status,
        if_neg nofun]
      rfl
  | @replaced member report known told _ replaced change =>
      have same : (report.memberAt now).identity.same identity = true := same_of_entryAbout told
      have status : (report.memberAt now).status = report.status := rfl
      rw [replaced, change, Option.bind_some, difference?_eq ascending same, known,
        Option.map_some, status]
      by_cases unchanged : report.status = member.status
      · rw [if_pos unchanged, if_pos (congrArg some unchanged.symm)]
      · rw [if_neg unchanged, if_neg fun equal => unchanged (Option.some.inj equal).symm]
        rfl

/-- A change is told about a member exactly if its condition is another one. -/
theorem mergedChange_ne_none_iff
    (now : Instant)
    (held : Option Member)
    (reported : Option Report) :
    mergedChange held reported ≠ none ↔
      (mergedEntry now held reported).map (·.status) ≠ held.map (·.status) := by
  cases encounter now held reported with
  | unmoved _ kept quiet =>
      rw [kept, quiet]
      exact iff_of_false (fun told => told rfl) fun differs => differs rfl
  | joined unknown _ _ joined change =>
      rw [joined, change, unknown]
      exact iff_of_true (Option.some_ne_none _) (Option.some_ne_none _)
  | @replaced member report known _ _ replaced change =>
      have status : (report.memberAt now).status = report.status := rfl
      rw [replaced, change, known, Option.map_some, Option.map_some, status]
      by_cases unchanged : report.status = member.status
      · rw [if_pos unchanged]
        exact iff_of_false (fun told => told rfl) fun differs => differs (congrArg some unchanged)
      · rw [if_neg unchanged]
        exact iff_of_true (Option.some_ne_none _) fun equal => unchanged (Option.some.inj equal)

/-- What a merge of an ascending digest into an ascending roster comes to. The
entries are ascending again. For every member, the entry is what the two entries
about it come to: the roster's own where nothing is reported or nothing newer,
the reported one where it is newer, a newcomer where it is reported alive, and
else none. The changes are the differences between the roster before and after
it, in the order of the entries, so there is one about a member exactly if its
condition is another one, and no more than one. -/
theorem merge_eq_pointwise
    {roster : Roster}
    {digest : Digest}
    (rosterAscending : Ascending roster.members)
    (digestAscending : Digest.ascending digest.reports = true)
    (now : Instant) :
    let next := (roster.merge digest now).1
    let changes := (roster.merge digest now).2
    Ascending next.members ∧
    (∀ identity, next.find? identity =
      match roster.find? identity, entryAbout identity digest.reports with
      | some member, some report =>
          some (if member.heartbeat < report.heartbeat then report.memberAt now else member)
      | some member, none => some member
      | none, some report =>
          if report.status = .alive then some (report.memberAt now) else none
      | none, none => none) ∧
    Ascending changes ∧
    changes = next.members.filterMap roster.difference? ∧
    ∀ identity, (∃ change ∈ changes, change.identity.same identity = true) ↔
      next.view identity ≠ roster.view identity := by
  intro next changes
  have merges : Revision.Merges now roster.members digest.reports (next.members, changes) :=
    mergeMembers_merges now rosterAscending (Digest.ascending_iff.mp digestAscending)
  have entry := merges.entryAbout_members
  have change := merges.entryAbout_changes
  refine ⟨merges.members_ascending, fun identity => ?_, merges.changes_ascending, ?_,
    fun identity => ?_⟩
  · rw [find?_eq_entryAbout merges.members_ascending, find?_eq_entryAbout rosterAscending, entry]
    rfl
  · refine merges.changes_ascending.eq_of_entryAbout_eq
      (merges.members_ascending.filterMap fun _ _ => difference?_identity) fun identity => ?_
    rw [change, mergedChange_eq_difference? rosterAscending now, ← entry]
    exact (merges.members_ascending.entryAbout_filterMap
      (fun _ _ => difference?_identity) identity).symm
  · rw [view_eq merges.members_ascending, view_eq rosterAscending, entry,
      ← mergedChange_ne_none_iff, ← change, Ne, entryAbout_eq_none_iff]
    simp

/-- A roster that holds itself, a member that has left and one that is alive. -/
def threesome : Roster :=
  ⟨⟨.v4 ⟨127, 0, 0, 1⟩ 7001, 2⟩,
    [⟨⟨.v4 ⟨127, 0, 0, 1⟩ 7001, 2⟩, 4, ⟨30⟩, .alive⟩,
      ⟨⟨.v4 ⟨127, 0, 0, 1⟩ 7002, 3⟩, 9, ⟨20⟩, .left⟩,
      ⟨⟨.v6 ⟨0, 0, 0, 0, 0, 0, 0, 1⟩ 7003 5 0, 4⟩, 6, ⟨10⟩, .alive⟩],
    .ofSeconds 2, .ofSeconds 5⟩

/-- A digest that has the roster's own node as failed, the one that left as alive
but no newer, the other newer and with another flow label, a newcomer and a
stranger that has left. -/
def miscellany : Digest :=
  ⟨[⟨⟨.v4 ⟨127, 0, 0, 1⟩ 7000, 1⟩, 1, .alive⟩,
    ⟨⟨.v4 ⟨127, 0, 0, 1⟩ 7001, 2⟩, 5, .failed⟩,
    ⟨⟨.v4 ⟨127, 0, 0, 1⟩ 7002, 3⟩, 9, .alive⟩,
    ⟨⟨.v4 ⟨127, 0, 0, 1⟩ 7005, 6⟩, 8, .left⟩,
    ⟨⟨.v6 ⟨0, 0, 0, 0, 0, 0, 0, 1⟩ 7003 7 0, 4⟩, 7, .alive⟩]⟩

/-- The newcomer joins, the node itself has failed by what it is told, and the flow
label and the heartbeat of a member that stays alive are taken over without a word. -/
theorem merge_eq_pointwise_of_miscellany :
    let next := (threesome.merge miscellany ⟨40⟩).1
    let changes := (threesome.merge miscellany ⟨40⟩).2
    Ascending next.members ∧
      next.find? ⟨.v6 ⟨0, 0, 0, 0, 0, 0, 0, 1⟩ 7003 0 0, 4⟩ =
        some ⟨⟨.v6 ⟨0, 0, 0, 0, 0, 0, 0, 1⟩ 7003 7 0, 4⟩, 7, ⟨40⟩, .alive⟩ ∧
      next.find? ⟨.v4 ⟨127, 0, 0, 1⟩ 7002, 3⟩ =
        some ⟨⟨.v4 ⟨127, 0, 0, 1⟩ 7002, 3⟩, 9, ⟨20⟩, .left⟩ ∧
      next.find? ⟨.v4 ⟨127, 0, 0, 1⟩ 7005, 6⟩ = none ∧
      changes =
        [⟨⟨.v4 ⟨127, 0, 0, 1⟩ 7000, 1⟩, .joined⟩, ⟨⟨.v4 ⟨127, 0, 0, 1⟩ 7001, 2⟩, .failed⟩] := by
  have ascending : Ascending threesome.members := by
    unfold Ascending
    decide +kernel
  have digestAscending : Digest.ascending miscellany.reports = true := by decide +kernel
  obtain ⟨nextAscending, entry, -, difference, -⟩ :=
    merge_eq_pointwise ascending digestAscending ⟨40⟩
  refine ⟨nextAscending, ?_, ?_, ?_, ?_⟩
  · rw [entry]
    decide +kernel
  · rw [entry]
    decide +kernel
  · rw [entry]
    decide +kernel
  · rw [difference]
    decide +kernel

end Roster
end GossipGroup
