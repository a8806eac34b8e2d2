import GossipGroup.Proofs.Ascending

/-!
# Merging, one member at a time

Merging goes through members and reports in one pass. What it does can be said
without the pass: for every member, what the roster holds afterwards depends
only on what it held and on what the digest reports, and so does the change
that is told. Entries and changes come out in ascending order.
-/

namespace GossipGroup
namespace Roster

/-- What a merge leaves of what was held and reported about one member. -/
def mergedEntry (now : Instant) : Option Member → Option Report → Option Member
  | some member, some report =>
      some (if member.heartbeat < report.heartbeat then report.memberAt now else member)
  | some member, none => some member
  | none, some report =>
      if report.status = .alive then some (report.memberAt now) else none
  | none, none => none

/-- The change a merge tells, by what was held and reported about one member. -/
def mergedChange : Option Member → Option Report → Option Change
  | some member, some report =>
      if member.heartbeat < report.heartbeat ∧ report.status ≠ member.status then
        some ⟨report.identity, .into report.status⟩
      else none
  | none, some report =>
      if report.status = .alive then some ⟨report.identity, .joined⟩ else none
  | _, none => none

@[simp] theorem mergedEntry_none_right (now : Instant) (held : Option Member) :
    mergedEntry now held none = held := by
  cases held <;> rfl

@[simp] theorem mergedChange_none_right (held : Option Member) :
    mergedChange held none = none := by
  cases held <;> rfl

/-- What can come of a merge for one member, with the change that is told. -/
inductive Encounter (now : Instant) (held : Option Member) (reported : Option Report) : Prop
  /-- What is reported is no news. -/
  | unmoved
      (stale : ∀ report ∈ reported, (held = none → report.status ≠ .alive) ∧
        ∀ member ∈ held, ¬member.heartbeat < report.heartbeat)
      (entry : mergedEntry now held reported = held)
      (change : mergedChange held reported = none)
  /-- A member that was not held is reported alive. -/
  | joined {report}
      (unknown : held = none)
      (told : reported = some report)
      (alive : report.status = .alive)
      (entry : mergedEntry now held reported = some (report.memberAt now))
      (change : mergedChange held reported = some ⟨report.identity, .joined⟩)
  /-- A member that was held is reported with a greater heartbeat. -/
  | replaced {member report}
      (known : held = some member)
      (told : reported = some report)
      (newer : member.heartbeat < report.heartbeat)
      (entry : mergedEntry now held reported = some (report.memberAt now))
      (change : mergedChange held reported =
        if report.status = member.status then none
        else some ⟨report.identity, .into report.status⟩)

/-- There is nothing else that can come of a merge. -/
theorem encounter (now : Instant) (held : Option Member) (reported : Option Report) :
    Encounter now held reported := by
  cases reported with
  | none =>
      exact .unmoved nofun (mergedEntry_none_right now held) (mergedChange_none_right held)
  | some report =>
      cases held with
      | none =>
          by_cases alive : report.status = .alive
          · exact .joined rfl rfl alive (if_pos alive) (if_pos alive)
          · refine .unmoved (fun other equal => ?_) (if_neg alive) (if_neg alive)
            rw [← Option.some.inj equal]
            exact ⟨fun _ => alive, nofun⟩
      | some member =>
          by_cases newer : member.heartbeat < report.heartbeat
          · apply Encounter.replaced rfl rfl newer
            · rw [mergedEntry, if_pos newer]
            · by_cases unchanged : report.status = member.status <;>
                simp [mergedChange, newer, unchanged]
          · apply Encounter.unmoved
            · intro other equal
              rw [← Option.some.inj equal]
              refine ⟨nofun, fun kept same => ?_⟩
              rw [← Option.some.inj same]
              exact newer
            · rw [mergedEntry, if_neg newer]
            · rw [mergedChange, if_neg fun told => newer told.1]

theorem known_of_mergedEntry_ne_none
    {now : Instant}
    {held : Option Member}
    {reported : Option Report}
    (present : mergedEntry now held reported ≠ none) :
    held ≠ none ∨ reported ≠ none := by
  cases held with
  | some member => exact .inl (Option.some_ne_none member)
  | none =>
      cases reported with
      | some report => exact .inr (Option.some_ne_none report)
      | none => exact absurd rfl present

theorem known_of_mergedChange_ne_none
    {held : Option Member}
    {reported : Option Report}
    (present : mergedChange held reported ≠ none) :
    held ≠ none ∨ reported ≠ none := by
  cases reported with
  | some report => exact .inr (Option.some_ne_none report)
  | none => exact absurd (mergedChange_none_right held) present

/-- A revision holds for every member what merging leaves of members and
reports, in ascending order. -/
structure Revision.Merges
    (now : Instant)
    (members : List Member)
    (reports : List Report)
    (revision : Revision) : Prop where
  members_ascending : Ascending revision.1
  changes_ascending : Ascending revision.2
  entryAbout_members : ∀ identity, entryAbout identity revision.1 =
    mergedEntry now (entryAbout identity members) (entryAbout identity reports)
  entryAbout_changes : ∀ identity, entryAbout identity revision.2 =
    mergedChange (entryAbout identity members) (entryAbout identity reports)

/-- A revision with at most one more entry and change at its front. -/
def Revision.put (entry : Option Member) (change : Option Change) (rest : Revision) :
    Revision :=
  (entry.toList ++ rest.1, change.toList ++ rest.2)

theorem mergedEntry_identity
    {now : Instant}
    {identity : Identity}
    {held : Option Member}
    {reported : Option Report}
    {entry : Member}
    (aboutHeld : ∀ member ∈ held, member.identity.same identity = true)
    (aboutReported : ∀ report ∈ reported, report.identity.same identity = true)
    (merged : mergedEntry now held reported = some entry) :
    entry.identity.same identity = true := by
  cases encounter now held reported with
  | unmoved _ kept => exact aboutHeld entry (kept.symm.trans merged)
  | joined _ told _ joined =>
      rw [joined, Option.some.injEq] at merged
      rw [← merged]
      exact aboutReported _ told
  | replaced _ told _ replaced =>
      rw [replaced, Option.some.injEq] at merged
      rw [← merged]
      exact aboutReported _ told

theorem mergedChange_identity
    {identity : Identity}
    {held : Option Member}
    {reported : Option Report}
    {change : Change}
    (aboutReported : ∀ report ∈ reported, report.identity.same identity = true)
    (merged : mergedChange held reported = some change) :
    change.identity.same identity = true := by
  -- The moment of the merge has no part in the change.
  cases encounter ⟨0⟩ held reported with
  | unmoved _ _ quiet =>
      rw [quiet] at merged
      contradiction
  | joined _ told _ _ joined =>
      rw [joined, Option.some.injEq] at merged
      rw [← merged]
      exact aboutReported _ told
  | replaced _ told _ _ into =>
      rw [into, Option.ite_none_left_eq_some, Option.some.injEq] at merged
      rw [← merged.2]
      exact aboutReported _ told

/-- A revision may be extended by what merging leaves of a member that comes
before all others. -/
theorem Revision.Merges.put
    {now : Instant}
    {identity : Identity}
    {members extendedMembers : List Member}
    {reports extendedReports : List Report}
    {held : Option Member}
    {reported : Option Report}
    {rest : Revision}
    (merges : rest.Merges now members reports)
    (beforeMembers : ∀ member ∈ members, identity.precedes member.identity = true)
    (beforeReports : ∀ report ∈ reports, identity.precedes report.identity = true)
    (aboutHeld : ∀ member ∈ held, member.identity.same identity = true)
    (aboutReported : ∀ report ∈ reported, report.identity.same identity = true)
    (membersExtended : extendedMembers = held.toList ++ members)
    (reportsExtended : extendedReports = reported.toList ++ reports) :
    (Revision.put (mergedEntry now held reported) (mergedChange held reported)
      rest).Merges now extendedMembers extendedReports := by
  have absentMembers : entryAbout identity members = none :=
    entryAbout_eq_none_of_precedes beforeMembers
  have absentReports : entryAbout identity reports = none :=
    entryAbout_eq_none_of_precedes beforeReports
  have lookupMembers := entryAbout_toList_append aboutHeld absentMembers
  have lookupReports := entryAbout_toList_append aboutReported absentReports
  have entryNamed : ∀ entry ∈ mergedEntry now held reported,
      entry.identity.same identity = true :=
    fun entry merged => mergedEntry_identity aboutHeld aboutReported merged
  have changeNamed : ∀ change ∈ mergedChange held reported,
      change.identity.same identity = true :=
    fun change merged => mergedChange_identity aboutReported merged
  have absentEntry : entryAbout identity rest.1 = none := by
    rw [merges.entryAbout_members, absentMembers, absentReports]
    rfl
  have absentChange : entryAbout identity rest.2 = none := by
    rw [merges.entryAbout_changes, absentMembers, absentReports]
    rfl
  -- Whatever the rest knows was held or reported, and so comes later.
  have known : ∀ other,
      entryAbout other members ≠ none ∨ entryAbout other reports ≠ none →
        identity.precedes other = true := by
    rintro other (found | found)
    · exact precedes_of_entryAbout beforeMembers found
    · exact precedes_of_entryAbout beforeReports found
  refine ⟨?_, ?_, ?_, ?_⟩
  · refine ascending_toList_append entryNamed merges.members_ascending ?_
    intro other found
    rw [merges.entryAbout_members] at found
    exact known other (known_of_mergedEntry_ne_none found)
  · refine ascending_toList_append changeNamed merges.changes_ascending ?_
    intro other found
    rw [merges.entryAbout_changes] at found
    exact known other (known_of_mergedChange_ne_none found)
  · intro other
    rw [membersExtended, reportsExtended, lookupMembers, lookupReports, Revision.put,
      entryAbout_toList_append entryNamed absentEntry, merges.entryAbout_members]
    split <;> rfl
  · intro other
    rw [membersExtended, reportsExtended, lookupMembers, lookupReports, Revision.put,
      entryAbout_toList_append changeNamed absentChange, merges.entryAbout_changes]
    split <;> rfl

theorem hear_eq_put
    (now : Instant)
    (member : Member)
    (report : Report)
    (rest : Revision) :
    hear now member report rest =
      Revision.put (mergedEntry now (some member) (some report))
        (mergedChange (some member) (some report)) rest := by
  by_cases newer : member.heartbeat < report.heartbeat <;>
    by_cases unchanged : report.status = member.status <;>
      simp [hear, mergedEntry, mergedChange, Revision.put, Revision.cons, newer, unchanged]

theorem welcome_eq_put
    (now : Instant)
    (report : Report)
    (rest : Revision) :
    welcome now report rest =
      Revision.put (mergedEntry now none (some report))
        (mergedChange none (some report)) rest := by
  cases status : report.status <;>
    simp [welcome, mergedEntry, mergedChange, Revision.put, Revision.cons, status]

theorem cons_eq_put
    (now : Instant)
    (member : Member)
    (rest : Revision) :
    rest.cons member [] =
      Revision.put (mergedEntry now (some member) none)
        (mergedChange (some member) none) rest := rfl

theorem mergeMembers_nil_merges
    (now : Instant)
    {reports : List Report}
    (ascending : Ascending reports) :
    (mergeMembers now [] reports).Merges now [] reports := by
  induction reports with
  | nil => exact ⟨ascending_nil, ascending_nil, fun _ => rfl, fun _ => rfl⟩
  | cons report reports inductionHypothesis =>
      have rest := inductionHypothesis ascending.tail
      change (welcome now report (mergeMembers now [] reports)).Merges now [] _
      rw [welcome_eq_put]
      exact rest.put
        (fun _ present => absurd present List.not_mem_nil)
        (ascending_cons.mp ascending).1
        (fun _ impossible => absurd impossible (Option.not_mem_none _))
        (fun _ same => Option.mem_some_iff.mp same ▸ Identity.same_refl report.identity)
        rfl rfl

/-- One member merged with all reports, given that the members after it can be
merged with any. -/
theorem mergeAround_merges
    (now : Instant)
    {member : Member}
    {members : List Member}
    (membersAscending : Ascending (member :: members))
    (mergesRest : ∀ {reports}, Ascending reports →
      (mergeMembers now members reports).Merges now members reports)
    {reports : List Report}
    (ascending : Ascending reports) :
    (mergeAround now member (mergeMembers now members) reports).Merges now
      (member :: members) reports := by
  have beforeMembers := (ascending_cons.mp membersAscending).1
  have aboutMember : ∀ other ∈ some member,
      other.identity.same member.identity = true :=
    fun _ same => Option.mem_some_iff.mp same ▸ Identity.same_refl member.identity
  induction reports with
  | nil =>
      rw [mergeAround, cons_eq_put now]
      exact (mergesRest ascending).put beforeMembers
        (fun _ present => absurd present List.not_mem_nil) aboutMember
        (fun _ impossible => absurd impossible (Option.not_mem_none _)) rfl rfl
  | cons report reports inductionHypothesis =>
      have beforeReports := (ascending_cons.mp ascending).1
      rw [mergeAround]
      cases compared : member.identity.order report.identity with
      | eq =>
          have same := Identity.same_symm (Identity.order_eq_eq_iff.mp compared)
          simp only
          rw [hear_eq_put]
          refine (mergesRest ascending.tail).put beforeMembers ?_ aboutMember ?_ rfl rfl
          · intro later present
            exact Identity.precedes_of_same_of_precedes (Identity.same_symm same)
              (beforeReports later present)
          · intro other equal
            rw [← Option.mem_some_iff.mp equal]
            exact same
      | lt =>
          have before := Identity.order_eq_lt_iff.mp compared
          simp only
          rw [cons_eq_put now]
          refine (mergesRest ascending).put beforeMembers ?_ aboutMember
            (fun _ impossible => absurd impossible (Option.not_mem_none _)) rfl rfl
          intro later present
          rcases List.mem_cons.mp present with equal | inRest
          · rw [equal]
            exact before
          · exact Identity.precedes_trans before (beforeReports later inRest)
      | gt =>
          have before := Identity.order_eq_gt_iff.mp compared
          simp only
          rw [welcome_eq_put]
          refine (inductionHypothesis ascending.tail).put ?_ beforeReports
            (fun _ impossible => absurd impossible (Option.not_mem_none _))
            (fun _ same => Option.mem_some_iff.mp same ▸ Identity.same_refl report.identity)
            rfl rfl
          intro later present
          rcases List.mem_cons.mp present with equal | inRest
          · rw [equal]
            exact before
          · exact Identity.precedes_trans before (beforeMembers later inRest)

/-- Merging in one pass does what its pointwise description says. -/
theorem mergeMembers_merges
    (now : Instant)
    {members : List Member}
    {reports : List Report}
    (membersAscending : Ascending members)
    (reportsAscending : Ascending reports) :
    (mergeMembers now members reports).Merges now members reports := by
  induction members generalizing reports with
  | nil => exact mergeMembers_nil_merges now reportsAscending
  | cons member members inductionHypothesis =>
      exact mergeAround_merges now membersAscending
        (fun ascending => inductionHypothesis membersAscending.tail ascending)
        reportsAscending

/-- What a merged roster holds was held before or reported. -/
theorem mem_merge
    {roster : Roster}
    {digest : Digest}
    {now : Instant}
    {member : Member}
    (rosterAscending : Ascending roster.members)
    (digestAscending : Ascending digest.reports)
    (present : member ∈ (roster.merge digest now).1.members) :
    member ∈ roster.members ∨ ∃ report ∈ digest.reports, member = report.memberAt now := by
  have merges := mergeMembers_merges now rosterAscending digestAscending
  have entry := merges.members_ascending.entryAbout_of_mem present
  rw [merges.entryAbout_members] at entry
  cases encounter now (entryAbout (Named.name member) roster.members)
      (entryAbout (Named.name member) digest.reports) with
  | unmoved _ kept =>
      rw [kept] at entry
      exact .inl (mem_of_entryAbout entry)
  | joined _ reported _ joined =>
      rw [joined, Option.some.injEq] at entry
      exact .inr ⟨_, mem_of_entryAbout reported, entry.symm⟩
  | replaced _ reported _ replaced =>
      rw [replaced, Option.some.injEq] at entry
      exact .inr ⟨_, mem_of_entryAbout reported, entry.symm⟩

/-- A report whose heartbeat is not greater than what is held is no news. -/
theorem entryAbout_merge_of_stale
    {roster : Roster}
    {digest : Digest}
    {identity : Identity}
    {member : Member}
    (rosterAscending : Ascending roster.members)
    (digestAscending : Ascending digest.reports)
    (held : entryAbout identity roster.members = some member)
    (stale : ∀ report, entryAbout identity digest.reports = some report →
      report.heartbeat ≤ member.heartbeat)
    (now : Instant) :
    entryAbout identity (roster.merge digest now).1.members = some member ∧
      entryAbout identity (roster.merge digest now).2 = none := by
  have merges := mergeMembers_merges now rosterAscending digestAscending
  have entry := merges.entryAbout_members identity
  have change := merges.entryAbout_changes identity
  rw [held] at entry change
  cases encounter now (some member) (entryAbout identity digest.reports) with
  | unmoved _ kept quiet => exact ⟨entry.trans kept, change.trans quiet⟩
  | joined unknown => contradiction
  | replaced known told newer =>
      obtain rfl := Option.some.inj known
      exact absurd newer (UInt64.not_lt.mpr (stale _ told))

/-- A report whose heartbeat is greater than what is held is believed. -/
theorem entryAbout_merge_of_newer
    {roster : Roster}
    {digest : Digest}
    {identity : Identity}
    {member : Member}
    {report : Report}
    (rosterAscending : Ascending roster.members)
    (digestAscending : Ascending digest.reports)
    (held : entryAbout identity roster.members = some member)
    (reported : entryAbout identity digest.reports = some report)
    (newer : member.heartbeat < report.heartbeat)
    (now : Instant) :
    entryAbout identity (roster.merge digest now).1.members = some (report.memberAt now) := by
  rw [members_merge, (mergeMembers_merges now rosterAscending digestAscending).entryAbout_members,
    held, reported, mergedEntry, if_pos newer]

/-- A digest that reports nothing new leaves a roster exactly as it is. -/
theorem merge_eq_self_of_stale
    {roster : Roster}
    {digest : Digest}
    (rosterAscending : Ascending roster.members)
    (digestAscending : Ascending digest.reports)
    (stale : ∀ identity report, entryAbout identity digest.reports = some report →
      ∃ member, entryAbout identity roster.members = some member ∧
        report.heartbeat ≤ member.heartbeat)
    (now : Instant) :
    roster.merge digest now = (roster, []) := by
  have merges := mergeMembers_merges now rosterAscending digestAscending
  have unmoved : ∀ identity,
      entryAbout identity (mergeMembers now roster.members digest.reports).1 =
          entryAbout identity roster.members ∧
        entryAbout identity (mergeMembers now roster.members digest.reports).2 = none := by
    intro identity
    cases reported : entryAbout identity digest.reports with
    | none =>
        rw [merges.entryAbout_members, merges.entryAbout_changes, reported]
        exact ⟨mergedEntry_none_right now _, mergedChange_none_right _⟩
    | some report =>
        obtain ⟨member, held, notNewer⟩ := stale identity report reported
        rw [held]
        refine entryAbout_merge_of_stale rosterAscending digestAscending held ?_ now
        intro other equal
        rw [reported, Option.some.injEq] at equal
        exact equal ▸ notNewer
  have members := merges.members_ascending.eq_of_entryAbout_eq rosterAscending
    fun identity => (unmoved identity).1
  have changes := merges.changes_ascending.eq_of_entryAbout_eq ascending_nil
    fun identity => (unmoved identity).2
  rw [merge, members, changes]

end Roster
end GossipGroup
