import GossipGroup.Proofs.Roster.Runs

/-!
# Who is alive

A member is alive in a roster if the entry about it says so. It stays alive
until a departure is told, and comes alive again only by a report that says so.
-/

namespace GossipGroup
namespace Roster

/-- The entry about a member is a live one. -/
def IsAlive (roster : Roster) (identity : Identity) : Prop :=
  ∃ member, entryAbout identity roster.members = some member ∧ member.status = .alive

theorem isAlive_congr
    {left right : Identity}
    (same : left.same right = true)
    (roster : Roster) :
    roster.IsAlive left ↔ roster.IsAlive right := by
  rw [IsAlive, IsAlive, entryAbout_congr same]

/-- Members are alive exactly when they are listed as alive. -/
theorem isAlive_iff
    {roster : Roster}
    (ascending : Ascending roster.members)
    {identity : Identity} :
    roster.IsAlive identity ↔ ∃ other ∈ roster.alive, other.same identity = true := by
  simp only [IsAlive, ascending.entryAbout_eq_some_iff, alive, Member.isAlive,
    List.mem_map, List.mem_filter, beq_iff_eq, name_member]
  constructor
  · rintro ⟨member, ⟨present, same⟩, living⟩
    exact ⟨member.identity, ⟨member, ⟨present, living⟩, rfl⟩, same⟩
  · rintro ⟨_, ⟨member, ⟨present, living⟩, rfl⟩, same⟩
    exact ⟨member, ⟨present, same⟩, living⟩

/-- Live members are listed in ascending order. -/
theorem ascending_alive {roster : Roster} (ascending : Ascending roster.members) :
    Ascending roster.alive :=
  List.Pairwise.map Member.identity (fun _ _ before => before) (List.Pairwise.filter _ ascending)

/-- Whoever is not listed as alive is not alive. -/
theorem entryAbout_alive_eq_none_iff
    {roster : Roster}
    (ascending : Ascending roster.members)
    {identity : Identity} :
    entryAbout identity roster.alive = none ↔ ¬roster.IsAlive identity := by
  rw [isAlive_iff ascending, entryAbout_eq_none_iff]
  simp

theorem isAlive_iff_of_alive_eq
    {left right : Roster}
    (leftAscending : Ascending left.members)
    (rightAscending : Ascending right.members)
    (equal : left.alive = right.alive)
    (identity : Identity) :
    left.IsAlive identity ↔ right.IsAlive identity := by
  rw [isAlive_iff leftAscending, isAlive_iff rightAscending, equal]

/-- Whoever is alive stays so in a merge, unless it tells of a departure. -/
theorem isAlive_merge_or_departs
    {roster : Roster}
    {digest : Digest}
    (rosterAscending : Ascending roster.members)
    (digestAscending : Ascending digest.reports)
    (now : Instant)
    {identity : Identity}
    (living : roster.IsAlive identity) :
    (roster.merge digest now).1.IsAlive identity ∨
      ∃ change ∈ (roster.merge digest now).2,
        change.identity.same identity = true ∧ change.transition.isDeparture = true := by
  have merges := mergeMembers_merges now rosterAscending digestAscending
  obtain ⟨member, held, alive⟩ := living
  have entry := merges.entryAbout_members identity
  have change := merges.entryAbout_changes identity
  rw [held] at entry change
  cases encounter now (some member) (entryAbout identity digest.reports) with
  | unmoved _ kept => exact .inl ⟨member, entry.trans kept, alive⟩
  | joined absent => contradiction
  | @replaced _ report same _ _ replaced told =>
      obtain rfl := Option.some.inj same
      by_cases reportedAlive : report.status = .alive
      · exact .inl ⟨report.memberAt now, entry.trans replaced, reportedAlive⟩
      · rw [told, alive, if_neg reportedAlive] at change
        exact .inr ⟨_, mem_of_entryAbout change, same_of_entryAbout change,
          Transition.isDeparture_into reportedAlive⟩

/-- Whoever is alive stays so when the roster ages, unless a departure is
told. -/
theorem isAlive_aged_or_departs
    {roster : Roster}
    (ascending : Ascending roster.members)
    (now : Instant)
    {identity : Identity}
    (living : roster.IsAlive identity) :
    (roster.aged now).IsAlive identity ∨
      ∃ change ∈ roster.agedChanges now,
        change.identity.same identity = true ∧ change.transition.isDeparture = true := by
  obtain ⟨member, held, alive⟩ := living
  have entry := entryAbout_aged ascending now identity
  have change := entryAbout_agedChanges ascending now identity
  rw [held, Option.bind_some] at entry change
  cases roster.fate now member with
  | renewed _ renewed =>
      rw [renewed] at entry
      exact .inl ⟨_, entry, rfl⟩
  | evicted _ _ _ evicted =>
      rw [evicted] at change
      exact .inr ⟨_, mem_of_entryAbout change, same_of_entryAbout change, rfl⟩
  | failed _ _ _ _ _ failed =>
      rw [failed] at change
      exact .inr ⟨_, mem_of_entryAbout change, same_of_entryAbout change, rfl⟩
  | kept _ _ _ kept =>
      rw [kept] at entry
      exact .inl ⟨member, entry, alive⟩

/-- Whoever is alive stays so in any operation, unless a departure is told. -/
theorem isAlive_or_departs
    {roster next : Roster}
    {operation : Operation}
    {changes : List Change}
    (ascending : Ascending roster.members)
    (applied : roster.apply operation = .ok (next, changes))
    {identity : Identity}
    (living : roster.IsAlive identity) :
    next.IsAlive identity ∨
      ∃ change ∈ changes,
        change.identity.same identity = true ∧ change.transition.isDeparture = true := by
  obtain ⟨digest, now, digestAscending, merged⟩ | same | ⟨now, -, aged⟩ := apply_cases applied
  · obtain ⟨rfl, rfl⟩ := Prod.mk.inj merged
    exact isAlive_merge_or_departs ascending digestAscending now living
  · obtain ⟨rfl, -⟩ := Prod.mk.inj same
    exact .inl living
  · obtain ⟨rfl, rfl⟩ := Prod.mk.inj aged
    exact isAlive_aged_or_departs ascending now living

/-! ## Dead members -/

/-- A member can only come alive in a merge if it is reported alive. -/
theorem reportedAlive_of_isAlive_merge
    {roster : Roster}
    {digest : Digest}
    {now : Instant}
    {identity : Identity}
    (rosterAscending : Ascending roster.members)
    (digestAscending : Ascending digest.reports)
    (dead : ¬roster.IsAlive identity)
    (living : (roster.merge digest now).1.IsAlive identity) :
    ∃ report, entryAbout identity digest.reports = some report ∧ report.status = .alive := by
  obtain ⟨member, entry, alive⟩ := living
  rw [members_merge,
    (mergeMembers_merges now rosterAscending digestAscending).entryAbout_members] at entry
  cases encounter now (entryAbout identity roster.members)
      (entryAbout identity digest.reports) with
  | unmoved _ kept => exact absurd ⟨member, kept.symm.trans entry, alive⟩ dead
  | joined _ reported reportedAlive => exact ⟨_, reported, reportedAlive⟩
  | replaced _ reported _ replaced =>
      rw [replaced, Option.some.injEq] at entry
      rw [← entry] at alive
      exact ⟨_, reported, alive⟩

/-- A member is told to join only if it is reported alive. -/
theorem reportedAlive_of_joined
    {roster : Roster}
    {digest : Digest}
    {now : Instant}
    {change : Change}
    (rosterAscending : Ascending roster.members)
    (digestAscending : Ascending digest.reports)
    (told : change ∈ (roster.merge digest now).2)
    (joined : change.transition = .joined) :
    ∃ report, entryAbout change.identity digest.reports = some report ∧
      report.status = .alive := by
  have merges := mergeMembers_merges now rosterAscending digestAscending
  have found := merges.changes_ascending.entryAbout_of_mem told
  rw [merges.entryAbout_changes] at found
  cases encounter now (entryAbout change.identity roster.members)
      (entryAbout change.identity digest.reports) with
  | unmoved _ _ quiet => exact nomatch quiet.symm.trans found
  | joined _ reported alive => exact ⟨_, reported, alive⟩
  | replaced _ reported _ _ into =>
      have news := into.symm.trans found
      rw [Option.ite_none_left_eq_some, Option.some.injEq] at news
      rw [← news.2] at joined
      exact ⟨_, reported, Transition.eq_alive_of_into_eq_joined joined⟩

/-- A member that is not held and reported alive is told to join. -/
theorem joined_of_reportedAlive
    {roster : Roster}
    {digest : Digest}
    {identity : Identity}
    {report : Report}
    (rosterAscending : Ascending roster.members)
    (digestAscending : Ascending digest.reports)
    (unknown : entryAbout identity roster.members = none)
    (reported : entryAbout identity digest.reports = some report)
    (alive : report.status = .alive)
    (now : Instant) :
    ∃ change ∈ (roster.merge digest now).2,
      change.identity.same identity = true ∧ change.transition = .joined := by
  have change := (mergeMembers_merges now rosterAscending digestAscending).entryAbout_changes
    identity
  simp only [unknown, reported, mergedChange, alive, if_true] at change
  exact ⟨_, mem_of_entryAbout change, same_of_entryAbout change, rfl⟩

/-- Ageing makes nobody alive but the node itself. -/
theorem isAlive_of_isAlive_aged
    {roster : Roster}
    {now : Instant}
    {identity : Identity}
    (ascending : Ascending roster.members)
    (other : roster.self.same identity = false)
    (living : (roster.aged now).IsAlive identity) :
    roster.IsAlive identity := by
  obtain ⟨member, entry, alive⟩ := living
  have found := mem_of_entryAbout entry
  have same : member.identity.same identity = true := same_of_entryAbout entry
  rcases mem_aged found with ⟨own, present, -, rfl⟩ | ⟨held, present, named, -, -, status⟩
  · rw [other] at same
    contradiction
  · rw [named] at same
    refine ⟨held, ascending.entryAbout_eq_some_iff.mpr ⟨present, same⟩, ?_⟩
    rcases status with unchanged | ⟨wasAlive, -⟩
    · rw [← unchanged]
      exact alive
    · exact wasAlive

/-- No joining is told when a roster ages. -/
theorem not_joined_of_mem_agedChanges
    {roster : Roster}
    {now : Instant}
    {change : Change}
    (told : change ∈ roster.agedChanges now) :
    change.transition ≠ .joined := by
  obtain ⟨member, -, memberTold⟩ := List.mem_filterMap.mp told
  obtain ⟨rfl, -⟩ | rfl := agedChange_eq_some memberTold
  · exact nofun
  · exact nofun

/-- Who is told to be evicted is gone. -/
theorem entryAbout_eq_none_of_evicted
    {roster : Roster}
    {now : Instant}
    {identity : Identity}
    (ascending : Ascending roster.members)
    (told : ⟨identity, .evicted⟩ ∈ roster.agedChanges now) :
    entryAbout identity (roster.aged now).members = none := by
  obtain ⟨member, present, memberTold⟩ := List.mem_filterMap.mp told
  have same : member.identity.same identity = true :=
    Identity.same_symm (agedChange_identity memberTold)
  rw [entryAbout_aged ascending, ascending.entryAbout_eq_some_iff.mpr ⟨present, same⟩,
    Option.bind_some]
  rcases agedChange_eq_some memberTold with ⟨-, gone⟩ | failed
  · exact gone
  · rw [Change.mk.injEq] at failed
    exact nomatch failed.2

/-- A roster shares of a member what it holds, alive if it holds it alive. -/
theorem isAlive_iff_shared
    {roster : Roster}
    (ascending : Ascending roster.members)
    (now : Instant)
    (identity : Identity) :
    roster.IsAlive identity ↔
      ∃ report, entryAbout identity (roster.shared now).reports = some report ∧
        report.status = .alive := by
  rw [entryAbout_shared ascending]
  constructor
  · rintro ⟨member, held, alive⟩
    refine ⟨member.report, ?_, alive⟩
    rw [held, Option.bind_some, sharedReport, if_pos]
    rw [isShared, alive]
  · rintro ⟨report, shared, alive⟩
    obtain ⟨member, held, sharedMember⟩ := Option.bind_eq_some_iff.mp shared
    refine ⟨member, held, ?_⟩
    unfold sharedReport at sharedMember
    split at sharedMember
    · rw [← alive, ← Option.some.inj sharedMember]
      rfl
    · contradiction

end Roster
end GossipGroup
