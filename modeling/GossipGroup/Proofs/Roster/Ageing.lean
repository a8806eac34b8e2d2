import GossipGroup.Proofs.Ascending

/-!
# Ageing, one member at a time

Ageing treats every entry by itself, so an aged roster and the changes it tells
are what a function of one entry gives for each. It fails exactly when the
node's own heartbeat is the greatest there is.
-/

namespace GossipGroup
namespace Roster

/-- What ageing leaves of an entry, unless it evicts it. -/
def agedEntry (roster : Roster) (now : Instant) (member : Member) : Option Member :=
  if member.identity.same roster.self then
    some ⟨roster.self, member.heartbeat + 1, now, .alive⟩
  else if roster.cleanupTimeout < member.silence now then none
  else if roster.failTimeout < member.silence now ∧ member.isAlive then
    some { member with status := .failed }
  else some member

/-- The change that ageing tells about an entry. -/
def agedChange (roster : Roster) (now : Instant) (member : Member) : Option Change :=
  if member.identity.same roster.self then none
  else if roster.cleanupTimeout < member.silence now then
    some ⟨member.identity, .evicted⟩
  else if roster.failTimeout < member.silence now ∧ member.isAlive then
    some ⟨member.identity, .failed⟩
  else none

/-- The roster after every entry has aged. -/
def aged (roster : Roster) (now : Instant) : Roster :=
  { roster with members := roster.members.filterMap (roster.agedEntry now) }

@[simp] theorem self_aged (roster : Roster) (now : Instant) :
    (roster.aged now).self = roster.self := rfl

/-- The changes that ageing tells. -/
def agedChanges (roster : Roster) (now : Instant) : List Change :=
  roster.members.filterMap (roster.agedChange now)

/-- No entry of the node itself has the greatest heartbeat. -/
def CanBeat (roster : Roster) : Prop :=
  ∀ member ∈ roster.members, member.identity.same roster.self = true →
    member.heartbeat ≠ greatestHeartbeat

/-- What can become of an entry that ages, with the change that is told. -/
inductive Fate (roster : Roster) (now : Instant) (member : Member) : Prop
  /-- The node renews the entry about itself. -/
  | renewed
      (own : member.identity.same roster.self = true)
      (entry : roster.agedEntry now member =
        some ⟨roster.self, member.heartbeat + 1, now, .alive⟩)
      (change : roster.agedChange now member = none)
  /-- Another has been silent for longer than the cleanup timeout. -/
  | evicted
      (other : member.identity.same roster.self = false)
      (long : roster.cleanupTimeout < member.silence now)
      (entry : roster.agedEntry now member = none)
      (change : roster.agedChange now member = some ⟨member.identity, .evicted⟩)
  /-- Another that is alive has been silent for longer than the fail timeout. -/
  | failed
      (other : member.identity.same roster.self = false)
      (short : member.silence now ≤ roster.cleanupTimeout)
      (long : roster.failTimeout < member.silence now)
      (alive : member.status = .alive)
      (entry : roster.agedEntry now member = some { member with status := .failed })
      (change : roster.agedChange now member = some ⟨member.identity, .failed⟩)
  /-- Nothing changes about another. -/
  | kept
      (other : member.identity.same roster.self = false)
      (short : member.silence now ≤ roster.cleanupTimeout)
      (fresh : member.status = .alive → member.silence now ≤ roster.failTimeout)
      (entry : roster.agedEntry now member = some member)
      (change : roster.agedChange now member = none)

/-- There is nothing else that ageing can make of an entry. -/
theorem fate (roster : Roster) (now : Instant) (member : Member) :
    roster.Fate now member := by
  cases own : member.identity.same roster.self with
  | true =>
      apply Fate.renewed own
      · rw [agedEntry, if_pos own]
      · rw [agedChange, if_pos own]
  | false =>
      have other : ¬member.identity.same roster.self = true := by
        rw [own]
        exact Bool.false_ne_true
      by_cases long : roster.cleanupTimeout < member.silence now
      · apply Fate.evicted own long
        · rw [agedEntry, if_neg other, if_pos long]
        · rw [agedChange, if_neg other, if_pos long]
      · have short := Nat.le_of_not_lt long
        by_cases fails : roster.failTimeout < member.silence now ∧ member.isAlive
        · apply Fate.failed own short fails.1 (beq_iff_eq.mp fails.2)
          · rw [agedEntry, if_neg other, if_neg long, if_pos fails]
          · rw [agedChange, if_neg other, if_neg long, if_pos fails]
        · apply Fate.kept own short
          · intro alive
            exact Nat.le_of_not_lt fun silent => fails ⟨silent, beq_iff_eq.mpr alive⟩
          · rw [agedEntry, if_neg other, if_neg long, if_neg fails]
          · rw [agedChange, if_neg other, if_neg long, if_neg fails]

theorem judge_eq
    (roster : Roster)
    (now : Instant)
    (member : Member)
    (rest : Revision)
    (other : member.identity.same roster.self = false) :
    judge roster.failTimeout roster.cleanupTimeout now member rest =
      ((roster.agedEntry now member).toList ++ rest.1,
        (roster.agedChange now member).toList ++ rest.2) := by
  unfold judge agedEntry agedChange
  rw [other]
  split
  · simp
  · split <;> simp [Revision.cons]

theorem ageMembers_eq_ok
    (roster : Roster)
    (now : Instant)
    (members : List Member)
    (canBeat : ∀ member ∈ members, member.identity.same roster.self = true →
      member.heartbeat ≠ greatestHeartbeat) :
    ageMembers roster.self roster.failTimeout roster.cleanupTimeout now members =
      .ok (members.filterMap (roster.agedEntry now),
        members.filterMap (roster.agedChange now)) := by
  induction members with
  | nil => rfl
  | cons member members inductionHypothesis =>
      have restOk := inductionHypothesis
        fun later present => canBeat later (List.mem_cons_of_mem member present)
      rw [ageMembers, restOk]
      cases own : member.identity.same roster.self with
      | true =>
          have heartbeat := canBeat member List.mem_cons_self own
          simp [beat, heartbeat, Except.map, Revision.cons,
            agedEntry, agedChange, own]
      | false =>
          simp only [Bool.false_eq_true, if_false, Except.map]
          rw [judge_eq roster now member _ own, List.filterMap_cons, List.filterMap_cons]
          cases roster.agedEntry now member <;> cases roster.agedChange now member <;> rfl

theorem ageMembers_eq_error
    (roster : Roster)
    (now : Instant)
    (members : List Member)
    {own : Member}
    (present : own ∈ members)
    (same : own.identity.same roster.self = true)
    (greatest : own.heartbeat = greatestHeartbeat) :
    ageMembers roster.self roster.failTimeout roster.cleanupTimeout now members =
      .error .heartbeatOverflow := by
  induction members with
  | nil => contradiction
  | cons member members inductionHypothesis =>
      rw [ageMembers]
      rcases List.mem_cons.mp present with equal | inRest
      · rw [← equal, if_pos same, beat, if_pos greatest]
      · rw [inductionHypothesis inRest]
        split
        · cases beat roster.self now member with
          | error error =>
              cases error
              rfl
          | ok renewed => rfl
        · rfl

/-- Ageing succeeds exactly when the node's heartbeat can be counted up, and
then does what is said of each entry. -/
theorem age_eq_ok_iff
    {roster : Roster}
    {now : Instant}
    {result : Roster × List Change} :
    roster.age now = .ok result ↔
      roster.CanBeat ∧ result = (roster.aged now, roster.agedChanges now) := by
  constructor
  · intro succeeded
    by_cases canBeat : roster.CanBeat
    · rw [age, ageMembers_eq_ok roster now _ canBeat] at succeeded
      exact ⟨canBeat, (Except.ok.inj succeeded).symm⟩
    · simp only [CanBeat, Classical.not_forall, Classical.not_not] at canBeat
      obtain ⟨member, present, same, greatest⟩ := canBeat
      rw [age, ageMembers_eq_error roster now _ present same greatest] at succeeded
      contradiction
  · rintro ⟨canBeat, rfl⟩
    rw [age, ageMembers_eq_ok roster now _ canBeat]
    rfl

/-- A node can count its heartbeat up unless its own entry has the greatest. -/
theorem canBeat_iff
    {roster : Roster}
    {own : Member}
    (ascending : Ascending roster.members)
    (held : entryAbout roster.self roster.members = some own) :
    roster.CanBeat ↔ own.heartbeat ≠ greatestHeartbeat := by
  constructor
  · exact fun canBeat => canBeat own (mem_of_entryAbout held) (same_of_entryAbout held)
  · intro notGreatest member present same
    have found := ascending.entryAbout_eq_some_iff.mpr ⟨present, same⟩
    rw [held, Option.some.injEq] at found
    rw [← found]
    exact notGreatest

/-- Unless it is the greatest, a heartbeat is counted up by one. -/
theorem toNat_add_one
    {heartbeat : UInt64}
    (notGreatest : heartbeat ≠ greatestHeartbeat) :
    (heartbeat + 1).toNat = heartbeat.toNat + 1 := by
  have different : heartbeat.toNat ≠ greatestHeartbeat.toNat :=
    fun equal => notGreatest (UInt64.toNat_inj.mp equal)
  have bound := heartbeat.toNat_lt
  have greatest : greatestHeartbeat.toNat = 18446744073709551615 := by decide
  rw [UInt64.toNat_add]
  have one : (1 : UInt64).toNat = 1 := by decide
  omega

/-- What an aged roster holds about others it held before, except that live
entries may have failed. -/
theorem mem_aged
    {roster : Roster}
    {now : Instant}
    {member : Member}
    (present : member ∈ (roster.aged now).members) :
    (∃ own ∈ roster.members, own.identity.same roster.self = true ∧
        member = ⟨roster.self, own.heartbeat + 1, now, .alive⟩) ∨
      ∃ held ∈ roster.members, member.identity = held.identity ∧
        member.heartbeat = held.heartbeat ∧ member.refreshedAt = held.refreshedAt ∧
          (member.status = held.status ∨ held.status = .alive ∧ member.status = .failed) := by
  obtain ⟨held, heldPresent, renewed⟩ := List.mem_filterMap.mp present
  cases roster.fate now held with
  | renewed own entry =>
      rw [entry, Option.some.injEq] at renewed
      exact .inl ⟨held, heldPresent, own, renewed.symm⟩
  | evicted _ _ entry =>
      rw [entry] at renewed
      contradiction
  | failed _ _ _ alive entry =>
      rw [entry, Option.some.injEq] at renewed
      rw [← renewed]
      exact .inr ⟨held, heldPresent, rfl, rfl, rfl, .inr ⟨alive, rfl⟩⟩
  | kept _ _ _ entry =>
      rw [entry, Option.some.injEq] at renewed
      rw [← renewed]
      exact .inr ⟨held, heldPresent, rfl, rfl, rfl, .inl rfl⟩

/-- Others that are still alive after ageing have not been silent for long. -/
theorem silence_le_of_mem_aged
    {roster : Roster}
    {now : Instant}
    {member : Member}
    (present : member ∈ (roster.aged now).members)
    (alive : member.status = .alive)
    (other : member.identity.same roster.self = false) :
    member.silence now ≤ roster.failTimeout := by
  obtain ⟨held, -, renewed⟩ := List.mem_filterMap.mp present
  cases roster.fate now held with
  | renewed _ entry =>
      rw [entry, Option.some.injEq] at renewed
      rw [← renewed, Identity.same_refl] at other
      contradiction
  | evicted _ _ entry =>
      rw [entry] at renewed
      contradiction
  | failed _ _ _ _ entry =>
      rw [entry, Option.some.injEq] at renewed
      rw [← renewed] at alive
      contradiction
  | kept _ _ fresh entry =>
      rw [entry, Option.some.injEq] at renewed
      rw [renewed] at fresh
      exact fresh alive

theorem agedEntry_identity
    {roster : Roster}
    {now : Instant}
    {member renewed : Member}
    (left : roster.agedEntry now member = some renewed) :
    renewed.identity.same member.identity = true := by
  cases roster.fate now member with
  | renewed own entry =>
      rw [entry, Option.some.injEq] at left
      rw [← left]
      exact Identity.same_symm own
  | evicted _ _ entry =>
      rw [entry] at left
      contradiction
  | failed _ _ _ _ entry =>
      rw [entry, Option.some.injEq] at left
      rw [← left]
      exact Identity.same_refl _
  | kept _ _ _ entry =>
      rw [entry, Option.some.injEq] at left
      rw [← left]
      exact Identity.same_refl _

/-- Ageing tells of others that they are evicted or have failed, and nothing
else. -/
theorem agedChange_eq_some
    {roster : Roster}
    {now : Instant}
    {member : Member}
    {change : Change}
    (told : roster.agedChange now member = some change) :
    change = ⟨member.identity, .evicted⟩ ∧ roster.agedEntry now member = none ∨
      change = ⟨member.identity, .failed⟩ := by
  cases roster.fate now member with
  | renewed _ _ quiet =>
      rw [quiet] at told
      contradiction
  | evicted _ _ entry evicted =>
      rw [evicted, Option.some.injEq] at told
      exact .inl ⟨told.symm, entry⟩
  | failed _ _ _ _ _ failed =>
      rw [failed, Option.some.injEq] at told
      exact .inr told.symm
  | kept _ _ _ _ quiet =>
      rw [quiet] at told
      contradiction

theorem agedChange_identity
    {roster : Roster}
    {now : Instant}
    {member : Member}
    {change : Change}
    (told : roster.agedChange now member = some change) :
    change.identity.same member.identity = true := by
  obtain ⟨rfl, -⟩ | rfl := agedChange_eq_some told
  · exact Identity.same_refl _
  · exact Identity.same_refl _

/-- Ageing keeps the order of entries. -/
theorem ascending_aged
    {roster : Roster}
    (ascending : Ascending roster.members)
    (now : Instant) :
    Ascending (roster.aged now).members :=
  ascending.filterMap fun _ _ => agedEntry_identity

/-- What an aged roster holds about a member. -/
theorem entryAbout_aged
    {roster : Roster}
    (ascending : Ascending roster.members)
    (now : Instant)
    (identity : Identity) :
    entryAbout identity (roster.aged now).members =
      (entryAbout identity roster.members).bind (roster.agedEntry now) :=
  ascending.entryAbout_filterMap (fun _ _ => agedEntry_identity) identity

/-- The node's own entry after ageing. -/
theorem entryAbout_self_aged
    {roster : Roster}
    {own : Member}
    (ascending : Ascending roster.members)
    (held : entryAbout roster.self roster.members = some own)
    (now : Instant) :
    entryAbout roster.self (roster.aged now).members =
      some ⟨roster.self, own.heartbeat + 1, now, .alive⟩ := by
  have same : own.identity.same roster.self = true := same_of_entryAbout held
  rw [entryAbout_aged ascending, held, Option.bind_some, agedEntry, if_pos same]

/-- Ageing tells its changes in the order of the entries. -/
theorem ascending_agedChanges
    {roster : Roster}
    (ascending : Ascending roster.members)
    (now : Instant) :
    Ascending (roster.agedChanges now) :=
  ascending.filterMap fun _ _ => agedChange_identity

/-- The change that ageing tells about a member. -/
theorem entryAbout_agedChanges
    {roster : Roster}
    (ascending : Ascending roster.members)
    (now : Instant)
    (identity : Identity) :
    entryAbout identity (roster.agedChanges now) =
      (entryAbout identity roster.members).bind (roster.agedChange now) :=
  ascending.entryAbout_filterMap (fun _ _ => agedChange_identity) identity

end Roster
end GossipGroup
