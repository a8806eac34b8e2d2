import GossipGroup.Proofs.Roster.Living

/-!
# Leave notices and gossip that is still on its way

The notice of a node that leaves has a heartbeat ahead of everything that was
gossiped about it. Whoever holds the node, in any condition, therefore records
that it left, whether older gossip comes before the notice or after it, and
until the node is evicted no older gossip changes that. Whoever does not hold
the node passes the notice over, and takes it for a newcomer when older gossip
comes afterwards.
-/

namespace GossipGroup

/-- A digest recalls a member as alive, with a heartbeat up to a given one. -/
structure Digest.Recalls
    (digest : Digest)
    (identity : Identity)
    (heartbeat : UInt64) : Prop where
  ascending : Digest.ascending digest.reports = true
  report : ∃ report ∈ digest.reports, report.identity.same identity = true ∧
    report.status = .alive ∧ report.heartbeat ≤ heartbeat

/-- What such a digest reports about the member. -/
theorem Digest.Recalls.entryAbout
    {digest : Digest}
    {identity : Identity}
    {heartbeat : UInt64}
    (recalls : digest.Recalls identity heartbeat) :
    ∃ report, GossipGroup.entryAbout identity digest.reports = some report ∧
      report.status = .alive ∧ report.heartbeat ≤ heartbeat := by
  obtain ⟨report, told, same, alive, notAhead⟩ := recalls.report
  have ascending := Digest.ascending_iff.mp recalls.ascending
  exact ⟨report, ascending.entryAbout_eq_some_iff.mpr ⟨told, same⟩, alive, notAhead⟩

namespace Roster

/-- A roster after several operations, and all changes that were told on the
way. -/
def history (roster : Roster) : List Operation → Except AgeError (Roster × List Change)
  | [] => .ok (roster, [])
  | operation :: operations =>
      match roster.apply operation with
      | .error error => .error error
      | .ok (next, changes) =>
          match next.history operations with
          | .error error => .error error
          | .ok (last, later) => .ok (last, changes ++ later)

/-- A history without its changes is a run. -/
theorem map_history (roster : Roster) (operations : List Operation) :
    (roster.history operations).map (·.1) = roster.run operations := by
  induction operations generalizing roster with
  | nil => rfl
  | cons operation operations inductionHypothesis =>
      rw [history, run]
      cases roster.apply operation with
      | error error => rfl
      | ok result =>
          simp only [← inductionHypothesis]
          cases result.1.history operations <;> rfl

/-- The first of several operations, and the rest. -/
theorem history_cons_eq_ok
    {roster last : Roster}
    {operation : Operation}
    {operations : List Operation}
    {changes : List Change}
    (passed : roster.history (operation :: operations) = .ok (last, changes)) :
    ∃ next told later, roster.apply operation = .ok (next, told) ∧
      next.history operations = .ok (last, later) ∧ changes = told ++ later := by
  rw [history] at passed
  split at passed
  · contradiction
  · rename_i next told applied
    split at passed
    · contradiction
    · rename_i final later passedRest
      obtain ⟨rfl, rfl⟩ := Prod.mk.inj (Except.ok.inj passed)
      exact ⟨next, told, later, applied, passedRest, rfl⟩

/-! ## Heartbeats of members that stay -/

/-- What is held about a member, with a heartbeat from a given one on. -/
def HoldsFrom (roster : Roster) (identity : Identity) (heartbeat : UInt64) : Prop :=
  ∃ member, entryAbout identity roster.members = some member ∧ heartbeat ≤ member.heartbeat

theorem HoldsFrom.merge
    {roster : Roster}
    {digest : Digest}
    {identity : Identity}
    {heartbeat : UInt64}
    (holds : roster.HoldsFrom identity heartbeat)
    (rosterAscending : Ascending roster.members)
    (digestAscending : Ascending digest.reports)
    (now : Instant) :
    (roster.merge digest now).1.HoldsFrom identity heartbeat := by
  obtain ⟨member, held, notBefore⟩ := holds
  have entry := (mergeMembers_merges now rosterAscending digestAscending).entryAbout_members
    identity
  rw [held] at entry
  cases encounter now (some member) (entryAbout identity digest.reports) with
  | unmoved _ kept => exact ⟨member, entry.trans kept, notBefore⟩
  | joined unknown => contradiction
  | replaced known _ newer replaced =>
      obtain rfl := Option.some.inj known
      exact ⟨_, entry.trans replaced, UInt64.le_trans notBefore (UInt64.le_of_lt newer)⟩

/-- Ageing changes no heartbeat but the node's own. -/
theorem HoldsFrom.aged_or_evicted
    {roster : Roster}
    {identity : Identity}
    {heartbeat : UInt64}
    (holds : roster.HoldsFrom identity heartbeat)
    (ascending : Ascending roster.members)
    (other : roster.self.same identity = false)
    (now : Instant) :
    (roster.aged now).HoldsFrom identity heartbeat ∨
      ∃ change ∈ roster.agedChanges now,
        change.identity.same identity = true ∧ change.transition = .evicted := by
  obtain ⟨member, held, notBefore⟩ := holds
  have entry := entryAbout_aged ascending now identity
  have change := entryAbout_agedChanges ascending now identity
  rw [held, Option.bind_some] at entry change
  cases roster.fate now member with
  | renewed own => exact nomatch own.symm.trans (same_eq_false_of_entryAbout held other)
  | evicted _ _ _ evicted =>
      rw [evicted] at change
      exact .inr ⟨_, mem_of_entryAbout change, same_of_entryAbout change, rfl⟩
  | failed _ _ _ _ failed =>
      rw [failed] at entry
      exact .inl ⟨_, entry, notBefore⟩
  | kept _ _ _ kept =>
      rw [kept] at entry
      exact .inl ⟨_, entry, notBefore⟩

/-- In no operation does the heartbeat of another member fall, unless it is told
to be evicted. -/
theorem HoldsFrom.apply_or_evicted
    {roster next : Roster}
    {operation : Operation}
    {changes : List Change}
    {identity : Identity}
    {heartbeat : UInt64}
    (holds : roster.HoldsFrom identity heartbeat)
    (ascending : Ascending roster.members)
    (other : roster.self.same identity = false)
    (applied : roster.apply operation = .ok (next, changes)) :
    next.HoldsFrom identity heartbeat ∨
      ∃ change ∈ changes,
        change.identity.same identity = true ∧ change.transition = .evicted := by
  obtain ⟨digest, now, digestAscending, merged⟩ | same | ⟨now, -, aged⟩ := apply_cases applied
  · obtain ⟨rfl, rfl⟩ := Prod.mk.inj merged
    exact .inl (holds.merge ascending digestAscending now)
  · obtain ⟨rfl, -⟩ := Prod.mk.inj same
    exact .inl holds
  · obtain ⟨rfl, rfl⟩ := Prod.mk.inj aged
    exact holds.aged_or_evicted ascending other now

/-- However long a history is, the heartbeat of another member does not fall in
it unless the member is told to be evicted. -/
theorem HoldsFrom.history
    {roster last : Roster}
    {operations : List Operation}
    {changes : List Change}
    {identity : Identity}
    {heartbeat : UInt64}
    (holds : roster.HoldsFrom identity heartbeat)
    (wellFormed : roster.WellFormed)
    (other : roster.self.same identity = false)
    (passed : roster.history operations = .ok (last, changes))
    (stayed : ∀ change ∈ changes, change.identity.same identity = true →
      change.transition ≠ .evicted) :
    last.WellFormed ∧ last.HoldsFrom identity heartbeat := by
  induction operations generalizing roster changes with
  | nil =>
      obtain ⟨rfl, -⟩ := Prod.mk.inj (Except.ok.inj passed)
      exact ⟨wellFormed, holds⟩
  | cons operation operations inductionHypothesis =>
      obtain ⟨next, told, later, applied, passedRest, rfl⟩ := history_cons_eq_ok passed
      obtain ⟨nextWellFormed, sameSelf⟩ := wellFormed.apply applied
      rcases holds.apply_or_evicted wellFormed.ascending other applied with
        stillHolds | ⟨change, changeTold, same, evicted⟩
      · refine inductionHypothesis stillHolds nextWellFormed (sameSelf ▸ other) passedRest ?_
        exact fun change present => stayed change (List.mem_append_right _ present)
      · exact absurd evicted (stayed change (List.mem_append_left _ changeTold) same)

/-! ## The notice -/

theorem entryAbout_leaveNotice (leaver : Roster) (margin : UInt64) :
    entryAbout leaver.self (leaver.leaveNotice margin).reports =
      some ⟨leaver.self, raised leaver.ownHeartbeat margin, .left⟩ := by
  rw [leaveNotice, entryAbout_cons, name_report, if_pos (Identity.same_refl _)]

/-- Whoever holds a member records its notice, if that is ahead. -/
theorem entryAbout_merge_leaveNotice
    {observer leaver : Roster}
    {margin : UInt64}
    {member : Member}
    (ascending : Ascending observer.members)
    (held : entryAbout leaver.self observer.members = some member)
    (ahead : member.heartbeat < raised leaver.ownHeartbeat margin)
    (now : Instant) :
    entryAbout leaver.self (observer.merge (leaver.leaveNotice margin) now).1.members =
      some ⟨leaver.self, raised leaver.ownHeartbeat margin, now, .left⟩ :=
  entryAbout_merge_of_newer ascending (ascending_leaveNotice leaver margin) held
    (entryAbout_leaveNotice leaver margin) ahead now

/-- Whoever does not hold a member passes its notice over. -/
theorem entryAbout_merge_leaveNotice_of_unknown
    {observer leaver : Roster}
    (ascending : Ascending observer.members)
    (unknown : entryAbout leaver.self observer.members = none)
    (margin : UInt64)
    (now : Instant) :
    entryAbout leaver.self (observer.merge (leaver.leaveNotice margin) now).1.members = none := by
  rw [members_merge, (mergeMembers_merges now ascending
    (ascending_leaveNotice leaver margin)).entryAbout_members, unknown, entryAbout_leaveNotice]
  rfl

/-- A digest that recalls a member as alive is no news to whoever holds it with a
greater heartbeat. -/
theorem entryAbout_merge_of_recalls
    {observer : Roster}
    {digest : Digest}
    {identity : Identity}
    {heartbeat : UInt64}
    {member : Member}
    (ascending : Ascending observer.members)
    (recalls : digest.Recalls identity heartbeat)
    (held : entryAbout identity observer.members = some member)
    (ahead : heartbeat ≤ member.heartbeat)
    (now : Instant) :
    entryAbout identity (observer.merge digest now).1.members = some member := by
  obtain ⟨report, reported, -, notAhead⟩ := recalls.entryAbout
  refine (entryAbout_merge_of_stale ascending (Digest.ascending_iff.mp recalls.ascending) held
    (fun other found => ?_) now).1
  rw [reported, Option.some.injEq] at found
  rw [← found]
  exact UInt64.le_trans notAhead ahead

/-- Whoever hears a digest that recalls a member as alive holds the member
afterwards, with no greater heartbeat if it held none before. -/
theorem heartbeat_le_of_merge_recalls
    {observer : Roster}
    {digest : Digest}
    {identity : Identity}
    {heartbeat : UInt64}
    (ascending : Ascending observer.members)
    (recalls : digest.Recalls identity heartbeat)
    (behind : ∀ member, entryAbout identity observer.members = some member →
      member.heartbeat ≤ heartbeat)
    (now : Instant) :
    ∃ member, entryAbout identity (observer.merge digest now).1.members = some member ∧
      member.heartbeat ≤ heartbeat ∧
        (entryAbout identity observer.members = none → member.status = .alive) := by
  obtain ⟨report, reported, alive, notAhead⟩ := recalls.entryAbout
  rw [members_merge, (mergeMembers_merges now ascending
    (Digest.ascending_iff.mp recalls.ascending)).entryAbout_members, reported]
  cases held : entryAbout identity observer.members with
  | none => exact ⟨report.memberAt now, if_pos alive, notAhead, fun _ => alive⟩
  | some member =>
      rw [mergedEntry]
      split
      · exact ⟨report.memberAt now, rfl, notAhead,
          fun unknown => absurd unknown (Option.some_ne_none member)⟩
      · exact ⟨member, rfl, behind member held,
          fun unknown => absurd unknown (Option.some_ne_none member)⟩

/-- Gossip that recalls a member as alive changes nothing about it for as long as
the member is held from a heartbeat on that is ahead, and is not evicted. -/
theorem HoldsFrom.find?_merge_after_history
    {roster last : Roster}
    {operations : List Operation}
    {changes : List Change}
    {late : Digest}
    {identity : Identity}
    {heartbeat ahead : UInt64}
    (holds : roster.HoldsFrom identity ahead)
    (wellFormed : roster.WellFormed)
    (other : roster.self.same identity = false)
    (notAhead : heartbeat ≤ ahead)
    (passed : roster.history operations = .ok (last, changes))
    (stayed : ∀ change ∈ changes, change.identity.same identity = true →
      change.transition ≠ .evicted)
    (recalls : late.Recalls identity heartbeat)
    (now : Instant) :
    (last.merge late now).1.find? identity = last.find? identity := by
  obtain ⟨lastWellFormed, member, held, notBefore⟩ :=
    holds.history wellFormed other passed stayed
  have merged := lastWellFormed.merge (Digest.ascending_iff.mp recalls.ascending) now
  rw [find?_eq_entryAbout merged.ascending, find?_eq_entryAbout lastWellFormed.ascending, held]
  exact entryAbout_merge_of_recalls lastWellFormed.ascending recalls held
    (UInt64.le_trans notAhead notBefore) now

theorem not_isAlive_of_left
    {roster : Roster}
    {identity : Identity}
    {member : Member}
    (held : entryAbout identity roster.members = some member)
    (gone : member.status = .left) :
    ¬roster.IsAlive identity := by
  rintro ⟨other, found, alive⟩
  rw [held, Option.some.injEq] at found
  rw [← found, gone] at alive
  contradiction

/-! ## Notice and gossip in either order -/

/-- A node leaves that an observer does not hold with a greater heartbeat than
its own, and its notice is ahead of that. -/
structure Parting (observer leaver : Roster) (margin : UInt64) : Prop where
  wellFormed : observer.WellFormed
  other : observer.self.same leaver.self = false
  behind : ∀ member, entryAbout leaver.self observer.members = some member →
    member.heartbeat ≤ leaver.ownHeartbeat
  ahead : leaver.ownHeartbeat < raised leaver.ownHeartbeat margin

namespace Parting

variable {observer leaver : Roster} {margin : UInt64} {digest : Digest}

/-- Whatever the observer held, it records the notice after older gossip. -/
theorem entryAbout_digest_first
    (parting : Parting observer leaver margin)
    (recalls : digest.Recalls leaver.self leaver.ownHeartbeat)
    (noticeAt digestAt : Instant) :
    entryAbout leaver.self
        ((observer.merge digest digestAt).1.merge (leaver.leaveNotice margin) noticeAt).1.members =
      some ⟨leaver.self, raised leaver.ownHeartbeat margin, noticeAt, .left⟩ := by
  have afterDigest :=
    parting.wellFormed.merge (Digest.ascending_iff.mp recalls.ascending) digestAt
  obtain ⟨member, held, notAhead, -⟩ := heartbeat_le_of_merge_recalls
    parting.wellFormed.ascending recalls parting.behind digestAt
  exact entryAbout_merge_leaveNotice afterDigest.ascending held
    (UInt64.lt_of_le_of_lt notAhead parting.ahead) noticeAt

/-- An observer that holds the leaver keeps the notice when older gossip comes
afterwards. -/
theorem entryAbout_notice_first
    {member : Member}
    (parting : Parting observer leaver margin)
    (held : entryAbout leaver.self observer.members = some member)
    (recalls : digest.Recalls leaver.self leaver.ownHeartbeat)
    (noticeAt digestAt : Instant) :
    entryAbout leaver.self
        ((observer.merge (leaver.leaveNotice margin) noticeAt).1.merge digest digestAt).1.members =
      some ⟨leaver.self, raised leaver.ownHeartbeat margin, noticeAt, .left⟩ := by
  have afterNotice := parting.wellFormed.merge (ascending_leaveNotice leaver margin) noticeAt
  refine entryAbout_merge_of_recalls afterNotice.ascending recalls ?_
    (UInt64.le_of_lt parting.ahead) digestAt
  exact entryAbout_merge_leaveNotice parting.wellFormed.ascending held
    (UInt64.lt_of_le_of_lt (parting.behind member held) parting.ahead) noticeAt

/-- To an observer that does not hold the leaver the notice says nothing, and
older gossip brings a newcomer. -/
theorem isAlive_notice_first_of_unknown
    (parting : Parting observer leaver margin)
    (unknown : entryAbout leaver.self observer.members = none)
    (recalls : digest.Recalls leaver.self leaver.ownHeartbeat)
    (noticeAt digestAt : Instant) :
    ((observer.merge (leaver.leaveNotice margin) noticeAt).1.merge digest digestAt).1.IsAlive
      leaver.self := by
  have afterNotice := parting.wellFormed.merge (ascending_leaveNotice leaver margin) noticeAt
  have passedOver := entryAbout_merge_leaveNotice_of_unknown parting.wellFormed.ascending
    unknown margin noticeAt
  obtain ⟨member, held, -, alive⟩ := heartbeat_le_of_merge_recalls afterNotice.ascending
    recalls (fun member held => nomatch passedOver.symm.trans held) digestAt
  exact ⟨member, held, alive passedOver⟩

/-- With the notice first, the leaver is not held alive exactly if it was held
before. -/
theorem not_isAlive_notice_first_iff
    (parting : Parting observer leaver margin)
    (recalls : digest.Recalls leaver.self leaver.ownHeartbeat)
    (noticeAt digestAt : Instant) :
    ¬((observer.merge (leaver.leaveNotice margin) noticeAt).1.merge digest digestAt).1.IsAlive
        leaver.self ↔
      ∃ member, entryAbout leaver.self observer.members = some member := by
  constructor
  · intro dead
    refine Option.ne_none_iff_exists'.mp fun unknown => dead ?_
    exact parting.isAlive_notice_first_of_unknown unknown recalls noticeAt digestAt
  · rintro ⟨member, held⟩
    exact not_isAlive_of_left
      (parting.entryAbout_notice_first held recalls noticeAt digestAt) rfl

end Parting

/-- A node leaves, and somebody else hears its notice and older gossip that has
the node alive. If the gossip comes first, the node is not held alive in the
end. If the notice comes first, it is not held alive exactly if it was held
before. Where it is not held alive, no such gossip changes what is held about it
until it is told to be evicted, whatever else happens. -/
theorem leave_prevails_iff_held
    {observerSelf leaverSelf : Identity}
    {observerFail observerCleanup leaverFail leaverCleanup : Span}
    {observerStart leaverStart : Instant}
    {observed lived : List Operation}
    {observer leaver : Roster}
    (observerRan : (founding observerSelf observerFail observerCleanup observerStart).run
      observed = .ok observer)
    (leaverRan : (founding leaverSelf leaverFail leaverCleanup leaverStart).run
      lived = .ok leaver)
    (other : observerSelf.same leaverSelf = false)
    {margin : UInt64}
    (positive : 1 ≤ margin)
    (unsaturated : leaver.ownHeartbeat.toNat + margin.toNat < UInt64.size)
    (behind : ∀ member, observer.find? leaverSelf = some member →
      member.heartbeat ≤ leaver.ownHeartbeat)
    {digest : Digest}
    (recalls : digest.Recalls leaverSelf leaver.ownHeartbeat)
    (noticeAt digestAt : Instant) :
    let notice := leaver.leaveNotice margin
    let digestFirst := ((observer.merge digest digestAt).1.merge notice noticeAt).1
    let noticeFirst := ((observer.merge notice noticeAt).1.merge digest digestAt).1
    ¬digestFirst.IsAlive leaverSelf ∧
    (¬noticeFirst.IsAlive leaverSelf ↔ ∃ member, observer.find? leaverSelf = some member) ∧
    ∀ parted, parted = digestFirst ∨ parted = noticeFirst → ¬parted.IsAlive leaverSelf →
      ∀ operations last changes, parted.history operations = .ok (last, changes) →
        (∀ change ∈ changes, change.identity.same leaverSelf = true →
          change.transition ≠ .evicted) →
        ∀ late : Digest, late.Recalls leaverSelf leaver.ownHeartbeat → ∀ now,
          (last.merge late now).1.find? leaverSelf = last.find? leaverSelf := by
  intro notice digestFirst noticeFirst
  obtain ⟨wellFormed, observerSame⟩ :=
    (wellFormed_founding observerSelf observerFail observerCleanup observerStart).run observerRan
  obtain ⟨-, leaverSame⟩ :=
    (wellFormed_founding leaverSelf leaverFail leaverCleanup leaverStart).run leaverRan
  rw [self_founding] at observerSame leaverSame
  subst leaverSame
  rw [← observerSame] at other
  rw [find?_eq_entryAbout wellFormed.ascending] at behind ⊢
  have ahead : leaver.ownHeartbeat < raised leaver.ownHeartbeat margin := by
    rw [UInt64.lt_iff_toNat_lt, toNat_raised unsaturated]
    have one : 1 ≤ margin.toNat := UInt64.le_iff_toNat_le.mp positive
    omega
  have parting : Parting observer leaver margin := ⟨wellFormed, other, behind, ahead⟩
  have digestFirstHeld := parting.entryAbout_digest_first recalls noticeAt digestAt
  have noticeFirstDead := parting.not_isAlive_notice_first_iff recalls noticeAt digestAt
  refine ⟨not_isAlive_of_left digestFirstHeld rfl, noticeFirstDead, ?_⟩
  intro parted either dead operations last changes passed stayed late lateRecalls now
  have digestAscending := Digest.ascending_iff.mp recalls.ascending
  have noticeAscending : Ascending notice.reports := ascending_leaveNotice leaver margin
  have holds : parted.HoldsFrom leaver.self (raised leaver.ownHeartbeat margin) ∧
      parted.WellFormed ∧ parted.self = observer.self := by
    rcases either with rfl | rfl
    · exact ⟨⟨_, digestFirstHeld, UInt64.le_refl _⟩,
        (wellFormed.merge digestAscending digestAt).merge noticeAscending noticeAt, rfl⟩
    · obtain ⟨member, held⟩ := noticeFirstDead.mp dead
      exact ⟨⟨_, parting.entryAbout_notice_first held recalls noticeAt digestAt,
          UInt64.le_refl _⟩,
        (wellFormed.merge noticeAscending noticeAt).merge digestAscending digestAt, rfl⟩
  obtain ⟨heldFrom, partedWellFormed, sameSelf⟩ := holds
  exact heldFrom.find?_merge_after_history partedWellFormed (sameSelf ▸ other)
    (UInt64.le_of_lt ahead) passed stayed lateRecalls now

/-- Who observes in the cases below. -/
def watcher : Identity := ⟨.v4 ⟨127, 0, 0, 1⟩ 7000, 1⟩

/-- Who leaves in the cases below. -/
def goer : Identity := ⟨.v4 ⟨127, 0, 0, 1⟩ 7001, 2⟩

/-- The roster of one that leaves after two heartbeats. -/
def departing : Roster :=
  ⟨goer, [⟨goer, 2, ⟨40⟩, .alive⟩], .ofSeconds 2, .ofSeconds 5⟩

/-- The latest gossip about it. -/
def memory : Digest := ⟨[⟨goer, 2, .alive⟩]⟩

/-- Somebody who has heard of the first heartbeat hears the notice before gossip
of the second, ages, and hears the gossip again. -/
theorem leave_prevails_at_acquaintance :
    ∃ observer parted last,
      (founding watcher (.ofSeconds 2) (.ofSeconds 5) ⟨0⟩).run
        [.merge [⟨goer, 1, .alive⟩] ⟨10⟩] = .ok observer ∧
      (founding goer (.ofSeconds 2) (.ofSeconds 5) ⟨0⟩).run [.age ⟨20⟩, .age ⟨40⟩] =
        .ok departing ∧
      parted =
        ((observer.merge (departing.leaveNotice 10) ⟨50⟩).1.merge memory ⟨60⟩).1 ∧
      ¬parted.IsAlive goer ∧
      parted.history [.age ⟨70⟩] = .ok (last, []) ∧
      ∀ now, (last.merge memory now).1.find? goer = some ⟨goer, 12, ⟨50⟩, .left⟩ := by
  have observerRan : (founding watcher (.ofSeconds 2) (.ofSeconds 5) ⟨0⟩).run
      [.merge [⟨goer, 1, .alive⟩] ⟨10⟩] =
        .ok ⟨watcher, [⟨watcher, 0, ⟨0⟩, .alive⟩, ⟨goer, 1, ⟨10⟩, .alive⟩],
          .ofSeconds 2, .ofSeconds 5⟩ := by
    apply eq_ok_of_toOption_eq_some
    decide +kernel
  have leaverRan : (founding goer (.ofSeconds 2) (.ofSeconds 5) ⟨0⟩).run
      [.age ⟨20⟩, .age ⟨40⟩] = .ok departing := by
    apply eq_ok_of_toOption_eq_some
    decide +kernel
  have behind : ∀ member,
      find? ⟨watcher, [⟨watcher, 0, ⟨0⟩, .alive⟩, ⟨goer, 1, ⟨10⟩, .alive⟩],
        .ofSeconds 2, .ofSeconds 5⟩ goer = some member →
          member.heartbeat ≤ departing.ownHeartbeat := by
    intro member found
    have known : find? ⟨watcher, [⟨watcher, 0, ⟨0⟩, .alive⟩, ⟨goer, 1, ⟨10⟩, .alive⟩],
        .ofSeconds 2, .ofSeconds 5⟩ goer = some ⟨goer, 1, ⟨10⟩, .alive⟩ := by
      decide +kernel
    rw [known, Option.some.injEq] at found
    rw [← found]
    decide +kernel
  have recalls : memory.Recalls goer departing.ownHeartbeat :=
    ⟨rfl, _, List.mem_cons_self, Identity.same_refl _, rfl, by decide +kernel⟩
  have prevails := leave_prevails_iff_held observerRan leaverRan (by decide +kernel)
    (by decide : (1 : UInt64) ≤ 10) (by decide +kernel) behind recalls ⟨50⟩ ⟨60⟩
  have dead := prevails.2.1.mpr ⟨⟨goer, 1, ⟨10⟩, .alive⟩, by decide +kernel⟩
  have passed : history ⟨watcher, [⟨watcher, 0, ⟨0⟩, .alive⟩, ⟨goer, 12, ⟨50⟩, .left⟩],
      .ofSeconds 2, .ofSeconds 5⟩ [.age ⟨70⟩] =
        .ok (⟨watcher, [⟨watcher, 1, ⟨70⟩, .alive⟩, ⟨goer, 12, ⟨50⟩, .left⟩],
          .ofSeconds 2, .ofSeconds 5⟩, []) := by
    apply eq_ok_of_toOption_eq_some
    decide +kernel
  refine ⟨_, _, _, observerRan, leaverRan, rfl, dead, passed, fun now => ?_⟩
  rw [prevails.2.2 _ (.inr rfl) dead _ _ _ passed nofun memory recalls now]
  decide +kernel

/-- Somebody who has never heard of the node passes its notice over, and then
holds it alive by gossip that is no newer. -/
theorem stranger_revives_leaver :
    (founding watcher (.ofSeconds 2) (.ofSeconds 5) ⟨0⟩).run [] =
        .ok (founding watcher (.ofSeconds 2) (.ofSeconds 5) ⟨0⟩) ∧
      (founding goer (.ofSeconds 2) (.ofSeconds 5) ⟨0⟩).run [.age ⟨20⟩, .age ⟨40⟩] =
        .ok departing ∧
      watcher.same goer = false ∧ departing.ownHeartbeat.toNat + 10 < UInt64.size ∧
      (founding watcher (.ofSeconds 2) (.ofSeconds 5) ⟨0⟩).find? goer = none ∧
      memory.Recalls goer departing.ownHeartbeat ∧
      (((founding watcher (.ofSeconds 2) (.ofSeconds 5) ⟨0⟩).merge
        (departing.leaveNotice 10) ⟨50⟩).1.merge memory ⟨60⟩).1.IsAlive goer := by
  refine ⟨rfl, ?_, by decide +kernel, by decide +kernel, by decide +kernel, ?_, ?_⟩
  · apply eq_ok_of_toOption_eq_some
    decide +kernel
  · exact ⟨rfl, _, List.mem_cons_self, Identity.same_refl _, rfl, by decide +kernel⟩
  · exact ⟨⟨goer, 2, ⟨60⟩, .alive⟩, by decide +kernel, rfl⟩

end Roster
end GossipGroup
