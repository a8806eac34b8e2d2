import GossipGroup.Proofs.Roster.Leaving

/-!
# A node refutes what is said about it

A merge treats the node's own entry like any other, so a node may have to hold
of itself that it has failed or left. Ageing always puts that right: the entry
is alive again, and its heartbeat is ahead of everything the node has heard of
itself or said. Whoever believed any of that believes the next digest of the
node instead.
-/

namespace GossipGroup
namespace Roster

/-- What a roster goes through while it also speaks to others. -/
inductive Occasion
  /-- Something is done to the roster. -/
  | revise (operation : Operation)
  /-- The roster is shared. -/
  | share (now : Instant)
  deriving DecidableEq

/-- A roster after several occasions, and all digests that were merged into it or
shared on the way. -/
def converse (roster : Roster) : List Occasion → Except AgeError (Roster × List Digest)
  | [] => .ok (roster, [])
  | .revise operation :: occasions =>
      match roster.apply operation with
      | .error error => .error error
      | .ok (next, _) =>
          (next.converse occasions).map fun (last, digests) =>
            (last, operation.digest?.toList ++ digests)
  | .share now :: occasions =>
      (roster.converse occasions).map fun (last, digests) =>
        (last, roster.shared now :: digests)

/-- What is computed from a result is computed from a value. -/
theorem exists_of_map_eq_ok
    {ε α β : Type}
    {result : Except ε α}
    {compute : α → β}
    {computed : β}
    (mapped : result.map compute = .ok computed) :
    ∃ value, result = .ok value ∧ compute value = computed := by
  cases result with
  | error error => contradiction
  | ok value => exact ⟨value, rfl, Except.ok.inj mapped⟩

/-- No digest reports the node with a greater heartbeat than its own. -/
def Outruns (roster : Roster) (digests : List Digest) : Prop :=
  ∀ digest ∈ digests, ∀ report ∈ digest.reports, report.identity.same roster.self = true →
    report.heartbeat ≤ roster.ownHeartbeat

/-! ## The node's own heartbeat -/

/-- What a roster holds of its own node is its own heartbeat. -/
theorem WellFormed.holdsFrom_self_iff
    {roster : Roster}
    (wellFormed : roster.WellFormed)
    {heartbeat : UInt64} :
    roster.HoldsFrom roster.self heartbeat ↔ heartbeat ≤ roster.ownHeartbeat := by
  obtain ⟨own, held⟩ := Option.ne_none_iff_exists'.mp wellFormed.own_present
  rw [ownHeartbeat_eq wellFormed.ascending held]
  constructor
  · rintro ⟨member, found, notAfter⟩
    rw [held, Option.some.injEq] at found
    rw [found]
    exact notAfter
  · exact fun notAfter => ⟨own, held, notAfter⟩

/-- Ageing, if it succeeds, gives the node the next heartbeat and has it alive. -/
theorem WellFormed.entryAbout_self_aged
    {roster : Roster}
    (wellFormed : roster.WellFormed)
    (canBeat : roster.CanBeat)
    (now : Instant) :
    roster.ownHeartbeat < (roster.aged now).ownHeartbeat ∧
      entryAbout roster.self (roster.aged now).members =
        some ⟨roster.self, (roster.aged now).ownHeartbeat, now, .alive⟩ := by
  obtain ⟨own, held⟩ := Option.ne_none_iff_exists'.mp wellFormed.own_present
  have renewed := Roster.entryAbout_self_aged wellFormed.ascending held now
  have after : (roster.aged now).ownHeartbeat = own.heartbeat + 1 :=
    ownHeartbeat_eq (wellFormed.aged now).ascending renewed
  rw [after, renewed, ownHeartbeat_eq wellFormed.ascending held, UInt64.lt_iff_toNat_lt,
    toNat_add_one ((canBeat_iff wellFormed.ascending held).mp canBeat)]
  exact ⟨Nat.lt_succ_self _, rfl⟩

/-- In no operation does the node's own heartbeat fall. -/
theorem WellFormed.ownHeartbeat_le
    {roster next : Roster}
    {operation : Operation}
    {changes : List Change}
    (wellFormed : roster.WellFormed)
    (applied : roster.apply operation = .ok (next, changes)) :
    roster.ownHeartbeat ≤ next.ownHeartbeat := by
  obtain ⟨nextWellFormed, sameSelf⟩ := wellFormed.apply applied
  obtain ⟨digest, now, ascending, merged⟩ | same | ⟨now, canBeat, aged⟩ := apply_cases applied
  · obtain rfl := congrArg Prod.fst merged
    have holds : roster.HoldsFrom roster.self roster.ownHeartbeat :=
      wellFormed.holdsFrom_self_iff.mpr (UInt64.le_refl _)
    exact nextWellFormed.holdsFrom_self_iff.mp (holds.merge wellFormed.ascending ascending now)
  · obtain rfl := congrArg Prod.fst same
    exact UInt64.le_refl _
  · obtain rfl := congrArg Prod.fst aged
    exact UInt64.le_of_lt (wellFormed.entryAbout_self_aged canBeat now).1

/-! ## What is heard and said -/

/-- After a merge, no member is held with a smaller heartbeat than the digest reports
of it, if it was held before. -/
theorem holdsFrom_merge_of_reported
    {roster : Roster}
    {digest : Digest}
    {identity : Identity}
    {report : Report}
    (rosterAscending : Ascending roster.members)
    (digestAscending : Ascending digest.reports)
    (known : entryAbout identity roster.members ≠ none)
    (reported : entryAbout identity digest.reports = some report)
    (now : Instant) :
    (roster.merge digest now).1.HoldsFrom identity report.heartbeat := by
  obtain ⟨member, held⟩ := Option.ne_none_iff_exists'.mp known
  have entry := (mergeMembers_merges now rosterAscending digestAscending).entryAbout_members
    identity
  rw [held, reported] at entry
  cases encounter now (some member) (some report) with
  | unmoved stale kept =>
      exact ⟨member, entry.trans kept, UInt64.not_lt.mp ((stale report rfl).2 member rfl)⟩
  | joined unknown => contradiction
  | replaced _ told _ replaced =>
      obtain rfl := Option.some.inj told
      exact ⟨_, entry.trans replaced, UInt64.le_refl _⟩

/-- A roster shares of a member what it holds. -/
theorem holdsFrom_of_mem_shared
    {roster : Roster}
    {now : Instant}
    {identity : Identity}
    {report : Report}
    (ascending : Ascending roster.members)
    (told : report ∈ (roster.shared now).reports)
    (same : report.identity.same identity = true) :
    roster.HoldsFrom identity report.heartbeat := by
  obtain ⟨-, member, present, rfl⟩ := mem_shared told
  exact ⟨member, ascending.entryAbout_eq_some_iff.mpr ⟨present, same⟩, UInt64.le_refl _⟩

/-- What an operation merges does not report the node with a greater heartbeat than
it has afterwards. -/
theorem WellFormed.outruns_digest?
    {roster next : Roster}
    {operation : Operation}
    {changes : List Change}
    (wellFormed : roster.WellFormed)
    (applied : roster.apply operation = .ok (next, changes)) :
    next.Outruns operation.digest?.toList := by
  intro digest heard report told same
  cases operation.kind with
  | merges merged read _ ascending applies =>
      rw [read, Option.toList_some, List.mem_singleton] at heard
      obtain rfl := heard
      obtain ⟨rfl, -⟩ := Prod.mk.inj (Except.ok.inj ((applies roster).symm.trans applied))
      refine (wellFormed.merge ascending _).holdsFrom_self_iff.mp ?_
      exact holdsFrom_merge_of_reported wellFormed.ascending ascending wellFormed.own_present
        (ascending.entryAbout_eq_some_iff.mpr ⟨told, same⟩) _
  | unreadable unread =>
      rw [unread] at heard
      contradiction
  | ages now ageing =>
      rw [ageing] at heard
      contradiction

/-- What a roster shares does not report its node with a greater heartbeat than it
has. -/
theorem WellFormed.outruns_shared
    {roster : Roster}
    (wellFormed : roster.WellFormed)
    (now : Instant) :
    roster.Outruns [roster.shared now] := by
  intro digest said report told same
  obtain rfl := List.mem_singleton.mp said
  exact wellFormed.holdsFrom_self_iff.mp (holdsFrom_of_mem_shared wellFormed.ascending told same)

/-- A node that goes on counting stays ahead. -/
theorem Outruns.of_le
    {roster last : Roster}
    {digests : List Digest}
    (outruns : roster.Outruns digests)
    (sameSelf : last.self = roster.self)
    (notLess : roster.ownHeartbeat ≤ last.ownHeartbeat) :
    last.Outruns digests := by
  intro digest present report told same
  rw [sameSelf] at same
  exact UInt64.le_trans (outruns digest present report told same) notLess

theorem Outruns.append
    {roster : Roster}
    {digests later : List Digest}
    (first : roster.Outruns digests)
    (second : roster.Outruns later) :
    roster.Outruns (digests ++ later) := fun digest present =>
  (List.mem_append.mp present).elim (first digest) (second digest)

/-- What a conversation keeps: the roster is well formed and still of the same node,
whose heartbeat has not fallen and is not outrun by anything that was heard or
said. -/
structure KeepsPace (roster last : Roster) (digests : List Digest) : Prop where
  wellFormed : last.WellFormed
  sameSelf : last.self = roster.self
  notLess : roster.ownHeartbeat ≤ last.ownHeartbeat
  outruns : last.Outruns digests

/-- What is kept up with along the way is kept up with at the end. -/
theorem KeepsPace.trans
    {roster next last : Roster}
    {digests later : List Digest}
    (first : KeepsPace roster next digests)
    (second : KeepsPace next last later) :
    KeepsPace roster last (digests ++ later) where
  wellFormed := second.wellFormed
  sameSelf := second.sameSelf.trans first.sameSelf
  notLess := UInt64.le_trans first.notLess second.notLess
  outruns := (first.outruns.of_le second.sameSelf second.notLess).append second.outruns

/-- Every conversation keeps the pace. -/
theorem WellFormed.keepsPace
    {roster last : Roster}
    {occasions : List Occasion}
    {digests : List Digest}
    (wellFormed : roster.WellFormed)
    (passed : roster.converse occasions = .ok (last, digests)) :
    KeepsPace roster last digests := by
  induction occasions generalizing roster digests with
  | nil =>
      obtain ⟨rfl, rfl⟩ := Prod.mk.inj (Except.ok.inj passed)
      exact ⟨wellFormed, rfl, UInt64.le_refl _, nofun⟩
  | cons occasion occasions inductionHypothesis =>
      cases occasion with
      | revise operation =>
          rw [converse] at passed
          split at passed
          · contradiction
          · rename_i next changes applied
            obtain ⟨⟨_, later⟩, rest, result⟩ := exists_of_map_eq_ok passed
            obtain ⟨rfl, rfl⟩ := Prod.mk.inj result
            obtain ⟨nextWellFormed, sameSelf⟩ := wellFormed.apply applied
            have step : KeepsPace roster next operation.digest?.toList :=
              ⟨nextWellFormed, sameSelf, wellFormed.ownHeartbeat_le applied,
                wellFormed.outruns_digest? applied⟩
            exact step.trans (inductionHypothesis nextWellFormed rest)
      | share now =>
          obtain ⟨⟨_, later⟩, rest, result⟩ := exists_of_map_eq_ok passed
          obtain ⟨rfl, rfl⟩ := Prod.mk.inj result
          have step : KeepsPace roster roster [roster.shared now] :=
            ⟨wellFormed, rfl, UInt64.le_refl _, wellFormed.outruns_shared now⟩
          exact step.trans (inductionHypothesis wellFormed rest)

/-! ## Being believed -/

/-- A roster shares every member that it holds alive. -/
theorem entryAbout_shared_of_alive
    {roster : Roster}
    {identity : Identity}
    {member : Member}
    (ascending : Ascending roster.members)
    (held : entryAbout identity roster.members = some member)
    (alive : member.status = .alive)
    (now : Instant) :
    entryAbout identity (roster.shared now).reports = some member.report := by
  rw [entryAbout_shared ascending, held, Option.bind_some, sharedReport, isShared, alive,
    if_pos rfl]

/-- A node refutes whatever is said about it. However its roster came about from
its founding, with anything merged, read, aged and shared, its own heartbeat never
falls; and when it ages, its heartbeat grows, and its own entry is alive, under the
identity it was given, and ahead of all that any digest merged or shared before
reports about it. Hence whoever holds it with a heartbeat from one of those digests,
in whatever condition, holds it alive after merging what it shares next. -/
theorem refutes_reports_about_itself
    {self : Identity}
    {failTimeout cleanupTimeout : Span}
    {start : Instant}
    {occasions : List Occasion}
    {roster : Roster}
    {digests : List Digest}
    (passed : (founding self failTimeout cleanupTimeout start).converse occasions =
      .ok (roster, digests)) :
    (∀ further later more, roster.converse further = .ok (later, more) →
      roster.ownHeartbeat ≤ later.ownHeartbeat) ∧
    ∀ now next changes, roster.age now = .ok (next, changes) →
      roster.ownHeartbeat < next.ownHeartbeat ∧
      next.find? self = some ⟨self, next.ownHeartbeat, now, .alive⟩ ∧
      (∀ digest ∈ digests, ∀ report ∈ digest.reports, report.identity.same self = true →
        report.heartbeat < next.ownHeartbeat) ∧
      ∀ other : Roster, Ascending other.members →
        ∀ held, other.find? self = some held →
          (∃ digest ∈ digests, ∃ report ∈ digest.reports,
            report.identity.same self = true ∧ report.heartbeat = held.heartbeat) →
          ∀ sharedAt mergedAt, (other.merge (next.shared sharedAt) mergedAt).1.find? self =
            some ⟨self, next.ownHeartbeat, mergedAt, .alive⟩ := by
  obtain ⟨wellFormed, sameSelf, -, outruns⟩ :=
    (wellFormed_founding self failTimeout cleanupTimeout start).keepsPace passed
  rw [self_founding] at sameSelf
  refine ⟨fun _ _ _ went => (wellFormed.keepsPace went).notLess, fun now next changes ages => ?_⟩
  obtain ⟨canBeat, rfl⟩ : roster.CanBeat ∧ next = roster.aged now :=
    (age_eq_ok_iff.mp ages).imp_right (congrArg Prod.fst)
  obtain ⟨grows, renewed⟩ := wellFormed.entryAbout_self_aged canBeat now
  have nextAscending := (wellFormed.aged now).ascending
  rw [sameSelf] at renewed
  have ahead : ∀ digest ∈ digests, ∀ report ∈ digest.reports,
      report.identity.same self = true → report.heartbeat < (roster.aged now).ownHeartbeat := by
    intro digest present report told same
    rw [← sameSelf] at same
    exact UInt64.lt_of_le_of_lt (outruns digest present report told same) grows
  refine ⟨grows, (find?_eq_entryAbout nextAscending self).trans renewed, ahead, ?_⟩
  rintro other otherAscending held known ⟨digest, present, report, told, same, heartbeat⟩ sharedAt
    mergedAt
  have merges := mergeMembers_merges mergedAt otherAscending
    (ascending_shared nextAscending sharedAt)
  rw [find?_eq_entryAbout otherAscending] at known
  rw [find?_eq_entryAbout merges.members_ascending]
  exact entryAbout_merge_of_newer otherAscending (ascending_shared nextAscending sharedAt) known
    (entryAbout_shared_of_alive nextAscending renewed rfl sharedAt)
    (heartbeat ▸ ahead digest present report told same) mergedAt

/-- A node that is told, under another flow label, to have left with heartbeat eight
says so itself until it ages, and then convinces a peer that had believed it. -/
theorem refutes_report_of_leaving :
    ∃ roster digests next changes,
      (founding ⟨.v6 ⟨0, 0, 0, 0, 0, 0, 0, 1⟩ 7001 5 0, 2⟩ (.ofSeconds 2) (.ofSeconds 5)
          ⟨0⟩).converse
        [.share ⟨5⟩,
          .revise (.merge [⟨⟨.v6 ⟨0, 0, 0, 0, 0, 0, 0, 1⟩ 7001 7 0, 2⟩, 8, .left⟩] ⟨10⟩),
          .share ⟨20⟩] = .ok (roster, digests) ∧
      roster.age ⟨30⟩ = .ok (next, changes) ∧
      next.find? ⟨.v6 ⟨0, 0, 0, 0, 0, 0, 0, 1⟩ 7001 5 0, 2⟩ =
        some ⟨⟨.v6 ⟨0, 0, 0, 0, 0, 0, 0, 1⟩ 7001 5 0, 2⟩, next.ownHeartbeat, ⟨30⟩, .alive⟩ ∧
      ((⟨⟨.v4 ⟨127, 0, 0, 1⟩ 7000, 1⟩,
          [⟨⟨.v4 ⟨127, 0, 0, 1⟩ 7000, 1⟩, 3, ⟨20⟩, .alive⟩,
            ⟨⟨.v6 ⟨0, 0, 0, 0, 0, 0, 0, 1⟩ 7001 7 0, 2⟩, 8, ⟨20⟩, .left⟩],
          .ofSeconds 2, .ofSeconds 5⟩ : Roster).merge (next.shared ⟨40⟩) ⟨50⟩).1.find?
        ⟨.v6 ⟨0, 0, 0, 0, 0, 0, 0, 1⟩ 7001 5 0, 2⟩ =
          some ⟨⟨.v6 ⟨0, 0, 0, 0, 0, 0, 0, 1⟩ 7001 5 0, 2⟩, next.ownHeartbeat, ⟨50⟩, .alive⟩ := by
  let self : Identity := ⟨.v6 ⟨0, 0, 0, 0, 0, 0, 0, 1⟩ 7001 5 0, 2⟩
  let relabelled : Identity := ⟨.v6 ⟨0, 0, 0, 0, 0, 0, 0, 1⟩ 7001 7 0, 2⟩
  have passed : (founding self (.ofSeconds 2) (.ofSeconds 5) ⟨0⟩).converse
      [.share ⟨5⟩, .revise (.merge [⟨relabelled, 8, .left⟩] ⟨10⟩), .share ⟨20⟩] =
        .ok (⟨self, [⟨relabelled, 8, ⟨10⟩, .left⟩], .ofSeconds 2, .ofSeconds 5⟩,
          [⟨[⟨self, 0, .alive⟩]⟩, ⟨[⟨relabelled, 8, .left⟩]⟩, ⟨[⟨relabelled, 8, .left⟩]⟩]) := by
    apply eq_ok_of_toOption_eq_some
    decide +kernel
  have ages : (⟨self, [⟨relabelled, 8, ⟨10⟩, .left⟩], .ofSeconds 2, .ofSeconds 5⟩ : Roster).age
      ⟨30⟩ = .ok (⟨self, [⟨self, 9, ⟨30⟩, .alive⟩], .ofSeconds 2, .ofSeconds 5⟩, []) := by
    apply eq_ok_of_toOption_eq_some
    decide +kernel
  obtain ⟨-, refuted, -, believed⟩ := (refutes_reports_about_itself passed).2 _ _ _ ages
  refine ⟨_, _, _, _, passed, ages, refuted, believed _ ?_ ⟨relabelled, 8, ⟨20⟩, .left⟩ ?_ ?_ _ _⟩
  · unfold Ascending
    decide +kernel
  · decide +kernel
  · exact ⟨⟨[⟨relabelled, 8, .left⟩]⟩, by simp, ⟨relabelled, 8, .left⟩, List.mem_singleton_self _,
      by decide +kernel, rfl⟩

end Roster
end GossipGroup
