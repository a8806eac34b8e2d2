import GossipGroup.Proofs.Roster.Enduring
import Mathlib.Data.List.Chain

/-!
# What becomes of a member that falls silent

While nothing newer is heard of a member, its entry is judged by the time since its
last refresh alone. At the first ageing beyond the fail timeout it fails if it was
alive, and at the first one beyond the cleanup timeout it is evicted. Gossip that is
no newer and further ageings make no difference, unless the node cannot count its own
heartbeat up when it ages: then it loses all its entries without a word.
-/

namespace GossipGroup

/-! ## What is to become of a silent member -/

namespace Member

/-- The operations during which an entry that is not refreshed is held, up to and
including the first ageing at which it has been silent for longer than the cleanup
timeout. -/
def lifetime (member : Member) (cleanupTimeout : Span) :
    List Roster.Operation → List Roster.Operation
  | [] => []
  | operation :: operations =>
      if ∃ now ∈ operation.ageing?, cleanupTimeout < member.silence now then [operation]
      else operation :: member.lifetime cleanupTimeout operations

/-- How long an entry is held depends on its last refresh only. -/
theorem lifetime_congr
    {member renewed : Member}
    (sameRefresh : renewed.refreshedAt = member.refreshedAt)
    (cleanupTimeout : Span)
    (operations : List Roster.Operation) :
    renewed.lifetime cleanupTimeout operations = member.lifetime cleanupTimeout operations := by
  induction operations with
  | nil => rfl
  | cons operation operations inductionHypothesis =>
      rw [lifetime, lifetime, inductionHypothesis]
      refine if_congr ?_ rfl rfl
      simp only [silence, sameRefresh]

/-- An entry is held during the first of the operations. -/
theorem lifetime_prefix
    (member : Member)
    (cleanupTimeout : Span)
    (operations : List Roster.Operation) :
    member.lifetime cleanupTimeout operations <+: operations := by
  induction operations with
  | nil => exact List.prefix_rfl
  | cons operation operations inductionHypothesis =>
      rw [lifetime]
      split
      · exact List.cons_prefix_cons.mpr ⟨rfl, List.nil_prefix⟩
      · exact List.cons_prefix_cons.mpr ⟨rfl, inductionHypothesis⟩

/-- If a member is ever aged after a silence that is too long, that happens while its
entry is held. -/
theorem exists_beyond_of_lifetime
    {member : Member}
    {limit cleanupTimeout : Span}
    {operations : List Roster.Operation}
    (notLonger : limit ≤ cleanupTimeout)
    (beyond : ∃ now ∈ Roster.ageings operations, limit < member.silence now) :
    ∃ now ∈ Roster.ageings (member.lifetime cleanupTimeout operations),
      limit < member.silence now := by
  induction operations with
  | nil => exact beyond
  | cons operation operations inductionHypothesis =>
      rw [lifetime]
      split
      · rename_i overdue
        obtain ⟨now, ageing, long⟩ := overdue
        refine ⟨now, ?_, Nat.lt_of_le_of_lt notLonger long⟩
        rw [Roster.ageings_cons]
        exact List.mem_append_left _ (Option.mem_toList.mpr ageing)
      · obtain ⟨now, present, long⟩ := beyond
        rw [Roster.ageings_cons] at present ⊢
        rcases List.mem_append.mp present with ageing | later
        · exact ⟨now, List.mem_append_left _ ageing, long⟩
        · obtain ⟨first, held, exceeds⟩ := inductionHypothesis ⟨now, later, long⟩
          exact ⟨first, List.mem_append_right _ held, exceeds⟩

/-- The entry is held to the end unless an ageing finds it overdue. -/
theorem lifetime_eq_or_overdue
    (member : Member)
    (cleanupTimeout : Span)
    (operations : List Roster.Operation) :
    member.lifetime cleanupTimeout operations = operations ∨
      ∃ now ∈ Roster.ageings (member.lifetime cleanupTimeout operations),
        cleanupTimeout < member.silence now := by
  induction operations with
  | nil => exact .inl rfl
  | cons operation operations inductionHypothesis =>
      rw [lifetime]
      split
      · rename_i overdue
        obtain ⟨now, ageing, long⟩ := overdue
        rw [Roster.ageings_cons]
        exact .inr ⟨now, List.mem_append_left _ (Option.mem_toList.mpr ageing), long⟩
      · rcases inductionHypothesis with whole | ⟨now, present, long⟩
        · exact .inl (congrArg _ whole)
        · rw [Roster.ageings_cons]
          exact .inr ⟨now, List.mem_append_right _ present, long⟩

/-- A lifetime has at least one operation if there is any. -/
theorem exists_lifetime_cons
    (member : Member)
    (cleanupTimeout : Span)
    (operation : Roster.Operation)
    (operations : List Roster.Operation) :
    ∃ rest, member.lifetime cleanupTimeout (operation :: operations) = operation :: rest := by
  rw [lifetime]
  split
  · exact ⟨[], rfl⟩
  · exact ⟨_, rfl⟩

/-- The first moment at which the silence of a member is longer than the cleanup
timeout. -/
def overdue? (member : Member) (cleanupTimeout : Span) (moments : List Instant) :
    Option Instant :=
  moments.find? fun now => cleanupTimeout < member.silence now

/-- The first moment at which the silence of a member is longer than the fail timeout,
but not than the cleanup timeout. -/
def late? (member : Member) (failTimeout cleanupTimeout : Span) (moments : List Instant) :
    Option Instant :=
  moments.find? fun now =>
    failTimeout < member.silence now ∧ member.silence now ≤ cleanupTimeout

/-- What is to be held of a silent member after ageing at some moments. -/
def waned
    (member : Member)
    (failTimeout cleanupTimeout : Span)
    (moments : List Instant) : Option Member :=
  if member.overdue? cleanupTimeout moments = none then
    some { member with
      status :=
        if member.status = .alive ∧ ∃ now ∈ moments, failTimeout < member.silence now then .failed
        else member.status }
  else none

/-- What is to be told of a silent member while ageing at some moments. -/
def waning
    (member : Member)
    (failTimeout cleanupTimeout : Span)
    (moments : List Instant) : List (Instant × Transition) :=
  (if member.status = .alive then
      (member.late? failTimeout cleanupTimeout moments).toList.map fun now => (now, .failed)
    else []) ++
    (member.overdue? cleanupTimeout moments).toList.map fun now => (now, .evicted)

variable {member : Member} {failTimeout cleanupTimeout : Span} {now : Instant}

theorem waned_nil : member.waned failTimeout cleanupTimeout [] = some member := by
  simp [waned, overdue?]

theorem waning_nil : member.waning failTimeout cleanupTimeout [] = [] := by
  simp [waning, overdue?, late?]

/-- When a member is overdue does not depend on its condition. -/
@[simp] theorem overdue?_with_status (member : Member) (status : Status) :
    ({ member with status := status } : Member).overdue? = member.overdue? := rfl

theorem overdue?_cons_of_short
    (short : member.silence now ≤ cleanupTimeout)
    (moments : List Instant) :
    member.overdue? cleanupTimeout (now :: moments) = member.overdue? cleanupTimeout moments := by
  have notOverdue : ¬cleanupTimeout < member.silence now := Nat.not_lt_of_le short
  simp [overdue?, notOverdue]

/-- A member that is overdue at once is evicted at once. -/
theorem waned_of_overdue (long : cleanupTimeout < member.silence now) :
    member.waned failTimeout cleanupTimeout [now] = none := by
  simp [waned, overdue?, long]

theorem waning_of_overdue (long : cleanupTimeout < member.silence now) :
    member.waning failTimeout cleanupTimeout [now] = [(now, .evicted)] := by
  have notShort : ¬member.silence now ≤ cleanupTimeout := Nat.not_le_of_lt long
  simp [waning, overdue?, late?, long, notShort]

/-- A live member that is late fails, and goes on as one that has failed. -/
theorem waned_cons_of_late
    (alive : member.status = .alive)
    (short : member.silence now ≤ cleanupTimeout)
    (long : failTimeout < member.silence now)
    (moments : List Instant) :
    member.waned failTimeout cleanupTimeout (now :: moments) =
      ({ member with status := .failed } : Member).waned failTimeout cleanupTimeout moments := by
  simp [waned, overdue?_cons_of_short short, alive, long]

theorem waning_cons_of_late
    (alive : member.status = .alive)
    (short : member.silence now ≤ cleanupTimeout)
    (long : failTimeout < member.silence now)
    (moments : List Instant) :
    member.waning failTimeout cleanupTimeout (now :: moments) =
      (now, .failed) ::
        ({ member with status := .failed } : Member).waning failTimeout cleanupTimeout moments := by
  simp [waning, overdue?_cons_of_short short, late?, alive, long, short]

/-- Nothing becomes of a member that is neither overdue nor alive and late. -/
theorem waned_cons_of_kept
    (short : member.silence now ≤ cleanupTimeout)
    (fresh : member.status = .alive → member.silence now ≤ failTimeout)
    (moments : List Instant) :
    member.waned failTimeout cleanupTimeout (now :: moments) =
      member.waned failTimeout cleanupTimeout moments := by
  by_cases alive : member.status = .alive
  · have notLate : ¬failTimeout < member.silence now := Nat.not_lt_of_le (fresh alive)
    simp [waned, overdue?_cons_of_short short, notLate]
  · simp [waned, overdue?_cons_of_short short, alive]

theorem waning_cons_of_kept
    (short : member.silence now ≤ cleanupTimeout)
    (fresh : member.status = .alive → member.silence now ≤ failTimeout)
    (moments : List Instant) :
    member.waning failTimeout cleanupTimeout (now :: moments) =
      member.waning failTimeout cleanupTimeout moments := by
  by_cases alive : member.status = .alive
  · have notLate : ¬failTimeout < member.silence now := Nat.not_lt_of_le (fresh alive)
    simp [waning, overdue?_cons_of_short short, late?, notLate]
  · simp [waning, overdue?_cons_of_short short, alive]

/-- The silence of a member grows with time. -/
theorem silence_le_of_le (member : Member) {later : Instant} (notAfter : now ≤ later) :
    member.silence now ≤ member.silence later := by
  rw [Instant.le_iff] at notAfter
  simp only [silence, Instant.since, Span.le_iff]
  omega

/-- What is held of a silent member in the end is what a single ageing at the latest
moment leaves of it. -/
theorem waned_eq_agedEntry
    {roster : Roster}
    {moments : List Instant}
    {latest : Instant}
    (other : member.identity.same roster.self = false)
    (present : latest ∈ moments)
    (isLatest : ∀ now ∈ moments, now ≤ latest) :
    member.waned roster.failTimeout roster.cleanupTimeout moments =
      roster.agedEntry latest member := by
  have neverOverdue (short : member.silence latest ≤ roster.cleanupTimeout) :
      member.overdue? roster.cleanupTimeout moments = none := by
    refine List.find?_eq_none.mpr fun now among => ?_
    have notLonger := member.silence_le_of_le (isLatest now among)
    exact fun long => Nat.not_lt_of_le (Nat.le_trans notLonger short) (of_decide_eq_true long)
  cases roster.fate latest member with
  | renewed own => exact nomatch own.symm.trans other
  | evicted _ long gone =>
      rw [gone, waned, if_neg]
      intro never
      exact List.find?_eq_none.mp never latest present (decide_eq_true long)
  | failed _ short long alive fails =>
      rw [fails, waned, if_pos (neverOverdue short), if_pos ⟨alive, latest, present, long⟩]
  | kept _ short fresh kept =>
      rw [kept, waned, if_pos (neverOverdue short), if_neg]
      rintro ⟨alive, now, among, long⟩
      have notLonger := member.silence_le_of_le (isLatest now among)
      exact Nat.not_lt_of_le (Nat.le_trans notLonger (fresh alive)) long

/-- At a moment the silence of a member has become longer than a limit, by a gap at
most. -/
def IsSoonAfter (member : Member) (limit gap : Span) (moment : Instant) : Prop :=
  limit < member.silence moment ∧
    (member.silence moment).nanoseconds ≤ limit.nanoseconds + gap.nanoseconds

/-- Where moments are no further apart than a gap, the first one after too long a
silence is within the gap. -/
theorem exists_first_beyond
    {limit gap : Span}
    {start : Instant}
    {moments : List Instant}
    (regular : (start :: moments).IsChain fun earlier later => later ≤ earlier.after gap)
    (notYet : member.silence start ≤ limit)
    (beyond : ∃ now ∈ moments, limit < member.silence now) :
    ∃ first, moments.find? (fun now => limit < member.silence now) = some first ∧
      member.IsSoonAfter limit gap first := by
  induction moments generalizing start with
  | nil =>
      obtain ⟨now, absent, -⟩ := beyond
      contradiction
  | cons now moments inductionHypothesis =>
      obtain ⟨soon, rest⟩ := List.isChain_cons_cons.mp regular
      by_cases long : limit < member.silence now
      · refine ⟨now, List.find?_cons_of_pos (decide_eq_true long), long, ?_⟩
        simp only [Instant.le_iff, Instant.after, silence, Instant.since, Span.le_iff]
          at soon notYet ⊢
        omega
      · have later : ∃ now ∈ moments, limit < member.silence now := by
          obtain ⟨moment, present, exceeds⟩ := beyond
          rcases List.mem_cons.mp present with rfl | inRest
          · contradiction
          · exact ⟨moment, inRest, exceeds⟩
        obtain ⟨first, found, exceeds⟩ :=
          inductionHypothesis rest (Nat.le_of_not_lt long) later
        refine ⟨first, ?_, exceeds⟩
        rw [List.find?_cons_of_neg (by simpa using long), found]

/-- The first moment after too long a silence counts as late unless it is overdue. -/
theorem late?_eq_some
    {first : Instant}
    {moments : List Instant}
    (found : moments.find? (fun now => failTimeout < member.silence now) = some first)
    (short : member.silence first ≤ cleanupTimeout) :
    member.late? failTimeout cleanupTimeout moments = some first := by
  obtain ⟨long, before, after, split, fresh⟩ := List.find?_eq_some_iff_append.mp found
  refine List.find?_eq_some_iff_append.mpr ⟨?_, before, after, split, fun now present => ?_⟩
  · simpa using ⟨of_decide_eq_true long, short⟩
  · have notLong := fresh now present
    simp_all

/-- If no two ageings are further apart than the timeouts, a live member that falls
silent fails within the gap after the fail timeout. -/
theorem late?_of_regular
    {gap : Span}
    {moments : List Instant}
    (narrow : failTimeout.nanoseconds + gap.nanoseconds ≤ cleanupTimeout.nanoseconds)
    (regular : (member.refreshedAt :: moments).IsChain
      fun earlier later => later ≤ earlier.after gap)
    (beyond : ∃ now ∈ moments, failTimeout < member.silence now) :
    ∃ failedAt, member.late? failTimeout cleanupTimeout moments = some failedAt ∧
      member.IsSoonAfter failTimeout gap failedAt := by
  have fresh : member.silence member.refreshedAt ≤ failTimeout := by
    rw [silence, Instant.since_self]
    exact Nat.zero_le _
  obtain ⟨failedAt, found, long, soon⟩ := exists_first_beyond regular fresh beyond
  exact ⟨failedAt, late?_eq_some found (Nat.le_trans soon narrow), long, soon⟩

/-- Within the same gap after the cleanup timeout it is evicted. -/
theorem overdue?_of_regular
    {gap : Span}
    {moments : List Instant}
    (regular : (member.refreshedAt :: moments).IsChain
      fun earlier later => later ≤ earlier.after gap)
    (beyond : ∃ now ∈ moments, cleanupTimeout < member.silence now) :
    ∃ evictedAt, member.overdue? cleanupTimeout moments = some evictedAt ∧
      member.IsSoonAfter cleanupTimeout gap evictedAt := by
  have fresh : member.silence member.refreshedAt ≤ cleanupTimeout := by
    rw [silence, Instant.since_self]
    exact Nat.zero_le _
  exact exists_first_beyond regular fresh beyond

/-- A silent member is never told to have joined. -/
theorem joined_not_mem_waning (moments : List Instant) :
    (now, .joined) ∉ member.waning failTimeout cleanupTimeout moments := by
  unfold waning
  split <;> simp

/-- If nothing is told of a silent member, something is held of it. -/
theorem waned_ne_none_of_waning_eq_nil
    {moments : List Instant}
    (quiet : member.waning failTimeout cleanupTimeout moments = []) :
    member.waned failTimeout cleanupTimeout moments ≠ none := by
  have neverOverdue : member.overdue? cleanupTimeout moments = none := by
    simpa using (List.append_eq_nil_iff.mp quiet).2
  rw [waned, if_pos neverOverdue]
  exact Option.some_ne_none _

end Member

/-! ## What becomes of it -/

namespace Roster

/-- The entry about a silent member runs its course: it is held unchanged, but failed
from the first ageing on that finds it alive and silent for longer than the fail
timeout, until the first one that finds it silent for longer than the cleanup timeout
evicts it; and each of the two is told once. -/
structure RunsCourse (roster : Roster) (member : Member) (operations : List Operation) :
    Prop where
  entry : (roster.endure operations).1.find? member.identity =
    member.waned roster.failTimeout roster.cleanupTimeout (ageings operations)
  told : tidings member.identity (roster.endure operations).2 =
    member.waning roster.failTimeout roster.cleanupTimeout (ageings operations)

/-- An operation reports nothing newer about a member than what is held. -/
def Operation.IsStale (operation : Operation) (member : Member) : Prop :=
  ∀ digest ∈ operation.digest?, ∀ report ∈ digest.reports,
    report.identity.same member.identity = true → report.heartbeat ≤ member.heartbeat

/-- The entry about a silent member carries on after an operation as another one, which
is to wane as was expected of it before. -/
structure CarriesOn (roster : Roster) (operation : Operation) (member renewed : Member) :
    Prop where
  sameIdentity : renewed.identity = member.identity
  sameHeartbeat : renewed.heartbeat = member.heartbeat
  sameRefresh : renewed.refreshedAt = member.refreshedAt
  entry : entryAbout member.identity (roster.undergo operation).1.members = some renewed
  waned : ∀ moments,
    member.waned roster.failTimeout roster.cleanupTimeout (operation.ageing?.toList ++ moments) =
      renewed.waned roster.failTimeout roster.cleanupTimeout moments
  waning : ∀ moments,
    member.waning roster.failTimeout roster.cleanupTimeout (operation.ageing?.toList ++ moments) =
      (entryAbout member.identity (roster.undergo operation).2).toList.map
          (fun change => (operation.moment, change.transition)) ++
        renewed.waning roster.failTimeout roster.cleanupTimeout moments

/-- An operation that is no ageing and changes nothing about a member lets its entry
carry on as it is. -/
theorem carriesOn_of_unmoved
    {roster : Roster}
    {operation : Operation}
    {member : Member}
    (ageless : ∀ now, operation ≠ .age now)
    (entry : entryAbout member.identity (roster.undergo operation).1.members = some member)
    (quiet : entryAbout member.identity (roster.undergo operation).2 = none) :
    roster.CarriesOn operation member member := by
  refine ⟨rfl, rfl, rfl, entry, ?_, ?_⟩
  · rw [Operation.ageing?_eq_none ageless]
    exact fun _ => rfl
  · rw [Operation.ageing?_eq_none ageless, quiet]
    exact fun _ => rfl

/-- The entry about a silent member carries on after each operation that neither finds
it overdue nor fails. -/
theorem exists_carriesOn
    {roster : Roster}
    {operation : Operation}
    {member : Member}
    (ascending : Ascending roster.members)
    (held : entryAbout member.identity roster.members = some member)
    (other : member.identity.same roster.self = false)
    (stale : operation.IsStale member)
    (short : ∀ now ∈ operation.ageing?, member.silence now ≤ roster.cleanupTimeout)
    (canBeat : ∀ now, operation = .age now → roster.CanBeat) :
    ∃ renewed, roster.CarriesOn operation member renewed := by
  cases roster.undergone operation with
  | merged digest read ageless digestAscending outcome =>
      have unmoved := entryAbout_merge_of_stale ascending digestAscending held
        (fun report reported => stale digest read report (mem_of_entryAbout reported)
          (same_of_entryAbout reported)) operation.moment
      rw [← outcome] at unmoved
      exact ⟨member, carriesOn_of_unmoved ageless unmoved.1 unmoved.2⟩
  | passedOver ageless outcome =>
      refine ⟨member, carriesOn_of_unmoved ageless ?_ ?_⟩
      · rw [outcome]
        exact held
      · rw [outcome]
        rfl
  | lost now ageing hindered => exact absurd (canBeat now ageing) hindered
  | aged now ageing _ outcome =>
      obtain rfl := ageing
      have entry := entryAbout_aged ascending now member.identity
      have change := entryAbout_agedChanges ascending now member.identity
      rw [held, Option.bind_some] at entry change
      cases roster.fate now member with
      | renewed own => exact nomatch own.symm.trans other
      | evicted _ long => exact absurd long (Nat.not_lt_of_le (short now rfl))
      | failed _ short long alive fails told =>
          refine ⟨{ member with status := .failed }, rfl, rfl, rfl, ?_, ?_, ?_⟩
          · rw [outcome]
            exact entry.trans fails
          · exact Member.waned_cons_of_late alive short long
          · rw [outcome, change, told]
            exact Member.waning_cons_of_late alive short long
      | kept _ short fresh kept quiet =>
          refine ⟨member, rfl, rfl, rfl, ?_, ?_, ?_⟩
          · rw [outcome]
            exact entry.trans kept
          · exact Member.waned_cons_of_kept short fresh
          · rw [outcome, change, quiet]
            exact Member.waning_cons_of_kept short fresh

/-- The course of an entry that carries on goes on with it. -/
theorem CarriesOn.runsCourse_cons
    {roster : Roster}
    {member renewed : Member}
    {operation : Operation}
    (carriesOn : roster.CarriesOn operation member renewed)
    (ascending : Ascending roster.members)
    (operations : List Operation) :
    roster.RunsCourse member (operation :: operations) ↔
      (roster.undergo operation).1.RunsCourse renewed operations := by
  obtain ⟨-, sameFail, sameCleanup⟩ := roster.settings_undergo operation
  have entry := carriesOn.waned (ageings operations)
  have told := carriesOn.waning (ageings operations)
  rw [← ageings_cons] at entry told
  constructor
  · rintro ⟨entryRuns, toldRuns⟩
    rw [tidings_endure_cons ascending, told, List.append_cancel_left_eq] at toldRuns
    refine ⟨?_, ?_⟩
    · rw [carriesOn.sameIdentity, sameFail, sameCleanup, ← entry, ← entryRuns, endure]
    · rw [carriesOn.sameIdentity, sameFail, sameCleanup, toldRuns]
  · rintro ⟨entryRuns, toldRuns⟩
    rw [carriesOn.sameIdentity, sameFail, sameCleanup] at entryRuns toldRuns
    refine ⟨?_, ?_⟩
    · rw [endure, entryRuns, entry]
    · rw [tidings_endure_cons ascending, toldRuns, told]

/-- A roster that loses its entries does not give the member up as it should. -/
theorem not_runsCourse_of_lost
    {roster : Roster}
    {member : Member}
    {operation : Operation}
    (operations : List Operation)
    (ascending : Ascending roster.members)
    (lost : roster.undergo operation = (roster.emptied, [])) :
    ¬roster.RunsCourse member (operation :: operations) := by
  rintro ⟨entry, told⟩
  rw [endure, lost] at entry
  rw [tidings_endure_cons ascending, lost] at told
  have told : tidings member.identity (roster.emptied.endure operations).2 = _ := told
  have emptiedAscending : Ascending roster.emptied.members := ascending_nil
  have nobody : entryAbout member.identity roster.emptied.members = none := rfl
  obtain ⟨now, joined⟩ | ⟨absent, quiet⟩ := joined_or_unheard operations emptiedAscending nobody
  · exact Member.joined_not_mem_waning _ (told ▸ joined)
  · exact Member.waned_ne_none_of_waning_eq_nil (told.symm.trans quiet) (entry.symm.trans absent)

/-- An ageing that finds a member overdue ends its course. -/
theorem runsCourse_of_overdue
    {roster : Roster}
    {member : Member}
    {now : Instant}
    (ascending : Ascending roster.members)
    (held : entryAbout member.identity roster.members = some member)
    (other : member.identity.same roster.self = false)
    (long : roster.cleanupTimeout < member.silence now)
    (canBeat : roster.CanBeat) :
    roster.RunsCourse member [.age now] := by
  have entry := entryAbout_aged ascending now member.identity
  have change := entryAbout_agedChanges ascending now member.identity
  rw [held, Option.bind_some] at entry change
  cases roster.fate now member with
  | renewed own => exact nomatch own.symm.trans other
  | evicted _ _ gone told =>
      constructor
      · rw [endure, undergo_age_of_canBeat canBeat]
        refine ((find?_eq_entryAbout (ascending_aged ascending now) _).trans ?_).trans
          (Member.waned_of_overdue long).symm
        exact entry.trans gone
      · rw [tidings_endure_cons ascending, undergo_age_of_canBeat canBeat, change, told]
        exact (Member.waning_of_overdue long).symm
  | failed _ short | kept _ short => exact absurd long (Nat.not_lt_of_le short)

/-- The entry about a silent member runs its course exactly if no ageing is hindered
while it is held. -/
theorem runsCourse_lifetime_iff
    {roster : Roster}
    {member : Member}
    {operations : List Operation}
    (ascending : Ascending roster.members)
    (held : entryAbout member.identity roster.members = some member)
    (other : member.identity.same roster.self = false)
    (stale : ∀ operation ∈ operations, operation.IsStale member) :
    roster.RunsCourse member (member.lifetime roster.cleanupTimeout operations) ↔
      roster.Unhindered (member.lifetime roster.cleanupTimeout operations) := by
  induction operations generalizing roster member with
  | nil =>
      refine iff_of_true ⟨?_, ?_⟩ roster.unhindered_nil
      · exact ((find?_eq_entryAbout ascending _).trans held).trans Member.waned_nil.symm
      · exact Member.waning_nil.symm
  | cons operation operations inductionHypothesis =>
      obtain ⟨staleNow, staleLater⟩ := List.forall_mem_cons.mp stale
      by_cases canBeat : ∀ now, operation = .age now → roster.CanBeat
      · rw [Member.lifetime]
        split
        · rename_i overdue
          obtain ⟨now, ageing, long⟩ := overdue
          obtain rfl := Operation.eq_age_of_mem_ageing? ageing
          exact iff_of_true
            (runsCourse_of_overdue ascending held other long (canBeat now rfl))
            (unhindered_cons.mpr ⟨canBeat, unhindered_nil _⟩)
        · rename_i notOverdue
          obtain ⟨renewed, carriesOn⟩ := exists_carriesOn ascending held other staleNow
            (fun now ageing => Nat.le_of_not_lt fun long => notOverdue ⟨now, ageing, long⟩) canBeat
          obtain ⟨sameSelf, -, sameCleanup⟩ := roster.settings_undergo operation
          have heldStill : entryAbout renewed.identity (roster.undergo operation).1.members =
              some renewed := by
            rw [carriesOn.sameIdentity, carriesOn.entry]
          have otherStill : renewed.identity.same (roster.undergo operation).1.self = false := by
            rw [carriesOn.sameIdentity, sameSelf, other]
          have staleStill : ∀ later ∈ operations, later.IsStale renewed := by
            intro later present
            rw [Operation.IsStale, carriesOn.sameIdentity, carriesOn.sameHeartbeat]
            exact staleLater later present
          have rest := inductionHypothesis (ascending_undergo ascending operation).1 heldStill
            otherStill staleStill
          rw [sameCleanup, Member.lifetime_congr carriesOn.sameRefresh] at rest
          rw [carriesOn.runsCourse_cons ascending, unhindered_cons, rest, and_iff_right canBeat]
      · -- The roster loses its entries in the midst of the member's life.
        obtain ⟨life, shape⟩ := member.exists_lifetime_cons roster.cleanupTimeout operation
          operations
        rw [shape]
        refine iff_of_false ?_ fun unhindered => canBeat (unhindered_cons.mp unhindered).1
        cases roster.undergone operation with
        | lost _ _ _ lost => exact not_runsCourse_of_lost life ascending lost
        | merged _ _ ageless | passedOver ageless =>
            exact absurd (fun now ageing => absurd ageing (ageless now)) canBeat
        | aged _ _ beats => exact absurd (fun _ _ => beats) canBeat

/-- After an entry has run its course, the member is told to have joined again, or
nothing more is told of it and nothing changes about it. -/
theorem RunsCourse.unheard_or_joined
    {roster : Roster}
    {member : Member}
    {operations : List Operation}
    (runs : roster.RunsCourse member (member.lifetime roster.cleanupTimeout operations))
    (ascending : Ascending roster.members) :
    let life := member.lifetime roster.cleanupTimeout operations
    (∃ now, (now, .joined) ∈ tidings member.identity (roster.endure operations).2) ∨
      (roster.endure operations).1.find? member.identity =
          (roster.endure life).1.find? member.identity ∧
        tidings member.identity (roster.endure operations).2 =
          tidings member.identity (roster.endure life).2 := by
  intro life
  obtain whole | overdue : life = operations ∨ _ :=
    member.lifetime_eq_or_overdue roster.cleanupTimeout operations
  · rw [whole]
    exact .inr ⟨rfl, rfl⟩
  · obtain ⟨later, split⟩ : life <+: operations :=
      member.lifetime_prefix roster.cleanupTimeout operations
    have gone : (roster.endure life).1.find? member.identity = none := by
      obtain ⟨now, present, long⟩ := overdue
      rw [runs.entry, Member.waned, if_neg]
      exact fun never => List.find?_eq_none.mp never now present (decide_eq_true long)
    have lifeAscending := ascending_endure ascending life
    have absent := gone
    rw [find?_eq_entryAbout lifeAscending] at absent
    rw [← split, endure_append, tidings_append, gone]
    obtain ⟨now, joined⟩ | ⟨stillAbsent, quiet⟩ := joined_or_unheard later lifeAscending absent
    · exact .inl ⟨now, List.mem_append_right _ joined⟩
    · exact .inr ⟨stillAbsent, by rw [quiet, List.append_nil]⟩

/-- If ageing goes on from the last refresh of a live member, with no more than a gap in
between that fits between the timeouts, the member is told to have failed and to be
evicted within the gap after each timeout. -/
theorem RunsCourse.regular
    {roster : Roster}
    {member : Member}
    {operations : List Operation}
    {gap : Span}
    (runs : roster.RunsCourse member (member.lifetime roster.cleanupTimeout operations))
    (narrow :
      roster.failTimeout.nanoseconds + gap.nanoseconds ≤ roster.cleanupTimeout.nanoseconds)
    (regular : (member.refreshedAt :: ageings operations).IsChain
      fun earlier later => later ≤ earlier.after gap)
    (alive : member.status = .alive) :
    let life := member.lifetime roster.cleanupTimeout operations
    ((∃ now ∈ ageings operations, roster.failTimeout < member.silence now) →
      ∃ failedAt, (failedAt, .failed) ∈ tidings member.identity (roster.endure life).2 ∧
        member.IsSoonAfter roster.failTimeout gap failedAt) ∧
    ((∃ now ∈ ageings operations, roster.cleanupTimeout < member.silence now) →
      ∃ failedAt evictedAt,
        tidings member.identity (roster.endure life).2 =
          [(failedAt, .failed), (evictedAt, .evicted)] ∧
        member.IsSoonAfter roster.failTimeout gap failedAt ∧
        member.IsSoonAfter roster.cleanupTimeout gap evictedAt) := by
  intro life
  have notLonger : roster.failTimeout ≤ roster.cleanupTimeout :=
    Nat.le_trans (Nat.le_add_right _ _) narrow
  have lifeRegular : (member.refreshedAt :: ageings life).IsChain
      fun earlier later => later ≤ earlier.after gap :=
    regular.prefix (List.cons_prefix_cons.mpr
      ⟨rfl, (member.lifetime_prefix _ operations).filterMap _⟩)
  have told := runs.told
  rw [Member.waning, if_pos alive] at told
  refine ⟨fun beyond => ?_, fun beyond => ?_⟩
  · obtain ⟨failedAt, late, soon⟩ := Member.late?_of_regular narrow lifeRegular
      (Member.exists_beyond_of_lifetime notLonger beyond)
    refine ⟨failedAt, ?_, soon⟩
    rw [told, late]
    exact List.mem_append_left _ (List.mem_singleton_self _)
  · obtain ⟨evictedAt, overdue, soonEvicted⟩ := Member.overdue?_of_regular lifeRegular
      (Member.exists_beyond_of_lifetime (Nat.le_refl _) beyond)
    have lateToo : ∃ now ∈ ageings operations, roster.failTimeout < member.silence now :=
      beyond.imp fun _ long => ⟨long.1, Nat.lt_of_le_of_lt notLonger long.2⟩
    obtain ⟨failedAt, late, soonFailed⟩ := Member.late?_of_regular narrow lifeRegular
      (Member.exists_beyond_of_lifetime notLonger lateToo)
    refine ⟨failedAt, evictedAt, ?_, soonFailed, soonEvicted⟩
    rw [told, late, overdue]
    rfl

/-- The entry about a member of which nothing newer is heard runs its course, until it
is evicted, exactly if the node can count its heartbeat up whenever it ages meanwhile.
The entry is then in the end what a single ageing at the latest moment would have made
of it, and unless gossip has the member join anew, nothing else is ever told of it. If
ageing goes on from its last refresh with no more than a gap in between, and the gap
fits between the two timeouts, a live member is told to have failed and then to be
evicted, each within the gap after its timeout. -/
theorem silent_member_runs_its_course_iff
    {roster : Roster}
    {member : Member}
    {operations : List Operation}
    (ascending : Ascending roster.members)
    (held : roster.find? member.identity = some member)
    (other : member.identity.same roster.self = false)
    (stale : ∀ operation ∈ operations, operation.IsStale member) :
    let life := member.lifetime roster.cleanupTimeout operations
    let told := tidings member.identity (roster.endure life).2
    (roster.RunsCourse member life ↔ roster.Unhindered life) ∧
    (roster.Unhindered life →
      (∀ latest ∈ ageings life, (∀ now ∈ ageings life, now ≤ latest) →
        (roster.endure life).1.find? member.identity = roster.agedEntry latest member) ∧
      ((∃ now, (now, .joined) ∈ tidings member.identity (roster.endure operations).2) ∨
        (roster.endure operations).1.find? member.identity =
            (roster.endure life).1.find? member.identity ∧
          tidings member.identity (roster.endure operations).2 = told) ∧
      ∀ gap : Span,
        roster.failTimeout.nanoseconds + gap.nanoseconds ≤ roster.cleanupTimeout.nanoseconds →
        (member.refreshedAt :: ageings operations).IsChain
          (fun earlier later => later ≤ earlier.after gap) →
        member.status = .alive →
        ((∃ now ∈ ageings operations, roster.failTimeout < member.silence now) →
          ∃ failedAt, (failedAt, .failed) ∈ told ∧
            member.IsSoonAfter roster.failTimeout gap failedAt) ∧
        ((∃ now ∈ ageings operations, roster.cleanupTimeout < member.silence now) →
          ∃ failedAt evictedAt, told = [(failedAt, .failed), (evictedAt, .evicted)] ∧
            member.IsSoonAfter roster.failTimeout gap failedAt ∧
            member.IsSoonAfter roster.cleanupTimeout gap evictedAt)) := by
  intro life told
  rw [find?_eq_entryAbout ascending] at held
  have course : roster.RunsCourse member life ↔ roster.Unhindered life :=
    runsCourse_lifetime_iff ascending held other stale
  refine ⟨course, fun unhindered => ?_⟩
  have runs := course.mpr unhindered
  refine ⟨fun latest present isLatest => ?_, runs.unheard_or_joined ascending,
    fun gap narrow regular alive => runs.regular narrow regular alive⟩
  exact runs.entry.trans (Member.waned_eq_agedEntry other present isLatest)

/-- A member that fell silent at the start of the clock. -/
def sleeper : Member := ⟨⟨.v4 ⟨127, 0, 0, 1⟩ 7001, 2⟩, 4, ⟨0⟩, .alive⟩

/-- The roster of a node that holds a silent member, with its own heartbeat. -/
def bystander (heartbeat : UInt64) : Roster :=
  ⟨⟨.v4 ⟨127, 0, 0, 1⟩ 7000, 1⟩,
    [⟨⟨.v4 ⟨127, 0, 0, 1⟩ 7000, 1⟩, heartbeat, ⟨0⟩, .alive⟩, sleeper],
    .ofSeconds 2, .ofSeconds 5⟩

/-- Stale gossip, a broken datagram and four ageings, the first of them just in time. -/
def restlessNights : List Operation :=
  [.merge [⟨⟨.v4 ⟨127, 0, 0, 1⟩ 7001, 2⟩, 4, .left⟩] ⟨1000000000⟩, .age ⟨2000000000⟩,
    .age ⟨4000000000⟩, .receive [] ⟨4500000000⟩, .age ⟨7000000000⟩, .age ⟨8000000000⟩]

/-- The sleeper fails at the second ageing and is evicted at the third one, as regular
ageing with a gap of three seconds promises. -/
theorem sleeper_runs_its_course :
    (tidings sleeper.identity
        ((bystander 3).endure (sleeper.lifetime (.ofSeconds 5) restlessNights)).2 =
      [(⟨4000000000⟩, .failed), (⟨7000000000⟩, .evicted)]) ∧
    ((bystander 3).endure (sleeper.lifetime (.ofSeconds 5) restlessNights)).1.find?
      sleeper.identity = none ∧
    ∃ failedAt evictedAt,
      tidings sleeper.identity
          ((bystander 3).endure (sleeper.lifetime (.ofSeconds 5) restlessNights)).2 =
        [(failedAt, .failed), (evictedAt, .evicted)] ∧
      sleeper.IsSoonAfter (.ofSeconds 2) (.ofSeconds 3) failedAt ∧
      sleeper.IsSoonAfter (.ofSeconds 5) (.ofSeconds 3) evictedAt := by
  have ascending : Ascending (bystander 3).members := by
    unfold Ascending
    decide +kernel
  have held : (bystander 3).find? sleeper.identity = some sleeper := by decide +kernel
  have stale : ∀ operation ∈ restlessNights, operation.IsStale sleeper := by
    unfold Operation.IsStale
    decide +kernel
  obtain ⟨course, whole⟩ := silent_member_runs_its_course_iff ascending held
    (by decide +kernel) stale
  have unhindered : (bystander 3).Unhindered
      (sleeper.lifetime (bystander 3).cleanupTimeout restlessNights) := by
    apply unhindered_iff.mpr
    apply eq_ok_of_toOption_eq_some
    decide +kernel
  have runs := course.mpr unhindered
  refine ⟨runs.told.trans (by decide +kernel), runs.entry.trans (by decide +kernel), ?_⟩
  exact ((whole unhindered).2.2 (.ofSeconds 3) (by decide +kernel) (by decide +kernel) rfl).2
    ⟨⟨7000000000⟩, by decide +kernel, by decide +kernel⟩

/-- A node whose heartbeat has been raised to the greatest one by gossip forgets a
member that is overdue without telling that it is evicted. -/
theorem sleeper_is_forgotten_without_a_word :
    (founding ⟨.v4 ⟨127, 0, 0, 1⟩ 7000, 1⟩ (.ofSeconds 2) (.ofSeconds 5) ⟨0⟩).run
        [.merge [⟨⟨.v4 ⟨127, 0, 0, 1⟩ 7000, 1⟩, greatestHeartbeat, .alive⟩] ⟨0⟩,
          .merge [⟨⟨.v4 ⟨127, 0, 0, 1⟩ 7001, 2⟩, 4, .alive⟩] ⟨0⟩] =
      .ok (bystander greatestHeartbeat) ∧
    (bystander greatestHeartbeat).find? sleeper.identity = some sleeper ∧
    (bystander greatestHeartbeat).cleanupTimeout < sleeper.silence ⟨6000000000⟩ ∧
    (bystander greatestHeartbeat).apply (.age ⟨6000000000⟩) = .error .heartbeatOverflow ∧
    tidings sleeper.identity
      ((bystander greatestHeartbeat).endure [.age ⟨6000000000⟩]).2 = [] ∧
    ¬(bystander greatestHeartbeat).RunsCourse sleeper [.age ⟨6000000000⟩] := by
  have quiet : tidings sleeper.identity
      ((bystander greatestHeartbeat).endure [.age ⟨6000000000⟩]).2 = [] := by
    decide +kernel
  refine ⟨?_, by decide +kernel, by decide +kernel, rfl, quiet, fun runs => ?_⟩
  · apply eq_ok_of_toOption_eq_some
    decide +kernel
  · have told := quiet.symm.trans runs.told
    revert told
    decide +kernel

end Roster
end GossipGroup
