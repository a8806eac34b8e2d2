import GossipGroup.Proofs.Group.Exchanges

/-!
# Only a node can raise its own heartbeat

In a closed group every node is the authority on itself. What others hold or
say of it never has a greater heartbeat than the node itself, unless it says
that the node has left; and that is said only by the node, when it stops. So
nothing a running node hears can replace its own entry.
-/

namespace GossipGroup

/-! ## What a node warrants of itself -/

/-- A report about a node is no news to it: the heartbeat is not ahead of its
own, or the report is its own leave notice. -/
structure Participant.Warrants (owner : Participant) (report : Report) : Prop where
  about : owner.roster.self.same report.identity = true
  notAhead : report.status ≠ .left → report.heartbeat ≤ owner.roster.ownHeartbeat
  farewell : report.status = .left → owner.stopped = true ∧
    report.heartbeat = Roster.raised owner.roster.ownHeartbeat owner.charter.leaveMargin

/-- How a node may change: its heartbeat never falls, and nothing changes once
it has stopped. -/
structure Participant.Advances (earlier later : Participant) : Prop where
  self : later.roster.self = earlier.roster.self
  heartbeat : earlier.roster.ownHeartbeat ≤ later.roster.ownHeartbeat
  settled : earlier.stopped = true → later = earlier

/-- The node's entry about itself names it as it is, alive, with a heartbeat for
every time it has aged. -/
def Participant.HasBeaten (participant : Participant) (count : Nat) : Prop :=
  ∃ own, entryAbout participant.roster.self participant.roster.members = some own ∧
    own.identity = participant.roster.self ∧ own.status = .alive ∧
      own.heartbeat.toNat = count

theorem Participant.advances_of_running
    {earlier later : Participant}
    (active : earlier.stopped = false)
    (self : later.roster.self = earlier.roster.self)
    (heartbeat : earlier.roster.ownHeartbeat ≤ later.roster.ownHeartbeat) :
    earlier.Advances later := by
  refine ⟨self, heartbeat, fun stopped => ?_⟩
  rw [active] at stopped
  contradiction

theorem Participant.Warrants.later
    {owner later : Participant}
    {report : Report}
    (warrants : owner.Warrants report)
    (advances : owner.Advances later) :
    later.Warrants report where
  about := advances.self.symm ▸ warrants.about
  notAhead := fun present =>
    UInt64.le_trans (warrants.notAhead present) advances.heartbeat
  farewell := fun gone => by
    rw [advances.settled (warrants.farewell gone).1]
    exact warrants.farewell gone

/-- A live report may grow old and say that the node has failed. -/
theorem Participant.Warrants.aged
    {owner : Participant}
    {earlier later : Report}
    (warrants : owner.Warrants earlier)
    (identity : later.identity = earlier.identity)
    (heartbeat : later.heartbeat = earlier.heartbeat)
    (status : later.status = earlier.status ∨
      earlier.status = .alive ∧ later.status = .failed) :
    owner.Warrants later := by
  rcases status with unchanged | ⟨wasAlive, failed⟩
  · have equal : later = earlier := by
      cases later
      cases earlier
      simp_all
    exact equal ▸ warrants
  · refine ⟨identity ▸ warrants.about, fun _ => ?_, fun gone => ?_⟩
    · rw [heartbeat]
      refine warrants.notAhead ?_
      rw [wasAlive]
      decide
    · rw [failed] at gone
      contradiction

namespace Group

/-- Some node warrants a report. -/
def Warrants (group : Group) (report : Report) : Prop :=
  ∃ owner ∈ group.participants, owner.Warrants report

/-- Everything held and sent in a group is warranted, and every running node
holds itself alive with a heartbeat for every time it has aged. -/
structure Credible (beats : Nat → Nat) (group : Group) : Prop where
  distinct : Distinct group.selves
  wellFormed : ∀ participant ∈ group.participants, participant.roster.WellFormed
  entries : ∀ participant ∈ group.participants,
    ∀ member ∈ participant.roster.members, group.Warrants member.report
  ascending : ∀ digest ∈ group.sent, Ascending digest.reports
  reports : ∀ digest ∈ group.sent, ∀ report ∈ digest.reports,
    report.status ≠ .failed ∧ group.Warrants report
  own : ∀ node participant, group.running? node = some participant →
    participant.HasBeaten (beats node)

/-! ## Deeds -/

theorem Warrants.put
    {group : Group}
    {node : Nat}
    {participant later : Participant}
    {report : Report}
    (warrants : group.Warrants report)
    (present : group.participants[node]? = some participant)
    (advances : participant.Advances later) :
    (group.put node later).Warrants report := by
  obtain ⟨owner, ownerPresent, ownerWarrants⟩ := warrants
  rcases mem_set_of_mem present ownerPresent with itself | unchanged
  · exact ⟨later, mem_set_of_present present, (itself ▸ ownerWarrants).later advances⟩
  · exact ⟨owner, unchanged, ownerWarrants⟩

/-- A group stays credible when one node advances, as long as what it then holds
is warranted. -/
theorem Credible.put
    {beats counted : Nat → Nat}
    {group : Group}
    {node : Nat}
    {participant later : Participant}
    (credible : group.Credible beats)
    (running : group.running? node = some participant)
    (advances : participant.Advances later)
    (wellFormed : later.roster.WellFormed)
    (entries : ∀ member ∈ later.roster.members, (group.put node later).Warrants member.report)
    (own : later.stopped = false → later.HasBeaten (counted node))
    (others : ∀ other, node ≠ other → counted other = beats other) :
    (group.put node later).Credible counted := by
  have present := (running?_eq_some_iff.mp running).1
  have everybody : ∀ state ∈ (group.put node later).participants,
      state ∈ group.participants ∨ state = later :=
    fun state statePresent => List.mem_or_eq_of_mem_set statePresent
  refine ⟨?_, ?_, ?_, credible.ascending, ?_, ?_⟩
  · rw [selves, Group.put, map_set_of_present present advances.self]
    exact credible.distinct
  · intro state statePresent
    rcases everybody state statePresent with before | equal
    · exact credible.wellFormed state before
    · exact equal ▸ wellFormed
  · intro state statePresent member held
    rcases everybody state statePresent with before | equal
    · exact (credible.entries state before member held).put present advances
    · exact entries member (equal ▸ held)
  · intro digest sent report told
    obtain ⟨notFailed, warrants⟩ := credible.reports digest sent report told
    exact ⟨notFailed, warrants.put present advances⟩
  · intro other state stateRunning
    rw [running?_put present] at stateRunning
    split at stateRunning
    · rename_i equal
      obtain ⟨same, running⟩ := Option.filter_eq_some_iff.mp stateRunning
      obtain rfl := Option.some.inj same
      rw [Bool.not_eq_true'] at running
      exact equal ▸ own running
    · rename_i different
      rw [others other different]
      exact credible.own other state stateRunning

/-- A group stays credible when a warranted digest is sent. -/
theorem Credible.post
    {beats : Nat → Nat}
    {group : Group}
    {digest : Digest}
    (credible : group.Credible beats)
    (ascending : Ascending digest.reports)
    (reports : ∀ report ∈ digest.reports, report.status ≠ .failed ∧ group.Warrants report) :
    (group.post digest).Credible beats where
  distinct := credible.distinct
  wellFormed := credible.wellFormed
  entries := credible.entries
  ascending := by
    intro message sent
    rcases List.mem_append.mp sent with before | added
    · exact credible.ascending message before
    · rw [List.mem_singleton.mp added]
      exact ascending
  reports := by
    intro message sent
    rcases List.mem_append.mp sent with before | added
    · exact credible.reports message before
    · rw [List.mem_singleton.mp added]
      exact reports
  own := credible.own

/-- Only the counts of running nodes matter. -/
theorem Credible.recount
    {beats counted : Nat → Nat}
    {group : Group}
    (credible : group.Credible beats)
    (same : ∀ node participant, group.running? node = some participant →
      counted node = beats node) :
    group.Credible counted :=
  { credible with
    own := fun node participant running =>
      same node participant running ▸ credible.own node participant running }

/-- What a node has said of itself, or has been said of it, is no news to it
while it runs. -/
theorem Credible.entryAbout_merge
    {beats : Nat → Nat}
    {group : Group}
    {node : Nat}
    {participant : Participant}
    {digest : Digest}
    {own : Member}
    (credible : group.Credible beats)
    (running : group.running? node = some participant)
    (sent : digest ∈ group.sent)
    (held : entryAbout participant.roster.self participant.roster.members = some own)
    (now : Instant) :
    entryAbout participant.roster.self (participant.roster.merge digest now).1.members =
      some own := by
  have active := (running?_eq_some_iff.mp running).2
  have present := mem_of_running? running
  have wellFormed := credible.wellFormed participant present
  refine (Roster.entryAbout_merge_of_stale wellFormed.ascending
    (credible.ascending digest sent) held (fun report reported => ?_) now).1
  obtain ⟨-, owner, ownerPresent, warrants⟩ :=
    credible.reports digest sent report (mem_of_entryAbout reported)
  have itself : owner = participant :=
    credible.distinct.eq_of_same ownerPresent present
      (Identity.same_trans warrants.about (same_of_entryAbout reported))
  subst itself
  have notLeft : report.status ≠ .left := fun gone => by
    rw [(warrants.farewell gone).1] at active
    contradiction
  have notAhead := warrants.notAhead notLeft
  rw [Roster.ownHeartbeat_eq wellFormed.ascending held] at notAhead
  exact notAhead

/-- A group stays credible when a node ages. -/
theorem Credible.age
    {beats : Nat → Nat}
    {group : Group}
    {node : Nat}
    {participant : Participant}
    (credible : group.Credible beats)
    (running : group.running? node = some participant)
    (canBeat : participant.roster.CanBeat)
    (now : Instant) :
    (group.put node { participant with roster := participant.roster.aged now }).Credible
      fun other => beats other + if node = other then 1 else 0 := by
  obtain ⟨found, active⟩ := running?_eq_some_iff.mp running
  have present := mem_of_running? running
  have wellFormed := credible.wellFormed participant present
  obtain ⟨own, held, -, -, count⟩ := credible.own node participant running
  have notGreatest := (Roster.canBeat_iff wellFormed.ascending held).mp canBeat
  have renewed := Roster.entryAbout_self_aged wellFormed.ascending held now
  have counted := Roster.toNat_add_one notGreatest
  have agedWellFormed := wellFormed.aged now
  have ownBefore := Roster.ownHeartbeat_eq wellFormed.ascending held
  have ownAfter := Roster.ownHeartbeat_eq agedWellFormed.ascending renewed
  have advances : participant.Advances
      { participant with roster := participant.roster.aged now } := by
    refine Participant.advances_of_running active rfl ?_
    rw [ownBefore, ownAfter, UInt64.le_iff_toNat_le, counted]
    exact Nat.le_succ _
  refine credible.put running advances agedWellFormed ?_ ?_ ?_
  · intro member memberPresent
    rcases Roster.mem_aged memberPresent with
      ⟨older, olderPresent, same, rfl⟩ | ⟨older, olderPresent, identity, heartbeat, -, status⟩
    · have itself := wellFormed.ascending.entryAbout_eq_some_iff.mpr ⟨olderPresent, same⟩
      rw [held, Option.some.injEq] at itself
      refine ⟨_, mem_set_of_present found, Identity.same_refl _, fun _ => ?_, fun gone => ?_⟩
      · rw [ownAfter, itself]
        exact UInt64.le_refl _
      · contradiction
    · obtain ⟨owner, ownerPresent, warrants⟩ :=
        (credible.entries participant present older olderPresent).put found advances
      exact ⟨owner, ownerPresent, warrants.aged identity heartbeat status⟩
  · intro _
    exact ⟨_, renewed, rfl, rfl, by rw [counted, count, if_pos rfl]⟩
  · intro other different
    rw [if_neg different, Nat.add_zero]

/-- A group stays credible when a running node merges what was sent. -/
theorem Credible.hear
    {beats : Nat → Nat}
    {group : Group}
    {node : Nat}
    {participant : Participant}
    {digest : Digest}
    (credible : group.Credible beats)
    (running : group.running? node = some participant)
    (sent : digest ∈ group.sent)
    (now : Instant) :
    (group.put node
      { participant with roster := (participant.roster.merge digest now).1 }).Credible beats := by
  obtain ⟨found, active⟩ := running?_eq_some_iff.mp running
  have present := mem_of_running? running
  have wellFormed := credible.wellFormed participant present
  have mergedWellFormed := wellFormed.merge (credible.ascending digest sent) now
  obtain ⟨own, held, named, living, count⟩ := credible.own node participant running
  have kept := credible.entryAbout_merge running sent held now
  have advances : participant.Advances
      { participant with roster := (participant.roster.merge digest now).1 } := by
    refine Participant.advances_of_running active rfl ?_
    rw [Roster.ownHeartbeat_eq wellFormed.ascending held,
      Roster.ownHeartbeat_eq mergedWellFormed.ascending kept]
    exact UInt64.le_refl _
  refine credible.put running advances mergedWellFormed ?_ ?_ fun _ _ => rfl
  · intro member memberPresent
    rcases Roster.mem_merge wellFormed.ascending (credible.ascending digest sent) memberPresent with
      before | ⟨report, told, rfl⟩
    · exact (credible.entries participant present member before).put found advances
    · exact (credible.reports digest sent report told).2.put found advances
  · exact fun _ => ⟨own, kept, named, living, count⟩

/-- A group stays credible when a running node sends what it shares. -/
theorem Credible.share
    {beats : Nat → Nat}
    {group : Group}
    {node : Nat}
    {participant : Participant}
    (credible : group.Credible beats)
    (running : group.running? node = some participant)
    (now : Instant) :
    (group.post (participant.roster.shared now)).Credible beats := by
  have present := mem_of_running? running
  refine credible.post
    (Roster.ascending_shared (credible.wellFormed participant present).ascending now) ?_
  intro report told
  obtain ⟨notFailed, member, held, rfl⟩ := Roster.mem_shared told
  exact ⟨notFailed, credible.entries participant present member held⟩

/-- A group stays credible when a node stops and says so. -/
theorem Credible.leave
    {beats : Nat → Nat}
    {group : Group}
    {node : Nat}
    {participant : Participant}
    (credible : group.Credible beats)
    (running : group.running? node = some participant) :
    ((group.put node { participant with stopped := true }).post
      (participant.roster.leaveNotice participant.charter.leaveMargin)).Credible beats := by
  obtain ⟨found, active⟩ := running?_eq_some_iff.mp running
  have present := mem_of_running? running
  have advances : participant.Advances { participant with stopped := true } :=
    Participant.advances_of_running active rfl (UInt64.le_refl _)
  have stopped : (group.put node { participant with stopped := true }).Credible beats := by
    refine credible.put running advances (credible.wellFormed participant present) ?_ ?_
      fun _ _ => rfl
    · exact fun member held =>
        (credible.entries participant present member held).put found advances
    · exact nofun
  refine stopped.post (Roster.ascending_leaveNotice _ _) fun report told => ?_
  rw [List.mem_singleton.mp told]
  refine ⟨nofun, _, mem_set_of_present found, Identity.same_refl _, fun notLeft => ?_, fun _ => ?_⟩
  · exact absurd rfl notLeft
  · exact ⟨rfl, rfl⟩

/-! ## Runs -/

/-- One deed keeps a group credible. -/
theorem Credible.effect
    {beats : Nat → Nat}
    {group next : Group}
    {deed : Deed}
    {changes : List Change}
    (credible : group.Credible beats)
    (effect : group.Effect deed next changes) :
    next.Credible fun node => beats node + if deed.beats node then 1 else 0 := by
  cases effect with
  | absent absent =>
      refine credible.recount fun node participant running => ?_
      cases beating : deed.beats node with
      | false => rfl
      | true =>
          rw [Deed.actor_eq_of_beats beating, running] at absent
          contradiction
  | unsent unsent => exact credible
  | aged running canBeat =>
      refine (credible.age running canBeat _).recount fun node _ _ => ?_
      simp only [Deed.beats, beq_iff_eq]
  | shared running => exact credible.share running _
  | heard running sent => exact credible.hear running (List.mem_of_getElem? sent) _
  | left running => exact credible.leave running

/-- A deed is possible if the node it counts up has not aged too often. -/
theorem Credible.perform_eq_ok
    {beats : Nat → Nat}
    {group : Group}
    {deed : Deed}
    (credible : group.Credible beats)
    (few : ∀ node, deed.beats node = true → beats node < UInt64.size - 1) :
    ∃ next changes, group.perform deed = .ok (next, changes) := by
  cases deed with
  | age node now =>
      rw [perform]
      split
      · exact ⟨_, _, rfl⟩
      · rename_i participant running
        obtain ⟨own, held, -, -, count⟩ := credible.own node participant running
        have present := mem_of_running? running
        have ascending := (credible.wellFormed participant present).ascending
        have notGreatest : own.heartbeat ≠ Roster.greatestHeartbeat := by
          intro greatest
          have bound := few node (beq_self_eq_true node)
          rw [← count, greatest] at bound
          exact absurd bound (by decide)
        have canBeat := (Roster.canBeat_iff ascending held).mpr notGreatest
        rw [Roster.age_eq_ok_iff.mpr ⟨canBeat, rfl⟩]
        exact ⟨_, _, rfl⟩
  | share node now =>
      rw [perform]
      split <;> exact ⟨_, _, rfl⟩
  | hear node message now =>
      rw [perform]
      split <;> exact ⟨_, _, rfl⟩
  | leave node =>
      rw [perform]
      split <;> exact ⟨_, _, rfl⟩

/-- Every run in which no node ages too often succeeds and keeps a group
credible. -/
theorem Credible.run
    {beats : Nat → Nat}
    {group : Group}
    (credible : group.Credible beats)
    (deeds : List Deed)
    (few : ∀ node, beats node + deeds.countP (·.beats node) < UInt64.size) :
    ∃ last, group.run deeds = .ok last ∧
      (last.Credible fun node => beats node + deeds.countP (·.beats node)) ∧
        last.selves = group.selves ∧ last.charters = group.charters := by
  induction deeds generalizing beats group with
  | nil => exact ⟨group, rfl, credible, rfl, rfl⟩
  | cons deed deeds inductionHypothesis =>
      simp only [List.countP_cons] at few ⊢
      obtain ⟨next, changes, performed⟩ := credible.perform_eq_ok fun node beating => by
        have bound := few node
        rw [if_pos beating] at bound
        omega
      have effect := effect_of_perform performed
      obtain ⟨last, ran, lastCredible, sameSelves, sameCharters⟩ :=
        inductionHypothesis (credible.effect effect) fun node => by
          have bound := few node
          omega
      refine ⟨last, ?_, lastCredible.recount fun node _ _ => ?_,
        sameSelves.trans effect.constant.1, sameCharters.trans effect.constant.2⟩
      · rw [Group.run, performed]
        exact ran
      · omega

theorem credible_founding
    {charters : List Charter}
    (distinct : charters.Pairwise fun left right => left.self.same right.self = false) :
    (founding charters).Credible fun _ => 0 where
  distinct := by
    rw [selves, founding, List.map_map]
    exact List.pairwise_map.mpr distinct
  wellFormed := by
    intro participant present
    obtain ⟨charter, -, rfl⟩ := List.mem_map.mp present
    exact Roster.wellFormed_founding _ _ _ _
  entries := by
    intro participant present member held
    refine ⟨participant, present, ?_⟩
    obtain ⟨charter, -, rfl⟩ := List.mem_map.mp present
    rw [List.mem_singleton.mp held]
    exact ⟨Identity.same_refl _, fun _ => UInt64.zero_le, nofun⟩
  ascending := nofun
  reports := nofun
  own := by
    intro node participant running
    have present := mem_of_running? running
    obtain ⟨charter, -, rfl⟩ := List.mem_map.mp present
    refine ⟨⟨charter.self, 0, charter.start, .alive⟩, ?_, rfl, rfl, rfl⟩
    simp [Charter.participant, Roster.founding, entryAbout_cons]

/-- A report is what some node holds or what was sent. -/
def Tells (group : Group) (report : Report) : Prop :=
  (∃ participant ∈ group.participants,
    ∃ member ∈ participant.roster.members, member.report = report) ∨
  ∃ digest ∈ group.sent, report ∈ digest.reports

theorem Credible.warrants
    {beats : Nat → Nat}
    {group : Group}
    {report : Report}
    (credible : group.Credible beats)
    (tells : group.Tells report) :
    group.Warrants report := by
  rcases tells with ⟨participant, present, member, held, rfl⟩ | ⟨digest, sent, told⟩
  · exact credible.entries participant present member held
  · exact (credible.reports digest sent report told).2

/-- However nodes of different members age, exchange digests and leave, what is
held and sent about a member is not ahead of its node's own heartbeat, or else
is the leave notice the node sent when it stopped, its heartbeat raised by its
margin. No failure is ever sent. A running node holds itself alive with a
heartbeat for every time it has aged, and nothing that was sent changes that. -/
theorem authority_of_run
    {charters : List Charter}
    {deeds : List Deed}
    (distinct : charters.Pairwise fun left right => left.self.same right.self = false)
    (few : ∀ node, deeds.countP (·.beats node) < UInt64.size) :
    ∃ group, (founding charters).run deeds = .ok group ∧
      group.charters = charters ∧ group.selves = charters.map (·.self) ∧
      (∀ report, group.Tells report →
        ∃ owner ∈ group.participants, owner.roster.self.same report.identity = true ∧
          (report.status ≠ .left → report.heartbeat ≤ owner.roster.ownHeartbeat) ∧
          (report.status = .left → owner.stopped = true ∧
            (owner.roster.ownHeartbeat.toNat + owner.charter.leaveMargin.toNat < UInt64.size →
              report.heartbeat.toNat =
                owner.roster.ownHeartbeat.toNat + owner.charter.leaveMargin.toNat))) ∧
      (∀ digest ∈ group.sent, ∀ report ∈ digest.reports, report.status ≠ .failed) ∧
      ∀ node participant, group.running? node = some participant →
        ∃ own, participant.roster.find? participant.roster.self = some own ∧
          own.identity = participant.roster.self ∧ own.status = .alive ∧
          own.heartbeat.toNat = deeds.countP (·.beats node) ∧
          ∀ digest ∈ group.sent, ∀ now,
            (participant.roster.merge digest now).1.find? participant.roster.self = some own := by
  obtain ⟨group, ran, credible, sameSelves, sameCharters⟩ :=
    (credible_founding distinct).run deeds fun node => by
      have bound := few node
      omega
  refine ⟨group, ran, ?_, ?_, ?_, ?_, ?_⟩
  · rw [sameCharters, Group.charters, founding, List.map_map]
    exact List.map_id charters
  · rw [sameSelves, selves, founding, List.map_map]
    rfl
  · intro report tells
    obtain ⟨owner, present, about, notAhead, farewell⟩ := credible.warrants tells
    refine ⟨owner, present, about, notAhead, fun gone => ⟨(farewell gone).1, fun unsaturated => ?_⟩⟩
    rw [(farewell gone).2, Roster.toNat_raised unsaturated]
  · exact fun digest sent report told => (credible.reports digest sent report told).1
  · intro node participant running
    have present := mem_of_running? running
    have wellFormed := credible.wellFormed participant present
    obtain ⟨own, held, named, living, count⟩ := credible.own node participant running
    refine ⟨own, ?_, named, living, count.trans (Nat.zero_add _), fun digest sent now => ?_⟩
    · rw [Roster.find?_eq_entryAbout wellFormed.ascending, held]
    · have merged := wellFormed.merge (credible.ascending digest sent) now
      rw [Roster.find?_eq_entryAbout merged.ascending]
      exact credible.entryAbout_merge running sent held now

/-- Two nodes of one host. -/
def couple : List Charter :=
  [⟨⟨.v4 ⟨127, 0, 0, 1⟩ 7000, 1⟩, .ofSeconds 2, .ofSeconds 5, ⟨0⟩, 10⟩,
    ⟨⟨.v4 ⟨127, 0, 0, 1⟩ 7001, 2⟩, .ofSeconds 2, .ofSeconds 5, ⟨0⟩, 10⟩]

/-- The first node ages, tells the second of itself and leaves. -/
def farewell : List Deed :=
  [.age 0 ⟨1⟩, .share 0 ⟨2⟩, .hear 1 0 ⟨3⟩, .age 1 ⟨4⟩, .leave 0, .hear 1 1 ⟨5⟩]

/-- The node that leaves says so with the heartbeat one raised by ten, and the
other holds itself as it has aged. -/
theorem authority_of_farewell :
    ∃ group, (founding couple).run farewell = .ok group ∧
      group.sent.map (·.reports) =
        [[⟨⟨.v4 ⟨127, 0, 0, 1⟩ 7000, 1⟩, 1, .alive⟩],
          [⟨⟨.v4 ⟨127, 0, 0, 1⟩ 7000, 1⟩, 11, .left⟩]] ∧
      ∀ participant, group.running? 1 = some participant →
        ∃ own, participant.roster.find? participant.roster.self = some own ∧
          own.heartbeat.toNat = 1 := by
  have distinct : couple.Pairwise fun left right => left.self.same right.self = false :=
    List.pairwise_pair.mpr (by decide +kernel)
  have few : ∀ node, farewell.countP (·.beats node) < UInt64.size :=
    fun node => Nat.lt_of_le_of_lt List.countP_le_length (by decide)
  have sent : ((founding couple).run farewell).map (fun group => group.sent.map (·.reports)) =
      .ok [[⟨⟨.v4 ⟨127, 0, 0, 1⟩ 7000, 1⟩, 1, .alive⟩],
        [⟨⟨.v4 ⟨127, 0, 0, 1⟩ 7000, 1⟩, 11, .left⟩]] := by
    apply Roster.eq_ok_of_toOption_eq_some
    decide +kernel
  obtain ⟨group, ran, -, -, -, -, own⟩ := authority_of_run distinct few
  rw [ran] at sent
  refine ⟨group, ran, Except.ok.inj sent, fun participant running => ?_⟩
  obtain ⟨entry, found, -, -, count, -⟩ := own 1 participant running
  exact ⟨entry, found, count⟩

end Group
end GossipGroup
