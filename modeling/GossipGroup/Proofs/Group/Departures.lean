import GossipGroup.Proofs.Group.Authority
import GossipGroup.Settings

/-!
# A recorded departure is final

In a closed group only a node itself says that it has left, when it stops, and
with a heartbeat that is not behind anything it ever said. A node that has
recorded the departure therefore keeps exactly what it recorded, however much
old gossip it still hears, and tells nothing more about the member until it
evicts it.
-/

namespace GossipGroup
namespace Group

/-- A change, and the node that tells it. -/
abbrev News : Type := Nat × Change

/-- A group after several deeds, and all changes that were told on the way. -/
def chronicle (group : Group) : List Deed → Except Roster.AgeError (Group × List News)
  | [] => .ok (group, [])
  | deed :: deeds =>
      match group.perform deed with
      | .error error => .error error
      | .ok (next, changes) =>
          match next.chronicle deeds with
          | .error error => .error error
          | .ok (last, later) => .ok (last, changes.map (deed.actor, ·) ++ later)

/-- A chronicle without its news is a run. -/
theorem map_chronicle (group : Group) (deeds : List Deed) :
    (group.chronicle deeds).map (·.1) = group.run deeds := by
  induction deeds generalizing group with
  | nil => rfl
  | cons deed deeds inductionHypothesis =>
      rw [chronicle, run]
      cases group.perform deed with
      | error error => rfl
      | ok result =>
          simp only [← inductionHypothesis]
          cases result.1.chronicle deeds <;> rfl

/-- What a node holds about a member. -/
def held? (group : Group) (node : Nat) (identity : Identity) : Option Member :=
  group.participants[node]?.bind fun participant => participant.roster.find? identity

/-- What a node tells about a member. -/
def tellings (node : Nat) (identity : Identity) (news : List News) : List Change :=
  (news.filter fun item => item.1 == node && item.2.identity.same identity).map (·.2)

/-- The first of several deeds, and the rest. -/
theorem chronicle_cons_eq_ok
    {group last : Group}
    {deed : Deed}
    {deeds : List Deed}
    {news : List News}
    (passed : group.chronicle (deed :: deeds) = .ok (last, news)) :
    ∃ next changes later, group.perform deed = .ok (next, changes) ∧
      next.chronicle deeds = .ok (last, later) ∧
        news = changes.map (deed.actor, ·) ++ later := by
  rw [chronicle] at passed
  split at passed
  · contradiction
  · rename_i next changes performed
    split at passed
    · contradiction
    · rename_i final later passedRest
      obtain ⟨rfl, rfl⟩ := Prod.mk.inj (Except.ok.inj passed)
      exact ⟨next, changes, later, performed, passedRest, rfl⟩

theorem held?_put
    {group : Group}
    {actor : Nat}
    {participant : Participant}
    (present : group.participants[actor]? = some participant)
    (later : Participant)
    (node : Nat)
    (identity : Identity) :
    (group.put actor later).held? node identity =
      if actor = node then later.roster.find? identity else group.held? node identity := by
  rw [held?, put, getElem?_set_of_present present]
  split <;> rfl

/-- A node whose roster stays as it is holds what it held. -/
theorem held?_put_of_roster_eq
    {group : Group}
    {actor : Nat}
    {participant : Participant}
    (present : group.participants[actor]? = some participant)
    (later : Participant)
    (same : later.roster = participant.roster)
    (node : Nat)
    (identity : Identity) :
    (group.put actor later).held? node identity = group.held? node identity := by
  rw [held?_put present]
  split
  · rename_i equal
    rw [held?, ← equal, present, Option.bind_some, same]
  · rfl

theorem tellings_append (node : Nat) (identity : Identity) (earlier later : List News) :
    tellings node identity (earlier ++ later) =
      tellings node identity earlier ++ tellings node identity later := by
  rw [tellings, List.filter_append, List.map_append]
  rfl

/-- Of one batch, a node tells about a member what the batch has about it, if the
node is the one that acts. -/
theorem tellings_batch
    {changes : List Change}
    (ascending : Ascending changes)
    (actor node : Nat)
    (identity : Identity) :
    tellings node identity (changes.map (actor, ·)) =
      if actor = node then (entryAbout identity changes).toList else [] := by
  rw [tellings, List.filter_map, List.map_map]
  split
  · rename_i equal
    have only := ascending.filter_same_eq_toList identity
    simpa [Function.comp_def, equal] using only
  · rename_i different
    simp [Function.comp_def, different]

/-! ## Nothing is newer than a recorded departure -/

/-- No report about a member that was ever sent is ahead of a recorded departure
of the member. -/
theorem Credible.heartbeat_le_of_left
    {beats : Nat → Nat}
    {group : Group}
    {participant : Participant}
    {member : Member}
    {digest : Digest}
    {report : Report}
    (credible : group.Credible beats)
    (present : participant ∈ group.participants)
    (held : member ∈ participant.roster.members)
    (gone : member.status = .left)
    (sent : digest ∈ group.sent)
    (told : report ∈ digest.reports)
    (same : report.identity.same member.identity = true) :
    report.heartbeat ≤ member.heartbeat := by
  obtain ⟨owner, ownerPresent, warrants⟩ := credible.entries participant present member held
  obtain ⟨-, other, otherPresent, otherWarrants⟩ := credible.reports digest sent report told
  -- The same node answers for what is held and for what is reported.
  have itself : other = owner := by
    refine credible.distinct.eq_of_same otherPresent ownerPresent ?_
    exact Identity.same_trans otherWarrants.about
      (Identity.same_trans same (Identity.same_symm warrants.about))
  subst itself
  have departure := (warrants.farewell gone).2
  change member.heartbeat = _ at departure
  rw [departure]
  by_cases alsoGone : report.status = .left
  · rw [(otherWarrants.farewell alsoGone).2]
    exact UInt64.le_refl _
  · exact UInt64.le_trans (otherWarrants.notAhead alsoGone) (Roster.le_raised _ _)

/-- A running node has recorded no departure of its own. -/
theorem Credible.other_of_left
    {beats : Nat → Nat}
    {group : Group}
    {node : Nat}
    {participant : Participant}
    {member : Member}
    (credible : group.Credible beats)
    (running : group.running? node = some participant)
    (held : member ∈ participant.roster.members)
    (gone : member.status = .left) :
    member.identity.same participant.roster.self = false := by
  rw [← Bool.not_eq_true]
  intro itself
  obtain ⟨own, ownHeld, -, living, -⟩ := credible.own node participant running
  have ascending := (credible.wellFormed participant (mem_of_running? running)).ascending
  have found := ascending.entryAbout_eq_some_iff.mpr ⟨held, itself⟩
  rw [ownHeld, Option.some.injEq] at found
  rw [← found, living] at gone
  contradiction

/-! ## What becomes of a recorded departure -/

/-- What a deed may do to a departure that a node has recorded. -/
inductive Sequel
    (node : Nat)
    (identity : Identity)
    (member : Member)
    (deed : Deed)
    (next : Group)
    (changes : List Change) : Prop
  /-- The node holds it as it was, and tells nothing of the member. -/
  | kept
      (held : next.held? node identity = some member)
      (quiet : tellings node identity (changes.map (deed.actor, ·)) = [])
  /-- The node ages, evicts the member, and tells just that of it. -/
  | cleared {now}
      (aged : deed = .age node now)
      (gone : next.held? node identity = none)
      (told : tellings node identity (changes.map (deed.actor, ·)) =
        [⟨member.identity, .evicted⟩])

variable {beats : Nat → Nat} {group next : Group} {node actor : Nat}
  {identity : Identity} {member : Member} {participant : Participant}

/-- A recorded departure when a node ages. -/
theorem Credible.sequel_of_age
    (credible : group.Credible beats)
    (running : group.running? actor = some participant)
    (held : group.held? node identity = some member)
    (gone : member.status = .left)
    (now : Instant) :
    Sequel node identity member (.age actor now)
      (group.put actor { participant with roster := participant.roster.aged now })
      (participant.roster.agedChanges now) := by
  have present := (running?_eq_some_iff.mp running).1
  have wellFormed := credible.wellFormed participant (mem_of_running? running)
  have agedWellFormed := wellFormed.aged now
  have changesAscending := Roster.ascending_agedChanges wellFormed.ascending now
  by_cases itself : actor = node
  · subst itself
    rw [held?, present, Option.bind_some, Roster.find?_eq_entryAbout wellFormed.ascending] at held
    have other := credible.other_of_left running (mem_of_entryAbout held) gone
    have entry := Roster.entryAbout_aged wellFormed.ascending now identity
    have change := Roster.entryAbout_agedChanges wellFormed.ascending now identity
    rw [held, Option.bind_some] at entry change
    have holds : ∀ left, participant.roster.agedEntry now member = left →
        (group.put actor { participant with roster := participant.roster.aged now }).held? actor
          identity = left := by
      intro left becomes
      rw [held?_put present, if_pos rfl, Roster.find?_eq_entryAbout agedWellFormed.ascending,
        entry, becomes]
    have tells : tellings actor identity
        ((participant.roster.agedChanges now).map ((Deed.age actor now).actor, ·)) =
          (participant.roster.agedChange now member).toList := by
      rw [← change, tellings_batch changesAscending, Deed.actor, if_pos rfl]
    cases participant.roster.fate now member with
    | renewed own =>
        rw [own] at other
        contradiction
    | evicted _ _ evicted told =>
        exact .cleared rfl (holds _ evicted) (by rw [tells, told, Option.toList_some])
    | failed _ _ _ alive =>
        rw [gone] at alive
        contradiction
    | kept _ _ _ kept quiet =>
        exact .kept (holds _ kept) (by rw [tells, quiet, Option.toList_none])
  · refine .kept ?_ ?_
    · rw [held?_put present, if_neg itself]
      exact held
    · rw [tellings_batch changesAscending, Deed.actor, if_neg itself]

/-- A recorded departure when a node merges what was sent. -/
theorem Credible.sequel_of_hear
    {digest : Digest}
    (credible : group.Credible beats)
    (running : group.running? actor = some participant)
    (sent : digest ∈ group.sent)
    (held : group.held? node identity = some member)
    (gone : member.status = .left)
    (message : Nat)
    (now : Instant) :
    Sequel node identity member (.hear actor message now)
      (group.put actor { participant with roster := (participant.roster.merge digest now).1 })
      (participant.roster.merge digest now).2 := by
  have present := (running?_eq_some_iff.mp running).1
  have wellFormed := credible.wellFormed participant (mem_of_running? running)
  have digestAscending := credible.ascending digest sent
  have mergedWellFormed := wellFormed.merge digestAscending now
  have changesAscending : Ascending (participant.roster.merge digest now).2 :=
    (Roster.mergeMembers_merges now wellFormed.ascending digestAscending).changes_ascending
  by_cases itself : actor = node
  · subst itself
    rw [held?, present, Option.bind_some, Roster.find?_eq_entryAbout wellFormed.ascending] at held
    obtain ⟨kept, quiet⟩ := Roster.entryAbout_merge_of_stale wellFormed.ascending digestAscending
      held (fun report reported => credible.heartbeat_le_of_left (mem_of_running? running)
        (mem_of_entryAbout held) gone sent (mem_of_entryAbout reported)
        (Identity.same_trans (same_of_entryAbout reported)
          (Identity.same_symm (same_of_entryAbout held)))) now
    refine .kept ?_ ?_
    · rw [held?_put present, if_pos rfl, Roster.find?_eq_entryAbout mergedWellFormed.ascending]
      exact kept
    · rw [tellings_batch changesAscending, Deed.actor, if_pos rfl, quiet, Option.toList_none]
  · refine .kept ?_ ?_
    · rw [held?_put present, if_neg itself]
      exact held
    · rw [tellings_batch changesAscending, Deed.actor, if_neg itself]

/-- Any deed keeps a recorded departure or clears it. -/
theorem Credible.sequel
    {deed : Deed}
    {changes : List Change}
    (credible : group.Credible beats)
    (effect : group.Effect deed next changes)
    (held : group.held? node identity = some member)
    (gone : member.status = .left) :
    Sequel node identity member deed next changes := by
  cases effect with
  | absent absent => exact .kept held rfl
  | unsent unsent => exact .kept held rfl
  | aged running canBeat => exact credible.sequel_of_age running held gone _
  | shared running => exact .kept held rfl
  | heard running sent =>
      exact credible.sequel_of_hear running (List.mem_of_getElem? sent) held gone _ _
  | @left actor participant running =>
      have unchanged := held?_put_of_roster_eq (running?_eq_some_iff.mp running).1
        { participant with stopped := true } rfl node identity
      exact .kept (unchanged.trans held) rfl

/-! ## Whole runs -/

/-- A group is credible after any run from its founding. -/
theorem exists_credible_of_run
    {beats : Nat → Nat}
    {group last : Group}
    {deeds : List Deed}
    (credible : group.Credible beats)
    (ran : group.run deeds = .ok last) :
    ∃ counted, last.Credible counted := by
  induction deeds generalizing group beats with
  | nil =>
      obtain rfl := Except.ok.inj ran
      exact ⟨beats, credible⟩
  | cons deed deeds inductionHypothesis =>
      rw [run] at ran
      split at ran
      · rename_i next changes performed
        exact inductionHypothesis (credible.effect (effect_of_perform performed)) ran
      · contradiction

/-- A recorded departure is kept as it is, and nothing is told of the member, for
as long as it is not told to be evicted. -/
theorem Credible.held?_of_chronicle
    {last : Group}
    {deeds : List Deed}
    {news : List News}
    (credible : group.Credible beats)
    (held : group.held? node identity = some member)
    (gone : member.status = .left)
    (passed : group.chronicle deeds = .ok (last, news))
    (uncleared : ∀ change ∈ tellings node identity news, change.transition ≠ .evicted) :
    tellings node identity news = [] ∧ last.held? node identity = some member ∧
      ∃ counted, last.Credible counted := by
  induction deeds generalizing group beats news with
  | nil =>
      obtain ⟨rfl, rfl⟩ := Prod.mk.inj (Except.ok.inj passed)
      exact ⟨rfl, held, beats, credible⟩
  | cons deed deeds inductionHypothesis =>
      obtain ⟨next, changes, later, performed, passedRest, rfl⟩ := chronicle_cons_eq_ok passed
      have effect := effect_of_perform performed
      rw [tellings_append] at uncleared ⊢
      cases credible.sequel effect held gone with
      | kept stillHeld quiet =>
          rw [quiet, List.nil_append] at uncleared ⊢
          exact inductionHypothesis (credible.effect effect) stillHeld passedRest uncleared
      | cleared _ _ told =>
          rw [told] at uncleared
          exact absurd rfl (uncleared _ (List.mem_append_left _ List.mem_cons_self))

/-- In a group of different members, take a node that has recorded that a member
left. However the group goes on, as long as the node does not tell that it
evicts the member, it tells nothing of the member and holds what it recorded,
heartbeat and refresh time included. After that, whatever happens next leaves it
so, or is the node's own ageing, by which it evicts the member and tells just
that of it. -/
theorem recorded_departure_is_final
    {charters : List Charter}
    {before after : List Deed}
    {last : Group}
    {news : List News}
    (distinct : charters.Pairwise fun left right => left.self.same right.self = false)
    (ran : (founding charters).run before = .ok group)
    (held : group.held? node identity = some member)
    (gone : member.status = .left)
    (passed : group.chronicle after = .ok (last, news))
    (uncleared : ∀ change ∈ tellings node identity news, change.transition ≠ .evicted) :
    tellings node identity news = [] ∧ last.held? node identity = some member ∧
      ∀ deed next changes, last.perform deed = .ok (next, changes) →
        Sequel node identity member deed next changes := by
  obtain ⟨counted, credible⟩ := exists_credible_of_run (credible_founding distinct) ran
  obtain ⟨quiet, stillHeld, _, lastCredible⟩ :=
    credible.held?_of_chronicle held gone passed uncleared
  exact ⟨quiet, stillHeld, fun deed next changes performed =>
    lastCredible.sequel (effect_of_perform performed) stillHeld gone⟩

/-- Three nodes of one host. -/
def trio : List Charter :=
  [⟨⟨.v4 ⟨127, 0, 0, 1⟩ 7000, 1⟩, .ofSeconds 2, .ofSeconds 5, ⟨0⟩, 10⟩,
    ⟨⟨.v4 ⟨127, 0, 0, 1⟩ 7001, 2⟩, .ofSeconds 2, .ofSeconds 5, ⟨0⟩, 10⟩,
    ⟨⟨.v4 ⟨127, 0, 0, 1⟩ 7002, 3⟩, .ofSeconds 2, .ofSeconds 5, ⟨0⟩, 10⟩]

/-- The third node hears of the second, and the first of both. Then the second
leaves, and the first records it. -/
def parting : List Deed :=
  [.age 1 ⟨1⟩, .share 1 ⟨2⟩, .hear 2 0 ⟨3⟩, .share 2 ⟨4⟩, .hear 0 1 ⟨5⟩, .leave 1, .hear 0 2 ⟨6⟩]

/-- The third node shares what it still holds alive, and the first hears that and
the old digest of the second, before and after it ages. -/
def echoes : List Deed :=
  [.share 2 ⟨7⟩, .hear 0 3 ⟨8⟩, .age 0 ⟨9⟩, .hear 0 0 ⟨10⟩]

/-- The first node still holds what it recorded when its next round begins. -/
theorem recorded_departure_is_final_in_trio :
    ∃ group last news, (founding trio).run parting = .ok group ∧
      group.chronicle echoes = .ok (last, news) ∧
      tellings 0 ⟨.v4 ⟨127, 0, 0, 1⟩ 7001, 2⟩ news = [] ∧
      last.held? 0 ⟨.v4 ⟨127, 0, 0, 1⟩ 7001, 2⟩ =
        some ⟨⟨.v4 ⟨127, 0, 0, 1⟩ 7001, 2⟩, 11, ⟨6⟩, .left⟩ ∧
      ∀ next changes, last.perform (.age 0 ⟨6000000000⟩) = .ok (next, changes) →
        Sequel 0 ⟨.v4 ⟨127, 0, 0, 1⟩ 7001, 2⟩
          ⟨⟨.v4 ⟨127, 0, 0, 1⟩ 7001, 2⟩, 11, ⟨6⟩, .left⟩ (.age 0 ⟨6000000000⟩) next changes := by
  have distinct : trio.Pairwise fun left right => left.self.same right.self = false := by
    simp only [trio, List.pairwise_cons, List.mem_cons, List.not_mem_nil, or_false,
      forall_eq_or_imp, forall_eq, false_imp_iff, implies_true, List.Pairwise.nil, and_true]
    decide +kernel
  have goes : (((founding trio).run parting).toOption.bind fun group =>
      (group.chronicle echoes).toOption.map fun result =>
        (group.held? 0 ⟨.v4 ⟨127, 0, 0, 1⟩ 7001, 2⟩, result.2)) =
          some (some ⟨⟨.v4 ⟨127, 0, 0, 1⟩ 7001, 2⟩, 11, ⟨6⟩, .left⟩, []) := by
    decide +kernel
  obtain ⟨group, ran, result⟩ := Option.bind_eq_some_iff.mp goes
  obtain ⟨⟨last, news⟩, passed, equal⟩ := Option.map_eq_some_iff.mp result
  obtain ⟨held, told⟩ := Prod.mk.inj equal
  obtain rfl : news = [] := told
  replace ran := Roster.eq_ok_of_toOption_eq_some ran
  replace passed := Roster.eq_ok_of_toOption_eq_some passed
  obtain ⟨quiet, stillHeld, sequel⟩ :=
    recorded_departure_is_final distinct ran held rfl passed nofun
  exact ⟨group, last, [], ran, passed, quiet, stillHeld, sequel _⟩

end Group
end GossipGroup
