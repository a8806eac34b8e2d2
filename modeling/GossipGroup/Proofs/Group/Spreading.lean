import GossipGroup.Proofs.Digest.RoundTrip
import GossipGroup.Proofs.Roster.Convergence
import Mathlib.Data.List.Induction
import Mathlib.Data.List.Sublists

/-!
# How news spreads

Rosters push to each other what they share: each push is written, read and merged. As
long as everybody is alive and nobody's heartbeat goes on, nothing is lost and nothing
is made up on the way. After any pushes a roster holds about each member the greatest
heartbeat that was held by the rosters from which pushes lead to it, its own among
them. Once pushes lead from every roster to every other, all rosters agree.
-/

namespace GossipGroup

/-- One roster pushes what it shares to another. -/
structure Push (count : Nat) where
  source : Fin count
  target : Fin count
  sharedAt : Instant
  mergedAt : Instant
  deriving DecidableEq

/-- Rosters that push to each other. -/
abbrev Circle (count : Nat) : Type := Fin count → Roster

namespace Circle

variable {count : Nat} {circle : Circle count} {push : Push count} {pushes : List (Push count)}
  {identity : Identity}

/-- The rosters after a push. If what is shared cannot be written or read, nothing
happens. -/
def pushed (circle : Circle count) (push : Push count) : Circle count :=
  match ((circle push.source).shared push.sharedAt).encode with
  | .error _ => circle
  | .ok datagram =>
      match Digest.decode datagram with
      | .error _ => circle
      | .ok digest =>
          Function.update circle push.target ((circle push.target).merge digest push.mergedAt).1

/-- One push after another. -/
def pushAll (circle : Circle count) (pushes : List (Push count)) : Circle count :=
  pushes.foldl pushed circle

/-- Each push takes up where the one before it left off. -/
def chains : List (Push count) → Fin count → Fin count → Bool
  | [], source, target => source = target
  | push :: pushes, source, target => push.source = source && chains pushes push.target target

/-- Among the pushes are some that lead from one roster to another, in order. -/
def Leads (pushes : List (Push count)) (source target : Fin count) : Prop :=
  ∃ chain, chain.Sublist pushes ∧ chains chain source target = true

/-- What is shared can be written down at every push: no digest is longer than its root
reaches. -/
def Writable (circle : Circle count) (pushes : List (Push count)) : Prop :=
  ∀ before push after, pushes = before ++ push :: after →
    ((circle.pushAll before push.source).shared push.sharedAt).HasRoot

/-- The greatest heartbeat that the rosters hold about a member, with the status that
comes with it. -/
def greatest? (circle : Circle count) (identity : Identity) : Option Standing :=
  ((List.finRange count).filterMap fun place => (circle place).standing? identity).argmax
    Standing.beats

/-- All rosters ascend, and whoever they hold is alive. -/
structure Living (circle : Circle count) : Prop where
  ascending : ∀ place, Ascending (circle place).members
  alive : ∀ place, ∀ member ∈ (circle place).members, member.status = .alive

/-! ## One push -/

/-- What can be written is read and merged as it was shared. -/
theorem pushed_eq
    (living : circle.Living)
    (hasRoot : ((circle push.source).shared push.sharedAt).HasRoot) :
    circle.pushed push = Function.update circle push.target
      ((circle push.target).merge ((circle push.source).shared push.sharedAt)
        push.mergedAt).1 := by
  have ascending := Roster.ascending_shared (living.ascending push.source) push.sharedAt
  rw [pushed, hasRoot.encode_eq]
  simp only [Digest.decode_bytes hasRoot ascending]

theorem Living.pushed
    (living : circle.Living)
    (hasRoot : ((circle push.source).shared push.sharedAt).HasRoot) :
    (circle.pushed push).Living := by
  have shares := Roster.ascending_shared (living.ascending push.source) push.sharedAt
  have holds := living.ascending push.target
  rw [pushed_eq living hasRoot]
  refine ⟨fun place => ?_, fun place member present => ?_⟩
  · by_cases receives : place = push.target
    · rw [receives, Function.update_self]
      exact (Roster.mergeMembers_merges push.mergedAt holds shares).members_ascending
    · rw [Function.update_of_ne receives]
      exact living.ascending place
  · by_cases receives : place = push.target
    · rw [receives, Function.update_self] at present
      rcases Roster.mem_merge holds shares present with held | ⟨report, told, rfl⟩
      · exact living.alive push.target member held
      · obtain ⟨-, held, heldPresent, rfl⟩ := Roster.mem_shared told
        exact living.alive push.source held heldPresent
    · rw [Function.update_of_ne receives] at present
      exact living.alive place member present

/-- Whoever holds only the living shares all that it holds. -/
theorem Living.entryAbout_shared
    (living : circle.Living)
    (place : Fin count)
    (now : Instant)
    (identity : Identity) :
    entryAbout identity ((circle place).shared now).reports =
      (entryAbout identity (circle place).members).map (·.report) := by
  rw [Roster.entryAbout_shared (living.ascending place)]
  cases held : entryAbout identity (circle place).members with
  | none => rfl
  | some member =>
      have alive := living.alive place member (mem_of_entryAbout held)
      rw [Option.bind_some, Roster.sharedReport, Roster.isShared, alive]
      rfl

/-- A push brings its target up to what its source holds. -/
theorem Living.standing?_pushed_target
    (living : circle.Living)
    (hasRoot : ((circle push.source).shared push.sharedAt).HasRoot)
    (identity : Identity) :
    (circle.pushed push push.target).standing? identity =
      (((circle push.target).standing? identity).toList ++
        ((circle push.source).standing? identity).toList).argmax Standing.beats := by
  have told := living.entryAbout_shared push.source push.sharedAt identity
  rw [pushed_eq living hasRoot, Function.update_self, Roster.standing?_merge
    (living.ascending push.target) (Roster.ascending_shared (living.ascending push.source) _), told,
    Roster.standing?_eq (living.ascending push.target),
    Roster.standing?_eq (living.ascending push.source)]
  have single : ∀ standing : Option Standing,
      standing = standing.toList.argmax Standing.beats := fun standing => by
    cases standing <;> rfl
  rw [Roster.map_standing_mergedEntry (single _), Option.map_map]
  · rfl
  · rintro report reported -
    obtain ⟨member, held, rfl⟩ := Option.map_eq_some_iff.mp reported
    exact living.alive push.source member (mem_of_entryAbout held)

theorem Living.pushed_of_ne
    (living : circle.Living)
    (hasRoot : ((circle push.source).shared push.sharedAt).HasRoot)
    {place : Fin count}
    (other : place ≠ push.target) :
    circle.pushed push place = circle place := by
  rw [pushed_eq living hasRoot, Function.update_of_ne other]

/-! ## Who leads to whom -/

theorem chains_append
    (chain later : List (Push count))
    (source target : Fin count) :
    chains (chain ++ later) source target = true ↔
      ∃ between, chains chain source between = true ∧ chains later between target = true := by
  induction chain generalizing source with
  | nil => simp [chains]
  | cons push chain inductionHypothesis =>
      simp only [List.cons_append, chains, Bool.and_eq_true, decide_eq_true_eq,
        inductionHypothesis]
      exact ⟨fun ⟨own, between, first, second⟩ => ⟨between, ⟨own, first⟩, second⟩,
        fun ⟨between, ⟨own, first⟩, second⟩ => ⟨own, between, first, second⟩⟩

theorem leads_nil {source target : Fin count} : Leads [] source target ↔ source = target := by
  simp [Leads, List.sublist_nil, chains]

/-- One more push leads to its target from wherever there was a way to its source. -/
theorem leads_concat {source target : Fin count} :
    Leads (pushes ++ [push]) source target ↔
      Leads pushes source target ∨ target = push.target ∧ Leads pushes source push.source := by
  constructor
  · rintro ⟨chain, within, chained⟩
    obtain ⟨earlier, last, rfl, earlierWithin, lastWithin⟩ := List.sublist_append_iff.mp within
    obtain ⟨between, first, second⟩ := (chains_append earlier last source target).mp chained
    rcases List.sublist_singleton.mp lastWithin with rfl | rfl
    · obtain rfl := of_decide_eq_true second
      exact .inl ⟨earlier, earlierWithin, first⟩
    · simp only [chains, Bool.and_eq_true, decide_eq_true_eq] at second
      obtain ⟨rfl, rfl⟩ := second
      exact .inr ⟨rfl, earlier, earlierWithin, first⟩
  · rintro (⟨chain, within, chained⟩ | ⟨rfl, chain, within, chained⟩)
    · exact ⟨chain, within.trans (List.sublist_append_left _ _), chained⟩
    · refine ⟨chain ++ [push], within.append (List.Sublist.refl _), ?_⟩
      exact (chains_append _ _ _ _).mpr ⟨push.source, chained, by simp [chains]⟩

/-! ## What has been heard -/

/-- How far a standing has come. Where there is none, it is behind all others. -/
def rank : Option Standing → Nat
  | none => 0
  | some standing => standing.beats + 1

/-- What is known of a member is what one of some rosters held, and none of them held
more. -/
structure Sums
    (circle : Circle count)
    (heard : Fin count → Prop)
    (identity : Identity)
    (known : Option Standing) : Prop where
  drawn : ∀ standing ∈ known, ∃ place, heard place ∧
    (circle place).standing? identity = some standing
  above : ∀ place, heard place → rank ((circle place).standing? identity) ≤ rank known

/-- Of two standings the one that has come further prevails. -/
theorem rank_argmax (left right : Option Standing) :
    rank ((left.toList ++ right.toList).argmax Standing.beats) = max (rank left) (rank right) := by
  cases right with
  | none => cases left <;> simp [rank]
  | some right =>
      rw [Option.toList_some, List.argmax_concat]
      cases left with
      | none => simp [rank]
      | some left =>
          simp only [Option.toList_some, List.argmax_singleton]
          by_cases behind : left.beats < right.beats
          · rw [if_pos behind]
            exact (Nat.max_eq_right (Nat.succ_le_succ behind.le)).symm
          · rw [if_neg behind]
            exact (Nat.max_eq_left (Nat.succ_le_succ (Nat.not_lt.mp behind))).symm

theorem Sums.join
    {left right : Fin count → Prop}
    {known told : Option Standing}
    (leftSums : circle.Sums left identity known)
    (rightSums : circle.Sums right identity told) :
    circle.Sums (fun place => left place ∨ right place) identity
      ((known.toList ++ told.toList).argmax Standing.beats) := by
  refine ⟨fun standing greatest => ?_, fun place heard => ?_⟩
  · rcases List.mem_append.mp (List.argmax_mem greatest) with own | news
    · obtain ⟨place, heard, held⟩ := leftSums.drawn standing (Option.mem_toList.mp own)
      exact ⟨place, .inl heard, held⟩
    · obtain ⟨place, heard, held⟩ := rightSums.drawn standing (Option.mem_toList.mp news)
      exact ⟨place, .inr heard, held⟩
  · rw [rank_argmax]
    rcases heard with own | news
    · exact le_max_of_le_left (leftSums.above place own)
    · exact le_max_of_le_right (rightSums.above place news)

/-- What can be written at every push can be written at all but the last, and then at
the last. -/
theorem Writable.of_concat (writable : circle.Writable (pushes ++ [push])) :
    circle.Writable pushes ∧
      ((circle.pushAll pushes push.source).shared push.sharedAt).HasRoot := by
  refine ⟨fun before earlier after split => ?_, writable pushes push [] rfl⟩
  refine writable before earlier (after ++ [push]) ?_
  rw [split, List.append_assoc, List.cons_append]

theorem pushAll_concat (circle : Circle count) (pushes : List (Push count)) (push : Push count) :
    circle.pushAll (pushes ++ [push]) = (circle.pushAll pushes).pushed push :=
  List.foldl_append

/-- Pushes bring only the living to anybody. -/
theorem Living.pushAll (living : circle.Living) (writable : circle.Writable pushes) :
    (circle.pushAll pushes).Living := by
  induction pushes using List.reverseRecOn with
  | nil => exact living
  | append_singleton pushes push inductionHypothesis =>
      obtain ⟨writableBefore, hasRoot⟩ := writable.of_concat
      rw [pushAll_concat]
      exact (inductionHypothesis writableBefore).pushed hasRoot

/-- After any pushes each roster holds what was held by the rosters that they lead
from. -/
theorem Living.sums_pushAll
    (living : circle.Living)
    (writable : circle.Writable pushes)
    (identity : Identity)
    (place : Fin count) :
    circle.Sums (Leads pushes · place) identity
      ((circle.pushAll pushes place).standing? identity) := by
  induction pushes using List.reverseRecOn generalizing place with
  | nil =>
      refine ⟨fun standing held => ⟨place, leads_nil.mpr rfl, held⟩, fun other heard => ?_⟩
      rw [leads_nil.mp heard]
      exact le_refl _
  | append_singleton pushes push inductionHypothesis =>
      obtain ⟨writableBefore, hasRoot⟩ := writable.of_concat
      have livingBefore := living.pushAll writableBefore
      have sums := inductionHypothesis writableBefore
      simp only [pushAll_concat, leads_concat]
      by_cases receives : place = push.target
      · subst receives
        rw [livingBefore.standing?_pushed_target hasRoot]
        simpa using (sums push.target).join (sums push.source)
      · rw [livingBefore.pushed_of_ne hasRoot receives]
        simpa [receives] using sums place

/-! ## What can be written -/

/-- All entries of all rosters. -/
def entries (circle : Circle count) : List Member :=
  (List.finRange count).flatMap fun place => (circle place).members

/-- A roster never knows more members than all rosters together did at first. -/
theorem Living.length_members_pushAll
    (living : circle.Living)
    (writable : circle.Writable pushes)
    (place : Fin count) :
    (circle.pushAll pushes place).members.length ≤ circle.entries.length := by
  have ascending := (living.pushAll writable).ascending place
  refine ascending.length_le fun member present => ?_
  have known : (circle.pushAll pushes place).standing? member.identity = some member.standing := by
    rw [Roster.standing?_eq ascending]
    exact congrArg (Option.map _) (ascending.entryAbout_of_mem present)
  obtain ⟨source, -, held⟩ := (living.sums_pushAll writable _ place).drawn _ known
  rw [Roster.standing?_eq (living.ascending source), Option.map_eq_some_iff] at held
  obtain ⟨former, found, -⟩ := held
  refine ⟨former, ?_, same_of_entryAbout found⟩
  exact List.mem_flatMap.mpr ⟨source, List.mem_finRange source, mem_of_entryAbout found⟩

/-- If a root reaches back over all entries together, everything can be written. -/
theorem Living.writable
    (living : circle.Living)
    (few : circle.entries.length ≤ 38347922)
    (pushes : List (Push count)) :
    circle.Writable pushes := by
  induction pushes using List.reverseRecOn with
  | nil => exact fun before push after split => absurd split (by simp)
  | append_singleton pushes push inductionHypothesis =>
      intro before earlier after split
      rcases List.eq_nil_or_concat' after with rfl | ⟨rest, last, rfl⟩
      · obtain ⟨rfl, same⟩ := List.append_inj' split rfl
        obtain rfl := List.singleton_inj.mp same
        rw [Digest.hasRoot_iff_size_le]
        have known := living.length_members_pushAll inductionHypothesis push.source
        have shared : ((circle.pushAll pushes push.source).shared push.sharedAt).size ≤
            (circle.pushAll pushes push.source).members.length := by
          rw [Digest.size, Roster.shared, List.length_map]
          exact List.length_filter_le _ _
        exact Nat.le_trans (Nat.le_trans shared known) few
      · rw [← List.cons_append, ← List.append_assoc] at split
        exact inductionHypothesis before earlier rest (List.append_inj' split rfl).1

/-! ## Everybody hears everything -/

theorem Living.status_eq
    {place : Fin count}
    {standing : Standing}
    (living : circle.Living)
    (stands : (circle place).standing? identity = some standing) :
    standing.status = .alive := by
  rw [Roster.standing?_eq (living.ascending place), Option.map_eq_some_iff] at stands
  obtain ⟨member, held, rfl⟩ := stands
  exact living.alive place member (mem_of_entryAbout held)

theorem mem_standings {standing : Standing} :
    standing ∈ (List.finRange count).filterMap (fun place => (circle place).standing? identity) ↔
      ∃ place, (circle place).standing? identity = some standing := by
  simp only [List.mem_filterMap, List.mem_finRange, true_and]

/-- What was heard from everybody is the greatest that anybody held. -/
theorem Sums.eq_greatest?
    {heard : Fin count → Prop}
    {known : Option Standing}
    (living : circle.Living)
    (sums : circle.Sums heard identity known)
    (everybody : ∀ place, heard place) :
    known = circle.greatest? identity := by
  cases greatest : circle.greatest? identity with
  | none =>
      -- Nobody held anything from which it could have been drawn.
      rw [greatest?, List.argmax_eq_none, List.eq_nil_iff_forall_not_mem] at greatest
      rw [Option.eq_none_iff_forall_not_mem]
      intro standing present
      obtain ⟨place, -, held⟩ := sums.drawn standing present
      exact greatest standing (mem_standings.mpr ⟨place, held⟩)
  | some standing =>
      obtain ⟨place, held⟩ := mem_standings.mp (List.argmax_mem greatest)
      have notAhead := sums.above place (everybody place)
      rw [held] at notAhead
      cases known with
      | none => exact absurd notAhead (by simp [rank])
      | some known =>
          obtain ⟨source, -, drawn⟩ := sums.drawn known rfl
          have notBehind := List.le_of_mem_argmax (mem_standings.mpr ⟨source, drawn⟩) greatest
          have heartbeat : known.heartbeat = standing.heartbeat :=
            UInt64.toNat_inj.mp (Nat.le_antisymm notBehind (Nat.le_of_succ_le_succ notAhead))
          have status := (living.status_eq drawn).trans (living.status_eq held).symm
          cases known
          cases standing
          simp_all

/-- Once pushes lead from every roster to every other, all rosters hold about each
member the greatest heartbeat that any of them held at first, and no other members. -/
theorem pushAll_converges
    {circle : Circle count}
    {pushes : List (Push count)}
    (ascending : ∀ place, Ascending (circle place).members)
    (alive : ∀ place, ∀ member ∈ (circle place).members, member.status = .alive)
    (writable : circle.Writable pushes)
    (connected : ∀ source target, Leads pushes source target)
    (place : Fin count)
    (identity : Identity) :
    (circle.pushAll pushes place).standing? identity = circle.greatest? identity := by
  have living : circle.Living := ⟨ascending, alive⟩
  have sums := living.sums_pushAll writable identity place
  exact sums.eq_greatest? living fun source => connected source place

/-- Rosters that hold few enough entries to begin with converge in the same way, whatever
they push to each other on the way. -/
theorem Living.standing?_pushAll_of_few
    (living : circle.Living)
    (few : circle.entries.length ≤ 38347922)
    (connected : ∀ source target, Leads pushes source target)
    (place : Fin count)
    (identity : Identity) :
    (circle.pushAll pushes place).standing? identity = circle.greatest? identity := by
  have sums := living.sums_pushAll (living.writable few pushes) identity place
  exact sums.eq_greatest? living fun source => connected source place

/-- The identity of the member at a port that joined at a time. -/
def neighbour (portNumber : UInt16) (joinedAt : UInt64) : Identity :=
  ⟨.v4 ⟨127, 0, 0, 1⟩ portNumber, joinedAt⟩

/-- Three rosters that differ in whom they know and how far. -/
def trio : Circle 3
  | 0 => ⟨neighbour 7000 1, [⟨neighbour 7000 1, 4, ⟨0⟩, .alive⟩, ⟨neighbour 7002 3, 1, ⟨0⟩, .alive⟩],
      .ofSeconds 2, .ofSeconds 5⟩
  | 1 => ⟨neighbour 7001 2, [⟨neighbour 7001 2, 2, ⟨0⟩, .alive⟩], .ofSeconds 2, .ofSeconds 5⟩
  | 2 => ⟨neighbour 7002 3, [⟨neighbour 7001 2, 5, ⟨0⟩, .alive⟩, ⟨neighbour 7002 3, 3, ⟨0⟩, .alive⟩],
      .ofSeconds 2, .ofSeconds 5⟩

/-- Everybody pushes to the roster in the middle, which then pushes to everybody. -/
def roundTrip : List (Push 3) :=
  [⟨0, 1, ⟨10⟩, ⟨11⟩⟩, ⟨2, 1, ⟨20⟩, ⟨20⟩⟩, ⟨1, 0, ⟨30⟩, ⟨35⟩⟩, ⟨1, 2, ⟨40⟩, ⟨41⟩⟩]

/-- After four pushes each of the three rosters has caught up with the others. -/
theorem trio_agrees_after_round_trip :
    (trio.pushAll roundTrip 0).standing? (neighbour 7001 2) = some ⟨5, .alive⟩ ∧
      (trio.pushAll roundTrip 0).standing? (neighbour 7002 3) = some ⟨3, .alive⟩ ∧
      (trio.pushAll roundTrip 1).standing? (neighbour 7000 1) = some ⟨4, .alive⟩ ∧
      (trio.pushAll roundTrip 2).standing? (neighbour 7000 1) = some ⟨4, .alive⟩ := by
  have ascending : ∀ place, (trio place).members.Pairwise
      fun left right => left.identity.precedes right.identity = true := by decide
  have alive : ∀ place, ∀ member ∈ (trio place).members, member.status = .alive := by decide
  have writable : trio.Writable roundTrip :=
    Living.writable ⟨ascending, alive⟩ (by decide) roundTrip
  have connected : ∀ source target, Leads roundTrip source target := by
    have chained : ∀ source target : Fin 3,
        ∃ chain ∈ roundTrip.sublists, chains chain source target = true := by decide
    intro source target
    obtain ⟨chain, within, leads⟩ := chained source target
    exact ⟨chain, List.mem_sublists.mp within, leads⟩
  have converges := pushAll_converges ascending alive writable connected
  simp only [converges]
  decide +kernel

end Circle
end GossipGroup
