import Custody.Proofs.Estate.Worlds
import Mathlib.Data.List.Nodup

/-!
# What closing does

A recorded discipline lists the disposals that it makes.  A sweep clears holders, each of
them with all that it exposed, and disposes once of each that was owned; whatever closing
does is a sweep, also when a failure ends it.  A clearance is a sweep of all of a reach and of
nothing else, and it determines both the estate and the disposals.

Main statement: where adoption has no circle and nothing that is exposed fails, closing a
holder is the clearance of all that it exposes, in whatever order dependants are closed.
-/

namespace Custody
namespace Estate

variable {η α : Type} {before middle after : Estate η α}

/-- Some holders were cleared, each of them with all that it exposed, and the owned ones among
them were disposed of, once each and with the handle that they had. -/
structure Sweep (before after : Estate η α) (calls : List (Nat × η)) : Prop where
  /-- Holders are cleared at most. -/
  wanes : before.Wanes after
  /-- A holder that is not closed by it keeps everything. -/
  kept : ∀ holder, after.isOpen holder = before.isOpen holder →
    after.get? holder = before.get? holder
  /-- What a holder exposed is closed before the holder is. -/
  leaves : ∀ parent child, before.Exposes parent child → after.isOpen parent = false →
    after.isOpen child = false
  /-- No holder is disposed of twice. -/
  once : (calls.map Prod.fst).Nodup
  /-- The owned holders that were closed are the ones that were disposed of. -/
  called : ∀ holder handle, (holder, handle) ∈ calls ↔
    before.handle? holder = some handle ∧ before.owned? holder = some true ∧
      after.isOpen holder = false

namespace Sweep

variable {calls laterCalls : List (Nat × η)}

theorem refl (estate : Estate η α) : estate.Sweep estate [] where
  wanes := .refl estate
  kept := fun _ _ => rfl
  leaves := by
    rintro parent _ ⟨opened, _⟩ closed
    rw [opened] at closed
    cases closed
  once := List.nodup_nil
  called := by
    intro holder handle
    refine ⟨fun member => absurd member List.not_mem_nil, ?_⟩
    rintro ⟨held, _, closed⟩
    rw [isOpen_eq_false_iff, held] at closed
    cases closed

/-- Releasing a leaf is a sweep. -/
theorem release {holder : Nat} {record : Holder η α} {handle : η}
    (present : before.get? holder = some record) (opened : record.handle = some handle)
    (leaf : ∀ child ∈ record.dependants, before.isOpen child = false) :
    before.Sweep (before.clear holder) (if record.owned then [(holder, handle)] else []) where
  wanes := .clear before holder
  kept := by
    intro other same
    have different : other ≠ holder := by
      rintro rfl
      rw [isOpen_clear, isOpen_iff.mpr ⟨handle, (handle?_of_get? present).trans opened⟩] at same
      simp at same
    rw [get?_clear, if_neg different]
  leaves := by
    rintro parent child ⟨parentOpen, adopted⟩ closed
    have same : parent = holder := by
      rw [isOpen_clear, parentOpen] at closed
      simpa using closed
    subst same
    rw [Adopts, dependants_of_get? present] at adopted
    exact (Wanes.clear before parent).isOpen_eq_false (leaf child adopted)
  once := by split <;> simp
  called := by
    intro other otherHandle
    have heldHere : before.handle? holder = some handle :=
      (handle?_of_get? present).trans opened
    have ownedHere : before.owned? holder = some record.owned := owned?_of_get? present
    constructor
    · intro member
      split at member
      · next owned =>
          obtain ⟨rfl, rfl⟩ := Prod.mk.inj (List.mem_singleton.mp member)
          exact ⟨heldHere, by rw [ownedHere, owned], by simp [isOpen_clear]⟩
      · exact absurd member List.not_mem_nil
    · rintro ⟨held, owned, closed⟩
      have same : other = holder := by
        rw [isOpen_clear, isOpen_iff.mpr ⟨otherHandle, held⟩] at closed
        simpa using closed
      subst same
      rw [ownedHere, Option.some.injEq] at owned
      rw [heldHere, Option.some.injEq] at held
      simp [owned, held]

/-- A holder that is disposed of in a sweep was open before and is closed afterwards. -/
theorem isOpen_of_mem (sweep : before.Sweep after calls) {holder : Nat}
    (member : holder ∈ calls.map Prod.fst) :
    before.isOpen holder = true ∧ after.isOpen holder = false := by
  obtain ⟨⟨_, handle⟩, listed, rfl⟩ := List.mem_map.mp member
  obtain ⟨held, _, closed⟩ := (sweep.called _ handle).mp listed
  exact ⟨isOpen_iff.mpr ⟨handle, held⟩, closed⟩

/-- What an open holder exposed before a sweep that leaves it open is exposed afterwards. -/
theorem exposes (sweep : before.Sweep after calls) {parent child : Nat}
    (exposed : before.Exposes parent child) (opened : after.isOpen parent = true) :
    after.Exposes parent child := by
  refine ⟨opened, ?_⟩
  rw [Adopts, dependants, sweep.kept parent (opened.trans exposed.1.symm)]
  exact exposed.2

/-- One sweep after another is a sweep. -/
theorem trans (first : before.Sweep middle calls) (second : middle.Sweep after laterCalls) :
    before.Sweep after (calls ++ laterCalls) where
  wanes := first.wanes.trans second.wanes
  kept := by
    intro holder same
    -- A holder that is open in the end was open all along.
    have halfway : middle.isOpen holder = before.isOpen holder := by
      cases opened : before.isOpen holder with
      | false => exact first.wanes.isOpen_eq_false opened
      | true => exact second.wanes.isOpen (same.trans opened)
    rw [second.kept holder (same.trans halfway.symm), first.kept holder halfway]
  leaves := by
    intro parent child exposed closed
    cases halfway : middle.isOpen parent with
    | false =>
        exact second.wanes.isOpen_eq_false (first.leaves parent child exposed halfway)
    | true => exact second.leaves parent child (first.exposes exposed halfway) closed
  once := by
    rw [List.map_append, List.nodup_append]
    refine ⟨first.once, second.once, ?_⟩
    rintro holder member _ memberToo rfl
    have closed := (first.isOpen_of_mem member).2
    rw [(second.isOpen_of_mem memberToo).1] at closed
    cases closed
  called := by
    intro holder handle
    rw [List.mem_append, first.called, second.called]
    constructor
    · rintro (⟨held, owned, closed⟩ | ⟨held, owned, closed⟩)
      · exact ⟨held, owned, second.wanes.isOpen_eq_false closed⟩
      · have heldBefore := first.wanes.handle?_of_some held
        have same := first.kept holder ((isOpen_iff.mpr ⟨handle, held⟩).trans
          (isOpen_iff.mpr ⟨handle, heldBefore⟩).symm)
        rw [owned?, same] at owned
        exact ⟨heldBefore, owned, closed⟩
    · rintro ⟨held, owned, closed⟩
      cases halfway : middle.isOpen holder with
      | false => exact .inl ⟨held, owned, rfl⟩
      | true =>
          have same := first.kept holder (halfway.trans (isOpen_iff.mpr ⟨handle, held⟩).symm)
          rw [handle?, ← same] at held
          rw [owned?, ← same] at owned
          exact .inr ⟨held, owned, closed⟩

/-- All that a holder exposed is closed when the holder is. -/
theorem isOpen_of_reachesOpen (sweep : before.Sweep after calls) {upper lower : Nat}
    (closed : after.isOpen upper = false) (reached : before.ReachesOpen upper lower) :
    after.isOpen lower = false := by
  induction reached with
  | refl => exact closed
  | tail _ exposed inductionHypothesis => exact sweep.leaves _ _ exposed inductionHypothesis

end Sweep

/-- All open holders of a reach are cleared and disposed of, once each if they are owned, and
nothing else changes. -/
structure Clearance (reach : Nat → Prop) (before after : Estate η α)
    (calls : List (Nat × η)) : Prop where
  /-- What is in reach and open is cleared. -/
  cleared : ∀ holder, reach holder → before.isOpen holder = true →
    after.get? holder = (before.get? holder).map Holder.cleared
  /-- Everything else is kept. -/
  kept : ∀ holder, ¬ (reach holder ∧ before.isOpen holder = true) →
    after.get? holder = before.get? holder
  /-- No holder is disposed of twice. -/
  once : (calls.map Prod.fst).Nodup
  /-- The owned holders that were open and in reach are the ones that are disposed of. -/
  called : ∀ holder handle, (holder, handle) ∈ calls ↔
    reach holder ∧ before.handle? holder = some handle ∧ before.owned? holder = some true

/-- A sweep of all of a reach and of nothing else is a clearance. -/
theorem Sweep.clearance
    {reach : Nat → Prop}
    {calls : List (Nat × η)}
    (sweep : before.Sweep after calls)
    (closed : ∀ holder, reach holder → after.isOpen holder = false)
    (apart : ∀ holder, ¬ reach holder → after.get? holder = before.get? holder) :
    Clearance reach before after calls where
  cleared := by
    intro holder reached opened
    rcases sweep.wanes holder with same | cleared
    · have still : after.isOpen holder = before.isOpen holder := by
        rw [isOpen, handle?, same]
        rfl
      rw [closed holder reached, opened] at still
      cases still
    · exact cleared
  kept := by
    intro holder outside
    by_cases reached : reach holder
    · have shut : before.isOpen holder = false := by
        rw [← Bool.not_eq_true]
        exact fun opened => outside ⟨reached, opened⟩
      exact sweep.kept holder ((closed holder reached).trans shut.symm)
    · exact apart holder reached
  once := sweep.once
  called := by
    intro holder handle
    rw [sweep.called]
    constructor
    · rintro ⟨held, owned, shut⟩
      refine ⟨?_, held, owned⟩
      by_contra outside
      rw [isOpen_eq_false_iff, handle?, apart holder outside] at shut
      rw [handle?, shut] at held
      cases held
    · rintro ⟨reached, held, owned⟩
      exact ⟨held, owned, closed holder reached⟩

namespace Clearance

variable {reach : Nat → Prop} {calls otherCalls : List (Nat × η)}

theorem nodup (clearance : Clearance reach before after calls) : calls.Nodup :=
  clearance.once.of_map Prod.fst

theorem isOpen_eq_false (clearance : Clearance reach before after calls) {holder : Nat}
    (reached : reach holder) : after.isOpen holder = false := by
  by_cases opened : before.isOpen holder = true
  · rw [isOpen_eq_false_iff, handle?, clearance.cleared holder reached opened]
    cases before.get? holder <;> rfl
  · have same := clearance.kept holder fun both => opened both.2
    rw [Bool.not_eq_true] at opened
    rw [isOpen, handle?, same]
    exact opened

/-- A clearance leaves one estate, and it makes the same disposals in any order. -/
theorem unique {other : Estate η α} (left : Clearance reach before after calls)
    (right : Clearance reach before other otherCalls) :
    after = other ∧ calls.Perm otherCalls := by
  constructor
  · refine ext_get? fun holder => ?_
    by_cases inside : reach holder ∧ before.isOpen holder = true
    · rw [left.cleared holder inside.1 inside.2, right.cleared holder inside.1 inside.2]
    · rw [left.kept holder inside, right.kept holder inside]
  · rw [List.perm_ext_iff_of_nodup left.nodup right.nodup]
    rintro ⟨holder, handle⟩
    rw [left.called, right.called]

end Clearance
end Estate

namespace Discipline

variable {η α σ τ : Type}

/-- A discipline that also lists its disposals: whose handle it gives back, and which. -/
def recorded (discipline : Discipline η α σ) : Discipline η α (σ × List (Nat × η)) where
  arrange := fun estate world holder items => discipline.arrange estate world.1 holder items
  arrange_perm := fun estate world holder items =>
    discipline.arrange_perm estate world.1 holder items
  dispose := fun estate holder handle world =>
    let result := discipline.dispose estate holder handle world.1
    ((result.1, world.2 ++ [(holder, handle)]), result.2)

/-- Listing the disposals has no influence on them. -/
theorem recorded_seen (discipline : Discipline η α σ) :
    Seen Prod.fst discipline.recorded discipline :=
  ⟨fun _ _ _ _ => rfl, fun _ _ _ _ => rfl⟩

/-- Disposal does not fail for the holders of a reach. -/
def Calm (discipline : Discipline η α σ) (reach : Nat → Prop) : Prop :=
  ∀ holder, reach holder → ∀ estate handle world,
    (discipline.dispose estate holder handle world).2 = none

theorem Calm.recorded {discipline : Discipline η α σ} {reach : Nat → Prop}
    (calm : discipline.Calm reach) : discipline.recorded.Calm reach :=
  fun holder reached estate handle world => calm holder reached estate handle world.1

/-- A teardown of holders that do not fail does not fail. -/
theorem Teardown.peaceful
    {discipline : Discipline η α σ}
    {reach : Nat → Prop}
    {estate : Estate η α}
    {world : σ}
    {outcome : Outcome η α σ}
    (calm : discipline.Calm reach)
    (teardown : discipline.Teardown reach estate world outcome) : outcome.failure = none := by
  induction teardown with
  | finished => rfl
  | released _ _ _ _ _ _ inductionHypothesis => exact inductionHypothesis
  | @failed estate world holder record handle reached _ _ _ failing =>
      refine absurd ?_ failing
      unfold release
      dsimp only
      split
      · exact calm holder reached _ _ _
      · rfl

section Recorded

variable (discipline : Discipline η α σ)

/-- A release disposes of the holder once if it is owned. -/
theorem release_recorded (holder : Nat) (handle : η) (owned : Bool) (estate : Estate η α)
    (world : σ × List (Nat × η)) :
    (discipline.recorded.release holder handle owned estate world).world.2 =
      world.2 ++ if owned then [(holder, handle)] else [] := by
  cases owned
  · exact (List.append_nil _).symm
  · rfl

variable {discipline}

/-- A teardown is a sweep that makes the disposals that are listed. -/
theorem Teardown.sweep
    {reach : Nat → Prop}
    {estate : Estate η α}
    {world : σ × List (Nat × η)}
    {outcome : Outcome η α (σ × List (Nat × η))}
    (teardown : discipline.recorded.Teardown reach estate world outcome) :
    ∃ calls, outcome.world.2 = world.2 ++ calls ∧ estate.Sweep outcome.estate calls := by
  induction teardown with
  | finished estate world => exact ⟨[], (List.append_nil _).symm, .refl estate⟩
  | @released _ world holder record handle _ _ present opened leaf _ _ inductionHypothesis =>
      obtain ⟨later, listed, sweep⟩ := inductionHypothesis
      refine ⟨_, ?_, (Estate.Sweep.release present opened leaf).trans sweep⟩
      rw [listed, release_recorded, List.append_assoc]
  | failed _ present opened leaf _ =>
      refine ⟨_, discipline.release_recorded _ _ _ _ _, ?_⟩
      rw [release_estate]
      exact .release present opened leaf

/-- A teardown that closes all of its reach is a clearance. -/
theorem Teardown.clearance
    {reach : Nat → Prop}
    {estate : Estate η α}
    {world : σ}
    {outcome : Outcome η α (σ × List (Nat × η))}
    (teardown : discipline.recorded.Teardown reach estate (world, []) outcome)
    (roots : ∀ holder, reach holder → ∃ root, outcome.estate.isOpen root = false ∧
      estate.ReachesOpen root holder) :
    estate.Clearance reach outcome.estate outcome.world.2 := by
  obtain ⟨calls, listed, sweep⟩ := teardown.sweep
  rw [List.nil_append] at listed
  rw [listed]
  refine sweep.clearance (fun holder reached => ?_) fun holder => teardown.get?_eq_of_not_reach
  obtain ⟨root, closed, reachedOpen⟩ := roots holder reached
  exact sweep.isOpen_of_reachesOpen closed reachedOpen

end Recorded

section Bound

variable {discipline : Discipline η α σ}

/-- Ways of closing that agree on all that may be left of an estate close several holders alike. -/
theorem closeEach_congr
    {close other : Nat → Estate η α → σ → Outcome η α σ}
    {order : List Nat}
    (start : Estate η α)
    (wanes : ∀ (holder : Nat) (estate : Estate η α) (world : σ),
      estate.Wanes (other holder estate world).estate)
    (same : ∀ holder ∈ order, ∀ estate world, start.Wanes estate →
      close holder estate world = other holder estate world)
    {estate : Estate η α}
    (world : σ)
    (waned : start.Wanes estate) :
    closeEach close order estate world = closeEach other order estate world := by
  induction order generalizing estate world with
  | nil => rfl
  | cons holder rest inductionHypothesis =>
      unfold closeEach
      rw [same holder (by simp) estate world waned]
      dsimp only
      cases (other holder estate world).failure with
      | some wording => rfl
      | none =>
          exact inductionHypothesis (fun later member => same later (by simp [member])) _
            (waned.trans (wanes holder estate world))

/-- A bound above the rank of a holder has no influence on closing it. -/
theorem closeWithin_add
    {rank : Nat → Nat}
    {depth holder : Nat}
    {estate : Estate η α}
    (world : σ)
    (ranked : estate.Ranked rank)
    (deep : rank holder < depth)
    (extra : Nat) :
    discipline.closeWithin (depth + extra) holder estate world =
      discipline.closeWithin depth holder estate world := by
  induction depth generalizing holder estate world with
  | zero => omega
  | succ depth inductionHypothesis =>
      cases opened : estate.isOpen holder with
      | false =>
          rw [closeWithin_of_closed discipline _ world opened,
            closeWithin_of_closed discipline _ world opened]
      | true =>
          obtain ⟨handle, held⟩ := Estate.isOpen_iff.mp opened
          obtain ⟨record, present, heldHere⟩ := Estate.handle?_eq_some_iff.mp held
          rw [Nat.succ_add, closeWithin_succ_of_open discipline _ world present heldHere,
            closeWithin_succ_of_open discipline _ world present heldHere]
          have below :
              closeEach (discipline.closeWithin (depth + extra))
                  (discipline.arrange estate world holder record.dependants) estate world =
                closeEach (discipline.closeWithin depth)
                  (discipline.arrange estate world holder record.dependants) estate world := by
            refine closeEach_congr estate (fun _ _ _ => (closeWithin_advances _ _ _ _).wanes) ?_
              world (.refl estate)
            intro child member later after waned
            have adopted : estate.Adopts holder child := by
              rw [Estate.Adopts, Estate.dependants_of_get? present]
              exact (discipline.arrange_perm _ _ _ _).mem_iff.mp member
            have lower := ranked holder child adopted
            exact inductionHypothesis after (waned.ranked ranked) (by omega)
          dsimp only
          rw [below]

end Bound

/-- Closing a holder does exactly what it should. -/
structure ClosesExactly (discipline : Discipline η α σ) (holder : Nat) (estate : Estate η α)
    (world : σ) : Prop where
  /-- Closing succeeds. -/
  succeeds : (discipline.close holder estate world).failure = none
  /-- Closing ends by itself: no larger bound on its depth makes a difference. -/
  ends : ∀ extra, discipline.closeWithin (estate.size + 1 + extra) holder estate world =
    discipline.close holder estate world
  /-- Listing the disposals has no influence. -/
  unobserved : discipline.close holder estate world =
    (discipline.recorded.close holder estate (world, [])).see Prod.fst
  /-- What the holder exposes is cleared, and disposed of if it is owned, and nothing else. -/
  clearance : estate.Clearance (estate.ReachesOpen holder)
    (discipline.close holder estate world).estate
    (discipline.recorded.close holder estate (world, [])).world.2
  /-- Any other order leaves the same estate and makes the same disposals. -/
  orderless : ∀ (τ : Type) (rival : Discipline η α τ) (rivalWorld : τ),
    rival.Calm (estate.ReachesOpen holder) →
      (rival.close holder estate rivalWorld).estate =
          (discipline.close holder estate world).estate ∧
        (rival.recorded.close holder estate (rivalWorld, [])).world.2.Perm
          (discipline.recorded.close holder estate (world, [])).world.2
  /-- Closing once more does nothing, whatever the order. -/
  again : ∀ (later : Discipline η α σ) (laterWorld : σ),
    later.close holder (discipline.close holder estate world).estate laterWorld =
      ⟨(discipline.close holder estate world).estate, laterWorld, none⟩

theorem close_recorded (discipline : Discipline η α σ) (holder : Nat) (estate : Estate η α)
    (world : σ × List (Nat × η)) :
    discipline.close holder estate world.1 =
      (discipline.recorded.close holder estate world).see Prod.fst :=
  discipline.recorded_seen.closeWithin _ holder estate world

theorem closeEach_recorded (discipline : Discipline η α σ) (holders : List Nat)
    (estate : Estate η α) (world : σ × List (Nat × η)) :
    closeEach discipline.close holders estate world.1 =
      (closeEach discipline.recorded.close holders estate world).see Prod.fst :=
  Seen.closeEach discipline.close_recorded holders estate world

/-- Closing what does not fail succeeds and clears what the holder exposes. -/
theorem close_clearance
    {discipline : Discipline η α σ}
    {holder : Nat}
    {estate : Estate η α}
    (world : σ)
    (acyclic : estate.Acyclic)
    (calm : discipline.Calm (estate.ReachesOpen holder)) :
    (discipline.recorded.close holder estate (world, [])).failure = none ∧
      estate.Clearance (estate.ReachesOpen holder)
        (discipline.recorded.close holder estate (world, [])).estate
        (discipline.recorded.close holder estate (world, [])).world.2 := by
  obtain ⟨teardown, closed⟩ := discipline.recorded.close_teardown holder (world, []) acyclic
  have peaceful := teardown.peaceful calm.recorded
  exact ⟨peaceful, teardown.clearance fun _ reached => ⟨holder, closed peaceful, reached⟩⟩

/-- Closing several holders in turn, none of which exposes one that fails, succeeds and clears all
that they expose. -/
theorem closeEach_clearance
    {discipline : Discipline η α σ}
    {holders : List Nat}
    {estate : Estate η α}
    (world : σ)
    (acyclic : estate.Acyclic)
    (calm : discipline.Calm fun other => ∃ holder ∈ holders, estate.ReachesOpen holder other) :
    let outcome := closeEach discipline.recorded.close holders estate (world, [])
    outcome.failure = none ∧
      estate.Clearance (fun other => ∃ holder ∈ holders, estate.ReachesOpen holder other)
        outcome.estate outcome.world.2 := by
  have closes : ∀ holder ∈ holders, ∀ later after, estate.Wanes later →
      discipline.recorded.Teardown
          (fun other => ∃ holder ∈ holders, estate.ReachesOpen holder other) later after
          (discipline.recorded.close holder later after) ∧
        ((discipline.recorded.close holder later after).failure = none →
          (discipline.recorded.close holder later after).estate.isOpen holder = false) := by
    intro holder member later after waned
    obtain ⟨teardown, closed⟩ :=
      discipline.recorded.close_teardown holder after (waned.acyclic acyclic)
    exact ⟨teardown.mono fun other reached => ⟨holder, member, waned.reachesOpen reached⟩, closed⟩
  obtain ⟨teardown, closed⟩ :=
    discipline.recorded.closeEach_teardown estate closes (world, []) (.refl estate)
  have peaceful := teardown.peaceful calm.recorded
  refine ⟨peaceful, teardown.clearance fun other ⟨holder, member, reached⟩ => ?_⟩
  exact ⟨holder, closed peaceful holder member, reached⟩

/-- Where adoption has no circle and nothing that a holder exposes fails, closing the holder does
exactly what it should, in whatever order dependants are closed. -/
theorem close_exact
    {discipline : Discipline η α σ}
    {holder : Nat}
    {estate : Estate η α}
    (world : σ)
    (acyclic : estate.Acyclic)
    (calm : discipline.Calm (estate.ReachesOpen holder)) :
    discipline.ClosesExactly holder estate world := by
  obtain ⟨rank, ranked, small⟩ := acyclic.exists_rank
  obtain ⟨peaceful, clearance⟩ := close_clearance world acyclic calm
  have seen := discipline.close_recorded holder estate (world, [])
  have sameEstate := congrArg Outcome.estate seen
  refine ⟨?_, ?_, seen, ?_, ?_, ?_⟩
  · exact (congrArg Outcome.failure seen).trans peaceful
  · exact closeWithin_add world ranked (Nat.lt_succ_of_le (small holder))
  · rw [sameEstate]
    exact clearance
  · intro τ rival rivalWorld rivalCalm
    have rivalClearance := (close_clearance rivalWorld acyclic rivalCalm).2
    rw [sameEstate, congrArg Outcome.estate (rival.close_recorded holder estate (rivalWorld, []))]
    exact rivalClearance.unique clearance
  · intro later laterWorld
    refine later.closeWithin_of_closed _ laterWorld ?_
    rw [sameEstate]
    exact clearance.isOpen_eq_false .refl

/-- Two dependants of a holder, one of them borrowed, share a third one.  The other one also has a
closed dependant, which adopted yet another holder after it was closed. -/
def shared : Estate Nat Unit :=
  ⟨[⟨some 10, true, [1, 2], ()⟩, ⟨some 11, true, [3, 4], ()⟩, ⟨some 12, false, [3], ()⟩,
    ⟨some 13, true, [], ()⟩, ⟨none, true, [5], ()⟩, ⟨some 15, true, [], ()⟩]⟩

theorem shared_acyclic : shared.Acyclic := by
  refine Estate.Acyclic.of_lt fun parent child adopted => ?_
  have increasing : ∀ parent < shared.size, ∀ child ∈ shared.dependants parent,
      parent < child := by
    decide
  exact increasing parent (Estate.lt_size_of_adopts adopted) child adopted

/-- A discipline under which only the disposal of the last holder fails. -/
def failingLast : Discipline Nat Unit Unit :=
  .inOrder fun _ holder _ world => (world, if holder = 5 then some .indisposable else none)

theorem shared_closesExactly :
    shared.Acyclic ∧ failingLast.Calm (shared.ReachesOpen 0) ∧
      (failingLast.recorded.close 0 shared ((), [])).world.2 = [(3, 13), (1, 11), (0, 10)] ∧
      (failingLast.close 0 shared ()).estate.handle? 5 = some 15 ∧
      failingLast.ClosesExactly 0 shared () := by
  have calm : failingLast.Calm (shared.ReachesOpen 0) := by
    intro holder reached estate handle world
    have within : holder ∈ [0, 1, 2, 3, 4] := reached.mem_of_closed (by decide) (by decide)
    have other : holder ≠ 5 := by
      rintro rfl
      exact absurd within (by decide)
    exact if_neg other
  exact ⟨shared_acyclic, calm, rfl, rfl, close_exact () shared_acyclic calm⟩

end Discipline
end Custody
