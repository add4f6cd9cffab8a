import Custody.Proofs.Estate.Closing
import Mathlib.Data.Set.Card

/-!
# Closing again after a failure

A closing that fails leaves the holder open, unless it is the disposal of the holder itself
that failed, and can be tried again, each time with the dependants in a fresh order.  The
obstacles of a holder are the open, owned holders that it exposes and that fail when they are
disposed of.  Every attempt that fails removes one obstacle, the one that it blames.

Main statement: at most as many attempts fail as there were obstacles, and after one more than
that everything that the holder exposed is closed and was disposed of once if it was owned.
-/

namespace Custody

namespace Estate

variable {η α : Type} {before after : Estate η α}

/-- The open, owned holders that a holder exposes and that fail when they are disposed of. -/
def obstacles (estate : Estate η α) (faults : Nat → Option Failure) (holder : Nat) : Set Nat :=
  {other | estate.ReachesOpen holder other ∧ estate.isOpen other = true ∧
    estate.owned? other = some true ∧ faults other ≠ none}

theorem finite_obstacles (estate : Estate η α) (faults : Nat → Option Failure) (holder : Nat) :
    (estate.obstacles faults holder).Finite :=
  (Set.finite_lt_nat estate.size).subset fun _ obstacle => lt_size_of_isOpen obstacle.2.1

theorem Wanes.owned? (wanes : before.Wanes after) (holder : Nat) :
    after.owned? holder = before.owned? holder := by
  unfold Estate.owned?
  rcases wanes holder with kept | cleared
  · rw [kept]
  · rw [cleared, Option.map_map]
    rfl

theorem Wanes.obstacles_subset (wanes : before.Wanes after) (faults : Nat → Option Failure)
    (holder : Nat) : after.obstacles faults holder ⊆ before.obstacles faults holder := by
  rintro other ⟨reached, opened, owned, faulty⟩
  rw [wanes.owned? other] at owned
  exact ⟨wanes.reachesOpen reached, wanes.isOpen opened, owned, faulty⟩

/-- An attempt to close a holder failed because of one obstacle: it closed the obstacle and no
other owned holder that fails, and the holder stays as it is unless it is the obstacle. -/
structure Blames (faults : Nat → Option Failure) (holder culprit : Nat) (failure : Failure)
    (before after : Estate η α) : Prop where
  /-- The obstacle was exposed, open and owned, and the failure is its own. -/
  obstacle : culprit ∈ before.obstacles faults holder ∧ faults culprit = some failure
  /-- It is closed now. -/
  closed : after.isOpen culprit = false
  /-- No other owned holder that fails was closed. -/
  others : ∀ other, other ≠ culprit → before.owned? other = some true → faults other ≠ none →
    after.isOpen other = before.isOpen other
  /-- The holder stays open with all its dependants, unless the failure is its own. -/
  root : culprit ≠ holder → before.isOpen holder = true ∧ after.get? holder = before.get? holder

/-- An attempt that fails removes an obstacle. -/
theorem Blames.ncard_lt {faults : Nat → Option Failure} {holder culprit : Nat} {failure : Failure}
    (blames : Blames faults holder culprit failure before after) (wanes : before.Wanes after) :
    (after.obstacles faults holder).ncard < (before.obstacles faults holder).ncard := by
  refine Set.ncard_lt_ncard ?_ (before.finite_obstacles faults holder)
  refine (Set.ssubset_iff_of_subset (wanes.obstacles_subset faults holder)).mpr
    ⟨culprit, blames.obstacle.1, fun remaining => ?_⟩
  have opened := remaining.2.1
  rw [blames.closed] at opened
  cases opened

end Estate

namespace Discipline

variable {η α σ : Type} {faults : Nat → Option Failure}

/-- Which disposals fail, and how, depends on the holder alone. -/
def Faulty (discipline : Discipline η α σ) (faults : Nat → Option Failure) : Prop :=
  ∀ estate holder handle world, (discipline.dispose estate holder handle world).2 = faults holder

theorem Faulty.recorded {discipline : Discipline η α σ} (faulty : discipline.Faulty faults) :
    discipline.recorded.Faulty faults :=
  fun estate holder handle world => faulty estate holder handle world.1

/-- Disposals in turn, up to the first one that fails, if there is one. -/
inductive UpToFailure (faults : Nat → Option Failure) :
    List (Nat × η) → Option Failure → Prop
  | finished : UpToFailure faults [] none
  | failed {holder : Nat} {handle : η} {failure : Failure} (fault : faults holder = some failure) :
      UpToFailure faults [(holder, handle)] (some failure)
  | disposed {holder : Nat} {handle : η} {calls : List (Nat × η)} {failure : Option Failure}
      (fine : faults holder = none) (rest : UpToFailure faults calls failure) :
      UpToFailure faults ((holder, handle) :: calls) failure

/-- After disposals that did not fail, others follow up to the first one that fails. -/
theorem UpToFailure.append {calls later : List (Nat × η)} {failure : Option Failure}
    (first : UpToFailure faults calls none) (second : UpToFailure faults later failure) :
    UpToFailure faults (calls ++ later) failure := by
  generalize ended : none = peace at first
  induction first with
  | finished => exact second
  | failed => cases ended
  | disposed fine _ inductionHypothesis => exact .disposed fine (inductionHypothesis ended)

/-- Where disposals ended with a failure, it is the failure of the last holder, and no other one
fails. -/
theorem UpToFailure.exists_culprit {calls : List (Nat × η)} {wording : Failure}
    (disposals : UpToFailure faults calls (some wording)) :
    ∃ earlier culprit handle, calls = earlier ++ [(culprit, handle)] ∧
      faults culprit = some wording ∧ ∀ call ∈ earlier, faults call.1 = none := by
  generalize ended : some wording = failure at disposals
  induction disposals with
  | finished => cases ended
  | @failed holder handle failure fault =>
      cases ended
      exact ⟨[], holder, handle, rfl, fault, by simp⟩
  | @disposed holder handle calls failure fine _ inductionHypothesis =>
      obtain ⟨earlier, culprit, last, rfl, fault, calm⟩ := inductionHypothesis ended
      refine ⟨(holder, handle) :: earlier, culprit, last, rfl, fault, ?_⟩
      intro call member
      rcases List.mem_cons.mp member with rfl | later
      · exact fine
      · exact calm call later

section Attempt

variable {discipline : Discipline η α σ}

/-- A release disposes of the holder at most, and ends as that disposal does. -/
theorem release_upToFailure (faulty : discipline.Faulty faults) (holder : Nat) (handle : η)
    (owned : Bool) (estate : Estate η α) (world : σ × List (Nat × η)) :
    UpToFailure faults (if owned then [(holder, handle)] else [])
      (discipline.recorded.release holder handle owned estate world).failure := by
  cases owned with
  | false => exact .finished
  | true =>
      have failure : (discipline.recorded.release holder handle true estate world).failure =
          faults holder := faulty _ _ _ _
      rw [failure, if_pos rfl]
      cases fault : faults holder with
      | none => exact .disposed fault .finished
      | some wording => exact .failed fault

/-- A teardown makes disposals up to the first one that fails. -/
theorem Teardown.upToFailure
    {reach : Nat → Prop}
    {estate : Estate η α}
    {world : σ × List (Nat × η)}
    {outcome : Outcome η α (σ × List (Nat × η))}
    (faulty : discipline.Faulty faults)
    (teardown : discipline.recorded.Teardown reach estate world outcome) :
    ∃ calls, outcome.world.2 = world.2 ++ calls ∧ UpToFailure faults calls outcome.failure := by
  induction teardown with
  | finished estate world => exact ⟨[], (List.append_nil _).symm, .finished⟩
  | @released estate world holder record handle outcome _ _ _ _ peaceful _ inductionHypothesis =>
      obtain ⟨later, listed, disposals⟩ := inductionHypothesis
      refine ⟨(if record.owned then [(holder, handle)] else []) ++ later, ?_, ?_⟩
      · rw [listed, release_recorded, List.append_assoc]
      · have first := release_upToFailure faulty holder handle record.owned estate world
        rw [peaceful] at first
        exact first.append disposals
  | failed _ _ _ _ _ =>
      exact ⟨_, release_recorded _ _ _ _ _ _, release_upToFailure faulty _ _ _ _ _⟩

/-- A closing that fails leaves the holder as it is or ends with its disposal. -/
theorem close_root
    {holder : Nat}
    {estate : Estate η α}
    {world : σ × List (Nat × η)}
    {wording : Failure}
    (acyclic : estate.Acyclic)
    (failed : (discipline.recorded.close holder estate world).failure = some wording) :
    estate.isOpen holder = true ∧
      ((discipline.recorded.close holder estate world).estate.get? holder = estate.get? holder ∨
        ∃ earlier handle, (discipline.recorded.close holder estate world).world.2 =
          earlier ++ [(holder, handle)]) := by
  cases opened : estate.isOpen holder with
  | false =>
      rw [close, closeWithin_of_closed _ _ _ opened] at failed
      cases failed
  | true =>
      obtain ⟨handle, held⟩ := Estate.isOpen_iff.mp opened
      obtain ⟨record, present, heldHere⟩ := Estate.handle?_eq_some_iff.mp held
      obtain ⟨rank, ranked, small⟩ := acyclic.exists_rank
      have each (child : Nat) (later : Estate η α) (after : σ × List (Nat × η))
          (adopted : estate.Adopts holder child) (waned : estate.Wanes later) :=
        discipline.recorded.closeWithin_teardown_open _ child after
          (waned.ranked ranked) (Nat.lt_of_lt_of_le (ranked holder child adopted) (small holder))
      obtain ⟨_, _, kept⟩ :=
        discipline.recorded.closeEach_dependants_teardown world ranked present each
      rw [close, closeWithin_succ_of_open _ _ _ present heldHere] at failed ⊢
      dsimp only at failed ⊢
      refine ⟨rfl, ?_⟩
      cases failure : (closeEach (discipline.recorded.closeWithin estate.size)
          (discipline.recorded.arrange estate world holder record.dependants) estate
            world).failure with
      | some earlier => exact .inl (kept.trans present.symm)
      | none =>
          rw [failure] at failed
          dsimp only at failed ⊢
          cases owned : record.owned with
          | false =>
              rw [owned] at failed
              cases failed
          | true => exact .inr ⟨_, handle, release_recorded _ _ _ _ _ _⟩

/-- A closing that fails blames one obstacle. -/
theorem close_blames
    {holder : Nat}
    {estate : Estate η α}
    {world : σ × List (Nat × η)}
    {wording : Failure}
    (faulty : discipline.Faulty faults)
    (acyclic : estate.Acyclic)
    (failed : (discipline.recorded.close holder estate world).failure = some wording) :
    ∃ culprit, Estate.Blames faults holder culprit wording estate
      (discipline.recorded.close holder estate world).estate := by
  have root := close_root acyclic failed
  have teardown := (discipline.recorded.close_teardown holder world acyclic).1
  obtain ⟨calls, listed, sweep⟩ := teardown.sweep
  obtain ⟨same, listedToo, disposals⟩ := teardown.upToFailure faulty
  rw [listed, List.append_cancel_left_eq] at listedToo
  subst listedToo
  rw [failed] at disposals
  obtain ⟨earlier, culprit, handle, rfl, fault, calm⟩ := disposals.exists_culprit
  obtain ⟨held, owned, closed⟩ := (sweep.called culprit handle).mp (by simp)
  refine ⟨culprit, ⟨⟨?_, Estate.isOpen_iff.mpr ⟨handle, held⟩, owned, ?_⟩, fault⟩, closed, ?_, ?_⟩
  · by_contra outside
    have kept := teardown.get?_eq_of_not_reach outside
    rw [Estate.isOpen_eq_false_iff, Estate.handle?, kept] at closed
    rw [Estate.handle?, closed] at held
    cases held
  · rw [fault]
    exact Option.some_ne_none wording
  · intro other different otherOwned otherFaulty
    cases opened : estate.isOpen other with
    | false => exact sweep.wanes.isOpen_eq_false opened
    | true =>
        cases closedToo : (discipline.recorded.close holder estate world).estate.isOpen other with
        | true => rfl
        | false =>
            obtain ⟨otherHandle, otherHeld⟩ := Estate.isOpen_iff.mp opened
            have called := (sweep.called other otherHandle).mpr
              ⟨otherHeld, otherOwned, closedToo⟩
            rcases List.mem_append.mp called with before | last
            · exact absurd (calm _ before) otherFaulty
            · exact absurd (Prod.mk.inj (List.mem_singleton.mp last)).1 different
  · intro different
    refine ⟨root.1, ?_⟩
    rcases root.2 with kept | ⟨before, last, ended⟩
    · exact kept
    · rw [listed, ← List.append_assoc] at ended
      have same := (List.append_inj' ended rfl).2
      exact absurd (Prod.mk.inj (List.singleton_inj.mp same)).1 different

end Attempt

section Retried

variable (disciplines : Nat → Discipline η α σ) (holder : Nat) (estate : Estate η α) (world : σ)

/-- What several attempts in turn to close a holder lead to, each under a discipline of its own,
with the failure of the last one. -/
def retries : Nat → Outcome η α σ
  | 0 => ⟨estate, world, none⟩
  | count + 1 =>
      (disciplines count).close holder (retries count).estate (retries count).world

theorem retries_wanes {first last : Nat} (before : first ≤ last) :
    (retries disciplines holder estate world first).estate.Wanes
      (retries disciplines holder estate world last).estate := by
  induction before with
  | refl => exact .refl _
  | step _ inductionHypothesis =>
      exact inductionHypothesis.trans (closeWithin_advances _ _ _ _).wanes

theorem retries_acyclic (acyclic : estate.Acyclic) (count : Nat) :
    (retries disciplines holder estate world count).estate.Acyclic :=
  (retries_wanes disciplines holder estate world (Nat.zero_le count)).acyclic acyclic

/-- Listing the disposals has no influence on any attempt. -/
theorem retries_recorded (count : Nat) :
    retries disciplines holder estate world count =
      (retries (fun attempt => (disciplines attempt).recorded) holder estate (world, [])
        count).see Prod.fst := by
  induction count with
  | zero => rfl
  | succ count inductionHypothesis =>
      unfold retries
      rw [inductionHypothesis]
      exact (disciplines count).close_recorded holder _ _

variable {estate}

/-- All attempts together are one sweep, which stays within what the holder exposed at first. -/
theorem retries_sweep (acyclic : estate.Acyclic) (count : Nat) :
    let outcome := retries (fun attempt => (disciplines attempt).recorded) holder estate (world, [])
      count
    estate.Sweep outcome.estate outcome.world.2 ∧
      ∀ other, ¬ estate.ReachesOpen holder other →
        outcome.estate.get? other = estate.get? other := by
  induction count with
  | zero => exact ⟨.refl estate, fun _ _ => rfl⟩
  | succ count inductionHypothesis =>
      obtain ⟨sweep, apart⟩ := inductionHypothesis
      have teardown := ((disciplines count).recorded.close_teardown holder
        (retries (fun attempt => (disciplines attempt).recorded) holder estate (world, [])
          count).world (sweep.wanes.acyclic acyclic)).1
      obtain ⟨calls, listed, further⟩ := teardown.sweep
      refine ⟨?_, fun other outside => ?_⟩
      · unfold retries
        rw [listed]
        exact sweep.trans further
      · refine (teardown.get?_eq_of_not_reach fun reached => ?_).trans (apart other outside)
        exact outside (sweep.wanes.reachesOpen reached)

variable {disciplines holder world}

/-- An attempt that succeeds leaves the holder closed. -/
theorem isOpen_retries_of_success (acyclic : estate.Acyclic) {count : Nat}
    (peaceful : (retries disciplines holder estate world (count + 1)).failure = none) :
    (retries disciplines holder estate world (count + 1)).estate.isOpen holder = false :=
  ((disciplines count).close_teardown holder _
    (retries_acyclic disciplines holder estate world acyclic count)).2 peaceful

/-- An attempt that fails blames one obstacle. -/
theorem retries_blames (faulty : ∀ attempt, (disciplines attempt).Faulty faults)
    (acyclic : estate.Acyclic) {count : Nat} {wording : Failure}
    (failed : (retries disciplines holder estate world (count + 1)).failure = some wording) :
    ∃ culprit, Estate.Blames faults holder culprit wording
      (retries disciplines holder estate world count).estate
      (retries disciplines holder estate world (count + 1)).estate := by
  rw [retries_recorded] at failed
  have blamed := close_blames (faulty count) (retries_acyclic _ _ _ _ acyclic count) failed
  rw [retries_recorded, retries_recorded disciplines holder estate world (count + 1)]
  exact blamed

variable (holder world)

/-- Attempts that failed and obstacles that remain are no more than the obstacles at first. -/
theorem countP_retries_add_ncard_le (faulty : ∀ attempt, (disciplines attempt).Faulty faults)
    (acyclic : estate.Acyclic) (count : Nat) :
    ((List.range count).countP fun attempt =>
        (retries disciplines holder estate world (attempt + 1)).failure.isSome) +
      ((retries disciplines holder estate world count).estate.obstacles faults holder).ncard ≤
        (estate.obstacles faults holder).ncard := by
  induction count with
  | zero => exact Nat.le_of_eq (Nat.zero_add _)
  | succ count inductionHypothesis =>
      have wanes : (retries disciplines holder estate world count).estate.Wanes
          (retries disciplines holder estate world (count + 1)).estate :=
        retries_wanes _ _ _ _ (Nat.le_succ count)
      rw [List.range_succ, List.countP_append, List.countP_singleton]
      cases failure : (retries disciplines holder estate world (count + 1)).failure with
      | none =>
          have fewer := Set.ncard_le_ncard (wanes.obstacles_subset faults holder)
            (Estate.finite_obstacles _ faults holder)
          simp only [Option.isSome_none, Bool.false_eq_true, if_false]
          omega
      | some wording =>
          obtain ⟨culprit, blames⟩ := retries_blames faulty acyclic failure
          have fewer := blames.ncard_lt wanes
          simp only [Option.isSome_some, if_true]
          omega

/-- After one attempt more than there were obstacles the holder is closed. -/
theorem isOpen_retries_of_lt (faulty : ∀ attempt, (disciplines attempt).Faulty faults)
    (acyclic : estate.Acyclic) {count : Nat}
    (enough : (estate.obstacles faults holder).ncard < count) :
    (retries disciplines holder estate world count).estate.isOpen holder = false := by
  by_contra opened
  rw [Bool.not_eq_false] at opened
  have failing : ∀ attempt ∈ List.range count,
      (retries disciplines holder estate world (attempt + 1)).failure.isSome = true := by
    intro attempt member
    have waned := retries_wanes disciplines holder estate world (List.mem_range.mp member)
    rw [Option.isSome_iff_ne_none]
    intro peaceful
    have stillOpen := waned.isOpen opened
    rw [isOpen_retries_of_success acyclic peaceful] at stillOpen
    cases stillOpen
  have few := countP_retries_add_ncard_le holder world faulty acyclic count
  rw [List.countP_eq_length.mpr failing, List.length_range] at few
  omega

variable (disciplines)

/-- Closing a holder again and again, in any orders, gets over the failures of disposals. -/
structure CompletesByRetrying (faults : Nat → Option Failure) (estate : Estate η α) : Prop where
  /-- Listing the disposals has no influence. -/
  unobserved : ∀ count, retries disciplines holder estate world count =
    (retries (fun attempt => (disciplines attempt).recorded) holder estate (world, [])
      count).see Prod.fst
  /-- An attempt that fails blames one obstacle. -/
  blames : ∀ count wording,
    (retries disciplines holder estate world (count + 1)).failure = some wording →
      ∃ culprit, Estate.Blames faults holder culprit wording
        (retries disciplines holder estate world count).estate
        (retries disciplines holder estate world (count + 1)).estate
  /-- At most as many attempts fail as there were obstacles. -/
  bounded : ∀ count, ((List.range count).countP fun attempt =>
      (retries disciplines holder estate world (attempt + 1)).failure.isSome) ≤
    (estate.obstacles faults holder).ncard
  /-- After more attempts than there were obstacles, all that the holder exposed is cleared, and
  was disposed of once if it was owned. -/
  completed : ∀ count, (estate.obstacles faults holder).ncard < count →
    estate.Clearance (estate.ReachesOpen holder)
      (retries disciplines holder estate world count).estate
      (retries (fun attempt => (disciplines attempt).recorded) holder estate (world, [])
        count).world.2

/-- Where adoption has no circle and every holder fails always or never, closing a holder again and
again gets over the failures. -/
theorem completesByRetrying
    (faulty : ∀ attempt, (disciplines attempt).Faulty faults)
    (acyclic : estate.Acyclic) :
    CompletesByRetrying disciplines holder world faults estate where
  unobserved := retries_recorded disciplines holder estate world
  blames := fun _ _ failed => retries_blames faulty acyclic failed
  bounded := by
    intro count
    have few := countP_retries_add_ncard_le holder world faulty acyclic count
    omega
  completed := by
    intro count enough
    obtain ⟨sweep, apart⟩ := retries_sweep disciplines holder world acyclic count
    have closed := isOpen_retries_of_lt holder world faulty acyclic enough
    rw [retries_recorded] at closed ⊢
    exact sweep.clearance (fun _ reached => sweep.isOpen_of_reachesOpen closed reached) apart

end Retried

/-- The holders that fail: one of them is borrowed, and the last one is not exposed. -/
def spoiled (holder : Nat) : Option Failure :=
  if holder ∈ [1, 2, 3, 5] then some .indisposable else none

/-- A discipline that closes dependants from either end, by turns. -/
def byTurns (attempt : Nat) : Discipline Nat Unit Unit where
  arrange := fun _ _ _ items => if attempt % 2 = 0 then items else items.reverse
  arrange_perm := by
    intro _ _ _ items
    split
    · exact .refl items
    · exact List.reverse_perm items
  dispose := fun _ holder _ world => (world, spoiled holder)

theorem shared_completesByRetrying :
    (∀ attempt, (byTurns attempt).Faulty spoiled) ∧ shared.Acyclic ∧
      [1, 2, 3].map (fun count => (retries byTurns 0 shared () count).failure) =
        [some .indisposable, some .indisposable, none] ∧
      (retries (fun attempt => (byTurns attempt).recorded) 0 shared ((), []) 3).world.2 =
        [(3, 13), (1, 11), (0, 10)] ∧
      CompletesByRetrying byTurns 0 () spoiled shared :=
  ⟨fun _ _ _ _ _ => rfl, shared_acyclic, rfl, rfl,
    completesByRetrying byTurns 0 () (fun _ _ _ _ _ => rfl) shared_acyclic⟩

end Discipline
end Custody
