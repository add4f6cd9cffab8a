import Custody.Sequence
import Mathlib.Data.Int.Basic
import Mathlib.Data.List.Nodup
import Mathlib.Tactic.Linarith

/-!
# What indices and slices pick

An index picks the position it counts to, from the start or from the end, and a slice picks
the positions that lie a whole number of steps from where it begins and come before where it
stops.  The positions are listed in the direction of the step, which determines their list.
-/

namespace Custody
namespace Sequence

/-- An index counts to a position of a sequence from the start or from the end. -/
theorem position?_eq_some_iff {index : Int} {length position : Nat} :
    position? index length = some position ↔
      position < length ∧ (index = position ∨ index + length = position) := by
  unfold position?
  by_cases negative : index < 0
  all_goals
    simp only [negative, if_true, if_false]
    split
    · rw [Option.some.injEq]
      omega
    · simp only [reduceCtorEq, false_iff]
      omega

theorem position?_eq_none_iff {index : Int} {length : Nat} :
    position? index length = none ↔ ¬ (-(length : Int) ≤ index ∧ index < length) := by
  unfold position?
  by_cases negative : index < 0
  all_goals
    simp only [negative, if_true, if_false]
    split
    · simp only [reduceCtorEq, false_iff]
      omega
    · simp only [true_iff]
      omega

end Sequence

namespace Slice

/-- Where a bound of a slice lies: a negative one counts from the end. -/
def place (length : Nat) (bound : Int) : Int := if bound < 0 then bound + length else bound

/-- The step of a slice. -/
def stride (slice : Slice) : Int := slice.step.getD 1

/-- A slice comes by one position before another one: the step says in which direction. -/
def Precedes (slice : Slice) (first second : Int) : Prop :=
  if 0 < slice.stride then first < second else second < first

/-- Where a slice begins: at the end that it comes from, or at its start if that lies further on. -/
def first (slice : Slice) (length : Nat) : Int :=
  if 0 < slice.stride then slice.start.elim 0 fun start => max (place length start) 0
  else slice.start.elim (length - 1) fun start => min (place length start) (length - 1)

/-- A slice picks a position of a sequence that it comes by, counting in whole steps from where it
begins, before it comes to where it stops. -/
structure Picks (slice : Slice) (length : Nat) (position : Int) : Prop where
  /-- The sequence has the position. -/
  inside : 0 ≤ position ∧ position < length
  /-- The slice does not begin later. -/
  reached : ¬ slice.Precedes position (slice.first length)
  /-- The slice does not stop earlier. -/
  ahead : ∀ stop, slice.stop = some stop → slice.Precedes position (place length stop)
  /-- Whole steps lead to the position. -/
  whole : slice.stride ∣ position - slice.first length

section Steps

variable {start stop step : Int}

/-- How many steps fit below a distance. -/
theorem lt_toNat_ediv_iff (positive : 0 < step) (distance : Int) (count : Nat) :
    count < ((distance + step - 1) / step).toNat ↔ count * step < distance := by
  have enough : (count : Int) + 1 ≤ (distance + step - 1) / step ↔
      (count + 1) * step ≤ distance + step - 1 := Int.le_ediv_iff_mul_le positive
  rw [add_mul, one_mul] at enough
  omega

/-- With a positive step, the steps are those that stay below the stop. -/
theorem lt_steps_of_pos (positive : 0 < step) (count : Nat) :
    count < steps start stop step ↔ start + count * step < stop := by
  rw [steps, if_pos positive, lt_toNat_ediv_iff positive]
  omega

/-- With a negative step, the steps are those that stay above the stop. -/
theorem lt_steps_of_neg (negative : step < 0) (count : Nat) :
    count < steps start stop step ↔ stop < start + count * step := by
  have backwards := lt_toNat_ediv_iff (Int.neg_pos.mpr negative) (start - stop) count
  rw [mul_neg, ← sub_eq_add_neg] at backwards
  rw [steps, if_neg (by omega), backwards]
  omega

/-- A position is reached in whole steps when it lies a multiple of the step further on. -/
theorem exists_count_iff_of_pos (positive : 0 < step) (position : Int) :
    (∃ count : Nat, start + count * step = position) ↔
      start ≤ position ∧ step ∣ position - start := by
  constructor
  · rintro ⟨count, rfl⟩
    have further : 0 ≤ (count : Int) * step := by positivity
    rw [add_sub_cancel_left]
    exact ⟨by omega, Dvd.intro_left _ rfl⟩
  · rintro ⟨further, factor, multiple⟩
    have nonnegative : 0 ≤ factor := by
      by_contra negative
      have backwards : step * factor < 0 := mul_neg_of_pos_of_neg positive (not_le.mp negative)
      omega
    refine ⟨factor.toNat, ?_⟩
    rw [Int.toNat_of_nonneg nonnegative, mul_comm]
    omega

end Steps

section Direction

variable {slice : Slice}

/-- The steps of a slice are those that come before its stop. -/
theorem lt_steps_iff (nonzero : slice.stride ≠ 0) (start stop : Int) (count : Nat) :
    count < steps start stop slice.stride ↔ slice.Precedes (start + count * slice.stride) stop := by
  unfold Precedes
  split
  · next positive => exact lt_steps_of_pos positive count
  · next backwards => exact lt_steps_of_neg (by omega) count

/-- The positions in whole steps from a start are those that do not come before it and lie a
multiple of the step away. -/
theorem exists_count_iff (nonzero : slice.stride ≠ 0) (start position : Int) :
    (∃ count : Nat, start + count * slice.stride = position) ↔
      ¬ slice.Precedes position start ∧ slice.stride ∣ position - start := by
  unfold Precedes
  split
  · next positive => rw [exists_count_iff_of_pos positive, not_lt]
  · next backwards =>
      -- Seen from the other end, the step is positive.
      have mirrored : (∃ count : Nat, -start + count * -slice.stride = -position) ↔
          -start ≤ -position ∧ -slice.stride ∣ -position - -start :=
        exists_count_iff_of_pos (by omega) (-position)
      rw [neg_le_neg_iff, Int.neg_dvd, neg_sub_neg, ← Int.dvd_neg, neg_sub] at mirrored
      rw [not_lt, ← mirrored]
      refine exists_congr fun count => ?_
      rw [mul_neg]
      omega

/-- Every step leads further in the direction of the slice. -/
theorem precedes_of_lt (nonzero : slice.stride ≠ 0) (start : Int) {earlier later : Nat}
    (lower : earlier < later) :
    slice.Precedes (start + earlier * slice.stride) (start + later * slice.stride) := by
  have less : (earlier : Int) < later := by exact_mod_cast lower
  unfold Precedes
  split
  · next positive => exact add_lt_add_right (mul_lt_mul_of_pos_right less positive) start
  · next backwards =>
      exact add_lt_add_right (mul_lt_mul_of_neg_right less (by omega)) start

end Direction

section Bounds

/-- Moving a bound into a sequence is moving its place. -/
theorem clamp_eq {length : Nat} {lower upper : Int} (low : lower ≤ 0) (high : length - 1 ≤ upper)
    (ordered : lower ≤ upper) (bound : Int) :
    clamp length lower upper bound = max (min (place length bound) upper) lower := by
  unfold clamp place
  split <;> omega

variable (slice : Slice) (length : Nat)

/-- The lowest place to which a bound is moved. -/
def lowest : Int := if slice.stride < 0 then -1 else 0

/-- The highest place to which a bound is moved. -/
def highest : Int := if slice.stride < 0 then length - 1 else length

/-- Where a slice begins once its start was moved into the sequence. -/
def begins : Int :=
  (slice.start.map (clamp length slice.lowest (slice.highest length))).getD
    (if slice.stride < 0 then slice.highest length else slice.lowest)

/-- Where a slice stops once its stop was moved into the sequence. -/
def ends : Int :=
  (slice.stop.map (clamp length slice.lowest (slice.highest length))).getD
    (if slice.stride < 0 then slice.lowest else slice.highest length)

variable {slice length}

theorem positions_eq (nonzero : slice.stride ≠ 0) :
    slice.positions length =
      .ok ((List.range (steps (slice.begins length) (slice.ends length) slice.stride)).map
        fun (count : Nat) => slice.begins length + count * slice.stride) := by
  have given : slice.step.getD 1 ≠ 0 := nonzero
  unfold positions
  dsimp only
  rw [if_neg given]
  rfl

theorem begins_of_pos (positive : 0 < slice.stride) :
    slice.begins length =
      slice.start.elim 0 fun start => max (min (place length start) length) 0 := by
  have forwards : ¬ slice.stride < 0 := by omega
  unfold begins lowest highest
  cases slice.start with
  | none => simp [forwards]
  | some start =>
      simp only [forwards, if_false, Option.map_some, Option.getD_some, Option.elim_some]
      exact clamp_eq (by omega) (by omega) (by omega) start

theorem begins_of_neg (negative : slice.stride < 0) :
    slice.begins length =
      slice.start.elim (length - 1 : Int) fun start =>
        max (min (place length start) (length - 1)) (-1) := by
  unfold begins lowest highest
  cases slice.start with
  | none => simp [negative]
  | some start =>
      simp only [negative, if_true, Option.map_some, Option.getD_some, Option.elim_some]
      exact clamp_eq (by omega) (by omega) (by omega) start

theorem ends_of_pos (positive : 0 < slice.stride) :
    slice.ends length =
      slice.stop.elim (length : Int) fun stop => max (min (place length stop) length) 0 := by
  have forwards : ¬ slice.stride < 0 := by omega
  unfold ends lowest highest
  cases slice.stop with
  | none => simp [forwards]
  | some stop =>
      simp only [forwards, if_false, Option.map_some, Option.getD_some, Option.elim_some]
      exact clamp_eq (by omega) (by omega) (by omega) stop

theorem ends_of_neg (negative : slice.stride < 0) :
    slice.ends length =
      slice.stop.elim (-1) fun stop => max (min (place length stop) (length - 1)) (-1) := by
  unfold ends lowest highest
  cases slice.stop with
  | none => simp [negative]
  | some stop =>
      simp only [negative, if_true, Option.map_some, Option.getD_some, Option.elim_some]
      exact clamp_eq (by omega) (by omega) (by omega) stop

/-- Where a slice has come by where it begins, moving its start makes no difference. -/
theorem begins_eq_first (nonzero : slice.stride ≠ 0) {position : Int}
    (inside : 0 ≤ position ∧ position < length)
    (reached : ¬ slice.Precedes position (slice.begins length) ∨
      ¬ slice.Precedes position (slice.first length)) :
    slice.begins length = slice.first length := by
  unfold Precedes first at *
  rcases lt_or_gt_of_ne nonzero with negative | positive
  · have backwards : ¬ 0 < slice.stride := by omega
    rw [begins_of_neg negative, if_neg backwards, if_neg backwards] at reached
    rw [begins_of_neg negative, if_neg backwards]
    cases given : slice.start with
    | none => rfl
    | some start =>
        simp only [given, Option.elim_some] at reached ⊢
        omega
  · rw [begins_of_pos positive, if_pos positive, if_pos positive] at reached
    rw [begins_of_pos positive, if_pos positive]
    cases given : slice.start with
    | none => rfl
    | some start =>
        simp only [given, Option.elim_some] at reached ⊢
        omega

/-- Moving its stop makes no difference to which positions a slice comes by before it stops. -/
theorem precedes_ends_iff (nonzero : slice.stride ≠ 0) {position : Int}
    (inside : 0 ≤ position ∧ position < length) :
    slice.Precedes position (slice.ends length) ↔
      ∀ stop, slice.stop = some stop → slice.Precedes position (place length stop) := by
  unfold Precedes
  rcases lt_or_gt_of_ne nonzero with negative | positive
  · have backwards : ¬ 0 < slice.stride := by omega
    rw [ends_of_neg negative, if_neg backwards]
    cases slice.stop <;> simp [backwards] <;> omega
  · rw [ends_of_pos positive, if_pos positive]
    cases slice.stop <;> simp [positive] <;> omega

/-- Between the moved bounds of a slice lie positions of the sequence only. -/
theorem inside_of_between (nonzero : slice.stride ≠ 0) {position : Int}
    (reached : ¬ slice.Precedes position (slice.begins length))
    (ahead : slice.Precedes position (slice.ends length)) :
    0 ≤ position ∧ position < length := by
  unfold Precedes at *
  rcases lt_or_gt_of_ne nonzero with negative | positive
  · have backwards : ¬ 0 < slice.stride := by omega
    rw [begins_of_neg negative, if_neg backwards] at reached
    rw [ends_of_neg negative, if_neg backwards] at ahead
    cases start : slice.start <;> cases stop : slice.stop <;>
      simp only [start, stop, Option.elim_none, Option.elim_some] at reached ahead <;> omega
  · rw [begins_of_pos positive, if_pos positive] at reached
    rw [ends_of_pos positive, if_pos positive] at ahead
    cases start : slice.start <;> cases stop : slice.stop <;>
      simp only [start, stop, Option.elim_none, Option.elim_some] at reached ahead <;> omega

end Bounds

/-- The positions between the moved bounds in whole steps are those that a slice should pick. -/
theorem picks_iff {slice : Slice} (nonzero : slice.stride ≠ 0) {length : Nat} {position : Int} :
    slice.Picks length position ↔
      (∃ count : Nat, slice.begins length + count * slice.stride = position) ∧
        slice.Precedes position (slice.ends length) := by
  rw [exists_count_iff nonzero]
  constructor
  · rintro ⟨inside, reached, ahead, whole⟩
    rw [begins_eq_first nonzero inside (.inr reached)]
    exact ⟨⟨reached, whole⟩, (precedes_ends_iff nonzero inside).mpr ahead⟩
  · rintro ⟨⟨reached, whole⟩, ahead⟩
    have inside := inside_of_between nonzero reached ahead
    have same := begins_eq_first nonzero inside (.inl reached)
    rw [same] at reached whole
    exact ⟨inside, reached, (precedes_ends_iff nonzero inside).mp ahead, whole⟩

/-- A slice whose step is not zero picks exactly the positions that it should, in the direction of
its step. -/
theorem exists_positions {slice : Slice} (nonzero : slice.stride ≠ 0) (length : Nat) :
    ∃ positions : List Int, slice.positions length = .ok positions ∧
      positions.Pairwise slice.Precedes ∧
      ∀ position, position ∈ positions ↔ slice.Picks length position := by
  refine ⟨_, positions_eq nonzero, ?_, fun position => ?_⟩
  · rw [List.pairwise_map]
    exact List.pairwise_lt_range.imp fun lower => precedes_of_lt nonzero _ lower
  · simp only [picks_iff nonzero, List.mem_map, List.mem_range, lt_steps_iff nonzero]
    constructor
    · rintro ⟨count, ahead, rfl⟩
      exact ⟨⟨count, rfl⟩, ahead⟩
    · rintro ⟨⟨count, rfl⟩, ahead⟩
      exact ⟨count, ahead, rfl⟩

end Slice
end Custody
