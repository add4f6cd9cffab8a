import Custody.Failure

/-!
# Positions in sequences

An index counts from the start or, when it is negative, from the end.  A slice
picks positions from a start to a stop in equal steps; bounds outside of the
sequence are moved to its ends.
-/

namespace Custody
namespace Sequence

/-- The position that an index denotes in a sequence of a given length. -/
def position? (index : Int) (length : Nat) : Option Nat :=
  let position := if index < 0 then index + length else index
  if 0 ≤ position ∧ position < length then some position.toNat else none

/-- The item of a list that an index denotes. -/
def item? {α : Type} (items : List α) (index : Int) : Option α :=
  (position? index items.length).bind (items[·]?)

end Sequence

/-- A slice, each part of which may be left out. -/
structure Slice where
  /-- Where to begin. -/
  start : Option Int
  /-- Where to stop. -/
  stop : Option Int
  /-- How far to go in a step. -/
  step : Option Int
  deriving DecidableEq, Inhabited

namespace Slice

/-- Moves a bound into a sequence: a negative one counts from the end. -/
def clamp (length : Nat) (lower upper bound : Int) : Int :=
  if bound < 0 then max (bound + length) lower else min bound upper

/-- How many steps lead from a start to just before a stop. -/
def steps (start stop step : Int) : Nat :=
  if 0 < step then ((stop - start + step - 1) / step).toNat
  else ((start - stop - step - 1) / (-step)).toNat

/-- The positions that a slice picks from a sequence of a given length, in order. -/
def positions (slice : Slice) (length : Nat) : Except Failure (List Int) :=
  let step := slice.step.getD 1
  if step = 0 then .error .zeroStep
  else
    let lower : Int := if step < 0 then -1 else 0
    let upper : Int := if step < 0 then length - 1 else length
    let start := (slice.start.map (clamp length lower upper)).getD
      (if step < 0 then upper else lower)
    let stop := (slice.stop.map (clamp length lower upper)).getD
      (if step < 0 then lower else upper)
    .ok ((List.range (steps start stop step)).map fun (count : Nat) => start + count * step)

/-- The items that a slice picks from a list. -/
def pick {α : Type} (slice : Slice) (items : List α) : Except Failure (List α) := do
  return (← slice.positions items.length).filterMap (Sequence.item? items)

end Slice
end Custody
