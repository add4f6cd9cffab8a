import Custody.Proofs.Scenario.Refusal
import Custody.Proofs.Session.Sequences

/-!
# Sequences of diagnostics behave as lists

In every state that a scenario reaches, the diagnostics of a unit and those of a set can be
indexed, sliced and gone through like a list.  Nothing is allocated or adopted but what is
read.  A closed set is empty, and the diagnostics of a closed unit are refused.
-/

namespace Custody

open Facade

namespace DiagnosticSequence

/-- A sequence of an open holder is read as a list of what the library has there. -/
structure ReadsAsList (sequence : DiagnosticSequence) (session : Session) (upper : Handle) :
    Prop where
  /-- It has as many items as the library has diagnostics. -/
  count : sequence.count.outcome session =
    (.ok (sequence.models session.library upper).length, session)
  /-- An index from the start or from the end yields the diagnostic at its position. -/
  item : ∀ (index : Int) (position : Nat),
    position < (sequence.models session.library upper).length →
      (index = position ∨ index + (sequence.models session.library upper).length = position) →
        ∃ (handle : Handle) (later : Session),
          (sequence.item index).outcome session = (.ok session.estate.size, later) ∧
            sequence.Delivered upper session [position] [handle] later
  /-- Any other index is refused, and nothing happens. -/
  outside : ∀ index : Int,
    ¬ (-((sequence.models session.library upper).length : Int) ≤ index ∧
        index < (sequence.models session.library upper).length) →
      (sequence.item index).outcome session = (.error .diagnosticIndex, session)
  /-- A slice yields the diagnostics at the positions that it picks, in its direction. -/
  slice : ∀ slice : Slice, slice.step ≠ some 0 →
    ∃ (positions : List Nat) (handles : List Handle) (later : Session),
      (positions.Pairwise fun (first second : Nat) => slice.Precedes first second) ∧
        (∀ position : Nat, position ∈ positions ↔
          slice.Picks (sequence.models session.library upper).length position) ∧
        (sequence.slice slice).outcome session =
          (.ok (List.range' session.estate.size positions.length), later) ∧
        sequence.Delivered upper session positions handles later
  /-- Going through it yields all diagnostics in order, and then the next index is refused. -/
  iteration : ∃ (handles : List Handle) (later : Session),
    sequence.toList.outcome session =
        (.ok (List.range' session.estate.size (sequence.models session.library upper).length),
          later) ∧
      sequence.Delivered upper session
        (List.range (sequence.models session.library upper).length) handles later ∧
      (sequence.item (sequence.models session.library upper).length).outcome later =
        (.error .diagnosticIndex, later)

/-- A sequence behaves as a list, whether its holder is open or closed. -/
structure BehavesAsList (sequence : DiagnosticSequence) (session : Session) : Prop where
  /-- While the holder is open, the sequence is read as a list. -/
  opened : ∀ upper, session.estate.handle? sequence.holder = some upper →
    sequence.ReadsAsList session upper
  /-- A closed set is empty. -/
  closedSet : ∀ number, sequence = .set number → session.estate.isOpen number = false →
    sequence.count.outcome session = (.ok 0, session) ∧
      (∀ index, (sequence.item index).outcome session = (.error .diagnosticIndex, session)) ∧
      (∀ slice : Slice, slice.step ≠ some 0 →
        (sequence.slice slice).outcome session = (.ok [], session)) ∧
      sequence.toList.outcome session = (.ok [], session)
  /-- The diagnostics of a closed unit are refused. -/
  closedUnit : ∀ unit, sequence = .view unit → session.estate.isOpen unit = false →
    sequence.count.outcome session = (.error (.closed "TranslationUnit"), session) ∧
      (∀ index, (sequence.item index).outcome session =
        (.error (.closed "TranslationUnit"), session)) ∧
      (∀ slice, (sequence.slice slice).outcome session =
        (.error (.closed "TranslationUnit"), session)) ∧
      sequence.toList.outcome session = (.error (.closed "TranslationUnit"), session)

variable {sequence : DiagnosticSequence} {session : Session} {upper : Handle}

theorem stride_ne_zero {slice : Slice} (nonzero : slice.step ≠ some 0) : slice.stride ≠ 0 := by
  unfold Slice.stride
  cases step : slice.step with
  | none => decide
  | some value =>
      rintro rfl
      exact nonzero step

/-- The positions that a slice picks, as numbers. -/
theorem exists_picked {slice : Slice} (nonzero : slice.step ≠ some 0) (length : Nat) :
    ∃ positions : List Nat,
      slice.positions length = .ok (positions.map fun (position : Nat) => (position : Int)) ∧
        (positions.Pairwise fun (first second : Nat) => slice.Precedes first second) ∧
        ∀ position : Nat, position ∈ positions ↔ slice.Picks length position := by
  obtain ⟨positions, found, ordered, picked⟩ :=
    Slice.exists_positions (stride_ne_zero nonzero) length
  have same : (positions.map Int.toNat).map (fun (position : Nat) => (position : Int)) =
      positions := by
    rw [List.map_map]
    refine (List.map_congr_left fun position member => ?_).trans (List.map_id positions)
    exact Int.toNat_of_nonneg ((picked position).mp member).inside.1
  refine ⟨positions.map Int.toNat, by rw [same, found], ?_, fun position => ?_⟩
  · rw [← same, List.pairwise_map] at ordered
    exact ordered
  · rw [← picked, List.mem_map]
    constructor
    · rintro ⟨found, member, rfl⟩
      rwa [Int.toNat_of_nonneg ((picked found).mp member).inside.1]
    · exact fun member => ⟨position, member, Int.toNat_natCast position⟩

/-- Several reads in turn from the beginning. -/
theorem Readable.mapM_item (readable : sequence.Readable upper session) (positions : List Nat)
    (inside : ∀ position ∈ positions,
      position < (sequence.models session.library upper).length) :
    ∃ (handles : List Handle) (later : Session),
      (positions.mapM fun (position : Nat) => sequence.item position).outcome session =
          (.ok (List.range' session.estate.size positions.length), later) ∧
        sequence.Delivered upper session positions handles later ∧
        sequence.Readable upper later := by
  have begun := Delivered.none sequence upper session
  simpa using mapM_item_outcome readable.listed readable.held begun readable positions inside

theorem Readable.readsAsList (readable : sequence.Readable upper session) :
    sequence.ReadsAsList session upper where
  count := count_outcome readable.valid readable.held
  item := by
    intro index position below counted
    have reached := item_outcome_of_some readable.valid readable.held
      (Sequence.position?_eq_some_iff.mpr ⟨below, counted⟩)
    exact ⟨_, _, reached, (Delivered.none sequence upper session).deliver readable.valid
      readable.held readable.listed below⟩
  outside := fun index beyond =>
    item_outcome_of_none readable.valid readable.held (Sequence.position?_eq_none_iff.mpr beyond)
  slice := by
    intro slice nonzero
    obtain ⟨positions, found, ordered, picked⟩ :=
      exists_picked nonzero (sequence.models session.library upper).length
    obtain ⟨handles, later, reached, delivered, _⟩ := readable.mapM_item positions
      fun position member => by exact_mod_cast ((picked position).mp member).inside.2
    refine ⟨positions, handles, later, ordered, picked, ?_, delivered⟩
    rw [slice_eq, outcome_bind_of_ok (count_outcome readable.valid readable.held), found]
    change ((positions.map fun (position : Nat) => (position : Int)).mapM sequence.item).outcome
      session = _
    rw [List.mapM_map]
    exact reached
  iteration := by
    obtain ⟨handles, later, reached, delivered, still⟩ := readable.mapM_item
      (List.range (sequence.models session.library upper).length)
      fun position member => List.mem_range.mp member
    rw [List.length_range] at reached
    refine ⟨handles, later, ?_, delivered, ?_⟩
    · rw [toList_eq, outcome_bind_of_ok (count_outcome readable.valid readable.held)]
      exact reached
    · refine item_outcome_of_none still.valid still.held (Sequence.position?_eq_none_iff.mpr ?_)
      rw [delivered.models_eq readable.listed]
      omega

/-- A closed set has no items. -/
theorem closed_set_outcomes
    {number : Nat}
    {record : Holder Handle Wrapper}
    (present : session.estate.get? number = some record)
    (closed : record.handle = none) :
    (count (.set number)).outcome session = (.ok 0, session) ∧
      (∀ index, (item (.set number) index).outcome session = (.error .diagnosticIndex, session)) ∧
      (∀ slice : Slice, slice.step ≠ some 0 →
        (DiagnosticSequence.slice (.set number) slice).outcome session = (.ok [], session)) ∧
      (toList (.set number)).outcome session = (.ok [], session) := by
  have counted : (count (.set number)).outcome session = (.ok 0, session) := by
    rw [count, DiagnosticSet.count, outcome_bind_of_ok (holder_outcome_of_get? present), closed]
    rfl
  refine ⟨counted, fun index => ?_, fun slice nonzero => ?_, ?_⟩
  · have nowhere : Sequence.position? index 0 = none :=
      Sequence.position?_eq_none_iff.mpr (by omega)
    rw [item_eq, outcome_bind_of_ok counted, nowhere]
    rfl
  · obtain ⟨positions, found, _, picked⟩ := exists_picked nonzero 0
    have nothing : positions = [] := List.eq_nil_iff_forall_not_mem.mpr fun position member => by
      have inside := ((picked position).mp member).inside
      omega
    rw [slice_eq, outcome_bind_of_ok counted, found, nothing]
    rfl
  · rw [toList_eq, outcome_bind_of_ok counted]
    rfl

/-- The diagnostics of a closed unit are refused. -/
theorem closed_view_outcomes
    {unit : Nat}
    {record : Holder Handle Wrapper}
    (present : session.estate.get? unit = some record)
    (closed : record.handle = none)
    (isUnit : record.content.className = "TranslationUnit") :
    (count (.view unit)).outcome session = (.error (.closed "TranslationUnit"), session) ∧
      (∀ index, (item (.view unit) index).outcome session =
        (.error (.closed "TranslationUnit"), session)) ∧
      (∀ slice, (DiagnosticSequence.slice (.view unit) slice).outcome session =
        (.error (.closed "TranslationUnit"), session)) ∧
      (toList (.view unit)).outcome session = (.error (.closed "TranslationUnit"), session) := by
  have counted : (count (.view unit)).outcome session =
      (.error (.closed "TranslationUnit"), session) := by
    have refused : (handle unit).outcome session =
        (.error (.closed "TranslationUnit"), session) := by
      rw [handle_outcome, present, Option.elim_some, closed, isUnit]
      rfl
    rw [count, DiagnosticView.count, outcome_bind_of_error refused]
  refine ⟨counted, fun index => ?_, fun slice => ?_, ?_⟩
  · rw [item_eq, outcome_bind_of_error counted]
  · rw [slice_eq, outcome_bind_of_error counted]
  · rw [toList_eq, outcome_bind_of_error counted]

end DiagnosticSequence

namespace Scenario

/-- In a sound state a sequence of diagnostics behaves as a list. -/
theorem State.Sound.behavesAsList
    {state : State}
    (sound : state.Sound)
    {sequence : DiagnosticSequence}
    (sorted : state.session.HasSort sequence.holder sequence.sort) :
    sequence.BehavesAsList state.session := by
  obtain ⟨wrapper, found, same⟩ := Option.map_eq_some_iff.mp sorted
  obtain ⟨record, present, rfl⟩ := Option.map_eq_some_iff.mp found
  have shut (closed : state.session.estate.isOpen sequence.holder = false) :
      record.handle = none := by
    rw [Estate.isOpen_eq_false_iff, Estate.handle?_of_get? present] at closed
    exact closed
  constructor
  · intro upper held
    have isMade := sound.valid.isMade_of_get? present
    rw [same] at isMade
    exact DiagnosticSequence.Readable.readsAsList ⟨sound.valid, sound.tidy, held, isMade⟩
  · rintro number rfl closed
    exact DiagnosticSequence.closed_set_outcomes present (shut closed)
  · rintro unit rfl closed
    obtain ⟨index, overlay, isUnit⟩ := Wrapper.eq_unit_of_sort same
    exact DiagnosticSequence.closed_view_outcomes present (shut closed) (by rw [isUnit]; rfl)

/-- In every state that a scenario reaches, the diagnostics of a unit and those of a set behave as a
list. -/
theorem steps_readAsLists
    (script : Library.Script)
    (settings : Settings)
    (storage : Storage)
    (steps : List Step)
    {sequence : DiagnosticSequence}
    (sorted : ((State.start script settings storage).steps steps).1.session.HasSort
      sequence.holder sequence.sort) :
    sequence.BehavesAsList ((State.start script settings storage).steps steps).1.session :=
  ((State.start_sound script settings storage).steps steps).behavesAsList sorted

/-- The diagnostics of the unit, and the notes of the one that was read. -/
theorem closingIndex_readAsLists :
    ((DiagnosticSequence.view 1).BehavesAsList (closingSession 4) ∧
        (closingSession 4).estate.isOpen 1 = true) ∧
      (DiagnosticSequence.set 3).BehavesAsList (closingSession 4) ∧
        (closingSession 4).estate.isOpen 3 = true := by
  have unit : (closingSession 4).HasSort (DiagnosticSequence.view 1).holder .unit := by
    decide +kernel
  have set : (closingSession 4).HasSort (DiagnosticSequence.set 3).holder .set := by
    decide +kernel
  refine ⟨⟨steps_readAsLists notedScript .blank ⟨[]⟩ (closingIndex.take 4) unit, ?_⟩,
    steps_readAsLists notedScript .blank ⟨[]⟩ (closingIndex.take 4) set, ?_⟩
  · decide +kernel
  · decide +kernel

end Scenario
end Custody
