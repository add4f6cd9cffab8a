import Custody.Proofs.Scenario.Descent

/-!
# Provenance of values

A value is traced to a unit or to a loaded set when a chain of operations leads from there to
it, whatever else happened meanwhile.  Traced values name the unit or set that they come from,
and the handles inside them are its handle.  So the operations that hand two values to the
library together refuse values of different owners before they ask the library anything, and
all other pairs carry one handle.
-/

namespace Custody

namespace Facade

variable {α : Type} {session : Session} {action : Facade α}

theorem Runs.gives {fits : List Handle → α → Prop} (runs : Runs session.holdings action fits)
    (tidy : session.Tidy) : Gives session action fun later value => fits later.made value := by
  intro value after succeeded
  obtain ⟨-, -, found⟩ := runs session rfl tidy
  rw [succeeded] at found
  exact found value rfl

theorem Reads.gives {fits : α → Prop} (reads : Reads session.holdings action fits)
    (tidy : session.Tidy) :
    Gives session action fun later value =>
      later.holdings = session.holdings ∧ fits value := by
  intro value after succeeded
  obtain ⟨-, same, found⟩ := reads session rfl tidy
  rw [succeeded] at same found
  exact ⟨same, found value rfl⟩

/-- An operation fails because a value is wrong, and changes nothing. -/
def Rejected (session : Session) (action : Facade α) : Prop :=
  ∃ failure, failure.category = .value ∧ action.outcome session = (.error failure, session)

namespace Rejected

theorem throw {failure : Failure} (wrong : failure.category = .value) :
    Rejected session (MonadExcept.throw failure : Facade α) := ⟨failure, wrong, rfl⟩

/-- What comes after a rejection does not matter. -/
theorem first {β : Type} {next : α → Facade β} (rejected : Rejected session action) :
    Rejected session (action >>= next) := by
  obtain ⟨failure, wrong, failed⟩ := rejected
  exact ⟨failure, wrong, outcome_bind_of_error failed next⟩

theorem ite {condition : Prop} [Decidable condition] {other : Facade α}
    (whenTrue : condition → Rejected session action)
    (whenFalse : ¬ condition → Rejected session other) :
    Rejected session (if condition then action else other) := by
  split
  · next holds => exact whenTrue holds
  · next fails => exact whenFalse fails

end Rejected
end Facade

open Facade

variable {session : Session}

namespace Location

theorem checkFile_gives (unit : Nat) (file : File) :
    Gives session (checkFile unit file) fun later _ => later = session := by
  unfold checkFile
  split
  · exact .pure rfl
  · exact .throw _

theorem checkPlace_gives (handle : Handle) (file : File) :
    Gives session (checkPlace handle file) fun later _ => later = session := by
  intro _ _ reached
  unfold checkPlace at reached
  rw [outcome_bind_of_ok (outcome_get session)] at reached
  split at reached
  · cases reached
    rfl
  · cases reached

section Placing

variable (valid : session.holdings.Valid)
include valid

/-- A location that the library makes in an open unit belongs to the unit, whatever the file. -/
theorem placed_gives (unit : Nat) (file : File) {request : Handle → Library.Call NativeLocation}
    (inside : ∀ handle state, (Id.run (StateT.run (request handle) state)).1.space = some handle) :
    Gives session (do
        checkFile unit file
        let handle ← Facade.handle unit
        checkPlace handle file
        wrap (← Facade.call (request handle)) unit) fun later location =>
      location.Anchored later.made := by
  refine (checkFile_gives unit file).bind ?_
  rintro _ _ rfl
  refine (Gives.handle unit).bind ?_
  rintro handle _ ⟨rfl, held⟩
  refine (checkPlace_gives handle file).bind ?_
  rintro _ later rfl _ _ ⟨⟩ space present
  have made : later.made[unit]? = some handle := valid.orderly.made_of_held held
  exact made.trans ((inside handle later.library).symm.trans present)

theorem ofPosition_gives (unit : Nat) (file : File) (line column : Int) :
    Gives session (ofPosition unit file line column) fun later location =>
      location.Anchored later.made := by
  unfold ofPosition
  split
  · exact .throw _
  · exact placed_gives valid unit file fun _ _ => rfl

theorem ofOffset_gives (unit : Nat) (file : File) (offset : Int) :
    Gives session (ofOffset unit file offset) fun later location =>
      location.Anchored later.made := by
  unfold ofOffset
  split
  · exact .throw _
  · exact placed_gives valid unit file fun _ _ => rfl

end Placing
end Location

/-- A range has the handle of the location where it ends, if it has any. -/
theorem Range.make_gives (start : Location) {finish : Location}
    (anchored : finish.Anchored session.made) :
    Gives session (make start finish) fun later range => range.Anchored later.made := by
  have opened : Gives session (ensureOpen start.owner) fun later _ => later = session :=
    (Gives.handle start.owner).bind fun _ _ found => .pure found.1
  unfold make
  split
  · exact .throw _
  · next same =>
      refine opened.bind ?_
      rintro _ later rfl _ _ ⟨⟩ space present
      have shared : finish.native.space = some space := by
        unfold NativeRange.between at present
        split at present
        · next both =>
            simp only [Bool.and_eq_true, decide_eq_true_eq] at both
            exact both.2.symm.trans present
        · cases present
      change later.made[start.owner]? = some space
      rw [Decidable.not_not.mp same]
      exact anchored space shared

namespace Value

theorem anchored_of_mem_map {α : Type} {make : α → Value} {items : List α} {made : List Handle}
    (each : ∀ item ∈ items, (make item).Anchored made) :
    ∀ value ∈ items.map make, value.Anchored made := areAnchored_iff.mp (areAnchored_map each)

section Offering

variable {value : Value} (valid : session.holdings.Valid)
include valid

/-- After an anchored unit was found, only what is read from it matters. -/
theorem asUnitThen_gives {α : Type} {next : Nat → Facade α} {fits : Session → α → Prop}
    (rest : ∀ unit later, later.holdings = session.holdings → Gives later (next unit) fits)
    (tidy : session.Tidy) : Gives session (do next (← value.asUnit)) fits :=
  ((asUnit_reads valid value).gives tidy).bind fun unit later found => rest unit later found.1

variable (anchored : value.Anchored session.made)
include anchored

/-- What is offered by an anchored value is anchored. -/
theorem Offers.anchors {action : Facade (List Value)} (offered : value.Offers action)
    (tidy : session.Tidy) :
    Gives session action fun later values => ∀ found ∈ values, found.Anchored later.made := by
  have single {found : Value} {made : List Handle} (fine : found.Anchored made) :
      ∀ other ∈ [found], other.Anchored made := by
    intro other member
    rw [List.mem_singleton.mp member]
    exact fine
  have reading {action : Facade (List Value)}
      (reads : Reads session.holdings action fun values =>
        ∀ found ∈ values, found.Anchored session.made) :
      Gives session action fun later values => ∀ found ∈ values, found.Anchored later.made := by
    refine (reads.gives tidy).mono fun later values found => ?_
    rw [show later.made = session.made from congrArg Holdings.made found.1]
    exact found.2
  cases offered with
  | part _ name apart =>
      exact ((ownPart_yields valid anchored name).gives tidy).bind fun _ _ fine =>
        .pure (single fine)
  | pick _ choice =>
      exact ((pick_yields valid anchored choice).gives tidy).bind fun _ _ fine =>
        .pure (single fine)
  | items => exact ((items_runs valid anchored).gives tidy).mono fun _ _ => areAnchored_iff.mp
  | file _ path =>
      refine reading ((asUnit_reads valid value).bind fun unit _ => ?_)
      exact (CompilationUnit.file_reads valid unit path).bind fun _ fine =>
        .pure (single (anchored_option fine))
  | tokens _ extent =>
      exact reading ((Scenario.tokens_reads valid anchored extent).bind fun _ fine =>
        .pure (anchored_of_mem_map fine))
  | visit _ visitor =>
      exact reading ((Scenario.visit_reads valid anchored visitor).bind fun _ fine =>
        .pure (anchored_of_mem_map fun child member => anchored_option (fine child member)))
  | walk cursor =>
      exact reading ((cursor.walk_reads valid anchored).bind fun _ fine =>
        .pure (anchored_of_mem_map fine))
  | inclusions _ visitor =>
      refine reading ((asUnit_reads valid value).bind fun unit _ => ?_)
      refine (CompilationUnit.visitInclusions_reads valid unit visitor).bind fun answer fine => ?_
      refine .pure fun found member => ?_
      obtain ⟨inclusion, listed, among⟩ := List.mem_flatMap.mp member
      obtain ⟨fileFine, stackFine⟩ := fine inclusion listed
      rcases List.mem_cons.mp among with rfl | stacked
      · exact fileFine
      · exact anchored_of_mem_map stackFine found stacked
  | notices _ indexer hooks options =>
      refine reading ((asUnit_reads valid value).bind fun unit _ => ?_)
      exact (IndexAction.index_reads valid indexer (.holder unit) hooks options).bind
        fun _ fine => .pure (anchored_of_mem_map fun notice member =>
          anchored_ofNotice (fine notice member))
  -- The file may be any file, even of another owner, so that `ofPosition_reads` does not apply.
  | positionIn _ file line column =>
      refine asUnitThen_gives valid (fun unit later same => ?_) tidy
      exact (Location.ofPosition_gives (same ▸ valid) unit file line column).bind fun _ _ fine =>
        .pure (single fine)
  | positionOf owner file line column =>
      exact (Location.ofPosition_gives valid owner file line column).bind fun _ _ fine =>
        .pure (single fine)
  | offsetIn _ file offset =>
      refine asUnitThen_gives valid (fun unit later same => ?_) tidy
      exact (Location.ofOffset_gives (same ▸ valid) unit file offset).bind fun _ _ fine =>
        .pure (single fine)
  | offsetOf owner file offset =>
      exact (Location.ofOffset_gives valid owner file offset).bind fun _ _ fine =>
        .pure (single fine)
  | rangeFrom start finish =>
      have begins : start.Anchored session.holdings.made := anchored
      exact reading ((Range.make_reads begins finish).bind fun _ fine => .pure (single fine))
  | rangeTo start finish =>
      exact (Range.make_gives start anchored).bind fun _ _ fine => .pure (single fine)

end Offering
end Value

/-- A session of a run comes before another one: it is in order, and the other one has grown out
of it. -/
structure Session.Foreruns (session later : Session) : Prop where
  /-- Its holdings are valid. -/
  valid : session.holdings.Valid
  /-- It is tidy. -/
  tidy : session.Tidy
  /-- No holder is forgotten. -/
  made : session.made <+: later.made
  /-- Holders stay what they are. -/
  grows : session.Grows later

theorem Session.Foreruns.precedes {middle final : Session} (foreruns : session.Foreruns middle)
    (preceding : middle.Precedes final) : session.Precedes final :=
  ⟨foreruns.tidy, foreruns.grows.trans preceding.grows⟩

/-- The values to which a chain of operations leads from a holder by the time that a session is
reached, whatever else happens in between. -/
inductive Value.Traced (top : Nat) : Session → Value → Prop
  /-- The holder itself. -/
  | top (session : Session) : Traced top session (.holder top)
  /-- What was reached before is kept. -/
  | kept {before after : Session} {value : Value}
      (traced : Traced top before value)
      (foreruns : before.Foreruns after) : Traced top after value
  /-- What an operation on a traced value yields. -/
  | step {before after : Session} {source value : Value} {action : Facade (List Value)}
      {values : List Value}
      (traced : Traced top before source)
      (foreruns : before.Foreruns after)
      (offered : source.Offers action)
      (succeeded : action.outcome before = (.ok values, after))
      (member : value ∈ values) : Traced top after value

namespace Value

namespace Traced

variable {top : Nat} {value : Value}

/-- The handles inside traced values are those of the owners that the values name. -/
theorem anchored (traced : value.Traced top session) : value.Anchored session.made := by
  induction traced with
  | top session => exact True.intro
  | kept _ foreruns inductionHypothesis => exact inductionHypothesis.mono foreruns.made
  | step _ foreruns offered succeeded member inductionHypothesis =>
      exact offered.anchors foreruns.valid inductionHypothesis foreruns.tidy _ _ succeeded _ member

theorem derived {final : Session} (traced : value.Traced top session)
    (preceding : session.Precedes final) : value.Derived final top := by
  induction traced with
  | top session => exact .unit
  | kept _ foreruns inductionHypothesis =>
      exact inductionHypothesis (foreruns.precedes preceding)
  | step _ foreruns offered succeeded member inductionHypothesis =>
      have earlier := foreruns.precedes preceding
      exact .step (inductionHypothesis earlier) offered earlier succeeded preceding member

/-- The owner of traced values is what they are traced to. -/
theorem within (traced : value.Traced top session) (tidy : session.Tidy)
    (heads : session.Heads top) : value.Within top (session.Kin top) :=
  (traced.derived ⟨tidy, .refl session.holdings⟩).within_of_heads heads

end Traced

/-- The holder that a value names, and the handle inside what the library gave for it. -/
def bond? (session : Session) : Value → Option (Nat × Option Handle)
  | .holder number => some (number, session.estate.handle? number)
  | .file value => some (value.owner, some value.native.origin)
  | .location value => some (value.owner, value.native.space)
  | .range value => some (value.owner, value.native.space)
  | .cursor value => some (value.unit, some value.native.unit)
  | .token value => some (value.unit, some value.native.unit)
  | _ => none

/-- The handle inside an anchored value is that of the holder that the value names. -/
theorem made_of_bond? (valid : session.holdings.Valid) {value : Value}
    (anchored : value.Anchored session.made) {owner : Nat} {handle : Handle}
    (bond : value.bond? session = some (owner, some handle)) :
    session.made[owner]? = some handle := by
  cases value with
  | holder number =>
      obtain ⟨rfl, held⟩ := Prod.mk.inj (Option.some.inj bond)
      exact valid.orderly.made_of_held held
  | file value =>
      obtain ⟨rfl, inside⟩ := Prod.mk.inj (Option.some.inj bond)
      exact inside ▸ anchored
  | location value =>
      obtain ⟨rfl, inside⟩ := Prod.mk.inj (Option.some.inj bond)
      exact anchored handle inside
  | range value =>
      obtain ⟨rfl, inside⟩ := Prod.mk.inj (Option.some.inj bond)
      exact anchored handle inside
  | cursor value =>
      obtain ⟨rfl, inside⟩ := Prod.mk.inj (Option.some.inj bond)
      exact inside ▸ anchored.1
  | token value =>
      obtain ⟨rfl, inside⟩ := Prod.mk.inj (Option.some.inj bond)
      exact inside ▸ anchored
  | _ => cases bond

/-- The operations that hand two values to the library together. -/
inductive Joins : (α : Type) → Value → Value → Facade α → Prop
  /-- Making a range of two locations. -/
  | range (start finish : Location) :
      Joins Range (.location start) (.location finish)
        (Scenario.rangeBetween (.location start) (.location finish))
  /-- Making a location in a file of a unit, by line and column. -/
  | position (unit : Nat) (file : File) (line column : Int) :
      Joins Location (.holder unit) (.file file)
        (Scenario.locationAt (.holder unit) (.file file) (.int line) (.int column))
  /-- Making a location in a file of a unit, by offset. -/
  | offset (unit : Nat) (file : File) (offset : Int) :
      Joins Location (.holder unit) (.file file)
        (Scenario.locationAtOffset (.holder unit) (.file file) (.int offset))
  /-- The tokens of a unit in a range. -/
  | tokens (unit : Nat) (extent : Range) :
      Joins (List Token) (.holder unit) (.range extent)
        (CompilationUnit.tokens unit (some extent))

/-- A file of another owner is no place for a location. -/
theorem placeIn_rejected {unit : Nat} {file : File} (apart : unit ≠ file.owner) :
    Rejected session (Scenario.placeIn (.holder unit) (.file file)) := by
  have foreign : (Value.holder unit).isOwner (some file.owner) = false :=
    decide_eq_false fun same => apart (Option.some.inj same).symm
  simp only [Scenario.placeIn, owner, pure_bind, foreign]
  exact .first (.throw rfl)

/-- Values of different owners are rejected before the library is asked anything. -/
theorem Joins.rejected {α : Type} {left right : Value} {action : Facade α}
    (joins : Joins α left right action) {first second : Nat × Option Handle}
    (leftBond : left.bond? session = some first) (rightBond : right.bond? session = some second)
    (apart : first.1 ≠ second.1) : Rejected session action := by
  cases joins with
  | range start finish =>
      cases leftBond
      cases rightBond
      have apart : some start.owner ≠ some finish.owner := fun same => apart (Option.some.inj same)
      simp only [Scenario.rangeBetween, owner, pure_bind, if_pos apart]
      exact .first (.throw rfl)
  | position unit file line column =>
      cases leftBond
      cases rightBond
      refine .ite (fun _ => .first (.throw rfl)) fun _ => ?_
      refine .ite (fun _ => .first (.throw rfl)) fun _ => ?_
      exact .first (placeIn_rejected apart)
  | offset unit file offset =>
      cases leftBond
      cases rightBond
      refine .ite (fun _ => .first (.throw rfl)) fun _ => ?_
      exact .first (placeIn_rejected apart)
  | tokens unit extent =>
      cases leftBond
      cases rightBond
      unfold CompilationUnit.tokens
      simp only [pure_bind, if_pos apart.symm]
      exact .first (.throw rfl)

section Units

variable {owner : Nat}

theorem unit?_outcome {wrapper : Wrapper}
    (found : session.estate.content? owner = some wrapper) :
    (Facade.unit? owner).outcome session =
      (.ok (if wrapper.sort = .unit then some owner else none), session) := by
  obtain ⟨record, present, same⟩ := Option.map_eq_some_iff.mp found
  unfold Facade.unit?
  rw [outcome_bind_of_ok (holder_outcome_of_get? present), same]
  cases wrapper <;> rfl

/-- The unit of a location or range is its owner, if that is a unit. -/
theorem ownPart_translationUnit {value : Value} {wrapper : Wrapper}
    (found : session.estate.content? owner = some wrapper)
    (owned : (∃ place : Location, place.owner = owner ∧ value = .location place) ∨
      ∃ extent : Range, extent.owner = owner ∧ value = .range extent) :
    (value.ownPart "translation_unit").outcome session =
      (.ok (if wrapper.sort = .unit then .holder owner else .nothing), session) := by
  have asked (given : Nat) (same : given = owner) :
      (do return option .holder (← Facade.unit? given) : Facade Value).outcome session =
        (.ok (if wrapper.sort = .unit then .holder owner else .nothing), session) := by
    rw [same, outcome_bind_of_ok (unit?_outcome found)]
    split <;> rfl
  rcases owned with ⟨place, owned, rfl⟩ | ⟨extent, owned, rfl⟩
  · exact asked _ owned
  · exact asked _ owned

end Units

end Value

namespace Scenario
namespace State

variable {state : State}

/-- Values name what they come from, and the handles inside them are its handle. -/
structure KeepsProvenance (state : State) : Prop where
  /-- Whatever was traced before a step is still traced when the library answers and after it. -/
  foreruns : ∀ step : Step, state.session.Foreruns (state.facing step) ∧
    (state.facing step).Foreruns (state.step step).1.session
  /-- All that is named belongs to its owners. -/
  named : Names.Anchored state.session.made state.names
  /-- All that is traced to a holder belongs to its owners. -/
  traced : ∀ (top : Nat) (value : Value), value.Traced top state.session →
    value.Anchored state.session.made
  /-- What belongs to an owner has the handle of the owner, if it has any. -/
  bond : ∀ (value : Value) (owner : Nat) (handle : Handle),
    value.Anchored state.session.made →
    value.bond? state.session = some (owner, some handle) →
    state.session.made[owner]? = some handle
  /-- The owner of all that is traced to a unit or to a loaded set is that unit or set, and the
  diagnostics among it hang on it. -/
  within : ∀ (top : Nat) (value : Value), state.session.Heads top →
    value.Traced top state.session → value.Within top (state.session.Kin top)
  /-- The unit of a location or range that is traced to a unit is that unit. -/
  ofUnit : ∀ (unit : Nat) (value : Value), state.session.HasSort unit .unit →
    value.Traced unit state.session →
    (∃ place, value = .location place) ∨ (∃ extent, value = .range extent) →
    (value.ownPart "translation_unit").outcome state.session = (.ok (.holder unit), state.session)
  /-- A location or range that is traced to a loaded set has no unit. -/
  ofSet : ∀ (set : Nat) (value : Value),
    state.session.estate.content? set = some (.set none) →
    value.Traced set state.session →
    (∃ place, value = .location place) ∨ (∃ extent, value = .range extent) →
    (value.ownPart "translation_unit").outcome state.session = (.ok .nothing, state.session)
  /-- Values of different owners are rejected before the library is asked anything. -/
  rejected : ∀ (α : Type) (left right : Value) (action : Facade α) (first second : Nat)
      (inLeft inRight : Option Handle),
    Value.Joins α left right action →
    left.bond? state.session = some (first, inLeft) →
    right.bond? state.session = some (second, inRight) →
    first ≠ second → Facade.Rejected state.session action
  /-- Values of one owner hand one handle to the library. -/
  shared : ∀ (α : Type) (left right : Value) (action : Facade α) (owner : Nat)
      (inLeft inRight : Handle),
    Value.Joins α left right action →
    left.Anchored state.session.made →
    right.Anchored state.session.made →
    left.bond? state.session = some (owner, some inLeft) →
    right.bond? state.session = some (owner, some inRight) → inLeft = inRight

theorem Sound.foreruns_step (sound : state.Sound) (step : Step) :
    (state.facing step).Foreruns (state.step step).1.session := by
  have accounted := sound.accounted step
  exact ⟨sound.valid.answering step.reply, sound.tidy, accounted.made, accounted.grows⟩

/-- The owner of a traced location or range is what it is traced to. -/
theorem Sound.owned_of_traced (sound : state.Sound) {top : Nat} {value : Value}
    (heads : state.session.Heads top) (traced : value.Traced top state.session)
    (placed : (∃ place, value = .location place) ∨ ∃ extent, value = .range extent) :
    (∃ place : Location, place.owner = top ∧ value = .location place) ∨
      ∃ extent : Range, extent.owner = top ∧ value = .range extent := by
  have within := traced.within sound.tidy heads
  rcases placed with ⟨place, rfl⟩ | ⟨extent, rfl⟩
  · exact .inl ⟨place, within, rfl⟩
  · exact .inr ⟨extent, within, rfl⟩

theorem Sound.keepsProvenance (sound : state.Sound) : state.KeepsProvenance where
  foreruns step :=
    ⟨⟨sound.valid, sound.tidy, List.prefix_rfl, grows_facing state step⟩, sound.foreruns_step step⟩
  named := sound.anchored
  traced _ _ traced := traced.anchored
  bond _ _ _ anchored bond := Value.made_of_bond? sound.valid anchored bond
  within _ _ heads traced := traced.within sound.tidy heads
  ofUnit unit value isUnit traced placed := by
    obtain ⟨wrapper, found, sorted⟩ := Option.map_eq_some_iff.mp isUnit
    have owned := sound.owned_of_traced (.inl isUnit) traced placed
    rw [Value.ownPart_translationUnit found owned, if_pos sorted]
  ofSet set value isSet traced placed := by
    have owned := sound.owned_of_traced (.inr isSet) traced placed
    rw [Value.ownPart_translationUnit isSet owned]
    rfl
  rejected _ _ _ _ _ _ _ _ joins leftBond rightBond apart :=
    joins.rejected leftBond rightBond apart
  shared _ _ _ _ _ _ _ _ leftAnchored rightAnchored leftBond rightBond := by
    have left := Value.made_of_bond? sound.valid leftAnchored leftBond
    have right := Value.made_of_bond? sound.valid rightAnchored rightBond
    exact Option.some.inj (left.symm.trans right)

/-- However a scenario went, its values name what they come from, and values of different owners
never reach the library together. -/
theorem start_keepsProvenance (script : Library.Script) (settings : Settings) (storage : Storage)
    (earlier : List Step) :
    ((start script settings storage).steps earlier).1.KeepsProvenance :=
  ((start_sound script settings storage).steps earlier).keepsProvenance

end State
end Scenario
end Custody
