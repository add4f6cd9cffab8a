import Custody.Proofs.Scenario.Closings
import Custody.Proofs.Scenario.Sources
import Custody.Proofs.Session.Descendants
import Custody.Proofs.Session.Requests

/-!
# Parsing a unit again

Before the library parses a unit again, all that was made from the unit is closed, and what
is owned among it given back.  If the library succeeds, the unit stays open; otherwise the
unit is closed after that and given back as well, once.  Its index, what else was made from
the index, and all that depends on that are left alone either way, and so is the rest of the
session.  A closed unit is refused, and nothing happens.
-/

namespace Custody

namespace Estate.Clearance

variable {η α : Type} {before after : Estate η α} {reach other : Nat → Prop}
  {calls : List (Nat × η)}

/-- Only the open holders of a reach matter. -/
theorem congr (clearance : Clearance reach before after calls)
    (same : ∀ holder, before.isOpen holder = true → (reach holder ↔ other holder)) :
    Clearance other before after calls where
  cleared := fun holder reached opened =>
    clearance.cleared holder ((same holder opened).mpr reached) opened
  kept := fun holder outside =>
    clearance.kept holder fun both => outside ⟨(same holder both.2).mp both.1, both.2⟩
  once := clearance.once
  called := by
    intro holder handle
    rw [clearance.called]
    have apart (held : before.handle? holder = some handle) :=
      same holder (isOpen_iff.mpr ⟨handle, held⟩)
    exact ⟨fun ⟨reached, held, owned⟩ => ⟨(apart held).mp reached, held, owned⟩,
      fun ⟨reached, held, owned⟩ => ⟨(apart held).mpr reached, held, owned⟩⟩

end Estate.Clearance

/-- A session after holders were cleared and handles given back. -/
def Session.clearing (session : Session) (estate : Estate Handle Wrapper)
    (calls : List (Nat × Handle)) : Session :=
  { session with
    estate := estate
    library := session.library.disposeAll (calls.map Prod.snd) }

/-- The index of a unit, what else was made from the index, and what was made from that. -/
inductive Holdings.Beside (holdings : Holdings) (unit index : Nat) : Nat → Prop
  | index : Beside holdings unit index index
  | sibling {other : Nat} (different : other ≠ unit)
      (made : holdings.source? other = some index) : Beside holdings unit index other
  | further {upper lower : Nat} (beside : Beside holdings unit index upper)
      (notIndex : upper ≠ index) (made : holdings.source? lower = some upper) :
      Beside holdings unit index lower

/-- What is beside a unit was not made from it. -/
theorem Holdings.Stemming.not_madeFrom_of_beside
    {holdings : Holdings}
    (stemming : holdings.Stemming)
    {unit index other : Nat}
    (source : holdings.source? unit = some index)
    (beside : holdings.Beside unit index other) :
    other ≠ unit ∧ ¬ holdings.MadeFrom unit other := by
  have older := stemming.older unit index source
  have indexApart : ¬ holdings.MadeFrom unit index := fun made => by
    have younger := stemming.lt_of_madeFrom made
    omega
  -- What is made from a holder apart from the unit is apart from the unit too.
  have apart {upper lower : Nat} (made : holdings.source? lower = some upper)
      (different : upper ≠ unit) (notFrom : ¬ holdings.MadeFrom unit upper) :
      ¬ holdings.MadeFrom unit lower := fun chain => by
    obtain ⟨last, above, direct⟩ := Relation.TransGen.tail'_iff.mp chain
    cases made.symm.trans direct
    rcases Relation.reflTransGen_iff_eq_or_transGen.mp above with same | between
    · exact different same
    · exact notFrom between
  induction beside with
  | index => exact ⟨by omega, indexApart⟩
  | sibling different made => exact ⟨different, apart made (by omega) indexApart⟩
  | further _ notIndex made inductionHypothesis =>
      refine ⟨?_, apart made inductionHypothesis.1 inductionHypothesis.2⟩
      rintro rfl
      exact notIndex (Option.some.inj (made.symm.trans source))

namespace Facade

variable {session : Session} {number : Nat}

/-- Closing the dependants of a holder is closing them in turn. -/
theorem closeDependants_eq_closeAll (session : Session) (number : Nat) :
    (closeDependants number).outcome session =
      (closeAll discipline (session.estate.dependants number)).outcome session := by
  have unfolded : (closeDependants number).outcome session =
      (settle (discipline.closeDependants number session.estate session.library)).outcome
        session := rfl
  rw [unfolded, closeAll_outcome]
  congr 2
  unfold Discipline.closeDependants
  cases present : session.estate.get? number with
  | none =>
      have none : session.estate.dependants number = [] := by simp [Estate.dependants, present]
      rw [none]
      rfl
  | some record =>
      rw [Estate.dependants_of_get? present]
      refine Discipline.closeEach_congr session.estate
        (fun _ _ _ => (Discipline.closeWithin_advances _ _ _ _).wanes) ?_ _ (.refl _)
      intro child _ estate world waned
      rw [waned.size_eq]

/-- What was made from an open holder is closed, and the holder is left as it is. -/
structure Cleared (session : Session) (number : Nat) (record : Holder Handle Wrapper)
    (estate : Estate Handle Wrapper) (calls : List (Nat × Handle)) : Prop where
  /-- All of it that was open is closed, and disposed of if it is owned, and nothing else. -/
  clearance : session.estate.Clearance (session.holdings.MadeFrom number) estate calls
  /-- Everything is in order afterwards. -/
  valid : (session.clearing estate calls).holdings.Valid
  /-- The holder is left as it is. -/
  present : estate.get? number = some record
  /-- None of its dependants is open. -/
  leaf : ∀ child ∈ record.dependants, estate.isOpen child = false

namespace Cleared

variable {record : Holder Handle Wrapper} {estate : Estate Handle Wrapper}
  {calls : List (Nat × Handle)} (cleared : Cleared session number record estate calls)
include cleared

/-- What was not made from the holder is left as it is. -/
theorem kept {other : Nat} (notMade : ¬ session.holdings.MadeFrom number other) :
    estate.get? other = session.estate.get? other :=
  cleared.clearance.kept other fun both => notMade both.1

/-- The handle of what was not made from the holder is not given back. -/
theorem spared (valid : session.holdings.Valid) {other : Nat} {handle : Handle}
    (notMade : ¬ session.holdings.MadeFrom number other)
    (held : session.estate.handle? other = some handle) : handle ∉ calls.map Prod.snd := by
  have madeOther := valid.orderly.made_of_held held
  intro member
  obtain ⟨⟨called, _⟩, listed, rfl⟩ := List.mem_map.mp member
  obtain ⟨made, heldCalled, ownedCalled⟩ := (cleared.clearance.called _ _).mp listed
  have madeCalled := valid.orderly.made_of_held heldCalled
  have same : called = other := valid.founded.injective madeCalled madeOther
    (valid.founded.owned_eq ownedCalled madeCalled).symm
  exact notMade (same ▸ made)

/-- Nothing was given back twice, and the holder itself can still be given back. -/
theorem once {handle : Handle} (opened : record.handle = some handle)
    (isOwned : handle.isOwned = true) :
    ((session.clearing estate calls).library.disposals ++ [handle]).Nodup := by
  have held : (session.clearing estate calls).estate.handle? number = some handle :=
    (Estate.handle?_of_get? cleared.present).trans opened
  have accurate := cleared.valid.accurate
  have alive := Library.Ledger.isLive_of_stands (cleared.valid.backed.stands held isOwned)
  refine List.nodup_append.mpr ⟨accurate.nodup_disposals, List.nodup_singleton _, ?_⟩
  rintro _ given _ member rfl
  rw [List.mem_singleton.mp member] at given
  have dead := (accurate.mem_disposals_iff.mp given).2
  cases alive.symm.trans dead

end Cleared

/-- Closing the dependants of an open unit closes what was made from the unit. -/
theorem closeDependants_cleared
    {record : Holder Handle Wrapper}
    (valid : session.holdings.Valid)
    (tidy : session.Tidy)
    (stemming : session.holdings.Stemming)
    (present : session.estate.get? number = some record)
    (opened : session.estate.isOpen number = true)
    (unowned : record.content.owner? = none) :
    ∃ (estate : Estate Handle Wrapper) (calls : List (Nat × Handle)),
      Cleared session number record estate calls ∧
        (closeDependants number).outcome session = (.ok (), session.clearing estate calls) := by
  obtain ⟨estate, calls, clearance, reached⟩ :=
    closeAll_clearance rfl session valid (session.estate.dependants number)
  have closed : (closeDependants number).outcome session =
      (.ok (), session.clearing estate calls) :=
    (closeDependants_eq_closeAll session number).trans reached
  obtain ⟨_, _, course, still, leaf⟩ := closeDependants_ensures valid present session rfl tidy
  rw [closed] at course still leaf
  have noOwner : session.holdings.owner? number = none := by
    unfold Holdings.owner?
    change (session.estate.content? number).bind _ = none
    rw [Estate.content?_of_get? present]
    exact unowned
  refine ⟨estate, calls, ⟨clearance.congr fun other otherOpen => ?_, course.valid valid, still,
    leaf⟩, closed⟩
  rw [← stemming.exposes_iff_madeFrom valid noOwner otherOpen, Relation.TransGen.head'_iff]
  constructor
  · rintro ⟨child, member, reached⟩
    exact ⟨child, ⟨opened, member⟩, reached⟩
  · rintro ⟨child, exposes, reached⟩
    exact ⟨child, exposes.2, reached⟩

end Facade

namespace Library

/-- A record after the unit behind it was parsed again: a failure leaves it unusable. -/
def Resource.reparsed (reply : Reply) (resource : Resource) : Resource :=
  if reply.status ≠ 0 then { resource with sound := false }
  else
    match reply.unit with
    | .model model => { resource with content := .unit model }
    | _ => resource

/-- The library after a unit was parsed again. -/
def State.reparsed (state : State) (request : CompilationUnit.Resubmission) : State :=
  { state with
    resources := state.resources.map fun resource =>
      if resource.handle = request.handle then resource.reparsed state.reply else resource
    effects := state.effects ++
      [.reparse request.handle (request.unsaved.getD []) (unsignedWord request.options)] }

namespace Call

variable {state : State}

theorem reparse_run {request : CompilationUnit.Resubmission}
    (good : state.isGood request.handle = true) :
    Id.run (StateT.run (reparse request.handle request.unsaved request.options) state) =
      (state.reply.status, state.reparsed request) := by
  unfold reparse
  rw [(Answers.use good).run_bind]
  rfl

/-- A request that leaves what is allocated and the list of the calls that matter alone. -/
def Spares {α : Type} (request : Call α) : Prop :=
  ∀ state : State, (Id.run (StateT.run request state)).2.resources = state.resources ∧
    (Id.run (StateT.run request state)).2.effects = state.effects

namespace Spares

variable {α β : Type}

protected theorem pure (value : α) : Spares (pure value) := fun _ => ⟨rfl, rfl⟩

protected theorem get : Spares get := fun _ => ⟨rfl, rfl⟩

protected theorem modify {change : State → State}
    (resources : ∀ state, (change state).resources = state.resources)
    (effects : ∀ state, (change state).effects = state.effects) : Spares (modify change) :=
  fun state => ⟨resources state, effects state⟩

protected theorem bind {request : Call α} {next : α → Call β} (first : Spares request)
    (rest : ∀ answer, Spares (next answer)) : Spares (request >>= next) :=
  fun state => ⟨(rest _ _).1.trans (first state).1, (rest _ _).2.trans (first state).2⟩

protected theorem unitModel (unit : Handle) : Spares (unitModel unit) := by
  refine .bind (.modify (fun state => ?_) fun state => ?_) fun _ => .bind .get fun _ => .pure _
  · split <;> rfl
  · split <;> rfl

protected theorem settle (lent : Lent) : Spares (settle lent) := by
  refine .bind ?_ fun _ => .pure _
  unfold settle?
  split
  · exact .bind (.modify (fun _ => rfl) fun _ => rfl) fun _ => .pure _
  · exact .pure _

/-- Asking for the name of a unit leaves both alone. -/
protected theorem unitSpelling (unit : Handle) :
    Spares (do settle (← unitSpelling unit)) := by
  refine .bind (.bind (.unitModel unit) fun model => ?_) fun lent => .settle lent
  exact .bind .get fun _ => .bind (.modify (fun _ => rfl) fun _ => rfl) fun _ => .pure _

end Spares

end Call
end Library

namespace CompilationUnit

open Facade

variable {session : Session} {unit : Nat} {handle : Handle}

/-- The files of a caller, if all of them are files. -/
def allFiles : UnsavedFiles → Except Failure (List UnsavedFile)
  | [] => .ok []
  | none :: _ => .error .noSuchPart
  | some file :: rest => (allFiles rest).map (file :: ·)

/-- What the library is to be given, if the files are all there and the options are a number. -/
def requested (session : Session) (handle : Handle) (overlay : Option UnsavedFile)
    (unsaved : UnsavedFiles) (options : Option Datum) : Except Failure Resubmission := do
  let files ← allFiles unsaved
  let options ← options.elim (.ok (session.library.unitModel handle).reparseOptions)
    Datum.toInteger
  return ⟨handle, unsavedSlots (filesWith overlay files), options⟩

theorem checkedFiles_outcome (unsaved : UnsavedFiles) (session : Session) :
    (checkedFiles unsaved).outcome session = (allFiles unsaved, session) := by
  unfold checkedFiles
  induction unsaved with
  | nil => rfl
  | cons file rest inductionHypothesis =>
      rw [List.mapM_cons]
      cases file with
      | none => rfl
      | some file =>
          refine (outcome_bind_of_ok (outcome_pure session file) _).trans ?_
          rw [outcome_bind, inductionHypothesis, allFiles]
          cases allFiles rest <;> rfl

theorem optionsOr_outcome
    (valid : session.holdings.Valid)
    (held : session.estate.handle? unit = some handle)
    (options : Option Datum) :
    (optionsOr (defaultReparseOptions unit) options).outcome session =
      (.ok (options.getD (.int (session.library.unitModel handle).reparseOptions)), session) := by
  cases options with
  | some options => rfl
  | none =>
      have answers := Library.Call.unitModel_answers (session.isGood_of_held valid held)
      have asked : (defaultReparseOptions unit).outcome session =
          (.ok (session.library.unitModel handle).reparseOptions, session) := by
        unfold defaultReparseOptions
        rw [outcome_bind_of_ok (handle_outcome_of_held held)]
        exact call_outcome_of_answers (answers.bind (.pure _))
      unfold optionsOr
      rw [outcome_bind_of_ok asked]
      rfl

/-- All that comes before the library is called closes what was made from the unit, and then
either yields what the library is to be given or fails. -/
theorem resubmission_outcome
    {record : Holder Handle Wrapper}
    {index : Nat}
    {overlay : Option UnsavedFile}
    (valid : session.holdings.Valid)
    (tidy : session.Tidy)
    (stemming : session.holdings.Stemming)
    (present : session.estate.get? unit = some record)
    (opened : record.handle = some handle)
    (isUnit : record.content = .unit index overlay)
    (unsaved : UnsavedFiles)
    (options : Option Datum) :
    ∃ (estate : Estate Handle Wrapper) (calls : List (Nat × Handle)),
      Cleared session unit record estate calls ∧
        (resubmission unit unsaved options).outcome session =
          (requested session handle overlay unsaved options, session.clearing estate calls) := by
  have held : session.estate.handle? unit = some handle :=
    (Estate.handle?_of_get? present).trans opened
  obtain ⟨estate, calls, cleared, closed⟩ := closeDependants_cleared valid tidy stemming present
    (Estate.isOpen_iff.mpr ⟨handle, held⟩) (by rw [isUnit]; rfl)
  refine ⟨estate, calls, cleared, ?_⟩
  unfold resubmission
  rw [outcome_bind_of_ok (optionsOr_outcome valid held options),
    outcome_bind_of_ok (handle_outcome_of_held held), outcome_bind_of_ok closed]
  have kept : (CompilationUnit.overlay unit).outcome (session.clearing estate calls) =
      (.ok overlay, session.clearing estate calls) := by
    unfold CompilationUnit.overlay
    rw [outcome_bind_of_ok (holder_outcome_of_get? cleared.present), isUnit]
    rfl
  rw [outcome_bind_of_ok kept, outcome_bind, checkedFiles_outcome, requested]
  cases allFiles unsaved with
  | error failure => rfl
  | ok files =>
      dsimp only
      rw [outcome_bind, outcome_ofExcept, withOverlay_eq]
      cases options with
      | none => rfl
      | some options =>
          rw [Option.getD_some]
          change _ = ((do
            let options ← options.toInteger
            return ⟨handle, unsavedSlots (filesWith overlay files), options⟩ :
              Except Failure Resubmission), session.clearing estate calls)
          cases options.toInteger <;> rfl

/-- How the library and the unit are left by a failure to parse the unit again. -/
structure Abandons (session later : Session) (unit : Nat) (handle : Handle)
    (request : Resubmission) : Prop where
  /-- The unit is closed, and no other holder changes. -/
  estate : later.estate = session.estate.clear unit
  /-- Apart from the holders and the library nothing changes. -/
  others : later = { session with estate := later.estate, library := later.library }
  /-- The unit is given back once, after the attempt. -/
  effects : ∃ dependants, later.library.effects =
    (session.library.reparsed request).effects ++ [.dispose handle dependants]
  /-- No other allocation changes. -/
  resources : later.library.resources =
    (session.library.reparsed request).resources.map fun resource =>
      if resource.handle = handle then { resource with live := false } else resource

/-- The call of the library, and what follows. -/
theorem resubmit_outcome
    {record : Holder Handle Wrapper}
    (present : session.estate.get? unit = some record)
    (opened : record.handle = some handle)
    (owned : record.owned = true)
    (leaf : ∀ child ∈ record.dependants, session.estate.isOpen child = false)
    (good : session.library.isGood handle = true)
    (request : Resubmission)
    (same : request.handle = handle) :
    (session.library.reply.status = 0 →
        (resubmit unit request).outcome session =
          (.ok (), { session with library := session.library.reparsed request })) ∧
      (session.library.reply.status ≠ 0 →
        ∃ (spelling : String) (later : Session), Abandons session later unit handle request ∧
          (resubmit unit request).outcome session =
            (.error (.reported ⟨.unit, .reparseFailed,
              "failed to reparse " ++ Text.ofString spelling,
              some session.library.reply.status⟩), later)) := by
  subst same
  let attempted : Session := { session with library := session.library.reparsed request }
  have called : (Facade.call (Library.Call.reparse request.handle request.unsaved
      request.options)).outcome session = (.ok session.library.reply.status, attempted) := by
    rw [outcome_call, Library.Call.reparse_run good]
  unfold resubmit
  rw [outcome_bind_of_ok called]
  refine ⟨fun succeeded => by simp [succeeded, attempted], fun failed => ?_⟩
  rw [if_pos failed]
  -- The name is asked for while the unit is still held.
  have held : attempted.estate.handle? unit = some request.handle :=
    (Estate.handle?_of_get? present).trans opened
  obtain ⟨resources, effects⟩ := Library.Call.Spares.unitSpelling request.handle attempted.library
  generalize reached : Id.run (StateT.run (do
    Library.Call.settle (← Library.Call.unitSpelling request.handle)) attempted.library) =
      answer at resources effects
  obtain ⟨name, library⟩ := answer
  have named : (spelling unit).outcome attempted =
      (.ok name, { attempted with library := library }) := by
    unfold spelling
    rw [outcome_bind_of_ok (handle_outcome_of_held held)]
    unfold borrowed
    rw [outcome_call, reached]
  let later : Session := { session with
    estate := session.estate.clear unit
    library := (Id.run (StateT.run (Library.Call.dispose request.handle) library)).2 }
  have closed : (Facade.close unit).outcome { attempted with library := library } =
      (.ok (), later) := by
    have unfolded : (Facade.close unit).outcome { attempted with library := library } =
        (settle (discipline.close unit session.estate library)).outcome
          { attempted with library := library } := rfl
    rw [unfolded, discipline.close_of_leaf library present opened leaf, owned, settle_outcome]
    rfl
  rw [outcome_bind_of_ok named, outcome_bind_of_ok closed]
  refine ⟨name, later, ⟨rfl, rfl, ⟨library.dependants request.handle, ?_⟩, ?_⟩, rfl⟩
  · exact congrArg (· ++ _) effects
  · exact congrArg (List.map _) resources

/-- How parsing an open unit again goes. -/
structure Reparses (session : Session) (unit index : Nat) (handle : Handle)
    (overlay : Option UnsavedFile) (unsaved : UnsavedFiles) (options : Option Datum)
    (estate : Estate Handle Wrapper) (calls : List (Nat × Handle)) : Prop where
  /-- First all that was made from the unit is closed, and given back if it is owned. -/
  clearance : session.estate.Clearance (session.holdings.MadeFrom unit) estate calls
  /-- So no diagnostic, note or set of notes of the unit is open any more. -/
  diagnostics : ∀ other, session.holdings.owner? other = some unit → estate.isOpen other = false
  /-- The unit is still as it was. -/
  itself : estate.get? unit = session.estate.get? unit
  /-- So are its index, what else was made from that, and all that was made from this. -/
  beside : ∀ other, session.holdings.Beside unit index other →
    other ≠ unit ∧ estate.get? other = session.estate.get? other
  /-- None of their handles is given back. -/
  spared : ∀ other kept, session.holdings.Beside unit index other →
    session.estate.handle? other = some kept → kept ∉ calls.map Prod.snd ∧ kept ≠ handle
  /-- If only indexes are used as indexes, nothing but diagnostics of the unit is closed. -/
  others : session.holdings.UsesIndexes →
    ∀ other, session.holdings.owner? other ≠ some unit →
      estate.get? other = session.estate.get? other
  /-- The library has got everything back before it is called, in one go. -/
  disposals : (session.clearing estate calls).library.disposals =
    session.library.disposals ++ calls.map Prod.snd
  /-- Nothing is ever given back twice, not even the unit, should it be given back next. -/
  once : ((session.clearing estate calls).library.disposals ++ [handle]).Nodup
  /-- If a file is missing or the options are no number, that is all. -/
  refused : ∀ failure, requested session handle overlay unsaved options = .error failure →
    (reparse unit unsaved options).outcome session =
      (.error failure, session.clearing estate calls)
  /-- If the library succeeds, nothing else is closed. -/
  succeeds : ∀ request, requested session handle overlay unsaved options = .ok request →
    session.library.reply.status = 0 →
      (reparse unit unsaved options).outcome session =
        (.ok (), { session.clearing estate calls with
          library := (session.clearing estate calls).library.reparsed request })
  /-- Any other status ends with the unit closed and given back, and is reported. -/
  fails : ∀ request, requested session handle overlay unsaved options = .ok request →
    session.library.reply.status ≠ 0 →
      ∃ (spelling : String) (later : Session),
        Abandons (session.clearing estate calls) later unit handle request ∧
          (reparse unit unsaved options).outcome session =
            (.error (.reported ⟨.unit, .reparseFailed,
              "failed to reparse " ++ Text.ofString spelling,
              some session.library.reply.status⟩), later)

theorem requested_handle {overlay : Option UnsavedFile} {unsaved : UnsavedFiles}
    {options : Option Datum} {request : Resubmission}
    (given : requested session handle overlay unsaved options = .ok request) :
    request.handle = handle := by
  unfold requested at given
  cases files : allFiles unsaved with
  | error failure =>
      rw [files] at given
      cases given
  | ok files =>
      rw [files] at given
      cases number : options.elim (.ok (session.library.unitModel handle).reparseOptions)
        Datum.toInteger with
      | error failure =>
          simp only [number] at given
          cases given
      | ok number =>
          simp only [number] at given
          cases given
          rfl

theorem reparse_reparses
    {index : Nat}
    {overlay : Option UnsavedFile}
    (valid : session.holdings.Valid)
    (tidy : session.Tidy)
    (stemming : session.holdings.Stemming)
    (held : session.estate.handle? unit = some handle)
    (isUnit : session.estate.content? unit = some (.unit index overlay))
    (unsaved : UnsavedFiles)
    (options : Option Datum) :
    ∃ (estate : Estate Handle Wrapper) (calls : List (Nat × Handle)),
      Reparses session unit index handle overlay unsaved options estate calls := by
  obtain ⟨record, present, opened⟩ := Estate.handle?_eq_some_iff.mp held
  have content : record.content = .unit index overlay :=
    Option.some.inj ((Estate.content?_of_get? present).symm.trans isUnit)
  obtain ⟨estate, calls, cleared, prepared⟩ := resubmission_outcome valid tidy stemming present
    opened content unsaved options
  have clearance := cleared.clearance
  have source : session.holdings.source? unit = some index :=
    Option.bind_eq_some_iff.mpr ⟨_, isUnit, rfl⟩
  have middleHeld : (session.clearing estate calls).estate.handle? unit = some handle :=
    (Estate.handle?_of_get? cleared.present).trans opened
  have isOwned : handle.isOwned = true := by
    have sorted := valid.founded.sort_eq isUnit (valid.orderly.made_of_held held)
    obtain ⟨number, rfl⟩ := Handle.exists_eq_owned_unit sorted
    rfl
  have owned : record.owned = true := (valid.founded.owned_eq (Estate.owned?_of_get? present)
    (valid.orderly.made_of_held held)).trans isOwned
  obtain ⟨notes, listed, disposed⟩ := session.library.disposeAll_eq (calls.map Prod.snd)
  have sameReply : (session.clearing estate calls).library.reply = session.library.reply := by
    change (session.library.disposeAll _).reply = _
    rw [disposed]
  refine ⟨estate, calls, {
    clearance := clearance
    diagnostics := fun other owner =>
      clearance.isOpen_eq_false (.single (Holdings.source?_of_owner? owner))
    itself := cleared.present.trans present.symm
    beside := fun other beside => ?_
    spared := fun other kept beside heldOther => ?_
    others := fun proper other notOwner => ?_
    disposals := ?_
    once := cleared.once opened isOwned
    refused := fun failure failed => ?_
    succeeds := fun request given status => ?_
    fails := fun request given status => ?_ }⟩
  · obtain ⟨different, notMade⟩ := stemming.not_madeFrom_of_beside source beside
    exact ⟨different, cleared.kept notMade⟩
  · obtain ⟨different, notMade⟩ := stemming.not_madeFrom_of_beside source beside
    refine ⟨cleared.spared valid notMade heldOther, ?_⟩
    rintro rfl
    exact different (valid.founded.injective (valid.orderly.made_of_held heldOther)
      (valid.orderly.made_of_held held) isOwned)
  · refine cleared.kept fun made => notOwner ?_
    refine (stemming.madeFrom_iff_owner valid ?_ proper).mp made
    exact congrArg (Option.map Wrapper.sort) isUnit
  · change (session.library.disposeAll _).disposals = _
    rw [disposed]
    unfold Library.State.disposals
    rw [List.filterMap_append, listed]
  · rw [reparse_eq, outcome_bind, prepared, failed]
  · rw [reparse_eq, outcome_bind, prepared, given]
    have good := Session.isGood_of_held cleared.valid middleHeld
    exact (resubmit_outcome cleared.present opened owned cleared.leaf good request
      (requested_handle given)).1 (sameReply ▸ status)
  · rw [reparse_eq, outcome_bind, prepared, given]
    have good := Session.isGood_of_held cleared.valid middleHeld
    have ended := (resubmit_outcome cleared.present opened owned cleared.leaf good request
      (requested_handle given)).2 (sameReply ▸ status)
    rwa [sameReply] at ended

/-- A closed unit is refused, and nothing happens. -/
theorem reparse_of_closed
    {record : Holder Handle Wrapper}
    (present : session.estate.get? unit = some record)
    (closed : record.handle = none)
    (unsaved : UnsavedFiles)
    (options : Option Datum) :
    (reparse unit unsaved options).outcome session =
      (.error (.closed record.content.className), session) := by
  have refused : (Facade.handle unit).outcome session =
      (.error (.closed record.content.className), session) := by
    rw [handle_outcome, present, Option.elim_some, closed]
    rfl
  unfold reparse
  cases options with
  | some options =>
      have given : (optionsOr (defaultReparseOptions unit) (some options)).outcome session =
          (.ok options, session) := rfl
      rw [outcome_bind_of_ok given, outcome_bind_of_error refused]
  | none =>
      have asked : (optionsOr (defaultReparseOptions unit) none).outcome session =
          (.error (.closed record.content.className), session) := by
        unfold optionsOr defaultReparseOptions
        rw [outcome_bind_of_error (outcome_bind_of_error refused _)]
      rw [outcome_bind_of_error asked]

end CompilationUnit

namespace Scenario

open Facade

/-- Every operation leaves holders adopted by what they were made from or by what shares their
owner. -/
theorem perform_stemming
    {session : Session}
    {names : Names}
    (valid : session.holdings.Valid)
    (tidy : session.Tidy)
    (anchored : names.Anchored session.made)
    (operation : Operation)
    (stemming : session.holdings.Stemming) :
    ((perform names operation).outcome session).2.holdings.Stemming := by
  by_cases ordinary : operation.isOrdinary = true
  · obtain ⟨_, errand, _⟩ := perform_performs valid anchored ordinary session rfl tidy
    exact errand.stemming valid stemming
  · cases operation with
    | equal left right =>
        obtain ⟨tidyAfter, course, found⟩ :=
          comparands_runs valid anchored left right session rfl tidy
        rw [perform_equal, outcome_bind]
        rcases reached : (comparands names left right).outcome session with ⟨result, after⟩
        rw [reached] at tidyAfter course found
        have stemmingAfter := course.stemming valid stemming
        cases result with
        | error failure => exact stemmingAfter
        | ok values =>
            have afterValid := course.valid valid
            obtain ⟨_, same, _⟩ :=
              compareTwice_account afterValid tidyAfter (found values rfl).1 values.2
            change ((compareTwice (values.1, values.2)).outcome after).2.holdings.Stemming
            rw [same]
            exact stemmingAfter.of_grows afterValid (.of_same rfl rfl) rfl rfl
    | reparse unit unsaved options =>
        obtain ⟨tidyAfter, course, found⟩ :=
          reparsands_runs valid anchored unit unsaved session rfl tidy
        rw [perform_reparse, outcome_bind]
        rcases reached : (reparsands names unit unsaved).outcome session with ⟨result, after⟩
        rw [reached] at tidyAfter course found
        have stemmingAfter := course.stemming valid stemming
        cases result with
        | error failure => exact stemmingAfter
        | ok operands =>
            obtain ⟨_, reparsed, _⟩ := parseAgain_ensures (course.valid valid) (found operands rfl)
              operands.2 options after rfl tidyAfter
            exact reparsed.stemming (course.valid valid) stemmingAfter
    | _ => exact absurd rfl ordinary

namespace State

variable {state : State}

theorem Sound.stemming_step (sound : state.Sound) (step : Step)
    (stemming : state.session.holdings.Stemming) :
    (state.step step).1.session.holdings.Stemming := by
  rw [session_step]
  have valid : (state.facing step).holdings.Valid := sound.valid.answering step.reply
  exact perform_stemming valid sound.tidy sound.anchored step.operation
    (stemming.of_grows sound.valid (.of_same rfl rfl) rfl rfl)

theorem Sound.stemming_steps (sound : state.Sound) (steps : List Step)
    (stemming : state.session.holdings.Stemming) :
    (state.steps steps).1.session.holdings.Stemming := by
  induction steps generalizing state with
  | nil => exact stemming
  | cons next rest inductionHypothesis =>
      exact inductionHypothesis (sound.step next) (sound.stemming_step next stemming)

theorem start_stemming (script : Library.Script) (settings : Settings) (storage : Storage) :
    (start script settings storage).session.holdings.Stemming where
  older := by rintro _ _ ⟨⟩
  adopted := by rintro _ ⟨⟩

end State

/-- In every state that a scenario reaches, and whatever the library answers, parsing an open unit
again closes all that was made from the unit, then calls the library, and closes the unit too if
that fails; a closed unit is refused. -/
theorem steps_reparses
    (script : Library.Script)
    (settings : Settings)
    (storage : Storage)
    (steps : List Step)
    (next : Step)
    {unit : Nat}
    {session : Session}
    (reached : ((State.start script settings storage).steps steps).1.facing next = session)
    (isUnit : session.HasSort unit .unit)
    (unsaved : CompilationUnit.UnsavedFiles)
    (options : Option Datum) :
    ∃ (index : Nat) (overlay : Option UnsavedFile),
      session.estate.content? unit = some (.unit index overlay) ∧
      (∀ handle, session.estate.handle? unit = some handle →
        ∃ (estate : Estate Handle Wrapper) (calls : List (Nat × Handle)),
          CompilationUnit.Reparses session unit index handle overlay unsaved options estate
            calls) ∧
      (session.estate.isOpen unit = false →
        (CompilationUnit.reparse unit unsaved options).outcome session =
          (.error (.closed "TranslationUnit"), session)) := by
  subst reached
  have start := State.start_sound script settings storage
  have sound := start.steps steps
  have stemming := start.stemming_steps steps (State.start_stemming script settings storage)
  obtain ⟨wrapper, found, sorted⟩ := Option.map_eq_some_iff.mp isUnit
  obtain ⟨index, overlay, rfl⟩ := Wrapper.eq_unit_of_sort sorted
  refine ⟨index, overlay, found, fun handle held => ?_, fun closed => ?_⟩
  · have valid : (((State.start script settings storage).steps steps).1.facing next).holdings.Valid :=
      sound.valid.answering next.reply
    exact CompilationUnit.reparse_reparses valid sound.tidy
      (stemming.of_grows sound.valid (.of_same rfl rfl) rfl rfl) held found unsaved options
  · obtain ⟨record, present, content⟩ := Option.map_eq_some_iff.mp found
    rw [Estate.isOpen_eq_false_iff, Estate.handle?_of_get? present] at closed
    rw [CompilationUnit.reparse_of_closed present closed, content]
    rfl

/-- A step in which the library reports a failure. -/
def failingStep : Step := ⟨.newIndex false false, { status := 3 }, none⟩

/-- The session with a diagnostic and a note, in which the library will not parse the unit again. -/
def failingSession : Session :=
  ((State.start notedScript .blank ⟨[]⟩).steps (closingIndex.take 4)).1.facing failingStep

/-- The diagnostic is given back before the attempt and the unit after it. -/
theorem failingSession_reparses :
    failingSession.HasSort 1 .unit ∧
      failingSession.estate.handle? 1 = some (.owned .unit 1) ∧
      ∃ index overlay estate calls,
        CompilationUnit.Reparses failingSession 1 index (.owned .unit 1) overlay [] none estate
          calls ∧
        ∃ (spelling : String) (later : Session),
          (CompilationUnit.reparse 1 [] none).outcome failingSession =
              (.error (.reported ⟨.unit, .reparseFailed,
                "failed to reparse " ++ Text.ofString spelling, some 3⟩), later) ∧
            later.library.disposals = [.owned .diagnostic 1, .owned .unit 1] := by
  have isUnit : failingSession.HasSort 1 .unit := by decide +kernel
  have held : failingSession.estate.handle? 1 = some (.owned .unit 1) := by decide +kernel
  have same : ((State.start notedScript .blank ⟨[]⟩).steps (closingIndex.take 4)).1.facing
      failingStep = failingSession := rfl
  obtain ⟨index, overlay, _, opened, _⟩ := steps_reparses notedScript .blank ⟨[]⟩
    (closingIndex.take 4) failingStep same isUnit [] none
  obtain ⟨estate, calls, reparses⟩ := opened _ held
  refine ⟨isUnit, held, index, overlay, estate, calls, reparses, ?_⟩
  obtain ⟨spelling, later, _, reached⟩ := reparses.fails _ rfl (by decide +kernel)
  refine ⟨spelling, later, reached, ?_⟩
  have listed : ((CompilationUnit.reparse 1 [] none).outcome failingSession).2.library.disposals =
      [.owned .diagnostic 1, .owned .unit 1] := by decide +kernel
  rwa [reached] at listed

end Scenario
end Custody
