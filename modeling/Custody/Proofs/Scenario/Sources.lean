import Custody.Proofs.Scenario.Steps
import Custody.Proofs.Session.Sources

/-!
# Sources in memory along a scenario

A unit that was made from source in memory keeps it, whatever steps follow, and every time
it is parsed again the library is given the files of that step, followed by the source
unless one of them has its name.  A unit that was made in another way keeps none.
-/

namespace Custody
namespace Scenario

open CompilationUnit

/-- What parsing source in memory needs: what is passed for the index, and the files. -/
def sourceOperands (names : Names) (index : Option Target) (parsing : Parsing) :
    Facade (Option Passed × UnsavedFiles) := do
  let index ← indexOf names index
  let unsaved ← parsing.unsaved.mapM (·.file names)
  return (index, unsaved)

theorem perform_parseSource (names : Names) (index : Option Target) (source language : Datum)
    (parsing : Parsing) :
    perform names (.parseSource index source language parsing) =
      (do
        let operands ← sourceOperands names index parsing
        ofSource operands.1 source language parsing.arguments operands.2 parsing.options) >>=
      fun unit => Product.ofValue (.holder unit) := by
  simp only [perform, sourceOperands, bind_assoc, pure_bind]

/-- The operations that make a unit in another way, with what they do. -/
inductive MakesUnit (names : Names) : Operation → Facade Nat → Prop
  /-- From a file. -/
  | file (index : Option Target) (filename : Datum) (parsing : Parsing) :
      MakesUnit names (.parseFile index filename parsing) (do
        let index ← indexOf names index
        let unsaved ← parsing.unsaved.mapM (·.file names)
        ofFile index (given? filename) parsing.arguments unsaved parsing.options)
  /-- From a file, by an index. -/
  | fileBy (index : Target) (filename : Datum) (parsing : Parsing) :
      MakesUnit names (.parseWith index filename parsing) (do
        let index ← (← index.value names).asIndex
        let unsaved ← parsing.unsaved.mapM (·.file names)
        ofFile (some (.holder index)) (given? filename) parsing.arguments unsaved parsing.options)
  /-- From a compile command. -/
  | command (index : Option Target) (command : Target) (parsing : Parsing) :
      MakesUnit names (.parseCommand index command parsing) (do
        let command ← command.value names
        let index ← indexOf names index
        let unsaved ← parsing.unsaved.mapM (·.file names)
        ofCommand index (← command.asCommand) unsaved parsing.options)
  /-- From a stored unit. -/
  | stored (index : Option Target) (path : Datum) :
      MakesUnit names (.loadUnit index path) (do ofStored (← indexOf names index) path)
  /-- From a stored unit, by an index. -/
  | storedBy (index : Target) (path : Datum) :
      MakesUnit names (.loadWith index path) (do
        let index ← (← index.value names).asIndex
        ofStored (some (.holder index)) path)

namespace MakesUnit

variable {names : Names} {operation : Operation} {action : Facade Nat} {session : Session}

theorem perform_eq (makes : MakesUnit names operation action) :
    perform names operation = action >>= fun unit => Product.ofValue (.holder unit) := by
  cases makes <;> simp only [perform, bind_assoc]

/-- Such a unit keeps no source. -/
theorem gives (makes : MakesUnit names operation action) :
    Facade.Gives session action fun later unit =>
      ∃ holder, later.estate.content? unit = some (.unit holder none) := by
  cases makes with
  | file index filename parsing =>
      exact .last fun _ _ => .last fun _ _ => ofFile_gives _ _ _ _ _
  | fileBy index filename parsing =>
      exact .last fun _ _ => .last fun _ _ => .last fun _ _ => ofFile_gives _ _ _ _ _
  | command index command parsing =>
      exact .last fun _ _ => .last fun _ _ => .last fun _ _ => .last fun _ _ =>
        ofCommand_gives _ _ _ _
  | stored index path => exact .last fun _ _ => ofStored_gives _ _
  | storedBy index path => exact .last fun _ _ => .last fun _ _ => ofStored_gives _ _

end MakesUnit

namespace State

variable {state : State}

/-- The files in memory that the library was given by each call so far, in order. -/
def submissions (state : State) : List (List Slot) := state.session.library.submissions

/-- A unit keeps source in memory, or none. -/
def Keeps (state : State) (unit : Nat) (overlay : Option UnsavedFile) : Prop :=
  ∃ holder, state.session.estate.content? unit = some (.unit holder overlay)

/-- After a step that makes a holder, the session is as making it left it. -/
theorem session_step_of_made {step : Step} {action : Facade Nat} {unit : Nat} {later : Session}
    (performs : perform state.names step.operation =
      action >>= fun unit => Product.ofValue (.holder unit))
    (made : action.outcome (state.facing step) = (.ok unit, later)) :
    (state.step step).1.session = later := by
  rw [session_step, performs, Facade.outcome_bind_of_ok made]
  rfl

/-- After a step that parses a unit again, the session is as parsing left it. -/
theorem session_step_of_reparsands {step : Step} {target : Target} {sources : List UnsavedSource}
    {options : Option Datum} (operation : step.operation = .reparse target sources options)
    {unit : Nat} {unsaved : UnsavedFiles} {session : Session}
    (found : (reparsands state.names target sources).outcome (state.facing step) =
      (.ok (unit, unsaved), session)) :
    (state.step step).1.session = ((reparse unit unsaved options).outcome session).2 := by
  rw [session_step, operation, perform_reparse, Facade.outcome_bind_of_ok found]
  unfold parseAgain
  rw [Facade.outcome_bind]
  rcases (reparse unit unsaved options).outcome session with ⟨failure | done, later⟩ <;> rfl

/-- Evaluating what parsing again is about leaves a unit what it is. -/
theorem Sound.content?_of_reparsands (sound : state.Sound) {step : Step} {target : Target}
    {sources : List UnsavedSource} {unit : Nat} {unsaved : UnsavedFiles} {session : Session}
    (found : (reparsands state.names target sources).outcome (state.facing step) =
      (.ok (unit, unsaved), session))
    {holder : Nat} {overlay : Option UnsavedFile}
    (present : state.session.estate.content? unit = some (.unit holder overlay)) :
    session.estate.content? unit = some (.unit holder overlay) := by
  have valid : (state.facing step).holdings.Valid := sound.valid.answering step.reply
  obtain ⟨-, course, -⟩ :=
    reparsands_runs valid sound.anchored target sources (state.facing step) rfl sound.tidy
  rw [found] at course
  exact course.keepsContents unit _ present nofun

/-- What parsing a unit again comes to: nothing is handed over if the library is not called, and
else the library is given the files of the caller, followed by the source that the unit keeps
unless one of them has its name. -/
def ParsesAgain (unit : Nat) (overlay : Option UnsavedFile) (unsaved : UnsavedFiles)
    (options : Option Datum) (session last : Session) : Prop :=
  match (resubmission unit unsaved options).outcome session with
  | (.error _, later) =>
      last = later ∧ last.library.submissions = session.library.submissions
  | (.ok request, later) =>
      ∃ files : List UnsavedFile, unsaved = files.map some ∧
        session.estate.handle? unit = some request.handle ∧
        request.unsaved = unsavedSlots (filesWith overlay files) ∧
        last = ((resubmit unit request).outcome later).2 ∧
        last.library.submissions =
          session.library.submissions ++ [(filesWith overlay files).map UnsavedFile.slot]

theorem parsesAgain_reparse {unit holder : Nat} {overlay : Option UnsavedFile} {session : Session}
    (present : session.estate.content? unit = some (.unit holder overlay))
    (unsaved : UnsavedFiles) (options : Option Datum) :
    ParsesAgain unit overlay unsaved options session
      ((reparse unit unsaved options).outcome session).2 := by
  have undisturbed := resubmission_quiet unit unsaved options session
  have gives := resubmission_gives present unsaved options
  unfold ParsesAgain
  rw [reparse_eq, Facade.outcome_bind]
  -- Either something fails before the library is called, or it is called once.
  rcases asked : (resubmission unit unsaved options).outcome session with
    ⟨failure | request, later⟩
  · rw [asked] at undisturbed
    exact ⟨rfl, undisturbed.submissions⟩
  · rw [asked] at undisturbed
    obtain ⟨files, all, held, given⟩ := gives request later asked
    refine ⟨files, all, held, given, rfl, ?_⟩
    rw [← unsavedSlots_getD, ← given, ← undisturbed.submissions]
    exact resubmit_hands unit request later

/-- Sources in memory are kept by their units and handed over whenever these are parsed. -/
structure KeepsSources (state : State) : Prop where
  /-- Source in memory is parsed under a generated name, after the files of the caller, and the
  unit keeps it. -/
  source : ∀ (step : Step) (index : Option Target) (source language : Datum) (parsing : Parsing)
      (operands : Option Passed × UnsavedFiles) (session later : Session) (unit : Nat),
    step.operation = .parseSource index source language parsing →
    (sourceOperands state.names index parsing).outcome (state.facing step) =
      (.ok operands, session) →
    (ofSource operands.1 source language parsing.arguments operands.2 parsing.options).outcome
      session = (.ok unit, later) →
    ∃ (files : List UnsavedFile) (overlay : UnsavedFile) (extension : String),
      operands.2 = files.map some ∧
      (Datum.text (sourceName session extension)).encodeName = .ok overlay.filenameBytes ∧
      source.encodeContents = .ok overlay.contentsBytes ∧
      (state.step step).1.submissions =
        session.library.submissions ++ [files.map UnsavedFile.slot ++ [overlay.slot]] ∧
      (state.step step).1.Keeps unit (some overlay)
  /-- A unit that is made in another way keeps no source. -/
  other : ∀ (step : Step) (action : Facade Nat) (unit : Nat) (later : Session),
    MakesUnit state.names step.operation action →
    action.outcome (state.facing step) = (.ok unit, later) →
    (state.step step).1.Keeps unit none
  /-- What a unit keeps stays the same, whatever steps follow. -/
  lasting : ∀ (unit : Nat) (overlay : Option UnsavedFile), state.Keeps unit overlay →
    ∀ steps : List Step, (state.steps steps).1.Keeps unit overlay
  /-- Each time a unit is parsed again, the library is given the files of that step, and the
  source that the unit keeps unless one of them has its name. -/
  again : ∀ (step : Step) (target : Target) (sources : List UnsavedSource)
      (options : Option Datum) (unit : Nat) (unsaved : UnsavedFiles) (session : Session)
      (overlay : Option UnsavedFile),
    step.operation = .reparse target sources options →
    (reparsands state.names target sources).outcome (state.facing step) =
      (.ok (unit, unsaved), session) →
    state.Keeps unit overlay →
    ParsesAgain unit overlay unsaved options session (state.step step).1.session

theorem Sound.keepsSources (sound : state.Sound) : state.KeepsSources where
  source := by
    intro step index source language parsing operands session later unit operation found made
    have performs := perform_parseSource state.names index source language parsing
    rw [← operation] at performs
    have ended : (state.step step).1.session = later :=
      session_step_of_made performs ((Facade.outcome_bind_of_ok found _).trans made)
    unfold submissions Keeps
    rw [ended]
    obtain ⟨files, holder, overlay, extension, all, present, named, filled, handed⟩ :=
      ofSource_gives _ _ _ _ _ _ unit later made
    exact ⟨files, overlay, extension, all, named, filled, handed, holder, present⟩
  other := by
    intro step action unit later makes made
    rw [Keeps, session_step_of_made makes.perform_eq made]
    exact makes.gives unit later made
  lasting := by
    rintro unit overlay ⟨holder, present⟩ steps
    exact ⟨holder, sound.keepsContents_steps steps unit _ present nofun⟩
  again := by
    rintro step target sources options unit unsaved session overlay operation found
      ⟨holder, present⟩
    rw [session_step_of_reparsands operation found]
    exact parsesAgain_reparse (sound.content?_of_reparsands found present) unsaved options

/-- However a scenario went, units keep the source they were made from, and parsing them again
hands it over unless it is overridden that time. -/
theorem start_keepsSources (script : Library.Script) (settings : Settings) (storage : Storage)
    (earlier : List Step) :
    ((start script settings storage).steps earlier).1.KeepsSources :=
  ((start_sound script settings storage).steps earlier).keepsSources

end State

end Scenario
end Custody
