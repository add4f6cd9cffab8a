import Custody.Library.Loader
import Mathlib.Tactic.SplitIfs

/-!
# Attempts to load the library

What the actions of a program on its loader answer and leave.  Asking for the library
when there is none is an attempt: the settings may be missing, the finder may refuse, the
system may refuse to open what was found, or the library is opened and its symbols are
looked up.  No other step touches the library, calls the finder or makes the finder load.
-/

namespace Custody
namespace Library

namespace Finder

/-- The name of the library: the one that it reports, or else the one that the finder gives. -/
def name (finder : Finder) : Datum :=
  if finder.reportedName.isTrue then finder.reportedName else finder.filename

/-- The calls after which the name of the library is known. -/
def searching (finder : Finder) : List LoaderCall :=
  if finder.reportedName.isTrue then [.load] else [.load, .getFilename]

end Finder

namespace Loader

variable {α β : Type}

/-- Runs an action: its result and the program after it. -/
def outcome (action : Action α) (loader : Loader) : Except Failure α × Loader :=
  Id.run (StateT.run (ExceptT.run action) loader)

section Outcomes

variable (loader : Loader)

@[simp] theorem outcome_pure (value : α) :
    outcome (pure value) loader = (.ok value, loader) := rfl

@[simp] theorem outcome_throw (failure : Failure) :
    outcome (throw failure : Action α) loader = (.error failure, loader) := rfl

@[simp] theorem outcome_get : outcome (get : Action Loader) loader = (.ok loader, loader) := rfl

@[simp] theorem outcome_set (later : Loader) :
    outcome (set later : Action PUnit) loader = (.ok ⟨⟩, later) := rfl

@[simp] theorem outcome_modify (change : Loader → Loader) :
    outcome (modify change : Action PUnit) loader = (.ok ⟨⟩, change loader) := rfl

theorem outcome_bind (action : Action α) (next : α → Action β) :
    outcome (action >>= next) loader =
      match outcome action loader with
      | (.ok value, after) => outcome (next value) after
      | (.error failure, after) => (.error failure, after) := by
  unfold outcome
  simp only [ExceptT.run, bind, ExceptT.bind, ExceptT.mk, StateT.bind, StateT.run, Id.run]
  split
  next result after reached =>
    rw [reached]
    cases result <;> rfl

variable {loader} {middle : Loader}

theorem outcome_bind_of_ok {action : Action α} {value : α}
    (succeeded : outcome action loader = (.ok value, middle)) (next : α → Action β) :
    outcome (action >>= next) loader = outcome (next value) middle := by
  rw [outcome_bind, succeeded]

theorem outcome_bind_of_error {action : Action α} {failure : Failure}
    (failed : outcome action loader = (.error failure, middle)) (next : α → Action β) :
    outcome (action >>= next) loader = (.error failure, middle) := by
  rw [outcome_bind, failed]

end Outcomes

section Settings

variable {loader : Loader} {settings : Settings}

/-- What reading the environment for settings gives, with the records that it leaves. -/
def environmentSettings (loader : Loader) : Except Failure Settings × List LogRecord :=
  (Settings.load loader.reader loader.storage loader.environment .null).outcome

/-- The settings that are active, or else those of the environment. -/
def Uses (loader : Loader) (settings : Settings) : Prop :=
  loader.settings = some settings ∨
    loader.settings = none ∧ loader.environmentSettings.1 = .ok settings

theorem getSettings_of_active (active : loader.settings = some settings) :
    outcome getSettings loader = (.ok settings, loader) := by
  unfold getSettings
  rw [outcome_bind_of_ok (outcome_get loader), active]
  rfl

theorem getSettings_of_inactive (inactive : loader.settings = none) :
    outcome getSettings loader =
      (loader.environmentSettings.1,
        { loader with
          settings := loader.environmentSettings.1.toOption
          log := loader.log ++ loader.environmentSettings.2 }) := by
  unfold getSettings environmentSettings
  rw [outcome_bind_of_ok (outcome_get loader), inactive]
  rcases (Settings.load loader.reader loader.storage loader.environment .null).outcome with
    ⟨result, records⟩
  cases result with
  | error failure =>
      dsimp only [Except.toOption]
      rw [← inactive]
      rfl
  | ok settings => rfl

/-- Asking for the settings gives those in use, which are active from then on, and leaves
everything else but the records as it was. -/
theorem getSettings_of_uses (uses : loader.Uses settings) :
    ∃ log, outcome getSettings loader =
      (.ok settings, { loader with settings := some settings, log := log }) := by
  rcases uses with active | ⟨inactive, read⟩
  · refine ⟨loader.log, ?_⟩
    rw [getSettings_of_active active, ← active]
  · rw [getSettings_of_inactive inactive]
    rcases same : loader.environmentSettings with ⟨result, records⟩
    rw [same] at read
    cases read
    exact ⟨_, rfl⟩

theorem Uses.unique {other : Settings} (uses : loader.Uses settings)
    (usesOther : loader.Uses other) : settings = other := by
  rcases uses with active | ⟨inactive, read⟩ <;> rcases usesOther with same | ⟨absent, readOther⟩
  · exact Option.some.inj (active.symm.trans same)
  · cases active.symm.trans absent
  · cases inactive.symm.trans same
  · exact Except.ok.inj (read.symm.trans readOther)

/-- Either some settings are in use, or none can be had and nothing but the records changes. -/
theorem getSettings_cases (loader : Loader) :
    (∃ settings, loader.Uses settings) ∨
      (∀ settings, ¬ loader.Uses settings) ∧ ∃ failure log,
        outcome getSettings loader = (.error failure, { loader with log := log }) := by
  by_cases uses : ∃ settings, loader.Uses settings
  · exact .inl uses
  · have inactive : loader.settings = none :=
      Option.eq_none_iff_forall_ne_some.mpr fun settings active => uses ⟨settings, .inl active⟩
    refine .inr ⟨not_exists.mp uses, ?_⟩
    rw [getSettings_of_inactive inactive]
    rcases same : loader.environmentSettings with ⟨result, records⟩
    cases result with
    | error failure =>
        refine ⟨failure, loader.log ++ records, ?_⟩
        rw [inactive]
        rfl
    | ok settings => exact absurd ⟨settings, .inr ⟨inactive, by rw [same]⟩⟩ uses

end Settings

/-- The call that tells the finder what settings say: the library, or else its directory. -/
def demand (settings : Settings) : Option LoaderCall :=
  if settings.libraryFile.isTrue then some (.setLibraryFile settings.libraryFile)
  else if settings.libraryPath.isTrue then some (.setLibraryPath settings.libraryPath)
  else none

/-- What the finder is told before it is asked to load; one that has loaded is told nothing. -/
def told (loader : Loader) (settings : Settings) : List LoaderCall :=
  if loader.finder.loaded then [] else (demand settings).toList

/-- What looking up the symbols of an opened library gives. -/
def registration (loader : Loader) : Except Failure Opened :=
  match firstMissing? loader.finder.missing with
  | some symbol => .error (.missingSymbol symbol)
  | none => .ok ⟨loader.opened, symbols.length⟩

/-- The record that a loaded library leaves. -/
def loadingRecords (loader : Loader) : List LogRecord :=
  match firstMissing? loader.finder.missing with
  | some _ => []
  | none => [⟨.debug, "loaded libclang from " ++ loader.finder.name.shown⟩]

/-- The program after the system was asked to open what the finder found. -/
def afterSearching (loader : Loader) (settings : Settings) : Loader :=
  { loader with
    finder := { loader.finder with loaded := true }
    settings := some settings
    calls := loader.calls ++ loader.told settings ++ loader.finder.searching ++
      [.openLibrary loader.finder.name] }

/-- The program after a library was opened. -/
def afterOpening (loader : Loader) (settings : Settings) : Loader :=
  { loader.afterSearching settings with
    library := loader.registration.toOption
    opened := loader.opened + 1
    log := loader.log ++ loader.loadingRecords }

section Registration

variable {loader : Loader}

theorem not_openLibrary_told (loader : Loader) (settings : Settings) (name : Datum) :
    .openLibrary name ∉ loader.told settings := by
  unfold told demand
  split_ifs <;> simp

theorem not_openLibrary_searching (finder : Finder) (name : Datum) :
    .openLibrary name ∉ finder.searching := by
  unfold Finder.searching
  split_ifs <;> simp

/-- Looking up the symbols fails exactly when one is missing, and names the first. -/
theorem registration_eq_error {failure : Failure} (failed : loader.registration = .error failure) :
    ∃ front symbol rest, failure = .missingSymbol symbol ∧ symbols = front ++ symbol :: rest ∧
      symbol ∈ loader.finder.missing ∧ ∀ other ∈ front, other ∉ loader.finder.missing := by
  unfold registration at failed
  split at failed
  next symbol first =>
    cases failed
    obtain ⟨missing, front, rest, split, present⟩ := List.find?_eq_some_iff_append.mp first
    exact ⟨front, symbol, rest, rfl, split, by simpa using missing, by simpa using present⟩
  next => cases failed

/-- A library that is registered has all symbols. -/
theorem eq_of_registration {library : Opened} (registered : loader.registration = .ok library) :
    library = ⟨loader.opened, symbols.length⟩ := by
  unfold registration at registered
  split at registered
  next => cases registered
  next =>
    cases registered
    rfl

/-- A library is registered exactly if it lacks no symbol. -/
theorem registration_eq_ok_iff :
    loader.registration = .ok ⟨loader.opened, symbols.length⟩ ↔
      ∀ symbol ∈ symbols, symbol ∉ loader.finder.missing := by
  have none : firstMissing? loader.finder.missing = none ↔
      ∀ symbol ∈ symbols, symbol ∉ loader.finder.missing := by simp [firstMissing?]
  rw [← none]
  unfold registration
  cases firstMissing? loader.finder.missing <;> simp

end Registration

/-- What an attempt to load with given settings gives, and the program after it. -/
def attempt (loader : Loader) (settings : Settings) : Except Failure Opened × Loader :=
  if loader.finder.refusal.isEmpty then
    if loader.finder.obstacle.isEmpty then (loader.registration, loader.afterOpening settings)
    else (.error (.unopened loader.finder.obstacle), loader.afterSearching settings)
  else
    (.error (.loading loader.finder.refusal),
      { loader with
        settings := some settings
        calls := loader.calls ++ loader.told settings })

section Attempt

variable {loader : Loader} {settings : Settings}

theorem attempt_of_refusal (refusal : loader.finder.refusal.isEmpty = false) :
    loader.attempt settings =
      (.error (.loading loader.finder.refusal),
        { loader with
          settings := some settings
          calls := loader.calls ++ loader.told settings }) := by
  unfold attempt
  rw [refusal]
  rfl

theorem attempt_of_obstacle (willing : loader.finder.refusal.isEmpty = true)
    (obstacle : loader.finder.obstacle.isEmpty = false) :
    loader.attempt settings =
      (.error (.unopened loader.finder.obstacle), loader.afterSearching settings) := by
  unfold attempt
  rw [if_pos willing, obstacle]
  rfl

theorem attempt_of_openable (willing : loader.finder.refusal.isEmpty = true)
    (openable : loader.finder.obstacle.isEmpty = true) :
    loader.attempt settings = (loader.registration, loader.afterOpening settings) := by
  unfold attempt
  rw [if_pos willing, if_pos openable]

end Attempt

/-- How asking for the library can end when there is none. -/
inductive Asked (before : Loader) : Except Failure Opened → Loader → Prop
  /-- There are no settings. -/
  | unsettled (failure : Failure) (log : List LogRecord)
      (useless : ∀ settings, ¬ before.Uses settings) :
      Asked before (.error failure) { before with log := log }
  /-- The finder refuses to load. -/
  | refused {settings : Settings} (log : List LogRecord) (uses : before.Uses settings)
      (refusal : before.finder.refusal.isEmpty = false) :
      Asked before (.error (.loading before.finder.refusal))
        { before with
          settings := some settings
          calls := before.calls ++ before.told settings
          log := log }
  /-- The system refuses to open what the finder found. -/
  | unopened {settings : Settings} (log : List LogRecord) (uses : before.Uses settings)
      (willing : before.finder.refusal.isEmpty = true)
      (obstacle : before.finder.obstacle.isEmpty = false) :
      Asked before (.error (.unopened before.finder.obstacle))
        { before.afterSearching settings with log := log }
  /-- The library is opened and its symbols are looked up. -/
  | searched {settings : Settings} (log : List LogRecord) (uses : before.Uses settings)
      (willing : before.finder.refusal.isEmpty = true)
      (openable : before.finder.obstacle.isEmpty = true) :
      Asked before before.registration { before.afterOpening settings with log := log }

section Asking

variable (loader : Loader)

theorem tellFinder_outcome (settings : Settings) :
    outcome (tellFinder settings) loader =
      (.ok (), { loader with calls := loader.calls ++ loader.told settings }) := by
  unfold tellFinder told demand
  rw [outcome_bind_of_ok (outcome_get loader)]
  cases loader.finder.loaded with
  | true => simp
  | false =>
      cases settings.libraryFile.isTrue with
      | true => rfl
      | false =>
          cases settings.libraryPath.isTrue with
          | true => rfl
          | false => simp

theorem locate_of_refusal (refusal : loader.finder.refusal.isEmpty = false) :
    outcome locate loader = (.error (.loading loader.finder.refusal), loader) := by
  unfold locate
  rw [outcome_bind_of_ok (outcome_get loader)]
  dsimp only
  rw [refusal]
  rfl

theorem locate_of_willing (willing : loader.finder.refusal.isEmpty = true) :
    outcome locate loader =
      (.ok loader.finder.name,
        { loader with
          finder := { loader.finder with loaded := true }
          calls := loader.calls ++ loader.finder.searching }) := by
  unfold locate Finder.name Finder.searching
  rw [outcome_bind_of_ok (outcome_get loader)]
  dsimp only
  rw [willing]
  cases loader.finder.reportedName.isTrue with
  | true => rfl
  | false =>
      change _ = (_, { loader with
        finder := { loader.finder with loaded := true }
        calls := loader.calls ++ ([LoaderCall.load] ++ [LoaderCall.getFilename]) })
      rw [← List.append_assoc]
      rfl

theorem openAndRegister_of_refusal (settings : Settings)
    (refusal : loader.finder.refusal.isEmpty = false) :
    outcome (openAndRegister settings) loader =
      (.error (.loading loader.finder.refusal),
        { loader with calls := loader.calls ++ loader.told settings }) := by
  unfold openAndRegister
  rw [outcome_bind_of_ok (tellFinder_outcome loader settings)]
  exact outcome_bind_of_error (locate_of_refusal
    { loader with calls := loader.calls ++ loader.told settings } refusal) _

theorem openFile_outcome (filename : Datum) :
    outcome (openFile filename) loader =
      if loader.finder.obstacle.isEmpty then
        (.ok loader.opened,
          { loader with
            calls := loader.calls ++ [.openLibrary filename]
            opened := loader.opened + 1 })
      else
        (.error (.unopened loader.finder.obstacle),
          { loader with calls := loader.calls ++ [.openLibrary filename] }) := by
  unfold openFile note
  rw [outcome_bind_of_ok (outcome_modify _ _), outcome_bind_of_ok (outcome_get _)]
  dsimp only
  cases loader.finder.obstacle.isEmpty <;> rfl

theorem openAndRegister_of_obstacle (settings : Settings)
    (willing : loader.finder.refusal.isEmpty = true)
    (obstacle : loader.finder.obstacle.isEmpty = false) :
    outcome (openAndRegister settings) loader =
      (.error (.unopened loader.finder.obstacle),
        { loader with
          finder := { loader.finder with loaded := true }
          calls := loader.calls ++ loader.told settings ++ loader.finder.searching ++
            [.openLibrary loader.finder.name] }) := by
  unfold openAndRegister
  rw [outcome_bind_of_ok (tellFinder_outcome loader settings),
    outcome_bind_of_ok (locate_of_willing
      { loader with calls := loader.calls ++ loader.told settings } willing),
    outcome_bind, openFile_outcome]
  dsimp only
  rw [obstacle]
  rfl

theorem openAndRegister_of_openable (settings : Settings)
    (willing : loader.finder.refusal.isEmpty = true)
    (openable : loader.finder.obstacle.isEmpty = true) :
    outcome (openAndRegister settings) loader =
      (loader.registration,
        { loader with
          finder := { loader.finder with loaded := true }
          opened := loader.opened + 1
          calls := loader.calls ++ loader.told settings ++ loader.finder.searching ++
            [.openLibrary loader.finder.name]
          log := loader.log ++ loader.loadingRecords }) := by
  unfold openAndRegister registration loadingRecords
  rw [outcome_bind_of_ok (tellFinder_outcome loader settings),
    outcome_bind_of_ok (locate_of_willing
      { loader with calls := loader.calls ++ loader.told settings } willing),
    outcome_bind, openFile_outcome]
  dsimp only
  rw [if_pos openable]
  dsimp only
  rw [outcome_bind_of_ok (outcome_get _)]
  dsimp only
  cases firstMissing? loader.finder.missing with
  | some symbol =>
      rw [List.append_nil]
      rfl
  | none => rfl

variable {loader : Loader} {settings : Settings}

theorem currentLibrary_of_loaded {library : Opened} (present : loader.library = some library) :
    outcome currentLibrary loader = (.ok library, loader) := by
  unfold currentLibrary
  rw [outcome_bind_of_ok (outcome_get loader), present]
  rfl

/-- Asking for the library when there is none, but there are active settings, is an attempt
to load it with them. -/
theorem currentLibrary_of_active (absent : loader.library = none)
    (active : loader.settings = some settings) :
    outcome currentLibrary loader = loader.attempt settings := by
  unfold currentLibrary
  rw [outcome_bind_of_ok (outcome_get loader), absent]
  dsimp only
  rw [outcome_bind_of_ok (getSettings_of_active active)]
  cases refusal : loader.finder.refusal.isEmpty with
  | false =>
      rw [outcome_bind_of_error (openAndRegister_of_refusal loader settings refusal),
        attempt_of_refusal refusal, ← active, absent]
  | true =>
      cases obstacle : loader.finder.obstacle.isEmpty with
      | false =>
          rw [outcome_bind_of_error
            (openAndRegister_of_obstacle loader settings refusal obstacle),
            attempt_of_obstacle refusal obstacle]
          unfold afterSearching
          rw [← active, absent]
      | true =>
          rw [outcome_bind, openAndRegister_of_openable loader settings refusal obstacle,
            attempt_of_openable refusal obstacle]
          unfold afterOpening afterSearching
          rw [← active]
          cases registered : loader.registration with
          | ok library => rfl
          | error failure =>
              rw [absent]
              rfl

/-- With settings from the environment the attempt is the same, once they are active. -/
theorem currentLibrary_of_uses (absent : loader.library = none) (uses : loader.Uses settings) :
    ∃ log, outcome currentLibrary loader =
      attempt { loader with settings := some settings, log := log } settings := by
  obtain ⟨log, found⟩ := getSettings_of_uses uses
  have same : outcome currentLibrary { loader with settings := some settings, log := log } =
    attempt { loader with settings := some settings, log := log } settings :=
      currentLibrary_of_active absent rfl
  refine ⟨log, ?_⟩
  rw [← same]
  unfold currentLibrary
  rw [outcome_bind_of_ok (outcome_get loader), outcome_bind_of_ok (outcome_get _), absent]
  dsimp only
  rw [outcome_bind_of_ok found, outcome_bind_of_ok (getSettings_of_active rfl), absent]

/-- Asking for the library when there is none ends in one of four ways. -/
theorem currentLibrary_asked (absent : loader.library = none) :
    Asked loader (outcome currentLibrary loader).1 (outcome currentLibrary loader).2 := by
  rcases loader.getSettings_cases with ⟨settings, uses⟩ | ⟨useless, failure, log, failed⟩
  · obtain ⟨log, reached⟩ := currentLibrary_of_uses absent uses
    rw [reached]
    unfold attempt
    split
    next willing =>
      split
      next openable => exact .searched _ uses willing openable
      next obstacle => exact .unopened log uses willing (Bool.eq_false_iff.mpr obstacle)
    next refusal => exact .refused log uses (Bool.eq_false_iff.mpr refusal)
  · unfold currentLibrary
    rw [outcome_bind_of_ok (outcome_get loader)]
    simp only [absent]
    rw [outcome_bind_of_error failed]
    exact .unsettled failure log useless

end Asking

namespace Asked

variable {before after : Loader} {answer : Except Failure Opened} {active : Settings}

/-- The library is the one that was found, if one was found. -/
theorem library (asked : Asked before answer after) (absent : before.library = none) :
    after.library = answer.toOption := by
  cases asked with
  | unsettled => exact absent
  | refused => exact absent
  | unopened => exact absent
  | searched => rfl

/-- Active settings are left as they were. -/
theorem settings (asked : Asked before answer after) (isActive : before.settings = some active) :
    after.settings = some active := by
  have only {settings : Settings} (uses : before.Uses settings) : settings = active :=
    uses.unique (.inl isActive)
  cases asked with
  | unsettled failure log useless => exact isActive
  | refused log uses refusal => rw [only uses]
  | unopened log uses willing obstacle =>
      rw [only uses]
      rfl
  | searched log uses willing openable =>
      rw [only uses]
      rfl

/-- When a library is opened, what is given is what looking up its symbols gives. -/
theorem registration (asked : Asked before answer after) (opened : after.opened ≠ before.opened) :
    answer = before.registration := by
  cases asked with
  | unsettled failure log useless => exact absurd rfl opened
  | refused log uses refusal => exact absurd rfl opened
  | unopened log uses willing obstacle => exact absurd rfl opened
  | searched log uses willing openable => rfl

/-- A library that was found was opened, with settings that are now active. -/
theorem found {library : Opened} (asked : Asked before answer after)
    (answered : answer = .ok library) :
    ∃ settings log, before.registration = .ok library ∧ before.Uses settings ∧
      after = { before.afterOpening settings with log := log } := by
  cases asked with
  | unsettled failure log useless => cases answered
  | refused log uses refusal => cases answered
  | unopened log uses willing obstacle => cases answered
  | searched log uses willing openable => exact ⟨_, log, answered, uses, rfl⟩

end Asked

/-- What an action that does not ask for the library leaves as it was. -/
structure Untouched (before after : Loader) : Prop where
  /-- The library. -/
  library : after.library = before.library
  /-- How many libraries were opened. -/
  opened : after.opened = before.opened
  /-- Whether the finder has loaded. -/
  loaded : after.finder.loaded = before.finder.loaded
  /-- The calls. -/
  calls : after.calls = before.calls

namespace Untouched

variable {first second third : Loader}

theorem refl (loader : Loader) : Untouched loader loader := ⟨rfl, rfl, rfl, rfl⟩

theorem trans (earlier : Untouched first second) (later : Untouched second third) :
    Untouched first third :=
  ⟨later.library.trans earlier.library, later.opened.trans earlier.opened,
    later.loaded.trans earlier.loaded, later.calls.trans earlier.calls⟩

end Untouched

/-- An action that never touches the library. -/
def Modest (action : Action α) : Prop := ∀ loader, Untouched loader (outcome action loader).2

namespace Modest

protected theorem pure (value : α) : Modest (pure value) := .refl

protected theorem throw (failure : Failure) : Modest (throw failure : Action α) := .refl

protected theorem get : Modest get := .refl

protected theorem modify {change : Loader → Loader}
    (untouched : ∀ loader, Untouched loader (change loader)) : Modest (modify change) :=
  untouched

protected theorem bind {action : Action α} {next : α → Action β} (first : Modest action)
    (rest : ∀ value, Modest (next value)) : Modest (action >>= next) := by
  intro loader
  have early := first loader
  rw [outcome_bind]
  rcases reached : outcome action loader with ⟨failure | value, middle⟩
  all_goals rw [reached] at early
  · exact early
  · exact early.trans (rest value middle)

protected theorem forM {each : α → Action PUnit} (modest : ∀ value, Modest (each value))
    (values : List α) : Modest (values.forM each) := by
  induction values with
  | nil => exact .pure ()
  | cons value values rest => exact .bind (modest value) fun _ => rest

protected theorem getSettings : Modest getSettings := by
  intro loader
  rcases loader.getSettings_cases with ⟨settings, uses⟩ | ⟨-, failure, log, failed⟩
  · obtain ⟨log, found⟩ := getSettings_of_uses uses
    rw [found]
    exact ⟨rfl, rfl, rfl, rfl⟩
  · rw [failed]
    exact ⟨rfl, rfl, rfl, rfl⟩

/-- Making settings the active ones. -/
theorem install (settings : Settings) :
    Modest (modify fun loader => { loader with settings := some settings }) :=
  .modify fun _ => ⟨rfl, rfl, rfl, rfl⟩

protected theorem configure (settings : Settings) : Modest (configure settings) := by
  unfold Loader.configure
  refine .bind .get fun loader => ?_
  cases loader.library with
  | none => exact install settings
  | some library =>
      refine .bind .getSettings fun current => ?_
      cases settings.samePlace current with
      | true => exact install settings
      | false => exact .bind (.throw _) fun _ => install settings

protected theorem appendArgument (argument : Datum) : Modest (appendArgument argument) := by
  unfold Loader.appendArgument
  refine .bind .getSettings fun settings => ?_
  cases settings.appendArguments [argument] with
  | error failure => exact .throw failure
  | ok extended => exact install extended

end Modest

/-- Asking for the library gives the library, or fails as looking for it does. -/
theorem library_outcome (given : List Nat) (loader : Loader) :
    outcome (action given .library) loader =
      ((outcome currentLibrary loader).1.map fun library =>
          .library library.registered ((given ++ [library.serial]).idxOf library.serial),
        (outcome currentLibrary loader).2) := by
  unfold action
  dsimp only
  rw [outcome_bind]
  rcases outcome currentLibrary loader with ⟨answer, after⟩
  cases answer <;> rfl

/-- Only asking for the library touches it. -/
theorem action_modest (given : List Nat) {step : Step} (other : step ≠ .library) :
    Modest (action given step) := by
  cases step with
  | library => exact absurd rfl other
  | getSettings => exact .bind .getSettings fun settings => .pure _
  | appendArgument argument => exact .bind (.appendArgument argument) fun _ => .pure _
  | changeFinder change =>
      exact .bind (.modify fun _ => ⟨rfl, rfl, rfl, rfl⟩) fun _ => .pure _
  | configure datum =>
      unfold action
      dsimp only
      cases Settings.ofDatum datum with
      | error failure => exact .bind (.throw failure) fun _ => .pure _
      | ok settings => exact .bind (.configure settings) fun _ => .pure _
  | setVariables entries =>
      refine .bind (.forM (fun entry => .bind .get fun loader => ?_) entries) fun _ => .pure _
      cases loader.environment.set entry.1 entry.2 with
      | error failure => exact .throw failure
      | ok environment => exact .modify fun _ => ⟨rfl, rfl, rfl, rfl⟩

section Answers

variable {loader : Loader}

theorem answer_of_bind_pure {α β : Type} {action : Action α} {give : α → β} {answer : β}
    (answered : (outcome (action >>= fun value => pure (give value)) loader).1 = .ok answer) :
    ∃ value, answer = give value := by
  rw [outcome_bind] at answered
  rcases reached : outcome action loader with ⟨failure | value, after⟩
  all_goals rw [reached] at answered
  · cases answered
  · cases answered
    exact ⟨value, rfl⟩

/-- Only asking for the library is answered by one. -/
theorem eq_library_of_answer {given : List Nat} {step : Step} {registered first : Nat}
    (answered : (outcome (action given step) loader).1 = .ok (.library registered first)) :
    step = .library := by
  cases step with
  | library => rfl
  | getSettings => cases (answer_of_bind_pure answered).choose_spec
  | appendArgument argument => cases (answer_of_bind_pure answered).choose_spec
  | setVariables entries => cases (answer_of_bind_pure answered).choose_spec
  | changeFinder change => cases answered
  | configure datum =>
      unfold action at answered
      dsimp only at answered
      cases spelled : Settings.ofDatum datum with
      | error failure =>
          rw [spelled] at answered
          cases answered
      | ok settings =>
          rw [spelled] at answered
          cases (answer_of_bind_pure answered).choose_spec

end Answers

/-- The program without the calls and records of earlier steps. -/
def rested (loader : Loader) : Loader := { loader with calls := [], log := [] }

theorem step_eq (loader : Loader) (given : List Nat) (step : Step) :
    loader.step given step =
      ((outcome (action given step) loader.rested).2,
        ⟨(outcome (action given step) loader.rested).1,
          (outcome (action given step) loader.rested).2.calls,
          (outcome (action given step) loader.rested).2.log⟩) :=
  rfl

end Loader

/-- A program in the course of a run, with the serials of the libraries that it was given. -/
structure Course where
  /-- The program. -/
  loader : Loader
  /-- The serials of the libraries given so far. -/
  given : List Nat

namespace Course

/-- The start of a run. -/
def start (reader : Yaml.Reader) (finder : Finder) (storage : Storage) : Course :=
  ⟨.start reader finder storage, []⟩

/-- The result of the next step. -/
def result (course : Course) (step : Loader.Step) : Loader.Result :=
  (course.loader.step course.given step).2

/-- The run after one more step. -/
def next (course : Course) (step : Loader.Step) : Course :=
  let after := (course.loader.step course.given step).1
  ⟨after,
    match (course.result step).answer, after.library with
    | .ok (.library _ _), some library => course.given ++ [library.serial]
    | _, _ => course.given⟩

/-- The run after more steps. -/
def after (course : Course) (steps : List Loader.Step) : Course := steps.foldl next course

/-- The results of more steps. -/
def results (course : Course) (steps : List Loader.Step) : List Loader.Result :=
  course.loader.steps course.given steps

@[simp] theorem after_nil (course : Course) : course.after [] = course := rfl

@[simp] theorem after_cons (course : Course) (step : Loader.Step) (steps : List Loader.Step) :
    course.after (step :: steps) = (course.next step).after steps := rfl

theorem after_append (course : Course) (earlier later : List Loader.Step) :
    course.after (earlier ++ later) = (course.after earlier).after later :=
  List.foldl_append

@[simp] theorem results_nil (course : Course) : course.results [] = [] := rfl

@[simp] theorem results_cons (course : Course) (step : Loader.Step) (steps : List Loader.Step) :
    course.results (step :: steps) = course.result step :: (course.next step).results steps :=
  rfl

theorem results_append (course : Course) (earlier later : List Loader.Step) :
    course.results (earlier ++ later) =
      course.results earlier ++ (course.after earlier).results later := by
  induction earlier generalizing course with
  | nil => rfl
  | cons step earlier rest => simp [rest]

variable {course : Course} {library : Opened}

theorem next_loader (course : Course) (step : Loader.Step) :
    (course.next step).loader =
      (Loader.outcome (Loader.action course.given step) course.loader.rested).2 := rfl

theorem result_eq (course : Course) (step : Loader.Step) :
    course.result step =
      ⟨(Loader.outcome (Loader.action course.given step) course.loader.rested).1,
        (course.next step).loader.calls, (course.next step).loader.log⟩ := rfl

theorem next_given (course : Course) (step : Loader.Step) :
    (course.next step).given =
      match (course.result step).answer, (course.next step).loader.library with
      | .ok (.library _ _), some library => course.given ++ [library.serial]
      | _, _ => course.given := rfl

/-- Steps other than asking for the library give none. -/
theorem next_given_of_other (course : Course) {step : Loader.Step} (other : step ≠ .library) :
    (course.next step).given = course.given := by
  rw [next_given]
  split
  next registered first library answered present =>
    exact absurd (Loader.eq_library_of_answer answered) other
  next => rfl

theorem next_untouched (course : Course) {step : Loader.Step} (other : step ≠ .library) :
    Loader.Untouched course.loader.rested (course.next step).loader :=
  Loader.action_modest course.given other course.loader.rested

section Asking

variable {answer : Except Failure Opened} {after : Loader}

/-- What is given by asking for the library, from what looking for it gives. -/
theorem result_of_asking
    (asked : Loader.outcome Loader.currentLibrary course.loader.rested = (answer, after)) :
    course.result .library =
      ⟨answer.map fun library => .library library.registered
        ((course.given ++ [library.serial]).idxOf library.serial), after.calls, after.log⟩ := by
  rw [result_eq, next_loader, Loader.library_outcome, asked]

theorem next_of_asking
    (asked : Loader.outcome Loader.currentLibrary course.loader.rested = (answer, after)) :
    (course.next .library).loader = after := by
  rw [next_loader, Loader.library_outcome, asked]

/-- Failing to find the library gives none. -/
theorem given_of_failing {failure : Failure}
    (asked : Loader.outcome Loader.currentLibrary course.loader.rested = (.error failure, after)) :
    (course.next .library).given = course.given := by
  rw [next_given, result_of_asking asked]
  rfl

/-- Finding the library gives it. -/
theorem given_of_finding
    (asked : Loader.outcome Loader.currentLibrary course.loader.rested = (.ok library, after))
    (present : after.library = some library) :
    (course.next .library).given = course.given ++ [library.serial] := by
  rw [next_given, result_of_asking asked, next_of_asking asked, present]
  rfl

end Asking

/-- Asking for a library when there is none. -/
theorem asked_of_absent (absent : course.loader.library = none) :
    ∃ answer after, Loader.outcome Loader.currentLibrary course.loader.rested = (answer, after) ∧
      Loader.Asked course.loader.rested answer after :=
  ⟨_, _, rfl, Loader.currentLibrary_asked absent⟩

/-- Asking for a library that is loaded only looks it up. -/
theorem asked_of_loaded (present : course.loader.library = some library) :
    Loader.outcome Loader.currentLibrary course.loader.rested =
      (.ok library, course.loader.rested) :=
  Loader.currentLibrary_of_loaded present

end Course
end Library
end Custody
