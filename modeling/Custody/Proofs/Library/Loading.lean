import Custody.Proofs.Library.Attempts
import Mathlib.Logic.Relation

/-!
# Loading fixes the library and its place

The first success in loading fixes the library, and from then on the active settings keep
naming its place.  Attempts that fail leave no library and keep the active settings, and the
environment is not read again once there are settings.  All this holds along every run from
the start of a program.
-/

namespace Custody

namespace Datum

/-- What is no number has no number in common with anything. -/
theorem not_sameNumber (found : Option Int) : ¬ (found.isSome && found = none) = true := by
  cases found <;> simp

/-- A text, or the absent value, has the key of nothing else. -/
theorem eq_of_sameKey {datum other : Datum}
    (plain : (∃ value, other = .text value) ∨ other = .null)
    (same : datum.sameKey other = true) : datum = other := by
  unfold sameKey at same
  split at same
  · rfl
  · exact congrArg text (of_decide_eq_true same)
  iterate 4 rcases plain with ⟨value, spelled⟩ | spelled <;> cases spelled
  · rcases plain with ⟨value, rfl⟩ | rfl <;> exact absurd same (not_sameNumber _)

/-- A text, or the absent value, agrees with nothing else. -/
theorem eq_of_agrees {datum other : Datum}
    (plain : (∃ value, other = .text value) ∨ other = .null)
    (agrees : datum.agrees other = true) : datum = other := by
  refine eq_of_sameKey plain ?_
  rcases plain with ⟨value, rfl⟩ | rfl <;> cases datum <;> exact agrees

/-- A datum remains when it is only ever replaced by one that agrees with it. -/
def Remains : Datum → Datum → Prop := Relation.ReflTransGen fun before after => after.agrees before

namespace Remains

variable {first second third : Datum}

theorem refl (datum : Datum) : datum.Remains datum := Relation.ReflTransGen.refl

theorem trans (earlier : first.Remains second) (later : second.Remains third) :
    first.Remains third := Relation.ReflTransGen.trans earlier later

theorem of_agrees (agrees : second.agrees first) : first.Remains second := .single agrees

/-- A text that remains, or the absent value, is the same. -/
theorem eq_of_plain (plain : (∃ value, first = .text value) ∨ first = .null)
    (remains : first.Remains second) : second = first := by
  induction remains with
  | refl => rfl
  | tail _ agrees same => exact eq_of_agrees plain (same ▸ agrees)

end Remains
end Datum

namespace Settings

/-- Later settings name the place that earlier ones named.  A file or a directory that is a text,
or that is not named, is the same. -/
structure KeepsPlace (first later : Settings) : Prop where
  /-- The library remains. -/
  file : first.libraryFile.Remains later.libraryFile
  /-- The directory remains. -/
  path : first.libraryPath.Remains later.libraryPath
  /-- A library given by its name is the same. -/
  fileText : ∀ name, first.libraryFile = .text name → later.libraryFile = .text name
  /-- A directory given by its name is the same. -/
  pathText : ∀ name, first.libraryPath = .text name → later.libraryPath = .text name
  /-- A library that is not named stays so. -/
  fileNull : first.libraryFile = .null → later.libraryFile = .null
  /-- A directory that is not named stays so. -/
  pathNull : first.libraryPath = .null → later.libraryPath = .null

namespace KeepsPlace

variable {first second third : Settings}

theorem of_remains (file : first.libraryFile.Remains second.libraryFile)
    (path : first.libraryPath.Remains second.libraryPath) : first.KeepsPlace second where
  file := file
  path := path
  fileText name named := (file.eq_of_plain (.inl ⟨name, named⟩)).trans named
  pathText name named := (path.eq_of_plain (.inl ⟨name, named⟩)).trans named
  fileNull absent := (file.eq_of_plain (.inr absent)).trans absent
  pathNull absent := (path.eq_of_plain (.inr absent)).trans absent

theorem refl (settings : Settings) : settings.KeepsPlace settings :=
  .of_remains (.refl _) (.refl _)

theorem trans (earlier : first.KeepsPlace second) (later : second.KeepsPlace third) :
    first.KeepsPlace third :=
  .of_remains (earlier.file.trans later.file) (earlier.path.trans later.path)

theorem of_samePlace (same : second.samePlace first) : first.KeepsPlace second := by
  obtain ⟨file, path⟩ := Bool.and_eq_true_iff.mp same
  exact .of_remains (.of_agrees file) (.of_agrees path)

end KeepsPlace

/-- Adding arguments does not concern the place of the library. -/
theorem keepsPlace_of_appendArguments {settings extended : Settings} {arguments : List Datum}
    (added : settings.appendArguments arguments = .ok extended) : settings.KeepsPlace extended := by
  unfold appendArguments at added
  split at added
  · cases added
    exact .of_remains (.refl _) (.refl _)
  · cases added

end Settings

namespace Environment

/-- Sets variables in turn until one of them cannot be set. -/
def setAll : List (Text × Datum) → Environment → Except Failure Unit × Environment
  | [], environment => (.ok (), environment)
  | (name, value) :: entries, environment =>
      match environment.set name value with
      | .error failure => (.error failure, environment)
      | .ok environment => setAll entries environment

/-- Whether a change fails, and how, does not depend on the environment. -/
def Uniform (change : Environment → Except Failure Environment) : Prop :=
  (∃ failure, ∀ environment, change environment = .error failure) ∨
    ∀ environment, ∃ changed, change environment = .ok changed

/-- A test that does not look at the environment keeps a change uniform. -/
theorem Uniform.unless {condition : Prop} [Decidable condition] (failure : Failure)
    {change : Environment → Except Failure Environment} (uniform : Uniform change) :
    Uniform fun environment => if condition then .error failure else change environment := by
  by_cases holds : condition
  · exact .inl ⟨failure, fun _ => if_pos holds⟩
  · simpa only [if_neg holds] using uniform

/-- Whether a variable can be set does not depend on the other ones. -/
theorem uniform_set (name : Text) (value : Datum) :
    Uniform fun environment => environment.set name value := by
  refine .unless _ ?_
  cases value with
  | text text => exact .unless _ (.unless _ (.unless _ (.unless _ (.inr fun _ => ⟨_, rfl⟩))))
  | _ => exact .inl ⟨_, fun _ => rfl⟩

theorem setAll_same (entries : List (Text × Datum)) (left right : Environment) :
    (left.setAll entries).1 = (right.setAll entries).1 := by
  induction entries generalizing left right with
  | nil => rfl
  | cons entry entries rest =>
      rcases uniform_set entry.1 entry.2 with ⟨failure, failed⟩ | set
      · simp only [setAll, failed]
      · obtain ⟨left, leftSet⟩ := set left
        obtain ⟨right, rightSet⟩ := set right
        simp only [setAll, leftSet, rightSet]
        exact rest left right

end Environment

namespace Library
namespace Loader

variable {loader : Loader} {active : Settings}

/-- What a step answers and leaves when there are active settings. -/
def response (loader : Loader) (given : List Nat) (active : Settings) :
    Step → Except Failure Answer × Loader
  | .configure datum =>
      match Settings.ofDatum datum with
      | .error failure => (.error failure, loader)
      | .ok settings =>
          if loader.library.isSome && !settings.samePlace active then
            (.error (.configuration .locationFixed), loader)
          else (.ok .nothing, { loader with settings := some settings })
  | .getSettings => (.ok (.settings active), loader)
  | .appendArgument argument =>
      match active.appendArguments [argument] with
      | .error failure => (.error failure, loader)
      | .ok extended => (.ok .nothing, { loader with settings := some extended })
  | .setVariables entries =>
      let (answer, environment) := loader.environment.setAll entries
      (answer.map fun _ => .nothing, { loader with environment := environment })
  | .changeFinder change =>
      (.ok .nothing,
        { loader with finder := { change loader.finder with loaded := loader.finder.loaded } })
  | .library =>
      let (answer, after) : Except Failure Opened × Loader :=
        match loader.library with
        | some library => (.ok library, loader)
        | none => loader.attempt active
      (answer.map fun library =>
        .library library.registered ((given ++ [library.serial]).idxOf library.serial), after)

theorem configure_of_active (settings : Settings) (isActive : loader.settings = some active) :
    outcome (configure settings) loader =
      if loader.library.isSome && !settings.samePlace active then
        (.error (.configuration .locationFixed), loader)
      else (.ok (), { loader with settings := some settings }) := by
  unfold configure
  rw [outcome_bind_of_ok (outcome_get loader)]
  cases present : loader.library.isSome with
  | false => rfl
  | true =>
      dsimp only
      rw [if_pos rfl, outcome_bind_of_ok (getSettings_of_active isActive)]
      cases settings.samePlace active <;> rfl

theorem appendArgument_of_active (argument : Datum) (isActive : loader.settings = some active) :
    outcome (appendArgument argument) loader =
      match active.appendArguments [argument] with
      | .error failure => (.error failure, loader)
      | .ok extended => (.ok (), { loader with settings := some extended }) := by
  unfold appendArgument
  rw [outcome_bind_of_ok (getSettings_of_active isActive)]
  cases active.appendArguments [argument] <;> rfl

/-- Setting variables one by one sets them all, up to the first that cannot be set. -/
theorem forM_outcome {each : Text × Datum → Action Unit}
    (sets : ∀ entry loader, outcome (each entry) loader =
      match loader.environment.set entry.1 entry.2 with
      | .error failure => (.error failure, loader)
      | .ok environment => (.ok (), { loader with environment := environment }))
    (entries : List (Text × Datum)) (loader : Loader) :
    outcome (entries.forM each) loader =
      ((loader.environment.setAll entries).1,
        { loader with environment := (loader.environment.setAll entries).2 }) := by
  induction entries generalizing loader with
  | nil => rfl
  | cons entry entries rest =>
      change outcome (each entry >>= fun _ => entries.forM each) loader = _
      rw [outcome_bind, sets]
      unfold Environment.setAll
      cases loader.environment.set entry.1 entry.2 with
      | error failure => rfl
      | ok environment => exact rest _

/-- The answer to a step with active settings, and the program after it. -/
theorem action_of_active (given : List Nat) (isActive : loader.settings = some active)
    (step : Step) : outcome (action given step) loader = loader.response given active step := by
  cases step with
  | configure datum =>
      unfold action response
      dsimp only
      cases Settings.ofDatum datum with
      | error failure => rfl
      | ok settings =>
          dsimp only
          rw [outcome_bind, configure_of_active settings isActive]
          cases loader.library.isSome && !settings.samePlace active <;> rfl
  | getSettings =>
      unfold action
      rw [outcome_bind_of_ok (getSettings_of_active isActive)]
      rfl
  | appendArgument argument =>
      unfold action response
      dsimp only
      rw [outcome_bind, appendArgument_of_active argument isActive]
      cases active.appendArguments [argument] <;> rfl
  | setVariables entries =>
      unfold action response
      dsimp only
      rw [outcome_bind, forM_outcome]
      · rcases loader.environment.setAll entries with ⟨answer, environment⟩
        cases answer <;> rfl
      · intro entry loader
        rw [outcome_bind_of_ok (outcome_get loader)]
        cases loader.environment.set entry.1 entry.2 <;> rfl
  | changeFinder change => rfl
  | library =>
      rw [library_outcome]
      unfold response
      rcases loader.library.eq_none_or_eq_some with absent | ⟨library, present⟩
      · rw [currentLibrary_of_active absent isActive, absent]
      · rw [currentLibrary_of_loaded present, present]

/-- With active settings the environment only matters to itself. -/
theorem response_environment (loader : Loader) (given : List Nat) (active : Settings)
    (environment : Environment) (step : Step) :
    ∃ changed, response { loader with environment := environment } given active step =
      ((loader.response given active step).1,
        { (loader.response given active step).2 with environment := changed }) := by
  obtain ⟨finder, former, storage, reader, settings, library, opened, calls, log⟩ := loader
  cases step with
  | configure datum =>
      refine ⟨environment, ?_⟩
      unfold response
      dsimp only
      cases Settings.ofDatum datum with
      | error failure => rfl
      | ok settings =>
          dsimp only
          cases library.isSome && !settings.samePlace active <;> rfl
  | getSettings => exact ⟨environment, rfl⟩
  | appendArgument argument =>
      refine ⟨environment, ?_⟩
      unfold response
      dsimp only
      cases active.appendArguments [argument] <;> rfl
  | setVariables entries =>
      refine ⟨(environment.setAll entries).2, ?_⟩
      unfold response
      dsimp only
      rw [Environment.setAll_same entries environment former]
  | changeFinder change => exact ⟨environment, rfl⟩
  | library =>
      refine ⟨environment, ?_⟩
      unfold response
      dsimp only
      cases library with
      | some library => rfl
      | none =>
          unfold attempt
          dsimp only
          cases finder.refusal.isEmpty with
          | false => rfl
          | true => cases finder.obstacle.isEmpty <;> rfl

/-- Active settings stay active, and keep the place of a library that is loaded. -/
theorem response_settings (given : List Nat) (isActive : loader.settings = some active)
    (step : Step) :
    ∃ later, (loader.response given active step).2.settings = some later ∧
      (loader.library.isSome → active.KeepsPlace later) := by
  have same : loader.settings = some active ∧ (loader.library.isSome → active.KeepsPlace active) :=
    ⟨isActive, fun _ => .refl active⟩
  cases step with
  | configure datum =>
      unfold response
      dsimp only
      cases Settings.ofDatum datum with
      | error failure => exact ⟨active, same⟩
      | ok settings =>
          dsimp only
          split
          next => exact ⟨active, same⟩
          next accepted =>
            refine ⟨settings, rfl, fun present => .of_samePlace ?_⟩
            simpa [present] using accepted
  | getSettings => exact ⟨active, same⟩
  | appendArgument argument =>
      unfold response
      dsimp only
      cases added : active.appendArguments [argument] with
      | error failure => exact ⟨active, same⟩
      | ok extended =>
          exact ⟨extended, rfl, fun _ => Settings.keepsPlace_of_appendArguments added⟩
  | setVariables entries => exact ⟨active, same⟩
  | changeFinder change => exact ⟨active, same⟩
  | library =>
      unfold response
      dsimp only
      rcases loader.library.eq_none_or_eq_some with absent | ⟨library, present⟩
      · refine ⟨active, ?_, same.2⟩
        rw [absent]
        unfold attempt
        dsimp only
        cases loader.finder.refusal.isEmpty with
        | false => rfl
        | true => cases loader.finder.obstacle.isEmpty <;> rfl
      · rw [present]
        exact ⟨active, isActive, fun _ => .refl active⟩

end Loader

namespace Course

variable {course left right : Course} {active : Settings} {library : Opened}

/-- Active settings stay active along a step, and keep the place of a loaded library. -/
theorem next_settings (isActive : course.loader.settings = some active) (step : Loader.Step) :
    ∃ later, (course.next step).loader.settings = some later ∧
      (course.loader.library.isSome → active.KeepsPlace later) := by
  have isActive : course.loader.rested.settings = some active := isActive
  rw [next_loader, Loader.action_of_active course.given isActive]
  exact Loader.response_settings course.given isActive step

/-- What holds at every moment of a run: a loaded library is fully registered and has settings
that go with it, and all libraries that were given are the loaded one. -/
structure Regular (course : Course) : Prop where
  /-- A loaded library has settings. -/
  settled : ∀ library, course.loader.library = some library →
    ∃ settings, course.loader.settings = some settings
  /-- All symbols of a loaded library were looked up. -/
  registered : ∀ library, course.loader.library = some library →
    library.registered = symbols.length
  /-- No library but the loaded one was given. -/
  given : ∀ serial ∈ course.given,
    ∃ library, course.loader.library = some library ∧ library.serial = serial

namespace Regular

theorem of_absent (absent : course.loader.library = none) (none : course.given = []) :
    course.Regular where
  settled _ present := by cases absent.symm.trans present
  registered _ present := by cases absent.symm.trans present
  given _ among := by simp [none] at among

theorem start (reader : Yaml.Reader) (finder : Finder) (storage : Storage) :
    (Course.start reader finder storage).Regular := .of_absent rfl rfl

/-- Before a library is loaded none was given. -/
theorem given_eq_nil (regular : course.Regular) (absent : course.loader.library = none) :
    course.given = [] := by
  rw [List.eq_nil_iff_forall_not_mem]
  intro serial among
  obtain ⟨library, present, -⟩ := regular.given serial among
  rw [absent] at present
  cases present

/-- The loaded library is the first that was given. -/
theorem idxOf_eq_zero (regular : course.Regular) (present : course.loader.library = some library) :
    (course.given ++ [library.serial]).idxOf library.serial = 0 := by
  cases given : course.given with
  | nil => simp
  | cons serial serials =>
      obtain ⟨other, loaded, same⟩ := regular.given serial (by simp [given])
      rw [present] at loaded
      cases loaded
      simp [same]

/-- A library that is loaded stays the one, whatever step is taken. -/
theorem next_of_loaded (regular : course.Regular) (present : course.loader.library = some library)
    (step : Loader.Step) :
    (course.next step).Regular ∧ (course.next step).loader.library = some library ∧
      (course.next step).loader.opened = course.loader.opened ∧
      (course.result step).calls = [] := by
  obtain ⟨active, isActive⟩ := regular.settled library present
  obtain ⟨later, stays, -⟩ := next_settings isActive step
  suffices kept : (course.next step).loader.library = some library ∧
      (course.next step).loader.opened = course.loader.opened ∧
      (course.result step).calls = [] ∧
      ∀ serial ∈ (course.next step).given, serial ∈ course.given ∨ serial = library.serial by
    obtain ⟨same, opened, calls, given⟩ := kept
    refine ⟨⟨fun _ _ => ⟨later, stays⟩, fun other loaded => ?_, fun serial among => ?_⟩,
      same, opened, calls⟩
    · rw [same, ← present] at loaded
      exact regular.registered other loaded
    · refine ⟨library, same, ?_⟩
      rcases given serial among with earlier | latest
      · obtain ⟨other, loaded, serialOf⟩ := regular.given serial earlier
        rw [present] at loaded
        cases loaded
        exact serialOf
      · exact latest.symm
  by_cases asks : step = .library
  · subst asks
    have asked := asked_of_loaded present
    rw [next_of_asking asked, result_of_asking asked, given_of_finding asked present]
    refine ⟨present, rfl, rfl, fun serial among => ?_⟩
    simpa using among
  · have untouched := course.next_untouched asks
    rw [course.next_given_of_other asks]
    exact ⟨untouched.library.trans present, untouched.opened, untouched.calls,
      fun serial among => .inl among⟩

/-- Every step keeps a run regular. -/
theorem next (regular : course.Regular) (step : Loader.Step) : (course.next step).Regular := by
  rcases course.loader.library.eq_none_or_eq_some with absent | ⟨library, present⟩
  · have none := regular.given_eq_nil absent
    by_cases asks : step = .library
    · subst asks
      obtain ⟨answer, after, asked, how⟩ := asked_of_absent absent
      have reached := next_of_asking asked
      cases answer with
      | error failure =>
          refine .of_absent ?_ ((given_of_failing asked).trans none)
          rw [reached]
          exact how.library absent
      | ok library =>
          have present : after.library = some library := how.library absent
          obtain ⟨settings, log, registered, -, rfl⟩ := how.found rfl
          refine ⟨fun _ _ => ⟨settings, ?_⟩, fun other loaded => ?_, fun serial among => ?_⟩
          · rw [reached]
            rfl
          · rw [reached, present] at loaded
            cases loaded
            rw [Loader.eq_of_registration registered]
          · rw [given_of_finding asked present, none] at among
            refine ⟨library, reached ▸ present, ?_⟩
            simpa [eq_comm] using among
    · exact .of_absent ((course.next_untouched asks).library.trans absent)
        ((course.next_given_of_other asks).trans none)
  · exact (regular.next_of_loaded present step).1

theorem after (regular : course.Regular) (steps : List Loader.Step) :
    (course.after steps).Regular := by
  induction steps generalizing course with
  | nil => exact regular
  | cons step steps rest => exact rest (regular.next step)

/-- A library that is loaded stays the one along all later steps. -/
theorem after_of_loaded (regular : course.Regular)
    (present : course.loader.library = some library) (steps : List Loader.Step) :
    (course.after steps).loader.library = some library ∧
      (course.after steps).loader.opened = course.loader.opened := by
  induction steps generalizing course with
  | nil => exact ⟨present, rfl⟩
  | cons step steps rest =>
      obtain ⟨regular, present, opened, -⟩ := regular.next_of_loaded present step
      rw [← opened]
      exact rest regular present

/-- The place of a library that is loaded stays the one along all later steps. -/
theorem after_settings (regular : course.Regular)
    (present : course.loader.library = some library)
    (isActive : course.loader.settings = some active) (steps : List Loader.Step) :
    ∃ later, (course.after steps).loader.settings = some later ∧ active.KeepsPlace later := by
  induction steps generalizing course active with
  | nil => exact ⟨active, isActive, .refl active⟩
  | cons step steps rest =>
      obtain ⟨middle, stays, keeps⟩ := next_settings isActive step
      obtain ⟨regular, stillPresent, -⟩ := regular.next_of_loaded present step
      obtain ⟨later, ends, keepsOn⟩ := rest regular stillPresent stays
      exact ⟨later, ends, (keeps (by simp [present])).trans keepsOn⟩

end Regular

/-- Two courses that differ at most in the environment, and in the calls and records of
steps that are over. -/
def Alike (left right : Course) : Prop :=
  right.given = left.given ∧
    ∃ environment, right.loader.rested = { left.loader.rested with environment := environment }

theorem Alike.settings (alike : left.Alike right) :
    right.loader.settings = left.loader.settings := by
  obtain ⟨-, environment, same⟩ := alike
  have kept := congrArg Loader.settings same
  exact kept

/-- With active settings, courses that are alike take a step alike. -/
theorem Alike.next (alike : left.Alike right) (isActive : left.loader.settings = some active)
    (step : Loader.Step) :
    (left.next step).Alike (right.next step) ∧ right.result step = left.result step := by
  have rightActive : right.loader.rested.settings = some active := alike.settings.trans isActive
  have leftActive : left.loader.rested.settings = some active := isActive
  obtain ⟨given, environment, same⟩ := alike
  obtain ⟨changed, responds⟩ :=
    left.loader.rested.response_environment left.given active environment step
  rw [← same] at responds
  have acts := Loader.action_of_active right.given rightActive step
  rw [given, responds, ← Loader.action_of_active left.given leftActive step] at acts
  have reached : (right.next step).loader =
      { (left.next step).loader with environment := changed } := by
    rw [next_loader, given, acts]
    rfl
  have results : right.result step = left.result step := by
    rw [result_eq, result_eq, reached, given, acts]
  refine ⟨⟨?_, changed, ?_⟩, results⟩
  · rw [next_given, next_given, results, reached, given]
  · rw [reached]
    rfl

/-- With active settings, courses that are alike stay so and give the same results. -/
theorem Alike.after (alike : left.Alike right) (isActive : left.loader.settings = some active)
    (steps : List Loader.Step) :
    (left.after steps).Alike (right.after steps) ∧ right.results steps = left.results steps := by
  induction steps generalizing left right active with
  | nil => exact ⟨alike, rfl⟩
  | cons step steps rest =>
      obtain ⟨alike, same⟩ := alike.next isActive step
      obtain ⟨later, stays, -⟩ := next_settings isActive step
      obtain ⟨alike, sameRest⟩ := rest alike stays
      exact ⟨alike, by rw [results_cons, results_cons, same, sameRest]⟩

/-- With active settings, a change of the environment changes nothing else. -/
theorem alike_setVariables (isActive : course.loader.settings = some active)
    (entries : List (Text × Datum)) : course.Alike (course.next (.setVariables entries)) := by
  have isActive : course.loader.rested.settings = some active := isActive
  refine ⟨course.next_given_of_other (by simp), (course.loader.environment.setAll entries).2, ?_⟩
  rw [next_loader, Loader.action_of_active course.given isActive]
  rfl

/-- How loading fixes the library and its place, at one moment of a run and after it. -/
structure FixesLibrary (course : Course) : Prop where
  /-- The first success opens one library and looks up all its symbols. -/
  opens : ∀ registered first, course.loader.library = none →
    (course.result .library).answer = .ok (.library registered first) →
    registered = symbols.length ∧ first = 0 ∧
      (course.next .library).loader.library = some ⟨course.loader.opened, symbols.length⟩ ∧
      (course.next .library).loader.opened = course.loader.opened + 1 ∧
      ∃ preparations name, (course.result .library).calls = preparations ++ [.openLibrary name] ∧
        ∀ other, .openLibrary other ∉ preparations
  /-- From then on that library is given, without any call. -/
  keeps : ∀ library, course.loader.library = some library → ∀ later,
    (course.after later).loader.library = some library ∧
      (course.after later).loader.opened = course.loader.opened ∧
      (course.after later).result .library = ⟨.ok (.library symbols.length 0), [], []⟩
  /-- From then on the active settings name the same place. -/
  place : ∀ library, course.loader.library = some library →
    ∃ active, course.loader.settings = some active ∧ ∀ later, ∃ current,
      (course.after later).loader.settings = some current ∧ active.KeepsPlace current
  /-- Settings that name another place are refused and leave the active ones as they were. -/
  configures : ∀ library active datum settings, course.loader.library = some library →
    course.loader.settings = some active → Settings.ofDatum datum = .ok settings →
    settings.samePlace active = true ∧ active.KeepsPlace settings ∧
        (course.result (.configure datum)).answer = .ok .nothing ∧
        (course.next (.configure datum)).loader.settings = some settings ∨
      settings.samePlace active = false ∧
        (course.result (.configure datum)).answer = .error (.configuration .locationFixed) ∧
        (course.next (.configure datum)).loader.settings = some active
  /-- A failure leaves no library, and the active settings as they were. -/
  fails : ∀ failure, (course.result .library).answer = .error failure →
    (course.next .library).loader.library = none ∧
      ∀ active, course.loader.settings = some active →
        (course.next .library).loader.settings = some active
  /-- With settings, a finder that does not refuse and a system that does not either, asking for
  the library opens one, which is given exactly if it lacks no symbol. -/
  loads : ∀ settings, course.loader.library = none → course.loader.Uses settings →
    course.loader.finder.refusal.isEmpty = true → course.loader.finder.obstacle.isEmpty = true →
    (course.next .library).loader.opened = course.loader.opened + 1 ∧
      (course.result .library).calls = course.loader.told settings ++
        course.loader.finder.searching ++ [.openLibrary course.loader.finder.name] ∧
      ((course.result .library).answer = .ok (.library symbols.length 0) ↔
        ∀ symbol ∈ symbols, symbol ∉ course.loader.finder.missing)
  /-- If the finder or the system refuses, no library is opened, and the failure is theirs. -/
  refuses : ∀ settings, course.loader.library = none → course.loader.Uses settings →
    (course.loader.finder.refusal.isEmpty = false →
      (course.next .library).loader.opened = course.loader.opened ∧
        (course.result .library).answer = .error (.loading course.loader.finder.refusal)) ∧
    (course.loader.finder.refusal.isEmpty = true →
      course.loader.finder.obstacle.isEmpty = false →
      (course.next .library).loader.opened = course.loader.opened ∧
        (course.result .library).answer = .error (.unopened course.loader.finder.obstacle))
  /-- An opened library is refused exactly when it lacks a symbol, and the first one is named. -/
  registers : (course.next .library).loader.opened ≠ course.loader.opened →
    ((∃ failure, (course.result .library).answer = .error failure) ↔
        ∃ symbol ∈ symbols, symbol ∈ course.loader.finder.missing) ∧
      ∀ failure, (course.result .library).answer = .error failure →
        ∃ front symbol rest, failure = .missingSymbol symbol ∧ symbols = front ++ symbol :: rest ∧
          symbol ∈ course.loader.finder.missing ∧
          ∀ other ∈ front, other ∉ course.loader.finder.missing
  /-- Once there are settings, no change of the environment has an effect on them. -/
  environment : ∀ active, course.loader.settings = some active → ∀ entries later,
    ((course.next (.setVariables entries)).after later).loader.settings =
        (course.after later).loader.settings ∧
      (course.next (.setVariables entries)).results later = course.results later

namespace Regular

variable {failure : Failure}

theorem opens (regular : course.Regular) {registered first : Nat}
    (absent : course.loader.library = none)
    (answered : (course.result .library).answer = .ok (.library registered first)) :
    registered = symbols.length ∧ first = 0 ∧
      (course.next .library).loader.library = some ⟨course.loader.opened, symbols.length⟩ ∧
      (course.next .library).loader.opened = course.loader.opened + 1 ∧
      ∃ preparations name, (course.result .library).calls = preparations ++ [.openLibrary name] ∧
        ∀ other, .openLibrary other ∉ preparations := by
  obtain ⟨answer, after, asked, how⟩ := asked_of_absent absent
  rw [result_of_asking asked] at answered ⊢
  rw [next_of_asking asked]
  cases answer with
  | error failure => cases answered
  | ok library =>
      obtain ⟨settings, log, registration, -, rfl⟩ := how.found rfl
      obtain rfl := Loader.eq_of_registration registration
      rw [regular.given_eq_nil absent] at answered
      simp only [Except.map, List.nil_append, List.idxOf_cons_self] at answered
      cases answered
      refine ⟨rfl, rfl, how.library absent, rfl, _, _, rfl, fun other => ?_⟩
      simp [Loader.rested, Loader.not_openLibrary_told, Loader.not_openLibrary_searching]

theorem keeps (regular : course.Regular) (present : course.loader.library = some library)
    (later : List Loader.Step) :
    (course.after later).loader.library = some library ∧
      (course.after later).loader.opened = course.loader.opened ∧
      (course.after later).result .library = ⟨.ok (.library symbols.length 0), [], []⟩ := by
  obtain ⟨still, opened⟩ := regular.after_of_loaded present later
  have regular := regular.after later
  refine ⟨still, opened, ?_⟩
  rw [result_of_asking (asked_of_loaded still)]
  simp only [Except.map, regular.registered library still, regular.idxOf_eq_zero still]
  rfl

theorem configures (present : course.loader.library = some library)
    (isActive : course.loader.settings = some active) {datum : Datum} {settings : Settings}
    (spelled : Settings.ofDatum datum = .ok settings) :
    settings.samePlace active = true ∧ active.KeepsPlace settings ∧
        (course.result (.configure datum)).answer = .ok .nothing ∧
        (course.next (.configure datum)).loader.settings = some settings ∨
      settings.samePlace active = false ∧
        (course.result (.configure datum)).answer = .error (.configuration .locationFixed) ∧
        (course.next (.configure datum)).loader.settings = some active := by
  have restedActive : course.loader.rested.settings = some active := isActive
  have responds : Loader.response course.loader.rested course.given active (.configure datum) =
      if !settings.samePlace active then
        (.error (.configuration .locationFixed), course.loader.rested)
      else (.ok .nothing, { course.loader.rested with settings := some settings }) := by
    have restedPresent : course.loader.rested.library = some library := present
    simp only [Loader.response, spelled, restedPresent, Option.isSome_some, Bool.true_and]
  rw [result_eq, next_loader, Loader.action_of_active course.given restedActive, responds]
  cases same : settings.samePlace active with
  | true => exact .inl ⟨rfl, .of_samePlace same, rfl, rfl⟩
  | false => exact .inr ⟨rfl, rfl, restedActive⟩

theorem fails (failed : (course.result .library).answer = .error failure) :
    (course.next .library).loader.library = none ∧
      ∀ active, course.loader.settings = some active →
        (course.next .library).loader.settings = some active := by
  rcases course.loader.library.eq_none_or_eq_some with absent | ⟨library, present⟩
  · obtain ⟨answer, after, asked, how⟩ := asked_of_absent absent
    rw [result_of_asking asked] at failed
    rw [next_of_asking asked]
    cases answer with
    | error failure => exact ⟨how.library absent, fun active isActive => how.settings isActive⟩
    | ok library => cases failed
  · rw [result_of_asking (asked_of_loaded present)] at failed
    cases failed

/-- Asking for the library with settings in use is an attempt to load it with them. -/
theorem exists_attempt (absent : course.loader.library = none) {settings : Settings}
    (uses : course.loader.Uses settings) :
    ∃ log, Loader.outcome Loader.currentLibrary course.loader.rested =
      Loader.attempt { course.loader.rested with settings := some settings, log := log } settings :=
  Loader.currentLibrary_of_uses absent uses

theorem loads (regular : course.Regular) {settings : Settings}
    (absent : course.loader.library = none) (uses : course.loader.Uses settings)
    (willing : course.loader.finder.refusal.isEmpty = true)
    (openable : course.loader.finder.obstacle.isEmpty = true) :
    (course.next .library).loader.opened = course.loader.opened + 1 ∧
      (course.result .library).calls = course.loader.told settings ++
        course.loader.finder.searching ++ [.openLibrary course.loader.finder.name] ∧
      ((course.result .library).answer = .ok (.library symbols.length 0) ↔
        ∀ symbol ∈ symbols, symbol ∉ course.loader.finder.missing) := by
  obtain ⟨log, asked⟩ := exists_attempt absent uses
  have asked := asked.trans (Loader.attempt_of_openable willing openable)
  rw [next_of_asking asked, result_of_asking asked, regular.given_eq_nil absent]
  refine ⟨rfl, rfl, ?_⟩
  rw [← Loader.registration_eq_ok_iff]
  change Except.map _ course.loader.registration = _ ↔ _
  cases registered : course.loader.registration with
  | error failure => exact ⟨nofun, nofun⟩
  | ok library =>
      obtain rfl := Loader.eq_of_registration registered
      simp only [Except.map, List.nil_append, List.idxOf_cons_self]

theorem refuses {settings : Settings} (absent : course.loader.library = none)
    (uses : course.loader.Uses settings) :
    (course.loader.finder.refusal.isEmpty = false →
      (course.next .library).loader.opened = course.loader.opened ∧
        (course.result .library).answer = .error (.loading course.loader.finder.refusal)) ∧
    (course.loader.finder.refusal.isEmpty = true →
      course.loader.finder.obstacle.isEmpty = false →
      (course.next .library).loader.opened = course.loader.opened ∧
        (course.result .library).answer = .error (.unopened course.loader.finder.obstacle)) := by
  obtain ⟨log, asked⟩ := exists_attempt absent uses
  constructor
  · intro refusal
    have asked := asked.trans (Loader.attempt_of_refusal refusal)
    rw [next_of_asking asked, result_of_asking asked]
    exact ⟨rfl, rfl⟩
  · intro willing obstacle
    have asked := asked.trans (Loader.attempt_of_obstacle willing obstacle)
    rw [next_of_asking asked, result_of_asking asked]
    exact ⟨rfl, rfl⟩

theorem registers (opened : (course.next .library).loader.opened ≠ course.loader.opened) :
    ((∃ failure, (course.result .library).answer = .error failure) ↔
        ∃ symbol ∈ symbols, symbol ∈ course.loader.finder.missing) ∧
      ∀ failure, (course.result .library).answer = .error failure →
        ∃ front symbol rest, failure = .missingSymbol symbol ∧ symbols = front ++ symbol :: rest ∧
          symbol ∈ course.loader.finder.missing ∧
          ∀ other ∈ front, other ∉ course.loader.finder.missing := by
  rcases course.loader.library.eq_none_or_eq_some with absent | ⟨library, present⟩
  · obtain ⟨answer, after, asked, how⟩ := asked_of_absent absent
    rw [next_of_asking asked] at opened
    rw [result_of_asking asked]
    have answered : answer = course.loader.registration := how.registration opened
    cases answer with
    | error failure =>
        obtain ⟨front, symbol, rest, named, split, missing, present⟩ :=
          Loader.registration_eq_error answered.symm
        refine ⟨⟨fun _ => ⟨symbol, by simp [split], missing⟩, fun _ => ⟨failure, rfl⟩⟩,
          fun other failed => ?_⟩
        cases failed
        exact ⟨front, symbol, rest, named, split, missing, present⟩
    | ok library =>
        obtain rfl := Loader.eq_of_registration answered.symm
        have present := Loader.registration_eq_ok_iff.mp answered.symm
        refine ⟨⟨fun failed => ?_, fun lacks => ?_⟩, fun failure failed => by cases failed⟩
        · obtain ⟨failure, failed⟩ := failed
          cases failed
        · obtain ⟨symbol, among, missing⟩ := lacks
          exact absurd missing (present symbol among)
  · rw [next_of_asking (asked_of_loaded present)] at opened
    exact absurd rfl opened

theorem fixesLibrary (regular : course.Regular) : course.FixesLibrary where
  opens _ _ := regular.opens
  keeps _ := regular.keeps
  place library present := by
    obtain ⟨active, isActive⟩ := regular.settled library present
    exact ⟨active, isActive, regular.after_settings present isActive⟩
  configures _ _ _ _ present isActive spelled := configures present isActive spelled
  fails _ := fails
  loads _ := regular.loads
  refuses _ := refuses
  registers := registers
  environment active isActive entries later := by
    obtain ⟨alike, same⟩ := (alike_setVariables isActive entries).after isActive later
    exact ⟨alike.settings, same⟩

end Regular

/-- At every moment of every run, loading fixes the library and its place. -/
theorem start_fixesLibrary (reader : Yaml.Reader) (finder : Finder) (storage : Storage)
    (earlier : List Loader.Step) :
    ((start reader finder storage).after earlier).FixesLibrary :=
  ((Regular.start reader finder storage).after earlier).fixesLibrary

end Course
end Library
end Custody
