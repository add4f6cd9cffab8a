import Custody.Proofs.Scenario.Steps

/-!
# Misuse of handles

The library lists every use of a handle that was no longer good, because it or what
it was made from was given back or left unusable.  A run leaves that list empty
exactly if none of its steps misuses a handle.  Two kinds of steps can: a comparison
asks about a file on the right whose unit nobody has found to be open, and parsing
again asks for the name of a unit that the library has just left unusable.
-/

namespace Custody
namespace Scenario

open Facade

/-- Parsing again closes a unit only if the library could not parse it. -/
theorem status_ne_zero_of_reparse {session : Session} (valid : session.holdings.Valid)
    (tidy : session.Tidy) {names : Names} (anchored : names.Anchored session.made) {unit : Target}
    {unsaved : List UnsavedSource} {options : Option Datum}
    (misused : misuses names session (.reparse unit unsaved options) ≠ []) :
    session.library.reply.status ≠ 0 := by
  obtain ⟨tidyAfter, course, found⟩ := reparsands_runs valid anchored unit unsaved session rfl tidy
  rw [misuses] at misused
  rcases reached : (reparsands names unit unsaved).outcome session with ⟨result, after⟩
  rw [reached] at tidyAfter course found misused
  cases result with
  | error failure => exact absurd rfl misused
  | ok operands =>
      have afterValid := course.valid valid
      obtain ⟨_, reparsed, _⟩ :=
        parseAgain_ensures afterValid (found operands rfl) operands.2 options after rfl tidyAfter
      have sameReply : after.library.reply = session.library.reply := (course.faithful valid).reply
      dsimp only at misused
      split at misused
      · exact absurd rfl misused
      · next closed =>
          have opened : after.estate.isOpen operands.1 = true := by
            cases held : after.estate.handle? operands.1 with
            | none => exact absurd (by rw [held]; rfl) misused
            | some handle => exact Estate.isOpen_iff.mpr ⟨handle, held⟩
          rw [← sameReply]
          exact reparsed.status_ne_zero afterValid opened (Bool.eq_false_iff.mpr closed)

namespace State

variable {state : State}

/-- A step misuses a handle only when it compares values, or when it parses a unit again and the
library cannot. -/
theorem Sound.operation_of_misuses (sound : state.Sound) {step : Step}
    (misused : state.misuses step ≠ []) :
    (∃ left right, step.operation = .equal left right) ∨
      ∃ unit unsaved options, step.operation = .reparse unit unsaved options ∧
        step.reply.status ≠ 0 := by
  have valid : (state.facing step).holdings.Valid := sound.valid.answering step.reply
  unfold State.misuses at misused
  cases performed : step.operation with
  | equal left right => exact .inl ⟨left, right, rfl⟩
  | reparse unit unsaved options =>
      rw [performed] at misused
      exact .inr ⟨unit, unsaved, options, rfl,
        status_ne_zero_of_reparse valid sound.tidy sound.anchored misused⟩
  | _ =>
      rw [performed] at misused
      exact absurd rfl misused

/-- Steps misuse nothing exactly if each of them, in the state before it, misuses nothing. -/
theorem misusesIn_eq_nil_iff {steps : List Step} :
    state.misusesIn steps = [] ↔ ∀ earlier next later, steps = earlier ++ next :: later →
      (state.steps earlier).1.misuses next = [] := by
  induction steps generalizing state with
  | nil => simp [misusesIn]
  | cons first rest inductionHypothesis =>
      rw [misusesIn, List.append_eq_nil_iff, inductionHypothesis]
      constructor
      · rintro ⟨none, noneLater⟩ earlier next later split
        cases earlier with
        | nil =>
            obtain ⟨rfl, rfl⟩ := List.cons.inj split
            exact none
        | cons head earlier =>
            obtain ⟨rfl, rfl⟩ := List.cons.inj split
            exact noneLater earlier next later rfl
      · intro all
        exact ⟨all [] first rest rfl, fun earlier next later split =>
          all (first :: earlier) next later (congrArg (first :: ·) split)⟩

end State

/-- No run uses a handle that is no longer good, but for comparisons and for parsing again when
the library cannot: the uses are exactly those that the steps before them tell. -/
theorem steps_strays (script : Library.Script) (settings : Settings) (storage : Storage)
    (steps : List Step) :
    ((State.start script settings storage).steps steps).1.session.library.strays =
        (State.start script settings storage).misusesIn steps ∧
      (((State.start script settings storage).steps steps).1.session.library.strays = [] ↔
        ∀ earlier next later, steps = earlier ++ next :: later →
          ((State.start script settings storage).steps earlier).1.misuses next = []) ∧
      ∀ earlier next later, steps = earlier ++ next :: later →
        ((State.start script settings storage).steps earlier).1.misuses next ≠ [] →
          (∃ left right, next.operation = .equal left right) ∨
            ∃ unit unsaved options, next.operation = .reparse unit unsaved options ∧
              next.reply.status ≠ 0 := by
  have sound := State.start_sound script settings storage
  have listed := sound.strays_steps steps
  have all : ((State.start script settings storage).steps steps).1.session.library.strays =
      (State.start script settings storage).misusesIn steps := listed
  refine ⟨all, ?_, ?_⟩
  · rw [all]
    exact State.misusesIn_eq_nil_iff
  · intro earlier next later _ misused
    exact (sound.steps earlier).operation_of_misuses misused

/-- A library that can parse a unit with one file. -/
def oneFileScript : Library.Script :=
  ⟨[{ (default : Library.UnitModel) with
      files := [{ (default : SourceFile) with name := some "a.c".toUTF8.toList }] }], [], [], 0⟩

/-- Parsing the file, and giving the unit a name. -/
def parsingAs (name : Text) : Step :=
  ⟨.parseFile none (.text "a.c") ⟨some (.list []), [], .int 0⟩, {}, some name⟩

/-- Comparing a file of an open unit with a file of a closed one. -/
def staleComparison : List Step :=
  [parsingAs "left", parsingAs "right",
    ⟨.file (.named "left" []) (.text "a.c"), {}, some "leftFile"⟩,
    ⟨.file (.named "right" []) (.text "a.c"), {}, some "rightFile"⟩,
    ⟨.close (.named "right" []), {}, none⟩,
    ⟨.equal (.named "leftFile" []) (.named "rightFile" []), {}, none⟩]

/-- Parsing a unit again when the library cannot. -/
def failedReparse : List Step :=
  [parsingAs "unit", ⟨.reparse (.named "unit" []) [] none, { status := 1 }, none⟩]

/-- The closed unit is used in both comparisons, and the unusable one for its name. -/
theorem staleComparison_strays :
    ((State.start oneFileScript .blank ⟨[]⟩).steps staleComparison).1.session.library.strays =
        [.owned .unit 2, .owned .unit 2] ∧
      ((State.start oneFileScript .blank ⟨[]⟩).steps failedReparse).1.session.library.strays =
        [.owned .unit 1] := by
  decide +kernel

end Scenario
end Custody
