import Custody.Proofs.Library.Attempts
import Mathlib.Data.List.TakeWhile

/-!
# The place from which the library was loaded

The finder keeps the last place that it was told, and once it has loaded it is told nothing
more.  Both outlive an attempt that fails, while new settings are accepted as long as there
is no library.  So the library that an attempt finds comes from the place that the settings
of the moment name only if no earlier attempt went another way.
-/

namespace Custody
namespace Library

namespace LoaderCall

/-- Whether a call lets the finder load. -/
def isLoad : LoaderCall → Bool
  | .load => true
  | _ => false

/-- Whether a call tells the finder a place. -/
def isPlacing : LoaderCall → Bool
  | .setLibraryFile _ => true
  | .setLibraryPath _ => true
  | _ => false

/-- The last place that the finder was told before it loaded. -/
def lastPlace (calls : List LoaderCall) : Option LoaderCall :=
  ((calls.takeWhile (!·.isLoad)).filter isPlacing).getLast?

@[simp] theorem lastPlace_nil : lastPlace [] = none := rfl

/-- After the finder has loaded, what it is told comes too late. -/
theorem lastPlace_append_of_loaded {earlier : List LoaderCall} (loaded : earlier.any isLoad = true)
    (later : List LoaderCall) : lastPlace (earlier ++ later) = lastPlace earlier := by
  have stops : (earlier.takeWhile (!·.isLoad)).length ≠ earlier.length := by
    intro whole
    have all := List.takeWhile_eq_self_iff.mp
      ((List.takeWhile_prefix _).eq_of_length whole)
    obtain ⟨call, among, loads⟩ := List.any_eq_true.mp loaded
    simpa [loads] using all call among
  unfold lastPlace
  rw [List.takeWhile_append, if_neg stops]

/-- As long as the finder has not loaded, a later place replaces an earlier one. -/
theorem lastPlace_append_of_unloaded {earlier : List LoaderCall}
    (unloaded : earlier.any isLoad = false) (later : List LoaderCall) :
    lastPlace (earlier ++ later) = (lastPlace later).or (lastPlace earlier) := by
  have passes : earlier.takeWhile (!·.isLoad) = earlier := by
    rw [List.takeWhile_eq_self_iff]
    intro call among
    simpa using List.any_eq_false.mp unloaded call among
  unfold lastPlace
  rw [List.takeWhile_append, passes, if_pos rfl, List.filter_append, List.getLast?_append]

theorem any_isLoad_iff (calls : List LoaderCall) : calls.any isLoad = true ↔ .load ∈ calls := by
  rw [List.any_eq_true]
  refine ⟨fun ⟨call, among, loads⟩ => ?_, fun among => ⟨.load, among, rfl⟩⟩
  cases call with
  | load => exact among
  | _ => cases loads

end LoaderCall

open LoaderCall

namespace Loader

theorem any_isLoad_told (loader : Loader) (settings : Settings) :
    (loader.told settings).any isLoad = false := by
  unfold told demand
  split_ifs <;> rfl

theorem any_isLoad_searching (finder : Finder) : finder.searching.any isLoad = true := by
  unfold Finder.searching
  split_ifs <;> rfl

theorem lastPlace_searching (finder : Finder) (rest : List LoaderCall) :
    lastPlace (finder.searching ++ rest) = none := by
  unfold Finder.searching
  split_ifs <;> rfl

/-- The last place among the calls that tell the finder one. -/
theorem lastPlace_told (loader : Loader) (settings : Settings) :
    lastPlace (loader.told settings) = if loader.finder.loaded then none else demand settings := by
  unfold told demand
  split_ifs <;> rfl

/-- The last place that the finder was told before the system was asked to open what it found. -/
theorem lastPlace_afterSearching {loader : Loader} {settings : Settings}
    (none : loader.calls = []) :
    lastPlace (loader.afterSearching settings).calls =
      if loader.finder.loaded then Option.none else demand settings := by
  simp only [afterSearching, none, List.nil_append, List.append_assoc]
  rw [lastPlace_append_of_unloaded (any_isLoad_told loader settings), lastPlace_searching,
    Option.none_or]
  exact lastPlace_told loader settings

namespace Asked

variable {before after : Loader} {answer : Except Failure Opened} {settings : Settings}

/-- The finder has loaded after an attempt if it had before or is let load. -/
theorem loaded (asked : Asked before answer after) (none : before.calls = []) :
    after.finder.loaded = (before.finder.loaded || after.calls.any isLoad) := by
  cases asked with
  | unsettled failure log useless => simp [none]
  | refused log uses refusal => simp [none, any_isLoad_told]
  | unopened log uses willing obstacle =>
      simp [afterSearching, none, any_isLoad_told, any_isLoad_searching]
  | searched log uses willing openable =>
      simp [afterOpening, afterSearching, none, any_isLoad_told, any_isLoad_searching]

/-- An attempt tells the finder the place that the settings name, unless it has loaded. -/
theorem lastPlace (asked : Asked before answer after) (none : before.calls = [])
    (uses : before.Uses settings) :
    LoaderCall.lastPlace after.calls =
      if before.finder.loaded then Option.none else demand settings := by
  cases asked with
  | unsettled failure log useless => exact absurd uses (useless settings)
  | refused log usesOther refusal =>
      obtain rfl := uses.unique usesOther
      simp only [none, List.nil_append]
      exact lastPlace_told before settings
  | unopened log usesOther willing obstacle =>
      obtain rfl := uses.unique usesOther
      exact lastPlace_afterSearching none
  | searched log usesOther willing openable =>
      obtain rfl := uses.unique usesOther
      exact lastPlace_afterSearching none

end Asked
end Loader

namespace Course

variable {course : Course} {settings : Settings}

/-- The calls of more steps. -/
def calls (course : Course) (steps : List Loader.Step) : List LoaderCall :=
  (course.results steps).flatMap Loader.Result.calls

@[simp] theorem calls_cons (course : Course) (step : Loader.Step) (steps : List Loader.Step) :
    course.calls (step :: steps) = (course.result step).calls ++ (course.next step).calls steps :=
  rfl

theorem calls_append (course : Course) (earlier later : List Loader.Step) :
    course.calls (earlier ++ later) =
      course.calls earlier ++ (course.after earlier).calls later := by
  unfold calls
  rw [results_append, List.flatMap_append]

theorem calls_snoc (course : Course) (earlier : List Loader.Step) (step : Loader.Step) :
    course.calls (earlier ++ [step]) =
      course.calls earlier ++ ((course.after earlier).result step).calls := by
  rw [calls_append, calls_cons]
  simp [calls]

/-- Only an attempt to load makes calls. -/
theorem calls_eq_nil {step : Loader.Step}
    (idle : ¬ (step = .library ∧ course.loader.library = none ∧
      ∃ settings, course.loader.Uses settings)) :
    (course.result step).calls = [] := by
  by_cases asks : step = .library
  · subst asks
    rcases course.loader.library.eq_none_or_eq_some with absent | ⟨library, present⟩
    · obtain ⟨answer, after, asked, how⟩ := asked_of_absent absent
      rw [result_of_asking asked]
      have useless := not_exists.mp fun used => idle ⟨rfl, absent, used⟩
      cases how with
      | unsettled failure log _ => rfl
      | refused log uses refusal => exact absurd uses (useless _)
      | unopened log uses willing obstacle => exact absurd uses (useless _)
      | searched log uses willing openable => exact absurd uses (useless _)
    · rw [result_of_asking (asked_of_loaded present)]
      rfl
  · exact (course.next_untouched asks).calls

/-- The finder has loaded after a step if it had before or is let load. -/
theorem next_loaded (course : Course) (step : Loader.Step) :
    (course.next step).loader.finder.loaded =
      (course.loader.finder.loaded || (course.result step).calls.any isLoad) := by
  by_cases asks : step = .library
  · subst asks
    rcases course.loader.library.eq_none_or_eq_some with absent | ⟨library, present⟩
    · obtain ⟨answer, after, asked, how⟩ := asked_of_absent absent
      rw [result_of_asking asked, next_of_asking asked]
      exact how.loaded rfl
    · rw [result_of_asking (asked_of_loaded present), next_of_asking (asked_of_loaded present)]
      simp [Loader.rested]
  · have untouched := course.next_untouched asks
    have none : (course.result step).calls = [] := untouched.calls
    rw [none, List.any_nil, Bool.or_false]
    exact untouched.loaded

/-- Along a run, the finder has loaded as soon as it was let load. -/
theorem after_loaded (course : Course) (steps : List Loader.Step) :
    (course.after steps).loader.finder.loaded =
      (course.loader.finder.loaded || (course.calls steps).any isLoad) := by
  induction steps generalizing course with
  | nil => simp [calls]
  | cons step steps rest =>
      rw [after_cons, rest, next_loaded, calls_cons, List.any_append, Bool.or_assoc]

/-- A step that attempts to load tells the finder the place that the settings name, unless it
has loaded. -/
theorem lastPlace_result (absent : course.loader.library = none)
    (uses : course.loader.Uses settings) :
    lastPlace (course.result .library).calls =
      if course.loader.finder.loaded then none else Loader.demand settings := by
  obtain ⟨answer, after, asked, how⟩ := asked_of_absent absent
  rw [result_of_asking asked]
  exact how.lastPlace rfl uses

/-- Along a run, what the finder was told last before it loaded. -/
theorem lastPlace_calls (course : Course) (unloaded : course.loader.finder.loaded = false)
    {earlier : List Loader.Step} (absent : (course.after earlier).loader.library = none)
    (uses : (course.after earlier).loader.Uses settings) :
    lastPlace (course.calls (earlier ++ [.library])) =
      if (course.after earlier).loader.finder.loaded then lastPlace (course.calls earlier)
      else (Loader.demand settings).or (lastPlace (course.calls earlier)) := by
  have loads : (course.after earlier).loader.finder.loaded =
      (course.calls earlier).any isLoad := by
    rw [after_loaded, unloaded, Bool.false_or]
  have told := lastPlace_result absent uses
  rw [calls_snoc]
  cases loaded : (course.after earlier).loader.finder.loaded with
  | true => exact lastPlace_append_of_loaded (loads.symm.trans loaded) _
  | false =>
      rw [lastPlace_append_of_unloaded (loads.symm.trans loaded), told, loaded]
      rfl

/-- How the place from which the library is loaded comes about. -/
structure PlacesLibrary (course : Course) : Prop where
  /-- Only attempts to load make calls. -/
  idle : ∀ earlier step, ¬ (step = .library ∧ (course.after earlier).loader.library = none ∧
      ∃ settings, (course.after earlier).loader.Uses settings) →
    course.calls (earlier ++ [step]) = course.calls earlier
  /-- The finder has loaded exactly when it was let load. -/
  loaded : ∀ earlier, (course.after earlier).loader.finder.loaded = true ↔
    .load ∈ course.calls earlier
  /-- An attempt decides on the place until the finder has loaded, if its settings name one. -/
  attempt : ∀ earlier settings, (course.after earlier).loader.library = none →
    (course.after earlier).loader.Uses settings →
    lastPlace (course.calls (earlier ++ [.library])) =
      if (course.after earlier).loader.finder.loaded then lastPlace (course.calls earlier)
      else (Loader.demand settings).or (lastPlace (course.calls earlier))
  /-- The first success gives the library of the place that the settings name in two cases:
  an earlier attempt has made the finder load it from there, or none has made it load and,
  if the settings name no place, none has told it one. -/
  success : ∀ earlier registered first, (course.after earlier).loader.library = none →
    ((course.after earlier).result .library).answer = .ok (.library registered first) →
    ∃ settings, (course.after (earlier ++ [.library])).loader.settings = some settings ∧
      .load ∈ course.calls (earlier ++ [.library]) ∧
      (lastPlace (course.calls (earlier ++ [.library])) = Loader.demand settings ↔
        if (course.after earlier).loader.finder.loaded then
          lastPlace (course.calls earlier) = Loader.demand settings
        else (Loader.demand settings).isSome ∨ lastPlace (course.calls earlier) = none)

/-- When the first success gives the library of the place that the settings name. -/
theorem lastPlace_success (unloaded : course.loader.finder.loaded = false)
    {earlier : List Loader.Step} {registered first : Nat}
    (absent : (course.after earlier).loader.library = none)
    (answered :
      ((course.after earlier).result .library).answer = .ok (.library registered first)) :
    ∃ settings, (course.after (earlier ++ [.library])).loader.settings = some settings ∧
      .load ∈ course.calls (earlier ++ [.library]) ∧
      (lastPlace (course.calls (earlier ++ [.library])) = Loader.demand settings ↔
        if (course.after earlier).loader.finder.loaded then
          lastPlace (course.calls earlier) = Loader.demand settings
        else (Loader.demand settings).isSome ∨ lastPlace (course.calls earlier) = none) := by
  obtain ⟨answer, after, asked, how⟩ := asked_of_absent absent
  rw [result_of_asking asked] at answered
  cases answer with
  | error failure => cases answered
  | ok library =>
      obtain ⟨settings, log, -, uses, rfl⟩ := how.found rfl
      refine ⟨settings, ?_, ?_, ?_⟩
      · rw [after_append, after_cons, after_nil, next_of_asking asked]
        rfl
      · have loads : .load ∈ (course.after earlier).loader.finder.searching :=
          (any_isLoad_iff _).mp (Loader.any_isLoad_searching _)
        rw [calls_snoc, result_of_asking asked]
        simp [Loader.afterOpening, Loader.afterSearching, Loader.rested, loads]
      · rw [lastPlace_calls course unloaded absent uses]
        cases (course.after earlier).loader.finder.loaded with
        | true => rfl
        | false =>
            cases Loader.demand settings <;> simp

theorem placesLibrary (unloaded : course.loader.finder.loaded = false) : course.PlacesLibrary where
  idle earlier step idle := by rw [calls_snoc, calls_eq_nil idle, List.append_nil]
  loaded earlier := by rw [after_loaded, unloaded, Bool.false_or, any_isLoad_iff]
  attempt _ _ absent uses := lastPlace_calls course unloaded absent uses
  success _ _ _ := lastPlace_success unloaded

/-- With a finder that has not loaded at the start, and that nobody else lets load, the place of
the library is the one that the settings of the first success name, unless an earlier attempt
made the finder load, or told it a place while these settings name none. -/
theorem start_placesLibrary (reader : Yaml.Reader) (finder : Finder) (storage : Storage) :
    (start reader { finder with loaded := false } storage).PlacesLibrary :=
  placesLibrary rfl

/-- A finder whose library reports its name and lacks the first symbol. -/
def lackingFinder : Finder := { reportedName := "n", missing := ["clang_getCString"] }

/-- A program with this finder, without any file. -/
def lackingStart : Course := start (.whole ⟨9, 9, 9⟩ ⟨9, 9⟩) lackingFinder ⟨[]⟩

/-- Settings with a library, as a datum. -/
def settingsWithFile (file : String) : Datum := .map [("library_file", .text file)]

/-- Loading from a place fails for want of a symbol, and another place is configured. -/
def relocation : List Loader.Step :=
  [.configure (settingsWithFile "/a.so"), .library, .configure (settingsWithFile "/b.so"),
    .changeFinder fun finder => { finder with missing := [] }]

/-- The library that is then given comes from the former place, and not from the one that the
settings name. -/
theorem relocation_misplaced :
    ∃ registered first settings,
      (lackingStart.after relocation).loader.library = none ∧
      ((lackingStart.after relocation).result .library).answer =
        .ok (.library registered first) ∧
      (lackingStart.after (relocation ++ [.library])).loader.settings =
        some settings ∧
      Loader.demand settings = some (.setLibraryFile "/b.so") ∧
      lastPlace (lackingStart.calls (relocation ++ [.library])) =
        some (.setLibraryFile "/a.so") ∧
      lastPlace (lackingStart.calls (relocation ++ [.library])) ≠
        Loader.demand settings := by
  have told : lastPlace (lackingStart.calls (relocation ++ [.library])) =
      some (.setLibraryFile "/a.so") := rfl
  have named : Loader.demand { libraryFile := "/b.so" } = some (.setLibraryFile "/b.so") := rfl
  refine ⟨_, _, { libraryFile := "/b.so" }, rfl, rfl, rfl, named, told, ?_⟩
  rw [told, named]
  simp only [ne_eq, Option.some.injEq, LoaderCall.setLibraryFile.injEq, Datum.text.injEq]
  decide

end Course
end Library
end Custody
