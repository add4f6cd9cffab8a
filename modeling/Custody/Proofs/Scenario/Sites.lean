import Custody.Proofs.Scenario.Misuse
import Custody.Proofs.Scenario.Serials
import Custody.Proofs.Session.Owners
import Custody.Proofs.Session.Sites

/-!
# What equal locations tell

A location keeps to what it told first.  So in any state that a scenario reaches, it tells what the
library had at the end of the step in which it was read, or what the library has now if it was not
read yet.  Two equal locations tell the same exactly if these two libraries do, and their hashes
agree exactly if the names and offsets do: a unit that was parsed again in between can tell them
apart.  The hash of a range is made of what the library has now, so that equal ranges have one hash.
-/

namespace Custody

open Session Facade Watch

namespace Session

variable {before after : Session}

/-- Nothing was read, and the script of the library is the same. -/
structure Blind (before after : Session) : Prop where
  /-- The script is the same. -/
  script : before.library.SameScript after.library
  /-- Nothing was read. -/
  expansions : after.expansions = before.expansions

instance : IsPreorder Session Blind where
  refl _ := ⟨.refl _, rfl⟩
  trans _ _ _ first rest :=
    ⟨first.script.trans rest.script, rest.expansions.trans first.expansions⟩

instance : Steady (Watch.of Blind) :=
  of_steady fun models expansions _ => ⟨models.toSameScript, expansions⟩

instance : Producing (Watch.of Blind) where
  produces same _ _ := ⟨⟨same, rfl⟩, True.intro⟩

end Session

namespace Facade

variable {α : Type} {session : Session}

theorem Tells.unique {action : Facade α} {first second : α} (tells : Tells session action first)
    (tellsToo : Tells session action second) : first = second := by
  obtain ⟨_, asked, _⟩ := tells
  obtain ⟨_, askedToo, _⟩ := tellsToo
  exact Except.ok.inj (congrArg Prod.fst (asked.symm.trans askedToo))

end Facade

/-- Whether the hashes of two values are made of the same. -/
def Value.sameHash (left right : Value) : Facade Bool := do
  let key ← left.key
  return key = (← right.key)

theorem Scenario.perform_hashEqual (names : Names) (left right : Target) :
    perform names (.hashEqual left right) = (do
      let left ← left.value names
      let right ← right.value names
      Product.ofValue (.bool (← left.sameHash right))) := by
  simp only [perform, Value.sameHash, bind_assoc, pure_bind]

theorem Value.sameHash_tells {session : Session} {left right : Value}
    {first second : List KeyPiece} (keyed : Tells session left.key first)
    (keyedToo : ∀ later, session.Resumes later → Tells later right.key second) :
    Tells session (left.sameHash right) (decide (first = second)) :=
  keyed.bind fun later resumes => (keyedToo later resumes).bind fun _ further =>
    .pure further.reliable _

/-- A location answers with a site: with the name of its file, its line, column and offset, and
with what its hash is made of. -/
structure Location.Reports (session : Session) (location : Location) (site : Site) : Prop where
  /-- The name of the file. -/
  name : Tells session location.fileName? site.name
  /-- The line. -/
  line : Tells session ((Value.location location).ownPart "line") (.int site.line)
  /-- The column. -/
  column : Tells session ((Value.location location).ownPart "column") (.int site.column)
  /-- The offset. -/
  offset : Tells session ((Value.location location).ownPart "offset") (.int site.offset)
  /-- What the hash is made of. -/
  key : Tells session (Value.location location).key (Value.locationKey site.key)

namespace Location

variable {session : Session} {location : Location}

/-- A location answers with one site only. -/
theorem Reports.unique {first second : Site} (reports : location.Reports session first)
    (reportsToo : location.Reports session second) : first = second := by
  obtain ⟨name, line, column, offset⟩ := first
  obtain ⟨otherName, otherLine, otherColumn, otherOffset⟩ := second
  have names := reports.name.unique reportsToo.name
  have lines := reports.line.unique reportsToo.line
  have columns := reports.column.unique reportsToo.column
  have offsets := reports.offset.unique reportsToo.offset
  simp only [Value.int.injEq, Int.natCast_inj] at names lines columns offsets
  rw [names, lines, columns, offsets]

/-- A location that can be read answers with its site. -/
theorem reports (reliable : session.IsReliable) (usable : location.IsUsable session) :
    location.Reports session (session.site location) := by
  obtain ⟨expansion, read, native, -⟩ := expansion_tells reliable usable
  have told : session.site location = session.library.siteOf expansion.native := by
    rw [Session.site, native]
  have part (value : Expansion → Value) :
      Tells session (do return value (← location.expansion)) (value expansion) :=
    read.bind fun later resumes => .pure resumes.reliable _
  refine ⟨fileName?_tells reliable usable, ?_, ?_, ?_, ?_⟩
  · rw [told]
    exact part fun expansion => .int expansion.line
  · rw [told]
    exact part fun expansion => .int expansion.column
  · rw [told]
    exact part fun expansion => .int expansion.offset
  · exact (key_tells reliable usable).bind fun later resumes => .pure resumes.reliable _

end Location

namespace Scenario

/-- An operation that produces no models adds what it reads to what is known of locations. -/
theorem perform_observes {session : Session} (valid : session.holdings.Valid)
    (tidy : session.Tidy) {names : Names} (anchored : names.Anchored session.made)
    {operation : Operation} (producing : operation.producesModels = false) :
    session.Observes ((perform names operation).outcome session).2 := by
  refine perform_leaves valid tidy anchored ⟨fun _ _ => inferInstance, fun produces => ?_,
    fun _ => inferInstance, operation.makesAdmitted_of_forall fun _ => True.intro⟩
  cases producing.symm.trans produces

/-- An operation that produces models reads nothing. -/
theorem perform_blind {session : Session} (valid : session.holdings.Valid)
    (tidy : session.Tidy) {names : Names} (anchored : names.Anchored session.made)
    {operation : Operation} (producing : operation.producesModels = true) :
    session.Blind ((perform names operation).outcome session).2 := by
  refine perform_leaves valid tidy anchored ⟨fun reads => ?_, fun _ => inferInstance,
    fun revises => ?_, operation.makesAdmitted_of_forall fun _ => True.intro⟩
  · cases producing.symm.trans reads
  · cases (Operation.isRevision_of_producesModels producing).symm.trans revises

namespace State

variable {state : State}

theorem observes_facing (state : State) (step : Step) :
    state.session.Observes (state.facing step) := .of_expansions (.of_resources rfl rfl) rfl

/-- A step that produces no models adds what it reads to what is known of locations, and one that
produces models adds nothing. -/
theorem Sound.observes_or_blind_step (sound : state.Sound) (step : Step) :
    state.session.Observes (state.step step).1.session ∨
      state.session.Blind (state.step step).1.session := by
  have valid : (state.facing step).holdings.Valid := sound.valid.answering step.reply
  rw [session_step]
  cases producing : step.operation.producesModels with
  | false =>
      have performed := perform_observes valid sound.tidy sound.anchored producing
      exact .inl ((state.observes_facing step).trans performed)
  | true =>
      have facing : state.session.Blind (state.facing step) :=
        ⟨(state.observes_facing step).models.toSameScript, rfl⟩
      exact .inr (trans_of Blind facing
        (perform_blind valid sound.tidy sound.anchored producing))

theorem Sound.sameScript_step (sound : state.Sound) (step : Step) :
    state.session.library.SameScript (state.step step).1.session.library := by
  rcases sound.observes_or_blind_step step with observes | blind
  · exact observes.models.toSameScript
  · exact blind.script

/-- What was recorded stays. -/
theorem Sound.lookup_step (sound : state.Sound) (step : Step) {location : Location}
    {expansion : Expansion}
    (recorded : state.session.expansions.lookup location = some expansion) :
    (state.step step).1.session.expansions.lookup location = some expansion := by
  rcases sound.observes_or_blind_step step with observes | blind
  · exact observes.kept recorded
  · rw [blind.expansions, recorded]

theorem Sound.lookup_steps (sound : state.Sound) (steps : List Step) {location : Location}
    {expansion : Expansion}
    (recorded : state.session.expansions.lookup location = some expansion) :
    (state.steps steps).1.session.expansions.lookup location = some expansion := by
  induction steps generalizing state with
  | nil => exact recorded
  | cons next rest inductionHypothesis =>
      exact inductionHypothesis (sound.step next) (sound.lookup_step next recorded)

/-- A location that is read in a step is found where the library has it after the step. -/
theorem Sound.found_step (sound : state.Sound) (step : Step) {location : Location}
    (plain : state.session.library.IsPlain)
    (unread : state.session.expansions.lookup location = none) :
    (state.step step).1.session.found location =
      (state.step step).1.session.library.expand location.native := by
  rcases sound.observes_or_blind_step step with observes | blind
  · rw [observes.found plain, found_of_unread unread, observes.models.expand plain]
  · exact found_of_unread (blind.expansions ▸ unread)

/-- The library as it was when a location was read: at the end of the first of some steps after
which the location is known, or else in the end. -/
def readingLibrary (location : Location) : State → List Step → Library.State
  | state, [] => state.session.library
  | state, next :: rest =>
      let after := (state.step next).1
      if (after.session.expansions.lookup location).isSome then after.session.library
      else readingLibrary location after rest

theorem Sound.sameScript_steps (sound : state.Sound) (steps : List Step) :
    state.session.library.SameScript (state.steps steps).1.session.library := by
  induction steps generalizing state with
  | nil => exact .refl _
  | cons next rest inductionHypothesis =>
      exact (sound.sameScript_step next).trans (inductionHypothesis (sound.step next))

/-- The library had the same script when a location was read. -/
theorem Sound.sameScript_readingLibrary (sound : state.Sound) (location : Location)
    (steps : List Step) :
    (state.readingLibrary location steps).SameScript (state.steps steps).1.session.library := by
  induction steps generalizing state with
  | nil => exact .refl _
  | cons next rest inductionHypothesis =>
      unfold readingLibrary
      dsimp only
      split
      · exact (sound.step next).sameScript_steps rest
      · exact inductionHypothesis (sound.step next)

/-- A location is found where the library had it when the location was read. -/
theorem Sound.found_steps (sound : state.Sound) (steps : List Step) {location : Location}
    (plain : state.session.library.IsPlain)
    (unread : state.session.expansions.lookup location = none) :
    (state.steps steps).1.session.found location =
      (state.readingLibrary location steps).expand location.native := by
  induction steps generalizing state with
  | nil => exact found_of_unread unread
  | cons next rest inductionHypothesis =>
      unfold readingLibrary
      dsimp only
      cases recorded : (state.step next).1.session.expansions.lookup location with
      | none =>
          exact inductionHypothesis (sound.step next) ((sound.sameScript_step next).plain plain)
            recorded
      | some expansion =>
          rw [if_pos Option.isSome_some, ← sound.found_step next plain unread, steps_cons,
            found_of_recorded recorded,
            found_of_recorded ((sound.step next).lookup_steps rest recorded)]

/-- A location tells what the library had when the location was read. -/
theorem Sound.site_steps (sound : state.Sound) (steps : List Step) {location : Location}
    (plain : state.session.library.IsPlain)
    (unread : state.session.expansions.lookup location = none) :
    (state.steps steps).1.session.site location =
      (state.readingLibrary location steps).site location.native := by
  rw [Session.site, sound.found_steps steps plain unread, Library.State.site,
    Library.State.siteOf_eq_of_script (sound.sameScript_readingLibrary location steps).script]

end State
end Scenario

/-- Two ranges compare as equal, in whatever session. -/
def Range.Equals (left right : Range) : Prop :=
  ∀ session : Session,
    ((Value.range left).equal (.range right)).outcome session = (.ok true, session)

/-- Ranges are equal when the library has one range for both. -/
theorem Range.equals_iff {left right : Range} :
    left.Equals right ↔ left.native = right.native :=
  forall_outcome_iff fun _ => by rw [Value.equal, outcome_pure]

/-- What locations and ranges answer in a session, each location being known from the library as it
was when the location was read. -/
structure Session.TellsSites (session : Session) (reading : Location → Library.State) : Prop where
  /-- A location answers with its site in the library by which it was read. -/
  reports : ∀ location : Location, location.IsUsable session →
    location.Reports session ((reading location).site location.native)
  /-- Equal locations answer alike exactly if the libraries by which they were read tell the
  same. -/
  alike : ∀ left right : Location, left.IsUsable session → right.IsUsable session →
    left.Equals right →
      ((∃ site, left.Reports session site ∧ right.Reports session site) ↔
        (reading left).site left.native = (reading right).site left.native)
  /-- Their hashes are the same exactly if the names and offsets are. -/
  hashes : ∀ left right : Location, left.IsUsable session → right.IsUsable session →
    left.Equals right →
      Tells session ((Value.location left).sameHash (.location right))
        (decide (Value.locationKey ((reading left).site left.native).key =
          Value.locationKey ((reading right).site left.native).key))
  /-- Equal locations are interchangeable if the unit or set in which they lie had one model
  whenever one of them was read. -/
  steady : ∀ left right : Location, left.IsUsable session → right.IsUsable session →
    left.Equals right →
    (∀ space, left.native.space = some space →
      (reading right).modelNumber space = (reading left).modelNumber space) →
    (∃ site, left.Reports session site ∧ right.Reports session site) ∧
      Tells session ((Value.location left).sameHash (.location right)) true
  /-- Equal ranges begin and end at equal locations and have one hash, whatever was read before. -/
  ranges : ∀ left right : Range, left.IsUsable session → right.IsUsable session →
    left.Equals right →
    Tells session (do (Value.location (← left.start)).equal (.location (← right.start))) true ∧
      Tells session (do (Value.location (← left.finish)).equal (.location (← right.finish))) true ∧
      Tells session ((Value.range left).sameHash (.range right)) true

section Telling

variable {session : Session} (reliable : session.IsReliable)
include reliable

/-- The hash of a range is made of the keys of its two locations, also if something else was read
before. -/
theorem Value.rangeKey_tells {later : Session} {range : Range} (usable : range.IsUsable later)
    (resumes : session.Resumes later) :
    Tells later (Value.range range).key
      (.group 2 :: Value.locationKey (session.library.site range.native.start).key ++
        Value.locationKey (session.library.site range.native.finish).key) := by
  have models := resumes.observes.models
  rw [← models.site reliable.plain, ← models.site reliable.plain]
  exact (Range.key_tells resumes.reliable usable).bind fun _ further => .pure further.reliable _

/-- Equal ranges begin and end at equal locations. -/
theorem Range.ends_tell (left right : Range) {endpoint : NativeRange → NativeLocation}
    (same : endpoint left.native = endpoint right.native) :
    Tells session (do
      let first ← Location.wrap (endpoint left.native) left.owner
      let second ← Location.wrap (endpoint right.native) right.owner
      (Value.location first).equal (.location second)) true := by
  have first := Session.resumes_numbering reliable
  have second := Session.resumes_numbering first.reliable
  refine .after rfl first (.after rfl second ?_)
  exact ⟨_, Location.equals_iff.mpr same _, .refl second.reliable⟩

/-- A session tells sites if its locations lie where the libraries had them by which they were
read. -/
theorem Session.IsReliable.tellsSites {reading : Location → Library.State}
    (sites : ∀ location : Location,
      session.site location = (reading location).site location.native)
    (scripts : ∀ location : Location, session.library.script = (reading location).script) :
    session.TellsSites reading := by
  have reports (location : Location) (usable : location.IsUsable session) :
      location.Reports session ((reading location).site location.native) := by
    rw [← sites location]
    exact Location.reports reliable usable
  have alike (left right : Location) (usable : left.IsUsable session)
      (usableToo : right.IsUsable session) (equal : left.Equals right) :
      (∃ site, left.Reports session site ∧ right.Reports session site) ↔
        (reading left).site left.native = (reading right).site left.native := by
    have found := reports left usable
    have foundToo := reports right usableToo
    rw [← Location.equals_iff.mp equal] at foundToo
    constructor
    · rintro ⟨site, told, toldToo⟩
      exact (found.unique told).trans (toldToo.unique foundToo)
    · intro same
      exact ⟨_, found, same ▸ foundToo⟩
  have hashes (left right : Location) (usable : left.IsUsable session)
      (usableToo : right.IsUsable session) (equal : left.Equals right) :
      Tells session ((Value.location left).sameHash (.location right))
        (decide (Value.locationKey ((reading left).site left.native).key =
          Value.locationKey ((reading right).site left.native).key)) := by
    refine Value.sameHash_tells (reports left usable).key fun later resumes => ?_
    have keyed := (Location.reports resumes.reliable (usableToo.resumes resumes)).key
    rw [resumes.observes.site reliable.plain, sites right,
      ← Location.equals_iff.mp equal] at keyed
    exact keyed
  refine ⟨reports, alike, hashes, ?_, ?_⟩
  · intro left right usable usableToo equal models
    have script : (reading right).script = (reading left).script :=
      (scripts right).symm.trans (scripts left)
    have same : (reading left).site left.native = (reading right).site left.native := by
      rw [Library.State.site, Library.State.site, Library.State.expand_eq_of_script script models,
        Library.State.siteOf_eq_of_script script]
    refine ⟨(alike left right usable usableToo equal).mpr same, ?_⟩
    have told := hashes left right usable usableToo equal
    rw [same, decide_eq_true rfl] at told
    exact told
  · intro left right usable usableToo equal
    have same := Range.equals_iff.mp equal
    refine ⟨Range.ends_tell reliable left right (congrArg NativeRange.start same),
      Range.ends_tell reliable left right (congrArg NativeRange.finish same), ?_⟩
    have keyed := Value.sameHash_tells (Value.rangeKey_tells reliable usable (.refl reliable))
      fun _ resumes => Value.rangeKey_tells reliable (usableToo.resumes resumes) resumes
    rw [← same, decide_eq_true rfl] at keyed
    exact keyed

end Telling

namespace Scenario

namespace State

variable {state : State}

/-- When the library shows all strings in the next step, the session can be relied on. -/
theorem Sound.isReliable_facing (sound : state.Sound) (issued : state.Issued)
    (plain : state.session.library.IsPlain) {next : Step} (shown : next.reply.hidden = []) :
    (state.facing next).IsReliable :=
  ⟨sound.valid.answering next.reply, sound.tidy, issued.holds,
    (state.observes_facing next).models.plain plain, shown⟩

/-- Nothing is allocated at the start, so that no models stand behind anything. -/
theorem start_isPlain (script : Library.Script) (settings : Settings) (storage : Storage) :
    (start script settings storage).session.library.IsPlain := fun _ _ => rfl

/-- A named location whose owner is open can be read. -/
theorem Sound.location_isUsable (sound : state.Sound) (issued : state.Issued) (next : Step)
    {name : Text} {location : Location} (named : (name, .location location) ∈ state.names)
    (opened : state.session.estate.isOpen location.owner = true) :
    location.IsUsable (state.facing next) :=
  ⟨opened, sound.anchored _ named, issued.location named⟩

end State

/-- However a scenario went, while the library shows all strings, named locations and ranges of open
owners can be read.  Locations answer as the libraries tell by which they were read, so that equal
ones may differ, and equal ranges never do. -/
theorem steps_tellSites
    (script : Library.Script)
    (settings : Settings)
    (storage : Storage)
    (steps : List Step)
    (next : Step)
    (shown : next.reply.hidden = []) :
    (∀ name location,
      (name, .location location) ∈ ((State.start script settings storage).steps steps).1.names →
      ((State.start script settings storage).steps steps).1.session.estate.isOpen
        location.owner = true →
      location.IsUsable (((State.start script settings storage).steps steps).1.facing next)) ∧
    (∀ name range,
      (name, .range range) ∈ ((State.start script settings storage).steps steps).1.names →
      ((State.start script settings storage).steps steps).1.session.estate.isOpen
        range.owner = true →
      range.IsUsable (((State.start script settings storage).steps steps).1.facing next)) ∧
    (((State.start script settings storage).steps steps).1.facing next).TellsSites
      fun location => (State.start script settings storage).readingLibrary location steps := by
  have sound := State.start_sound script settings storage
  have plain := State.start_isPlain script settings storage
  have issued := sound.steps_issued (State.start_issued script settings storage) steps
  have plainLater := (sound.sameScript_steps steps).plain plain
  refine ⟨fun name location named opened => ?_, fun name range named opened => ?_, ?_⟩
  · exact (sound.steps steps).location_isUsable issued next named opened
  · exact ⟨opened, (sound.steps steps).anchored _ named⟩
  refine ((sound.steps steps).isReliable_facing issued plainLater shown).tellsSites ?_ ?_
  · intro location
    rw [(State.observes_facing _ next).site plainLater, sound.site_steps steps plain rfl]
  · exact fun location => (sound.sameScript_readingLibrary location steps).script

/-- A library whose unit has an empty header at first and later one of two lines. -/
def growingScript : Library.Script :=
  let file (name text : String) : SourceFile :=
    { (default : SourceFile) with name := some name.toUTF8.toList, text := text.toUTF8.toList }
  ⟨[{ (default : Library.UnitModel) with files := [file "a.h" "", file "a.c" "int a;"] },
    { (default : Library.UnitModel) with files := [file "a.h" "\nint b;", file "a.c" "int a;"] }],
    [], [], 0⟩

/-- A location is read, its unit is parsed again, and another location is made where the library
has the first one now. -/
def growing : List Step :=
  [parsingAs "unit",
    ⟨.file (.named "unit" []) (.text "a.c"), {}, some "source"⟩,
    ⟨.offset (.named "unit" []) (.named "source" []) (.int 2), {}, some "early"⟩,
    ⟨.describe (.named "early" []) [.ofText "line"], {}, none⟩,
    ⟨.reparse (.named "unit" []) [] none, { unit := .model 1 }, none⟩,
    ⟨.file (.named "unit" []) (.text "a.h"), {}, some "header"⟩,
    ⟨.offset (.named "unit" []) (.named "header" []) (.int 3), {}, some "late"⟩]

/-- The session in which the hashes of the two locations are compared. -/
def grownSession : Session :=
  ((State.start growingScript .blank ⟨[]⟩).steps growing).1.facing
    ⟨.hashEqual (.named "early" []) (.named "late" []), {}, none⟩

/-- The location that was read before its unit was parsed again. -/
def earlyLocation : Location := ⟨1, 1, ⟨some (.owned .unit 1), 4⟩⟩

/-- The location that was made after its unit was parsed again. -/
def lateLocation : Location := ⟨4, 1, ⟨some (.owned .unit 1), 4⟩⟩

theorem isUsable_of_grown {location : Location}
    (native : location.native = earlyLocation.native) (owner : location.owner = 1)
    (issued : location.serial < 5) : location.IsUsable grownSession where
  opened := by
    rw [owner]
    decide +kernel
  anchored := by
    rw [Location.Anchored, native, owner]
    rintro _ ⟨⟩
    decide +kernel
  issued := issued.trans_eq (by decide +kernel)

/-- The two locations can be read, and what they answer is told as for all. -/
theorem grownSession_tellsSites :
    earlyLocation.IsUsable grownSession ∧
      lateLocation.IsUsable grownSession ∧
      grownSession.TellsSites fun location =>
        (State.start growingScript .blank ⟨[]⟩).readingLibrary location growing :=
  ⟨isUsable_of_grown rfl rfl (by decide), isUsable_of_grown rfl rfl (by decide),
    (steps_tellSites growingScript .blank ⟨[]⟩ growing
      ⟨.hashEqual (.named "early" []) (.named "late" []), {}, none⟩ rfl).2.2⟩

/-- The two locations are equal, but they lie in different files and lines, and their hashes are
different. -/
theorem grownLocations_differ :
    earlyLocation.IsUsable grownSession ∧
      lateLocation.IsUsable grownSession ∧
      earlyLocation.Equals lateLocation ∧
      (earlyLocation.fileName?.outcome grownSession).1.toOption = some (some "a.c") ∧
      (lateLocation.fileName?.outcome grownSession).1.toOption = some (some "a.h") ∧
      (earlyLocation.expansion.outcome grownSession).1.toOption.map Expansion.line = some 1 ∧
      (lateLocation.expansion.outcome grownSession).1.toOption.map Expansion.line = some 2 ∧
      (((Value.location earlyLocation).sameHash (.location lateLocation)).outcome
        grownSession).1.toOption = some false :=
  ⟨isUsable_of_grown rfl rfl (by decide), isUsable_of_grown rfl rfl (by decide),
    Location.equals_iff.mpr rfl, by decide +kernel⟩

end Scenario
end Custody
