import Custody.Proofs.Session.Copies
import Custody.Proofs.Session.Sources
import Custody.Proofs.Session.Sweep

/-!
# Units, databases and indexing under a watch

The operations on indexes, units, databases and indexing sessions keep every steady watch, but those
that make units, sets and databases or parse a unit again need one that allows for other models.
Every location that they hand out may be read: those that led to an inclusion and those of the
snapshots that an indexing run tells its hooks.  Every compile command may be handed out, whether it
is copied from the library or recalled.
-/

namespace Custody

open Facade Watch Library.Call

variable {watch : Watch} {begun : Session}

section Units

variable [Steady watch]

namespace Index

/-- An index is logged once there is a holder for it. -/
theorem make_abides (excludeDeclarations displayDiagnostics : Bool) :
    Abides watch begun (make excludeDeclarations displayDiagnostics) := by
  refine .bind (.call ⟨createIndex_leaves _ _, createIndex_square _ _⟩) fun handle => ?_
  refine .bind (.wrap _ _ rfl) fun index => ?_
  cases handle with
  | none => exact .pure _
  | some handle => exact .bind (.record _ _) fun _ => .pure _

/-- An index that is missing is made, and one that is given is taken as it is. -/
theorem orNew_abides (index : Option Passed) : Abides watch begun (orNew index) := by
  cases index with
  | some index => exact .pure _
  | none => exact .bind (make_abides true true) fun _ => .pure _

/-- The global options of an index are asked of the library each time. -/
theorem globalOptions_abides (index : Nat) : Abides watch begun (globalOptions index) :=
  .bind (.handle index) fun _ => .call ⟨globalOptions_leaves _, globalOptions_square _⟩

end Index

namespace CompilationUnit

/-- A unit becomes a holder below its index. -/
theorem wrap_abides (handle : Handle) (index : Nat) (overlay : Option UnsavedFile) :
    Abides watch begun (wrap handle index overlay) :=
  .bind (.wrap _ _ rfl) fun _ => .bind (.adopt _ _) fun _ => .pure _

/-- An unsaved file that is missing from the list is a failure and changes nothing. -/
theorem checkedFiles_abides (files : UnsavedFiles) : Abides watch begun (checkedFiles files) := by
  refine .mapM fun file _ => ?_
  cases file with
  | none => exact .throw _
  | some file => exact .pure _

/-- Arguments that are not given are those of the settings. -/
theorem argumentsOf_abides (arguments : Option Datum) :
    Abides watch begun (argumentsOf arguments) :=
  .bind .get fun _ => .ofExcept _

/-- The index of a unit is found in the session. -/
theorem index_abides (unit : Nat) : Abides watch begun (index unit) := by
  refine .bind (.holder unit) fun record => ?_
  split
  · exact .pure _
  · exact .throw _

/-- The unsaved file of a unit is found in the session. -/
theorem overlay_abides (unit : Nat) : Abides watch begun (overlay unit) := by
  refine .bind (.holder unit) fun record => ?_
  split <;> exact .pure _

/-- The library says how a unit is parsed again by default. -/
theorem defaultReparseOptions_abides (unit : Nat) :
    Abides watch begun (defaultReparseOptions unit) :=
  .bind (.handle unit) fun _ =>
    .call ⟨Library.Call.defaultReparseOptions_leaves _, defaultReparseOptions_square _⟩

/-- The library says how a unit is saved by default. -/
theorem defaultSaveOptions_abides (unit : Nat) : Abides watch begun (defaultSaveOptions unit) :=
  .bind (.handle unit) fun _ =>
    .call ⟨Library.Call.defaultSaveOptions_leaves _, defaultSaveOptions_square _⟩

/-- The name of a unit is given back as soon as it is read. -/
theorem spelling_abides (unit : Nat) : Abides watch begun (spelling unit) :=
  .bind (.handle unit) fun _ => .borrowed (unitSpelling_leaves _) (unitSpelling_lends _)

/-- Defaults are asked for only where no options were given. -/
theorem optionsOr_abides {default : Facade Int} (abides : Abides watch begun default)
    (options : Option Datum) : Abides watch begun (optionsOr default options) := by
  cases options with
  | some options => exact .pure _
  | none => exact .bind abides fun _ => .pure _

/-- Saving changes nothing here, and what the library answers is a failure or nothing. -/
theorem save_abides (unit : Nat) (path : Datum) (options : Option Datum) :
    Abides watch begun (save unit path options) := by
  refine .bind (optionsOr_abides (defaultSaveOptions_abides unit) options) fun _ => ?_
  refine .bind (.handle unit) fun _ => .bind (.ofExcept _) fun _ => .bind (.ofExcept _) fun _ => ?_
  refine .bind (.call ⟨Library.Call.save_leaves _ _ _, Library.Call.save_square _ _ _⟩) fun _ => ?_
  exact .ite (.bind (.ofExcept _) fun _ => .throw _) (.pure _)

/-- The root cursor is checked before an object is made of it. -/
theorem cursor_abides (unit : Nat) : Abides watch begun (cursor unit) :=
  .bind (.handle unit) fun _ => .bind (.call ⟨rootCursor_leaves _, rootCursor_square _⟩) fun _ =>
    .bind (.optionForM Cursor.checkPresent_abides _) fun _ => Cursor.wrap_abides _ _ _

/-- A file is looked up by its name, and no object is made where there is none. -/
theorem file_abides (unit : Nat) (path : Datum) : Abides watch begun (file unit path) := by
  refine .bind (.handle unit) fun _ => .bind (.ofExcept _) fun _ => ?_
  refine .bind (.call ⟨fileNamed_leaves _ _, fileNamed_square _ _⟩) fun found => ?_
  split
  · exact .pure _
  · exact .bind (File.wrap_abides _ _) fun _ => .pure _

/-- The buffer is given back once the tokens were numbered, and that cannot fail. -/
theorem tokensWithin_abides (unit : Nat) (extent : Range) :
    Abides watch begun (tokens unit (some extent)) := by
  refine .ite (.throwThen _) (.bind (.handle unit) fun handle => .of_allows fun session _ => ?_)
  rw [outcome_bind_of_ok (outcome_call session _)]
  have models := tokenize_leaves handle extent.native session.library
  have debts := fun origin debt => tokenize_turns debt handle extent.native origin session.library
  generalize Id.run (StateT.run (tokenize handle extent.native) session.library) = answer
    at models debts ⊢
  obtain ⟨buffer, library⟩ := answer
  cases buffer with
  | none => exact Steady.aside (.of_library models debts)
  | some buffer =>
      obtain ⟨tokens, number, wrapped, grown⟩ :=
        (Numbers.mapM (Token.wrap_numbers · unit) buffer.tokens) { session with library := library }
      dsimp only
      rw [outcome_bind_of_ok wrapped, outcome_bind_of_ok (outcome_call _ _)]
      have paid : session.library.SameDebts
          (Id.run (StateT.run (disposeTokens handle buffer) library)).2 := fun origin debt owes =>
        disposeTokens_turns debt handle buffer origin library (debts origin debt owes)
      exact Steady.aside ⟨models.trans (disposeTokens_leaves handle buffer library), paid, rfl, rfl,
        grown, fun _ remembers => .inl remembers⟩

/-- Without an extent, the tokens are those of the whole unit. -/
theorem tokens_abides (unit : Nat) (extent : Option Range) :
    Abides watch begun (tokens unit extent) := by
  cases extent with
  | some extent => exact tokensWithin_abides unit extent
  | none =>
      refine .bind (cursor_abides unit) fun cursor => ?_
      cases cursor with
      | none => exact .throwThen _
      | some cursor => exact .bind cursor.range_abides fun extent => tokensWithin_abides unit extent

/-- The tokens of a cursor are those within its extent. -/
theorem tokensOfCursor_abides (cursor : Cursor) : Abides watch begun (tokensOfCursor cursor) :=
  .bind cursor.range_abides fun _ => tokens_abides _ _

/-- A unit is visited from its root cursor. -/
theorem visitChildren_abides (unit : Nat) (visitor : Visitor) :
    Abides watch begun (visitChildren unit visitor) :=
  .bind (.handle unit) fun _ => .bind (.call ⟨rootCursor_leaves _, rootCursor_square _⟩) fun _ =>
    .bind (Cursor.visitFrom_abides _ _ visitor) fun _ =>
      .bind (Cursor.ofVisits_abides _ _) fun _ => .pure _

/-- The locations that led to an inclusion may be read. -/
def Legible (watch : Watch) (session : Session) (inclusion : Inclusion) : Prop :=
  ∀ location ∈ inclusion.2, watch.issued session location.serial

/-- What may be read may be read later. -/
theorem Legible.lasts {later : Session} {inclusion : Inclusion}
    (legible : Legible watch begun inclusion) (grown : watch.relation begun later) :
    Legible watch later inclusion :=
  fun location member => Steady.lasts grown (legible location member)

/-- A new location is made of every place on every stack. -/
theorem visitInclusions_keeps (unit : Nat) (visitor : InclusionVisitor) :
    Keeps watch begun (visitInclusions unit visitor) fun later answer =>
      ∀ inclusion ∈ answer.1, Legible watch later inclusion := by
  refine .after (.handle unit) fun _ => ?_
  refine .after (.call ⟨visitInclusions_leaves _ _ _, visitInclusions_square _ _ _⟩)
    fun visiting => ?_
  have lasts (later further : Session) (inclusion : Inclusion)
      (grown : watch.relation later further)
      (legible : Legible watch later inclusion) : Legible watch further inclusion :=
    legible.lasts grown
  refine Keeps.bind (.mapM lasts ?_) fun inclusions _ _ legible =>
    .pure fun _ grown inclusion member => (legible inclusion member).lasts grown
  rintro ⟨file, stack⟩ _ later _
  refine .after (File.wrap_abides _ _) fun file => ?_
  have located : Keeps watch later (stack.mapM fun location => Location.wrap location unit)
      fun last locations => ∀ location ∈ locations, watch.issued last location.serial :=
    .mapM (fun _ _ _ => Steady.lasts) fun location _ _ _ => Location.wrap_issues location unit
  exact located.bind fun locations _ _ issued =>
    .pure fun _ grown location member => Steady.lasts grown (issued location member)

/-- A closed unit is written without its name, and so asks for none. -/
theorem written_abides (unit : Nat) : Abides watch begun (written unit) :=
  .bind (.holder unit) fun _ => .ite (.pure _) (.bind (spelling_abides unit) fun _ => .pure _)

end CompilationUnit

end Units

section Databases

variable [Steady watch]

namespace CompilationDatabase

/-- What is copied is text. -/
theorem copy_keeps (command : Library.CommandModel) :
    Keeps watch begun (copy command) fun _ copied => watch.admits copied :=
  .after (.borrowed (lend_leaves _) (lend_lends _)) fun directory =>
    .after (.borrowed (lend_leaves _) (lend_lends _)) fun filename =>
      .after (.mapM fun _ _ => .borrowed (lend_leaves _) (lend_lends _)) fun arguments =>
        .after fresh_abides fun serial =>
          .pure fun _ _ => Steady.copies serial directory filename arguments

/-- A list is copied up to the first command that is missing, and all copies are text. -/
theorem copyAll_keeps (position : Nat) (items : List (Option Library.CommandModel)) :
    Keeps watch begun (copyAll position items) fun _ copies =>
      ∀ command ∈ copies, watch.admits command := by
  induction items generalizing position begun with
  | nil => exact .pure fun _ _ => by simp
  | cons item rest inductionHypothesis =>
      cases item with
      | none => exact .throw _
      | some command =>
          refine (copy_keeps command).bind fun copied _ _ admitted => ?_
          refine (inductionHypothesis (position + 1)).bind fun others _ _ all => .pure fun _ _ => ?_
          exact List.forall_mem_cons.mpr ⟨admitted, all⟩

/-- The list of the library is disposed of whether it could be copied or not. -/
theorem snapshot_keeps (commands : Option Handle) :
    Keeps watch begun (snapshot commands) fun _ copies =>
      ∀ command ∈ copies, watch.admits command := by
  cases commands with
  | none => exact .pure fun _ _ => by simp
  | some commands =>
      refine .after (.call ⟨commandItems_leaves _, commandItems_square _⟩) fun items => ?_
      refine (copyAll_keeps 0 items).attempt.bind fun result _ _ admitted => ?_
      refine .after (.call ⟨dispose_leaves _, dispose_square _⟩) fun _ => ?_
      exact .ofExcept fun copies succeeded _ _ => admitted copies succeeded

/-- The directory of a database is found in the session. -/
theorem directory_abides (database : Nat) : Abides watch begun (directory database) := by
  refine .bind (.holder database) fun record => ?_
  split
  · exact .pure _
  · exact .throw _

/-- Only commands that may be handed out come to be remembered. -/
theorem remember_abides (database : Nat) {memo : Nat × List CompileCommand}
    (admitted : ∀ command ∈ memo.2, watch.admits command) :
    Abides watch begun (remember database memo) :=
  .modify fun _ => .of_memo database memo admitted

/-- What is recalled was remembered, and what is copied is text. -/
theorem commands_keeps (database : Nat) :
    Keeps watch begun (commands database) fun _ memo =>
      ∀ command ∈ memo.2, watch.admits command := by
  refine (holder_keeps database).bind fun record _ _ admitted => ?_
  split
  · next memo recalls => exact .pure fun _ _ => admitted memo (by rw [recalls]; rfl)
  · refine .after (.handle database) fun _ => ?_
    refine .after (.call ⟨Library.Call.allCommands_leaves _, allCommands_square _⟩) fun _ => ?_
    refine (snapshot_keeps _).bind fun copies _ _ all => .after fresh_abides fun serial => ?_
    exact .after (remember_abides database all) fun _ => .pure fun _ _ => all

/-- The commands for one file are copied each time and not remembered. -/
theorem commandsFor_keeps (database : Nat) (filename : Datum) :
    Keeps watch begun (commandsFor database filename) fun _ copies =>
      ∀ command ∈ copies, watch.admits command :=
  .after (.handle database) fun _ => .after (.ofExcept _) fun _ =>
    .after (.call ⟨Library.Call.commandsFor_leaves _ _, commandsFor_square _ _⟩) fun _ =>
      snapshot_keeps _

/-- A database is written with its directory. -/
theorem written_abides (database : Nat) : Abides watch begun (written database) :=
  .bind (directory_abides database) fun _ => .pure _

end CompilationDatabase

end Databases

section Indexing

variable [Steady watch]

/-- The location that a hook is told about, if it is told about one. -/
def Notice.location? : Notice → Option Location
  | .started => none
  | .mainFile _ => none
  | .diagnostics _ _ => none
  | .included item => some item.hashLocation
  | .imported item => some item.location
  | .declaration item => some item.location
  | .reference item => some item.location

/-- The location that a hook is told about may be read. -/
def Notice.Legible (watch : Watch) (session : Session) (notice : Notice) : Prop :=
  ∀ location, notice.location? = some location → watch.issued session location.serial

/-- A notice that may be read may be read later. -/
theorem Notice.Legible.lasts {later : Session} {notice : Notice}
    (legible : notice.Legible watch begun) (grown : watch.relation begun later) :
    notice.Legible watch later :=
  fun location present => Steady.lasts grown (legible location present)

namespace Snapshot

/-- The cursor of an event is one of the unit that is indexed. -/
theorem cursor_abides (unit : Nat) (index : Option Nat) : Abides watch begun (cursor unit index) :=
  .bind (.handle unit) fun _ => .bind .get fun _ => Cursor.wrap_abides _ _ _

/-- A declaration may be in no container, and then no object is made. -/
theorem container_abides (unit : Nat) (model : Library.ContainerModel) :
    Abides watch begun (container unit model) := by
  cases model with
  | none => exact .pure _
  | some index => exact cursor_abides unit index

/-- An event may name no file, and then no object is made. -/
theorem file_abides (unit : Nat) (index : Option Nat) : Abides watch begun (file unit index) := by
  cases index with
  | none => exact .pure _
  | some index =>
      exact .bind (.handle unit) fun _ => .bind .get fun _ =>
        .bind (File.wrap_abides _ _) fun _ => .pure _

/-- The location of an event is made new, whatever place it stands for. -/
theorem location_issues (unit : Nat) (spot : Option Spot) :
    Locates watch begun (location unit spot) :=
  .after (.handle unit) fun _ => .after .get fun _ => Location.wrap_issues _ _

/-- A kind that has no name is a failure, and otherwise a number is taken. -/
theorem entity_abides (unit : Nat) (model : Option Library.EntityModel) :
    Abides watch begun (entity unit model) := by
  cases model with
  | none => exact .pure _
  | some model =>
      exact .bind (.ofExcept _) fun _ => .bind (cursor_abides unit _) fun _ =>
        .bind fresh_abides fun _ => .pure _

/-- The containers of a declaration are copied after its location, which may be read still. -/
theorem declaration_keeps (unit : Nat) (model : Library.DeclarationModel) :
    Keeps watch begun (declaration unit model) fun later item =>
      watch.issued later item.location.serial :=
  .after (cursor_abides unit _) fun _ => .after (entity_abides unit _) fun _ =>
    .bind (location_issues unit _) fun _ _ _ issued => .after (container_abides unit _) fun _ =>
      .after (container_abides unit _) fun _ => .after fresh_abides fun _ =>
        .pure fun _ grown => Steady.lasts grown issued

/-- The entities of a reference are copied after its location, which may be read still. -/
theorem reference_keeps (unit : Nat) (model : Library.ReferenceModel) :
    Keeps watch begun (reference unit model) fun later item =>
      watch.issued later item.location.serial :=
  .after (.ofExcept _) fun _ => .after (cursor_abides unit _) fun _ =>
    .bind (location_issues unit _) fun _ _ _ issued => .after (entity_abides unit _) fun _ =>
      .after (entity_abides unit _) fun _ => .after (container_abides unit _) fun _ =>
        .after fresh_abides fun _ => .pure fun _ grown => Steady.lasts grown issued

/-- The location of an inclusion is that of its hash sign. -/
theorem included_keeps (unit : Nat) (model : Library.IncludedModel) :
    Keeps watch begun (included unit model) fun later item =>
      watch.issued later item.hashLocation.serial :=
  .after (file_abides unit _) fun _ => .bind (location_issues unit _) fun _ _ _ issued =>
    .after fresh_abides fun _ => .pure fun _ grown => Steady.lasts grown issued

/-- An imported module has a location of its own. -/
theorem imported_keeps (unit : Nat) (model : Library.ImportedModel) :
    Keeps watch begun (imported unit model) fun later item =>
      watch.issued later item.location.serial :=
  .after (file_abides unit _) fun _ => .bind (location_issues unit _) fun _ _ _ issued =>
    .after fresh_abides fun _ => .pure fun _ grown => Steady.lasts grown issued

/-- Both texts of a diagnostic are given back as soon as they are read. -/
theorem diagnostic_abides (model : Library.DiagnosticModel) :
    Abides watch begun (diagnostic model) :=
  .bind .get fun _ => .bind (.ofExcept _) fun _ =>
    .bind (.borrowed (lend_leaves _) (lend_lends _)) fun _ =>
      .bind (.borrowed (lend_leaves _) (lend_lends _)) fun _ => .bind fresh_abides fun _ => .pure _

/-- A notice that mentions one location may be read with it. -/
theorem legible_of_location {notice : Notice} {location : Location}
    (same : notice.location? = some location) (issued : watch.issued begun location.serial)
    {later : Session} (grown : watch.relation begun later) : notice.Legible watch later := by
  intro other present
  rw [same] at present
  cases present
  exact Steady.lasts grown issued

/-- What a hook is told may be read by the time it is told. -/
theorem notice?_keeps {unit : Nat} {event : Library.Event} {snapshot : Facade Notice}
    (noticed : notice? unit event = some snapshot) :
    Keeps watch begun snapshot fun later notice => notice.Legible watch later := by
  cases event with
  | started =>
      cases noticed
      exact .pure fun _ _ => by rintro _ ⟨⟩
  | mainFile index =>
      cases index with
      | none => cases noticed
      | some index =>
          cases noticed
          refine .after (file_abides unit _) fun found => ?_
          split
          · exact .pure fun _ _ => by rintro _ ⟨⟩
          · exact .throw _
  | diagnostics items =>
      cases items with
      | none => cases noticed
      | some items =>
          cases noticed
          exact .after (.mapM fun _ _ => diagnostic_abides _) fun _ =>
            .after fresh_abides fun _ => .pure fun _ _ => by rintro _ ⟨⟩
  | included model =>
      cases noticed
      exact (included_keeps unit model).bind fun _ _ _ issued =>
        .pure fun _ => legible_of_location rfl issued
  | imported model =>
      cases noticed
      exact (imported_keeps unit model).bind fun _ _ _ issued =>
        .pure fun _ => legible_of_location rfl issued
  | declaration model =>
      cases noticed
      exact (declaration_keeps unit model).bind fun _ _ _ issued =>
        .pure fun _ => legible_of_location rfl issued
  | reference model =>
      cases noticed
      exact (reference_keeps unit model).bind fun _ _ _ issued =>
        .pure fun _ => legible_of_location rfl issued

end Snapshot

namespace IndexingRun

/-- An indexing run has kept a watch since a session, and may be read what it has told. -/
structure Keeps (watch : Watch) (begun : Session) (run : IndexingRun) : Prop where
  /-- The session of the run is in the relation to the one before it. -/
  relation : watch.relation begun run.session
  /-- What is true of every session is true of that of the run. -/
  holds : watch.holds run.session
  /-- What was told may be read. -/
  notices : ∀ notice ∈ run.notices, notice.Legible watch run.session

variable {run : IndexingRun}

omit [Steady watch] in
/-- To ask a hook whether to abort changes neither the session nor what was told. -/
theorem Keeps.query (keeps : run.Keeps watch begun) (hooks : Hooks) :
    (run.query hooks).1.Keeps watch begun := by
  unfold IndexingRun.query
  split
  · exact keeps
  · exact keeps
  · split <;> exact ⟨keeps.relation, keeps.holds, keeps.notices⟩

omit [Steady watch] in
/-- A hook is told of a notice that may be read. -/
theorem Keeps.tell (keeps : run.Keeps watch begun) (hooks : Hooks) {notice : Notice}
    (new : notice.Legible watch run.session) : (run.tell hooks notice).Keeps watch begun := by
  unfold IndexingRun.tell
  split
  · exact keeps
  · refine ⟨keeps.relation, keeps.holds, fun other member => ?_⟩
    rcases List.mem_append.mp member with old | last
    · exact keeps.notices other old
    · rw [List.mem_singleton.mp last]
      exact new

/-- Delivering an event keeps the watch, whether copying it or its hook fails or not. -/
theorem Keeps.deliver (keeps : run.Keeps watch begun) (hooks : Hooks) (unit : Nat)
    (event : Library.Event) : (run.deliver hooks unit event).Keeps watch begun := by
  unfold IndexingRun.deliver
  split
  · exact keeps
  · exact keeps
  · next snapshot _ copied =>
      obtain ⟨related, held, legible⟩ :=
        Snapshot.notice?_keeps copied run.session (Steady.refl run.session) keeps.holds
      have kept : ∀ notice ∈ run.notices,
          notice.Legible watch (snapshot.outcome run.session).2 := fun notice member =>
        (keeps.notices notice member).lasts related
      have reached := Steady.trans keeps.relation related
      rcases ended : snapshot.outcome run.session with ⟨failure | notice, session⟩
      all_goals rw [ended] at held legible kept reached
      · exact ⟨reached, held, kept⟩
      · have copiedRun : Keeps watch begun { run with session := session } := ⟨reached, held, kept⟩
        exact copiedRun.tell hooks (legible notice rfl)

end IndexingRun

namespace IndexAction

/-- An action becomes a holder below its index. -/
theorem make_abides (index : Option Passed) : Abides watch begun (make index) :=
  .bind (Index.orNew_abides index) fun _ => .bind (.passed _) fun _ =>
    .bind (.call ⟨createAction_leaves _, createAction_square _⟩) fun _ =>
      .bind (.wrap _ _ rfl) fun _ => .bind (.adopt _ _) fun _ => .pure _

/-- Whatever hooks fail at whatever events, what they were told may be read. -/
theorem index_keeps (action : Nat) (unit : Passed) (hooks : Hooks) (options : Datum) :
    Facade.Keeps watch begun (index action unit hooks options) fun later answer =>
      ∀ notice ∈ answer.1, notice.Legible watch later := by
  refine .after (.handle action) fun actionHandle => .after (.ofExcept _) fun word => ?_
  refine .after (.passed unit) ?_
  rintro ⟨number, handle⟩
  refine .after (.call ⟨beginIndexing_leaves _ _ _ _, beginIndexing_square _ _ _ _⟩)
    fun events => ?_
  refine .getThen fun session reached held => ?_
  have begunRun : IndexingRun.Keeps watch session ⟨session, 0, [], none⟩ :=
    ⟨Steady.refl session, held, by simp⟩
  have ended : IndexingRun.Keeps watch session
      (Library.report (IndexingRun.listener hooks number) hooks.installed
        session.library.reply.ignoreAbort events ⟨session, 0, [], none⟩) :=
    Library.report_preserves (fun _ kept => kept.query hooks)
      (fun event _ kept => kept.deliver hooks number event) _ _ events begunRun
  refine Facade.Keeps.setThen ended.relation ended.holds ?_
  have told (later : Session) (grown : watch.relation _ later) :=
    fun notice member => (ended.notices notice member).lasts grown
  split
  · exact .pure told
  · exact .ite (fun _ => .pure told) fun _ =>
      .after (CompilationUnit.spelling_abides _) fun _ => .pure told

/-- An event after the run leaves a line in the log at most. -/
theorem late_abides (event : Library.Event) : Abides watch begun (late event) := by
  refine .bind .get fun session => .ite (.pure _) ?_
  split
  · exact .pure _
  · exact .pure _
  · exact .pure _
  · exact .bind (.record _ _) fun _ => .pure _

end IndexAction

end Indexing

section Producing

variable [Producing watch]

/-- A request that keeps the script may put other models behind handles. -/
theorem Facade.Abides.produce {α : Type} {request : Library.Call α}
    (script : request.Leaves Library.State.SameScript) (debts : request.Square) :
    Abides watch begun (call request) :=
  .of_allows fun session _ => Producing.produces (script session.library) fun origin debt =>
    debts debt origin session.library

namespace CompilationUnit

/-- Everything is checked and logged before the library parses. -/
theorem parse_abides (full : Bool) (index : Passed) (filename : Option Datum)
    (arguments : List Datum) (unsaved : UnsavedFiles) (options : Datum) :
    Abides watch begun (parse full index filename arguments unsaved options) := by
  refine .bind (.ofExcept _) fun _ => .bind (checkedFiles_abides unsaved) fun _ => ?_
  refine .bind (.optionMapM (fun _ => .ofExcept _) filename) fun _ => ?_
  refine .bind (.record _ _) fun _ => .bind (.passed index) fun _ => .bind (.ofExcept _) fun _ => ?_
  refine .bind
    (.produce (parse_leavesScript _ _ _ _ _ _) (Library.Call.parse_square _ _ _ _ _ _)) ?_
  rintro ⟨status, unit⟩
  refine .bind (.ofExcept _) fun _ => .ite (.throwThen _) ?_
  cases unit with
  | none => exact .throw _
  | some unit => exact .pure _

/-- A parsed file becomes a unit below the index that was given or made. -/
theorem parseFile_abides (index : Option Passed) (filename arguments : Option Datum)
    (unsaved : UnsavedFiles) (options : Datum) (overlay : Option UnsavedFile) :
    Abides watch begun (parseFile index filename arguments unsaved options overlay) :=
  .bind (Index.orNew_abides index) fun _ => .bind (argumentsOf_abides arguments) fun _ =>
    .bind (parse_abides _ _ _ _ _ _) fun _ => wrap_abides _ _ _

/-- A source text is parsed under a name that is made for it. -/
theorem ofSource_abides (index : Option Passed) (source language : Datum)
    (arguments : Option Datum) (unsaved : UnsavedFiles) (options : Datum) :
    Abides watch begun (ofSource index source language arguments unsaved options) :=
  have named : Abides watch begun generatedName :=
    .bind (.modify fun _ => .of_same rfl rfl rfl rfl (Nat.le_refl _)) fun _ =>
      .bind .get fun _ => .pure _
  .bind named fun _ =>
    .bind (.ofExcept _) fun _ => .bind (.ofExcept _) fun _ => parseFile_abides _ _ _ _ _ _

/-- A stored unit has new models, like one that is parsed. -/
theorem ofStored_abides (index : Option Passed) (path : Datum) :
    Abides watch begun (ofStored index path) := by
  refine .bind (.ofExcept _) fun path => .bind .get fun session => .ite (.throwThen _) ?_
  refine .bind (Index.orNew_abides index) fun index => .bind (.passed index) fun passed => ?_
  refine .bind (.produce (loadUnit_leavesScript _ _) (loadUnit_square _ _)) ?_
  rintro ⟨status, unit⟩
  refine .ite (.throwThen _) (.ite (.throwThen _) ?_)
  cases unit with
  | none => exact .throw _
  | some unit => exact wrap_abides _ _ _

/-- A command without arguments is refused before an index is made. -/
theorem ofCommand_abides (index : Option Passed) (command : CompileCommand)
    (unsaved : UnsavedFiles) (options : Datum) :
    Abides watch begun (ofCommand index command unsaved options) :=
  .ite (.throwThen _) (.bind (Index.orNew_abides index) fun _ =>
    .bind (parse_abides _ _ _ _ _ _) fun _ => wrap_abides _ _ _)

/-- Everything that comes before a unit is parsed again keeps the watch. -/
theorem resubmission_abides (unit : Nat) (unsaved : UnsavedFiles) (options : Option Datum) :
    Abides watch begun (resubmission unit unsaved options) := by
  refine .bind (optionsOr_abides (defaultReparseOptions_abides unit) options) fun _ => ?_
  refine .bind (.handle unit) fun _ => .bind (.closeDependants unit) fun _ => ?_
  refine .bind (overlay_abides unit) fun _ => .bind (checkedFiles_abides unsaved) fun _ => ?_
  exact .bind (.ofExcept _) fun _ => .pure _

/-- What is parsed again is what the holder has at first. -/
theorem resubmission_handle {session : Session} (unit : Nat) (unsaved : UnsavedFiles)
    (options : Option Datum) :
    Gives session (resubmission unit unsaved options) fun _ request =>
      session.estate.handle? unit = some request.handle := by
  refine (optionsOr_gives unit options).bind fun options second sameEstate => ?_
  rw [← sameEstate]
  refine (Gives.handle unit).bind ?_
  rintro handle _ ⟨rfl, held⟩
  exact .last fun _ _ => .last fun _ _ => .last fun _ _ => .last fun _ _ => .pure held

/-- To parse something again that is no index puts no model behind an index. -/
theorem resubmit_abides (unit : Nat) {request : Resubmission}
    (sorted : request.handle.sort ≠ .index) : Abides watch begun (resubmit unit request) := by
  refine .bind (.produce (reparse_leavesScript sorted _ _) (Library.Call.reparse_square _ _ _))
    fun _ => ?_
  exact .ite (.bind (spelling_abides unit) fun _ => .bind (.close unit) fun _ => .throw _)
    (.pure _)

/-- Parsing again something that is no index keeps the watch. -/
theorem reparse_ends {session : Session} (held : watch.holds session) {unit : Nat}
    (sorted : ∀ handle, session.estate.handle? unit = some handle → handle.sort ≠ .index)
    (unsaved : UnsavedFiles) (options : Option Datum) :
    watch.Ends session (fun _ _ => True) ((reparse unit unsaved options).outcome session) := by
  rw [reparse_eq]
  refine Ends.bind (resubmission_abides unit unsaved options session (Steady.refl session) held)
    fun request later found heldLater _ => ?_
  have apart := sorted _ (resubmission_handle unit unsaved options request later found)
  exact resubmit_abides unit apart later (Steady.refl later) heldLater

end CompilationUnit

namespace CompilationDatabase

/-- A database that is opened with an error status is disposed of before that is reported. -/
theorem load_abides (directory : Datum) : Abides watch begun (load directory) := by
  refine .bind (.ofExcept _) fun directory => .bind .get fun session => .ite (.throwThen _) ?_
  refine .bind (.produce (openDatabase_leavesScript _) (openDatabase_square _)) ?_
  rintro ⟨handle, status⟩
  refine .ite ?_ (.bind (.wrap _ _ rfl) fun _ => .bind (.record _ _) fun _ => .pure _)
  cases handle with
  | none => exact .throw _
  | some handle =>
      exact .bind (.call ⟨dispose_leaves handle, dispose_square handle⟩) fun _ => .throw _

end CompilationDatabase

end Producing

end Custody
