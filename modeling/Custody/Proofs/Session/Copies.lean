import Custody.Proofs.Session.Units
import Custody.Session.Database
import Custody.Session.Indexing

/-!
# The conduct of copying operations

Compile commands and the events of an indexing run are copied.  A list of commands
is given back whether or not copying succeeds, and a database remembers the copies.
An indexing run reads the unit for every event until something fails; what its hooks
are told belongs to the unit.
-/

namespace Custody

open Facade

variable {holdings : Holdings}

namespace CompilationDatabase

/-- Opening a database founds a holder, or gives back at once what came with a bad status. -/
theorem load_runs (directory : Datum) :
    Runs holdings (load directory) fun _ _ => True := by
  refine (Reads.ofExcept _).thenRuns fun directory _ => Reads.get.thenRuns fun session _ => ?_
  dsimp only
  split
  · exact .throwThen _
  refine callThen (Library.Call.openDatabase_ensures directory.encode) ?_
  rintro ⟨handle, status⟩ books granted
  dsimp only at granted ⊢
  rcases granted with ⟨rfl, rfl⟩ | ⟨rfl, rfl⟩
  · rw [if_pos (.inr rfl)]
    exact Ensures.throwThen ⟨.refl, by simp⟩
  · split
    · refine (pass_ensures .database).bind ?_ (by simp)
      rintro _ later ⟨_, course⟩
      exact Ensures.throwThen ⟨course, by simp⟩
    · refine (found_ensures (.database directory none)).bind ?_ (by simp)
      rintro number later ⟨_, course⟩
      refine (record_reads _ _).andThen (fun _ _ => ?_) fun _ => ⟨course, by simp⟩
      exact Ensures.pure ⟨course, fun _ _ => True.intro⟩

theorem lend_reads (data : Option Bytes) :
    Reads holdings (borrowed (Library.Call.lend data)) fun _ => True :=
  borrowed_reads (Library.Call.lend_consults data)

/-- Each text of a command is lent and read at once. -/
theorem copy_reads (command : Library.CommandModel) :
    Reads holdings (copy command) fun _ => True :=
  (lend_reads command.directory).bind fun _ _ => (lend_reads command.filename).bind fun _ _ =>
    (Reads.mapM_trivial fun argument _ => lend_reads argument).bind fun _ _ =>
      fresh_reads.bind fun _ _ => .pure True.intro

/-- A command that is missing ends the copying. -/
theorem copyAll_reads (position : Nat) (items : List (Option Library.CommandModel)) :
    Reads holdings (copyAll position items) fun _ => True := by
  induction items generalizing position with
  | nil => exact .pure True.intro
  | cons item rest inductionHypothesis =>
      cases item with
      | none => exact .throw _
      | some command =>
          exact (copy_reads command).bind fun _ _ =>
            (inductionHypothesis (position + 1)).bind fun _ _ => .pure True.intro

/-- Copying a list of commands gives it back, even if the copying fails. -/
theorem snapshot_ensures (valid : holdings.Valid) :
    Ensures (holdings.grant .commands none)
      (snapshot (some (holdings.ledger.fresh .commands))) fun _ later => holdings.Course later := by
  refine consultThen (Library.Call.commandItems_consults (valid.good_fresh .commands)) ?_
  intro items _
  refine (Ensures.attempt (copyAll_reads 0 items)).bind ?_ (by simp)
  rintro _ _ ⟨result, ⟨⟩, rfl, _⟩
  refine (pass_ensures .commands).bind ?_ (by simp)
  rintro _ later ⟨_, course⟩
  refine Ensures.mono (Reads.ofExcept _) ?_
  rintro _ _ ⟨rfl, _⟩
  exact course

/-- A list of commands is asked for, copied and given back. -/
theorem copied_runs (valid : holdings.Valid) {request : Library.Call (Option Handle)}
    (requested : Library.Call.Ensures holdings.books request
      (holdings.books.Grants .commands none)) :
    Runs holdings (do snapshot (← Facade.call request)) fun _ _ => True := by
  refine callGrants requested (Ensures.pure ⟨.refl, fun _ _ => True.intro⟩) ?_
  exact (snapshot_ensures valid).mono fun _ _ course => ⟨course, fun _ _ => True.intro⟩

/-- What a database remembers. -/
def remembering (memo : Nat × List CompileCommand) : Wrapper → Wrapper
  | .database directory _ => .database directory (some memo)
  | wrapper => wrapper

/-- A database remembers its commands and nothing else changes. -/
theorem remember_ensures (database : Nat) (memo : Nat × List CompileCommand) :
    Ensures holdings (remember database memo) fun result later =>
      result = .ok () ∧ later = holdings.remember database (remembering memo) := by
  rintro session rfl tidy
  refine ⟨tidy, rfl, ?_⟩
  refine congrArg (fun change => ({ session.holdings with
    estate := session.estate.modify database change } : Holdings)) ?_
  funext ⟨handle, owned, dependants, content⟩
  cases content <;> rfl

/-- To remember makes no other thing of a database. -/
theorem remembering_alike (memo : Nat × List CompileCommand) (wrapper : Wrapper) :
    (remembering memo wrapper).Alike wrapper := by
  cases wrapper <;> exact ⟨rfl, rfl, fun _ => rfl⟩

/-- Only a database remembers. -/
theorem remembering_of_ne (memo : Nat × List CompileCommand) (wrapper : Wrapper)
    (other : wrapper.sort ≠ .database) : remembering memo wrapper = wrapper := by
  cases wrapper with
  | database directory memo => exact absurd rfl other
  | _ => rfl

theorem directory_reads (database : Nat) : Reads holdings (directory database) fun _ => True := by
  refine (holder_reads database).bind fun record _ => ?_
  split
  · exact .pure True.intro
  · exact .throw _

/-- All commands are copied once, and then they are remembered. -/
theorem commands_runs (valid : holdings.Valid) (database : Nat) :
    Runs holdings (commands database) fun _ _ => True := by
  refine (holder_reads database).thenRuns fun record _ => ?_
  split
  · exact .pure True.intro
  · refine (handle_reads database).thenRuns fun handle held => ?_
    refine (copied_runs valid (Library.Call.allCommands_ensures (valid.good_of_held held))).bind
      valid fun commands later laterValid _ _ => ?_
    refine fresh_reads.thenRuns fun serial _ => ?_
    refine (remember_ensures database (serial, commands)).bind ?_ (by simp)
    rintro _ _ ⟨_, rfl⟩
    exact Ensures.pure
      ⟨.single (.remember database (remembering_alike _) (remembering_of_ne _)), fun _ _ => True.intro⟩

/-- The commands for a file are copied each time. -/
theorem commandsFor_runs (valid : holdings.Valid) (database : Nat) (filename : Datum) :
    Runs holdings (commandsFor database filename) fun _ _ => True := by
  refine (handle_reads database).thenRuns fun handle held => ?_
  refine (Reads.ofExcept _).thenRuns fun filename _ => ?_
  exact copied_runs valid (Library.Call.commandsFor_ensures (valid.good_of_held held) filename)

theorem written_reads (database : Nat) : Reads holdings (written database) fun _ => True :=
  (directory_reads database).bind fun _ _ => .pure True.intro

end CompilationDatabase

section Snapshots

/-- A copy of an entity belongs to a unit if its cursor does. -/
def Entity.Anchored (made : List Handle) (entity : Entity) : Prop :=
  Cursor.AllAnchored made entity.cursor

/-- An entity that may be absent is anchored if it is there. -/
def Entity.AllAnchored (made : List Handle) (entity : Option Entity) : Prop :=
  ∀ present, entity = some present → present.Anchored made

/-- A file that may be absent is anchored if it is there. -/
def File.AllAnchored (made : List Handle) (file : Option File) : Prop :=
  ∀ present, file = some present → present.Anchored made

/-- A notice belongs to a unit if all that was copied into it does. -/
def Notice.Anchored (made : List Handle) : Notice → Prop
  | .started => True
  | .mainFile file => file.Anchored made
  | .diagnostics _ _ => True
  | .included item => File.AllAnchored made item.file ∧ item.hashLocation.Anchored made
  | .imported item => File.AllAnchored made item.file ∧ item.location.Anchored made
  | .declaration item =>
      Cursor.AllAnchored made item.cursor ∧ Entity.AllAnchored made item.entity ∧
        item.location.Anchored made ∧ Cursor.AllAnchored made item.semanticContainer ∧
        Cursor.AllAnchored made item.lexicalContainer
  | .reference item =>
      Cursor.AllAnchored made item.cursor ∧ item.location.Anchored made ∧
        Entity.AllAnchored made item.referenced ∧ Entity.AllAnchored made item.parent ∧
        Cursor.AllAnchored made item.container

variable {made later : List Handle}

theorem Cursor.AllAnchored.mono {cursor : Option Cursor} (anchored : Cursor.AllAnchored made cursor)
    (grown : made <+: later) : Cursor.AllAnchored later cursor :=
  fun found present => (anchored found present).mono grown

theorem Entity.AllAnchored.mono {entity : Option Entity} (anchored : Entity.AllAnchored made entity)
    (grown : made <+: later) : Entity.AllAnchored later entity :=
  fun found present => Cursor.AllAnchored.mono (anchored found present) grown

theorem File.AllAnchored.mono {file : Option File} (anchored : File.AllAnchored made file)
    (grown : made <+: later) : File.AllAnchored later file :=
  fun found present => (anchored found present).mono grown

/-- What a hook is told stays anchored when more is made. -/
theorem Notice.Anchored.mono {notice : Notice} (anchored : notice.Anchored made)
    (grown : made <+: later) : notice.Anchored later := by
  cases notice with
  | started => exact True.intro
  | mainFile file => exact File.Anchored.mono anchored grown
  | diagnostics serial items => exact True.intro
  | included item => exact ⟨anchored.1.mono grown, anchored.2.mono grown⟩
  | imported item => exact ⟨anchored.1.mono grown, anchored.2.mono grown⟩
  | declaration item =>
      obtain ⟨cursor, entity, location, semantic, lexical⟩ := anchored
      exact ⟨cursor.mono grown, entity.mono grown, location.mono grown, semantic.mono grown,
        lexical.mono grown⟩
  | reference item =>
      obtain ⟨cursor, location, referenced, parent, container⟩ := anchored
      exact ⟨cursor.mono grown, location.mono grown, referenced.mono grown, parent.mono grown,
        container.mono grown⟩

end Snapshots

namespace Snapshot

variable (valid : holdings.Valid) (unit : Nat)

section Objects

include valid

/-- The cursor of an event is anchored in the unit that is indexed. -/
theorem cursor_reads (index : Option Nat) :
    Reads holdings (cursor unit index) (Cursor.AllAnchored holdings.made) := by
  refine (handle_reads unit).bind fun handle held => Reads.get.bind fun session _ => ?_
  refine Cursor.wrap_reads (fun found present => ?_) (by simp)
  obtain ⟨number, _, rfl⟩ := Option.map_eq_some_iff.mp present
  exact valid.orderly.made_of_held held

theorem container_reads (model : Library.ContainerModel) :
    Reads holdings (container unit model) (Cursor.AllAnchored holdings.made) := by
  cases model with
  | none => exact .pure (by simp [Cursor.AllAnchored])
  | some index => exact cursor_reads valid unit index

/-- The file of an event is anchored in the unit that is indexed. -/
theorem file_reads (index : Option Nat) :
    Reads holdings (file unit index) (File.AllAnchored holdings.made) := by
  cases index with
  | none => exact .pure (by simp [File.AllAnchored])
  | some index =>
      refine (handle_reads unit).bind fun handle held => Reads.get.bind fun session _ => ?_
      refine (File.wrap_reads (valid.orderly.made_of_held held)).bind fun file anchored => .pure ?_
      rintro _ ⟨⟩
      exact anchored

theorem location_reads (spot : Option Spot) :
    Reads holdings (location unit spot) fun location => location.Anchored holdings.made :=
  (handle_reads unit).bind fun _ held => Reads.get.bind fun session _ =>
    Location.wrap_reads (session.library.inSpace_locate _ spot) (valid.orderly.made_of_held held)

/-- The cursor of an entity is anchored in the unit that is indexed. -/
theorem entity_reads (model : Option Library.EntityModel) :
    Reads holdings (entity unit model) (Entity.AllAnchored holdings.made) := by
  cases model with
  | none => exact .pure (by simp [Entity.AllAnchored])
  | some model =>
      refine (Reads.ofExcept _).bind fun kind _ => ?_
      refine (cursor_reads valid unit model.cursor).bind fun cursor anchored => ?_
      refine fresh_reads.bind fun _ _ => .pure ?_
      rintro _ ⟨⟩
      exact anchored

end Objects

/-- A diagnostic is copied as text and numbers. -/
theorem diagnostic_reads (model : Library.DiagnosticModel) :
    Reads holdings (diagnostic model) fun _ => True :=
  Reads.get.bind fun _ _ => (Reads.ofExcept _).bind fun _ _ =>
    (borrowed_reads (Library.Call.lend_consults _)).bind fun _ _ =>
      (borrowed_reads (Library.Call.lend_consults _)).bind fun _ _ =>
        fresh_reads.bind fun _ _ => .pure True.intro

include valid

/-- An inclusion is anchored by its file and its location. -/
theorem included_reads (model : Library.IncludedModel) :
    Reads holdings (included unit model) fun item =>
      Notice.Anchored holdings.made (.included item) :=
  (file_reads valid unit model.file).bind fun _ fileAnchored =>
    (location_reads valid unit model.spot).bind fun _ locationAnchored =>
      fresh_reads.bind fun _ _ => .pure ⟨fileAnchored, locationAnchored⟩

/-- An import is anchored by its file and its location. -/
theorem imported_reads (model : Library.ImportedModel) :
    Reads holdings (imported unit model) fun item =>
      Notice.Anchored holdings.made (.imported item) :=
  (file_reads valid unit model.file).bind fun _ fileAnchored =>
    (location_reads valid unit model.spot).bind fun _ locationAnchored =>
      fresh_reads.bind fun _ _ => .pure ⟨fileAnchored, locationAnchored⟩

/-- A declaration is anchored by its cursors, its entity and its location. -/
theorem declaration_reads (model : Library.DeclarationModel) :
    Reads holdings (declaration unit model) fun item =>
      Notice.Anchored holdings.made (.declaration item) := by
  refine (cursor_reads valid unit model.cursor).bind fun cursor cursorAnchored => ?_
  refine (entity_reads valid unit model.entity).bind fun entity entityAnchored => ?_
  refine (location_reads valid unit model.spot).bind fun location locationAnchored => ?_
  refine (container_reads valid unit model.semantic).bind fun semantic semanticAnchored => ?_
  refine (container_reads valid unit model.lexical).bind fun lexical lexicalAnchored => ?_
  exact fresh_reads.bind fun _ _ => .pure
    ⟨cursorAnchored, entityAnchored, locationAnchored, semanticAnchored, lexicalAnchored⟩

/-- A reference is anchored by its cursors, its entities and its location. -/
theorem reference_reads (model : Library.ReferenceModel) :
    Reads holdings (reference unit model) fun item =>
      Notice.Anchored holdings.made (.reference item) := by
  refine (Reads.ofExcept _).bind fun kind _ => ?_
  refine (cursor_reads valid unit model.cursor).bind fun cursor cursorAnchored => ?_
  refine (location_reads valid unit model.spot).bind fun location locationAnchored => ?_
  refine (entity_reads valid unit model.entity).bind fun referenced referencedAnchored => ?_
  refine (entity_reads valid unit model.parent).bind fun parent parentAnchored => ?_
  refine (container_reads valid unit model.container).bind fun container containerAnchored => ?_
  exact fresh_reads.bind fun _ _ => .pure
    ⟨cursorAnchored, locationAnchored, referencedAnchored, parentAnchored, containerAnchored⟩

/-- Copying an event reads the unit. -/
theorem notice?_reads {event : Library.Event} {snapshot : Facade Notice}
    (payload : notice? unit event = some snapshot) :
    Reads holdings snapshot (Notice.Anchored holdings.made) := by
  cases event with
  | started =>
      cases payload
      exact .pure True.intro
  | mainFile index =>
      cases index with
      | none => cases payload
      | some index =>
          cases payload
          refine (file_reads valid unit (some index)).bind fun file anchored => ?_
          split
          · next file => exact .pure (anchored file rfl)
          · exact .throw _
  | diagnostics items =>
      cases items with
      | none => cases payload
      | some items =>
          cases payload
          exact (Reads.mapM_trivial fun item _ => diagnostic_reads item).bind fun _ _ =>
            fresh_reads.bind fun _ _ => .pure True.intro
  | included model =>
      cases payload
      exact (included_reads valid unit model).bind fun _ anchored => .pure anchored
  | imported model =>
      cases payload
      exact (imported_reads valid unit model).bind fun _ anchored => .pure anchored
  | declaration model =>
      cases payload
      exact (declaration_reads valid unit model).bind fun _ anchored => .pure anchored
  | reference model =>
      cases payload
      exact (reference_reads valid unit model).bind fun _ anchored => .pure anchored

end Snapshot

/-- Whatever queries and deliveries preserve holds after all events were reported. -/
theorem Library.report_preserves {σ : Type} {listener : Library.Listener σ} {holds : σ → Prop}
    (queries : ∀ state, holds state → holds (listener.query state).1)
    (delivers : ∀ event state, holds state → holds (listener.deliver event state))
    (installed : List Library.Station) (ignoreAbort : Bool) (events : List Library.Event)
    {state : σ} (begun : holds state) :
    holds (Library.report listener installed ignoreAbort events state) := by
  induction events generalizing state with
  | nil => exact begun
  | cons event rest inductionHypothesis =>
      have asked := queries state begun
      unfold Library.report
      rcases answer : listener.query state with ⟨next, stop⟩
      rw [answer] at asked
      dsimp only at asked ⊢
      split
      · exact asked
      · refine inductionHypothesis ?_
        split
        · exact delivers event _ asked
        · exact asked

namespace IndexingRun

/-- A run on given holdings leaves them alone, and what it told belongs to the unit. -/
structure Sound (holdings : Holdings) (run : IndexingRun) : Prop where
  /-- The holdings are left alone. -/
  holdings_eq : run.session.holdings = holdings
  /-- The session stays tidy. -/
  tidy : run.session.Tidy
  /-- What hooks were told belongs to the unit. -/
  anchored : ∀ notice ∈ run.notices, notice.Anchored holdings.made

variable {hooks : Hooks} {run : IndexingRun}

/-- To ask a hook whether to abort keeps a run sound. -/
theorem Sound.query (sound : run.Sound holdings) : (query hooks run).1.Sound holdings := by
  unfold IndexingRun.query
  split
  · exact sound
  · exact sound
  · split <;> exact ⟨sound.holdings_eq, sound.tidy, sound.anchored⟩

/-- A hook is told of what is anchored. -/
theorem Sound.tell {notice : Notice} (sound : run.Sound holdings)
    (belongs : notice.Anchored holdings.made) : (tell hooks notice run).Sound holdings := by
  unfold IndexingRun.tell
  split
  · exact sound
  · refine ⟨sound.holdings_eq, sound.tidy, fun told member => ?_⟩
    rcases List.mem_append.mp member with old | new
    · exact sound.anchored told old
    · rw [List.mem_singleton.mp new]
      exact belongs

/-- To deliver an event keeps a run sound, whether copying it fails or not. -/
theorem Sound.deliver (sound : run.Sound holdings) (valid : holdings.Valid) (unit : Nat)
    (event : Library.Event) : (deliver hooks unit event run).Sound holdings := by
  unfold IndexingRun.deliver
  split
  · exact sound
  · exact sound
  · next snapshot _ payload =>
      obtain ⟨tidy, same, fits⟩ :=
        Snapshot.notice?_reads valid unit payload run.session sound.holdings_eq sound.tidy
      split
      · next failed =>
          rw [failed] at tidy same
          exact ⟨same, tidy, sound.anchored⟩
      · next notice session succeeded =>
          rw [succeeded] at tidy same fits
          exact Sound.tell ⟨same, tidy, sound.anchored⟩ (fits notice rfl)

end IndexingRun

namespace IndexAction

/-- Making an indexing session derives a holder from its index. -/
theorem make_runs (valid : holdings.Valid) (index : Option Passed) :
    Runs holdings (make index) fun _ _ => True := by
  refine (Index.orNew_runs index).bind valid fun index later laterValid _ _ => ?_
  refine (passed_reads index).thenRuns ?_
  rintro ⟨number, upper⟩ held
  have good := laterValid.good_of_held held
  refine callGrants (Library.Call.createAction_ensures good) ?_ ?_
  · exact Ensures.throwThen ⟨.refl, by simp⟩
  · exact (derive_ensures held .action).mono fun _ _ derived => ⟨derived.2, fun _ _ => True.intro⟩

/-- Indexing a unit leaves the holdings alone. -/
theorem index_reads (valid : holdings.Valid) (action : Nat) (unit : Passed) (hooks : Hooks)
    (options : Datum) :
    Reads holdings (index action unit hooks options) fun answer =>
      ∀ notice ∈ answer.1, Notice.Anchored holdings.made notice := by
  refine (handle_reads action).bind fun actionHandle heldAction => ?_
  refine (Reads.ofExcept _).bind fun options _ => (passed_reads unit).bind ?_
  rintro ⟨number, unitHandle⟩ heldUnit
  refine (call_reads (Library.Call.beginIndexing_consults (valid.good_of_held heldAction)
    (valid.good_of_held heldUnit) options hooks.installed)).bind fun events _ => ?_
  refine Reads.get.bind ?_
  rintro session ⟨same, tidy⟩
  have begun : IndexingRun.Sound holdings ⟨session, 0, [], none⟩ := ⟨same, tidy, by simp⟩
  have sound : IndexingRun.Sound holdings (Library.report (IndexingRun.listener hooks number)
      hooks.installed session.library.reply.ignoreAbort events ⟨session, 0, [], none⟩) :=
    Library.report_preserves (fun _ sound => sound.query)
      (fun event _ sound => sound.deliver valid number event) _ _ events begun
  refine (Reads.set sound.holdings_eq sound.tidy).bind fun _ _ => ?_
  split
  · exact .pure sound.anchored
  · refine .ite (fun _ => .pure sound.anchored) fun _ => ?_
    exact (CompilationUnit.spelling_reads valid number).bind fun _ _ => .pure sound.anchored

theorem late_reads (event : Library.Event) : Reads holdings (late event) fun _ => True := by
  refine Reads.get.bind fun session _ => .ite (fun _ => .pure True.intro) fun _ => ?_
  split
  · exact .pure True.intro
  · exact .pure True.intro
  · exact .pure True.intro
  · exact (record_reads _ _).bind fun _ _ => .pure True.intro

end IndexAction
end Custody
