import Custody.Proofs.Scenario.QuerySweep
import Custody.Proofs.Scenario.Steps

/-!
# Scenarios under a watch

An operation produces models when it makes a unit, a set or a database or parses a unit again, and
it revises when it makes an unsaved file or assigns a part of anything.  The operations of scenarios
are walked once: those that produce for every watch that allows for producing, those that revise for
every watch that allows for revising, and all others for every watch that allows for recording where
locations lie.  So a watch that suits all steps of a run is kept in the whole run, and the named
values fit.
-/

namespace Custody

open Facade Watch

variable {watch : Watch} {begun : Session}

namespace Scenario

namespace Operation

/-- An operation produces models if it makes a unit, a set or a database or parses a unit again. -/
def producesModels : Operation → Bool
  | .parseFile _ _ _ => true
  | .parseWith _ _ _ => true
  | .parseSource _ _ _ _ => true
  | .parseCommand _ _ _ => true
  | .loadUnit _ _ => true
  | .loadWith _ _ => true
  | .reparse _ _ _ => true
  | .loadDiagnostics _ => true
  | .openDatabase _ => true
  | _ => false

/-- An operation revises if it makes an unsaved file or assigns a part of anything. -/
def isRevision : Operation → Bool
  | .newUnsaved _ _ => true
  | .assign _ _ _ => true
  | _ => false

/-- Making a unit, a set or a database is not making or changing an unsaved file. -/
theorem isRevision_of_producesModels {operation : Operation}
    (producing : operation.producesModels = true) : operation.isRevision = false := by
  cases operation with
  | newUnsaved filename contents => cases producing
  | assign target part datum => cases producing
  | _ => rfl

/-- The command that an operation makes may be handed out, if it makes one. -/
def MakesAdmitted (watch : Watch) : Operation → Prop
  | .newCommand directory filename arguments => ∀ serial items, arguments.toItems = .ok items →
      watch.admits ⟨serial, directory, filename, items⟩
  | _ => True

/-- Where every command may be handed out, no operation makes another. -/
theorem makesAdmitted_of_forall (all : ∀ command, watch.admits command) (operation : Operation) :
    operation.MakesAdmitted watch := by
  cases operation with
  | newCommand directory filename arguments => exact fun _ _ _ => all _
  | _ => exact True.intro

/-- A watch allows for what an operation does. -/
structure Suits (operation : Operation) (watch : Watch) : Prop where
  /-- The watch allows for recording, unless the operation produces or revises. -/
  records : operation.producesModels = false → operation.isRevision = false → Recording watch
  /-- The watch allows for producing if the operation produces. -/
  produces : operation.producesModels = true → Producing watch
  /-- The watch allows for revising if the operation revises. -/
  revises : operation.isRevision = true → Revising watch
  /-- The command that the operation makes may be handed out. -/
  admits : operation.MakesAdmitted watch

/-- A watch that allows for everything, and hands out all commands, suits every operation. -/
theorem suits_of_forall [Recording watch] [Producing watch] [Revising watch]
    (all : ∀ command, watch.admits command) (operation : Operation) : operation.Suits watch where
  records _ _ := inferInstance
  produces _ := inferInstance
  revises _ := inferInstance
  admits := operation.makesAdmitted_of_forall all

end Operation

variable {names : Names}

/-- All named values fit. -/
def NamesFit (watch : Watch) (session : Session) (names : Names) : Prop :=
  ∀ entry ∈ names, entry.2.Fits watch session

/-- A watch on a relation alone asks nothing of the named values. -/
theorem namesFit_of (relation : Session → Session → Prop) :
    NamesFit (Watch.of relation) begun names := fun entry _ => entry.2.fits_of relation

/-- The named values fit all later sessions. -/
theorem NamesFit.lasts [Steady watch] {later : Session} (fits : NamesFit watch begun names)
    (grown : watch.relation begun later) : NamesFit watch later names :=
  fun entry listed => (fits entry listed).lasts grown

section Steady

variable [Steady watch]

section Targets

variable (fits : NamesFit watch begun names)
include fits

/-- What a target denotes is reached from a named value by picking items. -/
theorem Target.value_offers (target : Target) : Offers watch begun (target.value names) := by
  cases target with
  | unnamed => exact .throw _
  | named name items =>
      unfold Target.value
      dsimp only
      split
      · exact .throw _
      · next value found =>
          have held : value.Fits watch begun := fits _ (List.mem_of_find?_eq_some found)
          clear * - held
          induction items generalizing begun value with
          | nil => exact .pure fun _ => held.lasts
          | cons item rest inductionHypothesis =>
              rw [List.foldlM_cons]
              refine Keeps.bind (.after (.ofExcept _) fun _ => Value.item_offers _ held) ?_
              exact fun next _ _ reached => inductionHypothesis next reached

/-- To find what a target denotes makes diagnostics at most. -/
theorem Target.value_abides (target : Target) : Abides watch begun (target.value names) :=
  (target.value_offers fits).abides

/-- An unsaved file is given outright or is a named one as it is at present. -/
theorem UnsavedSource.file_abides (source : UnsavedSource) :
    Abides watch begun (source.file names) := by
  cases source with
  | given filename contents => exact .bind (.ofExcept _) fun _ => .pure _
  | made target =>
      refine .bind (target.value_abides fits) fun value => ?_
      split
      · exact .bind .get fun _ => .pure _
      · exact .pure _

/-- The unsaved files of a call are found one after the other. -/
theorem unsavedFiles_abides (sources : List UnsavedSource) :
    Abides watch begun (sources.mapM (·.file names)) :=
  .mapM fun source _ => UnsavedSource.file_abides fits source

/-- An index need not be given. -/
theorem indexOf_abides (target : Option Target) : Abides watch begun (indexOf names target) := by
  cases target with
  | none => exact .pure _
  | some target => exact .bind (target.value_abides fits) fun _ => .pure _

end Targets

section Assigning

/-- Settings change no holder and nothing of the library. -/
theorem configure_abides (settings : Settings) : Abides watch begun (configure settings) :=
  .bind .get fun _ =>
    .ite (.throwThen _) (.modify fun _ => .of_same rfl rfl rfl rfl (Nat.le_refl _))

/-- A mark that a value cannot have is refused. -/
theorem putMark_abides (value : Value) (name : Text) (datum : Datum) :
    Abides watch begun (putMark value name datum) := by
  unfold putMark
  split
  · refine .bind (Value.isMarkable_abides _ value) fun _ => ?_
    exact .ite (Facade.putMark_abides _ _ datum) (.throw _)
  · exact .throw _

/-- The unsaved file that a value is, or whose slot it is. -/
def unsavedNumber? : Value → Option Nat
  | .unsaved number => some number
  | .slot number => some number
  | _ => none

/-- Setting the options of what is an index keeps a watch. -/
theorem setGlobalOptions_ends {session : Session} (held : watch.holds session)
    (valid : session.holdings.Valid) {number : Nat}
    (indexed : session.estate.content? number = some .index) (options : Datum) :
    watch.Ends session (fun _ _ => True)
      ((Index.setGlobalOptions number options).outcome session) := by
  have read : Abides watch session (handle number) := .handle number
  refine Ends.bind (read.ends held) fun handle later found heldLater _ => ?_
  obtain ⟨rfl, present⟩ := Gives.handle number handle later found
  have sorted : handle.sort = .index :=
    valid.founded.sort_eq indexed (valid.orderly.made_of_held present)
  have set (word : Int) : Abides watch later
      (Facade.call (Library.Call.setGlobalOptions handle word)) :=
    .call ⟨Library.Call.setGlobalOptions_leaves sorted word,
      Library.Call.setGlobalOptions_square handle word⟩
  exact Keeps.ends (.after (.ofExcept _) set) heldLater

/-- Assigning a part of anything but an unsaved file or its slot keeps a watch. -/
theorem assign_ends_elsewhere {session : Session} (held : watch.holds session)
    (valid : session.holdings.Valid) {value : Value} (elsewhere : unsavedNumber? value = none)
    (part : Text) (datum : Datum) :
    watch.Ends session (fun _ _ => True) ((assign value part datum).outcome session) := by
  have marks : watch.Ends session (fun _ _ => True)
      ((putMark value part datum).outcome session) :=
    (putMark_abides value part datum).ends held
  have fails (failure : Failure) : watch.Ends session (fun _ _ => True)
      ((throw failure : Facade Unit).outcome session) :=
    Keeps.ends (.throw failure) held
  unfold assign
  split
  · cases elsewhere
  · cases elsewhere
  · next number =>
      rw [outcome_bind, holder_outcome]
      cases present : session.estate.get? number with
      | none => exact fails _
      | some record =>
          dsimp only [Option.elim]
          split
          · next indexed =>
              split
              · exact setGlobalOptions_ends held valid
                  (indexed ▸ Estate.content?_of_get? present) datum
              · exact marks
          · exact marks
  · exact fails _
  · exact fails _
  · exact marks

end Assigning

section Placing

/-- A number with a fraction is refused before the library is asked. -/
theorem whole_abides (datum : Datum) : Abides watch begun (whole datum) := by
  unfold whole
  split
  · exact .pure _
  · exact .pure _
  · exact .throw _

/-- The owner is compared before it is asked whether it is open. -/
theorem placeIn_abides (owner file : Value) : Abides watch begun (placeIn owner file) := by
  refine .bind file.owner_abides fun _ => .ite (.throwThen _) ?_
  exact .bind owner.asHolder_abides fun _ => .bind (.ensureOpen _) fun _ =>
    .bind file.asFile_abides fun _ => .pure _

/-- A line and a column are compared with one before anything else is done. -/
theorem locationAt_issues (owner file : Value) (line column : Datum) :
    Locates watch begun (locationAt owner file line column) := by
  refine .after (.ofExcept _) fun _ => .ite (fun _ => .throwThen _) fun _ => ?_
  refine .after (.ofExcept _) fun _ => .ite (fun _ => .throwThen _) fun _ => ?_
  refine .after (placeIn_abides owner file) ?_
  rintro ⟨number, file⟩
  exact .after (whole_abides line) fun _ => .after (whole_abides column) fun _ =>
    Location.ofPosition_issues number file _ _

/-- An offset is compared with zero before anything else is done. -/
theorem locationAtOffset_issues (owner file : Value) (offset : Datum) :
    Locates watch begun (locationAtOffset owner file offset) := by
  refine .after (.ofExcept _) fun _ => .ite (fun _ => .throwThen _) fun _ => ?_
  refine .after (placeIn_abides owner file) ?_
  rintro ⟨number, file⟩
  exact .after (whole_abides offset) fun _ => Location.ofOffset_issues number file _

/-- Two locations of different owners are refused before a range is made. -/
theorem rangeBetween_abides (start finish : Value) :
    Abides watch begun (rangeBetween start finish) := by
  refine .bind start.owner_abides fun owner => .bind finish.owner_abides fun _ => ?_
  refine .ite (.throwThen _) ?_
  split
  · exact .throwThen _
  · exact .bind (.ensureOpen _) fun _ => .bind start.asLocation_abides fun _ =>
      .bind finish.asLocation_abides fun _ => Range.make_abides _ _

/-- An extent of another unit is refused before the library is asked for tokens. -/
theorem tokensIn_abides (unit : Nat) (extent : Value) :
    Abides watch begun (tokensIn unit extent) := by
  unfold tokensIn
  split
  · exact CompilationUnit.tokens_abides unit none
  · exact CompilationUnit.tokens_abides unit _
  · exact .bind (Value.owner_abides _) fun _ => .ite (.throwThen _)
      (.bind (.ensureOpen unit) fun _ => .throw _)

/-- A cursor's tokens are those of its extent, and a unit's are all or those of one given. -/
theorem tokens_abides (value : Value) (extent : Option Value) :
    Abides watch begun (tokens value extent) := by
  unfold tokens
  split
  · exact CompilationUnit.tokensOfCursor_abides _
  · exact .throw _
  · exact .bind (Value.asWrapper_abides _ _) fun unit => tokensIn_abides unit _

/-- A cursor is visited from itself, and a unit from its root. -/
theorem visit_abides (value : Value) (visitor : Visitor) :
    Abides watch begun (visit value visitor) := by
  unfold visit
  split
  · exact Cursor.visitChildren_abides _ visitor
  · exact .bind (Value.asWrapper_abides _ _) fun unit =>
      CompilationUnit.visitChildren_abides unit visitor

/-- Either of the two may be the action, and the hooks are told of what may be read. -/
theorem indexUnit_keeps (receiver argument : Value) (hooks : Hooks) (options : Datum) :
    Keeps watch begun (indexUnit receiver argument hooks options) fun later answer =>
      ∀ notice ∈ answer.1, notice.Legible watch later := by
  refine .after (.attempt (Value.asWrapper_abides _ receiver)) fun asAction => ?_
  refine .after (.attempt (Value.asWrapper_abides _ receiver)) fun asUnit => ?_
  split
  · exact IndexAction.index_keeps _ _ hooks options
  · refine .after (.attempt (Value.asWrapper_abides _ argument)) fun result => ?_
    split
    · exact .throw _
    · exact .after (Value.asWrapper_abides _ argument) fun action =>
        IndexAction.index_keeps action _ hooks options
  · exact .throw _

end Placing

end Steady

/-- The value that an operation names fits, if it names one. -/
def Product.Fits (watch : Watch) (session : Session) (product : Product) : Prop :=
  ∀ value, product.value = some value → value.Fits watch session

/-- An operation yields a product whose value fits. -/
abbrev Produces (watch : Watch) (begun : Session) (action : Facade Product) : Prop :=
  Keeps watch begun action fun later product => product.Fits watch later

section Producing

variable [Steady watch]

omit [Steady watch] in
/-- A product fits by the value that it names. -/
theorem Product.fits_of_value {product : Product} {value : Value}
    (named : product.value = some value) (fits : value.Fits watch begun) :
    product.Fits watch begun := by
  intro other present
  cases named.symm.trans present
  exact fits

/-- An operation that yields nothing names what fits. -/
theorem done_produces : Produces watch begun (pure Product.done) :=
  .pure fun _ _ => Product.fits_of_value rfl True.intro

/-- What is only rendered is not named. -/
theorem ofRendered_produces (rendered : Rendered) :
    Produces watch begun (pure (Product.ofRendered rendered)) := .pure fun _ _ => by rintro _ ⟨⟩

/-- A value that fits now fits once it is named. -/
theorem ofValue_produces {value : Value} (fits : value.Fits watch begun) :
    Produces watch begun (Product.ofValue value) :=
  .after .get fun _ => .pure fun _ grown => Product.fits_of_value rfl (fits.lasts grown)

/-- What an operation offers may be named. -/
theorem offered_produces {action : Facade Value} (offers : Offers watch begun action) :
    Produces watch begun (do Product.ofValue (← action)) :=
  offers.bind fun _ _ _ fits => ofValue_produces fits

/-- What an operation makes without locations and commands is named. -/
theorem plain_produces {α : Type} {action : Facade α} (make : α → Value)
    (abides : Abides watch begun action) (plain : ∀ value, (make value).Fits watch begun) :
    Produces watch begun (do Product.ofValue (make (← action))) :=
  .after abides fun value => ofValue_produces (plain value)

/-- A holder has neither locations nor commands inside it. -/
theorem holder_produces {action : Facade Nat} (abides : Abides watch begun action) :
    Produces watch begun (do Product.ofValue (.holder (← action))) :=
  plain_produces .holder abides fun _ => True.intro

/-- The arguments of the calls are named in one list. -/
theorem ofCalls_produces (failure : Option Failure) {calls : List Value} (extra : Extra)
    (fits : ∀ value ∈ calls, value.Fits watch begun) :
    Produces watch begun (Product.ofCalls failure calls extra) :=
  (Value.listOf_offers fits).bind fun _ _ _ held =>
    .pure fun _ grown => Product.fits_of_value rfl (held.lasts grown)

/-- Calls that ended with a failure are reported with what they were told before it. -/
theorem calling_produces
    {α : Type}
    {action : Facade (List α × Option Failure)}
    {present : List α → Facade (List Value × Extra)}
    (fits : Session → List α → Prop)
    (empty : Extra)
    (first : Keeps watch begun action fun later answer => fits later answer.1)
    (rest : ∀ items later, watch.relation begun later → fits later items →
      Keeps watch later (present items) fun last shown =>
        ∀ value ∈ shown.1, value.Fits watch last) :
    Produces watch begun (calling action empty present) := by
  refine first.attempt.bind fun result later grown fine => ?_
  split
  · exact ofCalls_produces _ _ (by simp)
  · next items failure =>
      exact (rest items later grown (fine _ rfl)).bind fun _ _ _ fits => ofCalls_produces _ _ fits

end Producing

section Recording

variable [Recording watch]

section Reporting

/-- To render a notice reads the location in it. -/
theorem renderNotice_abides {notice : Notice} (legible : notice.Legible watch begun) :
    Abides watch begun (renderNotice notice) := by
  have described (paths : List Path) : Abides watch begun (do
      let rendered ← (Value.ofNotice notice).describe paths
      return (notice.station.hook, rendered)) :=
    .bind (Value.describe_abides paths (Value.fits_ofNotice legible)) fun _ => .pure _
  cases notice with
  | started => exact .pure _
  | diagnostics serial items => exact .pure _
  | mainFile file => exact described _
  | included item => exact described _
  | imported item => exact described _
  | declaration item => exact described _
  | reference item => exact described _

/-- To render an inclusion reads every location that led to it. -/
theorem renderInclusion_abides {inclusion : CompilationUnit.Inclusion}
    (legible : CompilationUnit.Legible watch begun inclusion) :
    Abides watch begun (renderInclusion inclusion) := by
  refine .bind (File.name_abides _) fun _ =>
    .bind (.mapM fun location member => ?_) fun _ => .pure _
  have issued := legible location member
  exact .bind (Location.fileName?_abides issued) fun _ =>
    .bind (Location.expansion_abides issued) fun _ => .pure _

/-- To render a cursor reads no location that was made before. -/
theorem renderVisited_abides (paths : List Path) (cursors : List (Option Cursor)) :
    Abides watch begun (renderVisited paths cursors) := by
  refine .mapM fun cursor _ => ?_
  cases cursor with
  | none => exact .pure _
  | some cursor => exact Value.describe_abides paths True.intro

end Reporting

section Performing

/-- The list of an inclusion fits if the locations that led to it may be read. -/
theorem inclusion_offers {inclusion : CompilationUnit.Inclusion}
    (legible : CompilationUnit.Legible watch begun inclusion) :
    Offers watch begun (Value.listOf (.file inclusion.1 :: inclusion.2.map .location)) := by
  refine Value.listOf_offers fun value member => ?_
  rcases List.mem_cons.mp member with rfl | stacked
  · exact True.intro
  · obtain ⟨location, inside, rfl⟩ := List.mem_map.mp stacked
    exact legible location inside

/-- The inclusions are named and rendered once the visit is over. -/
theorem visitInclusions_produces (fits : NamesFit watch begun names) (unit : Target)
    (failsAt : Datum) : Produces watch begun (perform names (.visitInclusions unit failsAt)) := by
  refine .after (unit.value_abides fits) fun value => ?_
  refine calling_produces
    (fun later inclusions => ∀ inclusion ∈ inclusions,
      CompilationUnit.Legible watch later inclusion)
    .nothing (.after (Value.asWrapper_abides _ value) fun unit =>
      CompilationUnit.visitInclusions_keeps unit _) fun inclusions later _ all => ?_
  have listed : Keeps watch later
      (inclusions.mapM fun inclusion =>
        Value.listOf (.file inclusion.1 :: inclusion.2.map .location))
      fun last values => ∀ value ∈ values, value.Fits watch last :=
    .mapM (fun _ _ _ grown fits => fits.lasts grown) fun inclusion member further grown =>
      inclusion_offers ((all inclusion member).lasts grown)
  refine listed.bind fun values last grown held => ?_
  have shown : Abides watch last (inclusions.mapM renderInclusion) :=
    .mapM fun inclusion member => renderInclusion_abides ((all inclusion member).lasts grown)
  exact .after shown fun _ => .pure fun _ further value member => (held value member).lasts further

/-- The notices are named and rendered once the run is over. -/
theorem indexing_produces (fits : NamesFit watch begun names) (receiver argument : Target)
    (plan : HookPlan) (options : Datum) :
    Produces watch begun (perform names (.indexUnit receiver argument plan options)) := by
  refine .after (receiver.value_abides fits) fun receiver => ?_
  refine .after (argument.value_abides fits) fun argument => ?_
  refine calling_produces (fun later notices => ∀ notice ∈ notices, notice.Legible watch later)
    (.events []) (indexUnit_keeps receiver argument _ options) fun notices later _ all => ?_
  have shown : Abides watch later (notices.mapM renderNotice) :=
    .mapM fun notice member => renderNotice_abides (all notice member)
  refine .after shown fun _ => .pure fun _ grown value member => ?_
  obtain ⟨notice, listed, rfl⟩ := List.mem_map.mp member
  exact (Value.fits_ofNotice (all notice (List.mem_filter.mp listed).1)).lasts grown

/-- An operation that neither produces nor revises keeps a watch that allows for recording. -/
theorem perform_produces (fits : NamesFit watch begun names) {operation : Operation}
    (producing : operation.producesModels = false) (revising : operation.isRevision = false)
    (admitted : operation.MakesAdmitted watch) :
    Produces watch begun (perform names operation) := by
  cases operation with
  | newIndex excludeDeclarations displayDiagnostics => exact holder_produces (Index.make_abides _ _)
  | newAction index =>
      exact .after (indexOf_abides fits index) fun _ => holder_produces (IndexAction.make_abides _)
  | parseFile index filename parsing => cases producing
  | parseWith index filename parsing => cases producing
  | parseSource index source language parsing => cases producing
  | parseCommand index command parsing => cases producing
  | loadUnit index path => cases producing
  | loadWith index path => cases producing
  | newCommand directory filename arguments =>
      have asked : Keeps watch begun (Facade.ofExcept arguments.toItems) fun _ items =>
          ∀ serial, watch.admits ⟨serial, directory, filename, items⟩ :=
        .ofExcept fun items found _ _ serial => admitted serial items found
      exact asked.bind fun _ _ _ all =>
        .after fresh_abides fun serial => ofValue_produces (all serial)
  | newUnsaved filename contents => cases revising
  | configure settings =>
      exact .after (.ofExcept _) fun _ => .after (configure_abides _) fun _ => done_produces
  | reparse unit unsaved options => cases producing
  | save unit path options =>
      exact .after (unit.value_abides fits) fun _ => .after (Value.asWrapper_abides _ _) fun _ =>
        .after (CompilationUnit.save_abides _ path options) fun _ => done_produces
  | file unit path =>
      exact .after (unit.value_abides fits) fun _ => .after (Value.asWrapper_abides _ _) fun _ =>
        plain_produces (.option .file) (CompilationUnit.file_abides _ path)
          (Value.fits_option .file fun _ => True.intro)
  | describe target paths =>
      exact (target.value_offers fits).bind fun _ _ _ held =>
        .after (Value.describe_abides paths held) fun _ => ofRendered_produces _
  | describeEach target paths =>
      exact (target.value_offers fits).bind fun _ _ _ held =>
        (Value.items_keeps held).bind fun _ _ _ all =>
          .after (.mapM fun item member => Value.describe_abides paths (all item member)) fun _ =>
            ofRendered_produces _
  | follow target path =>
      exact (target.value_offers fits).bind fun _ _ _ held =>
        offered_produces (Value.follow_offers path.selectors held)
  | assign target part datum => cases revising
  | close target =>
      exact .after (target.value_abides fits) fun value => .after value.asHolder_abides fun _ =>
        .after (.close _) fun _ => done_produces
  | «scoped» target fails =>
      refine .after (target.value_abides fits) fun value => ?_
      split
      · refine .after (.close _) fun _ => ?_
        split
        · exact .throw _
        · exact .pure fun _ _ => Product.fits_of_value rfl True.intro
      · exact .throw _
  | closed => exact .after .get fun _ => ofRendered_produces _
  | equal left right =>
      exact .after (left.value_abides fits) fun left => .after (right.value_abides fits)
        fun right => .after (left.equal_abides right) fun _ => .after (left.equal_abides right)
          fun _ => offered_produces (Value.listOf_offers (by
            intro value member
            simp only [List.mem_cons, List.not_mem_nil, or_false] at member
            rcases member with rfl | rfl <;> exact True.intro))
  | hashEqual left right =>
      exact (left.value_offers fits).bind fun left _ grown held =>
        (right.value_offers (fits.lasts grown)).bind fun right _ further heldToo =>
          .after (left.key_abides (held.lasts further)) fun _ =>
            .after (right.key_abides heldToo) fun _ => ofValue_produces True.intro
  | same left right =>
      exact .after (left.value_abides fits) fun _ =>
        .after (right.value_abides fits) fun _ => ofValue_produces True.intro
  | pick target choice =>
      exact (target.value_offers fits).bind fun _ _ _ held => .after (.ofExcept _) fun choice =>
        offered_produces (Value.pick_offers choice held)
  | position unit file line column =>
      exact .after (unit.value_abides fits) fun _ => .after (file.value_abides fits) fun _ =>
        (locationAt_issues _ _ line column).bind fun _ _ _ located =>
          ofValue_produces located
  | offset unit file offset =>
      exact .after (unit.value_abides fits) fun _ => .after (file.value_abides fits) fun _ =>
        (locationAtOffset_issues _ _ offset).bind fun _ _ _ located =>
          ofValue_produces located
  | range start finish =>
      exact .after (start.value_abides fits) fun _ => .after (finish.value_abides fits) fun _ =>
        plain_produces .range (rangeBetween_abides _ _) fun _ => True.intro
  | tokens target extent =>
      exact .after (target.value_abides fits) fun value =>
        .after (.optionMapM (Target.value_abides fits) extent) fun extent =>
          .after (tokens_abides value extent) fun tokens =>
            offered_produces
              (Value.listOf_offers (Value.fits_map .token (fun _ => True.intro) tokens))
  | format diagnostic options =>
      exact .after (diagnostic.value_abides fits) fun _ => .after (Value.asWrapper_abides _ _)
        fun _ => .after (Diagnostic.format_abides _ options) fun _ =>
          offered_produces (Value.newString_offers _)
  | walk cursor paths =>
      refine .after (cursor.value_abides fits) fun value => ?_
      refine .after value.asCursor_abides fun cursor => .after cursor.walk_abides fun cursors => ?_
      refine (Value.listOf_offers (Value.fits_map .cursor (fun _ => True.intro) cursors)).bind ?_
      exact fun value _ _ held =>
        .after (renderVisited_abides paths _) fun _ => .after .get fun _ =>
        .pure fun _ grown => Product.fits_of_value rfl (held.lasts grown)
  | visit target script otherwise paths =>
      refine .after (target.value_abides fits) fun value => ?_
      refine calling_produces (fun _ _ => True) .nothing (visit_abides value _)
        fun cursors _ _ _ => ?_
      exact .after (renderVisited_abides paths cursors) fun _ =>
        .pure fun _ _ => Value.fits_map (.option .cursor)
          (Value.fits_option .cursor fun _ => True.intro) cursors
  | visitInclusions unit failsAt => exact visitInclusions_produces fits unit failsAt
  | loadDiagnostics path => cases producing
  | openDatabase directory => cases producing
  | commandsFor database filename =>
      exact .after (database.value_abides fits) fun _ => .after (Value.asWrapper_abides _ _)
        fun _ => (CompilationDatabase.commandsFor_keeps _ filename).bind fun _ _ _ admitted =>
          offered_produces (Value.listOf_offers (Value.fits_commands admitted))
  | indexUnit receiver argument plan options =>
      exact indexing_produces fits receiver argument plan options
  | lateEvent event =>
      exact plain_produces .bool (IndexAction.late_abides event) fun _ => True.intro
  | lateQuery => exact ofValue_produces True.intro

end Performing

end Recording

section Producing

variable [Producing watch]

/-- An operation that makes a unit, a set or a database keeps a watch that allows for producing. -/
theorem making_produces (fits : NamesFit watch begun names) {operation : Operation}
    (producing : operation.producesModels = true)
    (making : ∀ unit unsaved options, operation ≠ .reparse unit unsaved options) :
    Produces watch begun (perform names operation) := by
  cases operation with
  | parseFile index filename parsing =>
      exact .after (indexOf_abides fits index) fun _ =>
        .after (unsavedFiles_abides fits _) fun _ =>
          holder_produces (CompilationUnit.parseFile_abides _ _ _ _ _ _)
  | parseWith index filename parsing =>
      exact .after (index.value_abides fits) fun _ => .after (Value.asWrapper_abides _ _) fun _ =>
        .after (unsavedFiles_abides fits _) fun _ =>
          holder_produces (CompilationUnit.parseFile_abides _ _ _ _ _ _)
  | parseSource index source language parsing =>
      exact .after (indexOf_abides fits index) fun _ =>
        .after (unsavedFiles_abides fits _) fun _ =>
          holder_produces (CompilationUnit.ofSource_abides _ _ _ _ _ _)
  | parseCommand index command parsing =>
      exact .after (command.value_abides fits) fun _ => .after (indexOf_abides fits index)
        fun _ => .after (unsavedFiles_abides fits _) fun _ =>
          .after (Value.asCommand_abides _) fun _ =>
            holder_produces (CompilationUnit.ofCommand_abides _ _ _ _)
  | loadUnit index path =>
      exact .after (indexOf_abides fits index) fun _ =>
        holder_produces (CompilationUnit.ofStored_abides _ path)
  | loadWith index path =>
      exact .after (index.value_abides fits) fun _ => .after (Value.asWrapper_abides _ _) fun _ =>
        holder_produces (CompilationUnit.ofStored_abides _ path)
  | reparse unit unsaved options => exact absurd rfl (making unit unsaved options)
  | loadDiagnostics path => exact holder_produces (DiagnosticSet.load_abides path)
  | openDatabase directory => exact holder_produces (CompilationDatabase.load_abides directory)
  | _ => cases producing

/-- What is parsed again is a unit, so that no model comes to stand behind an index. -/
theorem reparse_ends {session : Session} (valid : session.holdings.Valid) (tidy : session.Tidy)
    (anchored : names.Anchored session.made) (held : watch.holds session)
    (fits : NamesFit watch session names) (unit : Target) (unsaved : List UnsavedSource)
    (options : Option Datum) :
    watch.Ends session (fun later product => product.Fits watch later)
      ((perform names (.reparse unit unsaved options)).outcome session) := by
  have operands : Abides watch session (reparsands names unit unsaved) :=
    .bind (unit.value_abides fits) fun _ => .bind (Value.asWrapper_abides _ _) fun _ =>
      .bind (unsavedFiles_abides fits unsaved) fun _ => .pure _
  rw [perform_reparse]
  refine Ends.bind (operands.ends held) fun values middle reached heldMiddle _ => ?_
  obtain ⟨-, course, isUnit⟩ := reparsands_runs valid anchored unit unsaved session rfl tidy
  rw [reached] at course isUnit
  have sorted (handle : Handle) (present : middle.estate.handle? values.1 = some handle) :
      handle.sort ≠ .index := by
    rw [(course.valid valid).sort_of_held (isUnit values rfl) present]
    decide
  refine Ends.bind (CompilationUnit.reparse_ends heldMiddle sorted values.2 options)
    fun _ last _ heldLast _ => ?_
  exact done_produces.ends heldLast

end Producing

section Revising

variable [Revising watch]

/-- A change of an unsaved file is a revision. -/
theorem changeUnsaved_abides (number : Nat) (change : UnsavedFile → Except Failure UnsavedFile) :
    Abides watch begun (changeUnsaved number change) :=
  .bind (Value.asUnsaved_abides _) fun _ => .bind (.ofExcept _) fun _ =>
    .of_allows fun _ _ => Revising.revises

/-- A new unsaved file is added behind those that are there. -/
theorem newUnsaved_produces (filename contents : Datum) :
    Produces watch begun (perform names (.newUnsaved filename contents)) :=
  have added (file : UnsavedFile) : Abides watch begun
      (modify fun session => { session with unsaved := session.unsaved ++ [file] }) :=
    .of_allows fun _ _ => Revising.revises
  offered_produces (.after (.ofExcept _) fun file => .after .get fun _ => .after (added file)
    fun _ => .pure fun _ _ => True.intro)

/-- Assigning a part keeps a watch that allows for revising. -/
theorem assign_ends {session : Session} (held : watch.holds session)
    (valid : session.holdings.Valid) (value : Value) (part : Text) (datum : Datum) :
    watch.Ends session (fun _ _ => True) ((assign value part datum).outcome session) := by
  have marks : Abides watch session (putMark value part datum) := putMark_abides value part datum
  cases value with
  | unsaved number =>
      exact Keeps.ends (Abides.ite (changeUnsaved_abides _ _)
        (.ite (changeUnsaved_abides _ _) marks)) held
  | slot number =>
      exact Keeps.ends (Abides.ite (changeUnsaved_abides _ _) (.ite (changeUnsaved_abides _ _)
        (.ite (changeUnsaved_abides _ _) marks))) held
  | _ => exact assign_ends_elsewhere held valid rfl part datum

/-- An assignment names nothing, so only the watch has to be kept. -/
theorem perform_assign_ends {session : Session} (valid : session.holdings.Valid)
    (tidy : session.Tidy) (anchored : names.Anchored session.made) (held : watch.holds session)
    (fits : NamesFit watch session names) (target : Target) (part : Text) (datum : Datum) :
    watch.Ends session (fun later product => product.Fits watch later)
      ((perform names (.assign target part datum)).outcome session) := by
  obtain ⟨-, course, -⟩ := target.value_yields valid anchored session rfl tidy
  refine Ends.bind ((target.value_abides fits).ends held) fun value middle found heldMiddle _ => ?_
  rw [found] at course
  refine Ends.bind (assign_ends heldMiddle (course.valid valid) value part datum)
    fun _ last _ heldLast _ => ?_
  exact done_produces.ends heldLast

end Revising

/-- Every operation keeps a watch that allows for what it does, and names only what fits. -/
theorem perform_ends [Steady watch] {session : Session} (valid : session.holdings.Valid)
    (tidy : session.Tidy) (anchored : names.Anchored session.made) (held : watch.holds session)
    (fits : NamesFit watch session names) {operation : Operation}
    (suits : operation.Suits watch) :
    watch.Ends session (fun later product => product.Fits watch later)
      ((perform names operation).outcome session) := by
  cases producing : operation.producesModels with
  | true =>
      have := suits.produces producing
      cases operation with
      | reparse unit unsaved options =>
          exact reparse_ends valid tidy anchored held fits unit unsaved options
      | _ => exact (making_produces fits producing nofun).ends held
  | false =>
      cases revising : operation.isRevision with
      | false =>
          have := suits.records producing revising
          exact (perform_produces fits producing revising suits.admits).ends held
      | true =>
          have := suits.revises revising
          cases operation with
          | newUnsaved filename contents =>
              exact (newUnsaved_produces filename contents).ends held
          | assign target part datum =>
              exact perform_assign_ends valid tidy anchored held fits target part datum
          | _ => cases revising

/-- Every operation leaves a relation that allows for what the operation does. -/
theorem perform_leaves {relation : Session → Session → Prop} [Steady (Watch.of relation)]
    {session : Session} (valid : session.holdings.Valid) (tidy : session.Tidy)
    (anchored : names.Anchored session.made) {operation : Operation}
    (suits : operation.Suits (Watch.of relation)) :
    relation session ((perform names operation).outcome session).2 :=
  (perform_ends valid tidy anchored True.intro (namesFit_of relation) suits).relation

namespace State

/-- A watch holds in a state, and all named values fit. -/
structure Watched (watch : Watch) (state : State) : Prop where
  /-- What is true of every session is true of this one. -/
  holds : watch.holds state.session
  /-- The named values fit. -/
  names : NamesFit watch state.session state.names

variable {state : State} [Steady watch]

omit [Steady watch] in
/-- Nothing is named at the start. -/
theorem start_watched {script : Library.Script} {settings : Settings} {storage : Storage}
    (held : watch.holds (.start script settings storage)) :
    (start script settings storage).Watched watch where
  holds := held
  names := by rintro _ ⟨⟩

omit [Steady watch] in
/-- At the beginning of a step the library only answers otherwise. -/
theorem aside_facing (state : State) (step : Step) :
    state.session.Aside watch.admits (state.facing step) :=
  .of_library (.of_resources rfl rfl) fun _ _ owes => owes.of_accounts rfl

/-- A step keeps a watch that allows for what it does. -/
theorem Sound.keeps_step (sound : state.Sound) (watched : state.Watched watch) {step : Step}
    (suits : step.operation.Suits watch) :
    watch.relation state.session (state.step step).1.session ∧
      (state.step step).1.Watched watch := by
  have valid : (state.facing step).holdings.Valid := sound.valid.answering step.reply
  obtain ⟨faced, held⟩ := Steady.aside (state.aside_facing step) watched.holds
  obtain ⟨related, heldAfter, fine⟩ :=
    perform_ends valid sound.tidy sound.anchored held (watched.names.lasts faced) suits
  have reached := Steady.trans faced related
  have old := watched.names.lasts reached
  rw [← session_step] at reached heldAfter old fine
  exact ⟨reached, heldAfter, holds_step state step old fine⟩

/-- A run of steps keeps a watch that allows for what they do. -/
theorem Sound.keeps_steps (sound : state.Sound) (watched : state.Watched watch) {steps : List Step}
    (suits : ∀ step ∈ steps, step.operation.Suits watch) :
    watch.relation state.session (state.steps steps).1.session ∧
      (state.steps steps).1.Watched watch := by
  induction steps generalizing state with
  | nil => exact ⟨Steady.refl _, watched⟩
  | cons next rest inductionHypothesis =>
      obtain ⟨first, kept⟩ := sound.keeps_step watched (suits next (by simp))
      obtain ⟨second, keptToo⟩ := inductionHypothesis (sound.step next) kept
        fun step member => suits step (List.mem_cons_of_mem next member)
      exact ⟨Steady.trans first second, keptToo⟩

end State
end Scenario
end Custody
