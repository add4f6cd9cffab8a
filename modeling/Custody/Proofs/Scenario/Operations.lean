import Custody.Proofs.Scenario.Comparisons
import Custody.Scenario.Run

/-!
# The conduct of operations of a scenario

Names that stand for anchored values are turned into anchored values again, so that
whatever a step produces can be named.  Almost every operation is an errand at most.
The two exceptions are parsing a unit again and comparing two values.
-/

namespace Custody
namespace Scenario

open Facade

variable {holdings : Holdings}

/-- All named values are anchored. -/
def Names.Anchored (made : List Handle) (names : Names) : Prop :=
  ∀ entry ∈ names, entry.2.Anchored made

/-- Named values stay anchored when more is made. -/
theorem Names.Anchored.mono {made later : List Handle} {names : Names}
    (anchored : names.Anchored made) (grown : made <+: later) : names.Anchored later :=
  fun entry member => Value.Anchored.mono grown entry.2 (anchored entry member)

/-- The value that a product names is anchored. -/
def Product.Anchored (made : List Handle) (product : Product) : Prop :=
  ∀ value, product.value = some value → value.Anchored made

section Targets

variable (valid : holdings.Valid) {names : Names} (anchored : names.Anchored holdings.made)
include valid anchored

/-- The value of a target is anchored. -/
theorem Target.value_yields (target : Target) : Yields holdings (target.value names) := by
  cases target with
  | unnamed => exact .throw _
  | named name items =>
      unfold Target.value
      dsimp only
      split
      · exact .throw _
      · next value found =>
          have begun : value.Anchored holdings.made := anchored _ (List.mem_of_find?_eq_some found)
          clear found anchored
          induction items generalizing holdings value with
          | nil => exact .pure begun
          | cons item rest inductionHypothesis =>
              rw [List.foldlM_cons]
              have picked : Yields holdings
                  (do value.item (← Facade.ofExcept (Numeral.integer 10 item))) :=
                (Reads.ofExcept _).thenRuns fun index _ => Value.item_yields valid begun index
              refine picked.bind valid fun next later laterValid _ found => ?_
              exact inductionHypothesis laterValid next found

/-- A named unsaved file is found by a course of moves. -/
theorem UnsavedSource.file_runs (source : UnsavedSource) :
    Runs holdings (source.file names) fun _ _ => True := by
  cases source with
  | given filename contents => exact (Reads.ofExcept _).thenRuns fun _ _ => .pure True.intro
  | made target =>
      refine (target.value_yields valid anchored).bind valid fun value _ _ _ _ => ?_
      split
      · exact Reads.get.thenRuns fun _ _ => .pure True.intro
      · exact .pure True.intro

theorem unsavedFiles_runs (sources : List UnsavedSource) :
    Runs holdings (sources.mapM (·.file names)) fun _ _ => True :=
  .mapM_trivial valid fun source _ _ laterValid grown =>
    source.file_runs laterValid (anchored.mono grown)

/-- An index need not be given. -/
theorem indexOf_runs (target : Option Target) :
    Runs holdings (indexOf names target) fun _ _ => True := by
  cases target with
  | none => exact .pure True.intro
  | some target =>
      exact (target.value_yields valid anchored).bind valid fun _ _ _ _ _ => .pure True.intro

end Targets

section Assigning

/-- An unsaved file is outside the holdings. -/
theorem newUnsaved_reads (filename contents : Datum) :
    Reads holdings (newUnsaved filename contents) fun value => value.Anchored holdings.made :=
  (Reads.ofExcept _).bind fun _ _ => Reads.get.bind fun _ _ =>
    Reads.bind (.modify (fun _ => rfl) fun _ _ tidy => tidy) fun _ _ => .pure True.intro

/-- So is every change of one. -/
theorem changeUnsaved_reads (number : Nat) (change : UnsavedFile → Except Failure UnsavedFile) :
    Reads holdings (changeUnsaved number change) fun _ => True :=
  (Value.asUnsaved_reads _).bind fun _ _ => (Reads.ofExcept _).bind fun _ _ =>
    .modify (fun _ => rfl) fun _ _ tidy => tidy

/-- Settings are outside the holdings. -/
theorem configure_reads (settings : Settings) :
    Reads holdings (configure settings) fun _ => True := by
  refine Reads.get.bind fun session _ => .ite (fun _ => .throwThen _) fun _ => ?_
  exact .modify (fun _ => rfl) fun _ _ tidy => tidy

/-- Marks are outside the holdings. -/
theorem putMark_reads (value : Value) (name : Text) (datum : Datum) :
    Reads holdings (putMark value name datum) fun _ => True := by
  unfold putMark
  split
  · refine (Value.isMarkable_reads _ value).bind fun _ _ => ?_
    exact .ite (fun _ => Facade.putMark_reads _ _ datum) fun _ => .throw _
  · exact .throw _

/-- Assigning a part leaves the holdings alone. -/
theorem assign_reads (valid : holdings.Valid) (value : Value) (part : Text) (datum : Datum) :
    Reads holdings (assign value part datum) fun _ => True := by
  unfold assign
  split
  · refine .ite (fun _ => changeUnsaved_reads _ _) fun _ => ?_
    exact .ite (fun _ => changeUnsaved_reads _ _) fun _ => putMark_reads _ _ _
  · refine .ite (fun _ => changeUnsaved_reads _ _) fun _ => ?_
    refine .ite (fun _ => changeUnsaved_reads _ _) fun _ => ?_
    exact .ite (fun _ => changeUnsaved_reads _ _) fun _ => putMark_reads _ _ _
  · refine (holder_reads _).bind fun record _ => ?_
    split
    · exact .ite (fun _ => Index.setGlobalOptions_reads valid _ datum) fun _ => putMark_reads _ _ _
    · exact putMark_reads _ _ _
  · exact .throw _
  · exact .throw _
  · exact putMark_reads _ _ _

end Assigning

section Placing

theorem whole_reads (datum : Datum) : Reads holdings (whole datum) fun _ => True := by
  unfold whole
  split
  · exact .pure True.intro
  · exact .pure True.intro
  · exact .throw _

variable (valid : holdings.Valid)

/-- The file of a place belongs to an owner that is open. -/
theorem placeIn_reads (owner : Value) {file : Value} (anchored : file.Anchored holdings.made) :
    Reads holdings (placeIn owner file) fun place => place.2.Anchored holdings.made := by
  refine (Value.owner_reads file).bind fun belongs _ => .ite (fun _ => .throwThen _) fun _ => ?_
  refine (Value.asHolder_reads owner).bind fun number _ => ?_
  refine (ensureOpen_reads number).bind fun _ _ => ?_
  exact (Value.asFile_reads anchored).bind fun _ fileAnchored => .pure fileAnchored

include valid

/-- A location that is asked for by line and column is anchored with its file. -/
theorem locationAt_reads (owner : Value) {file : Value} (anchored : file.Anchored holdings.made)
    (line column : Datum) :
    Reads holdings (locationAt owner file line column) fun location =>
      location.Anchored holdings.made := by
  refine (Reads.ofExcept _).bind fun _ _ => .ite (fun _ => .throwThen _) fun _ => ?_
  refine (Reads.ofExcept _).bind fun _ _ => .ite (fun _ => .throwThen _) fun _ => ?_
  refine (placeIn_reads owner anchored).bind ?_
  rintro ⟨number, file⟩ fileAnchored
  exact (whole_reads line).bind fun line _ => (whole_reads column).bind fun column _ =>
    Location.ofPosition_reads valid fileAnchored number line column

/-- A location that is asked for by its offset is anchored with its file. -/
theorem locationAtOffset_reads (owner : Value) {file : Value}
    (anchored : file.Anchored holdings.made) (offset : Datum) :
    Reads holdings (locationAtOffset owner file offset) fun location =>
      location.Anchored holdings.made := by
  refine (Reads.ofExcept _).bind fun _ _ => .ite (fun _ => .throwThen _) fun _ => ?_
  refine (placeIn_reads owner anchored).bind ?_
  rintro ⟨number, file⟩ fileAnchored
  exact (whole_reads offset).bind fun offset _ =>
    Location.ofOffset_reads valid fileAnchored number offset

omit valid in
/-- A range between anchored locations of one owner is anchored. -/
theorem rangeBetween_reads {start finish : Value} (startAnchored : start.Anchored holdings.made)
    (finishAnchored : finish.Anchored holdings.made) :
    Reads holdings (rangeBetween start finish) fun range => range.Anchored holdings.made := by
  have made : Reads holdings (do Range.make (← start.asLocation) (← finish.asLocation))
      fun range => range.Anchored holdings.made :=
    (Value.asLocation_reads startAnchored).bind fun _ first =>
      (Value.asLocation_reads finishAnchored).bind fun last _ => Range.make_reads first last
  refine (Value.owner_reads start).bind fun owner _ => (Value.owner_reads finish).bind fun _ _ => ?_
  refine .ite (fun _ => .throwThen _) fun _ => ?_
  split
  · exact .throwThen _
  · exact (ensureOpen_reads _).bind fun _ _ => made

/-- The tokens of a unit are anchored in it. -/
theorem tokensIn_reads (unit : Nat) (extent : Value) :
    Reads holdings (tokensIn unit extent) fun tokens =>
      ∀ token ∈ tokens, Token.Anchored holdings.made token := by
  unfold tokensIn
  split
  · exact CompilationUnit.tokens_reads valid unit none
  · exact CompilationUnit.tokens_reads valid unit _
  · refine (Value.owner_reads _).bind fun _ _ => .ite (fun _ => .throwThen _) fun _ => ?_
    exact (ensureOpen_reads unit).bind fun _ _ => .throw _

/-- The tokens of a cursor are anchored in its unit. -/
theorem tokens_reads {value : Value} (anchored : value.Anchored holdings.made)
    (extent : Option Value) :
    Reads holdings (tokens value extent) fun tokens =>
      ∀ token ∈ tokens, Token.Anchored holdings.made token := by
  unfold tokens
  split
  · exact CompilationUnit.tokensOfCursor_reads valid anchored
  · exact .throw _
  · exact (Value.asUnit_reads valid _).bind fun unit _ => tokensIn_reads valid unit _

/-- The cursors of a visit are anchored in the unit that is visited. -/
theorem visit_reads {value : Value} (anchored : value.Anchored holdings.made) (visitor : Visitor) :
    Reads holdings (visit value visitor) fun answer =>
      ∀ cursor ∈ answer.1, Cursor.AllAnchored holdings.made cursor := by
  unfold visit
  split
  · exact Cursor.visitChildren_reads valid anchored visitor
  · exact (Value.asUnit_reads valid _).bind fun unit _ =>
      CompilationUnit.visitChildren_reads valid unit visitor

/-- What the hooks are told is anchored. -/
theorem indexUnit_reads (receiver argument : Value) (hooks : Hooks) (options : Datum) :
    Reads holdings (indexUnit receiver argument hooks options) fun answer =>
      ∀ notice ∈ answer.1, Notice.Anchored holdings.made notice := by
  refine (Reads.attempt (Value.asAction_reads receiver)).bind fun asAction _ => ?_
  refine (Reads.attempt (Value.asUnit_reads valid receiver)).bind fun asUnit _ => ?_
  split
  · exact IndexAction.index_reads valid _ _ hooks options
  · refine (Reads.attempt (Value.asUnit_reads valid argument)).bind fun _ _ => ?_
    split
    · exact .throw _
    · exact (Value.asAction_reads argument).bind fun action _ =>
        IndexAction.index_reads valid action _ hooks options
  · exact .throw _

end Placing

section Reporting

variable (valid : holdings.Valid)
include valid

/-- A notice that is anchored is rendered with good handles. -/
theorem renderNotice_runs {notice : Notice} (anchored : notice.Anchored holdings.made) :
    Runs holdings (renderNotice notice) fun _ _ => True := by
  have described (paths : List Path) : Runs holdings (do
      let rendered ← (Value.ofNotice notice).describe paths
      return (notice.station.hook, rendered)) fun _ _ => True :=
    (Value.describe_runs valid (Value.anchored_ofNotice anchored) paths).bind valid
      fun _ _ _ _ _ => .pure True.intro
  cases notice with
  | started => exact .pure True.intro
  | diagnostics serial items => exact .pure True.intro
  | mainFile file => exact described _
  | included item => exact described _
  | imported item => exact described _
  | declaration item => exact described _
  | reference item => exact described _

/-- An inclusion that is anchored is rendered with good handles. -/
theorem renderInclusion_reads {inclusion : CompilationUnit.Inclusion}
    (anchored : CompilationUnit.Inclusion.Anchored holdings.made inclusion) :
    Reads holdings (renderInclusion inclusion) fun _ => True := by
  refine (File.name_reads valid anchored.1).bind fun _ _ => ?_
  refine Reads.bind (.mapM_trivial fun location listed => ?_) fun _ _ => .pure True.intro
  have located := anchored.2 location listed
  exact (Location.fileName?_reads valid located).bind fun _ _ =>
    (Location.expansion_reads valid located).bind fun _ _ => .pure True.intro

/-- Cursors that are anchored are rendered with good handles. -/
theorem renderVisited_runs {cursors : List (Option Cursor)}
    (anchored : ∀ cursor ∈ cursors, Cursor.AllAnchored holdings.made cursor) (paths : List Path) :
    Runs holdings (renderVisited paths cursors) fun _ _ => True := by
  refine .mapM_trivial valid fun cursor listed later laterValid grown => ?_
  split
  · exact .pure True.intro
  · next cursor =>
      have found : (Value.cursor cursor).Anchored later.made :=
        Cursor.Anchored.mono (anchored _ listed cursor rfl) grown
      exact Value.describe_runs laterValid found paths

omit valid

/-- The product of a value names it. -/
theorem ofValue_reads {value : Value} (anchored : value.Anchored holdings.made) :
    Reads holdings (Product.ofValue value) fun product => product.Anchored holdings.made := by
  refine Reads.get.bind fun session _ => .pure ?_
  rintro _ ⟨⟩
  exact anchored

/-- A product is anchored by the value that it names. -/
theorem ofValue_runs (value : Value) (anchored : value.Anchored holdings.made) :
    Runs holdings (Product.ofValue value) fun made product => product.Anchored made :=
  (ofValue_reads anchored).runs fun _ found => found

/-- What an operation yields can be named. -/
theorem product_runs (valid : holdings.Valid) {action : Facade Value}
    (yields : Yields holdings action) :
    Runs holdings (action >>= Product.ofValue) fun made product => product.Anchored made :=
  yields.bind valid fun value _ _ _ anchored => ofValue_runs value anchored

theorem done_anchored (made : List Handle) : Product.done.Anchored made := by
  rintro _ ⟨⟩
  exact True.intro

theorem ofRendered_anchored (made : List Handle) (rendered : Rendered) :
    (Product.ofRendered rendered).Anchored made := by
  rintro _ ⟨⟩

/-- The arguments of calls are anchored in one list. -/
theorem ofCalls_reads {calls : List Value} (anchored : Value.AreAnchored holdings.made calls)
    (failure : Option Failure) (extra : Extra) :
    Reads holdings (Product.ofCalls failure calls extra) fun product =>
      product.Anchored holdings.made := by
  refine (Value.listOf_reads anchored).bind fun value found => .pure ?_
  rintro _ ⟨⟩
  exact found

/-- Calling functions of the caller names what they were called on. -/
theorem calling_runs
    {α : Type}
    {action : Facade (List α × Option Failure)}
    {present : List α → Facade (List Value × Extra)}
    {fits : α → Prop}
    (valid : holdings.Valid)
    (empty : Extra)
    (first : Reads holdings action fun answer => ∀ item ∈ answer.1, fits item)
    (rest : ∀ items, (∀ item ∈ items, fits item) →
      Runs holdings (present items) fun made answer => Value.AreAnchored made answer.1) :
    Runs holdings (calling action empty present) fun made product => product.Anchored made := by
  refine (Reads.attempt first).thenRuns fun result fine => ?_
  split
  · have none : Value.AreAnchored holdings.made [] := True.intro
    exact (ofCalls_reads none _ _).runs fun _ anchored => anchored
  · next items failure =>
      refine (rest items (fine _ rfl)).bind valid ?_
      rintro ⟨values, extra⟩ later _ _ anchored
      exact (ofCalls_reads anchored failure extra).runs fun _ found => found

end Reporting

/-- Neither parsing a unit again nor comparing values. -/
def Operation.isOrdinary : Operation → Bool
  | .reparse _ _ _ => false
  | .equal _ _ => false
  | _ => true

/-- An operation parses without naming a file, or it parses what a compile command compiles. -/
def Operation.IsNameless : Operation → Prop
  | .parseFile _ filename _ => filename = .null
  | .parseWith _ filename _ => filename = .null
  | .parseCommand _ _ _ => True
  | _ => False

/-- A compile command that is not textual. -/
def IsUntextual (value : Value) : Prop := ∃ command, value = .command command ∧ ¬ command.IsTextual

/-- Parses what a compile command compiles, once the command is at hand. -/
def parseCommanded (names : Names) (index : Option Target) (parsing : Parsing) (command : Value) :
    Facade Product := do
  let index ← indexOf names index
  let unsaved ← parsing.unsaved.mapM (·.file names)
  Product.ofValue (.holder
    (← CompilationUnit.ofCommand index (← command.asCommand) unsaved parsing.options))

/-- The command is found before anything is parsed with it. -/
theorem perform_parseCommand (names : Names) (index : Option Target) (command : Target)
    (parsing : Parsing) :
    perform names (.parseCommand index command parsing) =
      command.value names >>= parseCommanded names index parsing := rfl

/-- Whether an operation succeeded: it had a product, and the answer is no failure. -/
def succeeded : Except Failure Product → Bool
  | .ok product => product.answer.isOk
  | .error _ => false

/-- An operation is an errand at most, which loses a unit only under a condition, and what it names
is anchored. -/
def Performs (mayLose : Prop) (holdings : Holdings) (action : Facade Product) : Prop :=
  Ensures holdings action fun result later =>
    holdings.Errand mayLose (succeeded result) later ∧
      ∀ product, result = .ok product → product.Anchored later.made

section Performing

variable {mayLose : Prop}

/-- A unit may be lost for a weaker reason. -/
theorem Performs.mono {weaker : Prop} {action : Facade Product}
    (performs : Performs mayLose holdings action) (weakens : mayLose → weaker) :
    Performs weaker holdings action :=
  Ensures.mono performs fun _ _ ⟨errand, anchored⟩ => ⟨errand.mono weakens, anchored⟩

/-- An operation that only takes a course of moves loses nothing. -/
theorem performs_of_runs {action : Facade Product}
    (runs : Runs holdings action fun made product => product.Anchored made) :
    Performs mayLose holdings action :=
  Ensures.mono runs fun _ _ ⟨course, anchored⟩ => ⟨.course course, anchored⟩

/-- A course of moves may come before an errand. -/
theorem runsThenPerforms {α : Type} {action : Facade α} {next : α → Facade Product}
    {middle : List Handle → α → Prop} (first : Runs holdings action middle)
    (valid : holdings.Valid)
    (rest : ∀ value later, later.Valid → holdings.made <+: later.made → middle later.made value →
      Performs mayLose later (next value)) : Performs mayLose holdings (action >>= next) := by
  refine Ensures.bind first ?_ ?_
  · rintro value later ⟨course, holds⟩
    have grown := (course.faithful valid).made
    refine Ensures.mono (rest value later (course.valid valid) grown (holds value rfl)) ?_
    exact fun _ _ ⟨errand, anchored⟩ => ⟨errand.after course, anchored⟩
  · rintro failure later ⟨course, _⟩
    exact ⟨.course course, by simp⟩

/-- A unit that was fetched is named, and that succeeds. -/
theorem fetched_performs {action : Facade Nat} (fetches : Fetches mayLose holdings action) :
    Performs mayLose holdings (do Product.ofValue (.holder (← action))) := by
  refine Ensures.bind fetches ?_ ?_
  · rintro number later errand
    refine Ensures.getThen fun session _ _ => Ensures.pure ⟨errand, ?_⟩
    rintro _ ⟨⟩ _ ⟨⟩
    exact True.intro
  · exact fun failure later errand => ⟨errand, by simp⟩

variable (valid : holdings.Valid) {names : Names} (anchored : names.Anchored holdings.made)
include valid anchored

omit valid anchored in
/-- Just the null file name is no name. -/
theorem eq_null_of_given? {filename : Datum} (nameless : given? filename = none) :
    filename = .null := by
  cases filename with
  | null => rfl
  | _ => cases nameless

/-- A unit that is parsed from a file is lost only where the file has no name. -/
theorem parseFile_performs (index : Option Target) (filename : Datum) (parsing : Parsing) :
    Performs (filename = .null) holdings (perform names (.parseFile index filename parsing)) := by
  refine runsThenPerforms (indexOf_runs valid anchored index) valid ?_
  intro index later laterValid grown _
  refine runsThenPerforms (unsavedFiles_runs laterValid (anchored.mono grown) _) laterValid ?_
  intro unsaved last lastValid _ _
  exact fetched_performs
    ((CompilationUnit.ofFile_fetches lastValid _ _ _ _ _).mono eq_null_of_given?)

/-- The same holds where the index is a given one. -/
theorem parseWith_performs (index : Target) (filename : Datum) (parsing : Parsing) :
    Performs (filename = .null) holdings (perform names (.parseWith index filename parsing)) := by
  refine runsThenPerforms (index.value_yields valid anchored) valid ?_
  intro value later laterValid grown _
  refine (Value.asIndex_reads value).andThen (fun number _ => ?_) fun _ =>
    ⟨.course .refl, by simp⟩
  refine runsThenPerforms (unsavedFiles_runs laterValid (anchored.mono grown) _) laterValid ?_
  intro unsaved last lastValid _ _
  exact fetched_performs
    ((CompilationUnit.ofFile_fetches lastValid _ _ _ _ _).mono eq_null_of_given?)

/-- A source text is parsed under a name, so no unit is lost. -/
theorem parseSource_performs (index : Option Target) (source language : Datum)
    (parsing : Parsing) :
    Performs False holdings (perform names (.parseSource index source language parsing)) := by
  refine runsThenPerforms (indexOf_runs valid anchored index) valid ?_
  intro index later laterValid grown _
  refine runsThenPerforms (unsavedFiles_runs laterValid (anchored.mono grown) _) laterValid ?_
  intro unsaved last lastValid _ _
  exact fetched_performs (CompilationUnit.ofSource_fetches lastValid _ _ _ _ _ _)

/-- A unit that a command asks for is lost only where its words are no text. -/
theorem parseCommanded_performs (index : Option Target) (parsing : Parsing) (command : Value) :
    Performs (IsUntextual command) holdings (parseCommanded names index parsing command) := by
  refine runsThenPerforms (indexOf_runs valid anchored index) valid ?_
  intro index later laterValid grown _
  refine runsThenPerforms (unsavedFiles_runs laterValid (anchored.mono grown) _) laterValid ?_
  intro unsaved last lastValid _ _
  refine (Value.asCommand_reads command).andThen (fun commanded same => ?_) fun _ =>
    ⟨.course .refl, by simp⟩
  exact fetched_performs ((CompilationUnit.ofCommand_fetches lastValid _ _ _ _).mono
    fun untextual => ⟨commanded, same, untextual⟩)

/-- Finding the command may be all that happens. -/
theorem parseCommand_performs (index : Option Target) (command : Target) (parsing : Parsing) :
    Performs True holdings (perform names (.parseCommand index command parsing)) := by
  refine runsThenPerforms (command.value_yields valid anchored) valid ?_
  intro command later laterValid grown _
  exact (parseCommanded_performs laterValid (anchored.mono grown) index parsing command).mono
    fun _ => True.intro

/-- What a target means is at hand for the rest of an operation. -/
theorem valueThen {next : Value → Facade Product} (target : Target)
    (rest : ∀ value later, later.Valid → names.Anchored later.made → value.Anchored later.made →
      Runs later (next value) fun made product => product.Anchored made) :
    Runs holdings (target.value names >>= next) fun made product => product.Anchored made :=
  (target.value_yields valid anchored).bind valid fun value later laterValid grown found =>
    rest value later laterValid (anchored.mono grown) found

/-- What two targets mean is at hand for the rest of an operation. -/
theorem valuesThen {next : Value → Value → Facade Product} (first second : Target)
    (rest : ∀ left right later, later.Valid → left.Anchored later.made → right.Anchored later.made →
      Runs later (next left right) fun made product => product.Anchored made) :
    Runs holdings (do
      let left ← first.value names
      let right ← second.value names
      next left right) fun made product => product.Anchored made := by
  refine valueThen valid anchored first fun left later laterValid laterAnchored found => ?_
  refine (second.value_yields laterValid laterAnchored).bind laterValid ?_
  intro right last lastValid grown foundToo
  exact rest left right last lastValid (Value.Anchored.mono grown left found) foundToo

theorem walk_runs (cursor : Target) (paths : List Path) :
    Runs holdings (perform names (.walk cursor paths)) fun made product =>
      product.Anchored made := by
  refine valueThen valid anchored cursor fun value later laterValid _ found => ?_
  refine (Value.asCursor_reads found).thenRuns fun cursor cursorAnchored => ?_
  refine (Cursor.walk_reads laterValid cursorAnchored).thenRuns fun cursors walked => ?_
  have listed : Value.AreAnchored later.made (cursors.map .cursor) := Value.areAnchored_map walked
  refine (Value.listOf_reads listed).thenRuns fun value valueAnchored => ?_
  have present : ∀ cursor ∈ cursors.map some, Cursor.AllAnchored later.made cursor := by
    intro cursor member
    obtain ⟨found, inside, rfl⟩ := List.mem_map.mp member
    rintro _ ⟨⟩
    exact walked found inside
  refine (renderVisited_runs laterValid present paths).bind laterValid ?_
  intro visited last _ grown _
  refine Reads.get.thenRuns fun session _ => .pure ?_
  rintro _ ⟨⟩
  exact Value.Anchored.mono grown value valueAnchored

theorem visit_runs (target : Target) (script : List Reaction) (otherwise : Reaction)
    (paths : List Path) :
    Runs holdings (perform names (.visit target script otherwise paths)) fun made product =>
      product.Anchored made := by
  refine valueThen valid anchored target fun value later laterValid _ found => ?_
  refine calling_runs laterValid .nothing (visit_reads laterValid found _) fun cursors all => ?_
  refine (renderVisited_runs laterValid all paths).bind laterValid fun _ last _ grown _ => .pure ?_
  refine Value.areAnchored_map fun cursor listed => Value.anchored_option fun found present => ?_
  exact (all cursor listed found present).mono grown

theorem visitInclusions_runs (unit : Target) (failsAt : Datum) :
    Runs holdings (perform names (.visitInclusions unit failsAt)) fun made product =>
      product.Anchored made := by
  refine valueThen valid anchored unit fun value later laterValid _ found => ?_
  refine calling_runs laterValid .nothing ((Value.asUnit_reads laterValid value).bind fun unit _ =>
    CompilationUnit.visitInclusions_reads laterValid unit _) fun inclusions all => ?_
  refine Reads.thenRuns (show Reads later _ fun values => ∀ value ∈ values,
    value.Anchored later.made from .mapM fun inclusion member => Value.listOf_reads ?_) ?_
  · obtain ⟨fileAnchored, stackAnchored⟩ := all inclusion member
    exact ⟨fileAnchored, Value.areAnchored_map stackAnchored⟩
  · refine fun values valuesAnchored => ?_
    refine Reads.thenRuns (.mapM_trivial fun inclusion member =>
      renderInclusion_reads laterValid (all inclusion member)) fun _ _ => .pure ?_
    exact Value.areAnchored_iff.mpr valuesAnchored

theorem indexUnit_runs (receiver argument : Target) (plan : HookPlan) (options : Datum) :
    Runs holdings (perform names (.indexUnit receiver argument plan options)) fun made product =>
      product.Anchored made := by
  refine valuesThen valid anchored receiver argument ?_
  intro receiver argument later laterValid _ _
  refine calling_runs laterValid (.events [])
    (indexUnit_reads laterValid receiver argument plan.toHooks options) fun notices all => ?_
  have rendered : Runs later (notices.mapM renderNotice) fun _ _ => True :=
    .mapM_trivial laterValid fun notice listed last lastValid grown =>
      renderNotice_runs lastValid (all notice listed |>.mono grown)
  refine rendered.bind laterValid fun _ last _ grown _ => .pure ?_
  refine Value.areAnchored_map fun notice listed => Value.anchored_ofNotice ?_
  exact (all notice (List.mem_filter.mp listed).1).mono grown

/-- All operations but parsing again and comparing are errands at most, and only those that parse
without naming a file can lose a unit. -/
theorem perform_performs {operation : Operation} (ordinary : operation.isOrdinary = true) :
    Performs operation.IsNameless holdings (perform names operation) := by
  have holderProduct {mayLose : Prop} {action : Facade Nat}
      (runs : Runs holdings action fun _ _ => True) :
      Performs mayLose holdings (do Product.ofValue (.holder (← action))) :=
    fetched_performs runs.fetches
  cases operation with
  | parseFile index filename parsing => exact parseFile_performs valid anchored _ _ _
  | parseWith index filename parsing => exact parseWith_performs valid anchored _ _ _
  | parseSource index source language parsing => exact parseSource_performs valid anchored _ _ _ _
  | parseCommand index command parsing => exact parseCommand_performs valid anchored _ _ _
  | newIndex excludeDeclarations displayDiagnostics =>
      exact holderProduct (Index.make_runs excludeDeclarations displayDiagnostics)
  | newAction index =>
      refine runsThenPerforms (indexOf_runs valid anchored index) valid ?_
      intro index later laterValid _ _
      exact fetched_performs (IndexAction.make_runs laterValid index).fetches
  | loadUnit index path =>
      refine runsThenPerforms (indexOf_runs valid anchored index) valid ?_
      intro index later laterValid _ _
      exact fetched_performs (CompilationUnit.ofStored_runs laterValid index path).fetches
  | loadWith index path =>
      refine runsThenPerforms (index.value_yields valid anchored) valid ?_
      intro value later laterValid _ _
      refine (Value.asIndex_reads value).andThen (fun number _ => ?_) fun _ =>
        ⟨.course .refl, by simp⟩
      exact fetched_performs (CompilationUnit.ofStored_runs laterValid _ path).fetches
  | loadDiagnostics path => exact holderProduct (DiagnosticSet.load_runs path)
  | openDatabase directory => exact holderProduct (CompilationDatabase.load_runs directory)
  | reparse unit unsaved options => cases ordinary
  | equal left right => cases ordinary
  | newCommand directory filename arguments =>
      refine performs_of_runs ((Reads.ofExcept _).thenRuns fun _ _ => ?_)
      exact fresh_reads.thenRuns fun _ _ =>
        ofValue_runs (.command _) True.intro
  | newUnsaved filename contents =>
      exact performs_of_runs
        (product_runs valid (Value.yields_of_reads (newUnsaved_reads filename contents)))
  | configure settings =>
      refine performs_of_runs ((Reads.ofExcept _).thenRuns fun settings _ => ?_)
      exact (configure_reads settings).thenRuns fun _ _ => .pure (done_anchored _)
  | save unit path options =>
      refine performs_of_runs (valueThen valid anchored unit fun value later laterValid _ _ => ?_)
      refine (Value.asUnit_reads laterValid value).thenRuns fun unit _ => ?_
      exact (CompilationUnit.save_reads laterValid unit path options).thenRuns fun _ _ =>
        .pure (done_anchored _)
  | file unit path =>
      refine performs_of_runs (valueThen valid anchored unit fun value later laterValid _ _ => ?_)
      refine (Value.asUnit_reads laterValid value).thenRuns fun unit _ => ?_
      refine (CompilationUnit.file_reads laterValid unit path).thenRuns fun file found => ?_
      exact ofValue_runs _ (Value.anchored_option found)
  | describe target paths =>
      refine performs_of_runs
        (valueThen valid anchored target fun value later laterValid _ found => ?_)
      exact (Value.describe_runs laterValid found paths).bind laterValid fun _ _ _ _ _ =>
        .pure (ofRendered_anchored _ _)
  | describeEach target paths =>
      refine performs_of_runs
        (valueThen valid anchored target fun value later laterValid _ found => ?_)
      refine (Value.items_runs laterValid found).bind laterValid
        fun items last lastValid _ all => ?_
      have each : Runs last (items.mapM fun item => item.describe paths) fun _ _ => True := by
        refine .mapM_trivial lastValid fun item listed final finalValid grown => ?_
        exact Value.describe_runs finalValid
          (Value.Anchored.mono grown item (Value.areAnchored_iff.mp all item listed)) paths
      exact each.bind lastValid fun _ _ _ _ _ => .pure (ofRendered_anchored _ _)
  | follow target path =>
      refine performs_of_runs
        (valueThen valid anchored target fun value later laterValid _ found => ?_)
      exact product_runs laterValid (Value.follow_yields laterValid found path.selectors)
  | assign target part datum =>
      refine performs_of_runs (valueThen valid anchored target fun value later laterValid _ _ => ?_)
      exact (assign_reads laterValid value part datum).thenRuns fun _ _ => .pure (done_anchored _)
  | close target =>
      refine performs_of_runs (valueThen valid anchored target fun value later laterValid _ _ => ?_)
      refine (Value.asHolder_reads value).thenRuns fun number _ => ?_
      exact (close_runs laterValid number).bind laterValid fun _ _ _ _ _ => .pure (done_anchored _)
  | «scoped» target fails =>
      refine performs_of_runs (valueThen valid anchored target fun value later laterValid _ _ => ?_)
      split
      · refine (close_runs laterValid _).bind laterValid fun _ _ _ _ _ => ?_
        split
        · exact .throw _
        · exact .pure (done_anchored _)
      · exact .throw _
  | closed =>
      exact performs_of_runs (Reads.get.thenRuns fun _ _ => .pure (ofRendered_anchored _ _))
  | hashEqual left right =>
      refine performs_of_runs (valuesThen valid anchored left right ?_)
      intro left right later laterValid leftAnchored rightAnchored
      refine (Value.key_reads laterValid left leftAnchored).thenRuns fun _ _ => ?_
      refine (Value.key_reads laterValid right rightAnchored).thenRuns fun _ _ => ?_
      exact ofValue_runs (.bool _) True.intro
  | same left right =>
      refine performs_of_runs (valuesThen valid anchored left right ?_)
      intro left right later _ _ _
      exact ofValue_runs (.bool _) True.intro
  | pick target choice =>
      refine performs_of_runs
        (valueThen valid anchored target fun value later laterValid _ found => ?_)
      refine (Reads.ofExcept _).thenRuns fun choice _ => ?_
      exact product_runs laterValid (Value.pick_yields laterValid found choice)
  | position unit file line column =>
      refine performs_of_runs (valuesThen valid anchored unit file ?_)
      intro unit file later laterValid _ fileAnchored
      refine (locationAt_reads laterValid unit fileAnchored line column).thenRuns fun _ found => ?_
      exact ofValue_runs (.location _) found
  | offset unit file offset =>
      refine performs_of_runs (valuesThen valid anchored unit file ?_)
      intro unit file later laterValid _ fileAnchored
      refine (locationAtOffset_reads laterValid unit fileAnchored offset).thenRuns fun _ found => ?_
      exact ofValue_runs (.location _) found
  | range start finish =>
      refine performs_of_runs (valuesThen valid anchored start finish ?_)
      intro start finish later _ startAnchored finishAnchored
      refine (rangeBetween_reads startAnchored finishAnchored).thenRuns fun _ found => ?_
      exact ofValue_runs (.range _) found
  | tokens target extent =>
      refine performs_of_runs (valueThen valid anchored target ?_)
      intro value later laterValid laterAnchored found
      have given : Runs later (extent.mapM fun extent => extent.value names) fun _ _ => True := by
        cases extent with
        | none => exact .pure True.intro
        | some extent =>
            exact (extent.value_yields laterValid laterAnchored).bind laterValid
              fun _ _ _ _ _ => .pure True.intro
      refine given.bind laterValid fun extent last lastValid grown _ => ?_
      have stillFound := Value.Anchored.mono grown value found
      refine (tokens_reads lastValid stillFound extent).thenRuns fun tokens all => ?_
      exact product_runs lastValid (Value.listOf_yields (Value.areAnchored_map all))
  | format diagnostic options =>
      refine performs_of_runs
        (valueThen valid anchored diagnostic fun value later laterValid _ _ => ?_)
      refine (Value.asDiagnostic_reads laterValid value).thenRuns fun diagnostic _ => ?_
      refine (Diagnostic.format_reads laterValid diagnostic options).thenRuns fun text _ => ?_
      exact product_runs laterValid (Value.newString_yields text)
  | walk cursor paths => exact performs_of_runs (walk_runs valid anchored cursor paths)
  | visit target script otherwise paths =>
      exact performs_of_runs (visit_runs valid anchored target script otherwise paths)
  | visitInclusions unit failsAt =>
      exact performs_of_runs (visitInclusions_runs valid anchored unit failsAt)
  | commandsFor database filename =>
      refine performs_of_runs
        (valueThen valid anchored database fun value later laterValid _ _ => ?_)
      refine (Value.asDatabase_reads value).thenRuns fun database _ => ?_
      refine (CompilationDatabase.commandsFor_runs laterValid database filename).bind laterValid ?_
      intro commands last lastValid _ _
      exact product_runs lastValid
        (Value.listOf_yields (Value.areAnchored_map fun _ _ => True.intro))
  | indexUnit receiver argument plan options =>
      exact performs_of_runs (indexUnit_runs valid anchored receiver argument plan options)
  | lateEvent event =>
      refine performs_of_runs ((IndexAction.late_reads event).thenRuns fun _ _ => ?_)
      exact ofValue_runs (.bool _) True.intro
  | lateQuery =>
      exact performs_of_runs (ofValue_runs (.int 1) True.intro)

end Performing

end Scenario
end Custody
