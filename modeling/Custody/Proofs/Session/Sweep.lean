import Custody.Proofs.Session.Watch
import Custody.Session.Cursor
import Custody.Session.Diagnostic

/-!
# Sources, diagnostics and cursors under a watch

The operations on files, locations, ranges, diagnostics, cursors and tokens keep every steady watch.
Reading where a location lies records that, so it takes a watch that allows for recording and a
location whose number was issued; a location that has just been made is issued.
-/

namespace Custody

open Facade Watch Library.Call

variable {watch : Watch} {begun : Session}

namespace Facade

variable {α β : Type}

/-- An operation cannot fail and does nothing but use up numbers. -/
def Numbers (action : Facade α) : Prop :=
  ∀ session : Session, ∃ value number,
    action.outcome session = (.ok value, { session with nextSerial := number }) ∧
      session.nextSerial ≤ number

namespace Numbers

protected theorem pure (value : α) : Numbers (pure value) := fun session =>
  ⟨value, session.nextSerial, rfl, Nat.le_refl _⟩

/-- Numbers that two operations use up in turn are used up by both together. -/
protected theorem bind {action : Facade α} {next : α → Facade β} (first : Numbers action)
    (rest : ∀ value, Numbers (next value)) : Numbers (action >>= next) := by
  intro session
  obtain ⟨value, number, reached, grown⟩ := first session
  obtain ⟨last, further, ended, grownToo⟩ := rest value { session with nextSerial := number }
  exact ⟨last, further, (outcome_bind_of_ok reached next).trans ended, grown.trans grownToo⟩

/-- A list of such operations uses up the numbers of all of them. -/
protected theorem mapM {change : α → Facade β} (each : ∀ item, Numbers (change item))
    (items : List α) : Numbers (items.mapM change) := by
  induction items with
  | nil => exact .pure _
  | cons item items rest =>
      rw [List.mapM_cons]
      exact .bind (each item) fun _ => .bind rest fun _ => .pure _

protected theorem fresh : Numbers fresh := fun session =>
  ⟨session.nextSerial, session.nextSerial + 1, rfl, Nat.le_succ _⟩

end Numbers

/-- The location that an operation makes may be read. -/
abbrev Locates (watch : Watch) (begun : Session) (action : Facade Location) : Prop :=
  Keeps watch begun action fun later location => watch.issued later location.serial

end Facade

section Sources

variable [Steady watch]

namespace File

/-- An object for a file takes a number and asks nothing. -/
theorem wrap_abides (native : FileHandle) (owner : Nat) : Abides watch begun (wrap native owner) :=
  .bind fresh_abides fun _ => .pure _

/-- The name is lent by the library and given back at once. -/
theorem name_abides (file : File) : Abides watch begun file.name :=
  .bind (.ensureOpen _) fun _ => .borrowed (fileName_leaves _) (fileName_lends _)

/-- The time of a file is no string, so nothing is lent. -/
theorem time_abides (file : File) : Abides watch begun file.time :=
  .bind (.ensureOpen _) fun _ => .call ⟨fileTime_leaves _, fileTime_square _⟩

/-- Two files are compared by the library, and that lends nothing. -/
theorem agrees_abides (left right : File) : Abides watch begun (left.agrees right) :=
  .bind (.ensureOpen _) fun _ => .call ⟨sameFile_leaves _ _, sameFile_square _ _⟩

/-- A file is written as its name. -/
theorem written_abides (file : File) : Abides watch begun file.written :=
  .bind file.name_abides fun _ => .pure _

end File

namespace Location

/-- A location is made with a new number, so it may be read from then on. -/
theorem wrap_issues (native : NativeLocation) (owner : Nat) :
    Locates watch begun (wrap native owner) :=
  fresh_keeps.bind fun _ _ _ issued => .pure fun _ grown => Steady.lasts grown issued

/-- The check that a file is of the unit fails or does nothing. -/
theorem checkFile_abides (unit : Nat) (file : File) : Abides watch begun (checkFile unit file) :=
  .ite (.pure _) (.throw _)

/-- A file whose place is gone since a reparse is a failure and changes nothing. -/
theorem checkPlace_abides (handle : Handle) (file : File) :
    Abides watch begun (checkPlace handle file) := .bind .get fun _ => .ite (.pure _) (.throw _)

/-- All checks come before the library is asked, and the location is made last. -/
theorem placed_issues (unit : Nat) (file : File) {request : Handle → Library.Call NativeLocation}
    (calm : ∀ handle, (request handle).Calm) :
    Locates watch begun (do
      checkFile unit file
      let handle ← Facade.handle unit
      checkPlace handle file
      wrap (← Facade.call (request handle)) unit) :=
  .after (checkFile_abides unit file) fun _ => .after (.handle unit) fun handle =>
    .after (checkPlace_abides handle file) fun _ => .after (.call (calm handle)) fun _ =>
      wrap_issues _ _

/-- A line and a column are compared with one before the file is checked. -/
theorem ofPosition_issues (unit : Nat) (file : File) (line column : Int) :
    Locates watch begun (ofPosition unit file line column) :=
  .ite (fun _ => .throwThen _) fun _ => placed_issues unit file fun _ =>
    ⟨locationOfPosition_leaves _ _ _ _, locationOfPosition_square _ _ _ _⟩

/-- An offset is compared with zero before the file is checked. -/
theorem ofOffset_issues (unit : Nat) (file : File) (offset : Int) :
    Locates watch begun (ofOffset unit file offset) :=
  .ite (fun _ => .throwThen _) fun _ => placed_issues unit file fun _ =>
    ⟨locationOfOffset_leaves _ _ _, locationOfOffset_square _ _ _⟩

/-- Whether a location is in the main file is asked anew every time, and not recorded. -/
theorem isFromMainFile_abides (location : Location) : Abides watch begun location.isFromMainFile :=
  .bind (.ensureOpen _) fun _ => .call ⟨isFromMainFile_leaves _, isFromMainFile_square _⟩

/-- Whether a location is in a system header is not recorded either. -/
theorem isInSystemHeader_abides (location : Location) :
    Abides watch begun location.isInSystemHeader :=
  .bind (.ensureOpen _) fun _ => .call ⟨isInSystemHeader_leaves _, isInSystemHeader_square _⟩

end Location

namespace Range

/-- An object for a range takes a number and asks nothing. -/
theorem wrap_abides (native : NativeRange) (owner : Nat) : Abides watch begun (wrap native owner) :=
  .bind fresh_abides fun _ => .pure _

/-- Two locations of one unit make a range, and those of two units are refused. -/
theorem make_abides (start finish : Location) : Abides watch begun (make start finish) :=
  .ite (.throwThen _) (.bind (.ensureOpen _) fun _ => wrap_abides _ _)

/-- The start of a range is a location that is made when it is asked for. -/
theorem start_issues (range : Range) : Locates watch begun range.start := Location.wrap_issues _ _

/-- The end of a range is a location that is made when it is asked for. -/
theorem finish_issues (range : Range) : Locates watch begun range.finish := Location.wrap_issues _ _

end Range

end Sources

section Reading

variable [Recording watch]

namespace Location

omit [Recording watch] in
/-- Making an object of a file, if there is one, uses up a number at most. -/
theorem wrapFile_outcome (native : Option FileHandle) (owner : Nat) (session : Session) :
    ∃ file number, (native.mapM fun native => File.wrap native owner).outcome session =
        (.ok file, { session with nextSerial := number }) ∧
      session.nextSerial ≤ number ∧ file.map File.native = native := by
  cases native with
  | none => exact ⟨none, session.nextSerial, rfl, Nat.le_refl _, rfl⟩
  | some native => exact ⟨_, session.nextSerial + 1, rfl, Nat.le_succ _, rfl⟩

/-- Where a location lies is recorded as the library tells it at that moment. -/
theorem expansion_abides {location : Location} (issued : watch.issued begun location.serial) :
    Abides watch begun location.expansion := by
  refine .bind .get fun session => ?_
  split
  · exact .pure _
  refine .bind (.ensureOpen _) fun _ => .of_allows fun session reached held => ?_
  rw [outcome_bind_of_ok (outcome_call session _)]
  have models := Library.Call.expansion_leaves location.native session.library
  have debts := fun origin debt =>
    Library.Call.expansion_square location.native debt origin session.library
  have told := Library.Call.expansion_fst location.native session.library
  generalize Id.run (StateT.run (Library.Call.expansion location.native) session.library) = answer
    at models debts told ⊢
  obtain ⟨file, number, wrapped, grown, named⟩ := wrapFile_outcome answer.1.file location.owner
    { session with library := answer.2 }
  rw [outcome_bind_of_ok wrapped]
  have asked : session.Aside watch.admits
      { session with library := answer.2, nextSerial := number } :=
    ⟨models, debts, rfl, rfl, grown, fun _ remembers => .inl remembers⟩
  obtain ⟨related, heldAfter⟩ := Steady.aside asked held
  have found : Expansion.native ⟨file, answer.1.line, answer.1.column, answer.1.offset⟩ =
      answer.2.expand location.native := by
    rw [Expansion.native, named]
    exact told
  have recorded : watch.Allows _ _ :=
    Recording.records found (Steady.lasts (Steady.trans reached related) issued)
  obtain ⟨recorded, heldLast⟩ := recorded heldAfter
  exact ⟨Steady.trans related recorded, heldLast⟩

/-- The name of the file is read once the expansion is recorded. -/
theorem fileName?_abides {location : Location} (issued : watch.issued begun location.serial) :
    Abides watch begun location.fileName? := by
  refine .bind (expansion_abides issued) fun expansion => ?_
  split
  · exact .pure _
  · exact .bind (File.name_abides _) fun _ => .pure _

/-- A key reads the expansion twice, and the second time finds it recorded. -/
theorem key_abides {location : Location} (issued : watch.issued begun location.serial) :
    Abides watch begun location.key :=
  .bind (fileName?_abides issued) fun _ => .bind (expansion_abides issued) fun _ => .pure _

/-- A location is written as its file, line and column. -/
theorem written_abides {location : Location} (issued : watch.issued begun location.serial) :
    Abides watch begun location.written :=
  .bind (fileName?_abides issued) fun _ => .bind (expansion_abides issued) fun _ => .pure _

end Location

namespace Range

/-- The key of a range reads both of its ends, which are made for that. -/
theorem key_abides (range : Range) : Abides watch begun range.key :=
  .making range.start_issues fun _ _ _ first => .making range.finish_issues fun _ _ grown second =>
    .bind (Location.key_abides (Steady.lasts grown first)) fun _ =>
      .bind (Location.key_abides second) fun _ => .pure _

/-- A range is written as its two ends, each of them made and read before the next. -/
theorem written_abides (range : Range) : Abides watch begun range.written :=
  .making range.start_issues fun _ _ _ first => .bind (Location.written_abides first) fun _ =>
    .making range.finish_issues fun _ _ _ second =>
      .bind (Location.written_abides second) fun _ => .pure _

end Range

end Reading

section Diagnostics

variable [Steady watch]

namespace DiagnosticSet

/-- A closed set has no diagnostics, and an open one asks the library. -/
theorem count_abides (set : Nat) : Abides watch begun (count set) := by
  refine .bind (.holder set) fun record => ?_
  split
  · exact .pure _
  · exact .call ⟨setCount_leaves _, setCount_square _⟩

/-- What owns the diagnostics of a set is found in the session. -/
theorem owner_abides (set : Nat) : Abides watch begun (owner set) := by
  refine .bind (.holder set) fun record => ?_
  split <;> exact .pure _

/-- A diagnostic of a set becomes a holder below the set. -/
theorem item_abides (set : Nat) (index : Int) : Abides watch begun (item set index) := by
  refine .bind (count_abides set) fun count => ?_
  split
  · exact .throw _
  · exact .bind (.handle set) fun _ => .bind (.call ⟨setItem_leaves _ _, setItem_square _ _⟩)
      fun _ => .bind (owner_abides set) fun _ => .bind (.wrap _ _ rfl) fun _ =>
        .bind (.adopt _ _) fun _ => .pure _

/-- A slice makes the diagnostics that it selects one after the other. -/
theorem slice_abides (set : Nat) (slice : Slice) :
    Abides watch begun (DiagnosticSet.slice set slice) :=
  .bind (count_abides set) fun _ => .bind (.ofExcept _) fun _ => .mapM fun _ _ => item_abides set _

/-- A set is listed by making all of its diagnostics. -/
theorem toList_abides (set : Nat) : Abides watch begun (toList set) :=
  .bind (count_abides set) fun _ =>
    .mapM fun (position : Nat) _ => item_abides set position

omit [Steady watch] in
/-- The message is read before the set is looked at. -/
theorem load_abides [Producing watch] (path : Datum) : Abides watch begun (load path) := by
  refine .bind (.ofExcept _) fun encoded => ?_
  refine Keeps.lendThen (fun answer => answer.2.2) (.of_allows fun session _ => ?_) ?_
  · refine Producing.produces ?_ fun origin debt => ?_
    · exact ((loadDiagnostics_leavesScript encoded).bind fun _ =>
        (settle_leaves _).sameScript.bind fun _ => .pure _) session.library
    · exact readOff_square (loadDiagnostics_turns · encoded) debt origin session.library
  rintro ⟨handle, status, lent⟩
  refine ⟨_, rfl, fun message => ?_⟩
  have refused : Abides watch begun (do
      let member ← Facade.ofExcept (Codes.loadStatuses.ofCode status)
      let path ← Facade.ofExcept path.decodeName
      let wording : Text :=
        if message ≠ "" then message else "could not load diagnostics from " ++ path
      throw (.reported
        ⟨.storedDiagnostics, loadFailureKind member.code, wording, some member.code⟩) :
          Facade Nat) :=
    .bind (.ofExcept _) fun _ => .bind (.ofExcept _) fun _ => .throw _
  cases handle with
  | none => exact refused
  | some handle =>
      dsimp only
      split
      · exact Abides.wrap _ _ rfl
      · exact Abides.bind (.call ⟨dispose_leaves handle, dispose_square handle⟩) fun _ => refused

end DiagnosticSet

namespace DiagnosticView

/-- The diagnostics of a unit are counted by the library each time. -/
theorem count_abides (unit : Nat) : Abides watch begun (count unit) :=
  .bind (.handle unit) fun _ => .call ⟨diagnosticCount_leaves _, diagnosticCount_square _⟩

/-- A diagnostic of a unit becomes a holder below the unit. -/
theorem item_abides (unit : Nat) (index : Int) : Abides watch begun (item unit index) := by
  refine .bind (count_abides unit) fun count => ?_
  split
  · exact .throw _
  · exact .bind (.handle unit) fun _ =>
      .bind (.call ⟨diagnosticAt_leaves _ _, diagnosticAt_square _ _⟩) fun _ =>
        .bind (.wrap _ _ rfl) fun _ => .bind (.adopt _ _) fun _ => .pure _

/-- A slice of a unit's diagnostics makes each that it selects. -/
theorem slice_abides (unit : Nat) (slice : Slice) :
    Abides watch begun (DiagnosticView.slice unit slice) :=
  .bind (count_abides unit) fun _ => .bind (.ofExcept _) fun _ =>
    .mapM fun _ _ => item_abides unit _

/-- The diagnostics of a unit are listed by making each of them. -/
theorem toList_abides (unit : Nat) : Abides watch begun (toList unit) :=
  .bind (count_abides unit) fun _ =>
    .mapM fun (position : Nat) _ => item_abides unit position

end DiagnosticView

namespace Diagnostic

/-- What owns a diagnostic is found in the session. -/
theorem owner_abides (diagnostic : Nat) : Abides watch begun (owner diagnostic) := by
  refine .bind (.holder diagnostic) fun record => ?_
  split <;> exact .pure _

/-- What the library knows of a diagnostic is looked up while its holder is open. -/
theorem model_abides (diagnostic : Nat) : Abides watch begun (model diagnostic) :=
  .bind (.handle diagnostic) fun _ => .call ⟨diagnosticModel_leaves _, diagnosticModel_square _⟩

/-- A text of a diagnostic is lent and given back at once. -/
theorem textOf_abides (diagnostic : Nat) (part : Library.DiagnosticModel → Option Bytes) :
    Abides watch begun (textOf diagnostic part) :=
  .bind (.handle diagnostic) fun _ => .borrowed
    ((diagnosticModel_leaves _).bind fun _ => lend_leaves _)
    ((diagnosticModel_square _).andLends fun _ => lend_lends _)

/-- A severity that has no name is a failure and changes nothing. -/
theorem severity_abides (diagnostic : Nat) : Abides watch begun (severity diagnostic) :=
  .bind (model_abides diagnostic) fun _ => .ofExcept _

/-- The location of a diagnostic is made when it is asked for. -/
theorem location_issues (diagnostic : Nat) : Locates watch begun (location diagnostic) :=
  .after (.handle diagnostic) fun _ =>
    .after (.call ⟨diagnosticLocation_leaves _, diagnosticLocation_square _⟩) fun _ =>
      .after (owner_abides diagnostic) fun _ => Location.wrap_issues _ _

/-- The ranges of a diagnostic are looked up together and then made one by one. -/
theorem ranges_abides (diagnostic : Nat) : Abides watch begun (ranges diagnostic) :=
  .bind (.handle diagnostic) fun _ =>
    .bind (.call ⟨diagnosticRanges_leaves _, diagnosticRanges_square _⟩) fun _ =>
      .bind (owner_abides diagnostic) fun _ => .mapM fun _ _ => Range.wrap_abides _ _

/-- Every replacement is read before the next one is asked for. -/
theorem fixIts_abides (diagnostic : Nat) : Abides watch begun (fixIts diagnostic) := by
  refine .bind (.handle diagnostic) fun handle => .bind (owner_abides diagnostic) fun owner => ?_
  refine .bind (.call ⟨replacementCount_leaves handle, replacementCount_square handle⟩)
    fun count => .mapM fun position _ => ?_
  refine Keeps.lendThen Prod.fst (.call ⟨?_, ?_⟩) ?_
  · exact (replacementAt_leaves handle position).bind fun _ =>
      (settle_leaves _).bind fun _ => .pure _
  · exact readOff_square (replacementAt_turns · handle position)
  · rintro ⟨lent, native⟩
    refine ⟨_, rfl, fun value => ?_⟩
    exact Abides.bind (Range.wrap_abides native owner) fun _ =>
      .bind fresh_abides fun _ => .pure _

/-- The option is lent along with nothing else, so it is given back before anything follows. -/
theorem option_abides (diagnostic : Nat) : Abides watch begun (option diagnostic) := by
  refine .bind (.handle diagnostic) fun handle => .callThen (fun _ => rfl) ⟨?_, fun debt => ?_⟩
  · exact (diagnosticOption_leaves handle false).bind fun answer => settle_leaves answer.1
  · exact (diagnosticOption_turns debt handle).bind fun answer => settle_turns debt answer.1

/-- Reads the options that enable and disable a diagnostic. -/
def readOptions (lent : Library.Lent × Option Library.Lent) : Library.Call String := do
  let _ ← settle lent.1
  match lent.2 with
  | none => return ""
  | some disabling => settle disabling

/-- Two strings may be lent at once here, and both are given back. -/
theorem disableOption_abides (diagnostic : Nat) :
    Abides watch begun (disableOption diagnostic) := by
  refine .bind (.handle diagnostic) fun handle => ?_
  have calm : (diagnosticOption handle true >>= readOptions).Calm := by
    refine ⟨(diagnosticOption_leaves handle true).bind fun answer =>
      (settle_leaves answer.1).bind fun _ => ?_, fun debt =>
        (disablingOption_turns debt handle).bind fun answer => (settle_turns _ answer.1).bind ?_⟩
    · cases answer.2 with
      | none => exact .pure _
      | some disabling => exact settle_leaves disabling
    · cases answer.2 with
      | none => exact fun _ => Library.Call.Square.pure _ debt
      | some disabling => exact fun _ => settle_turns debt disabling
  refine .callThen (fun answer => ?_) calm
  obtain ⟨enabling, _ | disabling⟩ := answer <;> rfl

/-- The notes below a diagnostic come in a set of their own, which is adopted and listed. -/
theorem children_abides (diagnostic : Nat) : Abides watch begun (children diagnostic) := by
  refine .bind (.handle diagnostic) fun handle => ?_
  refine .bind (.call ⟨childDiagnostics_leaves _, childDiagnostics_square _⟩) fun notes => ?_
  split
  · exact .pure _
  · exact .bind (owner_abides diagnostic) fun _ => .bind (.wrap _ _ rfl) fun _ =>
      .bind (.adopt _ _) fun _ => DiagnosticSet.toList_abides _

/-- The options are checked before the library is asked to write a diagnostic. -/
theorem format_abides (diagnostic : Nat) (options : Option Datum) :
    Abides watch begun (format diagnostic options) := by
  refine .bind .get fun session => .bind ?_ fun _ => ?_
  · cases options with
    | none => exact .pure _
    | some options => exact .ofExcept _
  · exact .ite (.throwThen _) (.bind (.handle diagnostic) fun _ =>
      .borrowed (formatDiagnostic_leaves _ _) (formatDiagnostic_lends _ _))

/-- A diagnostic is written as its severity and its message. -/
theorem written_abides (diagnostic : Nat) : Abides watch begun (written diagnostic) :=
  .bind (severity_abides diagnostic) fun _ => .bind (textOf_abides diagnostic _) fun _ => .pure _

end Diagnostic

end Diagnostics

section Cursors

variable [Steady watch]

namespace Cursor

/-- A cursor takes a number if there is one, and none for a null cursor. -/
theorem wrap_abides (native : Option NativeCursor) (unit : Nat)
    (visitedFrom : Option NativeCursor) : Abides watch begun (wrap native unit visitedFrom) := by
  cases native with
  | none => exact .pure _
  | some native => exact .bind fresh_abides fun _ => .pure _

/-- A cursor that the library no longer has is a failure and changes nothing. -/
theorem checkPresent_abides (native : NativeCursor) : Abides watch begun (checkPresent native) :=
  .bind .get fun _ => .ite (.pure _) (.throw _)

/-- A cursor is readable while its unit is open and the library has it. -/
theorem ensureReadable_abides (cursor : Cursor) : Abides watch begun cursor.ensureReadable :=
  .bind (.ensureOpen _) fun _ => checkPresent_abides _

omit [Steady watch] in
/-- To lend a text of a cursor changes no model. -/
theorem lendText_leaves (cursor : Cursor) (part : Library.CursorModel → Option Bytes) :
    (cursor.lendText part).Leaves Library.State.SameModels :=
  .bind (cursorModel_leaves _) fun _ => lend_leaves _

omit [Steady watch] in
/-- A text of a cursor is all that is lent with it. -/
theorem lendText_lends (cursor : Cursor) (part : Library.CursorModel → Option Bytes) :
    (cursor.lendText part).Lends := (cursorModel_square _).andLends fun _ => lend_lends _

/-- The spelling of a cursor is given back as soon as it is read. -/
theorem spelling_abides (cursor : Cursor) : Abides watch begun cursor.spelling :=
  .bind cursor.ensureReadable_abides fun _ =>
    .borrowed (cursor.lendText_leaves _) (cursor.lendText_lends _)

/-- The display name of a cursor is given back as soon as it is read. -/
theorem displayName_abides (cursor : Cursor) : Abides watch begun cursor.displayName :=
  .bind cursor.ensureReadable_abides fun _ =>
    .borrowed (cursor.lendText_leaves _) (cursor.lendText_lends _)

/-- A cursor may have no unique name, and then nothing has to be given back. -/
theorem usr_abides (cursor : Cursor) : Abides watch begun cursor.usr :=
  .bind cursor.ensureReadable_abides fun _ =>
    .borrowed? (cursor.lendText_leaves _) (cursor.lendText_lends _)

/-- The extent of a cursor becomes a range. -/
theorem range_abides (cursor : Cursor) : Abides watch begun cursor.range :=
  .bind cursor.ensureReadable_abides fun _ =>
    .bind (.call ⟨cursorExtent_leaves _, cursorExtent_square _⟩) fun _ => Range.wrap_abides _ _

/-- The location of a cursor is made when it is asked for. -/
theorem location_issues (cursor : Cursor) : Locates watch begun cursor.location :=
  .after cursor.ensureReadable_abides fun _ =>
    .after (.call ⟨cursorLocation_leaves _, cursorLocation_square _⟩) fun _ =>
      Location.wrap_issues _ _

/-- A related cursor is checked before an object is made of it. -/
theorem related_abides (cursor : Cursor) (relation : Library.CursorModel → Option Nat) :
    Abides watch begun (cursor.related relation) :=
  .bind cursor.ensureReadable_abides fun _ =>
    .bind (.call ⟨relatedCursor_leaves _ _, relatedCursor_square _ _⟩) fun _ =>
      .bind (.optionForM checkPresent_abides _) fun _ => wrap_abides _ _ _

/-- Whether a cursor is a definition is part of its model. -/
theorem isDefinition_abides (cursor : Cursor) : Abides watch begun cursor.isDefinition :=
  .bind cursor.ensureReadable_abides fun _ =>
    .bind (.call ⟨cursorModel_leaves _, cursorModel_square _⟩) fun _ => .pure _

/-- The parent is the cursor that led here, or what the library says when nothing did. -/
theorem parent_abides (cursor : Cursor) : Abides watch begun cursor.parent := by
  unfold parent
  split
  · exact wrap_abides _ _ _
  · exact related_abides cursor _

/-- The library walks the children without a change, whatever the visitor answers. -/
theorem visitFrom_abides (unit : Nat) (start : Option NativeCursor) (visitor : Visitor) :
    Abides watch begun (visitFrom unit start visitor) := by
  refine .bind (.ensureOpen unit) fun _ => .bind (.optionForM checkPresent_abides _) fun _ => ?_
  refine .bind (.call ⟨visitChildren_leaves _ _ _, visitChildren_square _ _ _⟩) ?_
  rintro ⟨visiting, ended⟩
  exact .ite (.pure _) (.pure _)

/-- An object is made of every cursor that was visited, in the order of the visits. -/
theorem ofVisits_abides (unit : Nat) (visits : List Visit) :
    Abides watch begun (ofVisits unit visits) :=
  .mapM fun _ _ => wrap_abides _ _ _

/-- Objects are made of the cursors that a visit has come to. -/
theorem visitChildren_abides (cursor : Cursor) (visitor : Visitor) :
    Abides watch begun (cursor.visitChildren visitor) :=
  .bind (visitFrom_abides _ _ visitor) fun _ => .bind (ofVisits_abides _ _) fun _ => .pure _

/-- The children of a cursor are what a visit collects that goes on after each. -/
theorem children_abides (cursor : Cursor) : Abides watch begun cursor.children :=
  .bind (cursor.visitChildren_abides collecting) fun _ => .pure _

/-- A walk visits the children of each cursor that it comes to, as deep as it may. -/
theorem walkWithin_abides (depth : Nat) (cursor : Cursor) :
    Abides watch begun (cursor.walkWithin depth) := by
  induction depth generalizing cursor with
  | zero => exact .throw _
  | succ depth inductionHypothesis =>
      refine .bind cursor.children_abides fun children => .bind ?_ fun _ => .pure _
      refine .mapM fun child _ => ?_
      cases child with
      | none => exact .throw _
      | some child => exact inductionHypothesis child

/-- A walk may go as deep as the library has cursors. -/
theorem walk_abides (cursor : Cursor) : Abides watch begun cursor.walk :=
  .bind .get fun _ => walkWithin_abides _ cursor

/-- A cursor is written with its spelling. -/
theorem written_abides (cursor : Cursor) : Abides watch begun cursor.written :=
  .bind cursor.spelling_abides fun _ => .pure _

end Cursor

namespace Token

omit [Steady watch] in
/-- Objects are made of tokens without asking the library, so nothing can fail meanwhile. -/
theorem wrap_numbers (native : NativeToken) (unit : Nat) : Numbers (wrap native unit) :=
  .bind .fresh fun _ => .pure _

/-- A token is readable while its unit is open and has it. -/
theorem readableIn_abides (token : Token) : Abides watch begun token.readableIn :=
  .bind (.handle _) fun _ => .bind .get fun _ => .ite (.pure _) (.throw _)

/-- The spelling of a token is given back as soon as it is read. -/
theorem spelling_abides (token : Token) : Abides watch begun token.spelling :=
  .bind token.readableIn_abides fun _ =>
    .borrowed (tokenSpelling_leaves _ _) (tokenSpelling_lends _ _)

/-- The location of a token is made when it is asked for. -/
theorem location_issues (token : Token) : Locates watch begun token.location :=
  .after token.readableIn_abides fun _ =>
    .after (.call ⟨tokenLocation_leaves _ _, tokenLocation_square _ _⟩) fun _ =>
      Location.wrap_issues _ _

/-- The extent of a token becomes a range. -/
theorem range_abides (token : Token) : Abides watch begun token.range :=
  .bind token.readableIn_abides fun _ =>
    .bind (.call ⟨tokenExtent_leaves _ _, tokenExtent_square _ _⟩) fun _ => Range.wrap_abides _ _

/-- A token is written with its spelling. -/
theorem written_abides (token : Token) : Abides watch begun token.written :=
  .bind token.spelling_abides fun _ => .pure _

end Token

end Cursors

end Custody
