import Custody.Proofs.Estate.Worlds
import Custody.Proofs.Session.Outcomes
import Custody.Proofs.Session.Owners
import Custody.Proofs.Text.Utf8
import Mathlib.Data.List.Basic

/-!
# Sources in memory

What the library is given to read instead of stored files.  A unit that was made from
source in memory is parsed with that source after the files of the caller.  When it is
parsed again, the source comes after the files of the caller too, unless one of them has
its name.  Most operations are quiet: they hand no files over, and all holders stay what
they are.
-/

namespace Custody

namespace Library

/-- The files in memory that a call hands over. -/
def Effect.unsaved? : Effect → Option (List Slot)
  | .parse _ _ _ _ unsaved _ => some unsaved
  | .reparse _ unsaved _ => some unsaved
  | _ => none

/-- The files in memory that the library was given by each call, in order. -/
def State.submissions (state : State) : List (List Slot) :=
  state.effects.filterMap Effect.unsaved?

namespace Call

variable {α β : Type}

/-- A request that hands no files over. -/
def Quiet (request : Call α) : Prop :=
  ∀ state : State, (Id.run (StateT.run request state)).2.submissions = state.submissions

namespace Quiet

protected theorem pure (value : α) : Quiet (pure value) := fun _ => rfl

protected theorem get : Quiet get := fun _ => rfl

protected theorem modify {change : State → State}
    (same : ∀ state, (change state).effects = state.effects) : Quiet (modify change) :=
  fun state => congrArg (List.filterMap Effect.unsaved?) (same state)

protected theorem bind {request : Call α} {next : α → Call β} (first : Quiet request)
    (rest : ∀ answer, Quiet (next answer)) : Quiet (request >>= next) :=
  fun state => (rest _ _).trans (first state)

/-- Only what hands unsaved files over is not quiet. -/
protected theorem note {effect : Effect} (none : effect.unsaved? = none) :
    Quiet (note effect) := by
  intro state
  change (state.effects ++ [effect]).filterMap Effect.unsaved? = _
  simp [none, State.submissions]

/-- A misuse is no effect. -/
protected theorem use (handle : Handle) : Quiet (use handle) := by
  refine .modify fun state => ?_
  split <;> rfl

protected theorem allocate (kind : HandleKind) (parent : Option Handle) (content : Content) :
    Quiet (allocate kind parent content) :=
  .bind .get fun _ => .bind (.modify fun _ => rfl) fun _ => .pure _

/-- A disposal hands no files over. -/
protected theorem dispose (handle : Handle) : Quiet (dispose handle) :=
  .bind .get fun _ => .bind (.note rfl) fun _ => .modify fun _ => rfl

protected theorem lend (data : Option Bytes) : Quiet (lend data) :=
  .bind .get fun _ => .bind (.modify fun _ => rfl) fun _ => .pure _

protected theorem settle (lent : Lent) : Quiet (settle lent) := by
  refine .bind ?_ fun _ => .pure _
  unfold settle?
  split
  · exact .bind (.modify fun _ => rfl) fun _ => .pure _
  · exact .pure _

/-- To make an index hands no files over. -/
protected theorem createIndex (excludeDeclarations displayDiagnostics : Bool) :
    Quiet (createIndex excludeDeclarations displayDiagnostics) := by
  refine .bind (.note rfl) fun _ => .bind .get fun state => ?_
  split
  · exact .pure _
  · exact .bind (.allocate _ _ _) fun _ => .pure _

/-- The unit is produced after the files were handed over. -/
protected theorem produceUnit (index : Handle) : Quiet (produceUnit index) := by
  refine .bind .get fun state => ?_
  dsimp only
  split
  · exact .pure _
  · split
    · exact .pure _
    · exact .bind (.allocate _ _ _) fun _ => .pure _

protected theorem unitModel (unit : Handle) : Quiet (unitModel unit) :=
  .bind (.use unit) fun _ => .bind .get fun _ => .pure _

end Quiet

/-- A request that hands certain files over, once. -/
def Submits (request : Call α) (slots : List Slot) : Prop :=
  ∀ state : State,
    (Id.run (StateT.run request state)).2.submissions = state.submissions ++ [slots]

/-- The files that an effect hands over are those that are submitted. -/
theorem Submits.note {effect : Effect} {slots : List Slot} (handed : effect.unsaved? = some slots) :
    Submits (note effect) slots := by
  intro state
  change (state.effects ++ [effect]).filterMap Effect.unsaved? = _
  simp [handed, State.submissions]

/-- What comes after may be quiet. -/
theorem Submits.andQuiet {request : Call α} {next : α → Call β} {slots : List Slot}
    (first : Submits request slots) (rest : ∀ answer, Quiet (next answer)) :
    Submits (request >>= next) slots :=
  fun state => (rest _ _).trans (first state)

/-- What comes before may be quiet. -/
theorem Quiet.andSubmits {request : Call α} {next : α → Call β} {slots : List Slot}
    (first : Quiet request) (rest : ∀ answer, Submits (next answer) slots) :
    Submits (request >>= next) slots :=
  fun state => (rest _ _).trans (congrArg (· ++ [slots]) (first state))

/-- Parsing hands its files over. -/
theorem parse_submits (full : Bool) (index : Handle) (filename : Option Bytes)
    (arguments : List Bytes) (unsaved : Option (List Slot)) (options : Int) :
    Submits (parse full index filename arguments unsaved options) (unsaved.getD []) :=
  (Quiet.use index).andSubmits fun _ => (Submits.note rfl).andQuiet fun _ => .produceUnit index

/-- Parsing again hands its files over. -/
theorem reparse_submits (unit : Handle) (unsaved : Option (List Slot)) (options : Int) :
    Submits (reparse unit unsaved options) (unsaved.getD []) :=
  (Quiet.use unit).andSubmits fun _ => (Submits.note rfl).andQuiet fun _ =>
    .bind .get fun _ => .bind (.modify fun _ => rfl) fun _ => .pure _

end Call
end Library

/-- Between two sessions no files were handed over, and all holders stay what they are. -/
structure Session.Undisturbed (before after : Session) : Prop where
  /-- No files were handed over. -/
  submissions : after.library.submissions = before.library.submissions
  /-- Holders stay what they are. -/
  contents : ∀ number wrapper, before.estate.content? number = some wrapper →
    after.estate.content? number = some wrapper

namespace Session.Undisturbed

variable {before middle after : Session}

protected theorem refl (session : Session) : session.Undisturbed session :=
  ⟨rfl, fun _ _ present => present⟩

/-- Two stretches that disturb nothing disturb nothing together. -/
protected theorem trans (first : before.Undisturbed middle) (second : middle.Undisturbed after) :
    before.Undisturbed after :=
  ⟨second.submissions.trans first.submissions, fun number wrapper present =>
    second.contents number wrapper (first.contents number wrapper present)⟩

/-- Neither the library nor the holders changed. -/
theorem of_same (library : after.library = before.library) (estate : after.estate = before.estate) :
    before.Undisturbed after :=
  ⟨by rw [library], fun _ _ present => by rwa [estate]⟩

end Session.Undisturbed

namespace Facade

variable {α β : Type} {session : Session}

/-- An operation that hands no files over and leaves all holders what they are. -/
def Quiet (action : Facade α) : Prop :=
  ∀ session : Session, session.Undisturbed (action.outcome session).2

namespace Quiet

protected theorem pure (value : α) : Quiet (pure value) := .refl

protected theorem throw (failure : Failure) : Quiet (throw failure : Facade α) := .refl

/-- Nothing follows after a failure. -/
protected theorem throwThen {next : α → Facade β} (failure : Failure) :
    Quiet (throw failure >>= next) := .refl

protected theorem get : Quiet get := .refl

protected theorem modify {change : Session → Session}
    (library : ∀ session, (change session).library = session.library)
    (estate : ∀ session, (change session).estate = session.estate) : Quiet (modify change) :=
  fun session => .of_same (library session) (estate session)

protected theorem bind {action : Facade α} {next : α → Facade β} (first : Quiet action)
    (rest : ∀ value, Quiet (next value)) : Quiet (action >>= next) := by
  intro session
  have early := first session
  rw [outcome_bind]
  rcases reached : action.outcome session with ⟨failure | value, middle⟩
  all_goals rw [reached] at early
  · exact early
  · exact early.trans (rest value middle)

protected theorem ofExcept (result : Except Failure α) : Quiet (ofExcept result) := by
  cases result with
  | error failure => exact .throw failure
  | ok value => exact .pure value

protected theorem mapM {change : α → Facade β} (each : ∀ item, Quiet (change item))
    (items : List α) : Quiet (items.mapM change) := by
  induction items with
  | nil => exact .pure _
  | cons item items rest =>
      rw [List.mapM_cons]
      exact .bind (each item) fun _ => .bind rest fun _ => .pure _

protected theorem call {request : Library.Call α} (quiet : request.Quiet) : Quiet (call request) :=
  fun session => ⟨quiet session.library, fun _ _ present => present⟩

protected theorem record (level : LogLevel) (message : Text) : Quiet (record level message) :=
  .modify (fun _ => rfl) fun _ => rfl

/-- To look up a holder hands no files over. -/
protected theorem holder (number : Nat) : Quiet (holder number) := by
  refine .bind .get fun session => ?_
  split
  · exact .pure _
  · exact .throw _

protected theorem handle (number : Nat) : Quiet (handle number) := by
  refine .bind (.holder number) fun record => ?_
  split
  · exact .pure _
  · exact .throw _

protected theorem passed (given : Passed) : Quiet (passed given) := by
  cases given with
  | holder number => exact .bind (.handle number) fun _ => .pure _
  | other => exact .throw _

/-- A holder is made without a request. -/
protected theorem wrap (handle : Option Handle) (owned : Bool) (wrapper : Wrapper) :
    Quiet (wrap handle owned wrapper) := by
  cases handle with
  | none => exact .throw _
  | some handle =>
      refine fun session => ⟨rfl, fun number former present => ?_⟩
      obtain ⟨record, found, -⟩ := Option.map_eq_some_iff.mp present
      change (session.estate.add _).content? number = _
      rwa [Estate.content?_add, if_neg (Nat.ne_of_lt (Estate.lt_size_of_get? found))]

/-- Disposal hands no files over. -/
theorem spares_dispose (estate : Estate Handle Wrapper) (holder : Nat) (handle : Handle)
    (library : Library.State) :
    (discipline.dispose estate holder handle library).1.submissions = library.submissions :=
  Library.Call.Quiet.dispose handle library

/-- Closing hands no files over. -/
theorem settle_of_advances {outcome : Outcome Handle Wrapper Library.State}
    (advances : discipline.Advances session.estate session.library outcome) :
    session.Undisturbed ((settle outcome).outcome session).2 := by
  rw [settle_outcome]
  exact ⟨advances.spares Library.State.submissions spares_dispose, fun number wrapper present =>
    (advances.wanes.content?_eq number).trans present⟩

protected theorem close (number : Nat) : Quiet (close number) :=
  fun _ => settle_of_advances (Discipline.closeWithin_advances _ _ _ _)

protected theorem closeDependants (number : Nat) : Quiet (closeDependants number) :=
  fun _ => settle_of_advances (Discipline.closeDependants_advances _ _ _)

/-- What succeeds after a quiet operation succeeds in a session that it left undisturbed. -/
theorem gives {action : Facade α} (quiet : Quiet action) (session : Session) :
    Gives session action fun later _ => session.Undisturbed later := by
  intro value after succeeded
  have undisturbed := quiet session
  rwa [succeeded] at undisturbed

end Quiet

/-- An operation that hands certain files over, once. -/
def Hands (action : Facade α) (slots : List Slot) : Prop :=
  ∀ session : Session,
    (action.outcome session).2.library.submissions = session.library.submissions ++ [slots]

/-- A request that submits files hands them over. -/
theorem Hands.call {request : Library.Call α} {slots : List Slot}
    (submits : request.Submits slots) : Hands (call request) slots :=
  fun session => submits session.library

/-- What comes after may be quiet. -/
theorem Hands.andQuiet {action : Facade α} {next : α → Facade β} {slots : List Slot}
    (first : Hands action slots) (rest : ∀ value, Quiet (next value)) :
    Hands (action >>= next) slots := by
  intro session
  have early := first session
  rw [outcome_bind]
  rcases reached : action.outcome session with ⟨failure | value, middle⟩
  all_goals rw [reached] at early
  · exact early
  · exact (rest value middle).submissions.trans early

/-- Whoever hands files over has handed over just these. -/
theorem Hands.gives {action : Facade α} {slots : List Slot} (hands : Hands action slots)
    (session : Session) :
    Gives session action fun later _ =>
      later.library.submissions = session.library.submissions ++ [slots] := by
  intro value after succeeded
  have handed := hands session
  rwa [succeeded] at handed

/-- If quiet operations come first, what is handed over is the same. -/
theorem Quiet.andGives {action : Facade α} {next : α → Facade β} {slots : List Slot}
    (first : Quiet action)
    (rest : ∀ value later, Gives later (next value) fun last _ =>
      last.library.submissions = later.library.submissions ++ [slots]) :
    Gives session (action >>= next) fun last _ =>
      last.library.submissions = session.library.submissions ++ [slots] := by
  refine (first.gives session).bind fun value later undisturbed => ?_
  rw [← undisturbed.submissions]
  exact rest value later

end Facade

open Facade

namespace UnsavedFile

variable {file : UnsavedFile}

/-- A file that was made has the bytes of its name and of its contents. -/
theorem encoded_of_make {filename contents : Datum} (made : make filename contents = .ok file) :
    filename.encodeName = .ok file.filenameBytes ∧
      contents.encodeContents = .ok file.contentsBytes := by
  unfold make setFilename setContents at made
  cases named : filename.encodeName with
  | error failure => simp [named, bind, Except.bind] at made
  | ok name =>
      cases filled : contents.encodeContents with
      | error failure => simp [named, filled, bind, Except.bind, pure, Except.pure] at made
      | ok bytes =>
          simp only [named, filled, bind, Except.bind, pure, Except.pure] at made
          cases made
          exact ⟨rfl, rfl⟩

/-- Files are told apart by the bytes of their names. -/
theorem filename_eq_iff {other : UnsavedFile} :
    file.filename = other.filename ↔ file.filenameBytes = other.filenameBytes :=
  Utf8.decodeKeeping_injective.eq_iff

end UnsavedFile

/-- No array is passed when there are no files, and else it has one slot for each. -/
theorem unsavedSlots_getD (files : List UnsavedFile) :
    (unsavedSlots files).getD [] = files.map UnsavedFile.slot := by
  unfold unsavedSlots
  cases files <;> rfl

namespace CompilationUnit

variable {session : Session}

/-- The files of a caller, and after them the source in memory, if no file has its name. -/
def filesWith (overlay : Option UnsavedFile) (files : List UnsavedFile) : List UnsavedFile :=
  files ++ (overlay.filter fun source =>
    files.all fun file => file.filenameBytes ≠ source.filenameBytes).toList

/-- The files of a call replace the one that a unit keeps under their name. -/
theorem withOverlay_eq (overlay : Option UnsavedFile) (files : List UnsavedFile) :
    withOverlay overlay files = filesWith overlay files := by
  cases overlay with
  | none => exact (List.append_nil files).symm
  | some source =>
      unfold withOverlay filesWith
      simp only [ne_eq, UnsavedFile.filename_eq_iff, Option.filter_some]
      split <;> simp

section Files

/-- The files for a call are files that were all there. -/
theorem checkedFiles_gives (unsaved : UnsavedFiles) :
    Gives session (checkedFiles unsaved) fun later files =>
      later = session ∧ unsaved = files.map some := by
  unfold checkedFiles
  induction unsaved with
  | nil => exact .pure ⟨rfl, rfl⟩
  | cons file unsaved rest =>
      rw [List.mapM_cons]
      cases file with
      | none => rintro _ _ ⟨⟩
      | some file =>
          have read : Gives session (pure file : Facade UnsavedFile) fun later found =>
            later = session ∧ found = file := .pure ⟨rfl, rfl⟩
          refine read.bind ?_
          rintro _ _ ⟨rfl, rfl⟩
          refine rest.bind ?_
          rintro files _ ⟨rfl, rfl⟩
          exact .pure ⟨rfl, rfl⟩

/-- The files are checked before they are handed over. -/
theorem checkedFiles_quiet (unsaved : UnsavedFiles) : Quiet (checkedFiles unsaved) := by
  refine .mapM (fun file => ?_) unsaved
  cases file with
  | none => exact .throw _
  | some file => exact .pure file

end Files

section Parsing

/-- An index that is made hands no files over. -/
theorem indexOrNew_quiet (index : Option Passed) : Quiet (Index.orNew index) := by
  cases index with
  | some index => exact .pure _
  | none =>
      refine .bind ?_ fun _ => .pure _
      refine .bind (.call (.createIndex _ _)) fun handle => .bind (.wrap _ _ _) fun _ => ?_
      cases handle with
      | none => exact .pure _
      | some handle => exact .bind (.record _ _) fun _ => .pure _

theorem argumentsOf_quiet (arguments : Option Datum) : Quiet (argumentsOf arguments) :=
  .bind .get fun _ => .ofExcept _

/-- A unit keeps the unsaved file that it is made with. -/
theorem wrap_gives (handle : Handle) (index : Nat) (overlay : Option UnsavedFile) :
    Gives session (wrap handle index overlay) fun later unit =>
      later.library = session.library ∧
        later.estate.content? unit = some (.unit index overlay) := by
  rintro unit later ⟨⟩
  refine ⟨rfl, ?_⟩
  change ((session.estate.add _).adopt index _).content? _ = _
  rw [Estate.content?_adopt, Estate.content?_add, if_pos rfl]

theorem name_quiet (filename : Option Datum) :
    Quiet (filename.mapM fun filename => Facade.ofExcept filename.encodeName) := by
  cases filename with
  | none => exact .pure _
  | some filename => exact .bind (.ofExcept _) fun _ => .pure _

/-- Parsing hands over the files of the caller, which are all there. -/
theorem parse_gives (full : Bool) (index : Passed) (filename : Option Datum)
    (arguments : List Datum) (unsaved : UnsavedFiles) (options : Datum) :
    Gives session (parse full index filename arguments unsaved options) fun later _ =>
      ∃ files : List UnsavedFile, unsaved = files.map some ∧
        later.library.submissions =
          session.library.submissions ++ [files.map UnsavedFile.slot] := by
  unfold parse
  refine (Quiet.gives (.ofExcept _) session).bind fun encoded second undisturbed => ?_
  refine (checkedFiles_gives unsaved).bind fun files third found => ?_
  obtain ⟨same, all⟩ := found
  subst same all
  refine Gives.mono (?_ : Gives third _ fun later _ => later.library.submissions =
      third.library.submissions ++ [files.map UnsavedFile.slot])
    fun later _ handed => ⟨files, rfl, handed.trans (by rw [undisturbed.submissions])⟩
  refine (name_quiet filename).andGives fun name fourth => ?_
  refine (Quiet.record _ _).andGives fun _ fifth => ?_
  refine (Quiet.passed index).andGives fun passed sixth => ?_
  refine (Quiet.ofExcept _).andGives fun word seventh => ?_
  rw [← unsavedSlots_getD]
  have submits := Hands.call (Library.Call.parse_submits full passed.2 name encoded
    (unsavedSlots files) word)
  refine (submits.andQuiet fun answer => ?_).gives seventh
  obtain ⟨status, unit⟩ := answer
  refine .bind (.ofExcept _) fun subject => ?_
  dsimp only
  split
  · exact .throwThen _
  · split
    · exact .pure _
    · exact .throw _

/-- Parsing a file keeps the source it is given and hands over the files of the caller. -/
theorem parseFile_gives (index : Option Passed) (filename : Option Datum)
    (arguments : Option Datum) (unsaved : UnsavedFiles) (options : Datum)
    (overlay : Option UnsavedFile) :
    Gives session (parseFile index filename arguments unsaved options overlay) fun later unit =>
      ∃ (files : List UnsavedFile) (holder : Nat), unsaved = files.map some ∧
        later.estate.content? unit = some (.unit holder overlay) ∧
        later.library.submissions =
          session.library.submissions ++ [files.map UnsavedFile.slot] := by
  unfold parseFile
  refine ((indexOrNew_quiet index).gives session).bind fun passed second first => ?_
  refine ((argumentsOf_quiet arguments).gives second).bind fun arguments third next => ?_
  refine (parse_gives false passed filename arguments unsaved options).bind ?_
  rintro ⟨holder, handle⟩ fourth ⟨files, all, handed⟩
  refine (wrap_gives handle holder overlay).mono ?_
  rintro later unit ⟨sameLibrary, present⟩
  refine ⟨files, holder, all, present, ?_⟩
  rw [sameLibrary, handed, next.submissions, first.submissions]

/-- The name under which the next source in memory is parsed. -/
def sourceName (session : Session) (extension : String) : String :=
  "source" ++ String.ofList (Nat.toDigits 10 (session.generated + 1)) ++ "." ++ extension

/-- A unit made from source in memory is parsed with that source, under a generated name, after
the files of the caller, and keeps it. -/
theorem ofSource_gives (index : Option Passed) (source language : Datum)
    (arguments : Option Datum) (unsaved : UnsavedFiles) (options : Datum) :
    Gives session (ofSource index source language arguments unsaved options) fun later unit =>
      ∃ (files : List UnsavedFile) (holder : Nat) (overlay : UnsavedFile) (extension : String),
        unsaved = files.map some ∧
        later.estate.content? unit = some (.unit holder (some overlay)) ∧
        (Datum.text (sourceName session extension)).encodeName = .ok overlay.filenameBytes ∧
        source.encodeContents = .ok overlay.contentsBytes ∧
        later.library.submissions =
          session.library.submissions ++ [files.map UnsavedFile.slot ++ [overlay.slot]] := by
  unfold ofSource
  have named : Gives session generatedName fun later name =>
      later.library = session.library ∧
        name = "source" ++ String.ofList (Nat.toDigits 10 (session.generated + 1)) := by
    rintro _ _ ⟨⟩
    exact ⟨rfl, rfl⟩
  refine named.bind ?_
  rintro name second ⟨sameLibrary, rfl⟩
  refine (Quiet.gives (.ofExcept _) second).bind ?_
  rintro ⟨label, extension⟩ third first
  dsimp only
  refine (Gives.ofExcept _).bind fun overlay fourth found => ?_
  obtain ⟨same, made⟩ := found
  obtain ⟨named, filled⟩ := UnsavedFile.encoded_of_make made
  refine (parseFile_gives _ _ _ _ _ _).mono ?_
  rintro later unit ⟨all, holder, extended, present, handed⟩
  obtain ⟨files, last, rfl, rfl, lastOnly⟩ := List.map_eq_append_iff.mp extended.symm
  obtain ⟨only, none, rfl, isOverlay, empty⟩ := List.map_eq_cons_iff.mp lastOnly
  cases isOverlay
  cases List.map_eq_nil_iff.mp empty
  refine ⟨files, holder, overlay, extension, rfl, present, named, filled, ?_⟩
  rw [handed, same, first.submissions, sameLibrary, List.map_append]
  rfl

/-- A unit made from a file keeps no source. -/
theorem ofFile_gives (index : Option Passed) (filename : Option Datum) (arguments : Option Datum)
    (unsaved : UnsavedFiles) (options : Datum) :
    Gives session (ofFile index filename arguments unsaved options) fun later unit =>
      ∃ holder, later.estate.content? unit = some (.unit holder none) := by
  refine (parseFile_gives index filename arguments unsaved options none).mono ?_
  rintro later unit ⟨files, holder, -, present, -⟩
  exact ⟨holder, present⟩

/-- A unit that was stored keeps no source. -/
theorem ofStored_gives (index : Option Passed) (path : Datum) :
    Gives session (ofStored index path) fun later unit =>
      ∃ holder, later.estate.content? unit = some (.unit holder none) := by
  have wrapped (handle : Handle) (holder : Nat) (later : Session) :
      Gives later (wrap handle holder none) fun last unit =>
        ∃ holder, last.estate.content? unit = some (.unit holder none) :=
    (wrap_gives handle holder none).mono fun _ _ found => ⟨holder, found.2⟩
  unfold ofStored
  refine .last fun path second => .last fun session third => ?_
  dsimp only
  split
  · rintro _ _ ⟨⟩
  refine .last fun passed fourth => .last fun held fifth => .last fun answer sixth => ?_
  obtain ⟨status, unit⟩ := answer
  dsimp only
  split
  · rintro _ _ ⟨⟩
  split
  · rintro _ _ ⟨⟩
  cases unit with
  | none => exact .throw _
  | some unit => exact wrapped unit held.1 sixth

/-- A unit made from a compile command keeps no source. -/
theorem ofCommand_gives (index : Option Passed) (command : CompileCommand)
    (unsaved : UnsavedFiles) (options : Datum) :
    Gives session (ofCommand index command unsaved options) fun later unit =>
      ∃ holder, later.estate.content? unit = some (.unit holder none) := by
  unfold ofCommand
  split
  · rintro _ _ ⟨⟩
  refine .last fun passed second => .last fun parsed third => ?_
  exact (wrap_gives parsed.2 parsed.1 none).mono fun _ _ found => ⟨parsed.1, found.2⟩

end Parsing

section Reparsing

/-- What the library is given when a unit is parsed again. -/
structure Resubmission where
  /-- The unit. -/
  handle : Handle
  /-- The array of files, null if there are none. -/
  unsaved : Option (List Slot)
  /-- The options. -/
  options : Int

/-- All that comes before the library is called. -/
def resubmission (unit : Nat) (unsaved : UnsavedFiles) (options : Option Datum) :
    Facade Resubmission := do
  let options ← optionsOr (defaultReparseOptions unit) options
  let handle ← Facade.handle unit
  Facade.closeDependants unit
  let files := withOverlay (← overlay unit) (← checkedFiles unsaved)
  let options ← Facade.ofExcept options.toInteger
  return ⟨handle, unsavedSlots files, options⟩

/-- The call of the library, and what follows. -/
def resubmit (unit : Nat) (request : Resubmission) : Facade Unit := do
  let status ← Facade.call (Library.Call.reparse request.handle request.unsaved request.options)
  if status ≠ 0 then
    let spelling ← spelling unit
    Facade.close unit
    throw (.reported
      ⟨.unit, .reparseFailed, "failed to reparse " ++ Text.ofString spelling, some status⟩)

/-- A unit is parsed again in two stages, before and after the files are handed over. -/
theorem reparse_eq (unit : Nat) (unsaved : UnsavedFiles) (options : Option Datum) :
    reparse unit unsaved options = resubmission unit unsaved options >>= resubmit unit := by
  simp only [reparse, resubmission, resubmit, bind_assoc, pure_bind]

/-- Defaults are asked for without a change of the holders. -/
theorem optionsOr_gives (unit : Nat) (options : Option Datum) :
    Gives session (optionsOr (defaultReparseOptions unit) options) fun later _ =>
      later.estate = session.estate := by
  cases options with
  | some options => exact .pure rfl
  | none =>
      refine Gives.bind (?_ : Gives session _ fun later _ => later.estate = session.estate)
        fun _ _ same => .pure same
      refine (Gives.handle unit).bind ?_
      rintro handle later ⟨rfl, -⟩ _ _ ⟨⟩
      rfl

theorem optionsOr_quiet (unit : Nat) (options : Option Datum) :
    Quiet (optionsOr (defaultReparseOptions unit) options) := by
  cases options with
  | some options => exact .pure _
  | none =>
      refine .bind (.bind (.handle unit) fun handle => .call ?_) fun _ => .pure _
      exact .bind (.unitModel handle) fun _ => .pure _

/-- The unsaved file of a unit is the one that it keeps. -/
theorem overlay_gives {unit holder : Nat} {kept : Option UnsavedFile}
    (present : session.estate.content? unit = some (.unit holder kept)) :
    Gives session (overlay unit) fun later found => later = session ∧ found = kept := by
  refine (Gives.holder unit).bind ?_
  rintro record _ ⟨rfl, found⟩
  have content : record.content = .unit holder kept :=
    Option.some.inj ((Estate.content?_of_get? found).symm.trans present)
  rw [content]
  exact .pure ⟨rfl, rfl⟩

theorem overlay_quiet (unit : Nat) : Quiet (overlay unit) := by
  refine .bind (.holder unit) fun record => ?_
  split <;> exact .pure _

theorem spelling_quiet (unit : Nat) : Quiet (spelling unit) := by
  refine .bind (.handle unit) fun handle => .call (.bind ?_ fun lent => .settle lent)
  exact .bind (.unitModel handle) fun _ => .lend _

/-- Nothing is handed over before the library is called. -/
theorem resubmission_quiet (unit : Nat) (unsaved : UnsavedFiles) (options : Option Datum) :
    Quiet (resubmission unit unsaved options) :=
  .bind (optionsOr_quiet unit options) fun _ => .bind (.handle unit) fun _ =>
    .bind (.closeDependants unit) fun _ => .bind (overlay_quiet unit) fun _ =>
      .bind (checkedFiles_quiet unsaved) fun _ => .bind (.ofExcept _) fun _ => .pure _

/-- The library is given the files of the caller, which are all there, and, if the unit keeps
source that none of them overrides, that source. -/
theorem resubmission_gives {unit holder : Nat} {overlay : Option UnsavedFile}
    (present : session.estate.content? unit = some (.unit holder overlay))
    (unsaved : UnsavedFiles) (options : Option Datum) :
    Gives session (resubmission unit unsaved options) fun _ request =>
      ∃ files : List UnsavedFile, unsaved = files.map some ∧
        session.estate.handle? unit = some request.handle ∧
        request.unsaved = unsavedSlots (filesWith overlay files) := by
  unfold resubmission
  refine (optionsOr_gives unit options).bind fun options second sameEstate => ?_
  rw [← sameEstate] at present ⊢
  refine (Gives.handle unit).bind ?_
  rintro handle _ ⟨rfl, held⟩
  refine ((Quiet.closeDependants unit).gives _).bind fun _ third undisturbed => ?_
  refine (overlay_gives (undisturbed.contents unit _ present)).bind ?_
  rintro _ _ ⟨rfl, rfl⟩
  refine (checkedFiles_gives _).bind ?_
  rintro files _ ⟨rfl, all⟩
  refine .last fun options last => .pure ⟨files, all, held, ?_⟩
  rw [withOverlay_eq]

/-- The library is called once, with what it is given. -/
theorem resubmit_hands (unit : Nat) (request : Resubmission) :
    Hands (resubmit unit request) (request.unsaved.getD []) := by
  refine (Hands.call (Library.Call.reparse_submits _ _ _)).andQuiet fun status => ?_
  split
  · exact .bind (spelling_quiet unit) fun _ => .bind (.close unit) fun _ => .throw _
  · exact .pure _

end Reparsing

end CompilationUnit

end Custody
