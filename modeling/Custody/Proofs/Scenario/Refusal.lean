import Custody.Proofs.Scenario.Descent

/-!
# Refusal after closing

Once a unit is closed, whatever was derived from it refuses to use the library: the values
that name the unit look whether it is open before they ask, and its diagnostics are closed
with it.  A location whose place was read before goes on telling it.
-/

namespace Custody

namespace Session

/-- A holder that was closed. -/
def Shut (session : Session) (number : Nat) : Prop :=
  ∃ record, session.estate.get? number = some record ∧ record.handle = none

variable {session : Session}

/-- A holder that is there and not open was closed. -/
theorem shut_of_closed {number : Nat} {wrapper : Wrapper}
    (found : session.estate.content? number = some wrapper)
    (closed : session.estate.isOpen number = false) : session.Shut number := by
  obtain ⟨record, present, _⟩ := Option.map_eq_some_iff.mp found
  refine ⟨record, present, ?_⟩
  cases held : record.handle with
  | none => rfl
  | some handle =>
      have opened : session.estate.isOpen number = true :=
        Estate.isOpen_iff.mpr ⟨handle, Estate.handle?_eq_some_iff.mpr ⟨record, present, held⟩⟩
      rw [opened] at closed
      cases closed

/-- What hangs on a closed holder is closed. -/
theorem KeepsDependencies.closed_of_hangs (keeps : session.KeepsDependencies) {top number : Nat}
    (closed : session.estate.isOpen top = false)
    (chain : Relation.TransGen session.Adopted top number) :
    session.estate.isOpen number = false := by
  have below (parent child : Nat) (adopted : session.Adopted parent child)
      (closed : session.estate.isOpen parent = false) : session.estate.isOpen child = false := by
    apply Bool.eq_false_iff.mpr
    intro opened
    rw [keeps.open_parent parent child adopted opened] at closed
    cases closed
  induction chain with
  | single adopted => exact below _ _ adopted closed
  | tail _ adopted inductionHypothesis => exact below _ _ adopted inductionHypothesis

end Session

namespace Facade

variable {α β : Type} {session : Session} {number : Nat}

/-- An operation fails because a holder is closed, and changes nothing. -/
def Refused (session : Session) (action : Facade α) : Prop :=
  ∃ className, action.outcome session = (.error (.closed className), session)

namespace Refused

/-- What comes after a refusal does not matter. -/
theorem first {action : Facade α} {next : α → Facade β} (refused : Refused session action) :
    Refused session (action >>= next) := by
  obtain ⟨className, failed⟩ := refused
  exact ⟨className, outcome_bind_of_error failed next⟩

/-- A refusal may come after what changes nothing. -/
theorem after {action : Facade α} {next : α → Facade β} {value : α}
    (succeeded : action.outcome session = (.ok value, session))
    (refused : Refused session (next value)) : Refused session (action >>= next) := by
  obtain ⟨className, failed⟩ := refused
  refine ⟨className, ?_⟩
  rw [outcome_bind_of_ok succeeded]
  exact failed

/-- A holder that was closed is refused by the name of its class. -/
theorem handle (shut : session.Shut number) : Refused session (Facade.handle number) := by
  obtain ⟨record, present, closed⟩ := shut
  refine ⟨record.content.className, ?_⟩
  rw [handle_outcome, present]
  simp [closed]

/-- The check that a holder is open refuses it as well. -/
theorem ensureOpen (shut : session.Shut number) : Refused session (Facade.ensureOpen number) :=
  (handle shut).first

end Refused
end Facade

open Facade

variable {session : Session}

namespace CompilationUnit

variable {unit : Nat} (shut : session.Shut unit)
include shut

theorem spelling_refused : Refused session (spelling unit) := (Refused.handle shut).first

theorem cursor_refused : Refused session (cursor unit) := (Refused.handle shut).first

theorem file_refused (path : Datum) : Refused session (file unit path) :=
  (Refused.handle shut).first

/-- An extent of the unit itself does not get past the handle of the unit. -/
theorem tokens_refused {extent : Option Range}
    (own : ∀ range, extent = some range → range.owner = unit) :
    Refused session (tokens unit extent) := by
  cases extent with
  | none => exact (cursor_refused shut).first
  | some extent =>
      have own : ¬ extent.owner ≠ unit := not_not_intro (own extent rfl)
      unfold tokens
      simp only [pure_bind, if_neg own]
      exact (Refused.handle shut).first

theorem visitChildren_refused (visitor : Visitor) : Refused session (visitChildren unit visitor) :=
  (Refused.handle shut).first

theorem visitInclusions_refused (visitor : InclusionVisitor) :
    Refused session (visitInclusions unit visitor) := (Refused.handle shut).first

omit shut in
/-- Whether options are given or asked for, the unit must be open. -/
theorem optionsOr_refused {α : Type} {default : Facade Int} {next : Datum → Facade α}
    (asking : Refused session default) (going : ∀ options, Refused session (next options))
    (options : Option Datum) : Refused session (optionsOr default options >>= next) := by
  cases options with
  | none => exact Refused.first asking.first
  | some options => exact .after (outcome_pure session options) (going options)

theorem save_refused (path : Datum) (options : Option Datum) :
    Refused session (save unit path options) :=
  optionsOr_refused (Refused.handle shut).first (fun _ => (Refused.handle shut).first) options

/-- A unit is refused before its dependants are closed. -/
theorem reparse_refused (unsaved : UnsavedFiles) (options : Option Datum) :
    Refused session (reparse unit unsaved options) :=
  optionsOr_refused (Refused.handle shut).first (fun _ => (Refused.handle shut).first) options

end CompilationUnit

/-- Indexing needs an open unit, whatever became of the indexing session. -/
theorem IndexAction.index_refused {action unit : Nat} {record : Holder Handle Wrapper}
    {options : Datum} {number : Int}
    (shut : session.Shut unit)
    (present : session.estate.get? action = some record)
    (whole : options.toInteger = .ok number)
    (hooks : Hooks) : Refused session (index action (.holder unit) hooks options) := by
  cases held : record.handle with
  | none => exact (Refused.handle ⟨record, present, held⟩).first
  | some handle =>
      have opened := handle_outcome_of_held (Estate.handle?_eq_some_iff.mpr ⟨record, present, held⟩)
      refine .after opened ?_
      rw [whole]
      exact .after (outcome_pure session number) (Refused.handle shut).first.first

theorem DiagnosticView.count_refused {unit : Nat} (shut : session.Shut unit) :
    Refused session (count unit) := (Refused.handle shut).first

/-- The parts of a unit or a diagnostic that are read from the library. -/
def Wrapper.libraryParts : Wrapper → List String
  | .unit _ _ => ["spelling", "cursor"]
  | .diagnostic _ =>
      ["severity", "spelling", "location", "ranges", "fixits", "option", "disable_option",
        "category_name", "category_number", "children"]
  | _ => []

namespace Value

/-- The parts of a value that are read from the library; those that tell where a location lies are
read only once. -/
def libraryParts (session : Session) : Value → List String
  | .holder number => ((session.estate.content? number).map Wrapper.libraryParts).getD []
  | .file _ => ["name", "time"]
  | .location place =>
      ["is_from_main_file", "is_in_system_header"] ++
        if (session.expansions.lookup place).isNone then ["file", "line", "column", "offset"]
        else []
  | .cursor _ =>
      ["spelling", "display_name", "usr", "range", "location", "semantic_parent", "lexical_parent",
        "referenced", "definition", "is_definition", "children"]
  | .token _ => ["spelling", "location", "range"]
  | _ => []

/-- What is asked of the library is not among the parts that all holders have. -/
theorem holderPart?_of_libraryParts {wrapper : Wrapper} {name : String}
    (listed : name ∈ wrapper.libraryParts) (number : Nat) : holderPart? number name = none := by
  unfold holderPart?
  split
  · cases wrapper <;> simp [Wrapper.libraryParts] at listed
  · cases wrapper <;> simp [Wrapper.libraryParts] at listed
  · cases wrapper <;> simp [Wrapper.libraryParts] at listed
  · rfl

section Parts

variable {number : Nat} (shut : session.Shut number) {name : String}
include shut

/-- A closed diagnostic tells nothing that is asked of the library. -/
theorem diagnosticPart_refused {owner : Nat}
    (listed : name ∈ (Wrapper.diagnostic owner).libraryParts) :
    Refused session (diagnosticPart number name) := by
  have model : Refused session (Diagnostic.model number) := (Refused.handle shut).first
  have textOf (part : Library.DiagnosticModel → Option Bytes) :
      Refused session (Diagnostic.textOf number part) := (Refused.handle shut).first
  unfold diagnosticPart
  split
  · exact Refused.first model.first
  · exact (textOf _).first
  · exact Refused.first (Refused.handle shut).first
  · exact Refused.first (Refused.handle shut).first
  · exact Refused.first (Refused.handle shut).first
  · exact Refused.first model.first
  · exact (textOf _).first
  · exact Refused.first (Refused.handle shut).first
  · exact Refused.first (Refused.handle shut).first
  · exact Refused.first (Refused.handle shut).first
  · simp_all [Wrapper.libraryParts]

/-- A closed unit tells nothing that is asked of the library. -/
theorem unitPart_refused {index : Nat} {overlay : Option UnsavedFile}
    (listed : name ∈ (Wrapper.unit index overlay).libraryParts) :
    Refused session (unitPart number name) := by
  unfold unitPart
  split
  · simp [Wrapper.libraryParts] at listed
  · simp [Wrapper.libraryParts] at listed
  · simp [Wrapper.libraryParts] at listed
  · exact (CompilationUnit.spelling_refused shut).first
  · exact (CompilationUnit.cursor_refused shut).first
  · simp [Wrapper.libraryParts] at listed
  · simp_all [Wrapper.libraryParts]

/-- A closed holder tells nothing that is asked of the library. -/
theorem wrapperPart_refused (listed : name ∈ (Value.holder number).libraryParts session) :
    Refused session (wrapperPart number name) := by
  unfold libraryParts at listed
  cases found : session.estate.content? number with
  | none => simp [found] at listed
  | some wrapper =>
      have listed : name ∈ wrapper.libraryParts := by simpa [found] using listed
      have plain := holderPart?_of_libraryParts listed number
      have sorted : session.HasSort number wrapper.sort := by
        rw [Session.HasSort, found, Option.map_some]
      cases wrapper with
      | unit index overlay =>
          obtain ⟨className, refused⟩ := unitPart_refused shut listed
          exact ⟨className, (wrapperPart_of_unit plain sorted).trans refused⟩
      | diagnostic owner =>
          obtain ⟨className, refused⟩ := diagnosticPart_refused shut listed
          exact ⟨className, (wrapperPart_of_diagnostic plain sorted).trans refused⟩
      | _ => cases listed

/-- A file of a closed unit tells neither its name nor its time. -/
theorem filePart_refused {file : File} (owned : file.owner = number)
    (listed : name ∈ (Value.file file).libraryParts session) :
    Refused session ((Value.file file).ownPart name) := by
  subst owned
  simp only [ownPart]
  split
  · exact Refused.first (Refused.ensureOpen shut).first
  · exact Refused.first (Refused.ensureOpen shut).first
  · simp_all [libraryParts]

/-- A location of a closed unit is not read unless it was read before. -/
theorem locationPart_refused {location : Location} (owned : location.owner = number)
    (listed : name ∈ (Value.location location).libraryParts session) :
    Refused session (locationPart location name) := by
  subst owned
  have expansion (unread : session.expansions.lookup location = none) :
      Refused session location.expansion := by
    refine .after (outcome_get session) ?_
    rw [unread]
    exact (Refused.ensureOpen shut).first
  unfold locationPart
  split
  · exact (expansion (by simpa [libraryParts] using listed)).first
  · exact (expansion (by simpa [libraryParts] using listed)).first
  · exact (expansion (by simpa [libraryParts] using listed)).first
  · exact (expansion (by simpa [libraryParts] using listed)).first
  · simp [libraryParts] at listed
  · exact Refused.first (Refused.ensureOpen shut).first
  · exact Refused.first (Refused.ensureOpen shut).first
  · simp [libraryParts] at listed
  · simp_all [libraryParts]

/-- A cursor of a closed unit tells only what is part of its object. -/
theorem cursorPart_refused {cursor : Cursor} (named : cursor.unit = number)
    (listed : name ∈ (Value.cursor cursor).libraryParts session) :
    Refused session (cursorPart cursor name) := by
  subst named
  have readable : Refused session cursor.ensureReadable := (Refused.ensureOpen shut).first
  unfold cursorPart
  split
  · simp [libraryParts] at listed
  · exact Refused.first readable.first
  · exact Refused.first readable.first
  · exact Refused.first readable.first
  · exact Refused.first readable.first
  · exact Refused.first readable.first
  · simp [libraryParts] at listed
  · simp [libraryParts] at listed
  · exact Refused.first readable.first
  · exact Refused.first readable.first
  · exact Refused.first readable.first
  · exact Refused.first readable.first
  · exact Refused.first readable.first
  · exact Refused.first (Refused.first (Refused.first (Refused.ensureOpen shut).first))
  · simp_all [libraryParts]

/-- A token of a closed unit tells only what is part of its object. -/
theorem tokenPart_refused {token : Token} (named : token.unit = number)
    (listed : name ∈ (Value.token token).libraryParts session) :
    Refused session (tokenPart token name) := by
  subst named
  have readable : Refused session token.readableIn := (Refused.handle shut).first
  unfold tokenPart
  split
  · simp [libraryParts] at listed
  · exact Refused.first readable.first
  · exact Refused.first readable.first
  · exact Refused.first readable.first
  · simp [libraryParts] at listed
  · simp_all [libraryParts]

end Parts

section Views

variable {owner : Nat} (shut : session.Shut owner) (serial : Nat)
include shut

/-- The diagnostics of a closed unit are not counted. -/
theorem viewLength_refused : Refused session (Value.view serial owner).length :=
  DiagnosticView.count_refused shut

/-- The diagnostics of a closed unit are not picked. -/
theorem viewPick_refused (choice : Choice) :
    Refused session ((Value.view serial owner).pick choice) := by
  have counted := DiagnosticView.count_refused shut
  unfold pick
  split
  · exact counted.first
  · exact Refused.first counted.first
  · exact Refused.first counted.first
  · next index _ _ => cases index <;> exact counted.first

/-- The diagnostics of a closed unit are not listed. -/
theorem viewItems_refused : Refused session (Value.view serial owner).items :=
  Refused.first (DiagnosticView.count_refused shut).first

end Views

/-- The operations on a value derived from a unit that need the library. -/
inductive Asks (final : Session) (unit : Nat) : (α : Type) → Value → Facade α → Prop
  /-- Reading a part. -/
  | part {value : Value} {name : String} (listed : name ∈ value.libraryParts final) :
      Asks final unit Value value (value.ownPart name)
  /-- Making a range of two locations. -/
  | range (start finish : Location) (derived : Derived final unit (.location finish)) :
      Asks final unit Range (.location start) (Range.make start finish)
  /-- Visiting what is below a cursor. -/
  | visitCursor (cursor : Cursor) (visitor : Visitor) :
      Asks final unit _ (.cursor cursor) (cursor.visitChildren visitor)
  /-- The tokens of a cursor. -/
  | tokensOfCursor (cursor : Cursor) :
      Asks final unit _ (.cursor cursor) (CompilationUnit.tokensOfCursor cursor)
  /-- Counting diagnostics. -/
  | length (serial owner : Nat) :
      Asks final unit Nat (.view serial owner) (Value.view serial owner).length
  /-- Picking diagnostics. -/
  | pick (serial owner : Nat) (choice : Choice) :
      Asks final unit Value (.view serial owner) ((Value.view serial owner).pick choice)
  /-- Going through the diagnostics. -/
  | items (serial owner : Nat) :
      Asks final unit _ (.view serial owner) (Value.view serial owner).items
  /-- Looking up a file. -/
  | file (path : Datum) : Asks final unit _ (.holder unit) (CompilationUnit.file unit path)
  /-- The tokens of a unit or of an extent of it. -/
  | tokens (extent : Option Range)
      (own : ∀ range, extent = some range → Derived final unit (.range range)) :
      Asks final unit _ (.holder unit) (CompilationUnit.tokens unit extent)
  /-- Visiting the cursors of a unit. -/
  | visit (visitor : Visitor) :
      Asks final unit _ (.holder unit) (CompilationUnit.visitChildren unit visitor)
  /-- Visiting the inclusions of a unit. -/
  | visitInclusions (visitor : CompilationUnit.InclusionVisitor) :
      Asks final unit _ (.holder unit) (CompilationUnit.visitInclusions unit visitor)
  /-- Saving a unit. -/
  | save (path : Datum) (options : Option Datum) :
      Asks final unit _ (.holder unit) (CompilationUnit.save unit path options)
  /-- Parsing a unit again. -/
  | reparse (unsaved : CompilationUnit.UnsavedFiles) (options : Option Datum) :
      Asks final unit _ (.holder unit) (CompilationUnit.reparse unit unsaved options)
  /-- Indexing a unit, with an indexing session that may be closed too. -/
  | index {action : Nat} {record : Holder Handle Wrapper} {options : Datum} {number : Int}
      (present : final.estate.get? action = some record)
      (whole : options.toInteger = .ok number)
      (hooks : Hooks) :
      Asks final unit _ (.holder unit) (IndexAction.index action (.holder unit) hooks options)

section Closed

variable {final : Session} {unit : Nat} (keeps : final.KeepsDependencies)
  (isUnit : final.HasSort unit .unit)
  (closed : final.estate.isOpen unit = false)
include keeps isUnit closed

/-- With a unit, all diagnostics that hang on it are closed. -/
theorem shut_of_kin {number : Nat} (known : final.Kin unit number) : final.Shut number := by
  rcases known with rfl | ⟨isDiagnostic, chain⟩
  · obtain ⟨wrapper, found, _⟩ := Option.map_eq_some_iff.mp isUnit
    exact Session.shut_of_closed found closed
  · exact Session.shut_of_closed isDiagnostic (keeps.closed_of_hangs closed chain)

/-- Whatever was derived from a closed unit refuses the parts that the library tells. -/
theorem part_refused {value : Value} (derived : value.Derived final unit) {name : String}
    (listed : name ∈ value.libraryParts final) : Refused final (value.ownPart name) := by
  have within := derived.within isUnit
  have shut : final.Shut unit := shut_of_kin keeps isUnit closed (.inl rfl)
  cases value with
  | holder number => exact wrapperPart_refused (shut_of_kin keeps isUnit closed within) listed
  | file file => exact filePart_refused shut within listed
  | location location => exact locationPart_refused shut within listed
  | cursor cursor => exact cursorPart_refused shut within listed
  | token token => exact tokenPart_refused shut within listed
  | _ => cases listed

/-- What is derived from a closed unit refuses whatever needs the library. -/
theorem Derived.refused {α : Type} {value : Value} {action : Facade α}
    (derived : value.Derived final unit) (asks : Asks final unit α value action) :
    Refused final action := by
  have within := derived.within isUnit
  have shut : final.Shut unit := shut_of_kin keeps isUnit closed (.inl rfl)
  cases asks with
  | part listed => exact part_refused keeps isUnit closed derived listed
  | range start finish derivedToo =>
      have startOwned : start.owner = unit := within
      have finishOwned : finish.owner = unit := derivedToo.within isUnit
      have same : ¬ start.owner ≠ finish.owner := by
        rw [startOwned, finishOwned]
        exact not_not_intro rfl
      unfold Range.make
      rw [if_neg same, startOwned]
      exact (Refused.ensureOpen shut).first
  | visitCursor cursor visitor =>
      obtain rfl : cursor.unit = unit := within
      exact Refused.first (Refused.ensureOpen shut).first
  | tokensOfCursor cursor =>
      obtain rfl : cursor.unit = unit := within
      exact Refused.first (Refused.first (Refused.ensureOpen shut).first)
  | length serial owner =>
      obtain rfl : owner = unit := within
      exact viewLength_refused shut serial
  | pick serial owner choice =>
      obtain rfl : owner = unit := within
      exact viewPick_refused shut serial choice
  | items serial owner =>
      obtain rfl : owner = unit := within
      exact viewItems_refused shut serial
  | file path => exact CompilationUnit.file_refused shut path
  | tokens extent own =>
      refine CompilationUnit.tokens_refused shut fun range present => ?_
      exact (own range present).within isUnit
  | visit visitor => exact CompilationUnit.visitChildren_refused shut visitor
  | visitInclusions visitor => exact CompilationUnit.visitInclusions_refused shut visitor
  | save path options => exact CompilationUnit.save_refused shut path options
  | reparse unsaved options => exact CompilationUnit.reparse_refused shut unsaved options
  | index present whole hooks => exact IndexAction.index_refused shut present whole hooks

end Closed

end Value

namespace Scenario

variable {script : Library.Script} {settings : Settings} {storage : Storage}

/-- Every session in the course of a run lies before the last one. -/
theorem precedes_of_steps (earlier rest : List Step) (next : Step) :
    (((State.start script settings storage).steps earlier).1.facing next).Precedes
        ((State.start script settings storage).steps (earlier ++ next :: rest)).1.session ∧
      ((State.start script settings storage).steps (earlier ++ [next])).1.session.Precedes
        ((State.start script settings storage).steps (earlier ++ next :: rest)).1.session := by
  have sound := (State.start_sound script settings storage).steps earlier
  have grown := (sound.step next).grows_steps rest
  rw [State.steps_append, State.steps_append, State.steps_cons]
  exact ⟨⟨sound.tidy, (sound.grows_step next).trans grown⟩, (sound.step next).tidy, grown⟩

/-- When a unit is closed at the end of a run, in whatever way, all that was derived from it in the
course of the run refuses every use of the library. -/
theorem use_after_close_refused
    {steps : List Step}
    {final : Session}
    {unit : Nat}
    (reached : ((State.start script settings storage).steps steps).1.session = final)
    (isUnit : final.HasSort unit .unit)
    (closed : final.estate.isOpen unit = false) :
    (∀ earlier next rest, steps = earlier ++ next :: rest →
      (((State.start script settings storage).steps earlier).1.facing next).Precedes final ∧
        ((State.start script settings storage).steps (earlier ++ [next])).1.session.Precedes
          final) ∧
      ∀ value, Value.Derived final unit value →
        ∀ (α : Type) (action : Facade α), Value.Asks final unit α value action →
          Refused final action := by
  subst reached
  have sound := (State.start_sound script settings storage).steps steps
  have keeps := Session.keepsDependencies sound.valid
  refine ⟨?_, fun value derived α action asks => ?_⟩
  · rintro earlier next rest rfl
    exact precedes_of_steps earlier rest next
  · exact derived.refused keeps isUnit closed asks

/-- A library that can parse a unit with a diagnostic that has a note. -/
def notedScript : Library.Script :=
  ⟨[{ (default : Library.UnitModel) with
      diagnostics := [{ (default : Library.DiagnosticModel) with children := some [default] }] }],
    [], [], 0⟩

/-- Following a path from a named value, and giving the result a name. -/
def following (name : Text) (selectors : List Selector) (result : Text) : Step :=
  ⟨.follow (.named name []) ⟨"", selectors⟩, {}, some result⟩

/-- Reading the diagnostic of a unit and its note, and closing the index then. -/
def closingIndex : List Step :=
  [⟨.newIndex false false, {}, some "index"⟩,
    ⟨.parseWith (.named "index" []) (.text "a.c") ⟨some (.list []), [], .int 0⟩, {}, some "unit"⟩,
    following "unit" [.part "diagnostics", .item "0"] "diagnostic",
    following "diagnostic" [.part "children"] "notes",
    ⟨.close (.named "index" []), {}, none⟩]

/-- The session after some of these steps. -/
def closingSession (count : Nat) : Session :=
  ((State.start notedScript .blank ⟨[]⟩).steps (closingIndex.take count)).1.session

/-- The note is derived from the unit through the diagnostic, and is refused with it. -/
theorem closingIndex_refuses_note :
    (closingSession 5).estate.isOpen 1 = false ∧
      (Value.holder 4).Derived (closingSession 5) 1 ∧
      Refused (closingSession 5) ((Value.holder 4).ownPart "severity") ∧
      Refused (closingSession 5) (CompilationUnit.reparse 1 [] none) := by
  have closed : (closingSession 5).estate.isOpen 1 = false := by decide +kernel
  have isUnit : (closingSession 5).HasSort 1 .unit := by decide +kernel
  have handedOut : ((DiagnosticView.item 1 0).outcome (closingSession 2)).1.toOption = some 2 := by
    decide +kernel
  have diagnostic : (Value.holder 2).Derived (closingSession 5) 1 :=
    .diagnostic (by decide +kernel) (by decide +kernel) (outcome_of_toOption handedOut)
      (by decide +kernel)
  have listed : ((Diagnostic.children 2).outcome (closingSession 3)).1.toOption = some [4] := by
    decide +kernel
  have note : (Value.holder 4).Derived (closingSession 5) 1 :=
    diagnostic.note (by decide +kernel) (by decide +kernel) (outcome_of_toOption listed)
      (by decide +kernel) (List.mem_singleton_self 4)
  have reached : ((State.start notedScript .blank ⟨[]⟩).steps (closingIndex.take 5)).1.session =
      closingSession 5 := rfl
  obtain ⟨_, refused⟩ := use_after_close_refused reached isUnit closed
  refine ⟨closed, note, ?_, ?_⟩
  · exact refused _ note _ _ (.part (by decide +kernel))
  · exact refused _ .unit _ _ (.reparse [] none)

end Scenario
end Custody
