import Custody.Library.Cursor
import Custody.Library.Database
import Custody.Library.Diagnostic
import Custody.Library.Indexing
import Custody.Proofs.Library.Books

/-!
# What the requests do to the books

One statement for every request to the library: whether it only consults the books
or what it changes in them, and to which unit or set its answer belongs.
-/

namespace Custody

/-- A location lies in the space of a unit or set, or nowhere. -/
def NativeLocation.InSpace (space : Handle) (location : NativeLocation) : Prop :=
  ∀ other, location.space = some other → other = space

/-- A range lies in the space of a unit or set, or nowhere. -/
def NativeRange.InSpace (space : Handle) (range : NativeRange) : Prop :=
  ∀ other, range.space = some other → other = space

namespace NativeRange.InSpace

variable {space : Handle}

theorem start {range : NativeRange} (inside : range.InSpace space) :
    range.start.InSpace space := inside

/-- A range that lies nowhere lies in any space. -/
theorem null : NativeRange.null.InSpace space := by simp [NativeRange.InSpace, NativeRange.null]

/-- A range that begins in a space lies in it, or nowhere if it ends elsewhere. -/
theorem between {start : NativeLocation} (inside : start.InSpace space) (finish : NativeLocation) :
    (NativeRange.between start finish).InSpace space := by
  unfold NativeRange.between
  split
  · exact inside
  · exact null

end NativeRange.InSpace

namespace Library

namespace State

/-- A spot of a unit or set is located in its space. -/
theorem inSpace_locate (state : State) (space : Handle) (spot : Option Spot) :
    (state.locate space spot).InSpace space := by
  cases spot with
  | none => simp [locate, NativeLocation.InSpace, NativeLocation.null]
  | some spot => simp [locate, NativeLocation.InSpace]

/-- A stretch of a unit or set is delimited in its space. -/
theorem inSpace_delimit (state : State) (space : Handle) (stretch : Option Stretch) :
    (state.delimit space stretch).InSpace space := by
  cases stretch with
  | none => exact .null
  | some stretch => exact .between (state.inSpace_locate space _) _

/-- The file of an expanded location is one of its space. -/
theorem origin_of_expand {state : State} {location : NativeLocation} {file : FileHandle}
    (found : (state.expand location).file = some file) : location.space = some file.origin := by
  unfold expand spot? at found
  cases present : location.space with
  | none => simp [present, NativeExpansion.null] at found
  | some space =>
      rw [present] at found
      cases spot : Source.spotAt? (state.files space) location.position with
      | none => simp [spot, NativeExpansion.null] at found
      | some spot' =>
          simp only [spot, Option.map_some, Option.some.injEq] at found
          rw [← found]

/-- The tokens in a range are those of the unit that is asked. -/
theorem unit_of_mem_tokensIn {state : State} {unit : Handle} {range : NativeRange}
    {token : NativeToken} (member : token ∈ state.tokensIn unit range) : token.unit = unit := by
  unfold tokensIn at member
  obtain ⟨⟨model, index⟩, _, made⟩ := List.mem_filterMap.mp member
  simp only at made
  split at made
  · cases made
    rfl
  · cases made

end State

section Visiting

variable {σ : Type} {unit : Handle} {holds : σ → Prop} {visitor : CursorVisitor σ}
  {children : NativeCursor → List (Option NativeCursor)}

/-- What every call of a visitor on cursors of a unit preserves, visiting the children of one
preserves. -/
theorem visitEach_preserves
    {below : NativeCursor → σ → σ × VisitEnd}
    (visits : ∀ child parent state, (∀ cursor, child = some cursor → cursor.unit = unit) →
      parent.unit = unit → holds state → holds (visitor child parent state).1)
    (descends : ∀ cursor state, cursor.unit = unit → holds state → holds (below cursor state).1)
    {parent : NativeCursor}
    (inside : parent.unit = unit)
    {items : List (Option NativeCursor)}
    (allInside : ∀ cursor, some cursor ∈ items → cursor.unit = unit)
    {state : σ}
    (start : holds state) :
    holds (visitEach below visitor parent items state).1 := by
  induction items generalizing state with
  | nil => exact start
  | cons child rest inductionHypothesis =>
      have childInside : ∀ cursor, child = some cursor → cursor.unit = unit :=
        fun cursor same => allInside cursor (by simp [same])
      have restInside : ∀ cursor, some cursor ∈ rest → cursor.unit = unit :=
        fun cursor member => allInside cursor (by simp [member])
      have visited := visits child parent state childInside inside start
      unfold visitEach
      split
      · next answered => rwa [answered] at visited
      · next answered => exact inductionHypothesis restInside (by rwa [answered] at visited)
      · next after answered =>
          rw [answered] at visited
          cases child with
          | none => exact inductionHypothesis restInside visited
          | some cursor =>
              have descended := descends cursor after (childInside cursor rfl) visited
              dsimp only
              split
              · next ended =>
                  exact inductionHypothesis restInside (by rwa [ended] at descended)
              · exact descended

/-- What every call of a visitor on cursors of a unit preserves, visiting preserves. -/
theorem visitBelow_preserves
    (visits : ∀ child parent state, (∀ cursor, child = some cursor → cursor.unit = unit) →
      parent.unit = unit → holds state → holds (visitor child parent state).1)
    (allInside : ∀ parent cursor, parent.unit = unit → some cursor ∈ children parent →
      cursor.unit = unit)
    (depth : Nat)
    {parent : NativeCursor}
    (inside : parent.unit = unit)
    {state : σ}
    (start : holds state) :
    holds (visitBelow children visitor depth parent state).1 := by
  induction depth generalizing parent state with
  | zero => exact start
  | succ depth inductionHypothesis =>
      exact visitEach_preserves visits
        (fun _ _ within begun => inductionHypothesis within begun) inside
        (fun cursor => allInside parent cursor inside) start

/-- Children lie in the unit of their parent. -/
theorem unit_of_mem_childCursors {state : State} {parent cursor : NativeCursor}
    (member : some cursor ∈ state.childCursors parent) : cursor.unit = parent.unit := by
  unfold State.childCursors at member
  obtain ⟨child, _, made⟩ := List.mem_map.mp member
  obtain ⟨index, _, rfl⟩ := Option.map_eq_some_iff.mp made
  rfl

end Visiting

namespace Call

variable {books : Books}

section Units

variable {index unit : Handle}

/-- A new index is derived from nothing. -/
theorem createIndex_ensures (excludeDeclarations displayDiagnostics : Bool) :
    Ensures books (createIndex excludeDeclarations displayDiagnostics)
      (books.Grants .index none) := by
  refine (note_consults rfl).andThen fun _ _ => Consults.get.andThen fun state _ => ?_
  refine .ite (fun _ => .pure (.inl ⟨rfl, rfl⟩)) fun _ => ?_
  refine (allocate_ensures .index none _).bind ?_
  rintro _ _ ⟨rfl, rfl⟩
  exact .pure (.inr ⟨rfl, rfl⟩)

/-- Options are read on the strength of the index. -/
theorem globalOptions_consults (good : books.ledger.isGood index = true) :
    Consults books (globalOptions index) fun _ => True := by
  refine (use_consults good).bind fun _ _ => Consults.get.bind fun state _ => ?_
  split <;> exact .pure True.intro

/-- Setting options changes the content of an index, which is not in the books. -/
theorem setGlobalOptions_consults (good : books.ledger.isGood index = true) (options : Int) :
    Consults books (setGlobalOptions index options) fun _ => True := by
  refine (use_consults good).bind fun _ _ => (note_consults rfl).bind fun _ _ => ?_
  exact .modify fun state => books_modifyResource_of_keeps _ (fun _ => by rfl) state index

/-- The answer to a request for a unit: a unit is granted exactly if the reply provides one. -/
def Provides (books : Books) (index : Handle) (answer : Int × Option Handle) (later : Books) :
    Prop :=
  answer.1 = books.reply.status ∧
    if books.reply.providesUnit then
      answer.2 = some (books.ledger.fresh .unit) ∧ later = books.grant .unit (some index)
    else answer.2 = none ∧ later = books

/-- A unit is granted with a status of zero, and otherwise nothing is. -/
theorem Provides.granted_or_not {index : Handle} {status : Int} {unit : Option Handle}
    {later : Books} (provides : Provides books index (status, unit) later) :
    (books.reply.providesUnit = true ∧ status = 0 ∧ unit = some (books.ledger.fresh .unit) ∧
        later = books.grant .unit (some index)) ∨
      (books.reply.providesUnit = false ∧ unit = none ∧ later = books) := by
  obtain ⟨sameStatus, provided⟩ := provides
  split at provided
  · next granted =>
      have zero : books.reply.status = 0 := by
        simp only [Reply.providesUnit, Bool.and_eq_true, decide_eq_true_iff] at granted
        exact granted.1
      exact .inl ⟨granted, sameStatus.trans zero, provided.1, provided.2⟩
  · next refused => exact .inr ⟨Bool.eq_false_iff.mpr refused, provided.1, provided.2⟩

/-- The reply decides whether a unit is produced, and its status is passed on. -/
theorem produceUnit_ensures (index : Handle) :
    Ensures books (produceUnit index) (Provides books index) := by
  refine Consults.get.andThen ?_
  rintro state rfl
  have same : state.books.reply = state.reply := rfl
  refine .ite (fun failed => .pure ⟨rfl, ?_⟩) fun succeeded => ?_
  · rw [if_neg (by simp [Reply.providesUnit, same, failed])]
    exact ⟨rfl, rfl⟩
  · have zero : state.reply.status = 0 := Classical.not_not.mp succeeded
    split
    · next absent =>
        refine .pure ⟨rfl, ?_⟩
        rw [if_neg (by simp [Reply.providesUnit, same, absent])]
        exact ⟨rfl, rfl⟩
    · next model present =>
        refine (allocate_ensures .unit (some index) _).bind ?_
        rintro _ _ ⟨rfl, rfl⟩
        refine .pure ⟨rfl, ?_⟩
        rw [if_pos (by simp [Reply.providesUnit, same, present, zero])]
        exact ⟨rfl, rfl⟩

/-- Parsing asks for a unit; without a file name that is noted. -/
theorem parse_ensures
    (good : books.ledger.isGood index = true)
    (full : Bool)
    (filename : Option Bytes)
    (arguments : List Bytes)
    (unsaved : Option (List Slot))
    (options : Int) :
    Ensures books (parse full index filename arguments unsaved options)
      (Provides (if filename.isNone then books.ask else books) index) := by
  refine (use_consults good).andThen fun _ _ => ?_
  cases filename with
  | some name => exact (note_consults rfl).andThen fun _ _ => produceUnit_ensures index
  | none =>
      have noted : Ensures books (note (.parse full index none (arguments.map Bytes.upToZero)
          (unsaved.getD []) (unsignedWord options))) fun _ later => later = books.ask := by
        refine .modify ?_
        rintro state rfl
        rw [books_note]
        simp [State.books, Effect.disposed?, Effect.isNameless, Books.ask]
      refine noted.bind ?_
      rintro _ _ rfl
      exact produceUnit_ensures index

/-- A stored unit is derived from an index like one that is parsed. -/
theorem loadUnit_ensures (good : books.ledger.isGood index = true) (path : Bytes) :
    Ensures books (loadUnit index path) (Provides books index) :=
  (use_consults good).andThen fun _ _ => (note_consults rfl).andThen fun _ _ =>
    produceUnit_ensures index

/-- Parsing again spoils the unit exactly if it fails. -/
theorem reparse_ensures
    (good : books.ledger.isGood unit = true)
    (unsaved : Option (List Slot))
    (options : Int) :
    Ensures books (reparse unit unsaved options) fun answer later =>
      answer = books.reply.status ∧ later = if answer ≠ 0 then books.spoil unit else books := by
  refine (use_consults good).andThen fun _ _ => (note_consults rfl).andThen fun _ _ =>
    Consults.get.andThen fun state consulted => ?_
  have status : state.reply.status = books.reply.status := by rw [← consulted]; rfl
  refine Ensures.bind (show Ensures books _ fun _ later =>
    later = if state.reply.status ≠ 0 then books.spoil unit else books from .modify ?_) ?_
  · rintro current rfl
    split
    · exact books_modifyResource _ Entry.spoiled (fun _ => rfl) current unit
    · refine books_modifyResource_of_keeps _ (fun resource => ?_) current unit
      split <;> rfl
  · rintro _ _ rfl
    exact .pure ⟨status, rfl⟩

/-- Saving leaves a trace, but not one that is in the books. -/
theorem save_consults (good : books.ledger.isGood unit = true) (path : Bytes) (options : Int) :
    Consults books (save unit path options) fun _ => True :=
  (use_consults good).bind fun _ _ => (note_consults rfl).bind fun _ _ =>
    Consults.get.bind fun _ _ => .pure True.intro

/-- The model of a unit is read on the strength of its handle. -/
theorem unitModel_consults (good : books.ledger.isGood unit = true) :
    Consults books (unitModel unit) fun _ => True :=
  (use_consults good).bind fun _ _ => Consults.get.bind fun _ _ => .pure True.intro

theorem defaultReparseOptions_consults (good : books.ledger.isGood unit = true) :
    Consults books (defaultReparseOptions unit) fun _ => True :=
  (unitModel_consults good).bind fun _ _ => .pure True.intro

theorem defaultSaveOptions_consults (good : books.ledger.isGood unit = true) :
    Consults books (defaultSaveOptions unit) fun _ => True :=
  (unitModel_consults good).bind fun _ _ => .pure True.intro

/-- The name of a unit is lent on the strength of its handle. -/
theorem unitSpelling_consults (good : books.ledger.isGood unit = true) :
    Consults books (unitSpelling unit) fun _ => True :=
  (unitModel_consults good).bind fun _ _ => lend_consults _

/-- Asking an unusable unit for its name misuses the unit. -/
theorem unitSpelling_strays (bad : books.ledger.isGood unit = false) :
    Ensures books (unitSpelling unit) fun _ later => later = books.stray unit := by
  have asked : Ensures books (unitModel unit) fun _ later => later = books.stray unit := by
    refine (use_strays bad).bind ?_
    rintro _ _ rfl
    exact Consults.get.andThen fun _ _ => .pure rfl
  refine asked.bind ?_
  rintro _ _ rfl
  exact Ensures.mono (lend_consults _) fun _ _ kept => kept.1

end Units

section Files

variable {unit : Handle} {file : FileHandle}

/-- A file that is found is one of the unit. -/
theorem fileNamed_consults (good : books.ledger.isGood unit = true) (name : Bytes) :
    Consults books (fileNamed unit name) fun answer =>
      ∀ file, answer = some file → file.origin = unit := by
  refine (use_consults good).bind fun _ _ => Consults.get.bind fun state _ => .pure ?_
  intro file found
  obtain ⟨index, _, rfl⟩ := Option.map_eq_some_iff.mp found
  rfl

/-- The name of a file is lent on the strength of its unit. -/
theorem fileName_consults (good : books.ledger.isGood file.origin = true) :
    Consults books (fileName file) fun _ => True :=
  (use_consults good).bind fun _ _ => Consults.get.bind fun _ _ => lend_consults _

theorem fileTime_consults (good : books.ledger.isGood file.origin = true) :
    Consults books (fileTime file) fun _ => True :=
  (use_consults good).bind fun _ _ => Consults.get.bind fun _ _ => .pure True.intro

/-- Both the unit and that of the file are used, and the location lies in the former. -/
theorem locationOfOffset_consults
    (good : books.ledger.isGood unit = true)
    (fileGood : books.ledger.isGood file.origin = true)
    (offset : Nat) :
    Consults books (locationOfOffset unit file offset) fun answer => answer.InSpace unit := by
  refine (use_consults good).bind fun _ _ => (use_consults fileGood).bind fun _ _ =>
    Consults.get.bind fun _ _ => .pure ?_
  intro other same
  exact (Option.some.inj same).symm

/-- A line and a column are turned into an offset without a use of handles. -/
theorem locationOfPosition_consults
    (good : books.ledger.isGood unit = true)
    (fileGood : books.ledger.isGood file.origin = true)
    (line column : Nat) :
    Consults books (locationOfPosition unit file line column) fun answer => answer.InSpace unit :=
  Consults.get.bind fun _ _ => locationOfOffset_consults good fileGood _

end Files

section Locations

variable {location : NativeLocation}

/-- A location that lies nowhere uses nothing. -/
theorem useSpace_consults
    (good : ∀ space, location.space = some space → books.ledger.isGood space = true) :
    Consults books (useSpace location) fun _ => True := by
  unfold useSpace
  split
  · exact .pure True.intro
  · next space present => exact use_consults (good space present)

/-- The file of an expansion is one of the location's space. -/
theorem expansion_consults
    (good : ∀ space, location.space = some space → books.ledger.isGood space = true) :
    Consults books (expansion location) fun answer =>
      ∀ file, answer.file = some file → location.space = some file.origin :=
  (useSpace_consults good).bind fun _ _ => Consults.get.bind fun _ _ =>
    .pure fun _ found => State.origin_of_expand found

/-- Only the space of the location is used. -/
theorem isFromMainFile_consults
    (good : ∀ space, location.space = some space → books.ledger.isGood space = true) :
    Consults books (isFromMainFile location) fun _ => True :=
  (useSpace_consults good).bind fun _ _ => Consults.get.bind fun _ _ => .pure True.intro

theorem isInSystemHeader_consults
    (good : ∀ space, location.space = some space → books.ledger.isGood space = true) :
    Consults books (isInSystemHeader location) fun _ => True :=
  (useSpace_consults good).bind fun _ _ => Consults.get.bind fun _ _ => .pure True.intro

end Locations

section Diagnostics

variable {unit set diagnostic : Handle}

/-- The diagnostics of a unit are counted on the strength of its handle. -/
theorem diagnosticCount_consults (good : books.ledger.isGood unit = true) :
    Consults books (diagnosticCount unit) fun _ => True :=
  (use_consults good).bind fun _ _ => Consults.get.bind fun _ _ => .pure True.intro

/-- A diagnostic of a unit is granted with a handle derived from it. -/
theorem diagnosticAt_ensures (good : books.ledger.isGood unit = true) (position : Nat) :
    Ensures books (diagnosticAt unit position) (books.Grants .diagnostic (some unit)) := by
  refine (use_consults good).andThen fun _ _ => Consults.get.andThen fun state _ => ?_
  split
  · exact .pure (.inl ⟨rfl, rfl⟩)
  · refine (allocate_ensures .diagnostic (some unit) _).bind ?_
    rintro _ _ ⟨rfl, rfl⟩
    exact .pure (.inr ⟨rfl, rfl⟩)

theorem setCount_consults (good : books.ledger.isGood set = true) :
    Consults books (setCount set) fun _ => True :=
  (use_consults good).bind fun _ _ => Consults.get.bind fun _ _ => .pure True.intro

/-- A diagnostic of a set has no allocation of its own, so nothing is granted. -/
theorem setItem_consults (good : books.ledger.isGood set = true) (position : Nat) :
    Consults books (setItem set position) fun answer => answer = .note set position :=
  (use_consults good).bind fun _ _ => .pure rfl

/-- The set of notes below a diagnostic has no allocation of its own either. -/
theorem childDiagnostics_consults (good : books.ledger.isGood diagnostic = true) :
    Consults books (childDiagnostics diagnostic) fun answer =>
      ∀ notes, answer = some notes → notes = .notes diagnostic := by
  refine (use_consults good).bind fun _ _ => Consults.get.bind fun state _ => .pure ?_
  intro notes found
  obtain ⟨_, _, rfl⟩ := Option.map_eq_some_iff.mp found
  rfl

/-- The model of a diagnostic is read on the strength of its handle. -/
theorem diagnosticModel_consults (good : books.ledger.isGood diagnostic = true) :
    Consults books (diagnosticModel diagnostic) fun _ => True :=
  (use_consults good).bind fun _ _ => Consults.get.bind fun _ _ => .pure True.intro

/-- The location of a diagnostic lies in the space of the set or unit above it. -/
theorem diagnosticLocation_consults (good : books.ledger.isGood diagnostic = true) :
    Consults books (diagnosticLocation diagnostic) fun answer =>
      answer.InSpace (books.ledger.space diagnostic) := by
  refine (diagnosticModel_consults good).bind fun model _ => Consults.get.bind ?_
  rintro state rfl
  refine .pure ?_
  rw [State.diagnosticSpace_eq]
  exact state.inSpace_locate _ _

/-- All ranges of a diagnostic lie in the space of the set or unit above it. -/
theorem diagnosticRanges_consults (good : books.ledger.isGood diagnostic = true) :
    Consults books (diagnosticRanges diagnostic) fun answer =>
      ∀ range ∈ answer, range.InSpace (books.ledger.space diagnostic) := by
  refine (diagnosticModel_consults good).bind fun model _ => Consults.get.bind ?_
  rintro state rfl
  refine .pure fun range member => ?_
  obtain ⟨stretch, _, rfl⟩ := List.mem_map.mp member
  rw [State.diagnosticSpace_eq]
  exact state.inSpace_delimit _ _

/-- Replacements are counted in the model of the diagnostic. -/
theorem replacementCount_consults (good : books.ledger.isGood diagnostic = true) :
    Consults books (replacementCount diagnostic) fun _ => True :=
  (diagnosticModel_consults good).bind fun _ _ => .pure True.intro

/-- The range of a replacement lies in the space of its diagnostic. -/
theorem replacementAt_consults (good : books.ledger.isGood diagnostic = true) (position : Nat) :
    Consults books (replacementAt diagnostic position) fun answer =>
      answer.2.InSpace (books.ledger.space diagnostic) := by
  refine (diagnosticModel_consults good).bind fun model _ => (lend_consults _).bind fun _ _ =>
    Consults.get.bind ?_
  rintro state rfl
  refine .pure ?_
  rw [State.diagnosticSpace_eq]
  exact state.inSpace_delimit _ _

/-- The disabling option is lent only where it is asked for. -/
theorem diagnosticOption_consults (good : books.ledger.isGood diagnostic = true)
    (withDisable : Bool) :
    Consults books (diagnosticOption diagnostic withDisable) fun _ => True := by
  refine (diagnosticModel_consults good).bind fun model _ => (lend_consults _).bind fun _ _ => ?_
  refine .ite (fun _ => ?_) fun _ => .pure True.intro
  exact (lend_consults _).bind fun _ _ => .pure True.intro

/-- A diagnostic is formatted on the strength of its handle. -/
theorem formatDiagnostic_consults (good : books.ledger.isGood diagnostic = true) (options : Int) :
    Consults books (formatDiagnostic diagnostic options) fun _ => True :=
  (diagnosticModel_consults good).bind fun _ _ => lend_consults _

/-- A set that is loaded is derived from nothing, and the message is lent in any case. -/
theorem loadDiagnostics_ensures (path : Bytes) :
    Ensures books (loadDiagnostics path) fun answer later =>
      books.Grants .set none answer.1 later := by
  refine (note_consults rfl).andThen fun _ _ => Consults.get.andThen fun state _ => ?_
  have lent (handle : Option Handle) (later : Books)
      (granted : books.Grants .set none handle later) :
      Ensures later (do return (handle, signedWord state.reply.status, ← lend state.reply.message))
        fun answer last => books.Grants .set none answer.1 last :=
    (lend_consults _).andThen fun _ _ => .pure granted
  dsimp only
  split
  · exact lent none books (.inl ⟨rfl, rfl⟩)
  · refine ((allocate_ensures .set none _).map some).bind ?_
    rintro _ _ ⟨_, rfl, rfl, rfl⟩
    exact lent _ _ (.inr ⟨rfl, rfl⟩)

end Diagnostics

section Databases

variable {database commands : Handle}

/-- A database is derived from nothing. -/
theorem openDatabase_ensures (path : Bytes) :
    Ensures books (openDatabase path) fun answer later =>
      books.Grants .database none answer.1 later := by
  refine (note_consults rfl).andThen fun _ _ => Consults.get.andThen fun state _ => ?_
  dsimp only
  split
  · exact .pure (.inl ⟨rfl, rfl⟩)
  · refine (allocate_ensures .database none _).bind ?_
    rintro _ _ ⟨rfl, rfl⟩
    exact .pure (.inr ⟨rfl, rfl⟩)

/-- An empty list may be no list at all, and then nothing is granted. -/
theorem listCommands_ensures (items : List (Option CommandModel)) :
    Ensures books (listCommands items) (books.Grants .commands none) := by
  refine Consults.get.andThen fun state _ => ?_
  refine .ite (fun _ => .pure (.inl ⟨rfl, rfl⟩)) fun _ => ?_
  refine (allocate_ensures .commands none _).bind ?_
  rintro _ _ ⟨rfl, rfl⟩
  exact .pure (.inr ⟨rfl, rfl⟩)

/-- The list of all commands is not derived from the database. -/
theorem allCommands_ensures (good : books.ledger.isGood database = true) :
    Ensures books (allCommands database) (books.Grants .commands none) :=
  (use_consults good).andThen fun _ _ => (note_consults rfl).andThen fun _ _ =>
    Consults.get.andThen fun _ _ => listCommands_ensures _

/-- The list of the commands for a file is not derived from the database. -/
theorem commandsFor_ensures (good : books.ledger.isGood database = true) (filename : Bytes) :
    Ensures books (commandsFor database filename) (books.Grants .commands none) :=
  (use_consults good).andThen fun _ _ => (note_consults rfl).andThen fun _ _ =>
    Consults.get.andThen fun _ _ => listCommands_ensures _

/-- The commands of a list are read on the strength of its handle. -/
theorem commandItems_consults (good : books.ledger.isGood commands = true) :
    Consults books (commandItems commands) fun _ => True :=
  (use_consults good).bind fun _ _ => Consults.get.bind fun _ _ => .pure True.intro

end Databases

section Cursors

variable {unit : Handle} {cursor : NativeCursor}

/-- The root cursor is one of the unit. -/
theorem rootCursor_consults (good : books.ledger.isGood unit = true) :
    Consults books (rootCursor unit) fun answer =>
      ∀ cursor, answer = some cursor → cursor.unit = unit := by
  refine (use_consults good).bind fun _ _ => Consults.get.bind fun state _ => .pure ?_
  intro cursor found
  obtain ⟨index, _, rfl⟩ := Option.map_eq_some_iff.mp found
  rfl

/-- The model of a cursor is read on the strength of its unit. -/
theorem cursorModel_consults (good : books.ledger.isGood cursor.unit = true) :
    Consults books (cursorModel cursor) fun _ => True :=
  (use_consults good).bind fun _ _ => Consults.get.bind fun _ _ => .pure True.intro

/-- The extent of a cursor lies in its unit. -/
theorem cursorExtent_consults (good : books.ledger.isGood cursor.unit = true) :
    Consults books (cursorExtent cursor) fun answer => answer.InSpace cursor.unit :=
  (cursorModel_consults good).bind fun _ _ => Consults.get.bind fun state _ =>
    .pure (state.inSpace_delimit _ _)

/-- The location of a cursor lies in its unit. -/
theorem cursorLocation_consults (good : books.ledger.isGood cursor.unit = true) :
    Consults books (cursorLocation cursor) fun answer => answer.InSpace cursor.unit :=
  (cursorModel_consults good).bind fun _ _ => Consults.get.bind fun state _ =>
    .pure (state.inSpace_locate _ _)

/-- A related cursor is one of the same unit. -/
theorem relatedCursor_consults (good : books.ledger.isGood cursor.unit = true)
    (relation : CursorModel → Option Nat) :
    Consults books (relatedCursor cursor relation) fun answer =>
      ∀ other, answer = some other → other.unit = cursor.unit := by
  refine (cursorModel_consults good).bind fun model _ => Consults.get.bind fun state _ => .pure ?_
  intro other found
  obtain ⟨index, _, rfl⟩ := Option.map_eq_some_iff.mp found
  rfl

/-- What every call of a visitor on cursors of the unit preserves holds in the end. -/
theorem visitChildren_consults {σ : Type} (holds : σ → Prop) {visitor : CursorVisitor σ}
    {start : σ} {cursor : Option NativeCursor}
    (good : ∀ native, cursor = some native → books.ledger.isGood native.unit = true)
    (visits : ∀ native, cursor = some native → ∀ child parent state,
      (∀ below, child = some below → below.unit = native.unit) → parent.unit = native.unit →
        holds state → holds (visitor child parent state).1)
    (begun : holds start) :
    Consults books (visitChildren cursor visitor start) fun answer => holds answer.1 := by
  cases cursor with
  | none => exact .pure begun
  | some native =>
      refine (use_consults (good native rfl)).bind fun _ _ => Consults.get.bind fun state _ => ?_
      refine .pure (visitBelow_preserves (visits native rfl) ?_ _ rfl begun)
      intro parent below inside member
      exact (unit_of_mem_childCursors member).trans inside

/-- A token buffer is not in the books, and its tokens are those of the unit. -/
theorem tokenize_consults (good : books.ledger.isGood unit = true) (range : NativeRange) :
    Consults books (tokenize unit range) fun answer =>
      ∀ buffer, answer = some buffer → ∀ token ∈ buffer.tokens, token.unit = unit := by
  refine (use_consults good).bind fun _ _ => Consults.get.bind fun state same => ?_
  refine .ite (fun _ => .pure (by simp)) fun _ => ?_
  refine Consults.bind (.set same) fun _ _ => .pure ?_
  intro buffer made token member
  cases made
  exact State.unit_of_mem_tokensIn member

/-- Giving a token buffer back is no disposal of a handle. -/
theorem disposeTokens_consults (good : books.ledger.isGood unit = true) (buffer : TokenBuffer) :
    Consults books (disposeTokens unit buffer) fun _ => True :=
  (use_consults good).bind fun _ _ => (note_consults rfl).bind fun _ _ => .modify fun _ => rfl

theorem tokenSpelling_consults (good : books.ledger.isGood unit = true) (token : NativeToken) :
    Consults books (tokenSpelling unit token) fun _ => True :=
  (use_consults good).bind fun _ _ => Consults.get.bind fun _ _ => lend_consults _

/-- The extent of a token lies in its unit. -/
theorem tokenExtent_consults (good : books.ledger.isGood unit = true) (token : NativeToken) :
    Consults books (tokenExtent unit token) fun answer => answer.InSpace token.unit :=
  (use_consults good).bind fun _ _ => Consults.get.bind fun state _ =>
    .pure (state.inSpace_delimit _ _)

/-- A token is located where its extent begins. -/
theorem tokenLocation_consults (good : books.ledger.isGood unit = true) (token : NativeToken) :
    Consults books (tokenLocation unit token) fun answer => answer.InSpace token.unit :=
  (tokenExtent_consults good token).bind fun _ inside => .pure inside.start

/-- What every call of a visitor on inclusions of the unit preserves holds in the end. -/
theorem visitInclusions_consults {σ : Type} (holds : σ → Prop)
    {visitor : FileHandle → List NativeLocation → σ → σ} {start : σ}
    (good : books.ledger.isGood unit = true)
    (visits : ∀ file stack state, file.origin = unit →
      (∀ location ∈ stack, NativeLocation.InSpace unit location) → holds state →
        holds (visitor file stack state))
    (begun : holds start) :
    Consults books (visitInclusions unit visitor start) holds := by
  refine (use_consults good).bind fun _ _ => Consults.get.bind fun state _ => .pure ?_
  refine List.foldlRecOn _ _ begun fun visited reached inclusion _ => visits _ _ _ rfl ?_ reached
  intro location member
  obtain ⟨spot, _, rfl⟩ := List.mem_map.mp member
  exact state.inSpace_locate unit spot

end Cursors

section Indexing

variable {index action unit : Handle}

/-- An action is derived from an index. -/
theorem createAction_ensures (good : books.ledger.isGood index = true) :
    Ensures books (createAction index) (books.Grants .action (some index)) := by
  refine (use_consults good).andThen fun _ _ => (note_consults rfl).andThen fun _ _ =>
    Consults.get.andThen fun state _ => ?_
  refine .ite (fun _ => .pure (.inl ⟨rfl, rfl⟩)) fun _ => ?_
  refine (allocate_ensures .action (some index) _).bind ?_
  rintro _ _ ⟨rfl, rfl⟩
  exact .pure (.inr ⟨rfl, rfl⟩)

/-- Indexing uses the action and the unit, and installs the stations. -/
theorem beginIndexing_consults
    (actionGood : books.ledger.isGood action = true)
    (unitGood : books.ledger.isGood unit = true)
    (options : Int)
    (installed : List Station) :
    Consults books (beginIndexing action unit options installed) fun _ => True :=
  (use_consults actionGood).bind fun _ _ => (use_consults unitGood).bind fun _ _ =>
    (note_consults rfl).bind fun _ _ => Consults.bind (.modify fun _ => rfl) fun _ _ =>
      Consults.get.bind fun _ _ => .pure True.intro

end Indexing

end Call
end Library
end Custody
