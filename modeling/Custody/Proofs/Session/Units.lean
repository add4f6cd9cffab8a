import Custody.Proofs.Session.Diagnostics
import Custody.Proofs.Session.Errands
import Custody.Session.Unit

/-!
# The conduct of units

An index is founded, and a unit is derived from the index it was parsed or loaded
with.  Parsing is an errand: the subject of a parse call is looked for after the
library has answered, and without a file name that can fail although a unit was
provided.  All else that is asked of a unit leaves the holdings alone, but for
parsing it again.
-/

namespace Custody

open Facade

variable {holdings : Holdings}

namespace Index

/-- Making an index founds a holder. -/
theorem make_runs (excludeDeclarations displayDiagnostics : Bool) :
    Runs holdings (make excludeDeclarations displayDiagnostics) fun _ _ => True := by
  refine callGrants (Library.Call.createIndex_ensures excludeDeclarations displayDiagnostics) ?_ ?_
  · exact Ensures.throwThen ⟨.refl, by simp⟩
  · refine (found_ensures .index).bind ?_ (by simp)
    rintro number later ⟨_, course⟩
    exact (Reads.andThen (record_reads _ _) (fun _ _ => Ensures.pure ⟨course, by simp⟩)
      fun _ => ⟨course, by simp⟩)

theorem orNew_runs (index : Option Passed) :
    Runs holdings (orNew index) fun _ _ => True := by
  cases index with
  | some index => exact .pure True.intro
  | none =>
      refine Ensures.bind (make_runs true true) ?_ ?_
      · rintro number later ⟨course, _⟩
        exact Ensures.pure ⟨course, by simp⟩
      · rintro failure later ⟨course, _⟩
        exact ⟨course, by simp⟩

theorem globalOptions_reads (valid : holdings.Valid) (index : Nat) :
    Reads holdings (globalOptions index) fun _ => True :=
  (handle_reads index).bind fun _ held =>
    call_reads (Library.Call.globalOptions_consults (valid.good_of_held held))

theorem setGlobalOptions_reads (valid : holdings.Valid) (index : Nat) (options : Datum) :
    Reads holdings (setGlobalOptions index options) fun _ => True :=
  (handle_reads index).bind fun _ held => (Reads.ofExcept _).bind fun options _ =>
    call_reads (Library.Call.setGlobalOptions_consults (valid.good_of_held held) options)

end Index

/-- A name that can be encoded can be shown. -/
theorem Datum.exists_decodeName_of_encodeName {name : Datum} {encoded : Bytes}
    (succeeded : name.encodeName = .ok encoded) : ∃ shown, name.decodeName = .ok shown := by
  cases name with
  | text value => exact ⟨_, rfl⟩
  | bytes value => exact ⟨_, rfl⟩
  | _ => cases succeeded

theorem Datum.mapM_text? (texts : List Text) :
    (texts.map Datum.text).mapM Datum.text? = some texts := by
  induction texts with
  | nil => rfl
  | cons text texts inductionHypothesis =>
      rw [List.map_cons, List.mapM_cons, inductionHypothesis]
      rfl

/-- The directory and the arguments of a compile command are texts, as its signature declares. -/
structure CompileCommand.IsTextual (command : CompileCommand) : Prop where
  /-- The directory is a text. -/
  directory : ∃ text, command.directory = .text text
  /-- The arguments are texts. -/
  arguments : ∃ texts : List Text, command.arguments = texts.map .text

namespace CompilationUnit

/-- The holdings after the library was asked for a unit, which is noted without a file name. -/
def askedFor (holdings : Holdings) (filename : Option Datum) : Holdings :=
  { holdings with books := if filename.isNone then holdings.books.ask else holdings.books }

theorem fresh_askedFor (holdings : Holdings) (filename : Option Datum) :
    (askedFor holdings filename).ledger.fresh .unit = holdings.ledger.fresh .unit := by
  cases filename <;> rfl

/-- How a parse call ends. -/
inductive Parsed (holdings : Holdings) (filename : Option Datum) (arguments : List Datum) :
    Except Failure (Nat × Handle) → Holdings → Prop
  /-- The library was not asked. -/
  | refused (failure : Failure) : Parsed holdings filename arguments (.error failure) holdings
  /-- The library provided no unit. -/
  | failed (failure : Failure) (unprovided : holdings.books.reply.providesUnit = false) :
      Parsed holdings filename arguments (.error failure) (askedFor holdings filename)
  /-- The library provided a unit, but the arguments that should name it are not all text. -/
  | lost {number : Nat} {upper : Handle} (failure : Failure)
      (nameless : filename = none)
      (unshown : arguments.mapM Datum.text? = none)
      (held : holdings.estate.handle? number = some upper)
      (provided : holdings.books.reply.providesUnit = true) :
      Parsed holdings filename arguments (.error failure) (holdings.ask.grant .unit (some upper))
  /-- The library provided a unit. -/
  | granted {number : Nat} {upper : Handle}
      (held : holdings.estate.handle? number = some upper) :
      Parsed holdings filename arguments (.ok (number, holdings.ledger.fresh .unit))
        ((askedFor holdings filename).grant .unit (some upper))

theorem checkedFiles_reads (files : UnsavedFiles) :
    Reads holdings (checkedFiles files) fun _ => True := by
  refine .mapM_trivial fun file _ => ?_
  split
  · exact .pure True.intro
  · exact .throw _

theorem subject_of_error {filename : Option Datum} {arguments : List Datum} {failure : Failure}
    (decodable : ∀ given, filename = some given → ∃ shown, given.decodeName = .ok shown)
    (failed : subject filename arguments = .error failure) :
    filename = none ∧ arguments.mapM Datum.text? = none := by
  cases filename with
  | some filename =>
      obtain ⟨shown, succeeded⟩ := decodable filename rfl
      cases succeeded.symm.trans failed
  | none =>
      refine ⟨rfl, ?_⟩
      unfold subject at failed
      dsimp only at failed
      split at failed
      · cases failed
      · next unshown => exact unshown

/-- How a parse call ends once the library has answered. -/
theorem settled_ensures
    {filename : Option Datum}
    {arguments : List Datum}
    {number : Nat}
    {upper : Handle}
    {status : Int}
    {unit : Option Handle}
    {books : Library.Books}
    {failing missing : Text → Failure}
    (held : holdings.estate.handle? number = some upper)
    (decodable : ∀ given, filename = some given → ∃ shown, given.decodeName = .ok shown)
    (answered :
      Library.Call.Provides (askedFor holdings filename).books upper (status, unit) books) :
    Ensures { holdings with books := books } (do
        let subject ← Facade.ofExcept (subject filename arguments)
        if status ≠ 0 then throw (failing subject)
        match unit with
        | some unit => return (number, unit)
        | none => throw (missing subject))
      (Parsed holdings filename arguments) := by
  have sameReply : (askedFor holdings filename).books.reply = holdings.books.reply := by
    cases filename <;> rfl
  have reply := congrArg Library.Reply.providesUnit sameReply
  rcases answered.granted_or_not with ⟨provides, rfl, rfl, rfl⟩ | ⟨unprovided, rfl, rfl⟩
  · cases found : subject filename arguments with
    | error failure =>
        obtain ⟨rfl, unshown⟩ := subject_of_error decodable found
        exact Ensures.throwThen (.lost failure rfl unshown held (reply.symm.trans provides))
    | ok shown =>
        refine Ensures.pure ?_
        rw [fresh_askedFor]
        exact .granted held
  · have failed (failure : Failure) :
        Parsed holdings filename arguments (.error failure) (askedFor holdings filename) :=
      .failed failure (reply.symm.trans unprovided)
    refine (Reads.ofExcept _).andThen (fun shown _ => ?_) failed
    by_cases zero : status = 0
    · rw [zero]
      exact Ensures.throw (failed _)
    · rw [if_pos zero]
      exact Ensures.throwThen (failed _)

/-- Parsing asks the library once, and then looks for the subject of the call. -/
theorem parse_ensures
    (valid : holdings.Valid)
    (full : Bool)
    (index : Passed)
    (filename : Option Datum)
    (arguments : List Datum)
    (unsaved : UnsavedFiles)
    (options : Datum) :
    Ensures holdings (parse full index filename arguments unsaved options)
      (Parsed holdings filename arguments) := by
  refine (Reads.ofExcept _).andThen (fun encoded _ => ?_) .refused
  refine (checkedFiles_reads unsaved).andThen (fun files _ => ?_) .refused
  have named : Reads holdings (filename.mapM fun filename => Facade.ofExcept filename.encodeName)
      fun name => name.isNone = filename.isNone ∧
        ∀ given, filename = some given → ∃ shown, given.decodeName = .ok shown := by
    cases filename with
    | none => exact .pure ⟨rfl, by simp⟩
    | some filename =>
        refine (Reads.ofExcept _).bind fun name succeeded => .pure ⟨rfl, ?_⟩
        rintro _ ⟨⟩
        exact Datum.exists_decodeName_of_encodeName succeeded
  refine named.andThen ?_ .refused
  rintro name ⟨sameName, decodable⟩
  refine (record_reads _ _).andThen (fun _ _ => ?_) .refused
  refine (passed_reads index).andThen ?_ .refused
  rintro ⟨number, upper⟩ held
  refine (Reads.ofExcept _).andThen (fun options _ => ?_) .refused
  refine callThen (Library.Call.parse_ensures (valid.good_of_held held) full name encoded
    (unsavedSlots files) options) ?_
  rintro ⟨status, unit⟩ books ⟨sameStatus, provided⟩
  rw [sameName] at sameStatus provided
  exact settled_ensures held decodable ⟨sameStatus, provided⟩

/-- Parsing and holding the unit is an errand, which loses the unit only if nothing but arguments
that are not all text should name it. -/
theorem parseThenWrap_fetches
    (valid : holdings.Valid)
    (full : Bool)
    (index : Passed)
    (filename : Option Datum)
    (arguments : List Datum)
    (unsaved : UnsavedFiles)
    (options : Datum)
    (overlay : Option UnsavedFile) :
    Fetches (filename = none ∧ arguments.mapM Datum.text? = none) holdings (do
      let (index, handle) ← parse full index filename arguments unsaved options
      wrap handle index overlay) := by
  refine (parse_ensures valid full index filename arguments unsaved options).bind ?_ ?_
  · rintro ⟨number, unit⟩ later (_ | _ | _ | @⟨_, upper, held⟩)
    have wrapped : Ensures ((askedFor holdings filename).grant .unit (some upper))
        (wrap (holdings.ledger.fresh .unit) number overlay) fun result later =>
          result = .ok holdings.estate.size ∧ (askedFor holdings filename).Course later := by
      rw [← fresh_askedFor holdings filename]
      exact derive_ensures held (.unit overlay)
    refine wrapped.mono ?_
    rintro _ later ⟨rfl, course⟩
    cases filename with
    | none => exact .asked .refl course (.inl rfl)
    | some filename => exact .course course
  · rintro failure later (⟨_⟩ | ⟨_, unprovided⟩ | ⟨_, nameless, unshown, held, provided⟩ | _)
    · exact .course .refl
    · cases filename with
      | none => exact .asked .refl .refl (.inr unprovided)
      | some filename => exact .course .refl
    · exact .lost ⟨nameless, unshown⟩ .refl held provided

theorem argumentsOf_reads (arguments : Option Datum) :
    Reads holdings (argumentsOf arguments) fun _ => True :=
  Reads.get.bind fun _ _ => (Reads.ofExcept _).trivial

/-- All arguments with which a textual command is parsed are texts. -/
theorem exists_texts {command : CompileCommand} (textual : command.IsTextual) :
    ∃ texts, (command.arguments ++ directoryArguments command.directory).mapM Datum.text? =
      some texts := by
  obtain ⟨⟨directory, named⟩, texts, listed⟩ := textual
  rw [named, listed]
  unfold directoryArguments
  split
  · have same : texts.map Datum.text ++ [.text "-working-directory", .text directory] =
        (texts ++ [Text.ofString "-working-directory", directory]).map Datum.text := by simp
    exact ⟨_, same ▸ Datum.mapM_text? _⟩
  · rw [List.append_nil]
    exact ⟨texts, Datum.mapM_text? texts⟩

section Making

variable (valid : holdings.Valid)
include valid

theorem parseFile_fetches (index : Option Passed) (filename arguments : Option Datum)
    (unsaved : UnsavedFiles) (options : Datum) (overlay : Option UnsavedFile) :
    Fetches (filename = none) holdings
      (parseFile index filename arguments unsaved options overlay) := by
  refine (Index.orNew_runs index).thenFetches valid fun index later laterValid _ => ?_
  refine (argumentsOf_reads arguments).thenFetches fun arguments _ => ?_
  refine (parseThenWrap_fetches laterValid false index filename arguments unsaved options
    overlay).mono And.left

theorem ofFile_fetches (index : Option Passed) (filename arguments : Option Datum)
    (unsaved : UnsavedFiles) (options : Datum) :
    Fetches (filename = none) holdings (ofFile index filename arguments unsaved options) :=
  parseFile_fetches valid index filename arguments unsaved options none

omit valid in
theorem generatedName_reads : Reads holdings generatedName fun _ => True :=
  Reads.bind (.modify (fun _ => rfl) fun _ _ tidy => tidy) fun _ _ =>
    Reads.get.bind fun _ _ => .pure True.intro

theorem ofSource_fetches (index : Option Passed) (source language : Datum)
    (arguments : Option Datum) (unsaved : UnsavedFiles) (options : Datum) :
    Fetches False holdings (ofSource index source language arguments unsaved options) := by
  refine generatedName_reads.thenFetches fun name _ => ?_
  refine (Reads.ofExcept _).thenFetches fun label _ => ?_
  refine (Reads.ofExcept _).thenFetches fun overlay _ => ?_
  exact (parseFile_fetches valid index _ arguments _ options (some overlay)).mono nofun

/-- What a compile command compiles is lost only if the command is not textual. -/
theorem ofCommand_fetches (index : Option Passed) (command : CompileCommand)
    (unsaved : UnsavedFiles) (options : Datum) :
    Fetches (¬ command.IsTextual) holdings (ofCommand index command unsaved options) := by
  unfold ofCommand
  split
  · exact Ensures.throwThen (.course .refl)
  · refine (Index.orNew_runs index).thenFetches valid fun index later laterValid _ => ?_
    refine (parseThenWrap_fetches laterValid true index none _ unsaved options none).mono ?_
    rintro ⟨-, unshown⟩ textual
    obtain ⟨texts, shown⟩ := exists_texts textual
    cases unshown.symm.trans shown

/-- Loading a stored unit derives it from its index. -/
theorem ofStored_runs (index : Option Passed) (path : Datum) :
    Runs holdings (ofStored index path) fun _ _ => True := by
  refine (Reads.ofExcept _).thenRuns fun path _ => Reads.get.thenRuns fun session _ => ?_
  dsimp only
  split
  · exact .throwThen _
  refine (Index.orNew_runs index).bind valid fun index later laterValid _ _ => ?_
  refine (passed_reads index).thenRuns ?_
  rintro ⟨number, upper⟩ held
  refine callThen (Library.Call.loadUnit_ensures (laterValid.good_of_held held) path.encode) ?_
  rintro ⟨status, unit⟩ books answered
  rcases answered.granted_or_not with ⟨provides, rfl, rfl, rfl⟩ | ⟨unprovided, rfl, rfl⟩
  · refine (derive_ensures held (.unit none)).mono fun _ _ derived => ?_
    exact ⟨derived.2, fun _ _ => True.intro⟩
  · change Runs later _ fun _ _ => True
    refine .ite (fun _ => .throwThen _) fun _ => ?_
    exact .ite (fun _ => .throwThen _) fun _ => .throw _

end Making

section Reading

variable (valid : holdings.Valid) (unit : Nat)

theorem index_reads : Reads holdings (index unit) fun _ => True := by
  refine (holder_reads unit).bind fun record _ => ?_
  split
  · exact .pure True.intro
  · exact .throw _

theorem overlay_reads : Reads holdings (overlay unit) fun _ => True := by
  refine (holder_reads unit).bind fun record _ => ?_
  split <;> exact .pure True.intro

include valid

theorem defaultReparseOptions_reads :
    Reads holdings (defaultReparseOptions unit) fun _ => True :=
  (handle_reads unit).bind fun _ held =>
    call_reads (Library.Call.defaultReparseOptions_consults (valid.good_of_held held))

theorem defaultSaveOptions_reads : Reads holdings (defaultSaveOptions unit) fun _ => True :=
  (handle_reads unit).bind fun _ held =>
    call_reads (Library.Call.defaultSaveOptions_consults (valid.good_of_held held))

theorem spelling_reads : Reads holdings (spelling unit) fun _ => True :=
  (handle_reads unit).bind fun _ held =>
    borrowed_reads (Library.Call.unitSpelling_consults (valid.good_of_held held))

omit valid in
theorem optionsOr_reads {default : Facade Int} (first : Reads holdings default fun _ => True)
    (options : Option Datum) : Reads holdings (optionsOr default options) fun _ => True := by
  cases options with
  | some options => exact .pure True.intro
  | none => exact first.bind fun _ _ => .pure True.intro

theorem save_reads (path : Datum) (options : Option Datum) :
    Reads holdings (save unit path options) fun _ => True := by
  refine (optionsOr_reads (defaultSaveOptions_reads valid unit) options).bind fun options _ => ?_
  refine (handle_reads unit).bind fun handle held => ?_
  refine (Reads.ofExcept _).bind fun encoded _ => (Reads.ofExcept _).bind fun options _ => ?_
  refine (call_reads (Library.Call.save_consults (valid.good_of_held held) encoded options)).bind
    fun status _ => ?_
  refine .ite (fun _ => ?_) fun _ => .pure True.intro
  exact (Reads.ofExcept _).bind fun _ _ => .throw _

theorem cursor_reads : Reads holdings (cursor unit) (Cursor.AllAnchored holdings.made) := by
  refine (handle_reads unit).bind fun handle held => ?_
  refine (call_reads (Library.Call.rootCursor_consults (valid.good_of_held held))).bind ?_
  intro root inside
  refine Reads.bind (.optionForM fun found _ => Cursor.checkPresent_reads found) fun _ _ => ?_
  refine Cursor.wrap_reads (fun found present => ?_) (by simp)
  rw [inside found present]
  exact valid.orderly.made_of_held held

theorem file_reads (path : Datum) :
    Reads holdings (file unit path) fun found =>
      ∀ file, found = some file → File.Anchored holdings.made file := by
  refine (handle_reads unit).bind fun handle held => (Reads.ofExcept _).bind fun name _ => ?_
  refine (call_reads (Library.Call.fileNamed_consults (valid.good_of_held held) name)).bind ?_
  intro native inside
  split
  · exact .pure (by simp)
  · next native =>
      have made : holdings.made[unit]? = some native.origin := by
        rw [inside native rfl]
        exact valid.orderly.made_of_held held
      refine (File.wrap_reads made).bind fun file anchored => .pure ?_
      rintro _ ⟨⟩
      exact anchored

/-- The tokens of a range belong to the unit. -/
theorem tokensWithin_reads (extent : Range) :
    Reads holdings (tokens unit (some extent)) fun tokens =>
      ∀ token ∈ tokens, Token.Anchored holdings.made token := by
  refine .ite (fun _ => .throwThen _) fun _ => ?_
  refine (handle_reads unit).bind fun handle held => ?_
  have good := valid.good_of_held held
  refine (call_reads (Library.Call.tokenize_consults good extent.native)).bind ?_
  intro answer inside
  split
  · exact .pure (by simp)
  · next buffer =>
      refine Reads.bind (.mapM fun token member => Token.wrap_reads ?_) fun tokens anchored => ?_
      · rw [inside buffer rfl token member]
        exact valid.orderly.made_of_held held
      · exact (call_reads (Library.Call.disposeTokens_consults good buffer)).bind fun _ _ =>
          .pure anchored

/-- Without a range the tokens are those in the range of the root cursor. -/
theorem tokens_reads (extent : Option Range) :
    Reads holdings (tokens unit extent) fun tokens =>
      ∀ token ∈ tokens, Token.Anchored holdings.made token := by
  cases extent with
  | some extent => exact tokensWithin_reads valid unit extent
  | none =>
      refine (cursor_reads valid unit).bind fun root anchored => ?_
      cases root with
      | none => exact .throwThen _
      | some cursor =>
          exact (Cursor.range_reads valid (anchored cursor rfl)).bind fun extent _ =>
            tokensWithin_reads valid unit extent

omit unit in
theorem tokensOfCursor_reads {cursor : Cursor} (anchored : cursor.Anchored holdings.made) :
    Reads holdings (tokensOfCursor cursor) fun tokens =>
      ∀ token ∈ tokens, Token.Anchored holdings.made token :=
  (Cursor.range_reads valid anchored).bind fun _ _ => tokens_reads valid cursor.unit _

theorem visitChildren_reads (visitor : Visitor) :
    Reads holdings (visitChildren unit visitor) fun answer =>
      ∀ child ∈ answer.1, Cursor.AllAnchored holdings.made child := by
  refine (handle_reads unit).bind fun handle held => ?_
  refine (call_reads (Library.Call.rootCursor_consults (valid.good_of_held held))).bind ?_
  intro root inside
  have made := valid.orderly.made_of_held held
  refine (Cursor.visitFrom_reads valid made inside visitor).bind fun visiting within => ?_
  exact (Cursor.ofVisits_reads made within).bind fun _ all => .pure all

/-- An inclusion belongs to its unit: its file does, and so do the locations that led to it. -/
def Inclusion.Anchored (made : List Handle) (inclusion : Inclusion) : Prop :=
  File.Anchored made inclusion.1 ∧ ∀ location ∈ inclusion.2, Location.Anchored made location

theorem visitInclusions_reads (visitor : InclusionVisitor) :
    Reads holdings (visitInclusions unit visitor) fun answer =>
      ∀ inclusion ∈ answer.1, Inclusion.Anchored holdings.made inclusion := by
  refine (handle_reads unit).bind fun handle held => ?_
  have made := valid.orderly.made_of_held held
  have visited : Library.Call.Consults holdings.books
      (Library.Call.visitInclusions handle (InclusionVisiting.step visitor) ⟨[], none⟩)
      fun visiting : InclusionVisiting => ∀ visit ∈ visiting.visits, visit.1.origin = handle ∧
        ∀ location ∈ visit.2, NativeLocation.InSpace handle location := by
    refine Library.Call.visitInclusions_consults _ (valid.good_of_held held) ?_ (by simp)
    intro file stack visiting fileInside stackInside all
    unfold InclusionVisiting.step
    split
    · exact all
    · intro visit member
      rcases List.mem_append.mp member with old | new
      · exact all visit old
      · rw [List.mem_singleton.mp new]
        exact ⟨fileInside, stackInside⟩
  refine (call_reads visited).bind fun visiting inside => ?_
  refine Reads.bind (.mapM fun visit member => ?_) fun inclusions anchored => .pure anchored
  obtain ⟨fileInside, stackInside⟩ := inside visit member
  refine (File.wrap_reads (fileInside.symm ▸ made)).bind fun file fileAnchored => ?_
  refine Reads.bind (.mapM fun location listed =>
    Location.wrap_reads (stackInside location listed) made) fun stack stackAnchored => ?_
  exact .pure ⟨fileAnchored, stackAnchored⟩

theorem written_reads : Reads holdings (written unit) fun _ => True := by
  refine (holder_reads unit).bind fun record _ => ?_
  refine .ite (fun _ => .pure True.intro) fun _ => ?_
  exact (spelling_reads valid unit).bind fun _ _ => .pure True.intro

end Reading

section Reparsing

variable {unit : Nat} {handle : Handle}

/-- It does not matter whether an owned handle is spoiled and misused before its holder is
released. -/
theorem release_stray_spoil (owned : handle.isOwned = true) :
    ((holdings.spoil handle).stray handle).release unit handle =
      ((holdings.release unit handle).spoil handle).stray handle := by
  have commuted := Library.Ledger.retire_spoil_comm holdings.ledger handle
  simp only [Holdings.release, Holdings.spoil, Holdings.stray, owned, if_true,
    Library.Books.retire, Library.Books.spoil, Library.Books.stray]
  rw [commuted]

theorem not_good_of_spoiled (owned : handle.isOwned = true) :
    (holdings.spoil handle).ledger.isGood handle = false := by
  unfold Library.Ledger.isGood
  rw [handle.root_eq_self owned]
  have fallen := Library.Ledger.stands_spoil holdings.ledger handle handle
  simp only [decide_true, Bool.not_true, Bool.false_and] at fallen
  rw [show (holdings.spoil handle).ledger.stands handle = _ from fallen, Bool.false_and]

/-- After a failure the spoiled unit is asked for its name, and closed. -/
theorem abandon_ensures
    {record : Holder Handle Wrapper}
    {α : Type}
    (failure : String → Failure)
    (present : holdings.estate.get? unit = some record)
    (opened : record.handle = some handle)
    (recorded : record.owned = handle.isOwned)
    (owned : handle.isOwned = true)
    (leaf : ∀ child ∈ record.dependants, holdings.estate.isOpen child = false) :
    Ensures (holdings.spoil handle) (do
        let spelling ← spelling unit
        Facade.close unit
        throw (failure spelling) : Facade α) fun _ later =>
      later = ((holdings.release unit handle).spoil handle).stray handle := by
  have held : (holdings.spoil handle).estate.handle? unit = some handle :=
    (Estate.handle?_of_get? present).trans opened
  have spelled : Ensures (holdings.spoil handle) (spelling unit) fun result later =>
      (∃ spelling, result = .ok spelling) ∧ later = (holdings.spoil handle).stray handle := by
    refine (handle_ensures held).bind ?_ (by simp)
    rintro _ _ ⟨⟨⟩, rfl⟩
    have misused : Library.Call.Ensures (holdings.spoil handle).books
        (do Library.Call.settle (← Library.Call.unitSpelling handle)) fun _ later =>
          later = (holdings.spoil handle).books.stray handle := by
      refine (Library.Call.unitSpelling_strays (not_good_of_spoiled owned)).bind ?_
      rintro lent _ rfl
      exact Library.Call.Ensures.mono (Library.Call.settle_consults lent) fun _ _ kept => kept.1
    refine (call_ensures misused).mono ?_
    rintro _ _ ⟨spelling, _, rfl, rfl, rfl⟩
    exact ⟨⟨spelling, rfl⟩, rfl⟩
  refine spelled.bind ?_ (by simp)
  rintro spelling _ ⟨_, rfl⟩
  have closed : Ensures ((holdings.spoil handle).stray handle) (Facade.close unit)
      fun result later => result = .ok () ∧
        later = ((holdings.release unit handle).spoil handle).stray handle := by
    rw [← release_stray_spoil owned]
    exact closeLeaf_ensures present opened recorded leaf
  refine closed.bind ?_ (by simp)
  rintro _ _ ⟨_, rfl⟩
  exact Ensures.throw rfl

/-- Parsing a unit again closes what depends on it; a failure spoils the unit and closes it. -/
theorem reparse_ensures (valid : holdings.Valid)
    (isUnit : Holdings.IsMade holdings.made .unit unit)
    (unsaved : UnsavedFiles) (options : Option Datum) :
    Ensures holdings (reparse unit unsaved options) fun _ later =>
      holdings.Reparsed unit later := by
  have unchanged : holdings.Reparsed unit holdings := .kept .refl id
  refine (optionsOr_reads (defaultReparseOptions_reads valid unit) options).andThen
    (fun options _ => ?_) fun _ => unchanged
  refine (handle_reads unit).andThen (fun handle held => ?_) fun _ => unchanged
  obtain ⟨record, present, opened⟩ := Estate.handle?_eq_some_iff.mp held
  refine (closeDependants_ensures valid present).bind ?_ (by simp)
  rintro _ middle ⟨_, course, stillPresent, leaf⟩
  have middleValid := course.valid valid
  have stillHeld : middle.estate.handle? unit = some handle :=
    (Estate.handle?_of_get? stillPresent).trans opened
  have kept : holdings.Reparsed unit middle :=
    .kept course fun _ => Estate.isOpen_iff.mpr ⟨handle, stillHeld⟩
  refine (overlay_reads unit).andThen (fun overlay _ => ?_) fun _ => kept
  refine (checkedFiles_reads unsaved).andThen (fun files _ => ?_) fun _ => kept
  refine (Reads.ofExcept _).andThen (fun options _ => ?_) fun _ => kept
  refine callThen (Library.Call.reparse_ensures (middleValid.good_of_held stillHeld) _ options) ?_
  rintro status _ ⟨sameStatus, rfl⟩
  split
  · next failed =>
      have owned : handle.isOwned = true := by
        obtain ⟨number, rfl⟩ := Handle.exists_eq_owned_unit (valid.sort_of_held isUnit held)
        rfl
      have recorded : record.owned = handle.isOwned := middleValid.founded.owned_eq
        (Estate.owned?_of_get? stillPresent) (middleValid.orderly.made_of_held stillHeld)
      refine (abandon_ensures _ stillPresent opened recorded owned leaf).mono ?_
      rintro _ _ rfl
      refine .abandoned held course stillHeld (fun child adopted => leaf child ?_)
        (sameStatus ▸ failed)
      rwa [Estate.Adopts, Estate.dependants_of_get? stillPresent] at adopted
  · exact Ensures.pure kept

end Reparsing

end CompilationUnit
end Custody
