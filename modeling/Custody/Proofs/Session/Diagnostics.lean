import Custody.Proofs.Session.Anchors
import Custody.Session.Diagnostic

/-!
# The conduct of diagnostics

Diagnostics and sets are holders of handles of their sort.  Reading one leaves the
holdings alone.  Picking an item of a set or of a unit, and reading the notes of a
diagnostic, place new holders below the one that was asked.
-/

namespace Custody

open Facade

variable {holdings : Holdings}

/-- What is sorted as a set is one. -/
theorem Wrapper.eq_set_of_sort {wrapper : Wrapper} (sorted : wrapper.sort = .set) :
    ∃ owner, wrapper = .set owner := by
  cases wrapper <;> cases sorted
  exact ⟨_, rfl⟩

/-- What is sorted as a unit is one. -/
theorem Wrapper.eq_unit_of_sort {wrapper : Wrapper} (sorted : wrapper.sort = .unit) :
    ∃ index overlay, wrapper = .unit index overlay := by
  cases wrapper <;> cases sorted
  exact ⟨_, _, rfl⟩

/-- What is sorted as a diagnostic is one. -/
theorem Wrapper.eq_diagnostic_of_sort {wrapper : Wrapper} (sorted : wrapper.sort = .diagnostic) :
    ∃ owner, wrapper = .diagnostic owner := by
  cases wrapper <;> cases sorted
  exact ⟨_, rfl⟩

/-- A holder was made for a handle of a given sort. -/
def Holdings.IsMade (made : List Handle) (sort : HandleKind) (number : Nat) : Prop :=
  ∃ handle, made[number]? = some handle ∧ handle.sort = sort

/-- What a holder was made for stays. -/
theorem Holdings.IsMade.mono {made later : List Handle} {sort : HandleKind} {number : Nat}
    (isMade : IsMade made sort number) (grown : made <+: later) : IsMade later sort number := by
  obtain ⟨handle, present, sorted⟩ := isMade
  exact ⟨handle, getElem?_of_prefix grown present, sorted⟩

/-- A holder is made for a handle of its sort. -/
theorem Holdings.Valid.isMade_of_get? (valid : holdings.Valid) {number : Nat}
    {record : Holder Handle Wrapper} (present : holdings.estate.get? number = some record) :
    IsMade holdings.made record.content.sort number := by
  obtain ⟨handle, made⟩ := valid.orderly.exists_made (Estate.lt_size_of_get? present)
  exact ⟨handle, made, valid.founded.sort_eq (Estate.content?_of_get? present) made⟩

/-- The handle of an open holder has the sort that it was made for. -/
theorem Holdings.Valid.sort_of_held (valid : holdings.Valid) {number : Nat} {handle : Handle}
    {sort : HandleKind} (isMade : IsMade holdings.made sort number)
    (held : holdings.estate.handle? number = some handle) : handle.sort = sort := by
  obtain ⟨other, made, sorted⟩ := isMade
  have same : some other = some handle := made.symm.trans (valid.orderly.made_of_held held)
  rw [← sorted, Option.some.inj same]

/-- Placing a holder of a borrowed handle below an open holder is a move, and something may follow
on the new holder. -/
theorem Facade.borrowThen
    (valid : holdings.Valid)
    {β : Type}
    {parent owner : Nat}
    {upper handle : Handle}
    {wrapper : Wrapper}
    {next : Nat → Facade β}
    {fits : List Handle → β → Prop}
    (held : holdings.estate.handle? parent = some upper)
    (spaced : holdings.made[owner]? = some (holdings.ledger.space upper))
    (loan : Wrapper.Loan owner upper handle wrapper)
    (rest : ∀ number later, later.Valid → Holdings.IsMade later.made handle.sort number →
      Runs later (next number) fits) :
    Runs holdings (do
        let number ← wrap (some handle) false wrapper
        adopt parent number
        next number) fits := by
  have borrowed : false = handle.isOwned := by cases loan <;> rfl
  have course : holdings.Course (holdings.place (some parent) handle wrapper) :=
    .single (.borrow held spaced loan)
  refine (wrap_ensures handle false wrapper).bind ?_ (by simp)
  rintro _ _ ⟨⟨⟩, rfl⟩
  refine (adopt_ensures parent _).bind ?_ (by simp)
  rintro _ _ ⟨_, rfl⟩
  rw [borrowed]
  refine (rest _ _ (course.valid valid) ⟨handle, ?_, rfl⟩).after course
  change (holdings.made ++ [handle])[holdings.estate.size]? = some handle
  rw [← valid.orderly.made_length]
  exact List.getElem?_concat_length

namespace DiagnosticSet

section Reading

variable (valid : holdings.Valid) (set : Nat)
include valid

/-- A set is counted on the strength of its handle. -/
theorem count_reads : Reads holdings (count set) fun _ => True := by
  refine (holder_reads set).bind fun record present => ?_
  split
  · exact .pure True.intro
  · next handle kept =>
      have held := (Estate.handle?_of_get? present).trans kept
      exact call_reads (Library.Call.setCount_consults (valid.good_of_held held))

/-- The owner of a set stands above the handle of the set. -/
theorem owner_reads {handle : Handle} (made : holdings.made[set]? = some handle)
    (sorted : handle.sort = .set) :
    Reads holdings (owner set) fun owner =>
      holdings.made[owner]? = some (holdings.ledger.space handle) := by
  refine (holder_reads set).bind fun record present => ?_
  have content := Estate.content?_of_get? present
  have sameSort := valid.founded.sort_eq content made
  rw [sorted] at sameSort
  obtain ⟨kept, same⟩ := Wrapper.eq_set_of_sort sameSort.symm
  rw [same] at content ⊢
  cases kept <;> exact .pure (valid.founded.spaced content made rfl)

end Reading

/-- Picking an item of a set places a borrowed diagnostic below the set. -/
theorem item_runs (valid : holdings.Valid) {set : Nat}
    (isSet : Holdings.IsMade holdings.made .set set) (index : Int) :
    Runs holdings (item set index) fun _ _ => True := by
  refine (count_reads valid set).thenRuns fun count _ => ?_
  split
  · exact .throw _
  · next position _ =>
      refine (handle_reads set).thenRuns fun handle held => ?_
      have sorted := valid.sort_of_held isSet held
      have good := valid.good_of_held held
      refine (call_reads (Library.Call.setItem_consults good position)).thenRuns ?_
      rintro _ rfl
      refine (owner_reads valid set (valid.orderly.made_of_held held) sorted).thenRuns ?_
      intro owner spaced
      exact borrowThen valid held spaced (.note sorted position) fun _ _ _ _ => .pure True.intro

/-- Every diagnostic that a slice selects is placed below the set. -/
theorem slice_runs (valid : holdings.Valid) {set : Nat}
    (isSet : Holdings.IsMade holdings.made .set set) (slice : Slice) :
    Runs holdings (DiagnosticSet.slice set slice) fun _ _ => True := by
  refine (count_reads valid set).thenRuns fun count _ => ?_
  refine (Reads.ofExcept _).thenRuns fun positions _ => ?_
  refine .mapM_trivial valid fun position _ later laterValid grown => ?_
  exact item_runs laterValid (isSet.mono grown) position

/-- All diagnostics of a set are placed below it. -/
theorem toList_runs (valid : holdings.Valid) {set : Nat}
    (isSet : Holdings.IsMade holdings.made .set set) :
    Runs holdings (toList set) fun _ _ => True := by
  refine (count_reads valid set).thenRuns fun count _ => ?_
  refine .mapM_trivial valid fun position _ later laterValid grown => ?_
  exact item_runs laterValid (isSet.mono grown) position

/-- Loading a set founds a holder, or gives back at once what came with a bad status. -/
theorem load_runs (path : Datum) :
    Runs holdings (load path) fun _ _ => True := by
  refine (Reads.ofExcept _).thenRuns fun encoded _ => ?_
  refine callThen (Library.Call.loadDiagnostics_ensures encoded) ?_
  rintro ⟨handle, status, lent⟩ books granted
  refine consultThen (Library.Call.settle_consults lent) fun message _ => ?_
  -- Whatever was granted is gone again when the failure is reported.
  have refused (later : Holdings) (course : holdings.Course later) :
      Ensures later (do
          let member ← Facade.ofExcept (Codes.loadStatuses.ofCode status)
          let path ← Facade.ofExcept path.decodeName
          let wording : Text :=
            if message ≠ "" then message else "could not load diagnostics from " ++ path
          throw (.reported
            ⟨.storedDiagnostics, loadFailureKind member.code, wording, some member.code⟩))
        fun (result : Except Failure Nat) last =>
          holdings.Course last ∧ ∀ value, result = .ok value → True := by
    refine (Reads.ofExcept _).andThen (fun _ _ => ?_) fun _ => ⟨course, by simp⟩
    refine (Reads.ofExcept _).andThen (fun _ _ => ?_) fun _ => ⟨course, by simp⟩
    exact Ensures.throw ⟨course, by simp⟩
  rcases granted with ⟨rfl, rfl⟩ | ⟨rfl, rfl⟩
  · exact refused holdings .refl
  · dsimp only
    split
    · exact (found_ensures .set).mono fun _ _ founded => ⟨founded.2, fun _ _ => True.intro⟩
    · refine (pass_ensures .set).bind ?_ (by simp)
      rintro _ later ⟨_, course⟩
      exact refused later course

end DiagnosticSet

namespace DiagnosticView

/-- Counting the diagnostics of a unit. -/
theorem count_reads (valid : holdings.Valid) (unit : Nat) :
    Reads holdings (count unit) fun _ => True :=
  (handle_reads unit).bind fun _ held =>
    call_reads (Library.Call.diagnosticCount_consults (valid.good_of_held held))

/-- Picking a diagnostic of a unit places it below the unit. -/
theorem item_runs (valid : holdings.Valid) {unit : Nat}
    (isUnit : Holdings.IsMade holdings.made .unit unit) (index : Int) :
    Runs holdings (item unit index) fun _ _ => True := by
  refine (count_reads valid unit).thenRuns fun count _ => ?_
  split
  · exact .throw _
  · next position _ =>
      refine (handle_reads unit).thenRuns fun handle held => ?_
      have good := valid.good_of_held held
      refine callGrants (Library.Call.diagnosticAt_ensures good position) ?_ ?_
      · exact Ensures.throwThen ⟨.refl, by simp⟩
      refine (derive_ensures held (.diagnostic (valid.sort_of_held isUnit held))).mono ?_
      exact fun _ _ derived => ⟨derived.2, fun _ _ => True.intro⟩

/-- Every diagnostic that a slice selects is placed below the unit. -/
theorem slice_runs (valid : holdings.Valid) {unit : Nat}
    (isUnit : Holdings.IsMade holdings.made .unit unit) (slice : Slice) :
    Runs holdings (DiagnosticView.slice unit slice) fun _ _ => True := by
  refine (count_reads valid unit).thenRuns fun count _ =>
    (Reads.ofExcept _).thenRuns fun positions _ => ?_
  refine .mapM_trivial valid fun position _ later laterValid grown => ?_
  exact item_runs laterValid (isUnit.mono grown) position

/-- All diagnostics of a unit are placed below it. -/
theorem toList_runs (valid : holdings.Valid) {unit : Nat}
    (isUnit : Holdings.IsMade holdings.made .unit unit) :
    Runs holdings (toList unit) fun _ _ => True := by
  refine (count_reads valid unit).thenRuns fun count _ => ?_
  refine .mapM_trivial valid fun position _ later laterValid grown => ?_
  exact item_runs laterValid (isUnit.mono grown) position

end DiagnosticView

namespace Diagnostic

section Reading

variable (valid : holdings.Valid) (diagnostic : Nat)
include valid

/-- The owner of a diagnostic stands above its handle. -/
theorem owner_reads {handle : Handle} (made : holdings.made[diagnostic]? = some handle)
    (sorted : handle.sort = .diagnostic) :
    Reads holdings (owner diagnostic) fun owner =>
      holdings.made[owner]? = some (holdings.ledger.space handle) := by
  refine (holder_reads diagnostic).bind fun record present => ?_
  have content := Estate.content?_of_get? present
  have sameSort := valid.founded.sort_eq content made
  rw [sorted] at sameSort
  obtain ⟨kept, same⟩ := Wrapper.eq_diagnostic_of_sort sameSort.symm
  rw [same] at content ⊢
  exact .pure (valid.founded.spaced content made rfl)

/-- The model of a diagnostic is read on the strength of its handle. -/
theorem model_reads : Reads holdings (model diagnostic) fun _ => True :=
  (handle_reads diagnostic).bind fun _ held =>
    call_reads (Library.Call.diagnosticModel_consults (valid.good_of_held held))

/-- A text of a diagnostic is lent on the strength of its handle. -/
theorem textOf_reads (part : Library.DiagnosticModel → Option Bytes) :
    Reads holdings (textOf diagnostic part) fun _ => True :=
  (handle_reads diagnostic).bind fun _ held => borrowed_reads
    ((Library.Call.diagnosticModel_consults (valid.good_of_held held)).bind fun _ _ =>
      Library.Call.lend_consults _)

theorem severity_reads : Reads holdings (severity diagnostic) fun _ => True :=
  (model_reads valid diagnostic).bind fun _ _ => (Reads.ofExcept _).trivial

theorem spelling_reads : Reads holdings (spelling diagnostic) fun _ => True :=
  textOf_reads valid diagnostic _

theorem categoryNumber_reads : Reads holdings (categoryNumber diagnostic) fun _ => True :=
  (model_reads valid diagnostic).bind fun _ _ => .pure True.intro

theorem categoryName_reads : Reads holdings (categoryName diagnostic) fun _ => True :=
  textOf_reads valid diagnostic _

theorem option_reads : Reads holdings (option diagnostic) fun _ => True :=
  (handle_reads diagnostic).bind fun _ held =>
    (call_reads (Library.Call.diagnosticOption_consults (valid.good_of_held held) false)).bind
      fun _ _ => call_reads (Library.Call.settle_consults _)

/-- Both options are lent on the strength of one handle. -/
theorem disableOption_reads : Reads holdings (disableOption diagnostic) fun _ => True := by
  refine (handle_reads diagnostic).bind fun handle held => ?_
  refine (call_reads
    (Library.Call.diagnosticOption_consults (valid.good_of_held held) true)).bind ?_
  rintro ⟨enabling, disabling⟩ _
  refine (call_reads (Library.Call.settle_consults enabling)).bind fun _ _ => ?_
  cases disabling with
  | none => exact .pure True.intro
  | some disabling => exact call_reads (Library.Call.settle_consults disabling)

/-- Options that are no number are refused before the handle is used. -/
theorem format_reads (options : Option Datum) :
    Reads holdings (format diagnostic options) fun _ => True := by
  refine Reads.get.bind fun session _ => ?_
  have chosen : Reads holdings (options.elim (pure session.library.script.displayOptions)
      fun options => Facade.ofExcept options.toInteger) fun _ => True := by
    cases options with
    | none => exact .pure True.intro
    | some options => exact (Reads.ofExcept _).trivial
  refine chosen.bind fun options _ => ?_
  dsimp only
  split
  · exact .throwThen _
  · exact (handle_reads diagnostic).bind fun _ held => borrowed_reads
      (Library.Call.formatDiagnostic_consults (valid.good_of_held held) options)

theorem written_reads : Reads holdings (written diagnostic) fun _ => True :=
  (severity_reads valid diagnostic).bind fun _ _ =>
    (spelling_reads valid diagnostic).bind fun _ _ => .pure True.intro

end Reading

section Placing

variable (valid : holdings.Valid) {diagnostic : Nat}
  (isDiagnostic : Holdings.IsMade holdings.made .diagnostic diagnostic)
include valid isDiagnostic

/-- The location of a diagnostic is anchored where the diagnostic lies. -/
theorem location_reads :
    Reads holdings (location diagnostic) fun location => location.Anchored holdings.made := by
  refine (handle_reads diagnostic).bind fun handle held => ?_
  refine (call_reads
    (Library.Call.diagnosticLocation_consults (valid.good_of_held held))).bind
      fun native inside => ?_
  exact (owner_reads valid diagnostic (valid.orderly.made_of_held held)
    (valid.sort_of_held isDiagnostic held)).bind fun owner made => Location.wrap_reads inside made

/-- The ranges of a diagnostic are anchored where the diagnostic lies. -/
theorem ranges_reads :
    Reads holdings (ranges diagnostic) fun ranges =>
      ∀ range ∈ ranges, Range.Anchored holdings.made range := by
  refine (handle_reads diagnostic).bind fun handle held => ?_
  refine (call_reads
    (Library.Call.diagnosticRanges_consults (valid.good_of_held held))).bind
      fun natives inside => ?_
  refine (owner_reads valid diagnostic (valid.orderly.made_of_held held)
    (valid.sort_of_held isDiagnostic held)).bind fun owner made => ?_
  exact .mapM fun native member => Range.wrap_reads (inside native member) made

/-- The ranges of its fix-its are anchored there too. -/
theorem fixIts_reads :
    Reads holdings (fixIts diagnostic) fun fixIts =>
      ∀ fixIt ∈ fixIts, Range.Anchored holdings.made fixIt.range := by
  refine (handle_reads diagnostic).bind fun handle held => ?_
  have good := valid.good_of_held held
  refine (owner_reads valid diagnostic (valid.orderly.made_of_held held)
    (valid.sort_of_held isDiagnostic held)).bind fun owner made => ?_
  refine (call_reads (Library.Call.replacementCount_consults good)).bind fun count _ => ?_
  refine .mapM fun position _ => ?_
  refine (call_reads (Library.Call.replacementAt_consults good position)).bind ?_
  rintro ⟨lent, native⟩ inside
  refine (call_reads (Library.Call.settle_consults lent)).bind fun _ _ => ?_
  exact (Range.wrap_reads inside made).bind fun range anchored =>
    fresh_reads.bind fun _ _ => .pure anchored

/-- Reading the notes of a diagnostic places a borrowed set below it, and the notes below that. -/
theorem children_runs : Runs holdings (children diagnostic) fun _ _ => True := by
  refine (handle_reads diagnostic).thenRuns fun handle held => ?_
  have sorted := valid.sort_of_held isDiagnostic held
  refine (call_reads
    (Library.Call.childDiagnostics_consults (valid.good_of_held held))).thenRuns
      fun answer notes => ?_
  cases answer with
  | none => exact .pure True.intro
  | some found =>
      cases notes found rfl
      refine (owner_reads valid diagnostic (valid.orderly.made_of_held held) sorted).thenRuns ?_
      intro owner spaced
      exact borrowThen valid held spaced (.notes sorted) fun set later laterValid isSet =>
        DiagnosticSet.toList_runs laterValid isSet

end Placing

end Diagnostic
end Custody
