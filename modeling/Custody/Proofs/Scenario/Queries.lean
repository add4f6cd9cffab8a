import Custody.Proofs.Scenario.Values

/-!
# The conduct of queries

The parts of holders and objects are read one by one.  Only the diagnostics of a
unit or of a set, the notes of a diagnostic and the commands of a database change
the holdings, and they do so by moves.  A path of selectors follows from that.
-/

namespace Custody

open Facade

variable {holdings : Holdings}

/-- What an index finds is in the sequence. -/
theorem Sequence.mem_of_item? {α : Type} {items : List α} {index : Int} {item : α}
    (found : Sequence.item? items index = some item) : item ∈ items := by
  obtain ⟨position, _, present⟩ := Option.bind_eq_some_iff.mp found
  exact List.mem_of_getElem? present

/-- What a slice picks is in the sequence. -/
theorem Slice.mem_of_pick {α : Type} {items picked : List α} {slice : Slice} {item : α}
    (found : slice.pick items = .ok picked) (member : item ∈ picked) : item ∈ items := by
  unfold Slice.pick at found
  cases chosen : slice.positions items.length with
  | error failure =>
      rw [chosen] at found
      cases found
  | ok positions =>
      rw [chosen] at found
      cases found
      obtain ⟨position, _, present⟩ := List.mem_filterMap.mp member
      exact Sequence.mem_of_item? present

namespace Value

/-- A slice of anchored values picks anchored ones. -/
theorem areAnchored_of_pick {made : List Handle} {items picked : List Value} {slice : Slice}
    (anchored : AreAnchored made items) (found : slice.pick items = .ok picked) :
    AreAnchored made picked := by
  rw [areAnchored_iff] at anchored ⊢
  exact fun item member => anchored item (Slice.mem_of_pick found member)

section Parts

theorem holderPart?_yields {number : Nat} {name : String} {action : Facade Value}
    (present : holderPart? number name = some action) : Yields holdings action := by
  unfold holderPart? at present
  split at present
  · cases present
    exact (holder_reads number).thenRuns fun _ _ => .pure True.intro
  · cases present
    exact (holder_reads number).thenRuns fun _ _ => .pure True.intro
  · cases present
    exact (handle_reads number).thenRuns fun _ _ => .pure True.intro
  · cases present

variable (valid : holdings.Valid)
include valid

/-- The root cursor of a unit is anchored in it. -/
theorem unitPart_yields {unit : Nat} (isUnit : Holdings.IsMade holdings.made .unit unit)
    (name : String) : Yields holdings (unitPart unit name) := by
  unfold unitPart
  split
  · exact (CompilationUnit.index_reads unit).thenRuns fun _ _ => .pure True.intro
  · exact (CompilationUnit.defaultReparseOptions_reads valid unit).thenRuns fun _ _ =>
      .pure True.intro
  · exact (CompilationUnit.defaultSaveOptions_reads valid unit).thenRuns fun _ _ => .pure True.intro
  · exact (CompilationUnit.spelling_reads valid unit).thenRuns fun _ _ => newString_yields _
  · exact (CompilationUnit.cursor_reads valid unit).thenRuns fun _ anchored =>
      .pure (anchored_option anchored)
  · exact fresh_reads.thenRuns fun _ _ => .pure isUnit
  · exact .throw _

/-- The locations and ranges of a diagnostic are anchored where it was made. -/
theorem diagnosticPart_yields {diagnostic : Nat}
    (isDiagnostic : Holdings.IsMade holdings.made .diagnostic diagnostic) (name : String) :
    Yields holdings (diagnosticPart diagnostic name) := by
  unfold diagnosticPart
  split
  · exact (Diagnostic.severity_reads valid diagnostic).thenRuns fun _ _ => .pure True.intro
  · exact (Diagnostic.spelling_reads valid diagnostic).thenRuns fun _ _ => newString_yields _
  · exact (Diagnostic.location_reads valid isDiagnostic).thenRuns fun _ anchored => .pure anchored
  · exact (Diagnostic.ranges_reads valid isDiagnostic).thenRuns fun _ anchored =>
      listOf_yields (areAnchored_map anchored)
  · exact (Diagnostic.fixIts_reads valid isDiagnostic).thenRuns fun _ anchored =>
      listOf_yields (areAnchored_map fun fixIt listed => anchored_ofFixIt (anchored fixIt listed))
  · exact (Diagnostic.categoryNumber_reads valid diagnostic).thenRuns fun _ _ => .pure True.intro
  · exact (Diagnostic.categoryName_reads valid diagnostic).thenRuns fun _ _ => newString_yields _
  · exact (Diagnostic.option_reads valid diagnostic).thenRuns fun _ _ => newString_yields _
  · exact (Diagnostic.disableOption_reads valid diagnostic).thenRuns fun _ _ => newString_yields _
  · exact (Diagnostic.children_runs valid isDiagnostic).bind valid fun children _ _ _ _ =>
      holders_yields children
  · exact .throw _

/-- Commands name no holder. -/
theorem allCommands_yields (database : Nat) : Yields holdings (allCommands database) := by
  refine (CompilationDatabase.commands_runs valid database).bind valid ?_
  rintro ⟨serial, commands⟩ _ _ _ _
  exact .pure (areAnchored_map fun _ _ => True.intro)

/-- A holder has the parts of what it is for, and those that all holders have. -/
theorem wrapperPart_yields (number : Nat) (name : String) :
    Yields holdings (wrapperPart number name) := by
  unfold wrapperPart
  split
  · next action present => exact holderPart?_yields present
  · refine (holder_reads number).thenRuns fun record present => ?_
    have isMade := valid.isMade_of_get? present
    split
    · refine .ite (fun _ => ?_) fun _ => .throw _
      exact (Index.globalOptions_reads valid number).thenRuns fun _ _ =>
        fresh_reads.thenRuns fun _ _ => .pure True.intro
    · next same =>
        rw [same] at isMade
        exact unitPart_yields valid isMade name
    · next same =>
        rw [same] at isMade
        exact diagnosticPart_yields valid isMade name
    · refine .ite (fun _ => ?_) fun _ => .ite (fun _ => ?_) fun _ => .throw _
      · exact (CompilationDatabase.directory_reads number).thenRuns fun _ _ => newText_yields _
      · exact allCommands_yields valid number
    · exact .throw _
    · exact .throw _

/-- The file of a location is anchored with it. -/
theorem locationPart_yields {location : Location} (anchored : location.Anchored holdings.made)
    (name : String) : Yields holdings (locationPart location name) := by
  have expanded := Location.expansion_reads valid anchored
  unfold locationPart
  split
  · exact expanded.thenRuns fun _ files => .pure (anchored_option files)
  · exact expanded.thenRuns fun _ _ => .pure True.intro
  · exact expanded.thenRuns fun _ _ => .pure True.intro
  · exact expanded.thenRuns fun _ _ => .pure True.intro
  · exact (unit?_reads location.owner).thenRuns fun _ _ =>
      .pure (anchored_option fun _ _ => True.intro)
  · exact (Location.isFromMainFile_reads valid anchored).thenRuns fun _ _ => .pure True.intro
  · exact (Location.isInSystemHeader_reads valid anchored).thenRuns fun _ _ => .pure True.intro
  · exact .pure True.intro
  · exact .throw _

omit valid in
/-- Both ends of a range are anchored with it. -/
theorem rangePart_yields {range : Range} (anchored : range.Anchored holdings.made)
    (name : String) : Yields holdings (rangePart range name) := by
  unfold rangePart
  split
  · exact (Range.start_reads anchored).thenRuns fun _ start => .pure start
  · exact (Range.finish_reads anchored).thenRuns fun _ finish => .pure finish
  · exact (unit?_reads range.owner).thenRuns fun _ _ =>
      .pure (anchored_option fun _ _ => True.intro)
  · exact .pure True.intro
  · exact .throw _

/-- Cursors, ranges and locations that are read from a cursor are anchored with it. -/
theorem cursorPart_yields {cursor : Cursor} (anchored : cursor.Anchored holdings.made)
    (name : String) : Yields holdings (cursorPart cursor name) := by
  unfold cursorPart
  split
  · exact (Reads.ofExcept _).thenRuns fun _ _ => .pure True.intro
  · exact (Cursor.spelling_reads valid anchored).thenRuns fun _ _ => newString_yields _
  · exact (Cursor.displayName_reads valid anchored).thenRuns fun _ _ => newString_yields _
  · refine (Cursor.usr_reads valid anchored).thenRuns fun found _ => ?_
    split
    · exact .pure True.intro
    · exact newString_yields _
  · exact (Cursor.range_reads valid anchored).thenRuns fun _ range => .pure range
  · exact (Cursor.location_reads valid anchored).thenRuns fun _ location => .pure location
  · exact .pure True.intro
  · exact (Cursor.parent_reads valid anchored).thenRuns fun _ all => .pure (anchored_option all)
  · exact (Cursor.related_reads valid anchored _).thenRuns fun _ all => .pure (anchored_option all)
  · exact (Cursor.related_reads valid anchored _).thenRuns fun _ all => .pure (anchored_option all)
  · exact (Cursor.related_reads valid anchored _).thenRuns fun _ all => .pure (anchored_option all)
  · exact (Cursor.related_reads valid anchored _).thenRuns fun _ all => .pure (anchored_option all)
  · exact (Cursor.isDefinition_reads valid anchored).thenRuns fun _ _ => .pure True.intro
  · exact (Cursor.children_reads valid anchored).thenRuns fun _ all =>
      listOf_yields (areAnchored_map fun child listed => anchored_option (all child listed))
  · exact .throw _

/-- The range and the location of a token are anchored with it. -/
theorem tokenPart_yields {token : Token} (anchored : token.Anchored holdings.made)
    (name : String) : Yields holdings (tokenPart token name) := by
  unfold tokenPart
  split
  · exact (Reads.ofExcept _).thenRuns fun _ _ => .pure True.intro
  · exact (Token.spelling_reads valid token).thenRuns fun _ _ => newString_yields _
  · exact (Token.location_reads valid anchored).thenRuns fun _ location => .pure location
  · exact (Token.range_reads valid anchored).thenRuns fun _ range => .pure range
  · exact .pure True.intro
  · exact .throw _

omit valid

/-- An unsaved file leads to no holder. -/
theorem unsavedPart_yields (number : Nat) (name : String) :
    Yields holdings (unsavedPart number name) := by
  refine (asUnsaved_reads _).thenRuns fun file _ => ?_
  split
  · exact newText_yields _
  · exact newString_yields _
  · exact .pure True.intro
  · exact .throw _

/-- A slot leads to bytes and a number. -/
theorem slotPart_yields (number : Nat) (name : String) :
    Yields holdings (slotPart number name) := by
  refine (asUnsaved_reads _).thenRuns fun file _ => ?_
  dsimp only
  split
  · exact fresh_reads.thenRuns fun _ _ => .pure (anchored_option fun _ _ => True.intro)
  · exact fresh_reads.thenRuns fun _ _ => .pure (anchored_option fun _ _ => True.intro)
  · exact .pure True.intro
  · exact .throw _

/-- What is found under a name is anchored if all fields are. -/
theorem anchored_of_lookup {made : List Handle} {fields : List (String × Value)} {name : String}
    {value : Value} (anchored : AreAnchoredFields made fields)
    (found : fields.lookup name = some value) : value.Anchored made := by
  induction fields with
  | nil => cases found
  | cons field rest inductionHypothesis =>
      obtain ⟨other, held⟩ := field
      rw [List.lookup_cons] at found
      split at found
      · cases found
        exact anchored.1
      · exact inductionHypothesis anchored.2 found

/-- A part of a record is anchored because the record is. -/
theorem recordPart_yields {fields : List (String × Value)}
    (anchored : AreAnchoredFields holdings.made fields) (recordName name : String) :
    Yields holdings (recordPart recordName fields name) := by
  unfold recordPart
  split
  · next value found => exact .pure (anchored_of_lookup anchored found)
  · refine .ite (fun _ => ?_) fun _ => .throw _
    split
    · next entity present =>
        refine .pure ?_
        have inner : AreAnchoredFields holdings.made entity := anchored_of_lookup anchored present
        cases found : entity.lookup "kind" with
        | none => exact True.intro
        | some kind => exact anchored_of_lookup inner found
    · exact .pure True.intro

/-- A part that an anchored value has of its own is anchored. -/
theorem ownPart_yields (valid : holdings.Valid) {value : Value}
    (anchored : value.Anchored holdings.made) (name : String) :
    Yields holdings (value.ownPart name) := by
  unfold ownPart
  split
  · exact wrapperPart_yields valid _ name
  · split
    · exact (File.name_reads valid anchored).thenRuns fun _ _ => newString_yields _
    · exact (File.time_reads valid anchored).thenRuns fun _ _ => .pure True.intro
    · exact .throw _
  · exact locationPart_yields valid anchored name
  · exact rangePart_yields anchored name
  · exact cursorPart_yields valid anchored name
  · exact tokenPart_yields valid anchored name
  · exact unsavedPart_yields _ name
  · exact slotPart_yields _ name
  · split
    · exact newString_yields _
    · exact .pure True.intro
    · exact .throw _
  · split
    · exact newString_yields _
    · exact .pure True.intro
    · exact .throw _
  · split
    · exact fresh_reads.thenRuns fun _ _ => .pure (anchored_option fun _ _ => True.intro)
    · exact .pure True.intro
    · exact .throw _
  · split
    · exact .pure (anchored_ofDatum _ _)
    · exact .pure (anchored_ofDatum _ _)
    · exact .pure (areAnchored_map fun _ _ => anchored_ofDatum _ _)
    · exact .throw _
  · exact recordPart_yields anchored _ name
  · exact .throw _

/-- A mark is data, and what it does not cover is read from the value. -/
theorem part_yields (valid : holdings.Valid) {value : Value}
    (anchored : value.Anchored holdings.made) (name : String) :
    Yields holdings (value.part name) := by
  unfold part
  split
  · exact ownPart_yields valid anchored name
  · refine (mark?_reads _ name).thenRuns fun mark _ => ?_
    split
    · exact .pure (anchored_ofDatum _ _)
    · exact ownPart_yields valid anchored name

/-- Whether a part can be covered is found out without changing anything. -/
theorem isMarkable_reads (name : String) (value : Value) :
    Reads holdings (value.isMarkable name) fun _ => True := by
  refine Reads.get.bind fun session _ => ?_
  split
  · exact .pure True.intro
  · split
    · refine (holder_reads _).bind fun record _ => ?_
      split <;> exact .pure True.intro
    · exact .pure True.intro

end Parts

section Sequences

/-- An index finds an item or fails. -/
theorem itemOr_reads {α : Type} (failure : Failure) (items : List α) (index : Int) :
    Reads holdings (itemOr failure items index) fun item => item ∈ items := by
  refine .ite (fun _ => .throw _) fun _ => ?_
  split
  · next item found => exact .pure (Sequence.mem_of_item? found)
  · exact .throw _

theorem entryAt_yields (serial : Nat) (entries : List (Datum × Datum)) (key : Datum) :
    Yields holdings (entryAt serial entries key) := by
  unfold entryAt
  split
  · exact .throw _
  · exact .throw _
  · split
    · exact .pure (anchored_ofDatum _ _)
    · exact .throw _

variable (valid : holdings.Valid) {value : Value}
include valid

/-- An item of an anchored value is anchored. -/
theorem item_yields (anchored : value.Anchored holdings.made) (index : Int) :
    Yields holdings (value.item index) := by
  unfold item
  split
  · exact (itemOr_reads _ _ index).runs fun _ member => areAnchored_iff.mp anchored _ member
  · exact (itemOr_reads _ _ index).runs fun _ member => areAnchored_iff.mp anchored _ member
  · exact (itemOr_reads _ _ index).thenRuns fun _ _ => newText_yields _
  · exact (itemOr_reads _ _ index).thenRuns fun _ _ => .pure True.intro
  · exact (itemOr_reads _ _ index).thenRuns fun _ _ => .pure (anchored_ofDatum _ _)
  · exact entryAt_yields _ _ _
  · exact (DiagnosticView.item_runs valid anchored index).bind valid
      fun _ _ _ _ _ => .pure True.intro
  · refine (holder_reads _).thenRuns fun record present => ?_
    have isMade := valid.isMade_of_get? present
    split
    · next same =>
        rw [same] at isMade
        exact (DiagnosticSet.item_runs valid isMade index).bind valid fun _ _ _ _ _ =>
          .pure True.intro
    · exact .throw _
  · exact .throw _

/-- Diagnostics are counted by the library, which leaves the holdings alone. -/
theorem length_reads (value : Value) : Reads holdings value.length fun _ => True := by
  unfold length
  split
  · exact .pure True.intro
  · exact .pure True.intro
  · exact .pure True.intro
  · exact .pure True.intro
  · exact .pure True.intro
  · exact .pure True.intro
  · exact .pure True.intro
  · exact DiagnosticView.count_reads valid _
  · refine (holder_reads _).bind fun record _ => ?_
    split
    · exact DiagnosticSet.count_reads valid _
    · exact .throw _
  · exact .throw _

theorem oddItem_yields (index : Datum) (value : Value) : Yields holdings (value.oddItem index) := by
  unfold oddItem
  split
  · exact entryAt_yields _ _ _
  · exact .throw _
  · exact .throw _
  · refine (length_reads valid _).thenRuns fun length _ => .ite (fun _ => .throw _) fun _ => ?_
    split <;> exact .throw _
  · exact (length_reads valid _).thenRuns fun _ _ => .throw _

/-- A slice of diagnostics places each of them below the one that was asked. -/
theorem slice_yields (anchored : value.Anchored holdings.made) (bounds : Bounds) :
    Yields holdings (value.slice bounds) := by
  have chosen {α : Type} {next : Slice → Facade α} {fits : List Handle → α → Prop}
      (rest : ∀ slice, Runs holdings (next slice) fits) :
      Runs holdings (do next (← Facade.ofExcept bounds.slice)) fits :=
    (Reads.ofExcept _).thenRuns fun slice _ => rest slice
  unfold slice
  split
  · refine chosen fun slice => (Reads.ofExcept _).thenRuns fun picked found => ?_
    exact listOf_yields (areAnchored_of_pick anchored found)
  · refine chosen fun slice => fresh_reads.thenRuns fun _ _ =>
      (Reads.ofExcept _).thenRuns fun picked found => ?_
    exact .pure (areAnchored_of_pick anchored found)
  · exact chosen fun slice => (Reads.ofExcept _).thenRuns fun _ _ => newText_yields _
  · exact chosen fun slice => fresh_reads.thenRuns fun _ _ =>
      (Reads.ofExcept _).thenRuns fun _ _ => .pure True.intro
  · exact chosen fun slice => fresh_reads.thenRuns fun _ _ =>
      (Reads.ofExcept _).thenRuns fun _ _ => .pure True.intro
  · refine (DiagnosticView.count_reads valid _).thenRuns fun _ _ => chosen fun slice => ?_
    exact (DiagnosticView.slice_runs valid anchored slice).bind valid fun numbers _ _ _ _ =>
      holders_yields numbers
  · refine (holder_reads _).thenRuns fun record present => ?_
    have isMade := valid.isMade_of_get? present
    split
    · next same =>
        rw [same] at isMade
        exact chosen fun slice => (DiagnosticSet.slice_runs valid isMade slice).bind valid
          fun numbers _ _ _ _ => holders_yields numbers
    · exact .throw _
  · exact .throw _

/-- An index and a slice are two ways to choose. -/
theorem pick_yields (anchored : value.Anchored holdings.made) (choice : Choice) :
    Yields holdings (value.pick choice) := by
  unfold pick
  split
  · exact slice_yields valid anchored _
  · exact item_yields valid anchored _
  · exact item_yields valid anchored _
  · exact oddItem_yields valid _ value

/-- The items of an anchored value are anchored. -/
theorem items_runs (anchored : value.Anchored holdings.made) :
    Runs holdings value.items AreAnchored := by
  unfold items
  split
  · exact .pure anchored
  · exact .pure anchored
  · refine (Reads.mapM fun glyph _ => newText_reads _).runs ?_
    exact fun _ all => areAnchored_iff.mpr all
  · exact .pure (areAnchored_map fun _ _ => True.intro)
  · exact .pure (areAnchored_map fun _ _ => anchored_ofDatum _ _)
  · exact .pure (areAnchored_map fun _ _ => anchored_ofDatum _ _)
  · exact .pure (areAnchored_map fun _ _ => True.intro)
  · exact (DiagnosticView.toList_runs valid anchored).bind valid fun _ _ _ _ _ =>
      .pure (areAnchored_map fun _ _ => True.intro)
  · refine (holder_reads _).thenRuns fun record present => ?_
    have isMade := valid.isMade_of_get? present
    split
    · next same =>
        rw [same] at isMade
        exact (DiagnosticSet.toList_runs valid isMade).bind valid fun _ _ _ _ _ =>
          .pure (areAnchored_map fun _ _ => True.intro)
    · exact .throw _
  · exact .throw _

end Sequences

section Writing

/-- A holder is written by what it is for. -/
theorem holderWritten_reads (valid : holdings.Valid) (number : Nat) :
    Reads holdings (holderWritten number) fun _ => True := by
  refine (holder_reads number).bind fun record _ => ?_
  split
  · exact CompilationUnit.written_reads valid number
  · exact Diagnostic.written_reads valid number
  · refine (mark?_reads _ _).bind fun mark _ => ?_
    split
    · exact .pure True.intro
    · exact CompilationDatabase.written_reads number
  · exact .pure True.intro

mutual

/-- Writing an anchored value down leaves the holdings alone. -/
theorem written_reads (valid : holdings.Valid) :
    (value : Value) → value.Anchored holdings.made → Reads holdings value.written fun _ => True
  | .file _, anchored => File.written_reads valid anchored
  | .location _, anchored => Location.written_reads valid anchored
  | .range _, anchored => Range.written_reads valid anchored
  | .cursor _, anchored => Cursor.written_reads valid anchored
  | .token found, _ => Token.written_reads valid found
  | .holder number, _ => holderWritten_reads valid number
  | .unsaved _, _ => (asUnsaved_reads _).bind fun _ _ => .pure True.intro
  | .record _ _ fields, anchored =>
      (writtenFields_reads valid fields anchored).bind fun _ _ => .pure True.intro
  | .list _ items, anchored =>
      (writtenAll_reads valid items anchored).bind fun _ _ => .pure True.intro
  | .tuple _ items, anchored => (writtenAll_reads valid items anchored).bind fun texts _ => by
      split <;> exact .pure True.intro
  | .nothing, _ => .pure True.intro
  | .bool _, _ => .pure True.intro
  | .int _, _ => .pure True.intro
  | .text _ _, _ => .pure True.intro
  | .bytes _ _, _ => .pure True.intro
  | .loose _ _, _ => .pure True.intro
  | .member _, _ => .pure True.intro
  | .kind _ _ _, _ => .pure True.intro
  | .flags _ _ _, _ => .pure True.intro
  | .slot _, _ => .pure True.intro
  | .view _ _, _ => .pure True.intro
  | .command _, _ => .pure True.intro

theorem writtenAll_reads (valid : holdings.Valid) :
    (items : List Value) → AreAnchored holdings.made items →
      Reads holdings (writtenAll items) fun _ => True
  | [], _ => .pure True.intro
  | item :: items, anchored =>
      (written_reads valid item anchored.1).bind fun _ _ =>
        (writtenAll_reads valid items anchored.2).bind fun _ _ => .pure True.intro

theorem writtenFields_reads (valid : holdings.Valid) :
    (fields : List (String × Value)) → AreAnchoredFields holdings.made fields →
      Reads holdings (writtenFields fields) fun _ => True
  | [], _ => .pure True.intro
  | (_, value) :: fields, anchored =>
      (written_reads valid value anchored.1).bind fun _ _ =>
        (writtenFields_reads valid fields anchored.2).bind fun _ _ => .pure True.intro

end

/-- Showing an anchored value uses good handles only. -/
theorem shown_reads (valid : holdings.Valid) {value : Value}
    (anchored : value.Anchored holdings.made) :
    Reads holdings value.shown fun _ => True := by
  unfold shown
  split
  · exact .pure True.intro
  · exact .pure True.intro
  · exact .pure True.intro
  · exact .pure True.intro
  · exact (File.name_reads valid anchored).bind fun _ _ => .pure True.intro
  · exact (Cursor.spelling_reads valid anchored).bind fun _ _ => .pure True.intro
  · exact (Token.spelling_reads valid _).bind fun _ _ => .pure True.intro
  · refine (holder_reads _).bind fun record _ => ?_
    split
    · exact (Diagnostic.spelling_reads valid _).bind fun _ _ => .pure True.intro
    · exact holderWritten_reads valid _
  · exact written_reads valid _ anchored

end Writing

section Paths

variable (valid : holdings.Valid) {value : Value}
include valid

/-- A selector leads from an anchored value to another one. -/
theorem select_yields (anchored : value.Anchored holdings.made) (selector : Selector) :
    Yields holdings (value.select selector) := by
  unfold select
  split
  · exact part_yields valid anchored _
  · exact .throw _
  · exact (Reads.ofExcept _).thenRuns fun index _ => item_yields valid anchored index
  · exact (length_reads valid value).thenRuns fun _ _ => .pure True.intro
  · split
    · exact .pure anchored
    · exact (shown_reads valid anchored).thenRuns fun _ _ => newText_yields _
  · exact (written_reads valid value anchored).thenRuns fun _ _ => newText_yields _
  · exact Reads.get.thenRuns fun _ _ => newString_yields _
  · exact (items_runs valid anchored).bind valid fun _ _ _ _ all => listOf_yields all

/-- Following a path from an anchored value leads to an anchored value. -/
theorem follow_yields (anchored : value.Anchored holdings.made) (selectors : List Selector) :
    Yields holdings (follow selectors value) := by
  induction selectors generalizing holdings value with
  | nil => exact .pure anchored
  | cons selector rest inductionHypothesis =>
      unfold follow
      split
      · next same => cases same
      · exact .pure True.intro
      · next same _ =>
          cases same
          refine (select_yields valid anchored selector).bind valid ?_
          exact fun next later laterValid _ found => inductionHypothesis laterValid found

/-- A path that fails is reported, and the others are followed all the same. -/
theorem describe_runs (anchored : value.Anchored holdings.made) (paths : List Path) :
    Runs holdings (value.describe paths) fun _ _ => True := by
  refine Runs.bind (.mapM_trivial valid fun path _ later laterValid grown => ?_) valid
    fun entries _ _ _ _ => .pure True.intro
  have reported : Runs later (do
      let found ← follow path.selectors value
      Facade.ofExcept (Rendered.ofValue (← get) found).checked) fun _ _ => True := by
    refine (follow_yields laterValid (Anchored.mono grown value anchored) path.selectors).bind
      laterValid fun found _ _ _ _ => Reads.get.thenRuns fun session _ => ?_
    exact (Reads.ofExcept _).runs fun _ _ => True.intro
  refine reported.attempt.bind laterValid fun result last _ _ _ => ?_
  split <;> exact .pure True.intro

end Paths

end Value
end Custody
