import Custody.Proofs.Scenario.Queries
import Custody.Proofs.Session.UnitSweep
import Custody.Scenario.Equality
import Custody.Scenario.Query

/-!
# Queries under a watch

A value fits a watch when every location inside it may be read and every compile command inside it
may be handed out.  Every query on a value that fits keeps the watch and yields a value that fits.
What reads no location inside a value takes any steady watch; the written form and the key of a
value read those inside it.
-/

namespace Custody

open Facade Watch

variable {watch : Watch} {begun : Session}

namespace Value

mutual

/-- Every location inside a value may be read, and every command may be handed out. -/
def Fits (watch : Watch) (session : Session) : Value → Prop
  | .location value => watch.issued session value.serial
  | .command value => watch.admits value
  | .record _ _ fields => FieldsFit watch session fields
  | .list _ items => ItemsFit watch session items
  | .tuple _ items => ItemsFit watch session items
  | _ => True

/-- Several values fit. -/
def ItemsFit (watch : Watch) (session : Session) : List Value → Prop
  | [] => True
  | value :: values => Fits watch session value ∧ ItemsFit watch session values

/-- The values of fields fit. -/
def FieldsFit (watch : Watch) (session : Session) : List (String × Value) → Prop
  | [] => True
  | (_, value) :: fields => Fits watch session value ∧ FieldsFit watch session fields

end

/-- Several values fit together when each of them does. -/
theorem itemsFit_iff {items : List Value} :
    ItemsFit watch begun items ↔ ∀ item ∈ items, item.Fits watch begun := by
  induction items with
  | nil => simp [ItemsFit]
  | cons item rest inductionHypothesis => simp [ItemsFit, inductionHypothesis]

/-- What is found under a name fits if all fields do. -/
theorem fits_of_lookup {name : String} {fields : List (String × Value)} {value : Value}
    (fits : FieldsFit watch begun fields) (found : fields.lookup name = some value) :
    value.Fits watch begun := by
  induction fields with
  | nil => cases found
  | cons field rest inductionHypothesis =>
      rw [List.lookup_cons] at found
      split at found
      · cases found
        exact fits.1
      · exact inductionHypothesis fits.2 found

mutual

/-- What fits a session fits a later one, by induction on the value. -/
theorem Fits.after [Steady watch] {later : Session} (grown : watch.relation begun later) :
    (value : Value) → value.Fits watch begun → value.Fits watch later
  | .location _, issued => Steady.lasts grown issued
  | .command _, admitted => admitted
  | .record _ _ fields, fits => FieldsFit.after grown fields fits
  | .list _ items, fits => ItemsFit.after grown items fits
  | .tuple _ items, fits => ItemsFit.after grown items fits
  | .nothing, _ | .bool _, _ | .int _, _ | .text _ _, _ | .bytes _ _, _ | .loose _ _, _
  | .member _, _ | .kind _ _ _, _ | .flags _ _ _, _ | .holder _, _ | .file _, _ | .range _, _
  | .cursor _, _ | .token _, _ | .unsaved _, _ | .slot _, _ | .view _ _, _ => True.intro

theorem ItemsFit.after [Steady watch] {later : Session} (grown : watch.relation begun later) :
    (items : List Value) → ItemsFit watch begun items → ItemsFit watch later items
  | [], _ => True.intro
  | value :: values, fits => ⟨Fits.after grown value fits.1, ItemsFit.after grown values fits.2⟩

theorem FieldsFit.after [Steady watch] {later : Session} (grown : watch.relation begun later) :
    (fields : List (String × Value)) → FieldsFit watch begun fields → FieldsFit watch later fields
  | [], _ => True.intro
  | (_, value) :: fields, fits =>
      ⟨Fits.after grown value fits.1, FieldsFit.after grown fields fits.2⟩

end

mutual

/-- A watch on a relation alone asks nothing of values. -/
theorem fits_of (relation : Session → Session → Prop) :
    (value : Value) → value.Fits (Watch.of relation) begun
  | .record _ _ fields => fieldsFit_of relation fields
  | .list _ items => itemsFit_of relation items
  | .tuple _ items => itemsFit_of relation items
  | .location _ | .command _ | .nothing | .bool _ | .int _ | .text _ _ | .bytes _ _ | .loose _ _
  | .member _ | .kind _ _ _ | .flags _ _ _ | .holder _ | .file _ | .range _ | .cursor _ | .token _
  | .unsaved _ | .slot _ | .view _ _ => True.intro

theorem itemsFit_of (relation : Session → Session → Prop) :
    (items : List Value) → ItemsFit (Watch.of relation) begun items
  | [] => True.intro
  | value :: values => ⟨fits_of relation value, itemsFit_of relation values⟩

theorem fieldsFit_of (relation : Session → Session → Prop) :
    (fields : List (String × Value)) → FieldsFit (Watch.of relation) begun fields
  | [] => True.intro
  | (_, value) :: fields => ⟨fits_of relation value, fieldsFit_of relation fields⟩

end

/-- A value that fits a session fits all later ones. -/
theorem Fits.lasts [Steady watch] {later : Session} {value : Value}
    (fits : value.Fits watch begun) (grown : watch.relation begun later) :
    value.Fits watch later := Fits.after grown value fits

section Making

variable {α : Type} {make : α → Value}

/-- A value that may be missing fits if it does when it is there. -/
theorem fits_option (make : α → Value) (fits : ∀ value, (make value).Fits watch begun)
    (item : Option α) : (option make item).Fits watch begun := by
  cases item with
  | none => exact True.intro
  | some value => exact fits value

/-- Data hold neither locations nor commands. -/
theorem fits_ofDatum (serial : Nat) (datum : Datum) : (ofDatum serial datum).Fits watch begun := by
  cases datum <;> exact True.intro

/-- What is made of each item fits if it does of any. -/
theorem fits_map (make : α → Value) (fits : ∀ value, (make value).Fits watch begun)
    (items : List α) : ∀ value ∈ items.map make, value.Fits watch begun :=
  List.forall_mem_map.mpr fun item _ => fits item

/-- Commands that may be handed out are values that fit. -/
theorem fits_commands {commands : List CompileCommand}
    (admitted : ∀ command ∈ commands, watch.admits command) :
    ∀ value ∈ commands.map Value.command, value.Fits watch begun :=
  List.forall_mem_map.mpr admitted

/-- A fix-it holds a range and a text, and a range is read by making new locations. -/
theorem fits_ofFixIt (fixIt : FixIt) : (ofFixIt fixIt).Fits watch begun :=
  ⟨True.intro, True.intro, True.intro⟩

/-- The cursor of an entity is the only object in it. -/
theorem fits_ofEntity (entity : Entity) : (ofEntity entity).Fits watch begun :=
  ⟨True.intro, fits_option (string entity.serial) (fun _ => True.intro) _,
    fits_option (string entity.serial) (fun _ => True.intro) _,
    fits_option .cursor (fun _ => True.intro) _, True.intro⟩

/-- What a hook is told fits if the location in it may be read. -/
theorem fits_ofNotice {notice : Notice} (legible : notice.Legible watch begun) :
    (ofNotice notice).Fits watch begun := by
  have files (file : Option File) : (option .file file).Fits watch begun :=
    fits_option .file (fun _ => True.intro) file
  have cursors (cursor : Option Cursor) : (option .cursor cursor).Fits watch begun :=
    fits_option .cursor (fun _ => True.intro) cursor
  have entities (entity : Option Entity) : (option ofEntity entity).Fits watch begun :=
    fits_option ofEntity fits_ofEntity entity
  cases notice with
  | started => exact True.intro
  | mainFile file => exact True.intro
  | diagnostics serial items =>
      refine itemsFit_iff.mpr (fits_map ofIndexedDiagnostic (fun item => ?_) items)
      exact ⟨True.intro, True.intro, True.intro, True.intro⟩
  | included item =>
      have issued : watch.issued begun item.hashLocation.serial := legible _ rfl
      exact ⟨True.intro, files _, issued, True.intro, True.intro, True.intro, True.intro⟩
  | imported item =>
      have issued : watch.issued begun item.location.serial := legible _ rfl
      exact ⟨files _, issued, True.intro, True.intro⟩
  | declaration item =>
      have issued : watch.issued begun item.location.serial := legible _ rfl
      exact ⟨cursors _, entities _, issued, cursors _, cursors _, True.intro, True.intro,
        True.intro, True.intro, True.intro⟩
  | reference item =>
      have issued : watch.issued begun item.location.serial := legible _ rfl
      exact ⟨True.intro, cursors _, issued, entities _, entities _, cursors _, True.intro⟩

end Making

end Value

/-- The value that an operation yields fits. -/
abbrev Facade.Offers (watch : Watch) (begun : Session) (action : Facade Value) : Prop :=
  Keeps watch begun action fun later value => value.Fits watch later

namespace Value

section Steady

variable [Steady watch]

/-- An operation that makes a value of what it finds, without locations and commands. -/
theorem offers_of_plain {α : Type} {action : Facade α} {make : α → Value}
    (first : Abides watch begun action)
    (plain : ∀ (value : α) (later : Session), (make value).Fits watch later) :
    Offers watch begun (do return make (← action)) :=
  .after first fun value => .pure fun later _ => plain value later

/-- A new text takes a number and fits. -/
theorem newText_offers (value : Text) : Offers watch begun (newText value) :=
  offers_of_plain fresh_abides fun _ _ => True.intro

/-- A new string is a new text. -/
theorem newString_offers (value : String) : Offers watch begun (newString value) :=
  newText_offers _

/-- A list takes a number of its own and fits like its items. -/
theorem listOf_offers {items : List Value} (fits : ∀ item ∈ items, item.Fits watch begun) :
    Offers watch begun (listOf items) :=
  .after fresh_abides fun _ => .pure fun _ grown =>
    itemsFit_iff.mpr fun item member => (fits item member).lasts grown

/-- A location that may be read is a value that fits. -/
theorem location_offers {action : Facade Location} (locates : Locates watch begun action) :
    Offers watch begun (do return .location (← action)) :=
  locates.bind fun _ _ _ issued => .pure fun _ grown => Steady.lasts grown issued

section Demands

/-- To ask that a value is a holder changes nothing. -/
theorem asHolder_abides (value : Value) : Abides watch begun value.asHolder := by
  unfold asHolder
  split
  · exact .pure _
  · exact .throw _

/-- What a holder is for is looked up in the session. -/
theorem asWrapper_abides (wanted : Wrapper → Bool) (value : Value) :
    Abides watch begun (asWrapper wanted value) :=
  .bind value.asHolder_abides fun _ => .bind (.holder _) fun _ => .ite (.pure _) (.throw _)

/-- To ask that a value is a location changes nothing. -/
theorem asLocation_abides (value : Value) : Abides watch begun value.asLocation := by
  unfold asLocation
  split
  · exact .pure _
  · exact .throw _

/-- To ask that a value is a file changes nothing. -/
theorem asFile_abides (value : Value) : Abides watch begun value.asFile := by
  unfold asFile
  split
  · exact .pure _
  · exact .throw _

/-- To ask that a value is a cursor changes nothing. -/
theorem asCursor_abides (value : Value) : Abides watch begun value.asCursor := by
  unfold asCursor
  split
  · exact .pure _
  · exact .throw _

/-- To ask that a value is a command changes nothing. -/
theorem asCommand_abides (value : Value) : Abides watch begun value.asCommand := by
  unfold asCommand
  split
  · exact .pure _
  · exact .throw _

/-- The owner of a value is part of it, or found in the session for a diagnostic. -/
theorem owner_abides (value : Value) : Abides watch begun value.owner := by
  unfold owner
  split
  · exact .pure _
  · exact .pure _
  · exact .pure _
  · refine .bind (.holder _) fun record => ?_
    split
    · exact .pure _
    · exact .pure _
    · exact .throw _
  · exact .throw _

/-- An unsaved file is looked up as it is at present. -/
theorem asUnsaved_abides (value : Value) : Abides watch begun value.asUnsaved := by
  unfold asUnsaved
  split
  · refine .bind .get fun session => ?_
    split
    · exact .pure _
    · exact .throw _
  · exact .throw _

end Demands

section Parts

/-- Every holder tells whether it is open and whether it owns its handle. -/
theorem holderPart?_offers {number : Nat} {name : String} {action : Facade Value}
    (present : holderPart? number name = some action) : Offers watch begun action := by
  unfold holderPart? at present
  split at present
  · cases present
    exact offers_of_plain (.holder number) fun _ _ => True.intro
  · cases present
    exact offers_of_plain (.holder number) fun _ _ => True.intro
  · cases present
    exact offers_of_plain (.handle number) fun _ _ => True.intro
  · cases present

/-- The parts of a unit are asked of the library, but for its index and its view. -/
theorem unitPart_offers (unit : Nat) (name : String) : Offers watch begun (unitPart unit name) := by
  unfold unitPart
  split
  · exact offers_of_plain (CompilationUnit.index_abides unit) fun _ _ => True.intro
  · exact offers_of_plain (CompilationUnit.defaultReparseOptions_abides unit) fun _ _ => True.intro
  · exact offers_of_plain (CompilationUnit.defaultSaveOptions_abides unit) fun _ _ => True.intro
  · exact .after (CompilationUnit.spelling_abides unit) fun _ => newString_offers _
  · exact offers_of_plain (CompilationUnit.cursor_abides unit)
      fun _ _ => fits_option .cursor (fun _ => True.intro) _
  · exact offers_of_plain fresh_abides fun _ _ => True.intro
  · exact .throw _

/-- Among the parts of a diagnostic is a location, which is made when it is asked for. -/
theorem diagnosticPart_offers (diagnostic : Nat) (name : String) :
    Offers watch begun (diagnosticPart diagnostic name) := by
  have text {action : Facade String} (first : Abides watch begun action) :
      Offers watch begun (do newString (← action)) := .after first fun _ => newString_offers _
  unfold diagnosticPart
  split
  · exact offers_of_plain (Diagnostic.severity_abides diagnostic) fun _ _ => True.intro
  · exact text (Diagnostic.textOf_abides diagnostic _)
  · exact location_offers (Diagnostic.location_issues diagnostic)
  · exact .after (Diagnostic.ranges_abides diagnostic) fun ranges =>
      listOf_offers (fits_map .range (fun _ => True.intro) ranges)
  · exact .after (Diagnostic.fixIts_abides diagnostic) fun fixIts =>
      listOf_offers (fits_map ofFixIt fits_ofFixIt fixIts)
  · exact offers_of_plain (.bind (Diagnostic.model_abides diagnostic) fun _ => .pure _)
      fun _ _ => True.intro
  · exact text (Diagnostic.textOf_abides diagnostic _)
  · exact text (Diagnostic.option_abides diagnostic)
  · exact text (Diagnostic.disableOption_abides diagnostic)
  · exact .after (Diagnostic.children_abides diagnostic) fun notes =>
      listOf_offers (fits_map .holder (fun _ => True.intro) notes)
  · exact .throw _

/-- The commands of a database fit, since only what was copied comes to be remembered. -/
theorem wrapperPart_offers (number : Nat) (name : String) :
    Offers watch begun (wrapperPart number name) := by
  unfold wrapperPart
  split
  · next present => exact holderPart?_offers present
  · refine .after (.holder number) fun record => ?_
    split
    · refine .ite (fun _ => ?_) fun _ => .throw _
      exact .after (Index.globalOptions_abides number) fun _ =>
        offers_of_plain fresh_abides fun _ _ => True.intro
    · exact unitPart_offers number name
    · exact diagnosticPart_offers number name
    · refine .ite (fun _ => ?_) fun _ => .ite (fun _ => ?_) fun _ => .throw _
      · exact .after (CompilationDatabase.directory_abides number) fun _ => newText_offers _
      · refine (CompilationDatabase.commands_keeps number).bind fun commands _ _ admitted => ?_
        exact .pure fun _ _ => itemsFit_iff.mpr (fits_commands admitted)
    · exact .throw _
    · exact .throw _

/-- Both ends of a range are made when they are asked for. -/
theorem rangePart_offers (range : Range) (name : String) :
    Offers watch begun (rangePart range name) := by
  unfold rangePart
  split
  · exact location_offers range.start_issues
  · exact location_offers range.finish_issues
  · exact offers_of_plain (.unit? _) fun _ _ => fits_option .holder (fun _ => True.intro) _
  · exact .pure fun _ _ => True.intro
  · exact .throw _

/-- A cursor tells of texts, of cursors that are related to it, and of where it is. -/
theorem cursorPart_offers (cursor : Cursor) (name : String) :
    Offers watch begun (cursorPart cursor name) := by
  have related (relation : Library.CursorModel → Option Nat) :
      Offers watch begun (do return option .cursor (← cursor.related relation)) :=
    offers_of_plain (cursor.related_abides relation)
      fun _ _ => fits_option .cursor (fun _ => True.intro) _
  unfold cursorPart
  split
  · exact offers_of_plain (.ofExcept _) fun _ _ => True.intro
  · exact .after cursor.spelling_abides fun _ => newString_offers _
  · exact .after cursor.displayName_abides fun _ => newString_offers _
  · refine .after cursor.usr_abides fun usr => ?_
    split
    · exact .pure fun _ _ => True.intro
    · exact newString_offers _
  · exact offers_of_plain cursor.range_abides fun _ _ => True.intro
  · exact location_offers cursor.location_issues
  · exact .pure fun _ _ => True.intro
  · exact offers_of_plain cursor.parent_abides
      fun _ _ => fits_option .cursor (fun _ => True.intro) _
  · exact related _
  · exact related _
  · exact related _
  · exact related _
  · exact offers_of_plain cursor.isDefinition_abides fun _ _ => True.intro
  · exact .after cursor.children_abides fun children =>
      listOf_offers (fits_map (option .cursor) (fits_option .cursor fun _ => True.intro) children)
  · exact .throw _

/-- A token tells of its text and of where it is. -/
theorem tokenPart_offers (token : Token) (name : String) :
    Offers watch begun (tokenPart token name) := by
  unfold tokenPart
  split
  · exact offers_of_plain (.ofExcept _) fun _ _ => True.intro
  · exact .after token.spelling_abides fun _ => newString_offers _
  · exact location_offers token.location_issues
  · exact offers_of_plain token.range_abides fun _ _ => True.intro
  · exact .pure fun _ _ => True.intro
  · exact .throw _

/-- An unsaved file tells of its name, its contents and its slot. -/
theorem unsavedPart_offers (number : Nat) (name : String) :
    Offers watch begun (unsavedPart number name) := by
  refine .after (asUnsaved_abides _) fun file => ?_
  split
  · exact newText_offers _
  · exact newString_offers _
  · exact .pure fun _ _ => True.intro
  · exact .throw _

/-- A slot tells of the bytes that the library is given. -/
theorem slotPart_offers (number : Nat) (name : String) :
    Offers watch begun (slotPart number name) := by
  refine .after (asUnsaved_abides _) fun file => ?_
  dsimp only
  split
  · exact .after fresh_abides fun _ =>
      .pure fun _ _ => fits_option (.bytes _) (fun _ => True.intro) _
  · exact .after fresh_abides fun _ =>
      .pure fun _ _ => fits_option (.bytes _) (fun _ => True.intro) _
  · exact .pure fun _ _ => True.intro
  · exact .throw _

/-- A part of a record fits because the record does, the kind of its entity included. -/
theorem recordPart_offers {recordName : String} {fields : List (String × Value)}
    (fits : FieldsFit watch begun fields) (name : String) :
    Offers watch begun (recordPart recordName fields name) := by
  unfold recordPart
  split
  · next value found => exact .pure fun _ => (fits_of_lookup fits found).lasts
  · refine .ite (fun _ => ?_) fun _ => .throw _
    split
    · next entity present =>
        refine .pure fun _ grown => ?_
        cases found : entity.lookup "kind" with
        | none => exact True.intro
        | some kind => exact (fits_of_lookup (fits_of_lookup fits present) found).lasts grown
    · exact .pure fun _ _ => True.intro

/-- Whether a value can have a mark is found by trying, and the trial is discarded. -/
theorem isMarkable_abides (name : String) (value : Value) :
    Abides watch begun (value.isMarkable name) := by
  refine .bind .get fun session => ?_
  split
  · exact .pure _
  · split
    · refine .bind (.holder _) fun record => ?_
      split <;> exact .pure _
    · exact .pure _

end Parts

section Sequences

/-- An item of a list fits because all of them do. -/
theorem itemOr_offers (failure : Failure) {items : List Value}
    (fits : ∀ item ∈ items, item.Fits watch begun) (index : Int) :
    Offers watch begun (itemOr failure items index) := by
  refine .ite (fun _ => .throw _) fun _ => ?_
  split
  · next item found => exact .pure fun _ => (fits item (Sequence.mem_of_item? found)).lasts
  · exact .throw _

/-- To pick an item changes nothing, whether there is one or not. -/
theorem itemOr_abides {α : Type} (failure : Failure) (items : List α) (index : Int) :
    Abides watch begun (itemOr failure items index) := by
  refine .ite (.throw _) ?_
  split
  · exact .pure _
  · exact .throw _

/-- What a mapping has under a key is data. -/
theorem entryAt_offers (serial : Nat) (entries : List (Datum × Datum)) (key : Datum) :
    Offers watch begun (entryAt serial entries key) := by
  unfold entryAt
  split
  · exact .throw _
  · exact .throw _
  · split
    · exact .pure fun _ _ => fits_ofDatum _ _
    · exact .throw _

variable {value : Value}

/-- Only diagnostics are counted by the library; all other lengths are known. -/
theorem length_abides (value : Value) : Abides watch begun value.length := by
  unfold length
  split
  · exact .pure _
  · exact .pure _
  · exact .pure _
  · exact .pure _
  · exact .pure _
  · exact .pure _
  · exact .pure _
  · exact DiagnosticView.count_abides _
  · refine .bind (.holder _) fun record => ?_
    split
    · exact DiagnosticSet.count_abides _
    · exact .throw _
  · exact .throw _

/-- An index that is no integer yields data from a mapping, and a failure elsewhere. -/
theorem oddItem_offers (index : Datum) (value : Value) :
    Offers watch begun (value.oddItem index) := by
  unfold oddItem
  split
  · exact entryAt_offers _ _ _
  · exact .throw _
  · exact .throw _
  · refine .after (length_abides _) fun length => .ite (fun _ => .throw _) fun _ => ?_
    split <;> exact .throw _
  · exact .after (length_abides _) fun _ => .throw _

/-- An item fits whether it was in the value or is made for the occasion. -/
theorem item_offers (index : Int) (fits : value.Fits watch begun) :
    Offers watch begun (value.item index) := by
  unfold item
  split
  · exact itemOr_offers _ (itemsFit_iff.mp fits) index
  · exact itemOr_offers _ (itemsFit_iff.mp fits) index
  · exact .after (itemOr_abides _ _ index) fun _ => newText_offers _
  · exact offers_of_plain (itemOr_abides _ _ index) fun _ _ => True.intro
  · exact offers_of_plain (itemOr_abides _ _ index) fun _ _ => fits_ofDatum _ _
  · exact entryAt_offers _ _ _
  · exact offers_of_plain (DiagnosticView.item_abides _ index) fun _ _ => True.intro
  · refine .after (.holder _) fun record => ?_
    split
    · exact offers_of_plain (DiagnosticSet.item_abides _ index) fun _ _ => True.intro
    · exact .throw _
  · exact .throw _

/-- A slice picks items that fit, or makes the diagnostics that it selects. -/
theorem slice_offers (bounds : Bounds) (fits : value.Fits watch begun) :
    Offers watch begun (value.slice bounds) := by
  have picked {slice : Slice} {items : List Value} (all : ItemsFit watch begun items) :
      Keeps watch begun (Facade.ofExcept (slice.pick items)) fun later found =>
        ItemsFit watch later found :=
    .ofExcept fun _ found _ grown => itemsFit_iff.mpr fun item member =>
      (itemsFit_iff.mp all item (Slice.mem_of_pick found member)).lasts grown
  unfold slice
  split
  · exact .after (.ofExcept _) fun _ => (picked fits).bind fun _ _ _ all =>
      listOf_offers (itemsFit_iff.mp all)
  · exact .after (.ofExcept _) fun _ => .after fresh_abides fun _ =>
      (picked fits).bind fun _ _ _ all => .pure fun _ grown => ItemsFit.after grown _ all
  · exact .after (.ofExcept _) fun _ => .after (.ofExcept _) fun _ => newText_offers _
  · exact .after (.ofExcept _) fun _ => .after fresh_abides fun _ =>
      offers_of_plain (.ofExcept _) fun _ _ => True.intro
  · exact .after (.ofExcept _) fun _ => .after fresh_abides fun _ =>
      offers_of_plain (.ofExcept _) fun _ _ => True.intro
  · exact .after (DiagnosticView.count_abides _) fun _ => .after (.ofExcept _) fun _ =>
      .after (DiagnosticView.slice_abides _ _) fun numbers =>
        listOf_offers (fits_map .holder (fun _ => True.intro) numbers)
  · refine .after (.holder _) fun record => ?_
    split
    · exact .after (.ofExcept _) fun _ => .after (DiagnosticSet.slice_abides _ _) fun numbers =>
        listOf_offers (fits_map .holder (fun _ => True.intro) numbers)
    · exact .throw _
  · exact .throw _

/-- An index and a slice are two ways to choose. -/
theorem pick_offers (choice : Choice) (fits : value.Fits watch begun) :
    Offers watch begun (value.pick choice) := by
  unfold pick
  split
  · exact slice_offers _ fits
  · exact item_offers _ fits
  · exact item_offers _ fits
  · exact oddItem_offers _ value

/-- Iterating makes new texts and diagnostics, and yields the items of all else as they are. -/
theorem items_keeps (fits : value.Fits watch begun) :
    Keeps watch begun value.items fun later items => ∀ item ∈ items, item.Fits watch later := by
  have members {items : List Value} (all : ItemsFit watch begun items) (later : Session)
      (grown : watch.relation begun later) : ∀ item ∈ items, item.Fits watch later :=
    itemsFit_iff.mp (ItemsFit.after grown items all)
  unfold items
  split
  · exact .pure (members fits)
  · exact .pure (members fits)
  · exact .mapM (fun _ _ _ grown fits => fits.lasts grown) fun _ _ _ _ => newText_offers _
  · exact .pure fun _ _ => fits_map (fun byte : UInt8 => .int byte.toNat) (fun _ => True.intro) _
  · exact .pure fun _ _ => fits_map _ (fun _ => fits_ofDatum _ _) _
  · exact .pure fun _ _ => fits_map _ (fun _ => fits_ofDatum _ _) _
  · exact .pure fun _ _ => fits_map (.flags _ _) (fun _ => True.intro) _
  · exact .after (DiagnosticView.toList_abides _) fun _ =>
      .pure fun _ _ => fits_map .holder (fun _ => True.intro) _
  · refine .after (.holder _) fun record => ?_
    split
    · exact .after (DiagnosticSet.toList_abides _) fun _ =>
        .pure fun _ _ => fits_map .holder (fun _ => True.intro) _
    · exact .throw _
  · exact .throw _

end Sequences

section Comparing

/-- Comparing values reads no location, by induction on the comparison. -/
theorem equal_abides (left right : Value) : Abides watch begun (left.equal right) := by
  refine equal.induct (fun left right => Abides watch begun (left.equal right))
    (fun lefts rights => Abides watch begun (equalItems lefts rights))
    (fun lefts rights => Abides watch begun (equalFields lefts rights))
    ?files ?locations ?ranges ?cursors ?commands ?records ?otherRecords ?lists ?otherLists ?tuples
    ?data ?others ?noFields ?sameField ?field ?otherFields ?noItems ?sameItem ?item ?otherItems
    left right
  case files =>
    intro left right
    rw [equal]
    exact left.agrees_abides right
  case locations | ranges | cursors | commands =>
    intro left right
    rw [equal]
    exact .pure _
  case records =>
    intro _ leftFields _ name rightFields inductionHypothesis
    rw [equal, if_pos rfl]
    exact inductionHypothesis
  case otherRecords =>
    intro _ left leftFields _ right rightFields apart
    rw [equal, if_neg apart]
    exact .pure _
  case lists =>
    intro _ left _ right sameLength inductionHypothesis
    rw [equal, if_pos sameLength]
    exact inductionHypothesis
  case otherLists =>
    intro _ left _ right apart
    rw [equal, if_neg apart]
    exact .pure _
  case tuples =>
    intro _ left _ right inductionHypothesis
    rw [equal]
    exact inductionHypothesis
  case data =>
    intro left right _ _ _ _ _ _ _ _ leftDatum rightDatum rightFound leftFound
    rw [equal, leftFound, rightFound]
    · exact .pure _
    all_goals assumption
  case others =>
    intro left right _ _ _ _ _ _ _ _ noData
    rw [equal]
    · split <;> exact .pure _
    all_goals assumption
  case noFields =>
    rw [equalFields]
    exact .pure _
  case sameField =>
    intro _ left lefts _ right rights same inductionHypothesis
    rw [equalFields, if_pos same]
    exact inductionHypothesis
  case field =>
    intro _ left lefts _ right rights apart firstHypothesis restHypothesis
    rw [equalFields, if_neg apart]
    exact .bind firstHypothesis fun _ => .ite restHypothesis (.pure _)
  case otherFields =>
    intro lefts rights _ _
    rw [equalFields]
    · exact .pure _
    all_goals assumption
  case noItems =>
    rw [equalItems]
    exact .pure _
  case sameItem =>
    intro left lefts right rights same inductionHypothesis
    rw [equalItems, if_pos same]
    exact inductionHypothesis
  case item =>
    intro left lefts right rights apart firstHypothesis restHypothesis
    rw [equalItems, if_neg apart]
    exact .bind firstHypothesis fun _ => .ite restHypothesis (.pure _)
  case otherItems =>
    intro lefts rights _ _
    rw [equalItems]
    · exact .pure _
    all_goals assumption

end Comparing

end Steady

section Recording

variable [Recording watch]

section Parts

/-- The parts of a location are read off its expansion, which is recorded first. -/
theorem locationPart_offers {location : Location} (issued : watch.issued begun location.serial)
    (name : String) : Offers watch begun (locationPart location name) := by
  have read := Location.expansion_abides issued
  unfold locationPart
  split
  · exact .after read fun _ => .pure fun _ _ => fits_option .file (fun _ => True.intro) _
  · exact .after read fun _ => .pure fun _ _ => True.intro
  · exact .after read fun _ => .pure fun _ _ => True.intro
  · exact .after read fun _ => .pure fun _ _ => True.intro
  · exact offers_of_plain (.unit? _) fun _ _ => fits_option .holder (fun _ => True.intro) _
  · exact offers_of_plain location.isFromMainFile_abides fun _ _ => True.intro
  · exact offers_of_plain location.isInSystemHeader_abides fun _ _ => True.intro
  · exact .pure fun _ _ => True.intro
  · exact .throw _

/-- Every kind of value has its own parts, and only a location's read an expansion. -/
theorem ownPart_offers (name : String) {value : Value} (fits : value.Fits watch begun) :
    Offers watch begun (value.ownPart name) := by
  unfold ownPart
  split
  · exact wrapperPart_offers _ name
  · split
    · exact .after (File.name_abides _) fun _ => newString_offers _
    · exact offers_of_plain (File.time_abides _) fun _ _ => True.intro
    · exact .throw _
  · exact locationPart_offers fits name
  · exact rangePart_offers _ name
  · exact cursorPart_offers _ name
  · exact tokenPart_offers _ name
  · exact unsavedPart_offers _ name
  · exact slotPart_offers _ name
  · split
    · exact newString_offers _
    · exact .pure fun _ _ => True.intro
    · exact .throw _
  · split
    · exact newString_offers _
    · exact .pure fun _ _ => True.intro
    · exact .throw _
  · split
    · exact .after fresh_abides fun _ =>
        .pure fun _ _ => fits_option (string _) (fun _ => True.intro) _
    · exact .pure fun _ _ => True.intro
    · exact .throw _
  · split
    · exact .pure fun _ _ => fits_ofDatum _ _
    · exact .pure fun _ _ => fits_ofDatum _ _
    · exact .pure fun _ _ => itemsFit_iff.mpr (fits_map _ (fits_ofDatum _) _)
    · exact .throw _
  · exact recordPart_offers fits name
  · exact .throw _

/-- A mark covers what a value has under the same name. -/
theorem part_offers (name : String) {value : Value} (fits : value.Fits watch begun) :
    Offers watch begun (value.part name) := by
  unfold part
  split
  · exact ownPart_offers name fits
  · refine .after (mark?_abides _ name) fun mark => ?_
    split
    · exact .pure fun _ _ => fits_ofDatum _ _
    · exact ownPart_offers name fits

end Parts

section Writing

/-- A holder is written by what it is for, and a database by its mark if it has one. -/
theorem holderWritten_abides (number : Nat) : Abides watch begun (holderWritten number) := by
  refine .bind (.holder number) fun record => ?_
  split
  · exact CompilationUnit.written_abides number
  · exact Diagnostic.written_abides number
  · refine .bind (mark?_abides _ _) fun mark => ?_
    split
    · exact .pure _
    · exact CompilationDatabase.written_abides number
  · exact .pure _

mutual

/-- Writing a value writes everything inside it, by induction on the value. -/
theorem written_abides : (value : Value) → value.Fits watch begun → Abides watch begun value.written
  | .file value, _ => value.written_abides
  | .location _, issued => Location.written_abides issued
  | .range value, _ => value.written_abides
  | .cursor value, _ => value.written_abides
  | .token value, _ => value.written_abides
  | .holder number, _ => holderWritten_abides number
  | .unsaved _, _ => .bind (asUnsaved_abides _) fun _ => .pure _
  | .record _ _ fields, fits => .bind (writtenFields_abides fields fits) fun _ => .pure _
  | .list _ items, fits => .bind (writtenAll_abides items fits) fun _ => .pure _
  | .tuple _ items, fits => by
      refine .bind (writtenAll_abides items fits) fun texts => ?_
      split <;> exact .pure _
  | .nothing, _ | .bool _, _ | .int _, _ | .text _ _, _ | .bytes _ _, _ | .loose _ _, _
  | .member _, _ | .kind _ _ _, _ | .flags _ _ _, _ | .slot _, _ | .view _ _, _
  | .command _, _ => .pure _

theorem writtenAll_abides : (items : List Value) →
    ItemsFit watch begun items → Abides watch begun (writtenAll items)
  | [], _ => .pure _
  | item :: items, fits =>
      .bind (written_abides item fits.1) fun _ =>
        .bind (writtenAll_abides items fits.2) fun _ => .pure _

theorem writtenFields_abides : (fields : List (String × Value)) →
    FieldsFit watch begun fields → Abides watch begun (writtenFields fields)
  | [], _ => .pure _
  | (_, value) :: fields, fits =>
      .bind (written_abides value fits.1) fun _ =>
        .bind (writtenFields_abides fields fits.2) fun _ => .pure _

end

/-- What has a text of its own is shown by that, and all else is written. -/
theorem shown_abides {value : Value} (fits : value.Fits watch begun) :
    Abides watch begun value.shown := by
  unfold shown
  split
  · exact .pure _
  · exact .pure _
  · exact .pure _
  · exact .pure _
  · exact .bind (File.name_abides _) fun _ => .pure _
  · exact .bind (Cursor.spelling_abides _) fun _ => .pure _
  · exact .bind (Token.spelling_abides _) fun _ => .pure _
  · refine .bind (.holder _) fun record => ?_
    split
    · exact .bind (Diagnostic.textOf_abides _ _) fun _ => .pure _
    · exact holderWritten_abides _
  · exact written_abides _ fits

end Writing

section Paths

/-- A selector takes one step from a value that fits to another one. -/
theorem select_offers (selector : Selector) {value : Value} (fits : value.Fits watch begun) :
    Offers watch begun (value.select selector) := by
  unfold select
  split
  · exact part_offers _ fits
  · exact .throw _
  · exact .after (.ofExcept _) fun _ => item_offers _ fits
  · exact offers_of_plain value.length_abides fun _ _ => True.intro
  · split
    · exact .pure fun _ => fits.lasts
    · exact .after (shown_abides fits) fun _ => newText_offers _
  · exact .after (written_abides _ fits) fun _ => newText_offers _
  · exact .after .get fun _ => newString_offers _
  · exact (items_keeps fits).bind fun _ _ _ all => listOf_offers all

/-- A path is followed step by step, by induction on the selectors. -/
theorem follow_offers (selectors : List Selector) {value : Value} (fits : value.Fits watch begun) :
    Offers watch begun (follow selectors value) := by
  induction selectors generalizing begun value with
  | nil => exact .pure fun _ => fits.lasts
  | cons selector rest inductionHypothesis =>
      unfold follow
      split
      · exact .pure fun _ => fits.lasts
      · exact .pure fun _ _ => True.intro
      · next same _ =>
          cases same
          exact (select_offers selector fits).bind fun _ _ _ reached =>
            inductionHypothesis reached

/-- Every path of a report has its own failure, and none of them reads what was not issued. -/
theorem describe_abides (paths : List Path) {value : Value} (fits : value.Fits watch begun) :
    Abides watch begun (value.describe paths) := by
  refine .bind (.mapM fun path _ => .bind (.attempt ?_) fun result => ?_) fun _ => .pure _
  · exact .making (follow_offers path.selectors fits) fun _ _ _ _ =>
      .bind .get fun _ => .ofExcept _
  · split <;> exact .pure _

end Paths

mutual

/-- A key reads every location inside a value, by induction on the value. -/
theorem key_abides : (value : Value) → value.Fits watch begun → Abides watch begun value.key
  | .file value, _ => .bind value.name_abides fun _ => .pure _
  | .location _, issued =>
      .bind (Location.key_abides issued) fun _ => .pure _
  | .range value, _ => .bind value.key_abides fun _ => .pure _
  | .loose _ _, _ => .bind (.ofExcept _) fun _ => .pure _
  | .command _, _ => .ofExcept _
  | .record _ _ fields, fits => .bind (fieldKeys_abides fields fits) fun _ => .pure _
  | .tuple _ items, fits => .bind (itemKeys_abides items fits) fun _ => .pure _
  | .list _ _, _ | .slot _, _ => .throw _
  | .nothing, _ | .bool _, _ | .int _, _ | .text _ _, _ | .bytes _ _, _ | .member _, _
  | .kind _ _ _, _ | .flags _ _ _, _ | .holder _, _ | .unsaved _, _ | .cursor _, _
  | .token _, _ | .view _ _, _ => .pure _

theorem itemKeys_abides : (items : List Value) →
    ItemsFit watch begun items → Abides watch begun (itemKeys items)
  | [], _ => .pure _
  | item :: items, fits =>
      .bind (key_abides item fits.1) fun _ =>
        .bind (itemKeys_abides items fits.2) fun _ => .pure _

theorem fieldKeys_abides : (fields : List (String × Value)) →
    FieldsFit watch begun fields → Abides watch begun (fieldKeys fields)
  | [], _ => .pure _
  | (_, value) :: fields, fits =>
      .bind (key_abides value fits.1) fun _ =>
        .bind (fieldKeys_abides fields fits.2) fun _ => .pure _

end

end Recording

end Value
end Custody
