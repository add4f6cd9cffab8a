import Custody.Proofs.Session.Copies
import Custody.Scenario.Query

/-!
# Anchored values

A value of a scenario is anchored when all files, locations, ranges, cursors and
tokens inside it belong to the holders that they name.  Every query on an anchored
value yields an anchored value and does no more to the holdings than a course of
moves.
-/

namespace Custody

open Facade

namespace Value

mutual

/-- All that a value is made of belongs to its holders. -/
def Anchored (made : List Handle) : Value → Prop
  | .file value => value.Anchored made
  | .location value => value.Anchored made
  | .range value => value.Anchored made
  | .cursor value => value.Anchored made
  | .token value => value.Anchored made
  | .view _ unit => Holdings.IsMade made .unit unit
  | .record _ _ fields => AreAnchoredFields made fields
  | .list _ items => AreAnchored made items
  | .tuple _ items => AreAnchored made items
  | _ => True

/-- Several values are anchored. -/
def AreAnchored (made : List Handle) : List Value → Prop
  | [] => True
  | value :: values => Anchored made value ∧ AreAnchored made values

/-- The values of fields are anchored. -/
def AreAnchoredFields (made : List Handle) : List (String × Value) → Prop
  | [] => True
  | (_, value) :: fields => Anchored made value ∧ AreAnchoredFields made fields

end

variable {made later : List Handle}

/-- Several values are anchored together when each of them is. -/
theorem areAnchored_iff {items : List Value} :
    AreAnchored made items ↔ ∀ item ∈ items, item.Anchored made := by
  induction items with
  | nil => simp [AreAnchored]
  | cons item rest inductionHypothesis => simp [AreAnchored, inductionHypothesis]

mutual

/-- What is anchored stays so when more is made, by induction on the value. -/
theorem Anchored.mono (grown : made <+: later) :
    (value : Value) → value.Anchored made → value.Anchored later
  | .file _, anchored => File.Anchored.mono anchored grown
  | .location _, anchored => Location.Anchored.mono anchored grown
  | .range _, anchored => Range.Anchored.mono anchored grown
  | .cursor _, anchored => Cursor.Anchored.mono anchored grown
  | .token _, anchored => Token.Anchored.mono anchored grown
  | .view _ _, anchored => Holdings.IsMade.mono anchored grown
  | .record _ _ fields, anchored => AreAnchoredFields.mono grown fields anchored
  | .list _ items, anchored => AreAnchored.mono grown items anchored
  | .tuple _ items, anchored => AreAnchored.mono grown items anchored
  | .nothing, _ => True.intro
  | .bool _, _ => True.intro
  | .int _, _ => True.intro
  | .text _ _, _ => True.intro
  | .bytes _ _, _ => True.intro
  | .loose _ _, _ => True.intro
  | .member _, _ => True.intro
  | .kind _ _ _, _ => True.intro
  | .flags _ _ _, _ => True.intro
  | .holder _, _ => True.intro
  | .unsaved _, _ => True.intro
  | .slot _, _ => True.intro
  | .command _, _ => True.intro

theorem AreAnchored.mono (grown : made <+: later) :
    (items : List Value) → AreAnchored made items → AreAnchored later items
  | [], _ => True.intro
  | item :: items, anchored =>
      ⟨Anchored.mono grown item anchored.1, AreAnchored.mono grown items anchored.2⟩

theorem AreAnchoredFields.mono (grown : made <+: later) :
    (fields : List (String × Value)) → AreAnchoredFields made fields →
      AreAnchoredFields later fields
  | [], _ => True.intro
  | (_, value) :: fields, anchored =>
      ⟨Anchored.mono grown value anchored.1, AreAnchoredFields.mono grown fields anchored.2⟩

end

section Making

/-- A value that may be missing is anchored if it is when it is there. -/
theorem anchored_option {α : Type} {make : α → Value} {item : Option α}
    (each : ∀ value, item = some value → (make value).Anchored made) :
    (option make item).Anchored made := by
  cases item with
  | none => exact True.intro
  | some value => exact each value rfl

/-- Data name no holder. -/
theorem anchored_ofDatum (serial : Nat) (datum : Datum) : (ofDatum serial datum).Anchored made := by
  cases datum <;> exact True.intro

/-- What is made of items is anchored if each is. -/
theorem areAnchored_map {α : Type} {make : α → Value} {items : List α}
    (each : ∀ item ∈ items, (make item).Anchored made) : AreAnchored made (items.map make) := by
  rw [areAnchored_iff]
  intro value member
  obtain ⟨item, listed, rfl⟩ := List.mem_map.mp member
  exact each item listed

/-- A fix-it is anchored by its range. -/
theorem anchored_ofFixIt {fixIt : FixIt} (anchored : fixIt.range.Anchored made) :
    (ofFixIt fixIt).Anchored made := ⟨True.intro, anchored, True.intro⟩

/-- An entity is anchored by its cursor. -/
theorem anchored_ofEntity {entity : Entity} (anchored : entity.Anchored made) :
    (ofEntity entity).Anchored made :=
  ⟨True.intro, anchored_option fun _ _ => True.intro, anchored_option fun _ _ => True.intro,
    anchored_option anchored, True.intro⟩

/-- What a hook is told is anchored if the copied event is. -/
theorem anchored_ofNotice {notice : Notice} (anchored : notice.Anchored made) :
    (ofNotice notice).Anchored made := by
  cases notice with
  | started => exact True.intro
  | mainFile file => exact anchored
  | diagnostics serial items =>
      exact areAnchored_map fun item _ => ⟨True.intro, True.intro, True.intro, True.intro⟩
  | included item =>
      exact ⟨True.intro, anchored_option anchored.1, anchored.2, True.intro, True.intro, True.intro,
        True.intro⟩
  | imported item => exact ⟨anchored_option anchored.1, anchored.2, True.intro, True.intro⟩
  | declaration item =>
      obtain ⟨cursor, entity, location, semantic, lexical⟩ := anchored
      exact ⟨anchored_option cursor,
        anchored_option fun found present => anchored_ofEntity (entity found present), location,
        anchored_option semantic, anchored_option lexical, True.intro, True.intro, True.intro,
        True.intro, True.intro⟩
  | reference item =>
      obtain ⟨cursor, location, referenced, parent, container⟩ := anchored
      exact ⟨True.intro, anchored_option cursor, location,
        anchored_option fun found present => anchored_ofEntity (referenced found present),
        anchored_option fun found present => anchored_ofEntity (parent found present),
        anchored_option container, True.intro⟩

end Making

end Value

variable {holdings : Holdings}

/-- An operation runs and yields an anchored value. -/
def Facade.Yields (holdings : Holdings) (action : Facade Value) : Prop :=
  Runs holdings action fun made value => value.Anchored made

namespace Value

/-- A text names no holder. -/
theorem newText_reads (value : Text) :
    Reads holdings (newText value) fun value => value.Anchored holdings.made :=
  fresh_reads.bind fun _ _ => .pure True.intro

/-- A list is anchored by its items. -/
theorem listOf_reads {items : List Value} (anchored : AreAnchored holdings.made items) :
    Reads holdings (listOf items) fun value => value.Anchored holdings.made :=
  fresh_reads.bind fun _ _ => .pure anchored

/-- Reading an anchored value yields it. -/
theorem yields_of_reads {action : Facade Value}
    (first : Reads holdings action fun value => value.Anchored holdings.made) :
    Yields holdings action := first.runs fun _ anchored => anchored

theorem newText_yields (value : Text) : Yields holdings (newText value) :=
  yields_of_reads (newText_reads value)

theorem newString_yields (value : String) : Yields holdings (newString value) :=
  newText_yields _

theorem listOf_yields {items : List Value} (anchored : AreAnchored holdings.made items) :
    Yields holdings (listOf items) := yields_of_reads (listOf_reads anchored)

/-- Holders are not anchored themselves, so a list of them always is. -/
theorem holders_yields (numbers : List Nat) :
    Yields holdings (listOf (numbers.map .holder)) :=
  listOf_yields (areAnchored_map fun _ _ => True.intro)

section Narrowing

/-- To ask that a value is a holder uses no handle. -/
theorem asHolder_reads (value : Value) : Reads holdings value.asHolder fun _ => True := by
  unfold asHolder
  split
  · exact .pure True.intro
  · exact .throw _

/-- What a value is narrowed to is a holder of the wanted content. -/
theorem asWrapper_reads (wanted : Wrapper → Bool) (value : Value) :
    Reads holdings (value.asWrapper wanted) fun number =>
      ∃ record, holdings.estate.get? number = some record ∧ wanted record.content = true := by
  refine (asHolder_reads value).bind fun number _ => ?_
  refine (holder_reads number).bind fun record present => ?_
  exact .ite (fun fits => .pure ⟨record, present, fits⟩) fun _ => .throw _

theorem asIndex_reads (value : Value) : Reads holdings value.asIndex fun _ => True :=
  (asWrapper_reads _ value).trivial

theorem asAction_reads (value : Value) : Reads holdings value.asAction fun _ => True :=
  (asWrapper_reads _ value).trivial

theorem asDatabase_reads (value : Value) : Reads holdings value.asDatabase fun _ => True :=
  (asWrapper_reads _ value).trivial

/-- What was asked for by its sort was made for a handle of that sort. -/
theorem asWrapper_isMade (valid : holdings.Valid) {wanted : Wrapper → Bool} {sort : HandleKind}
    (sorted : ∀ wrapper, wanted wrapper = true → wrapper.sort = sort) (value : Value) :
    Reads holdings (value.asWrapper wanted) fun number =>
      Holdings.IsMade holdings.made sort number := by
  refine (asWrapper_reads wanted value).mono ?_
  rintro number ⟨record, present, fits⟩
  rw [← sorted record.content fits]
  exact valid.isMade_of_get? present

/-- A value that is narrowed to a unit was made for one. -/
theorem asUnit_reads (valid : holdings.Valid) (value : Value) :
    Reads holdings value.asUnit fun number => Holdings.IsMade holdings.made .unit number :=
  asWrapper_isMade valid (by rintro (_ | _) <;> simp [Wrapper.sort]) value

/-- A value that is narrowed to a diagnostic was made for one. -/
theorem asDiagnostic_reads (valid : holdings.Valid) (value : Value) :
    Reads holdings value.asDiagnostic fun number =>
      Holdings.IsMade holdings.made .diagnostic number :=
  asWrapper_isMade valid (by rintro (_ | _) <;> simp [Wrapper.sort]) value

/-- A file inside an anchored value is anchored. -/
theorem asFile_reads {value : Value} (anchored : value.Anchored holdings.made) :
    Reads holdings value.asFile fun file => file.Anchored holdings.made := by
  unfold asFile
  split
  · exact .pure anchored
  · exact .throw _

/-- A location inside an anchored value is anchored. -/
theorem asLocation_reads {value : Value} (anchored : value.Anchored holdings.made) :
    Reads holdings value.asLocation fun location => location.Anchored holdings.made := by
  unfold asLocation
  split
  · exact .pure anchored
  · exact .throw _

/-- A cursor inside an anchored value is anchored. -/
theorem asCursor_reads {value : Value} (anchored : value.Anchored holdings.made) :
    Reads holdings value.asCursor fun cursor => cursor.Anchored holdings.made := by
  unfold asCursor
  split
  · exact .pure anchored
  · exact .throw _

/-- A value that is narrowed to a command is that command. -/
theorem asCommand_reads (value : Value) :
    Reads holdings value.asCommand fun command => value = .command command := by
  unfold asCommand
  split
  · exact .pure rfl
  · exact .throw _

/-- The owner of a value is found without a handle. -/
theorem owner_reads (value : Value) : Reads holdings value.owner fun _ => True := by
  unfold owner
  split
  · exact .pure True.intro
  · exact .pure True.intro
  · exact .pure True.intro
  · refine (holder_reads _).bind fun record _ => ?_
    split
    · exact .pure True.intro
    · exact .pure True.intro
    · exact .throw _
  · exact .throw _

/-- An unsaved file is found without a handle. -/
theorem asUnsaved_reads (value : Value) : Reads holdings value.asUnsaved fun _ => True := by
  unfold asUnsaved
  split
  · refine Reads.get.bind fun session _ => ?_
    split
    · exact .pure True.intro
    · exact .throw _
  · exact .throw _

end Narrowing

end Value
end Custody
