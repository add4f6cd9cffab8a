import Custody.Proofs.Scenario.Queries
import Custody.Proofs.Session.Owners

/-!
# Values within a unit

A value lies within a unit when every file, location, range, cursor, token and view of
diagnostics inside it names that unit.  Whatever an indexing run tells about a unit and
whatever is read from a value within the unit lies within it.
-/

namespace Custody

namespace Value

mutual

/-- All that a value is made of names a unit, and its holders are of a certain kind. -/
def Within (unit : Nat) (kin : Nat → Prop) : Value → Prop
  | .holder number => kin number
  | .file value => value.owner = unit
  | .location value => value.owner = unit
  | .range value => value.owner = unit
  | .cursor value => value.unit = unit
  | .token value => value.unit = unit
  | .view _ owner => owner = unit
  | .record _ _ fields => AreWithinFields unit kin fields
  | .list _ items => AreWithin unit kin items
  | .tuple _ items => AreWithin unit kin items
  | _ => True

/-- Several values lie within a unit. -/
def AreWithin (unit : Nat) (kin : Nat → Prop) : List Value → Prop
  | [] => True
  | value :: values => Within unit kin value ∧ AreWithin unit kin values

/-- The values of fields lie within a unit. -/
def AreWithinFields (unit : Nat) (kin : Nat → Prop) : List (String × Value) → Prop
  | [] => True
  | (_, value) :: fields => Within unit kin value ∧ AreWithinFields unit kin fields

end

end Value

open Facade

variable {unit : Nat} {kin : Nat → Prop}

namespace Value

/-- Several values lie within a unit together when each of them does. -/
theorem areWithin_iff {items : List Value} :
    AreWithin unit kin items ↔ ∀ item ∈ items, item.Within unit kin := by
  induction items with
  | nil => simp [AreWithin]
  | cons item rest inductionHypothesis => simp [AreWithin, inductionHypothesis]

/-- What is made of items lies within a unit if each does. -/
theorem within_of_mem_map {α : Type} {make : α → Value} {items : List α}
    (each : ∀ item ∈ items, (make item).Within unit kin) :
    ∀ value ∈ items.map make, value.Within unit kin := by
  intro value member
  obtain ⟨item, listed, rfl⟩ := List.mem_map.mp member
  exact each item listed

theorem areWithin_map {α : Type} {make : α → Value} {items : List α}
    (each : ∀ item ∈ items, (make item).Within unit kin) :
    AreWithin unit kin (items.map make) := areWithin_iff.mpr (within_of_mem_map each)

/-- A value that may be missing lies within a unit if it does when it is there. -/
theorem within_option {α : Type} {make : α → Value} {item : Option α}
    (each : ∀ value, item = some value → (make value).Within unit kin) :
    (option make item).Within unit kin := by
  cases item with
  | none => exact True.intro
  | some value => exact each value rfl

/-- Data name no unit, so they lie within any. -/
theorem within_ofDatum (serial : Nat) (datum : Datum) : (ofDatum serial datum).Within unit kin := by
  cases datum <;> exact True.intro

/-- What is found under a name lies within a unit if all fields do. -/
theorem within_of_lookup {fields : List (String × Value)} {name : String} {value : Value}
    (within : AreWithinFields unit kin fields) (found : fields.lookup name = some value) :
    value.Within unit kin := by
  induction fields with
  | nil => cases found
  | cons field rest inductionHypothesis =>
      obtain ⟨other, held⟩ := field
      rw [List.lookup_cons] at found
      split at found
      · cases found
        exact within.1
      · exact inductionHypothesis within.2 found

/-- A slice picks only what lies within the unit. -/
theorem areWithin_of_pick {items picked : List Value} {slice : Slice}
    (within : AreWithin unit kin items) (found : slice.pick items = .ok picked) :
    AreWithin unit kin picked := by
  rw [areWithin_iff] at within ⊢
  intro item member
  exact within item (Slice.mem_of_pick found member)

/-- A text names no unit. -/
theorem newText_within (value : Text) : Always (newText value) (Within unit kin) :=
  .last fun _ => .pure True.intro

/-- A string names no unit. -/
theorem newString_within (value : String) : Always (newString value) (Within unit kin) :=
  newText_within _

/-- A list of values within a unit lies within it. -/
theorem listOf_within {items : List Value} (within : AreWithin unit kin items) :
    Always (listOf items) (Within unit kin) := .last fun _ => .pure within

end Value

namespace Snapshot

open Value

variable (kin)

/-- The cursor of an event names the unit that is indexed. -/
theorem cursor_within (index : Option Nat) :
    Always (cursor unit index) fun found => (option .cursor found).Within unit kin :=
  .last fun _ => .last fun _ => (Cursor.wrap_unit _ unit none).mono fun _ named => within_option named

/-- The container of a declaration names the unit, if there is one. -/
theorem container_within (model : Library.ContainerModel) :
    Always (container unit model) fun found => (option .cursor found).Within unit kin := by
  cases model with
  | none => exact .pure True.intro
  | some index => exact cursor_within kin index

/-- The file of an event names the unit, if there is one. -/
theorem file_within (index : Option Nat) :
    Always (file unit index) fun found => (option .file found).Within unit kin := by
  cases index with
  | none => exact .pure True.intro
  | some index =>
      refine .last fun _ => .last fun _ => ?_
      exact (File.wrap_owner _ unit).bind fun file owned => .pure owned

/-- The location of an event names the unit. -/
theorem location_within (spot : Option Spot) :
    Always (location unit spot) fun location => (Value.location location).Within unit kin :=
  .last fun _ => .last fun _ => Location.wrap_owner _ unit

/-- The only object in an entity is its cursor. -/
theorem entity_within (model : Option Library.EntityModel) :
    Always (entity unit model) fun found => (option ofEntity found).Within unit kin := by
  cases model with
  | none => exact .pure True.intro
  | some model =>
      refine .last fun _ => (cursor_within kin model.cursor).bind fun cursor within => ?_
      refine .last fun _ => .pure ⟨True.intro, ?_, ?_, within, True.intro⟩
      · exact within_option fun _ _ => True.intro
      · exact within_option fun _ _ => True.intro

/-- All five parts of a declaration that name a unit name the one that is indexed. -/
theorem declaration_within (model : Library.DeclarationModel) :
    Always (declaration unit model) fun item => (ofDeclaration item).Within unit kin := by
  refine (cursor_within kin model.cursor).bind fun _ cursor => ?_
  refine (entity_within kin model.entity).bind fun _ entity => ?_
  refine (location_within kin model.spot).bind fun _ location => ?_
  refine (container_within kin model.semantic).bind fun _ semantic => ?_
  refine (container_within kin model.lexical).bind fun _ lexical => .last fun _ => .pure ?_
  exact ⟨cursor, entity, location, semantic, lexical, True.intro, True.intro, True.intro,
    True.intro, True.intro⟩

/-- All parts of a reference that name a unit name the one that is indexed. -/
theorem reference_within (model : Library.ReferenceModel) :
    Always (reference unit model) fun item => (ofReference item).Within unit kin := by
  refine .last fun _ => (cursor_within kin model.cursor).bind fun _ cursor => ?_
  refine (location_within kin model.spot).bind fun _ location => ?_
  refine (entity_within kin model.entity).bind fun _ referenced => ?_
  refine (entity_within kin model.parent).bind fun _ parent => ?_
  refine (container_within kin model.container).bind fun _ container => .last fun _ => .pure ?_
  exact ⟨True.intro, cursor, location, referenced, parent, container, True.intro⟩

/-- The file and the location of an inclusion name the unit. -/
theorem included_within (model : Library.IncludedModel) :
    Always (included unit model) fun item => (ofIncluded item).Within unit kin := by
  refine (file_within kin model.file).bind fun _ file => ?_
  refine (location_within kin model.spot).bind fun _ location => .last fun _ => .pure ?_
  exact ⟨True.intro, file, location, True.intro, True.intro, True.intro, True.intro⟩

/-- The file and the location of an import name the unit. -/
theorem imported_within (model : Library.ImportedModel) :
    Always (imported unit model) fun item => (ofImported item).Within unit kin := by
  refine (file_within kin model.file).bind fun _ file => ?_
  refine (location_within kin model.spot).bind fun _ location => .last fun _ => .pure ?_
  exact ⟨file, location, True.intro, True.intro⟩

/-- What a hook is told lies within the unit that is indexed. -/
theorem notice?_within {event : Library.Event} {snapshot : Facade Notice}
    (copied : notice? unit event = some snapshot) :
    Always snapshot fun notice => (ofNotice notice).Within unit kin := by
  cases event with
  | started =>
      cases copied
      exact .pure True.intro
  | mainFile file =>
      cases file with
      | none => cases copied
      | some index =>
          cases copied
          refine (file_within kin (some index)).bind fun found within => ?_
          cases found with
          | none => exact .throw _
          | some file => exact .pure within
  | diagnostics items =>
      cases items with
      | none => cases copied
      | some items =>
          cases copied
          refine .last fun items => .last fun _ => .pure (areWithin_map fun item _ => ?_)
          exact ⟨True.intro, True.intro, True.intro, True.intro⟩
  | included model =>
      cases copied
      exact (included_within kin model).bind fun _ within => .pure within
  | imported model =>
      cases copied
      exact (imported_within kin model).bind fun _ within => .pure within
  | declaration model =>
      cases copied
      exact (declaration_within kin model).bind fun _ within => .pure within
  | reference model =>
      cases copied
      exact (reference_within kin model).bind fun _ within => .pure within

end Snapshot

namespace IndexingRun

/-- All that the hooks were told lies within a unit. -/
def NoticesWithin (unit : Nat) (kin : Nat → Prop) (run : IndexingRun) : Prop :=
  ∀ notice ∈ run.notices, (Value.ofNotice notice).Within unit kin

/-- To ask a hook whether to abort tells nobody anything. -/
theorem NoticesWithin.query {run : IndexingRun} (within : run.NoticesWithin unit kin)
    (hooks : Hooks) : (run.query hooks).1.NoticesWithin unit kin := by
  unfold IndexingRun.query
  split
  · exact within
  · exact within
  · split <;> exact within

/-- A hook is told one more notice within the unit. -/
theorem NoticesWithin.tell {run : IndexingRun} (within : run.NoticesWithin unit kin)
    (hooks : Hooks) {notice : Notice} (new : (Value.ofNotice notice).Within unit kin) :
    (run.tell hooks notice).NoticesWithin unit kin := by
  unfold IndexingRun.tell
  split
  · exact within
  · intro other member
    rcases List.mem_append.mp member with old | last
    · exact within other old
    · rw [List.mem_singleton.mp last]
      exact new

/-- Delivering an event tells at most one notice, and that lies within the unit. -/
theorem NoticesWithin.deliver {run : IndexingRun} (within : run.NoticesWithin unit kin)
    (hooks : Hooks) (event : Library.Event) :
    (run.deliver hooks unit event).NoticesWithin unit kin := by
  unfold IndexingRun.deliver
  split
  · exact within
  · exact within
  · next snapshot _ copied =>
      split
      · exact within
      · next notice session succeeded =>
          have kept : NoticesWithin unit kin { run with session := session } := within
          exact kept.tell hooks (Snapshot.notice?_within kin copied run.session _ _ succeeded)

end IndexingRun

/-- Whatever the library reports, all that the hooks are told lies within the unit. -/
theorem IndexAction.index_within (kin : Nat → Prop) (action : Nat) (hooks : Hooks)
    (options : Datum) :
    Always (index action (.holder unit) hooks options) fun answer =>
      ∀ notice ∈ answer.1, (Value.ofNotice notice).Within unit kin := by
  have passed : Always (Facade.passed (.holder unit)) fun found => found.1 = unit :=
    .last fun _ => .pure rfl
  refine .last fun _ => .last fun _ => passed.bind ?_
  rintro ⟨number, handle⟩ rfl
  refine .last fun events => .last fun session => .last fun _ => ?_
  have begun : IndexingRun.NoticesWithin number kin ⟨session, 0, [], none⟩ := by
    rintro _ ⟨⟩
  have within : IndexingRun.NoticesWithin number kin
      (Library.report (IndexingRun.listener hooks number) hooks.installed
        session.library.reply.ignoreAbort events ⟨session, 0, [], none⟩) :=
    Library.report_preserves (fun _ within => within.query hooks)
      (fun event _ within => within.deliver hooks event) _ _ events begun
  split
  · exact .pure within
  · refine .ite (fun _ => .pure within) fun _ => .last fun _ => .pure within

namespace Value

section Parts

variable (self : kin unit)
include self

/-- The unit of a value within a unit is that unit. -/
theorem unit?_within : Always (Facade.unit? unit) fun found =>
    (option .holder found).Within unit kin := by
  refine .last fun record => ?_
  split
  · exact .pure self
  · exact .pure True.intro

/-- What is read from a location lies within its unit, as far as the session is tidy. -/
theorem locationPart_within {session : Session} (tidy : session.Tidy) {location : Location}
    (owned : location.owner = unit) (name : String) :
    Gives session (locationPart location name) fun _ => Within unit kin := by
  subst owned
  have plain {α : Type} {action : Facade α} {make : α → Value}
      (fine : ∀ value, (make value).Within location.owner kin) :
      Gives session (do return make (← action)) fun _ => Within location.owner kin :=
    (Always.last fun value => .pure (fine value)).gives session
  unfold locationPart
  split
  · refine (location.expansion_owner tidy).bind fun _ _ files => ?_
    exact .pure (within_option files)
  · exact plain fun _ => True.intro
  · exact plain fun _ => True.intro
  · exact plain fun _ => True.intro
  · exact ((unit?_within self).bind fun _ within => .pure within).gives session
  · exact plain fun _ => True.intro
  · exact plain fun _ => True.intro
  · exact .pure True.intro
  · exact .throw _

/-- Both ends of a range name its unit. -/
theorem rangePart_within {range : Range} (owned : range.owner = unit) (name : String) :
    Always (rangePart range name) (Within unit kin) := by
  subst owned
  unfold rangePart
  split
  · exact (Location.wrap_owner _ _).bind fun _ owned => .pure owned
  · exact (Location.wrap_owner _ _).bind fun _ owned => .pure owned
  · exact (unit?_within self).bind fun _ within => .pure within
  · exact .pure True.intro
  · exact .throw _

/-- Every cursor, range and location that is read from a cursor names its unit. -/
theorem cursorPart_within {cursor : Cursor} (named : cursor.unit = unit) (name : String) :
    Always (cursorPart cursor name) (Within unit kin) := by
  subst named
  have related (relation : Library.CursorModel → Option Nat) :
      Always (do return option .cursor (← cursor.related relation)) (Within cursor.unit kin) :=
    (cursor.related_unit relation).bind fun _ named => .pure (within_option named)
  unfold cursorPart
  split
  · exact .last fun _ => .pure True.intro
  · exact .last fun _ => newString_within _
  · exact .last fun _ => newString_within _
  · refine .last fun usr => ?_
    cases usr with
    | none => exact .pure True.intro
    | some usr => exact newString_within usr
  · exact cursor.range_owner.bind fun _ owned => .pure owned
  · exact cursor.location_owner.bind fun _ owned => .pure owned
  · exact .pure self
  · exact cursor.parent_unit.bind fun _ named => .pure (within_option named)
  · exact related _
  · exact related _
  · exact related _
  · exact related _
  · exact .last fun _ => .pure True.intro
  · refine cursor.children_unit.bind fun _ all => listOf_within (areWithin_map ?_)
    exact fun child listed => within_option (all child listed)
  · exact .throw _

/-- The range and the location of a token name its unit. -/
theorem tokenPart_within {token : Token} (named : token.unit = unit) (name : String) :
    Always (tokenPart token name) (Within unit kin) := by
  subst named
  unfold tokenPart
  split
  · exact .last fun _ => .pure True.intro
  · exact .last fun _ => newString_within _
  · exact token.location_owner.bind fun _ owned => .pure owned
  · exact token.range_owner.bind fun _ owned => .pure owned
  · exact .pure self
  · exact .throw _

omit self

/-- An unsaved file leads to its slot, and to nothing of a unit. -/
theorem unsavedPart_within (number : Nat) (name : String) :
    Always (unsavedPart number name) (Within unit kin) := by
  refine .last fun file => ?_
  split
  · exact newText_within _
  · exact newString_within _
  · exact .pure True.intro
  · exact .throw _

/-- A slot leads to bytes and a number. -/
theorem slotPart_within (number : Nat) (name : String) :
    Always (slotPart number name) (Within unit kin) := by
  refine .last fun file => ?_
  dsimp only
  split
  · exact .last fun _ => .pure (within_option fun _ _ => True.intro)
  · exact .last fun _ => .pure (within_option fun _ _ => True.intro)
  · exact .pure True.intro
  · exact .throw _

/-- What a record tells is part of it, the kind of its entity included. -/
theorem recordPart_within {fields : List (String × Value)}
    (within : AreWithinFields unit kin fields) (recordName name : String) :
    Always (recordPart recordName fields name) (Within unit kin) := by
  unfold recordPart
  split
  · next value found => exact .pure (within_of_lookup within found)
  · refine .ite (fun _ => ?_) fun _ => .throw _
    split
    · next entity present =>
        refine .pure ?_
        have inner : AreWithinFields unit kin entity := within_of_lookup within present
        cases found : entity.lookup "kind" with
        | none => exact True.intro
        | some kind => exact within_of_lookup inner found
    · exact .pure True.intro

include self in
/-- A part of a value within a unit lies within the unit, unless the value is a holder. -/
theorem ownPart_within {session : Session} (tidy : session.Tidy) {value : Value}
    (within : value.Within unit kin) (object : ∀ number, value ≠ .holder number) (name : String) :
    Gives session (value.ownPart name) fun _ => Within unit kin := by
  unfold ownPart
  split
  · exact absurd rfl (object _)
  · apply Always.gives
    split
    · exact .last fun _ => newString_within _
    · exact .last fun _ => .pure True.intro
    · exact .throw _
  · exact locationPart_within self tidy within name
  · exact (rangePart_within self within name).gives session
  · exact (cursorPart_within self within name).gives session
  · exact (tokenPart_within self within name).gives session
  · exact (unsavedPart_within _ name).gives session
  · exact (slotPart_within _ name).gives session
  · apply Always.gives
    split
    · exact newString_within _
    · exact .pure True.intro
    · exact .throw _
  · apply Always.gives
    split
    · exact newString_within _
    · exact .pure True.intro
    · exact .throw _
  · apply Always.gives
    split
    · exact .last fun _ => .pure (within_option fun _ _ => True.intro)
    · exact .pure True.intro
    · exact .throw _
  · split
    · exact .pure (within_ofDatum _ _)
    · exact .pure (within_ofDatum _ _)
    · exact .pure (areWithin_map fun _ _ => within_ofDatum _ _)
    · exact .throw _
  · exact (recordPart_within within _ name).gives session
  · exact .throw _

end Parts

section Sequences

/-- What an index finds is one of the items. -/
theorem itemOr_mem {α : Type} (failure : Failure) (items : List α) (index : Int) :
    Always (itemOr failure items index) fun item => item ∈ items := by
  refine .ite (fun _ => .throw _) fun _ => ?_
  split
  · next item found => exact .pure (Sequence.mem_of_item? found)
  · exact .throw _

/-- What a mapping has under a key is data. -/
theorem entryAt_within (serial : Nat) (entries : List (Datum × Datum)) (key : Datum) :
    Always (entryAt serial entries key) (Within unit kin) := by
  unfold entryAt
  split
  · exact .throw _
  · exact .throw _
  · split
    · exact .pure (within_ofDatum _ _)
    · exact .throw _

/-- An index that is no integer finds plain data only. -/
theorem oddItem_within (index : Datum) (value : Value) :
    Always (value.oddItem index) (Within unit kin) := by
  unfold oddItem
  split
  · exact entryAt_within _ _ _
  · exact .throw _
  · exact .throw _
  · refine .last fun length => .ite (fun _ => .throw _) fun _ => ?_
    split <;> exact .throw _
  · exact .last fun _ => .throw _

variable {value : Value} (within : value.Within unit kin)
  (object : ∀ number, value ≠ .holder number) (listed : ∀ serial owner, value ≠ .view serial owner)
include within object listed

/-- An item of a value within a unit lies within it. -/
theorem item_within (index : Int) : Always (value.item index) (Within unit kin) := by
  unfold item
  split
  · exact (itemOr_mem _ _ index).mono fun _ member => areWithin_iff.mp within _ member
  · exact (itemOr_mem _ _ index).mono fun _ member => areWithin_iff.mp within _ member
  · exact .last fun _ => newText_within _
  · exact .last fun _ => .pure True.intro
  · exact .last fun _ => .pure (within_ofDatum _ _)
  · exact entryAt_within _ _ _
  · exact absurd rfl (listed _ _)
  · exact absurd rfl (object _)
  · exact .throw _

/-- A slice of a value within a unit lies within it. -/
theorem slice_within (bounds : Bounds) : Always (value.slice bounds) (Within unit kin) := by
  unfold slice
  split
  · refine .last fun slice => (Always.ofExcept _).bind fun picked found => ?_
    exact listOf_within (areWithin_of_pick within found)
  · refine .last fun slice => .last fun _ => (Always.ofExcept _).bind fun picked found => ?_
    exact .pure (areWithin_of_pick within found)
  · exact .last fun slice => .last fun _ => newText_within _
  · exact .last fun slice => .last fun _ => .last fun _ => .pure True.intro
  · exact .last fun slice => .last fun _ => .last fun _ => .pure True.intro
  · exact absurd rfl (listed _ _)
  · exact absurd rfl (object _)
  · exact .throw _

/-- Iterating over a value within a unit stays within it. -/
theorem items_within :
    Always value.items fun items => ∀ item ∈ items, Within unit kin item := by
  unfold items
  split
  · exact .pure (areWithin_iff.mp within)
  · exact .pure (areWithin_iff.mp within)
  · exact .mapM fun glyph _ => newText_within _
  · exact .pure (within_of_mem_map fun _ _ => True.intro)
  · exact .pure (within_of_mem_map fun _ _ => within_ofDatum _ _)
  · exact .pure (within_of_mem_map fun _ _ => within_ofDatum _ _)
  · exact .pure (within_of_mem_map fun _ _ => True.intro)
  · exact absurd rfl (listed _ _)
  · exact absurd rfl (object _)
  · exact .throw _

end Sequences

end Value
end Custody
