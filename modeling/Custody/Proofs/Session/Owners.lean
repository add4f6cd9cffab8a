import Custody.Proofs.Session.Outcomes
import Custody.Session.Unit

/-!
# Owners

What is read from a file, location, range, cursor, token or unit names the same owner,
in whatever state the session is.
-/

namespace Custody

namespace Facade

variable {α β : Type}

/-- If an operation succeeds in a session, what it leaves is of a certain kind. -/
def Gives (session : Session) (action : Facade α) (fits : Session → α → Prop) : Prop :=
  ∀ value after, action.outcome session = (.ok value, after) → fits after value

/-- Whenever an operation succeeds, its value is of a certain kind. -/
def Always (action : Facade α) (fits : α → Prop) : Prop :=
  ∀ session, Gives session action fun _ => fits

namespace Gives

variable {session : Session}

theorem pure {fits : Session → α → Prop} {value : α} (holds : fits session value) :
    Gives session (Pure.pure value) fits := by
  rintro _ _ ⟨⟩
  exact holds

theorem throw {fits : Session → α → Prop} (failure : Failure) :
    Gives session (MonadExcept.throw failure) fits := by
  rintro _ _ ⟨⟩

/-- What comes after may use what the first operation has left. -/
theorem bind
    {action : Facade α}
    {next : α → Facade β}
    {middle : Session → α → Prop}
    {fits : Session → β → Prop}
    (first : Gives session action middle)
    (rest : ∀ value later, middle later value → Gives later (next value) fits) :
    Gives session (action >>= next) fits := by
  intro value after succeeded
  rw [outcome_bind] at succeeded
  rcases reached : action.outcome session with ⟨result, later⟩
  rw [reached] at succeeded
  cases result with
  | error failure => cases succeeded
  | ok found => exact rest found later (first found later reached) value after succeeded

/-- What is given may be weakened. -/
theorem mono {action : Facade α} {fits weaker : Session → α → Prop}
    (first : Gives session action fits)
    (weakens : ∀ later value, fits later value → weaker later value) :
    Gives session action weaker :=
  fun value after succeeded => weakens after value (first value after succeeded)

/-- Looking up a holder changes nothing. -/
theorem holder (number : Nat) :
    Gives session (Facade.holder number) fun later record =>
      later = session ∧ session.estate.get? number = some record := by
  intro record after succeeded
  rw [holder_outcome] at succeeded
  cases found : session.estate.get? number with
  | none =>
      rw [found] at succeeded
      cases succeeded
  | some other =>
      rw [found] at succeeded
      cases succeeded
      exact ⟨rfl, rfl⟩

/-- A computed result leaves the session as it is. -/
theorem ofExcept (result : Except Failure α) :
    Gives session (Facade.ofExcept result) fun later value =>
      later = session ∧ result = .ok value := by
  cases result with
  | error failure => rintro _ _ ⟨⟩
  | ok value => exact .pure ⟨rfl, rfl⟩

/-- Asking for a handle changes nothing. -/
theorem handle (number : Nat) :
    Gives session (Facade.handle number) fun later handle =>
      later = session ∧ session.estate.handle? number = some handle := by
  refine (Gives.holder number).bind ?_
  rintro record _ ⟨rfl, present⟩
  split
  · next handle held => exact .pure ⟨rfl, Estate.handle?_eq_some_iff.mpr ⟨record, present, held⟩⟩
  · exact .throw _

/-- Only the last of several operations matters. -/
theorem last {action : Facade α} {next : α → Facade β} {fits : Session → β → Prop}
    (rest : ∀ value later, Gives later (next value) fits) :
    Gives session (action >>= next) fits := by
  have first : Gives session action fun _ _ => True := fun _ _ _ => True.intro
  exact first.bind fun value later _ => rest value later

end Gives

namespace Always

theorem pure {fits : α → Prop} {value : α} (holds : fits value) : Always (Pure.pure value) fits :=
  fun _ => Gives.pure holds

theorem throw {fits : α → Prop} (failure : Failure) : Always (MonadExcept.throw failure) fits :=
  fun _ => Gives.throw failure

/-- What comes after may use what is always so of the first value. -/
theorem bind
    {action : Facade α}
    {next : α → Facade β}
    {middle : α → Prop}
    {fits : β → Prop}
    (first : Always action middle)
    (rest : ∀ value, middle value → Always (next value) fits) :
    Always (action >>= next) fits :=
  fun session => (first session).bind fun value later holds => rest value holds later

theorem mono {action : Facade α} {fits weaker : α → Prop} (first : Always action fits)
    (weakens : ∀ value, fits value → weaker value) : Always action weaker :=
  fun session => (first session).mono fun _ => weakens

theorem gives {action : Facade α} {fits : α → Prop} (always : Always action fits)
    (session : Session) : Gives session action fun _ => fits := always session

/-- Only the last of several operations matters. -/
theorem last {action : Facade α} {next : α → Facade β} {fits : β → Prop}
    (rest : ∀ value, Always (next value) fits) : Always (action >>= next) fits := by
  have first : Always action fun _ => True := fun _ _ _ _ => True.intro
  exact first.bind fun value _ => rest value

/-- Nothing follows after a failure. -/
theorem throwThen {next : α → Facade β} {fits : β → Prop} (failure : Failure) :
    Always (MonadExcept.throw failure >>= next) fits := by
  have first : Always (MonadExcept.throw failure : Facade α) fun _ => False := throw failure
  exact first.bind fun _ impossible => impossible.elim

/-- Each branch may use what the condition has decided. -/
theorem ite {condition : Prop} [Decidable condition] {first second : Facade α} {fits : α → Prop}
    (whenTrue : condition → Always first fits) (whenFalse : ¬ condition → Always second fits) :
    Always (if condition then first else second) fits := by
  split
  · next holds => exact whenTrue holds
  · next fails => exact whenFalse fails

/-- A value that comes out of a computed result is that result. -/
theorem ofExcept (result : Except Failure α) :
    Always (Facade.ofExcept result) fun value => result = .ok value := by
  cases result with
  | ok value => exact .pure rfl
  | error failure => exact .throw failure

/-- What is always so of each value is so of all of them. -/
theorem mapM {items : List α} {change : α → Facade β} {fits : β → Prop}
    (each : ∀ item ∈ items, Always (change item) fits) :
    Always (items.mapM change) fun values => ∀ value ∈ values, fits value := by
  induction items with
  | nil => exact .pure (by simp)
  | cons item rest inductionHypothesis =>
      rw [List.mapM_cons]
      refine (each item (by simp)).bind fun first holds => ?_
      refine (inductionHypothesis fun other member => each other (by simp [member])).bind ?_
      intro others allHold
      refine .pure fun value member => ?_
      rcases List.mem_cons.mp member with rfl | later
      · exact holds
      · exact allHold value later

/-- What is always so of a value is so of one that may be missing. -/
theorem optionMapM {item : Option α} {change : α → Facade β} {fits : β → Prop}
    (each : ∀ value, Always (change value) fits) :
    Always (item.mapM change) fun found => ∀ value, found = some value → fits value := by
  cases item with
  | none => exact .pure (by simp)
  | some value =>
      refine (each value).bind fun found holds => .pure ?_
      rintro _ ⟨⟩
      exact holds

end Always
end Facade

open Facade

namespace File

/-- An object for a file names the owner that it is made for. -/
theorem wrap_owner (native : FileHandle) (owner : Nat) :
    Always (wrap native owner) fun file => file.owner = owner := .last fun _ => .pure rfl

end File

namespace Location

/-- An object for a location names the owner that it is made for. -/
theorem wrap_owner (native : NativeLocation) (owner : Nat) :
    Always (wrap native owner) fun location => location.owner = owner := .last fun _ => .pure rfl

/-- Only a file of the unit passes the check. -/
theorem checkFile_owner (unit : Nat) (file : File) :
    Always (checkFile unit file) fun _ => file.owner = unit :=
  .ite (fun same => .pure same) fun _ => .throw _

/-- A location that is made in a file names the unit that the file names. -/
theorem placed_owner (unit : Nat) (file : File) (request : Handle → Library.Call NativeLocation) :
    Always (do
        checkFile unit file
        let handle ← Facade.handle unit
        checkPlace handle file
        wrap (← Facade.call (request handle)) unit) fun location =>
      location.owner = unit ∧ file.owner = unit := by
  refine (checkFile_owner unit file).bind fun _ same => .last fun _ => .last fun _ => .last ?_
  exact fun native => (wrap_owner native unit).mono fun _ owned => ⟨owned, same⟩

theorem ofPosition_owner (unit : Nat) (file : File) (line column : Int) :
    Always (ofPosition unit file line column) fun location =>
      location.owner = unit ∧ file.owner = unit := by
  unfold ofPosition
  split
  · exact .throwThen _
  · exact placed_owner unit file _

theorem ofOffset_owner (unit : Nat) (file : File) (offset : Int) :
    Always (ofOffset unit file offset) fun location =>
      location.owner = unit ∧ file.owner = unit := by
  unfold ofOffset
  split
  · exact .throwThen _
  · exact placed_owner unit file _

/-- The file of a location names the owner of the location, also if it was found before. -/
theorem expansion_owner {session : Session} (tidy : session.Tidy) (location : Location) :
    Gives session location.expansion fun _ expansion =>
      ∀ file, expansion.file = some file → file.owner = location.owner := by
  have looked : Gives session (get : Facade Session) fun later found =>
      later = session ∧ found = session := by
    rintro _ _ ⟨⟩
    exact ⟨rfl, rfl⟩
  refine looked.bind ?_
  rintro _ _ ⟨rfl, rfl⟩
  split
  · next expansion found =>
      obtain ⟨earlier, others, listed, _⟩ := List.lookup_eq_some_iff.mp found
      refine .pure fun file present => ?_
      exact (tidy (location, expansion) (by simp [listed]) file present).2
  · refine Always.gives (.last fun _ => .last fun native => ?_) _
    refine (Always.optionMapM fun file => File.wrap_owner file location.owner).bind ?_
    exact fun file owned => .last fun _ => .pure owned

end Location

namespace Range

/-- An object for a range names the owner that it is made for. -/
theorem wrap_owner (native : NativeRange) (owner : Nat) :
    Always (wrap native owner) fun range => range.owner = owner := .last fun _ => .pure rfl

/-- A range names the one owner of both locations. -/
theorem make_owner (start finish : Location) :
    Always (make start finish) fun range =>
      range.owner = start.owner ∧ range.owner = finish.owner := by
  unfold make
  split
  · exact .throwThen _
  · next same =>
      have same : start.owner = finish.owner := Decidable.not_not.mp same
      refine .last fun _ => (wrap_owner _ _).mono fun range owned => ⟨owned, ?_⟩
      rw [owned, same]

end Range

namespace Cursor

/-- An object for a cursor names the unit that it is made for. -/
theorem wrap_unit (native : Option NativeCursor) (unit : Nat) (visitedFrom : Option NativeCursor) :
    Always (wrap native unit visitedFrom) fun found =>
      ∀ cursor, found = some cursor → cursor.unit = unit := by
  cases native with
  | none => exact .pure (by simp)
  | some native =>
      refine .last fun _ => .pure ?_
      rintro _ ⟨⟩
      rfl

/-- The extent of a cursor names its unit. -/
theorem range_owner (cursor : Cursor) :
    Always cursor.range fun range => range.owner = cursor.unit :=
  .last fun _ => .last fun native => Range.wrap_owner native cursor.unit

/-- The location of a cursor names its unit. -/
theorem location_owner (cursor : Cursor) :
    Always cursor.location fun location => location.owner = cursor.unit :=
  .last fun _ => .last fun native => Location.wrap_owner native cursor.unit

/-- A related cursor names the same unit. -/
theorem related_unit (cursor : Cursor) (relation : Library.CursorModel → Option Nat) :
    Always (cursor.related relation) fun found =>
      ∀ other, found = some other → other.unit = cursor.unit :=
  .last fun _ => .last fun native => .last fun _ => wrap_unit native cursor.unit none

/-- The parent names the same unit, wherever it comes from. -/
theorem parent_unit (cursor : Cursor) :
    Always cursor.parent fun found => ∀ other, found = some other → other.unit = cursor.unit := by
  unfold parent
  split
  · exact wrap_unit _ cursor.unit none
  · exact related_unit cursor _

/-- All cursors of a visit name the unit that is visited. -/
theorem ofVisits_unit (unit : Nat) (visits : List Visit) :
    Always (ofVisits unit visits) fun found =>
      ∀ child ∈ found, ∀ cursor, child = some cursor → cursor.unit = unit :=
  .mapM fun visit _ => wrap_unit visit.cursor unit (some visit.parent)

/-- The children of a cursor name its unit. -/
theorem visitChildren_unit (cursor : Cursor) (visitor : Visitor) :
    Always (cursor.visitChildren visitor) fun answer =>
      ∀ child ∈ answer.1, ∀ found, child = some found → found.unit = cursor.unit :=
  .last fun visiting => (ofVisits_unit cursor.unit visiting.visits).bind fun _ all => .pure all

theorem children_unit (cursor : Cursor) :
    Always cursor.children fun children =>
      ∀ child ∈ children, ∀ found, child = some found → found.unit = cursor.unit :=
  (visitChildren_unit cursor collecting).bind fun _ all => .pure all

/-- A walk stays in the unit, by induction on its depth. -/
theorem walkWithin_unit (depth : Nat) (cursor : Cursor) :
    Always (cursor.walkWithin depth) fun cursors =>
      ∀ found ∈ cursors, found.unit = cursor.unit := by
  induction depth generalizing cursor with
  | zero => exact .throw _
  | succ depth inductionHypothesis =>
      refine (children_unit cursor).bind fun children all => ?_
      -- The predicate is given by hand: it can be read off neither the goal nor the walks.
      refine Always.bind (@Always.mapM _ _ children _
        (fun cursors => ∀ found ∈ cursors, found.unit = cursor.unit) fun child member => ?_)
        fun lists allBelow => .pure fun found member => ?_
      · cases child with
        | none => exact .throw _
        | some child =>
            have same := all _ member child rfl
            refine (inductionHypothesis child).mono fun cursors allBelow found listed => ?_
            rw [allBelow found listed, same]
      rcases List.mem_cons.mp member with rfl | lower
      · rfl
      · obtain ⟨cursors, listed, present⟩ := List.mem_flatten.mp lower
        exact allBelow cursors listed found present

/-- All cursors of a walk name one unit. -/
theorem walk_unit (cursor : Cursor) :
    Always cursor.walk fun cursors => ∀ found ∈ cursors, found.unit = cursor.unit :=
  .last fun _ => walkWithin_unit _ cursor

end Cursor

namespace Token

/-- An object for a token names the unit that it is made for. -/
theorem wrap_unit (native : NativeToken) (unit : Nat) :
    Always (wrap native unit) fun token => token.unit = unit := .last fun _ => .pure rfl

/-- The location of a token names its unit. -/
theorem location_owner (token : Token) :
    Always token.location fun location => location.owner = token.unit :=
  .last fun _ => .last fun native => Location.wrap_owner native token.unit

/-- The extent of a token names its unit. -/
theorem range_owner (token : Token) :
    Always token.range fun range => range.owner = token.unit :=
  .last fun _ => .last fun native => Range.wrap_owner native token.unit

end Token

namespace CompilationUnit

/-- The root cursor names its unit. -/
theorem cursor_unit (unit : Nat) :
    Always (cursor unit) fun found => ∀ cursor, found = some cursor → cursor.unit = unit :=
  .last fun _ => .last fun root => .last fun _ => Cursor.wrap_unit root unit none

/-- A file that a unit finds names the unit. -/
theorem file_owner (unit : Nat) (path : Datum) :
    Always (file unit path) fun found => ∀ file, found = some file → file.owner = unit := by
  refine .last fun _ => .last fun _ => .last fun native => ?_
  split
  · exact .pure (by simp)
  · refine (File.wrap_owner _ unit).bind fun file owned => .pure ?_
    rintro _ ⟨⟩
    exact owned

/-- All tokens in an extent name the unit that was asked. -/
theorem tokensWithin_unit (unit : Nat) (extent : Range) :
    Always (tokens unit (some extent)) fun tokens => ∀ token ∈ tokens, token.unit = unit := by
  refine .ite (fun _ => .throwThen _) fun _ => .last fun _ => .last fun buffer => ?_
  split
  · exact .pure (by simp)
  · refine (Always.mapM fun token _ => Token.wrap_unit token unit).bind fun _ all => ?_
    exact .last fun _ => .pure all

/-- Without an extent the tokens name the unit as well. -/
theorem tokens_unit (unit : Nat) (extent : Option Range) :
    Always (tokens unit extent) fun tokens => ∀ token ∈ tokens, token.unit = unit := by
  cases extent with
  | some extent => exact tokensWithin_unit unit extent
  | none =>
      refine .last fun root => ?_
      cases root with
      | none => exact .throwThen _
      | some cursor => exact .last fun extent => tokensWithin_unit unit extent

/-- The tokens of a cursor name its unit. -/
theorem tokensOfCursor_unit (cursor : Cursor) :
    Always (tokensOfCursor cursor) fun tokens => ∀ token ∈ tokens, token.unit = cursor.unit :=
  .last fun extent => tokensWithin_unit cursor.unit extent

theorem visitChildren_unit (unit : Nat) (visitor : Visitor) :
    Always (visitChildren unit visitor) fun answer =>
      ∀ child ∈ answer.1, ∀ found, child = some found → found.unit = unit :=
  .last fun _ => .last fun _ => .last fun visiting =>
    (Cursor.ofVisits_unit unit visiting.visits).bind fun _ all => .pure all

theorem visitInclusions_owner (unit : Nat) (visitor : InclusionVisitor) :
    Always (visitInclusions unit visitor) fun answer => ∀ inclusion ∈ answer.1,
      inclusion.1.owner = unit ∧ ∀ location ∈ inclusion.2, location.owner = unit := by
  refine .last fun _ => .last fun visiting => Always.bind (.mapM ?_) fun _ all => .pure all
  rintro ⟨native, stack⟩ _
  refine (File.wrap_owner native unit).bind fun file owned => ?_
  refine (Always.mapM fun location _ => Location.wrap_owner location unit).bind fun _ all => ?_
  exact .pure ⟨owned, all⟩

end CompilationUnit

end Custody
