import Custody.Proofs.Library.Forest
import Custody.Proofs.Session.Outcomes
import Custody.Session.Unit

/-!
# Visiting and walking

A visit of what is below a cursor calls its visitor on the lines of a listing: the
lines below a cursor at which it did not descend are passed over, and nothing
follows after it stopped, failed or gave an answer without meaning.  A walk goes
from the children of a cursor to their children and finds the same cursors.
-/

namespace Custody

open Library
open Facade

/-- A line as a call of a visitor. -/
def Library.Line.visit (line : Line) : Visit := ⟨some line.cursor, line.parent⟩

/-- A cursor without its serial. -/
def Cursor.unnumbered (cursor : Cursor) : Cursor := { cursor with serial := 0 }

/-- The cursor of a line as an object of a unit, without a serial. -/
def Library.Line.cursorIn (unit : Nat) (line : Line) : Cursor :=
  ⟨0, unit, line.cursor, some line.parent⟩

namespace Visitor

/-- What a visitor answers to the last of its calls. -/
def answer (visitor : Visitor) (calls : List Line) : Except Failure Library.VisitAnswer :=
  match visitor (calls.map Line.visit) with
  | .error failure => .error failure
  | .ok .null => .ok .descend
  | .ok datum =>
      if datum.integer? = some 0 then .ok .stop
      else if datum.integer? = some 1 then .ok .proceed
      else if datum.integer? = some 2 then .ok .descend
      else .error (.unknownMember "ChildVisitResult" datum.written)

/-- The calls of a visitor that goes through a listing, after certain calls before. -/
def calls (visitor : Visitor) : Option Nat → List Line → List Line → List Line
  | _, [], before => before
  | skipped, line :: rest, before =>
      if line.isHidden skipped then visitor.calls skipped rest before
      else
        match visitor.answer (before ++ [line]) with
        | .error _ => before ++ [line]
        | .ok .stop => before ++ [line]
        | .ok .proceed => visitor.calls (some line.depth) rest (before ++ [line])
        | .ok .descend => visitor.calls none rest (before ++ [line])

/-- The failure of the last call. -/
def failure (visitor : Visitor) (calls : List Line) : Option Failure :=
  match calls, visitor.answer calls with
  | [], _ => none
  | _, .ok _ => none
  | _, .error failure => some failure

/-- The visitor that asks to descend where another one gives no answer. -/
def recursing (visitor : Visitor) : Visitor := fun visits =>
  match visitor visits with
  | .ok .null => .ok (.int 2)
  | answer => answer

theorem meaning_of_ne_null {datum : Datum} (given : datum ≠ .null) :
    Visiting.meaning datum =
      if datum.integer? = some 0 then .ok .stop
      else if datum.integer? = some 1 then .ok .proceed
      else if datum.integer? = some 2 then .ok .descend
      else .error (.unknownMember "ChildVisitResult" datum.written) := by
  have looked : Visiting.meaning datum =
      (Codes.visitAnswers.ofDatum datum).map fun member =>
        if member.code = 0 then .stop else if member.code = 1 then .proceed else .descend := by
    unfold Visiting.meaning
    split
    · exact absurd rfl given
    · cases Codes.visitAnswers.ofDatum datum <;> rfl
  rw [looked]
  unfold Enumeration.ofDatum Enumeration.ofDatum?
  cases datum.integer? with
  | none => simp [Except.map, Codes.visitAnswers, Enumeration.counting]
  | some code =>
      by_cases isStop : code = 0
      · subst isStop; rfl
      by_cases isProceed : code = 1
      · subst isProceed; rfl
      by_cases isDescend : code = 2
      · subst isDescend; rfl
      have unknown : Codes.visitAnswers.ofCode? code = none := by
        simp [Enumeration.ofCode?, Enumeration.members, Codes.visitAnswers, Enumeration.counting]
        omega
      rw [Option.bind_some, unknown]
      simp [Except.map, isStop, isProceed, isDescend, Codes.visitAnswers, Enumeration.counting]

theorem answer_eq_bind (visitor : Visitor) (calls : List Line) :
    (visitor (calls.map Line.visit)).bind Visiting.meaning = visitor.answer calls := by
  unfold answer
  rcases visitor (calls.map Line.visit) with failure | datum
  · rfl
  · by_cases given : datum = .null
    · subst given
      rfl
    · change Visiting.meaning datum = _
      rw [meaning_of_ne_null given]
      cases datum <;> first | rfl | exact absurd rfl given

theorem bind_meaning_recursing (visitor : Visitor) (visits : List Visit) :
    (visitor.recursing visits).bind Visiting.meaning = (visitor visits).bind Visiting.meaning := by
  unfold recursing
  rcases visitor visits with failure | datum
  · rfl
  · cases datum <;> rfl

theorem failure_cases {visitor : Visitor} {calls : List Line} {failure : Failure}
    (failed : visitor.failure calls = some failure) :
    visitor (calls.map Line.visit) = .error failure ∨ failure.category = .value := by
  have answered : visitor.answer calls = .error failure := by
    unfold Visitor.failure at failed
    split at failed <;> simp_all
  unfold answer at answered
  split at answered
  · next thrown =>
      left
      cases answered
      exact thrown
  · cases answered
  · right
    split_ifs at answered
    cases answered
    rfl

/-- Going through a listing makes the calls of the visitor and keeps the failure of the last. -/
theorem scan_step
    (visitor : Visitor)
    (skipped : Option Nat)
    (lines before : List Line)
    (sound : visitor.failure before = none) :
    ∃ ended, ended ≠ .tooDeep ∧
      Library.scan (Visiting.step visitor) skipped lines ⟨before.map Line.visit, none⟩ =
        (⟨(visitor.calls skipped lines before).map Line.visit,
          visitor.failure (visitor.calls skipped lines before)⟩, ended) := by
  induction lines generalizing skipped before with
  | nil =>
      refine ⟨.complete, by simp, ?_⟩
      simp [Library.scan, calls, sound]
  | cons line rest inductionHypothesis =>
      by_cases isHidden : line.isHidden skipped
      · simpa [Library.scan, calls, isHidden] using inductionHypothesis skipped before sound
      have called : before.map Line.visit ++ [⟨some line.cursor, line.parent⟩] =
          (before ++ [line]).map Line.visit := by simp [Line.visit]
      simp only [Library.scan, calls, isHidden, Visiting.step, called, answer_eq_bind]
      have nonempty : before ++ [line] ≠ [] := by simp
      rcases answered : visitor.answer (before ++ [line]) with failed | answer
      · refine ⟨.stopped, by simp, ?_⟩
        simp [failure, answered]
      have soundNow : visitor.failure (before ++ [line]) = none := by
        simp [failure, answered]
      cases answer with
      | stop =>
          refine ⟨.stopped, by simp, ?_⟩
          simp [soundNow]
      | proceed => exact inductionHypothesis (some line.depth) (before ++ [line]) soundNow
      | descend => exact inductionHypothesis none (before ++ [line]) soundNow

/-- A visitor that always descends is called on every line. -/
theorem calls_of_descending {visitor : Visitor} {lines : List Line} (before : List Line)
    (descending : ∀ calls, visitor.answer calls = .ok .descend) :
    visitor.calls none lines before = before ++ lines := by
  induction lines generalizing before with
  | nil => simp [calls]
  | cons line rest inductionHypothesis =>
      simp [calls, Line.isHidden, descending, inductionHypothesis]

end Visitor

/-- Sessions with the same holders, in which the units have the same contents. -/
structure Session.Alike (session later : Session) : Prop where
  estate : later.estate = session.estate
  models : later.library.unitModel = session.library.unitModel

namespace Session.Alike

variable {session middle later : Session}

protected theorem refl (session : Session) : session.Alike session := ⟨rfl, rfl⟩

protected theorem trans (first : session.Alike middle) (second : middle.Alike later) :
    session.Alike later :=
  ⟨second.estate.trans first.estate, second.models.trans first.models⟩

theorem childCursors (alike : session.Alike later) :
    later.library.childCursors = session.library.childCursors := by
  funext cursor
  unfold Library.State.childCursors Library.State.cursorModel Library.State.nativeCursor
  rw [alike.models]

theorem nativeCursor (alike : session.Alike later) :
    later.library.nativeCursor = session.library.nativeCursor := by
  funext unit index
  unfold Library.State.nativeCursor
  rw [alike.models]

theorem hasCursor (alike : session.Alike later) :
    later.library.hasCursor = session.library.hasCursor := by
  funext cursor
  unfold Library.State.hasCursor
  rw [alike.models]

theorem depthBound (alike : session.Alike later) :
    later.library.depthBound = session.library.depthBound := by
  funext unit
  unfold Library.State.depthBound
  rw [alike.models]

/-- A session after a handle was used. -/
theorem use (session : Session) (handle : Handle) :
    session.Alike { session with
      library := (Id.run (StateT.run (Library.Call.use handle) session.library)).2 } := by
  have used : (Id.run (StateT.run (Library.Call.use handle) session.library)).2 =
      if session.library.isGood handle then session.library
      else { session.library with strays := session.library.strays ++ [handle] } := rfl
  refine ⟨rfl, ?_⟩
  rw [used]
  split <;> rfl

end Session.Alike

namespace Cursor

variable {session : Session}

theorem checkPresent_outcome {native : NativeCursor} (present : session.library.hasCursor native) :
    (checkPresent native).outcome session = (.ok (), session) := by
  unfold checkPresent
  rw [outcome_bind_of_ok (outcome_get session), if_pos present, outcome_pure]

/-- A visit of what is below a cursor that is not too deep. -/
theorem visitFrom_outcome
    {unit : Nat}
    {native : NativeCursor}
    {visitor : Visitor}
    {visiting : Visiting}
    {ended : Library.VisitEnd}
    (opened : session.estate.isOpen unit = true)
    (present : session.library.hasCursor native = true)
    (visited : Library.visitBelow session.library.childCursors (Visiting.step visitor)
      (session.library.depthBound native.unit) native .start = (visiting, ended))
    (fits : ended ≠ .tooDeep) :
    ∃ later, session.Alike later ∧
      (visitFrom unit (some native) visitor).outcome session = (.ok visiting, later) := by
  have alike := Session.Alike.use session native.unit
  refine ⟨_, alike, ?_⟩
  unfold visitFrom
  have checked : ((some native).forM checkPresent).outcome session = (.ok (), session) :=
    checkPresent_outcome present
  rw [outcome_bind_of_ok (ensureOpen_outcome_of_open opened), outcome_bind_of_ok checked]
  have called : (call (Library.Call.visitChildren (some native) (Visiting.step visitor)
      .start)).outcome session = (.ok (visiting, ended), { session with
        library := (Id.run (StateT.run (Library.Call.use native.unit) session.library)).2 }) := by
    rw [outcome_call, ← visited, ← alike.childCursors, ← alike.depthBound]
    rfl
  rw [outcome_bind_of_ok called]
  simp [fits]

/-- The cursors of visited lines. -/
theorem ofVisits_outcome (unit : Nat) (lines : List Line) (session : Session) :
    ∃ (found : List Cursor) (later : Session), session.Alike later ∧
      (ofVisits unit (lines.map Line.visit)).outcome session = (.ok (found.map some), later) ∧
      found.map unnumbered = lines.map (Line.cursorIn unit) := by
  induction lines generalizing session with
  | nil => exact ⟨[], session, .refl session, rfl, rfl⟩
  | cons line rest inductionHypothesis =>
      let first : Cursor := ⟨session.nextSerial, unit, line.cursor, some line.parent⟩
      let middle : Session := { session with nextSerial := session.nextSerial + 1 }
      obtain ⟨found, later, alike, others, same⟩ := inductionHypothesis middle
      have wrapped : (wrap line.visit.cursor unit (some line.visit.parent)).outcome session =
          (.ok (some first), middle) := rfl
      have numbered : session.Alike middle := ⟨rfl, rfl⟩
      refine ⟨first :: found, later, numbered.trans alike, ?_, ?_⟩
      · unfold ofVisits at others ⊢
        rw [List.map_cons, List.mapM_cons, outcome_bind_of_ok wrapped, outcome_bind_of_ok others]
        rfl
      · rw [List.map_cons, List.map_cons, same]
        rfl

/-- A visit in a session called its visitor on certain lines, in order, and failed or not. -/
def Visited
    (session : Session)
    (visit : Facade (List (Option Cursor) × Option Failure))
    (unit : Nat)
    (calls : List Line)
    (failure : Option Failure) : Prop :=
  ∃ (found : List Cursor) (later : Session),
    visit.outcome session = (.ok (found.map some, failure), later) ∧
    found.map unnumbered = calls.map (Line.cursorIn unit) ∧ session.Alike later

theorem Visited.of_visitFrom
    (unit : Nat)
    {visit : Facade Visiting}
    {calls : List Line}
    {failure : Option Failure}
    {middle : Session}
    (alike : session.Alike middle)
    (visited : visit.outcome session = (.ok ⟨calls.map Line.visit, failure⟩, middle)) :
    Visited session (do
      let visiting ← visit
      return (← ofVisits unit visiting.visits, visiting.failure)) unit calls failure := by
  obtain ⟨found, later, further, wrapped, same⟩ := ofVisits_outcome unit calls middle
  refine ⟨found, later, ?_, same, alike.trans further⟩
  rw [outcome_bind_of_ok visited, outcome_bind_of_ok wrapped]
  rfl

theorem visitFrom_of_spreads
    {unit : Nat}
    {native : NativeCursor}
    {forest : Forest}
    (opened : session.estate.isOpen unit = true)
    (present : session.library.hasCursor native = true)
    (spreads : forest.Spreads session.library.childCursors (session.library.childCursors native))
    (low : forest.height < session.library.depthBound native.unit)
    (visitor : Visitor) :
    ∃ later, session.Alike later ∧
      (visitFrom unit (some native) visitor).outcome session =
        (.ok ⟨(visitor.calls none (forest.listing 0 native) []).map Line.visit,
          visitor.failure (visitor.calls none (forest.listing 0 native) [])⟩, later) := by
  obtain ⟨ended, fits, scanned⟩ := visitor.scan_step none (forest.listing 0 native) [] rfl
  refine visitFrom_outcome opened present ?_ fits
  rw [Library.visitBelow_eq_scan spreads low]
  exact scanned

section Spreading

variable
    {cursor : Cursor}
    {forest : Forest}
    (opened : session.estate.isOpen cursor.unit = true)
    (present : session.library.hasCursor cursor.native = true)
    (spreads : forest.Spreads session.library.childCursors
      (session.library.childCursors cursor.native))
    (low : forest.height < session.library.depthBound cursor.native.unit)
include opened present spreads low

/-- A visit calls the visitor on the listing of what is below its start. -/
theorem Visited.of_spreads (visitor : Visitor) :
    Visited session (cursor.visitChildren visitor) cursor.unit
      (visitor.calls none (forest.listing 0 cursor.native) [])
      (visitor.failure (visitor.calls none (forest.listing 0 cursor.native) [])) := by
  obtain ⟨later, alike, visited⟩ := visitFrom_of_spreads opened present spreads low visitor
  exact .of_visitFrom cursor.unit alike visited

/-- A visitor that never answers is called on the whole listing. -/
theorem Visited.of_descending :
    Visited session (cursor.visitChildren fun _ => .ok .null) cursor.unit
      (forest.listing 0 cursor.native) none := by
  let visitor : Visitor := fun _ => .ok .null
  have descending (calls : List Line) : visitor.answer calls = .ok .descend := rfl
  have peaceful : visitor.failure (forest.listing 0 cursor.native) = none := by
    unfold Visitor.failure
    split <;> simp_all
  have visited := Visited.of_spreads opened present spreads low visitor
  rw [Visitor.calls_of_descending [] descending, List.nil_append, peaceful] at visited
  exact visited

end Spreading

/-- Visiting a unit is visiting what is below its root, after the library was asked for the root. -/
theorem Visited.of_root
    {cursor : Cursor}
    {handle : Handle}
    {calls : List Line}
    {failure : Option Failure}
    {visitor : Visitor}
    (held : session.estate.handle? cursor.unit = some handle)
    (root : (session.library.unitModel handle).root.map (session.library.nativeCursor handle) =
      some cursor.native)
    (visited : ∀ asked, session.Alike asked →
      Visited asked (cursor.visitChildren visitor) cursor.unit calls failure) :
    Visited session (CompilationUnit.visitChildren cursor.unit visitor) cursor.unit calls
      failure := by
  let asked : Session := { session with
    library := (Id.run (StateT.run (Library.Call.use handle) session.library)).2 }
  have used : session.Alike asked := .use session handle
  have answered : (call (Library.Call.rootCursor handle)).outcome session =
      (.ok (some cursor.native), asked) := by
    rw [outcome_call, ← root, ← used.models, ← used.nativeCursor]
    rfl
  obtain ⟨found, later, outcome, same, further⟩ := visited asked used
  refine ⟨found, later, ?_, same, used.trans further⟩
  unfold CompilationUnit.visitChildren
  rw [outcome_bind_of_ok (handle_outcome_of_held held), outcome_bind_of_ok answered]
  exact outcome

/-- Giving no answer is asking to descend. -/
theorem visitFrom_recursing (unit : Nat) (start : Option NativeCursor) (visitor : Visitor) :
    visitFrom unit start visitor.recursing = visitFrom unit start visitor := by
  have same : Visiting.step visitor.recursing = Visiting.step visitor := by
    funext cursor parent visiting
    simp only [Visiting.step, visitor.bind_meaning_recursing]
  unfold visitFrom
  rw [same]

/-- Visiting what is below a cursor, or the cursors of a unit from its root, calls the visitor on
the depth-first listing: without what is below a cursor at which it answered to go on, and up to
the first call at which it stopped, failed or gave an answer without meaning.  The visit fails
exactly if its last call did, with that failure, and no answer counts as asking to descend. -/
theorem visitChildren_follows_listing
    {session : Session}
    {cursor : Cursor}
    (opened : session.estate.isOpen cursor.unit = true)
    (present : session.library.hasCursor cursor.native = true)
    (spreadable : session.library.Spreadable cursor.native)
    (visitor : Visitor) :
    ∃ forest : Forest,
      forest.Spreads session.library.childCursors
        (session.library.childCursors cursor.native) ∧
      let calls := visitor.calls none (forest.listing 0 cursor.native) []
      Visited session (cursor.visitChildren visitor) cursor.unit calls (visitor.failure calls) ∧
      (∀ handle, session.estate.handle? cursor.unit = some handle →
        (session.library.unitModel handle).root.map (session.library.nativeCursor handle) =
          some cursor.native →
        Visited session (CompilationUnit.visitChildren cursor.unit visitor) cursor.unit calls
          (visitor.failure calls)) ∧
      (∀ failure, visitor.failure calls = some failure →
        visitor (calls.map Line.visit) = .error failure ∨ failure.category = .value) ∧
      cursor.visitChildren visitor.recursing = cursor.visitChildren visitor := by
  obtain ⟨forest, spreads, low⟩ := spreadable.exists_forest
  have lower : forest.height < session.library.depthBound cursor.native.unit := by omega
  refine ⟨forest, spreads, ?_, ?_, ?_, ?_⟩
  · exact .of_spreads opened present spreads lower visitor
  · intro handle held root
    refine .of_root held root fun asked alike => .of_spreads ?_ ?_ ?_ ?_ visitor
    · rwa [alike.estate]
    · rwa [alike.hasCursor]
    · rwa [alike.childCursors]
    · rwa [alike.depthBound]
  · intro failure failed
    exact visitor.failure_cases failed
  · unfold visitChildren
    rw [visitFrom_recursing]

/-- A unit in which two of the cursors below the root share a child. -/
def diamond : Library.UnitModel :=
  { (default : Library.UnitModel) with
    root := some 0
    cursors := [[some 1, some 2], [some 3], [some 3], []].map fun children =>
      { (default : Library.CursorModel) with kind := 2, children := children } }

/-- A session in which that unit was parsed. -/
def diamondParsed : Session :=
  ((CompilationUnit.ofFile none (some (.text "a.c")) (some (.list [])) [] (.int 0)).outcome
    (.start ⟨[diamond], [], [], 0⟩ default default)).2

/-- The cursors of that unit. -/
def diamondCursor (index : Nat) : NativeCursor := ⟨2, .owned .unit 1, index⟩

/-- The root of that unit. -/
def diamondRoot : Cursor := ⟨0, 1, diamondCursor 0, none⟩

/-- A visitor that descends at first, then goes on, and then fails. -/
def faltering : Visitor := fun visits =>
  match visits.length with
  | 1 => .ok .null
  | 2 => .ok (.int 1)
  | _ => .error .noSuchPart

/-- The visitor is called on the first child, on the shared cursor below it and on the second
child, where it fails. -/
theorem faltering_follows_listing :
    Visited diamondParsed (diamondRoot.visitChildren faltering) 1
        [⟨0, diamondCursor 1, diamondCursor 0⟩, ⟨1, diamondCursor 3, diamondCursor 1⟩,
          ⟨0, diamondCursor 2, diamondCursor 0⟩] (some .noSuchPart) ∧
      Visited diamondParsed (CompilationUnit.visitChildren 1 faltering) 1
        [⟨0, diamondCursor 1, diamondCursor 0⟩, ⟨1, diamondCursor 3, diamondCursor 1⟩,
          ⟨0, diamondCursor 2, diamondCursor 0⟩] (some .noSuchPart) := by
  have opened : diamondParsed.estate.isOpen diamondRoot.unit = true := by decide +kernel
  have present : diamondParsed.library.hasCursor diamondRoot.native = true := by decide +kernel
  have spreadable : diamondParsed.library.Spreadable diamondRoot.native :=
    .of_isOrdered (by decide +kernel)
  obtain ⟨forest, spreads, ofCursor, ofUnit, _⟩ :=
    visitChildren_follows_listing opened present spreadable faltering
  obtain rfl : forest = .plant (diamondCursor 1) (.plant (diamondCursor 3) .empty .empty)
      (.plant (diamondCursor 2) (.plant (diamondCursor 3) .empty .empty) .empty) :=
    spreads.unique (.plant (.plant .empty .empty) (.plant (.plant .empty .empty) .empty))
  exact ⟨ofCursor, ofUnit (.owned .unit 1) (by decide +kernel) (by decide +kernel)⟩

/-- Visiting without descending goes through the roots alone. -/
theorem visitEach_collecting
    (below : NativeCursor → Visiting → Visiting × Library.VisitEnd)
    (parent : NativeCursor)
    (roots : List NativeCursor)
    (visits : List Visit) :
    Library.visitEach below (Visiting.step collecting) parent (roots.map some) ⟨visits, none⟩ =
      (⟨visits ++ roots.map fun root => ⟨some root, parent⟩, none⟩, .complete) := by
  induction roots generalizing visits with
  | nil => simp [Library.visitEach]
  | cons root rest inductionHypothesis =>
      have answered : Visiting.step collecting (some root) parent ⟨visits, none⟩ =
          (⟨visits ++ [⟨some root, parent⟩], none⟩, .proceed) := rfl
      rw [List.map_cons, Library.visitEach, answered]
      simp [inductionHypothesis]

/-- The children of a cursor as lines. -/
def rootLines (parent : NativeCursor) (roots : List NativeCursor) : List Line :=
  roots.map fun root => ⟨0, root, parent⟩

/-- The children of a cursor are the roots of the forest below it. -/
theorem children_outcome
    {cursor : Cursor}
    {roots : List NativeCursor}
    (opened : session.estate.isOpen cursor.unit = true)
    (present : session.library.hasCursor cursor.native = true)
    (listed : session.library.childCursors cursor.native = roots.map some) :
    ∃ (found : List Cursor) (later : Session), session.Alike later ∧
      cursor.children.outcome session = (.ok (found.map some), later) ∧
      found.map unnumbered = (rootLines cursor.native roots).map (Line.cursorIn cursor.unit) := by
  have visited : Library.visitBelow session.library.childCursors (Visiting.step collecting)
      (session.library.depthBound cursor.native.unit) cursor.native .start =
        (⟨(rootLines cursor.native roots).map Line.visit, none⟩, .complete) := by
    have first : Library.visitBelow session.library.childCursors (Visiting.step collecting)
        (session.library.depthBound cursor.native.unit) cursor.native .start =
          Library.visitEach _ (Visiting.step collecting) cursor.native
            (session.library.childCursors cursor.native) ⟨[], none⟩ := rfl
    rw [first, listed, visitEach_collecting]
    simp [rootLines, Line.visit]
  obtain ⟨middle, alike, outcome⟩ := visitFrom_outcome opened present visited (by simp)
  obtain ⟨found, later, outcome, same, alike⟩ :=
    Visited.of_visitFrom cursor.unit alike outcome
  refine ⟨found, later, alike, ?_, same⟩
  unfold children visitChildren
  rw [outcome_bind_of_ok outcome, outcome_pure]

/-- A cursor was found among the children of another one, which is what its parent is. -/
structure ChildOf (session : Session) (parent child : Cursor) : Prop where
  listed : ∃ (middle later : Session) (children : List (Option Cursor)), session.Alike middle ∧
    parent.children.outcome middle = (.ok children, later) ∧ some child ∈ children
  parent_eq : ∀ later : Session, ∃ (found : Cursor) (after : Session),
    child.parent.outcome later = (.ok (some found), after) ∧
      found.unit = parent.unit ∧ found.native = parent.native

theorem parent_outcome
    {child : Cursor}
    {native : NativeCursor}
    (visitedFrom : child.visitedFrom = some native)
    (later : Session) :
    child.parent.outcome later =
      (.ok (some ⟨later.nextSerial, child.unit, native, none⟩),
        { later with nextSerial := later.nextSerial + 1 }) := by
  unfold parent
  rw [visitedFrom]
  rfl

theorem ChildOf.of_children
    {middle later : Session}
    {parent child : Cursor}
    {children : List Cursor}
    {roots : List NativeCursor}
    (alike : session.Alike middle)
    (outcome : parent.children.outcome middle = (.ok (children.map some), later))
    (same : children.map unnumbered =
      (rootLines parent.native roots).map (Line.cursorIn parent.unit))
    (member : child ∈ children) : ChildOf session parent child := by
  have shown : child.unnumbered ∈ (rootLines parent.native roots).map
      (Line.cursorIn parent.unit) := by
    rw [← same]
    exact List.mem_map_of_mem member
  simp only [rootLines, List.map_map, List.mem_map, Function.comp_apply] at shown
  obtain ⟨root, _, equal⟩ := shown
  simp only [Line.cursorIn, unnumbered, Cursor.mk.injEq, true_and] at equal
  obtain ⟨unit, _, visitedFrom⟩ := equal
  refine ⟨⟨middle, later, _, alike, outcome, List.mem_map_of_mem member⟩, fun later => ?_⟩
  exact ⟨_, _, parent_outcome visitedFrom.symm later, unit.symm, rfl⟩

/-- What a walk does with a child. -/
def walkChild (depth : Nat) : Option Cursor → Facade (List Cursor)
  | some child => walkWithin depth child
  | none => throw .noSuchPart

theorem walkWithin_succ (depth : Nat) (cursor : Cursor) :
    cursor.walkWithin (depth + 1) = do
      let below ← (← cursor.children).mapM (walkChild depth)
      return cursor :: below.flatten := rfl

/-- Walking from the roots of a forest finds the cursors of its listing, and every one that is no
root is a child of one that is found. -/
theorem walkEach_outcome
    {base : Session}
    {unit : Nat}
    (opened : base.estate.isOpen unit = true)
    {forest : Forest}
    {list : List (Option NativeCursor)}
    (spreads : forest.Spreads base.library.childCursors list)
    {limit : Nat}
    (low : forest.height ≤ limit)
    {depth : Nat}
    {parent : NativeCursor}
    (present : ∀ line ∈ forest.listing depth parent, base.library.hasCursor line.cursor = true)
    {found : List Cursor}
    (shown : found.map unnumbered =
      (rootLines parent forest.roots).map (Line.cursorIn unit))
    {session : Session}
    (alike : base.Alike session) :
    ∃ (trees : List (List Cursor)) (later : Session), base.Alike later ∧
      ((found.map some).mapM (walkChild limit)).outcome session = (.ok trees, later) ∧
      trees.flatten.map unnumbered = (forest.listing depth parent).map (Line.cursorIn unit) ∧
      ∀ child ∈ trees.flatten, child ∈ found ∨ ∃ other ∈ trees.flatten, ChildOf base other child := by
  induction spreads generalizing limit depth parent found session with
  | empty =>
      have none : found = [] := by simpa [Forest.roots, rootLines] using shown
      subst none
      exact ⟨[], session, alike, rfl, rfl, by simp⟩
  | @plant root below rest others downward _ downwardHypothesis onwardHypothesis =>
      obtain ⟨cursor, siblings, rfl, first, following⟩ :
          ∃ cursor siblings, found = cursor :: siblings ∧
            cursor.unnumbered = ⟨0, unit, root, some parent⟩ ∧
            siblings.map unnumbered =
              (rootLines parent rest.roots).map (Line.cursorIn unit) := by
        cases found with
        | nil => simp [Forest.roots, rootLines] at shown
        | cons cursor siblings =>
            rw [Forest.roots, rootLines, List.map_cons, List.map_cons, List.map_cons,
              List.cons.injEq] at shown
            exact ⟨cursor, siblings, rfl, shown.1, shown.2⟩
      obtain rfl : cursor.unit = unit := congrArg Cursor.unit first
      obtain rfl : cursor.native = root := congrArg Cursor.native first
      have lowBelow : below.height + 1 ≤ limit := (le_max_left _ _).trans low
      have lowRest : rest.height ≤ limit := (le_max_right _ _).trans low
      obtain ⟨limit, rfl⟩ : ∃ lower, limit = lower + 1 := ⟨limit - 1, by omega⟩
      simp only [Forest.listing, List.mem_cons, List.mem_append] at present
      -- First the children of the cursor, then what is below them, then its siblings.
      have openedNow : session.estate.isOpen cursor.unit = true := by rwa [alike.estate]
      have presentNow : session.library.hasCursor cursor.native = true := by
        rw [alike.hasCursor]
        exact present _ (.inl rfl)
      have listedNow : session.library.childCursors cursor.native = below.roots.map some := by
        rw [alike.childCursors]
        exact downward.eq_roots
      obtain ⟨children, listedAt, alikeListed, listed, sameChildren⟩ :=
        children_outcome openedNow presentNow listedNow
      obtain ⟨subtrees, belowAt, alikeBelow, walkedBelow, sameBelow, fromBelow⟩ :=
        downwardHypothesis (Nat.le_of_succ_le_succ lowBelow) (fun line member => present line (.inr (.inl member)))
          sameChildren (alike.trans alikeListed)
      obtain ⟨trees, later, alikeLater, walked, sameRest, fromRest⟩ :=
        onwardHypothesis lowRest (fun line member => present line (.inr (.inr member)))
          following alikeBelow
      have walkedFirst : (walkChild (limit + 1) (some cursor)).outcome session =
          (.ok (cursor :: subtrees.flatten), belowAt) := by
        change (cursor.walkWithin (limit + 1)).outcome session = _
        rw [walkWithin_succ, outcome_bind_of_ok listed, outcome_bind_of_ok walkedBelow,
          outcome_pure]
      refine ⟨(cursor :: subtrees.flatten) :: trees, later, alikeLater, ?_, ?_, ?_⟩
      · rw [List.map_cons, List.mapM_cons, outcome_bind_of_ok walkedFirst,
          outcome_bind_of_ok walked, outcome_pure]
      · simp only [List.flatten_cons, List.cons_append, List.map_cons, List.map_append, sameBelow,
          sameRest, Forest.listing, first]
        rfl
      · intro child member
        simp only [List.flatten_cons, List.cons_append, List.mem_cons, List.mem_append] at member ⊢
        rcases member with rfl | member | member
        · exact .inl (.inl rfl)
        · right
          rcases fromBelow child member with isChild | ⟨other, known, isChild⟩
          · exact ⟨cursor, .inl rfl, .of_children alike listed sameChildren isChild⟩
          · exact ⟨other, .inr (.inl known), isChild⟩
        · rcases fromRest child member with sibling | ⟨other, known, isChild⟩
          · exact .inl (.inr sibling)
          · exact .inr ⟨other, .inr (.inr known), isChild⟩

/-- A walk from a cursor finds the cursor itself and then, in the same order, the cursors that a
visit hands to a visitor that always descends: of the same class, visited from the same cursors.
Every one of them was found among the children of its parent. -/
theorem walk_agrees_with_visit
    {session : Session}
    {cursor : Cursor}
    (opened : session.estate.isOpen cursor.unit = true)
    (present : ∀ reached, Relation.ReflTransGen session.library.IsChild cursor.native reached →
      session.library.hasCursor reached = true)
    (spreadable : session.library.Spreadable cursor.native) :
    ∃ (below visited : List Cursor) (afterWalk afterVisit : Session),
      cursor.walk.outcome session = (.ok (cursor :: below), afterWalk) ∧
      (cursor.visitChildren fun _ => .ok .null).outcome session =
        (.ok (visited.map some, none), afterVisit) ∧
      below.map unnumbered = visited.map unnumbered ∧
      below.map cursorClass = visited.map cursorClass ∧
      ∀ child ∈ below, ∃ parent ∈ cursor :: below, ChildOf session parent child := by
  obtain ⟨forest, spreads, low⟩ := spreadable.exists_forest
  have found := present cursor.native .refl
  have presentBelow : ∀ line ∈ forest.listing 0 cursor.native,
      session.library.hasCursor line.cursor = true := fun line member =>
    present _ (Library.State.reaches_of_mem_listing spreads (fun _ isChild => .single isChild)
      member)
  obtain ⟨visited, afterVisit, visitOutcome, sameVisited, _⟩ :=
    Visited.of_descending opened found spreads (by omega)
  -- The walk goes through the children and from them through the same listing.
  obtain ⟨limit, bound⟩ : ∃ limit, session.library.depthBound cursor.native.unit = limit + 1 :=
    ⟨_, rfl⟩
  have lower : forest.height ≤ limit := by omega
  obtain ⟨children, listedAt, alikeListed, listed, sameChildren⟩ :=
    children_outcome opened found spreads.eq_roots
  obtain ⟨trees, afterWalk, _, walked, sameWalked, fromWalked⟩ :=
    walkEach_outcome opened spreads lower presentBelow sameChildren alikeListed
  have same : trees.flatten.map unnumbered = visited.map unnumbered :=
    sameWalked.trans sameVisited.symm
  refine ⟨trees.flatten, visited, afterWalk, afterVisit, ?_, visitOutcome, same, ?_, ?_⟩
  · unfold walk
    rw [outcome_bind_of_ok (outcome_get session), bound, walkWithin_succ,
      outcome_bind_of_ok listed, outcome_bind_of_ok walked, outcome_pure]
  · have classes : cursorClass ∘ unnumbered = cursorClass := rfl
    rw [← classes, ← List.map_map, same, List.map_map]
  · intro child member
    rcases fromWalked child member with isChild | ⟨other, known, isChild⟩
    · exact ⟨cursor, by simp, .of_children (.refl session) listed sameChildren isChild⟩
    · exact ⟨other, by simp [known], isChild⟩

/-- Both ways lead over the shared cursor twice. -/
theorem diamond_walk_agrees :
    ∃ (below visited : List Cursor) (afterWalk afterVisit : Session),
      diamondRoot.walk.outcome diamondParsed = (.ok (diamondRoot :: below), afterWalk) ∧
      (diamondRoot.visitChildren fun _ => .ok .null).outcome diamondParsed =
        (.ok (visited.map some, none), afterVisit) ∧
      below.map unnumbered = visited.map unnumbered ∧
      below.map (fun cursor => cursor.native.index) = [1, 3, 2, 3] := by
  have opened : diamondParsed.estate.isOpen diamondRoot.unit = true := by decide +kernel
  have present : diamondParsed.library.hasCursor diamondRoot.native = true := by decide +kernel
  have ordered : (diamondParsed.library.unitModel diamondRoot.native.unit).isOrdered = true := by
    decide +kernel
  obtain ⟨below, visited, afterWalk, afterVisit, walked, wasVisited, same, _⟩ :=
    walk_agrees_with_visit opened
      (fun _ reached => Library.State.hasCursor_of_isOrdered ordered present reached)
      (.of_isOrdered ordered)
  refine ⟨below, visited, afterWalk, afterVisit, walked, wasVisited, same, ?_⟩
  have numbers : (diamondRoot.walk.outcome diamondParsed).1.toOption.map
      (List.map fun cursor => cursor.native.index) = some [0, 1, 3, 2, 3] := by decide +kernel
  rw [walked] at numbers
  simpa [Except.toOption, diamondRoot, diamondCursor] using numbers

end Cursor
end Custody
