import Custody.Proofs.Scenario.Misuse
import Custody.Proofs.Session.Requests

/-!
# Visits of inclusions

The library cannot be told to stop: it reports every inclusion of a unit.  A visitor that has
failed is not called again, and its first failure is what the visit ends with.  It is called
on objects of the unit, each with as many locations as the inclusion is deep.
-/

namespace Custody

/-- The inclusions of a unit, as the library reports them. -/
def Library.State.inclusionEvents (state : Library.State) (unit : Handle) :
    List CompilationUnit.NativeInclusion :=
  (state.unitModel unit).inclusions.map fun inclusion =>
    (⟨unit, state.modelNumber unit, inclusion.file⟩, inclusion.stack.map (state.locate unit))

/-- A session after some serials were used. -/
def Session.numbered (session : Session) (count : Nat) : Session :=
  { session with nextSerial := session.nextSerial + count }

theorem Session.numbered_numbered (session : Session) (first second : Nat) :
    (session.numbered first).numbered second = session.numbered (first + second) := by
  simp [Session.numbered, Nat.add_assoc]

namespace CompilationUnit

variable {visitor : InclusionVisitor} {events : List NativeInclusion}

/-- A visitor was called on the events in order, up to the first at which it failed. -/
structure InclusionVisiting.Latches (visitor : InclusionVisitor) (events : List NativeInclusion)
    (visiting : InclusionVisiting) : Prop where
  /-- The calls are about the events from the first on. -/
  inOrder : visiting.visits <+: events
  /-- No call but the last one fails. -/
  before : ∀ calls, calls ≠ [] → calls <+: visiting.visits → calls ≠ visiting.visits →
    visitor calls = none
  /-- The failure is that of the last call. -/
  failing : ∀ failure, visiting.failure = some failure →
    visiting.visits ≠ [] ∧ visitor visiting.visits = some failure
  /-- Without a failure there is a call for each event, and none fails. -/
  lasting : visiting.failure = none →
    visiting.visits = events ∧
      ∀ calls, calls ≠ [] → calls <+: visiting.visits → visitor calls = none

namespace InclusionVisiting

variable {visiting : InclusionVisiting}

theorem Latches.start (visitor : InclusionVisitor) : Latches visitor [] ⟨[], none⟩ where
  inOrder := List.prefix_rfl
  before := fun _ some initial _ => absurd (List.prefix_nil.mp initial) some
  failing := by simp
  lasting := fun _ => ⟨rfl, fun _ some initial => absurd (List.prefix_nil.mp initial) some⟩

/-- One more event is a call, unless the visitor has failed before. -/
theorem Latches.step (latches : Latches visitor events visiting) (event : NativeInclusion) :
    Latches visitor (events ++ [event])
      (InclusionVisiting.step visitor event.1 event.2 visiting) := by
  unfold InclusionVisiting.step
  cases failed : visiting.failure with
  | some failure =>
      exact {
        inOrder := latches.inOrder.trans (List.prefix_append _ _)
        before := latches.before
        failing := latches.failing
        lasting := fun none => by simp [failed] at none }
  | none =>
      obtain ⟨visited, quiet⟩ := latches.lasting failed
      rw [visited] at quiet
      simp only [visited]
      exact {
        inOrder := List.prefix_rfl
        before := fun calls some initial shorter =>
          quiet calls some ((List.prefix_concat_iff.mp initial).resolve_left shorter)
        failing := fun failure fails => ⟨by simp, fails⟩
        lasting := fun last => ⟨rfl, fun calls some initial => by
          rcases List.prefix_concat_iff.mp initial with rfl | earlier
          · exact last
          · exact quiet calls some earlier⟩ }

/-- A whole visit, from the first event to the last. -/
theorem Latches.visit (visitor : InclusionVisitor) (events : List NativeInclusion) :
    Latches visitor events
      (events.foldl
        (fun visiting event => InclusionVisiting.step visitor event.1 event.2 visiting)
        ⟨[], none⟩) := by
  induction events using List.reverseRecOn with
  | nil => exact .start visitor
  | append_singleton earlier event inductionHypothesis =>
      rw [List.foldl_append]
      exact inductionHypothesis.step event

theorem Latches.failure_eq_none_iff (latches : Latches visitor events visiting) :
    visiting.failure = none ↔
      ∀ calls, calls ≠ [] → calls <+: visiting.visits → visitor calls = none := by
  refine ⟨fun none => (latches.lasting none).2, fun quiet => ?_⟩
  cases failed : visiting.failure with
  | none => rfl
  | some failure =>
      obtain ⟨called, fails⟩ := latches.failing failure failed
      simp [quiet visiting.visits called List.prefix_rfl] at fails

end InclusionVisiting

/-- A step of a visit that also keeps a list of all that the library delivers to it. -/
def overhear (visitor : InclusionVisitor) (file : FileHandle) (stack : List NativeLocation)
    (heard : List NativeInclusion × InclusionVisiting) :
    List NativeInclusion × InclusionVisiting :=
  (heard.1 ++ [(file, stack)], InclusionVisiting.step visitor file stack heard.2)

theorem foldl_overhear (visitor : InclusionVisitor) (events heard : List NativeInclusion)
    (visiting : InclusionVisiting) :
    events.foldl (fun heard event => overhear visitor event.1 event.2 heard) (heard, visiting) =
      (heard ++ events, events.foldl
        (fun visiting event => InclusionVisiting.step visitor event.1 event.2 visiting)
          visiting) := by
  induction events generalizing heard visiting with
  | nil => simp
  | cons event rest inductionHypothesis =>
      rw [List.foldl_cons, overhear, inductionHypothesis, List.append_assoc]
      rfl

end CompilationUnit

/-- A visit by the library goes through all inclusions, whatever its visitor makes of them. -/
theorem Library.Call.visitInclusions_answers
    {σ : Type}
    {state : Library.State}
    {unit : Handle}
    (good : state.isGood unit = true)
    (visitor : FileHandle → List NativeLocation → σ → σ)
    (start : σ) :
    Answers state (visitInclusions unit visitor start)
      ((state.inclusionEvents unit).foldl
        (fun visited event => visitor event.1 event.2 visited) start) := by
  rw [Library.State.inclusionEvents, List.foldl_map]
  exact .useThen good (.bind .get (.pure _))

namespace CompilationUnit

open Facade

variable {session : Session}

/-- An inclusion made for a visitor is about what the library reported, and belongs to the
unit as a whole. -/
structure Reports (unit : Nat) (inclusion : Inclusion) (event : NativeInclusion) : Prop where
  file : inclusion.1.native = event.1
  fileOwner : inclusion.1.owner = unit
  stack : inclusion.2.map Location.native = event.2
  stackOwner : ∀ location ∈ inclusion.2, location.owner = unit

/-- There is one location for each that led to the file. -/
theorem Reports.depth {unit : Nat} {inclusion : Inclusion} {event : NativeInclusion}
    (reports : Reports unit inclusion event) : inclusion.2.length = event.2.length := by
  rw [← reports.stack, List.length_map]

/-- How many objects are made for some calls of a visitor: a file and the locations of each. -/
def objects : List NativeInclusion → Nat
  | [] => 0
  | visit :: rest => 1 + visit.2.length + objects rest

theorem wrapStack_outcome (unit : Nat) (stack : List NativeLocation) (session : Session) :
    ∃ locations : List Location,
      (stack.mapM fun location => Location.wrap location unit).outcome session =
          (.ok locations, session.numbered stack.length) ∧
        locations.map Location.native = stack ∧ ∀ location ∈ locations, location.owner = unit := by
  induction stack generalizing session with
  | nil => exact ⟨[], rfl, rfl, by simp⟩
  | cons native rest inductionHypothesis =>
      obtain ⟨locations, reached, same, owned⟩ := inductionHypothesis (session.numbered 1)
      have first : (Location.wrap native unit).outcome session =
          (.ok ⟨session.nextSerial, unit, native⟩, session.numbered 1) := rfl
      refine ⟨⟨session.nextSerial, unit, native⟩ :: locations, ?_, by rw [List.map_cons, same], ?_⟩
      · rw [List.mapM_cons, outcome_bind_of_ok first, outcome_bind_of_ok reached, outcome_pure,
          Session.numbered_numbered, List.length_cons, Nat.add_comm]
      · simpa using owned

/-- The objects for some calls of a visitor; only serials are used for them. -/
theorem wrapInclusions_outcome
    (unit : Nat)
    (visits : List NativeInclusion)
    (session : Session) :
    ∃ inclusions : List Inclusion,
      (visits.mapM fun (visit : NativeInclusion) => do
          let file ← File.wrap visit.1 unit
          return (file, ← visit.2.mapM fun location => Location.wrap location unit)).outcome
            session =
          (.ok inclusions, session.numbered (objects visits)) ∧
        List.Forall₂ (Reports unit) inclusions visits := by
  induction visits generalizing session with
  | nil => exact ⟨[], rfl, .nil⟩
  | cons visit rest inductionHypothesis =>
      obtain ⟨locations, stacked, same, owned⟩ := wrapStack_outcome unit visit.2
        (session.numbered 1)
      obtain ⟨inclusions, reached, reports⟩ := inductionHypothesis
        ((session.numbered 1).numbered visit.2.length)
      have first : (File.wrap visit.1 unit).outcome session =
          (.ok ⟨session.nextSerial, unit, visit.1⟩, session.numbered 1) := rfl
      refine ⟨(⟨session.nextSerial, unit, visit.1⟩, locations) :: inclusions, ?_,
        .cons ⟨rfl, rfl, same, owned⟩ reports⟩
      have wrapped : (do
          let file ← File.wrap visit.1 unit
          return (file, ← visit.2.mapM fun location => Location.wrap location unit)).outcome
            session = (.ok (⟨session.nextSerial, unit, visit.1⟩, locations),
              (session.numbered 1).numbered visit.2.length) := by
        rw [outcome_bind_of_ok first, outcome_bind_of_ok stacked, outcome_pure]
      rw [List.mapM_cons, outcome_bind_of_ok wrapped, outcome_bind_of_ok reached, outcome_pure,
        Session.numbered_numbered, Session.numbered_numbered, objects, Nat.add_assoc]

/-- What a visit of the inclusions of a unit comes to. -/
structure VisitsInclusions (session : Session) (unit : Nat) (upper : Handle)
    (visitor : InclusionVisitor) (visiting : InclusionVisiting) (inclusions : List Inclusion) :
    Prop where
  /-- It ends with the failure of the visitor, if any, and uses serials only. -/
  outcome : (visitInclusions unit visitor).outcome session =
    (.ok (inclusions, visiting.failure),
      session.numbered (objects visiting.visits))
  /-- The visitor is called in order, up to its first failure. -/
  latches : visiting.Latches visitor (session.library.inclusionEvents upper)
  /-- There is no failure only if no call failed. -/
  unfailing : visiting.failure = none ↔
    ∀ calls, calls ≠ [] → calls <+: visiting.visits → visitor calls = none
  /-- Each call is about the file and the whole stack of its event. -/
  reports : List.Forall₂ (Reports unit) inclusions visiting.visits
  /-- The library delivers all events nevertheless. -/
  delivers : (Library.Call.visitInclusions upper (overhear visitor) ([], ⟨[], none⟩)).Answers
    session.library (session.library.inclusionEvents upper, visiting)

theorem visitInclusions_visits
    {unit : Nat}
    {upper : Handle}
    (valid : session.holdings.Valid)
    (held : session.estate.handle? unit = some upper)
    (visitor : InclusionVisitor) :
    ∃ (visiting : InclusionVisiting) (inclusions : List Inclusion),
      VisitsInclusions session unit upper visitor visiting inclusions := by
  have good := session.isGood_of_held valid held
  let visiting := (session.library.inclusionEvents upper).foldl
    (fun visiting event => InclusionVisiting.step visitor event.1 event.2 visiting) ⟨[], none⟩
  have latches := InclusionVisiting.Latches.visit visitor (session.library.inclusionEvents upper)
  obtain ⟨inclusions, wrapped, reports⟩ := wrapInclusions_outcome unit visiting.visits session
  refine ⟨visiting, inclusions, ?_, latches, latches.failure_eq_none_iff, reports, ?_⟩
  · unfold visitInclusions
    rw [outcome_bind_of_ok (handle_outcome_of_held held), outcome_bind_of_ok
      (call_outcome_of_answers (Library.Call.visitInclusions_answers good _ _))]
    exact outcome_bind_of_ok wrapped _
  · have answers := Library.Call.visitInclusions_answers good (overhear visitor) ([], ⟨[], none⟩)
    rwa [foldl_overhear] at answers

end CompilationUnit

namespace Scenario

open CompilationUnit

/-- In every state that a scenario reaches, a visit of the inclusions of an open unit calls its
visitor on the events of the library up to its first failure, and ends with that. -/
theorem steps_visitInclusions
    (script : Library.Script)
    (settings : Settings)
    (storage : Storage)
    (steps : List Step)
    {unit : Nat}
    {upper : Handle}
    (held : ((State.start script settings storage).steps steps).1.session.estate.handle? unit =
      some upper)
    (visitor : InclusionVisitor) :
    ∃ (visiting : InclusionVisiting) (inclusions : List Inclusion),
      VisitsInclusions ((State.start script settings storage).steps steps).1.session unit upper
        visitor visiting inclusions :=
  visitInclusions_visits ((State.start_sound script settings storage).steps steps).valid held
    visitor

/-- A library that can parse a unit whose main file includes a second one, and that a third. -/
def nestedScript : Library.Script :=
  ⟨[{ (default : Library.UnitModel) with
      files := [default, default, default]
      inclusions := [⟨0, []⟩, ⟨1, [some ⟨0, 0⟩]⟩, ⟨2, [some ⟨1, 0⟩, some ⟨0, 0⟩]⟩] }], [], [], 0⟩

/-- The session after parsing that unit. -/
def nestedSession : Session :=
  ((State.start nestedScript .blank ⟨[]⟩).steps [parsingAs "unit"]).1.session

/-- A visitor that fails at the second call. -/
def stopping : InclusionVisitor := fun calls =>
  if calls.length = 2 then some (.hook "stop") else none

/-- Of the three inclusions the visitor is called on two, and the library reports the third one
all the same. -/
theorem nestedSession_visits :
    (nestedSession.library.inclusionEvents (.owned .unit 1)).map (fun event => event.2.length) =
        [0, 1, 2] ∧
      ∃ (visiting : InclusionVisiting) (inclusions : List Inclusion),
        VisitsInclusions nestedSession 1 (.owned .unit 1) stopping visiting inclusions ∧
          visiting.failure = some (.hook "stop") ∧
          inclusions.map (fun inclusion => inclusion.2.length) = [0, 1] := by
  have held : nestedSession.estate.handle? 1 = some (.owned .unit 1) := by decide +kernel
  obtain ⟨visiting, inclusions, visits⟩ := steps_visitInclusions nestedScript .blank ⟨[]⟩
    [parsingAs "unit"] held stopping
  have result : ((visitInclusions 1 stopping).outcome nestedSession).1.toOption.map
      (fun result => (result.1.map (fun inclusion => inclusion.2.length), result.2)) =
        some ([0, 1], some (.hook "stop")) := by decide +kernel
  have reached := visits.outcome
  refine ⟨by decide +kernel, visiting, inclusions, visits, ?_⟩
  change ((visitInclusions 1 stopping).outcome nestedSession) = _ at reached
  rw [reached] at result
  simpa [Except.toOption, and_comm] using result

end Scenario
end Custody
