import Custody.Proofs.Session.Outcomes
import Custody.Session.Indexing
import Mathlib.Data.List.Forall2

/-!
# The course of an indexing run

The library sends events and asks whether to stop, in any order.  A run follows these
signals up to the first one that fails: hooks are told of the events that they are
installed for, and queries are answered as the caller says.  After that no hook is
called and every query is answered with yes, and the run fails with that failure.
-/

namespace Custody

open Facade

namespace Library

/-- What the library sends to a listener: a query whether to stop, or an event. -/
inductive Signal
  | query
  | event (event : Event)

/-- Sends signals to a listener, events only if they have a callback: the answers to the queries in
order, and the state afterwards. -/
def Listener.hear {σ : Type} (listener : Listener σ) (installed : List Station) :
    List Signal → σ → List Bool × σ
  | [], state => ([], state)
  | .query :: rest, state =>
      let (state, answer) := listener.query state
      let (answers, state) := listener.hear installed rest state
      (answer :: answers, state)
  | .event event :: rest, state =>
      listener.hear installed rest
        (if installed.contains event.station then listener.deliver event state else state)

/-- The library that sends certain signals, whatever the unit and the answers. -/
def sending {σ : Type} (signals : List Signal) : Reporter σ :=
  fun listener installed _ _ state => (listener.hear installed signals state).2

/-- The number of queries among signals. -/
def queriesIn (signals : List Signal) : Nat :=
  signals.countP fun signal => match signal with
    | .query => true
    | .event _ => false

/-- Reporting events in order is sending some signals. -/
theorem exists_report_eq_sending
    {σ : Type}
    (listener : Listener σ)
    (installed : List Station)
    (ignoreAbort : Bool)
    (events : List Event)
    (state : σ) :
    ∃ signals, report listener installed ignoreAbort events state =
      sending signals listener installed ignoreAbort events state := by
  induction events generalizing state with
  | nil => exact ⟨[], rfl⟩
  | cons event rest inductionHypothesis =>
      rcases asked : listener.query state with ⟨reached, stop⟩
      by_cases ends : (stop && !ignoreAbort) = true
      · refine ⟨[.query], ?_⟩
        simp [report, sending, Listener.hear, asked, ends]
      · obtain ⟨signals, same⟩ := inductionHypothesis
          (if installed.contains event.station then listener.deliver event reached else reached)
        refine ⟨.query :: .event event :: signals, ?_⟩
        unfold sending at same ⊢
        simp only [report, Listener.hear, asked, ends]
        exact same

theorem Station.mem_all (station : Station) : station ∈ all := by cases station <;> decide

/-- Whether an event has what it is about. -/
def Event.hasPayload : Event → Bool
  | .mainFile none => false
  | .diagnostics none => false
  | _ => true

/-- The failure of a look-up. -/
def faultOf {α : Type} : Except Failure α → Option Failure
  | .ok _ => none
  | .error failure => some failure

/-- The failure of copying an entity: its kind is unknown. -/
def EntityModel.fault (model : EntityModel) : Option Failure :=
  faultOf (Codes.entityKinds.ofCode (signedWord model.kind))

/-- The failure of copying an event: the first kind or severity in it that is unknown. -/
def Event.fault : Event → Option Failure
  | .diagnostics (some items) =>
      items.findSome? fun item => faultOf (Codes.severities.ofCode item.severity)
  | .declaration model => model.entity.bind EntityModel.fault
  | .reference model =>
      (faultOf (Codes.referenceKinds.ofCode (signedWord model.kind))).or
        ((model.entity.bind EntityModel.fault).or (model.parent.bind EntityModel.fault))
  | _ => none

end Library

open Library (Signal Event)

namespace Hooks

/-- Whether the hook for an event is set and there is something to tell it. -/
def hears (hooks : Hooks) (event : Event) : Bool :=
  (hooks.hook event.station).isSome && event.hasPayload

/-- The events among signals that their hooks are told of. -/
def told (hooks : Hooks) (signals : List Signal) : List Event :=
  signals.filterMap fun signal => match signal with
    | .query => none
    | .event event => if hooks.hears event && event.fault.isNone then some event else none

/-- What a query is answered with, given the number of queries before. -/
def abortAnswer (hooks : Hooks) (earlier : Nat) : Bool :=
  match hooks.abortQuery with
  | none => false
  | some query =>
      match query earlier with
      | .ok stop => stop
      | .error _ => true

/-- The failure of a signal after other signals: of the query, of copying the event, or of the hook
that is told. -/
def failureAt (hooks : Hooks) (before : List Signal) : Signal → Option Failure
  | .query => hooks.abortQuery.bind fun query => Library.faultOf (query (Library.queriesIn before))
  | .event event =>
      if hooks.hears event then
        event.fault.or ((hooks.hook event.station).bind fun hook =>
          hook ((hooks.told before).countP fun other => other.station = event.station))
      else none

/-- Signals divided after the first one that fails, if there is one, with its failure. -/
structure Cut where
  live : List Signal
  rest : List Signal
  failure : Option Failure

/-- Divides signals that follow on others after the first one that fails. -/
def cut (hooks : Hooks) : List Signal → List Signal → Cut
  | before, [] => ⟨before, [], none⟩
  | before, signal :: rest =>
      match hooks.failureAt before signal with
      | none => hooks.cut (before ++ [signal]) rest
      | some failure => ⟨before ++ [signal], rest, some failure⟩

/-- The answers to the queries: as the caller says up to the cut, and yes after it. -/
def answers (hooks : Hooks) (cut : Cut) : List Bool :=
  (List.range (Library.queriesIn cut.live)).map hooks.abortAnswer ++
    List.replicate (Library.queriesIn cut.rest) true

theorem contains_installed (hooks : Hooks) (event : Event) :
    hooks.installed.contains event.station = (hooks.hook event.station).isSome := by
  have listed : event.station ∈ Library.Station.all := Library.Station.mem_all event.station
  have notQuery : event.station ≠ .abortQuery := by cases event <;> exact nofun
  simp [installed, listed, notQuery]

end Hooks

/-- A notice is a copy of an event, made while the holders were as given. -/
def Notice.Copies
    (estate : Estate Handle Wrapper)
    (unit : Nat)
    (notice : Notice)
    (event : Event) : Prop :=
  notice.station = event.station ∧ ∃ (snapshot : Facade Notice) (session later : Session),
    Snapshot.notice? unit event = some snapshot ∧ session.estate = estate ∧
      snapshot.outcome session = (.ok notice, later)

namespace Facade

variable {α β : Type} {estate : Estate Handle Wrapper}

/-- An operation leaves given holders alone and fails as foretold; else its value fits. -/
def Meets
    (estate : Estate Handle Wrapper)
    (action : Facade α)
    (fault : Option Failure)
    (fits : α → Prop) : Prop :=
  ∀ session : Session, session.estate = estate →
    (action.outcome session).2.estate = estate ∧
      match (action.outcome session).1 with
      | .ok value => fault = none ∧ fits value
      | .error failure => fault = some failure

namespace Meets

variable {action : Facade α} {next : α → Facade β} {middle : α → Prop} {fits : β → Prop}

theorem pure {fits : α → Prop} {value : α} (holds : fits value) :
    Meets estate (Pure.pure value) none fits :=
  fun _ same => ⟨same, rfl, holds⟩

/-- What fails first is what fails in the end. -/
theorem bind {fault later : Option Failure} (first : Meets estate action fault middle)
    (rest : ∀ value, middle value → Meets estate (next value) later fits) :
    Meets estate (action >>= next) (fault.or later) fits := by
  intro session same
  obtain ⟨kept, met⟩ := first session same
  rw [outcome_bind]
  rcases reached : action.outcome session with ⟨result, after⟩
  rw [reached] at kept met
  cases result with
  | ok value =>
      obtain ⟨rfl, holds⟩ := met
      exact rest value holds after kept
  | error failure =>
      subst met
      exact ⟨kept, rfl⟩

/-- After an operation that does not fail. -/
theorem andThen {later : Option Failure} (first : Meets estate action none middle)
    (rest : ∀ value, middle value → Meets estate (next value) later fits) :
    Meets estate (action >>= next) later fits := first.bind rest

/-- Before an operation that does not fail. -/
theorem thenSure {fault : Option Failure} (first : Meets estate action fault middle)
    (rest : ∀ value, middle value → Meets estate (next value) none fits) :
    Meets estate (action >>= next) fault fits := by
  have joined := first.bind rest
  rwa [Option.or_none] at joined

theorem getThen {next : Session → Facade β} {fault : Option Failure}
    (rest : ∀ session : Session, Meets estate (next session) fault fits) :
    Meets estate (get >>= next) fault fits :=
  fun session same => rest session session same

theorem fresh : Meets estate Facade.fresh none fun _ => True :=
  fun _ same => ⟨same, rfl, True.intro⟩

theorem call (request : Library.Call α) : Meets estate (Facade.call request) none fun _ => True :=
  fun _ same => ⟨same, rfl, True.intro⟩

theorem ofExcept (result : Except Failure α) :
    Meets estate (Facade.ofExcept result) (Library.faultOf result) fun _ => True := by
  intro session same
  cases result with
  | ok value => exact ⟨same, rfl, True.intro⟩
  | error failure => exact ⟨same, rfl⟩

theorem handle {unit : Nat} (opened : estate.isOpen unit = true) :
    Meets estate (Facade.handle unit) none fun _ => True := by
  intro session same
  obtain ⟨kept, held⟩ := Estate.isOpen_iff.mp opened
  rw [← same] at held
  rw [handle_outcome_of_held held]
  exact ⟨same, rfl, True.intro⟩

theorem mapM {items : List α} {change : α → Facade β} {fault : α → Option Failure}
    (each : ∀ item, Meets estate (change item) (fault item) fun _ => True) :
    Meets estate (items.mapM change) (items.findSome? fault) fun _ => True := by
  induction items with
  | nil => exact .pure True.intro
  | cons item rest inductionHypothesis =>
      have joined : (item :: rest).findSome? fault =
          (fault item).or (rest.findSome? fault) := by
        rw [List.findSome?_cons]
        cases fault item <;> rfl
      rw [List.mapM_cons, joined]
      refine (each item).bind fun first _ => ?_
      exact inductionHypothesis.thenSure fun others _ => .pure True.intro

end Meets
end Facade

namespace Snapshot

variable {estate : Estate Handle Wrapper} {unit : Nat}

theorem cursor_meets (opened : estate.isOpen unit = true) (index : Option Nat) :
    Meets estate (cursor unit index) none fun _ => True := by
  refine (Meets.handle opened).andThen fun handle _ => .getThen fun session => ?_
  unfold Cursor.wrap
  split
  · exact .pure True.intro
  · exact Meets.fresh.andThen fun serial _ => .pure True.intro

theorem container_meets (opened : estate.isOpen unit = true) (model : Library.ContainerModel) :
    Meets estate (container unit model) none fun _ => True := by
  cases model with
  | none => exact .pure True.intro
  | some index => exact cursor_meets opened index

theorem wrapFile_meets (native : FileHandle) :
    Meets estate (File.wrap native unit) none fun _ => True :=
  Meets.fresh.andThen fun _ _ => .pure True.intro

theorem file_meets (opened : estate.isOpen unit = true) (index : Option Nat) :
    Meets estate (file unit index) none fun found => found.isSome = index.isSome := by
  cases index with
  | none => exact .pure rfl
  | some index =>
      refine (Meets.handle opened).andThen fun handle _ => .getThen fun session => ?_
      exact (wrapFile_meets _).andThen fun file _ => .pure rfl

theorem location_meets (opened : estate.isOpen unit = true) (spot : Option Spot) :
    Meets estate (location unit spot) none fun _ => True := by
  refine (Meets.handle opened).andThen fun handle _ => .getThen fun session => ?_
  exact Meets.fresh.andThen fun serial _ => .pure True.intro

/-- An entity is copied unless its kind is unknown. -/
theorem entity_meets (opened : estate.isOpen unit = true) (model : Option Library.EntityModel) :
    Meets estate (entity unit model) (model.bind Library.EntityModel.fault) fun _ => True := by
  cases model with
  | none => exact .pure True.intro
  | some model =>
      refine (Meets.ofExcept _).thenSure fun kind _ => ?_
      refine (cursor_meets opened _).andThen fun cursor _ => ?_
      exact Meets.fresh.andThen fun serial _ => .pure True.intro

theorem declaration_meets (opened : estate.isOpen unit = true) (model : Library.DeclarationModel) :
    Meets estate (declaration unit model) (Event.fault (.declaration model)) fun _ => True := by
  refine (cursor_meets opened _).andThen fun cursor _ => ?_
  refine (entity_meets opened _).thenSure fun entity _ => ?_
  refine (location_meets opened _).andThen fun location _ => ?_
  refine (container_meets opened _).andThen fun semantic _ => ?_
  refine (container_meets opened _).andThen fun lexical _ => ?_
  exact Meets.fresh.andThen fun serial _ => .pure True.intro

theorem reference_meets (opened : estate.isOpen unit = true) (model : Library.ReferenceModel) :
    Meets estate (reference unit model) (Event.fault (.reference model)) fun _ => True := by
  refine (Meets.ofExcept _).bind fun kind _ => ?_
  refine (cursor_meets opened _).andThen fun cursor _ => ?_
  refine (location_meets opened _).andThen fun location _ => ?_
  refine (entity_meets opened _).bind fun referenced _ => ?_
  refine (entity_meets opened _).thenSure fun parent _ => ?_
  refine (container_meets opened _).andThen fun container _ => ?_
  exact Meets.fresh.andThen fun serial _ => .pure True.intro

theorem included_meets (opened : estate.isOpen unit = true) (model : Library.IncludedModel) :
    Meets estate (included unit model) none fun _ => True := by
  refine (file_meets opened _).andThen fun file _ => ?_
  refine (location_meets opened _).andThen fun location _ => ?_
  exact Meets.fresh.andThen fun serial _ => .pure True.intro

theorem imported_meets (opened : estate.isOpen unit = true) (model : Library.ImportedModel) :
    Meets estate (imported unit model) none fun _ => True := by
  refine (file_meets opened _).andThen fun file _ => ?_
  refine (location_meets opened _).andThen fun location _ => ?_
  exact Meets.fresh.andThen fun serial _ => .pure True.intro

theorem diagnostic_meets (model : Library.DiagnosticModel) :
    Meets estate (diagnostic model) (Library.faultOf (Codes.severities.ofCode model.severity))
      fun _ => True := by
  refine .getThen fun session => (Meets.ofExcept _).thenSure fun severity _ => ?_
  refine (Meets.call _).andThen fun spelling _ => (Meets.call _).andThen fun formatted _ => ?_
  exact Meets.fresh.andThen fun serial _ => .pure True.intro

theorem notice?_of_no_payload {event : Event} (void : event.hasPayload = false) :
    notice? unit event = none := by
  unfold Library.Event.hasPayload at void
  split at void
  · rfl
  · rfl
  · cases void

/-- An event with a payload is copied while its unit is open, unless something in it is unknown. -/
theorem notice?_meets (opened : estate.isOpen unit = true) {event : Event}
    (filled : event.hasPayload = true) :
    ∃ snapshot, notice? unit event = some snapshot ∧
      Meets estate snapshot event.fault fun notice => notice.station = event.station := by
  cases event with
  | started => exact ⟨_, rfl, .pure rfl⟩
  | mainFile index =>
      cases index with
      | none => cases filled
      | some index =>
          refine ⟨_, rfl, (file_meets opened _).andThen fun found present => ?_⟩
          cases found with
          | none => cases present
          | some file => exact .pure rfl
  | diagnostics items =>
      cases items with
      | none => cases filled
      | some items =>
          refine ⟨_, rfl, (Meets.mapM diagnostic_meets).thenSure fun copies _ => ?_⟩
          exact Meets.fresh.andThen fun serial _ => .pure rfl
  | included model => exact ⟨_, rfl, (included_meets opened model).andThen fun _ _ => .pure rfl⟩
  | imported model => exact ⟨_, rfl, (imported_meets opened model).andThen fun _ _ => .pure rfl⟩
  | declaration model =>
      exact ⟨_, rfl, (declaration_meets opened model).thenSure fun _ _ => .pure rfl⟩
  | reference model =>
      exact ⟨_, rfl, (reference_meets opened model).thenSure fun _ _ => .pure rfl⟩

end Snapshot

namespace IndexingRun

variable {estate : Estate Handle Wrapper} {hooks : Hooks} {unit : Nat}

/-- A run has followed certain signals, none of which failed. -/
structure Follows
    (estate : Estate Handle Wrapper)
    (hooks : Hooks)
    (unit : Nat)
    (before : List Signal)
    (run : IndexingRun) : Prop where
  estate_eq : run.session.estate = estate
  failure_eq : run.failure = none
  queries_eq : hooks.abortQuery.isSome → run.queries = Library.queriesIn before
  copies : List.Forall₂ (Notice.Copies estate unit) run.notices (hooks.told before)

/-- A run has followed certain signals, the last of which failed. -/
structure Broke
    (estate : Estate Handle Wrapper)
    (hooks : Hooks)
    (unit : Nat)
    (live : List Signal)
    (failure : Failure)
    (run : IndexingRun) : Prop where
  estate_eq : run.session.estate = estate
  failure_eq : run.failure = some failure
  copies : List.Forall₂ (Notice.Copies estate unit) run.notices (hooks.told live)

theorem countP_of_copies {notices : List Notice} {events : List Event}
    (copies : List.Forall₂ (Notice.Copies estate unit) notices events)
    (station : Library.Station) :
    (notices.countP fun notice => notice.station = station) =
      events.countP fun event => event.station = station := by
  induction copies with
  | nil => rfl
  | cons copy _ inductionHypothesis =>
      rw [List.countP_cons, List.countP_cons, inductionHypothesis, copy.1]

/-- A query is answered as the caller says, and fails if the caller fails. -/
theorem Follows.query {before : List Signal} {run : IndexingRun}
    (follows : run.Follows estate hooks unit before) :
    (run.query hooks).2 = hooks.abortAnswer (Library.queriesIn before) ∧
      match hooks.failureAt before .query with
      | none => (run.query hooks).1.Follows estate hooks unit (before ++ [.query])
      | some failure => (run.query hooks).1.Broke estate hooks unit (before ++ [.query]) failure := by
  have counted : Library.queriesIn (before ++ [.query]) = Library.queriesIn before + 1 := by
    simp [Library.queriesIn]
  have toldSame : hooks.told (before ++ [.query]) = hooks.told before := by simp [Hooks.told]
  have copies : List.Forall₂ (Notice.Copies estate unit) run.notices
      (hooks.told (before ++ [.query])) := by
    rw [toldSame]
    exact follows.copies
  have queries := follows.queries_eq
  unfold IndexingRun.query Hooks.abortAnswer
  rw [follows.failure_eq]
  cases asked : hooks.abortQuery with
  | none =>
      have succeeds : hooks.failureAt before .query = none := by simp [Hooks.failureAt, asked]
      rw [succeeds]
      exact ⟨rfl, follows.estate_eq, follows.failure_eq, by simp [asked], copies⟩
  | some ask =>
      rw [asked] at queries
      have fault : hooks.failureAt before .query =
          Library.faultOf (ask (Library.queriesIn before)) := by simp [Hooks.failureAt, asked]
      simp only [queries rfl]
      rcases answered : ask (Library.queriesIn before) with failure | stop
      · rw [answered] at fault
        rw [fault]
        exact ⟨rfl, follows.estate_eq, rfl, copies⟩
      · rw [answered] at fault
        rw [fault]
        exact ⟨rfl, follows.estate_eq, rfl, fun _ => counted.symm, copies⟩

/-- An event that no hook hears of changes nothing. -/
theorem Follows.unheard {before : List Signal} {run : IndexingRun} {event : Event}
    (follows : run.Follows estate hooks unit before) (unheard : hooks.hears event = false) :
    (if hooks.installed.contains event.station then run.deliver hooks unit event else run) =
        run ∧
      run.Follows estate hooks unit (before ++ [.event event]) := by
  have toldSame : hooks.told (before ++ [.event event]) = hooks.told before := by
    simp [Hooks.told, unheard]
  have counted : Library.queriesIn (before ++ [.event event]) = Library.queriesIn before := by
    simp [Library.queriesIn]
  refine ⟨?_, follows.estate_eq, follows.failure_eq, ?_, ?_⟩
  · rw [hooks.contains_installed]
    split
    · next isSet =>
        have void : event.hasPayload = false := by simpa [Hooks.hears, isSet] using unheard
        unfold deliver
        rw [follows.failure_eq, Snapshot.notice?_of_no_payload void]
    · rfl
  · rw [counted]
    exact follows.queries_eq
  · rw [toldSame]
    exact follows.copies

/-- An event that a hook hears of is copied and told, unless copying it or the hook fails. -/
theorem Follows.heard {before : List Signal} {run : IndexingRun} {event : Event}
    (opened : estate.isOpen unit = true)
    (follows : run.Follows estate hooks unit before) (heard : hooks.hears event = true) :
    match hooks.failureAt before (.event event) with
    | none => (run.deliver hooks unit event).Follows estate hooks unit (before ++ [.event event])
    | some failure =>
        (run.deliver hooks unit event).Broke estate hooks unit (before ++ [.event event])
          failure := by
  have counted : Library.queriesIn (before ++ [.event event]) = Library.queriesIn before := by
    simp [Library.queriesIn]
  obtain ⟨isSet, filled⟩ := (Bool.and_eq_true _ _).mp heard
  obtain ⟨hook, set⟩ := Option.isSome_iff_exists.mp isSet
  obtain ⟨snapshot, copying, meets⟩ := Snapshot.notice?_meets opened filled
  obtain ⟨kept, met⟩ := meets run.session follows.estate_eq
  rcases copied : snapshot.outcome run.session with ⟨failure | notice, session⟩
  · rw [copied] at kept met
    change event.fault = some failure at met
    have delivered : run.deliver hooks unit event =
        { run with session := session, failure := some failure } := by
      unfold deliver
      simp only [follows.failure_eq, copying, copied]
    have fails : hooks.failureAt before (.event event) = some failure := by
      simp [Hooks.failureAt, heard, met]
    have toldSame : hooks.told (before ++ [.event event]) = hooks.told before := by
      simp [Hooks.told, met]
    rw [delivered, fails]
    refine ⟨kept, rfl, ?_⟩
    rw [toldSame]
    exact follows.copies
  · rw [copied] at kept met
    obtain ⟨faultless, station⟩ : event.fault = none ∧ notice.station = event.station := met
    have delivered : run.deliver hooks unit event =
        { run with
          session := session
          notices := run.notices ++ [notice]
          failure := hook (run.calls event.station) } := by
      unfold deliver tell
      simp only [follows.failure_eq, copying, copied, station, set]
      rfl
    have fails : hooks.failureAt before (.event event) = hook (run.calls event.station) := by
      simp [Hooks.failureAt, heard, faultless, set, calls, countP_of_copies follows.copies]
    have copies : List.Forall₂ (Notice.Copies estate unit) (run.notices ++ [notice])
        (hooks.told (before ++ [.event event])) := by
      have toldMore : hooks.told (before ++ [.event event]) = hooks.told before ++ [event] := by
        simp [Hooks.told, heard, faultless]
      rw [toldMore]
      exact List.rel_append follows.copies
        (.cons ⟨station, snapshot, _, session, copying, follows.estate_eq, copied⟩ .nil)
    rw [delivered, fails]
    cases called : hook (run.calls event.station) with
    | none =>
        refine ⟨kept, rfl, ?_, copies⟩
        rw [counted]
        exact follows.queries_eq
    | some failure => exact ⟨kept, rfl, copies⟩

/-- After a failure every query is answered with yes and nothing else happens. -/
theorem hear_of_failure {run : IndexingRun} {failure : Failure}
    (failed : run.failure = some failure) (signals : List Signal) :
    (listener hooks unit).hear hooks.installed signals run =
      (List.replicate (Library.queriesIn signals) true, run) := by
  have asked : run.query hooks = (run, true) := by
    unfold IndexingRun.query
    rw [failed]
  have delivered (event : Event) : run.deliver hooks unit event = run := by
    unfold deliver
    rw [failed]
  induction signals with
  | nil => rfl
  | cons signal rest inductionHypothesis =>
      cases signal with
      | query =>
          have counted : Library.queriesIn (.query :: rest) = Library.queriesIn rest + 1 := by
            simp [Library.queriesIn]
          simp only [Library.Listener.hear, listener, asked, counted, List.replicate_succ]
          rw [← listener, inductionHypothesis]
      | event event =>
          have counted : Library.queriesIn (.event event :: rest) = Library.queriesIn rest := by
            simp [Library.queriesIn]
          simp only [Library.Listener.hear, listener, delivered, ite_self, counted]
          exact inductionHypothesis

/-- What a run has come to, having followed signals up to a cut. -/
structure Reaches
    (estate : Estate Handle Wrapper)
    (hooks : Hooks)
    (unit : Nat)
    (cut : Hooks.Cut)
    (run : IndexingRun) : Prop where
  estate_eq : run.session.estate = estate
  failure_eq : run.failure = cut.failure
  copies : List.Forall₂ (Notice.Copies estate unit) run.notices (hooks.told cut.live)

/-- Once a signal has failed, the rest is only answered with yes. -/
theorem Broke.hear {live : List Signal} {failure : Failure} {run : IndexingRun}
    (broke : run.Broke estate hooks unit live failure) (rest : List Signal) :
    ((listener hooks unit).hear hooks.installed rest run).1 =
        List.replicate (Library.queriesIn rest) true ∧
      ((listener hooks unit).hear hooks.installed rest run).2.Reaches estate hooks unit
        ⟨live, rest, some failure⟩ := by
  rw [hear_of_failure broke.failure_eq]
  exact ⟨rfl, broke.estate_eq, broke.failure_eq, broke.copies⟩

/-- A run follows the signals up to the first one that fails. -/
theorem Follows.hear
    (opened : estate.isOpen unit = true)
    {before : List Signal}
    {run : IndexingRun}
    (follows : run.Follows estate hooks unit before)
    (signals : List Signal) :
    (List.range (Library.queriesIn before)).map hooks.abortAnswer ++
        ((listener hooks unit).hear hooks.installed signals run).1 =
      hooks.answers (hooks.cut before signals) ∧
    ((listener hooks unit).hear hooks.installed signals run).2.Reaches estate hooks unit
      (hooks.cut before signals) := by
  induction signals generalizing before run with
  | nil =>
      refine ⟨?_, follows.estate_eq, follows.failure_eq, follows.copies⟩
      simp [Library.Listener.hear, Hooks.answers, Hooks.cut, Library.queriesIn]
  | cons signal rest inductionHypothesis =>
      unfold Hooks.cut
      cases signal with
      | query =>
          obtain ⟨answer, stepped⟩ := follows.query
          have counted : Library.queriesIn (before ++ [.query]) = Library.queriesIn before + 1 := by
            simp [Library.queriesIn]
          have unfolded : (listener hooks unit).hear hooks.installed (.query :: rest) run =
              ((run.query hooks).2 ::
                ((listener hooks unit).hear hooks.installed rest (run.query hooks).1).1,
              ((listener hooks unit).hear hooks.installed rest (run.query hooks).1).2) := rfl
          rw [unfolded, answer]
          cases failed : hooks.failureAt before .query with
          | none =>
              rw [failed] at stepped
              obtain ⟨answers, reaches⟩ := inductionHypothesis stepped
              refine ⟨?_, reaches⟩
              rw [counted, List.range_succ] at answers
              simpa using answers
          | some failure =>
              rw [failed] at stepped
              obtain ⟨answers, reaches⟩ := stepped.hear rest
              refine ⟨?_, reaches⟩
              rw [Hooks.answers, counted, List.range_succ, answers]
              simp
      | event event =>
          have counted : Library.queriesIn (before ++ [.event event]) =
              Library.queriesIn before := by simp [Library.queriesIn]
          have unfolded : (listener hooks unit).hear hooks.installed (.event event :: rest) run =
              (listener hooks unit).hear hooks.installed rest
                (if hooks.installed.contains event.station then run.deliver hooks unit event
                else run) := rfl
          rw [unfolded]
          cases heard : hooks.hears event with
          | false =>
              have succeeds : hooks.failureAt before (.event event) = none := by
                simp [Hooks.failureAt, heard]
              obtain ⟨unchanged, stepped⟩ := follows.unheard heard
              rw [unchanged, succeeds]
              obtain ⟨answers, reaches⟩ := inductionHypothesis stepped
              rw [counted] at answers
              exact ⟨answers, reaches⟩
          | true =>
              have isSet := ((Bool.and_eq_true _ _).mp heard).1
              have stepped := follows.heard opened heard
              rw [hooks.contains_installed, if_pos isSet]
              cases failed : hooks.failureAt before (.event event) with
              | none =>
                  rw [failed] at stepped
                  obtain ⟨answers, reaches⟩ := inductionHypothesis stepped
                  rw [counted] at answers
                  exact ⟨answers, reaches⟩
              | some failure =>
                  rw [failed] at stepped
                  obtain ⟨answers, reaches⟩ := stepped.hear rest
                  refine ⟨?_, reaches⟩
                  rw [Hooks.answers, counted, answers]

/-- A new run follows the signals up to the first one that fails. -/
theorem hear_start {session : Session} (opened : session.estate.isOpen unit = true)
    (hooks : Hooks) (signals : List Signal) :
    ((listener hooks unit).hear hooks.installed signals ⟨session, 0, [], none⟩).1 =
        hooks.answers (hooks.cut [] signals) ∧
      ((listener hooks unit).hear hooks.installed signals ⟨session, 0, [], none⟩).2.Reaches
        session.estate hooks unit (hooks.cut [] signals) := by
  have follows : Follows session.estate hooks unit [] ⟨session, 0, [], none⟩ :=
    ⟨rfl, rfl, fun _ => rfl, .nil⟩
  exact follows.hear opened signals

end IndexingRun

namespace IndexAction

/-- How an indexing run ends, given the status of the library and the failure of a signal: with
that failure if there is one, and else with a report exactly if the status is not zero. -/
inductive Concludes (status : Int) : Option Failure → Option Failure → Prop
  | failed (failure : Failure) : Concludes status (some failure) (some failure)
  | completed (success : status = 0) : Concludes status none none
  | reported (spelling : String) (unsuccessful : status ≠ 0) :
      Concludes status none (some (.reported ⟨.indexing, .indexFailed,
        "failed to index " ++ Text.ofString spelling, some status⟩))

/-- The end of an indexing run. -/
def conclude (unit : Nat) (status : Int) (run : IndexingRun) :
    Facade (List Notice × Option Failure) := do
  set run.session
  match run.failure with
  | some failure => return (run.notices, some failure)
  | none =>
      if status = 0 then return (run.notices, none)
      let spelling ← CompilationUnit.spelling unit
      return (run.notices, some (.reported ⟨.indexing, .indexFailed,
        "failed to index " ++ Text.ofString spelling, some status⟩))

theorem reply_use (handle : Handle) (state : Library.State) :
    (Id.run (StateT.run (Library.Call.use handle) state)).2.reply = state.reply := by
  have used : (Id.run (StateT.run (Library.Call.use handle) state)).2 =
      if state.isGood handle then state else { state with strays := state.strays ++ [handle] } := rfl
  rw [used]
  split <;> rfl

/-- With open holders a run is begun, and then everything is up to the library. -/
theorem indexBy_outcome
    {session : Session}
    {action unit : Nat}
    {actionHandle unitHandle : Handle}
    (actionHeld : session.estate.handle? action = some actionHandle)
    (unitHeld : session.estate.handle? unit = some unitHandle)
    (hooks : Hooks)
    (options : Int) :
    ∃ (begun : Session) (events : List Event), begun.estate = session.estate ∧
      begun.library.reply = session.library.reply ∧
      ∀ reporter : Library.Reporter IndexingRun,
        (indexBy reporter action (.holder unit) hooks (.int options)).outcome session =
          (conclude unit begun.library.reply.status
            (reporter (IndexingRun.listener hooks unit) hooks.installed
              begun.library.reply.ignoreAbort events ⟨begun, 0, [], none⟩)).outcome begun := by
  let request := Library.Call.beginIndexing actionHandle unitHandle options hooks.installed
  let begun : Session :=
    { session with library := (Id.run (StateT.run request session.library)).2 }
  refine ⟨begun, (Id.run (StateT.run request session.library)).1, rfl, ?_, fun reporter => ?_⟩
  · exact (reply_use unitHandle _).trans (reply_use actionHandle session.library)
  · have passed : (Facade.passed (.holder unit)).outcome session =
        (.ok (unit, unitHandle), session) := by
      unfold Facade.passed
      rw [outcome_bind_of_ok (handle_outcome_of_held unitHeld), outcome_pure]
    have read : (Facade.ofExcept (Datum.int options).toInteger).outcome session =
        (.ok options, session) := rfl
    have called : (call request).outcome session =
        (.ok (Id.run (StateT.run request session.library)).1, begun) := rfl
    unfold indexBy
    rw [outcome_bind_of_ok (handle_outcome_of_held actionHeld), outcome_bind_of_ok read,
      outcome_bind_of_ok passed, outcome_bind_of_ok called, outcome_bind_of_ok (outcome_get begun)]
    rfl

theorem conclude_outcome
    {estate : Estate Handle Wrapper}
    {unit : Nat}
    {unitHandle : Handle}
    {hooks : Hooks}
    {cut : Hooks.Cut}
    {run : IndexingRun}
    {session : Session}
    (unitHeld : estate.handle? unit = some unitHandle)
    (reaches : run.Reaches estate hooks unit cut)
    (status : Int) :
    ∃ conclusion later,
      (conclude unit status run).outcome session = (.ok (run.notices, conclusion), later) ∧
        Concludes status cut.failure conclusion ∧ later.estate = estate := by
  unfold conclude
  rw [outcome_bind_of_ok (outcome_set session run.session), reaches.failure_eq]
  cases cut.failure with
  | some failure => exact ⟨some failure, run.session, rfl, .failed failure, reaches.estate_eq⟩
  | none =>
      by_cases success : status = 0
      · rw [if_pos success]
        exact ⟨none, run.session, rfl, .completed success, reaches.estate_eq⟩
      · rw [← reaches.estate_eq] at unitHeld
        obtain ⟨spelling, later, spelled, kept⟩ : ∃ spelling later,
            (CompilationUnit.spelling unit).outcome run.session = (.ok spelling, later) ∧
              later.estate = run.session.estate := by
          unfold CompilationUnit.spelling
          rw [outcome_bind_of_ok (handle_outcome_of_held unitHeld)]
          exact ⟨_, _, rfl, rfl⟩
        refine ⟨_, later, ?_, .reported spelling success, kept.trans reaches.estate_eq⟩
        rw [if_neg success, outcome_bind_of_ok spelled, outcome_pure]

/-- Indexing with an open action and an open unit follows the signals of the library, whatever they
are, up to the first one that fails: the hooks are told exactly of the events up to there, queries
are answered as the caller says up to there and with yes afterwards, and the run ends with that
failure, or else as the status says.  Reporting the events of the script is one way of sending
signals. -/
theorem indexBy_follows_signals
    {session : Session}
    {action unit : Nat}
    (actionOpen : session.estate.isOpen action = true)
    (unitOpen : session.estate.isOpen unit = true)
    (hooks : Hooks)
    (options : Int) :
    (∀ signals : List Signal, ∃ notices conclusion later,
      (indexBy (Library.sending signals) action (.holder unit) hooks (.int options)).outcome
          session = (.ok (notices, conclusion), later) ∧
        List.Forall₂ (Notice.Copies session.estate unit) notices
          (hooks.told (hooks.cut [] signals).live) ∧
        (∀ begun : Session, begun.estate = session.estate →
          ((IndexingRun.listener hooks unit).hear hooks.installed signals
            ⟨begun, 0, [], none⟩).1 = hooks.answers (hooks.cut [] signals)) ∧
        Concludes session.library.reply.status (hooks.cut [] signals).failure conclusion ∧
        later.estate = session.estate) ∧
    ∃ signals : List Signal,
      (index action (.holder unit) hooks (.int options)).outcome session =
        (indexBy (Library.sending signals) action (.holder unit) hooks (.int options)).outcome
          session := by
  obtain ⟨actionHandle, actionHeld⟩ := Estate.isOpen_iff.mp actionOpen
  obtain ⟨unitHandle, unitHeld⟩ := Estate.isOpen_iff.mp unitOpen
  obtain ⟨begun, events, kept, reply, unfolded⟩ :=
    indexBy_outcome actionHeld unitHeld hooks options
  have begunOpen (other : Session) (same : other.estate = session.estate) :
      other.estate.isOpen unit = true := by rwa [same]
  constructor
  · intro signals
    obtain ⟨_, reaches⟩ := IndexingRun.hear_start (begunOpen begun kept) hooks signals
    rw [kept] at reaches
    obtain ⟨conclusion, later, concluded, concludes, keptLater⟩ :=
      conclude_outcome unitHeld reaches session.library.reply.status
    refine ⟨_, conclusion, later, ?_, reaches.copies, ?_, concludes, keptLater⟩
    · rw [unfolded, reply]
      exact concluded
    · intro other same
      exact (IndexingRun.hear_start (begunOpen other same) hooks signals).1
  · obtain ⟨signals, same⟩ := Library.exists_report_eq_sending
      (IndexingRun.listener hooks unit) hooks.installed begun.library.reply.ignoreAbort events
      ⟨begun, 0, [], none⟩
    refine ⟨signals, ?_⟩
    rw [index, unfolded, unfolded, same]

/-- A session with a unit and an indexing session of one index. -/
def readyToIndex : Session :=
  ((do
    let _ ← CompilationUnit.ofFile none (some (.text "a.c")) (some (.list [])) [] (.int 0)
    make (some (.holder 0))).outcome (.start ⟨[default], [], [], 0⟩ default default)).2

/-- Hooks for everything, none of which fails. -/
def patientHooks : Hooks := ⟨some fun _ => .ok false, fun _ => some fun _ => none⟩

/-- Signals with an entity of an unknown kind in the middle. -/
def unknownEntity : List Signal :=
  [.query, .event .started, .event (.mainFile none),
    .event (.declaration { (default : Library.DeclarationModel) with
      entity := some { (default : Library.EntityModel) with kind := 99 } }),
    .query, .event .started]

/-- The declaration cannot be copied: its hook is not called, nor is any later one. -/
theorem unknownEntity_follows_signals :
    ∃ notices later,
      (indexBy (Library.sending unknownEntity) 2 (.holder 1) patientHooks (.int 0)).outcome
          readyToIndex = (.ok (notices, some (.unknownMember "EntityKind" "99")), later) ∧
        notices.map Notice.station = [.startedUnit] ∧
        ((IndexingRun.listener patientHooks 1).hear patientHooks.installed unknownEntity
          ⟨readyToIndex, 0, [], none⟩).1 = [false, true] := by
  have actionOpen : readyToIndex.estate.isOpen 2 = true := by decide +kernel
  have unitOpen : readyToIndex.estate.isOpen 1 = true := by decide +kernel
  obtain ⟨followed, _⟩ := indexBy_follows_signals actionOpen unitOpen patientHooks 0
  obtain ⟨notices, conclusion, later, outcome, copies, answers, concludes, _⟩ :=
    followed unknownEntity
  have failure : (patientHooks.cut [] unknownEntity).failure =
      some (.unknownMember "EntityKind" "99") := rfl
  have told : patientHooks.told (patientHooks.cut [] unknownEntity).live = [.started] := rfl
  rw [failure] at concludes
  rw [told] at copies
  cases concludes
  refine ⟨notices, later, outcome, ?_, answers readyToIndex rfl⟩
  obtain ⟨notice, _, copy, rest, rfl⟩ := List.forall₂_cons_right_iff.mp copies
  rw [List.forall₂_nil_right_iff.mp rest, List.map_singleton, copy.1]
  rfl

end IndexAction

end Custody
