import Custody.Proofs.Scenario.Operations
import Custody.Proofs.Session.Growth

/-!
# Steps of a scenario

A state of a scenario is sound when its holdings are valid, its session is tidy and
its names are anchored.  Every step keeps that.  What a step loses and which handles
it misuses is accounted for exactly: a step may lose one unit, and only parsing again
and comparing misuse handles.
-/

namespace Custody

open Facade

variable {holdings : Holdings}

/-- Holdings when the library answers in another way. -/
def Holdings.answering (holdings : Holdings) (reply : Library.Reply) : Holdings :=
  { holdings with books := { holdings.books with reply := reply } }

protected theorem Holdings.Valid.answering (valid : holdings.Valid) (reply : Library.Reply) :
    (holdings.answering reply).Valid where
  accurate := ⟨valid.accurate.regular, valid.accurate.disposed, valid.accurate.ordered⟩
  orderly := valid.orderly.of_books _
  founded := valid.founded.of_same_parents rfl fun _ => rfl
  backed := valid.backed.of_books (fun _ _ _ _ standing => standing) fun _ _ _ _ gone => gone

/-- Holdings after further handles were misused are as before but for these. -/
theorem Holdings.straying_nil (holdings : Holdings) : holdings.straying [] = holdings := by
  simp [Holdings.straying]

/-- Without holders and allocations everything is in order. -/
theorem Session.start_valid (script : Library.Script) (settings : Settings) (storage : Storage) :
    (Session.start script settings storage).holdings.Valid where
  accurate := ⟨Library.Ledger.regular_nil, .refl [], .nil⟩
  orderly :=
    { made_length := rfl
      made_of_held := fun held => absurd (Estate.lt_size_of_handle? held) (Nat.not_lt_zero _)
      parentOpen := by rintro _ ⟨⟩
      parent_lt := by rintro _ ⟨⟩
      child_lt := by rintro _ ⟨⟩
      recorded := by rintro _ _ ⟨⟩
      adopts := by rintro _ ⟨⟩
      open_parent := by rintro _ ⟨⟩ }
  founded :=
    { root_mem := by rintro _ _ ⟨⟩
      owned_eq := by rintro _ _ _ _ ⟨⟩
      injective := by rintro _ _ _ ⟨⟩
      proper := by rintro _ _ ⟨⟩
      sort_eq := by rintro _ _ _ _ ⟨⟩
      above := by rintro _ _ _ ⟨⟩
      indexed := by rintro _ _ _ ⟨⟩
      spaced := by rintro _ _ _ _ _ ⟨⟩
      unit_above := by rintro _ _ ⟨⟩ }
  backed :=
    { stands := fun held => absurd (Estate.lt_size_of_handle? held) (Nat.not_lt_zero _)
      dead := by rintro _ _ ⟨⟩ }

namespace Scenario

/-- What a comparison is about. -/
def comparands (names : Names) (left right : Target) : Facade (Value × Value) := do
  let left ← left.value names
  let right ← right.value names
  return (left, right)

/-- Compares values twice, as equal and as different. -/
def compareTwice (values : Value × Value) : Facade Product := do
  let equal ← values.1.equal values.2
  let again ← values.1.equal values.2
  Product.ofValue (← Value.listOf [.bool equal, .bool (!again)])

/-- What parsing again is about. -/
def reparsands (names : Names) (unit : Target) (unsaved : List UnsavedSource) :
    Facade (Nat × CompilationUnit.UnsavedFiles) := do
  let unit ← (← unit.value names).asUnit
  let unsaved ← unsaved.mapM (·.file names)
  return (unit, unsaved)

/-- Parses a unit again. -/
def parseAgain (options : Option Datum) (operands : Nat × CompilationUnit.UnsavedFiles) :
    Facade Product := do
  CompilationUnit.reparse operands.1 operands.2 options
  return .done

theorem perform_equal (names : Names) (left right : Target) :
    perform names (.equal left right) = comparands names left right >>= compareTwice := by
  simp only [perform, comparands, compareTwice, bind_assoc, pure_bind]

theorem perform_reparse (names : Names) (unit : Target) (unsaved : List UnsavedSource)
    (options : Option Datum) :
    perform names (.reparse unit unsaved options) =
      reparsands names unit unsaved >>= parseAgain options := by
  simp only [perform, reparsands, parseAgain, bind_assoc, pure_bind]

/-- The handles that an operation misuses, in order.  A comparison is made twice if it does not
fail, and parsing again misuses its unit exactly if it closes the unit. -/
def misuses (names : Names) (session : Session) : Operation → List Handle
  | .equal left right =>
      match (comparands names left right).outcome session with
      | (.ok (left, right), after) =>
          left.misused after right ++
            if ((left.equal right).outcome after).1.isOk then left.misused after right else []
      | (.error _, _) => []
  | .reparse unit unsaved options =>
      match (reparsands names unit unsaved).outcome session with
      | (.ok (number, files), after) =>
          if ((parseAgain options (number, files)).outcome after).2.estate.isOpen number then []
          else (after.estate.handle? number).toList
      | (.error _, _) => []
  | _ => []

/-- An operation may lose a unit: it parses without naming a file, or it parses what a compile
command compiles whose directory and arguments are not all texts. -/
def MayLose (names : Names) (session : Session) : Operation → Prop
  | .parseCommand _ command _ =>
      ∃ value, ((command.value names).outcome session).1 = .ok value ∧ IsUntextual value
  | operation => operation.IsNameless

section Exceptions

variable (valid : holdings.Valid) {names : Names} (anchored : names.Anchored holdings.made)
include valid anchored

theorem comparands_runs (left right : Target) :
    Runs holdings (comparands names left right) fun made values =>
      values.1.Anchored made ∧ values.2.Anchored made := by
  refine (left.value_yields valid anchored).bind valid fun left later laterValid grown found => ?_
  refine (right.value_yields laterValid (anchored.mono grown)).bind laterValid ?_
  exact fun right last _ further foundToo =>
    .pure ⟨Value.Anchored.mono further left found, foundToo⟩

theorem reparsands_runs (unit : Target) (unsaved : List UnsavedSource) :
    Runs holdings (reparsands names unit unsaved) fun made operands =>
      Holdings.IsMade made .unit operands.1 := by
  refine (unit.value_yields valid anchored).bind valid fun value later laterValid grown _ => ?_
  refine (Value.asUnit_reads laterValid value).thenRuns fun unit isUnit => ?_
  refine (unsavedFiles_runs laterValid (anchored.mono grown) unsaved).bind laterValid ?_
  exact fun files last _ further _ => .pure (isUnit.mono further)

end Exceptions

/-- An operation leaves a valid and tidy session and forgets no holder, what it names is anchored,
it misuses certain handles, and it loses one unit or none, and none unless it may. -/
structure Accounted (before : Session) (misused : List Handle) (mayLose : Prop)
    (result : Except Failure Product) (after : Session) : Prop where
  /-- The holdings stay valid. -/
  valid : after.holdings.Valid
  /-- The session stays tidy. -/
  tidy : after.Tidy
  /-- No holder is forgotten. -/
  made : before.made <+: after.made
  /-- Holders stay what they are. -/
  grows : before.Grows after
  /-- Holders keep what they were made with. -/
  contents : before.holdings.KeepsContents after.holdings
  /-- What is named is anchored. -/
  anchored : ∀ product, result = .ok product → product.Anchored after.made
  /-- The misused handles are known. -/
  strays : after.library.strays = before.library.strays ++ misused
  /-- A unit is lost in one way only. -/
  losing : before.holdings.Loses after.holdings (succeeded result) →
    mayLose ∧ ∃ number, after.holdings.lost = before.holdings.lost ++ [.owned .unit number]
  /-- Otherwise nothing is lost. -/
  keeping : ¬ before.holdings.Loses after.holdings (succeeded result) →
    after.holdings.lost = before.holdings.lost

namespace Accounted

variable {before after : Session} {middle : Holdings} {misused : List Handle} {mayLose : Prop}
  {result : Except Failure Product}

/-- Moves lose nothing, and neither does misusing handles afterwards. -/
theorem of_straying
    (valid : before.holdings.Valid)
    (course : before.holdings.Course middle)
    (same : after.holdings = middle.straying misused)
    (tidy : after.Tidy)
    (anchored : ∀ product, result = .ok product → product.Anchored after.made) :
    Accounted before misused mayLose result after := by
  have faithful := course.faithful valid
  have sameMade : after.made = middle.made := congrArg Holdings.made same
  have sameStrays : after.library.strays = middle.books.strays ++ misused :=
    congrArg (·.books.strays) same
  have sameLost : after.holdings.lost = before.holdings.lost := by
    rw [same]
    exact faithful.lost
  have strayed : middle.Grows (middle.straying misused) := .of_same rfl rfl
  have grows : before.Grows after := course.grows.trans (same ▸ strayed)
  have contents : before.holdings.KeepsContents after.holdings := by
    rw [same]
    exact course.keepsContents.trans (.of_same rfl)
  refine ⟨same ▸ (course.valid valid).straying misused, tidy, sameMade ▸ faithful.made, grows,
    contents, anchored, ?_, ?_, fun _ => sameLost⟩
  · rw [sameStrays, faithful.strays]
    rfl
  · rintro ⟨grown, _⟩
    rw [same] at grown
    exact absurd (faithful.nameless ▸ grown) (Nat.lt_irrefl _)

theorem of_course
    (valid : before.holdings.Valid)
    (course : before.holdings.Course after.holdings)
    (tidy : after.Tidy)
    (anchored : ∀ product, result = .ok product → product.Anchored after.made) :
    Accounted before [] mayLose result after :=
  of_straying valid course after.holdings.straying_nil.symm tidy anchored

/-- An errand is accounted for. -/
theorem of_errand
    (valid : before.holdings.Valid)
    (errand : before.holdings.Errand mayLose (succeeded result) after.holdings)
    (tidy : after.Tidy)
    (anchored : ∀ product, result = .ok product → product.Anchored after.made) :
    Accounted before [] mayLose result after := by
  obtain ⟨made, strays, losing, keeping⟩ := errand.account valid
  refine ⟨errand.valid valid, tidy, made, errand.grows, errand.keepsContents, anchored, ?_, losing,
    keeping⟩
  rw [List.append_nil]
  exact strays

end Accounted

/-- The answers of a comparison can be named. -/
theorem answers_reads {holdings : Holdings} (equal again : Bool) :
    Reads holdings (Value.listOf [.bool equal, .bool (!again)] >>= Product.ofValue)
      fun product => product.Anchored holdings.made := by
  have anchored : Value.AreAnchored holdings.made [.bool equal, .bool (!again)] :=
    ⟨True.intro, True.intro, True.intro⟩
  exact (Value.listOf_reads anchored).bind fun _ found => ofValue_reads found

/-- Parsing a unit again names nothing. -/
theorem parseAgain_ensures (valid : holdings.Valid) {unit : Nat}
    (isUnit : Holdings.IsMade holdings.made .unit unit) (unsaved : CompilationUnit.UnsavedFiles)
    (options : Option Datum) :
    Ensures holdings (parseAgain options (unit, unsaved)) fun result later =>
      holdings.Reparsed unit later ∧
        ∀ product, result = .ok product → product.Anchored later.made := by
  refine Ensures.bind (CompilationUnit.reparse_ensures valid isUnit unsaved options) ?_ ?_
  · rintro ⟨⟩ later reparsed
    refine Ensures.pure ⟨reparsed, ?_⟩
    rintro _ ⟨⟩
    exact done_anchored _
  · exact fun failure later reparsed => ⟨reparsed, by simp⟩

section Performing

variable {session : Session} (valid : session.holdings.Valid) (tidy : session.Tidy)
include valid tidy

/-- Comparing values changes nothing but the list of misused handles. -/
theorem compareTwice_account {left : Value} (anchored : left.Anchored session.made)
    (right : Value) :
    ((compareTwice (left, right)).outcome session).2.Tidy ∧
      ((compareTwice (left, right)).outcome session).2.holdings =
        session.holdings.straying (left.misused session right ++
          if ((left.equal right).outcome session).1.isOk then left.misused session right else []) ∧
      ∀ product, ((compareTwice (left, right)).outcome session).1 = .ok product →
        product.Anchored ((compareTwice (left, right)).outcome session).2.made := by
  have strays := Value.equal_strays valid left right anchored
  have again := strays (left.misused session right)
  unfold compareTwice
  rw [outcome_bind, strays.outcome_eq]
  cases first : ((left.equal right).outcome session).1 with
  | error failure =>
      refine ⟨tidy, ?_, by simp⟩
      simp [Session.holdings_straying, Except.isOk, Except.toBool]
  | ok equal =>
      dsimp only
      rw [outcome_bind, again, first]
      obtain ⟨tidyAfter, same, found⟩ := answers_reads equal equal
        (session.straying (left.misused session right ++ left.misused session right)) rfl tidy
      refine ⟨tidyAfter, same, fun product succeeded => ?_⟩
      have sameMade := congrArg Holdings.made same
      have named := found product succeeded
      rw [← sameMade] at named
      exact named

variable {names : Names} (anchored : names.Anchored session.made)
include anchored

theorem perform_equal_accounted (left right : Target) :
    Accounted session (misuses names session (.equal left right)) False
      ((perform names (.equal left right)).outcome session).1
      ((perform names (.equal left right)).outcome session).2 := by
  obtain ⟨tidyAfter, course, found⟩ := comparands_runs valid anchored left right session rfl tidy
  rw [perform_equal, outcome_bind, misuses]
  rcases reached : (comparands names left right).outcome session with ⟨result, after⟩
  rw [reached] at tidyAfter course found
  cases result with
  | error failure => exact .of_course valid course tidyAfter (by simp)
  | ok values =>
      obtain ⟨tidyLast, same, named⟩ :=
        compareTwice_account (course.valid valid) tidyAfter (found values rfl).1 values.2
      exact .of_straying valid course same tidyLast named

theorem perform_reparse_accounted (unit : Target) (unsaved : List UnsavedSource)
    (options : Option Datum) :
    Accounted session (misuses names session (.reparse unit unsaved options)) False
      ((perform names (.reparse unit unsaved options)).outcome session).1
      ((perform names (.reparse unit unsaved options)).outcome session).2 := by
  obtain ⟨tidyAfter, course, found⟩ := reparsands_runs valid anchored unit unsaved session rfl tidy
  rw [perform_reparse, outcome_bind, misuses]
  rcases reached : (reparsands names unit unsaved).outcome session with ⟨result, after⟩
  rw [reached] at tidyAfter course found
  cases result with
  | error failure => exact .of_course valid course tidyAfter (by simp)
  | ok operands =>
      have isUnit := found operands rfl
      have afterValid := course.valid valid
      obtain ⟨tidyLast, reparsed, named⟩ :=
        parseAgain_ensures afterValid isUnit operands.2 options after rfl tidyAfter
      obtain ⟨made, lost, nameless, strays⟩ := reparsed.account afterValid
      have faithful := course.faithful valid
      refine ⟨?_, tidyLast, faithful.made.trans made, course.grows.trans reparsed.grows,
        course.keepsContents.trans reparsed.keepsContents, named, ?_, ?_,
        fun _ => lost.trans faithful.lost⟩
      · refine reparsed.valid afterValid fun handle present => ?_
        obtain ⟨_, other, sorted⟩ := isUnit
        cases present.symm.trans other
        obtain ⟨number, rfl⟩ := Handle.exists_eq_owned_unit sorted
        rfl
      · exact strays.trans (congrArg (· ++ _) faithful.strays)
      · rintro ⟨grown, _⟩
        exact absurd (faithful.nameless ▸ nameless ▸ grown) (Nat.lt_irrefl _)

/-- Which command is parsed is known once its target is looked up, so that this operation may lose
a unit only if that command is not textual. -/
theorem perform_parseCommand_accounted (index : Option Target) (command : Target)
    (parsing : Parsing) :
    Accounted session [] (MayLose names session (.parseCommand index command parsing))
      ((perform names (.parseCommand index command parsing)).outcome session).1
      ((perform names (.parseCommand index command parsing)).outcome session).2 := by
  obtain ⟨tidyAfter, course, -⟩ := command.value_yields valid anchored session rfl tidy
  rw [perform_parseCommand, outcome_bind]
  rcases reached : (command.value names).outcome session with ⟨failure | value, after⟩
  all_goals rw [reached] at tidyAfter course
  · exact .of_course valid course tidyAfter (by simp)
  · have laterAnchored := anchored.mono (course.faithful valid).made
    obtain ⟨tidyLast, errand, named⟩ := parseCommanded_performs (course.valid valid) laterAnchored
      index parsing value after rfl tidyAfter
    refine .of_errand valid ((errand.after course).mono fun untextual => ?_) tidyLast named
    exact ⟨value, congrArg Prod.fst reached, untextual⟩

theorem perform_ordinary_accounted {operation : Operation} {mayLose : Prop}
    (ordinary : operation.isOrdinary = true) (allows : operation.IsNameless → mayLose) :
    Accounted session [] mayLose ((perform names operation).outcome session).1
      ((perform names operation).outcome session).2 := by
  obtain ⟨tidyAfter, errand, named⟩ := perform_performs valid anchored ordinary session rfl tidy
  exact .of_errand valid (errand.mono allows) tidyAfter named

/-- Every operation is accounted for. -/
theorem perform_accounted (operation : Operation) :
    Accounted session (misuses names session operation) (MayLose names session operation)
      ((perform names operation).outcome session).1
      ((perform names operation).outcome session).2 := by
  cases operation with
  | equal left right => exact perform_equal_accounted valid tidy anchored left right
  | reparse unit unsaved options =>
      exact perform_reparse_accounted valid tidy anchored unit unsaved options
  | parseCommand index command parsing =>
      exact perform_parseCommand_accounted valid tidy anchored index command parsing
  | _ => exact perform_ordinary_accounted valid tidy anchored rfl id

end Performing

namespace State

variable {state : State}

/-- The session at the beginning of a step, when the library knows how to answer. -/
def facing (state : State) (step : Step) : Session :=
  { state.session with library := { state.session.library with reply := step.reply } }

/-- The handles that a step misuses, in order. -/
def misuses (state : State) (step : Step) : List Handle :=
  Scenario.misuses state.names (state.facing step) step.operation

/-- A step loses a unit when the library was asked for one without naming a file, provided one,
and the step failed all the same. -/
def losesUnit (state : State) (step : Step) : Bool :=
  decide (state.session.library.namelessCount <
      (state.step step).1.session.library.namelessCount) &&
    step.reply.providesUnit && !(state.step step).2.answer.isOk

/-- A state is sound when its holdings are valid, its session is tidy and its names are
anchored. -/
structure Sound (state : State) : Prop where
  /-- The holdings are valid. -/
  valid : state.session.holdings.Valid
  /-- The session is tidy. -/
  tidy : state.session.Tidy
  /-- The names are anchored. -/
  anchored : Names.Anchored state.session.made state.names

/-- How a step ends once its operation was performed. -/
theorem step_eq (state : State) (step : Step) :
    ∃ effects log,
      state.step step =
        match (perform state.names step.operation).outcome (state.facing step) with
        | (.error failure, session) =>
            ({ state with session := session }, ⟨.error failure, effects, log, .nothing⟩)
        | (.ok product, session) =>
            (State.bind { state with session := session } step.name product.value,
              ⟨product.answer, effects, log, product.extra⟩) := by
  unfold State.step
  rcases reached : (perform state.names step.operation).outcome (state.facing step) with
    ⟨result, session⟩
  change (perform state.names step.operation).outcome { state.session with
    library := { state.session.library with reply := step.reply } } = _ at reached
  simp only [reached]
  cases result with
  | error failure => exact ⟨_, _, rfl⟩
  | ok product => exact ⟨_, _, rfl⟩

theorem session_bind (state : State) (name : Option Text) (value : Option Value) :
    (state.bind name value).session = state.session := by
  unfold State.bind
  split <;> rfl

theorem session_step (state : State) (step : Step) :
    (state.step step).1.session =
      ((perform state.names step.operation).outcome (state.facing step)).2 := by
  obtain ⟨effects, log, ended⟩ := state.step_eq step
  rw [ended]
  split
  · next reached => rw [reached]
  · next reached => rw [reached, session_bind]

theorem isOk_answer_step (state : State) (step : Step) :
    (state.step step).2.answer.isOk =
      succeeded ((perform state.names step.operation).outcome (state.facing step)).1 := by
  obtain ⟨effects, log, ended⟩ := state.step_eq step
  rw [ended]
  split
  · next reached =>
      rw [reached]
      rfl
  · next reached =>
      rw [reached]
      rfl

/-- What holds of all named values and of the value to be named holds of all named values. -/
theorem holds_bind (state : State) {holds : Value → Prop}
    (all : ∀ entry ∈ state.names, holds entry.2) (name : Option Text) {value : Option Value}
    (found : ∀ given, value = some given → holds given) :
    ∀ entry ∈ (state.bind name value).names, holds entry.2 := by
  unfold State.bind
  split
  · next given =>
      intro entry member
      rcases List.mem_cons.mp member with rfl | old
      · exact found given rfl
      · exact all entry (List.mem_filter.mp old).1
  · exact all

/-- What holds of all named values and of what a step yields holds after the step. -/
theorem holds_step (state : State) (step : Step) {holds : Value → Prop}
    (all : ∀ entry ∈ state.names, holds entry.2)
    (named : ∀ product,
      ((perform state.names step.operation).outcome (state.facing step)).1 = .ok product →
        ∀ given, product.value = some given → holds given) :
    ∀ entry ∈ (state.step step).1.names, holds entry.2 := by
  obtain ⟨effects, log, ended⟩ := state.step_eq step
  rw [ended]
  split
  · exact all
  · next product session reached =>
      rw [reached] at named
      exact holds_bind ⟨session, state.names⟩ all step.name (named product rfl)

/-- The session at the beginning of a step is as valid as before. -/
theorem Sound.accounted (sound : state.Sound) (step : Step) :
    Accounted (state.facing step) (state.misuses step)
      (MayLose state.names (state.facing step) step.operation)
      ((perform state.names step.operation).outcome (state.facing step)).1
      (state.step step).1.session := by
  have valid : (state.facing step).holdings.Valid := sound.valid.answering step.reply
  rw [session_step]
  exact perform_accounted valid sound.tidy sound.anchored step.operation

/-- A step keeps a state sound. -/
protected theorem Sound.step (sound : state.Sound) (step : Step) : (state.step step).1.Sound := by
  have accounted := sound.accounted step
  exact ⟨accounted.valid, accounted.tidy,
    holds_step state step (sound.anchored.mono accounted.made) accounted.anchored⟩

theorem Sound.strays_step (sound : state.Sound) (step : Step) :
    (state.step step).1.session.library.strays =
      state.session.library.strays ++ state.misuses step := (sound.accounted step).strays

theorem losesUnit_iff (state : State) (step : Step) :
    state.losesUnit step = true ↔ (state.facing step).holdings.Loses
      (state.step step).1.session.holdings
      (succeeded ((perform state.names step.operation).outcome (state.facing step)).1) := by
  unfold losesUnit
  rw [isOk_answer_step]
  simp only [Bool.and_eq_true, decide_eq_true_iff, Bool.not_eq_true']
  exact and_assoc

/-- A step loses a unit only if its operation may. -/
theorem Sound.mayLose_of_losesUnit (sound : state.Sound) {step : Step}
    (loses : state.losesUnit step = true) :
    MayLose state.names (state.facing step) step.operation :=
  ((sound.accounted step).losing ((state.losesUnit_iff step).mp loses)).1

/-- A step loses one unit or nothing. -/
theorem Sound.lost_step (sound : state.Sound) (step : Step) :
    ∃ units, (state.step step).1.session.holdings.lost = state.session.holdings.lost ++ units ∧
      (∀ handle ∈ units, handle.sort = .unit) ∧ units.length = (state.losesUnit step).toNat := by
  have accounted := sound.accounted step
  cases loses : state.losesUnit step with
  | true =>
      obtain ⟨-, number, lost⟩ := accounted.losing ((state.losesUnit_iff step).mp loses)
      refine ⟨_, lost, ?_, rfl⟩
      intro handle member
      rw [List.mem_singleton.mp member]
      rfl
  | false =>
      refine ⟨[], ?_, by simp, rfl⟩
      rw [List.append_nil]
      refine accounted.keeping fun lost => ?_
      rw [(state.losesUnit_iff step).mpr lost] at loses
      cases loses

/-- All handles that steps misuse, in order. -/
def misusesIn : State → List Step → List Handle
  | _, [] => []
  | state, next :: rest => state.misuses next ++ misusesIn (state.step next).1 rest

/-- How many units steps lose. -/
def losses : State → List Step → Nat
  | _, [] => 0
  | state, next :: rest => (state.losesUnit next).toNat + losses (state.step next).1 rest

theorem steps_cons (state : State) (next : Step) (rest : List Step) :
    (state.steps (next :: rest)).1 = ((state.step next).1.steps rest).1 := rfl

theorem start_sound (script : Library.Script) (settings : Settings) (storage : Storage) :
    (start script settings storage).Sound where
  valid := Session.start_valid script settings storage
  tidy := by
    rintro _ ⟨⟩
  anchored := by
    rintro _ ⟨⟩

/-- Steps keep a state sound. -/
protected theorem Sound.steps (sound : state.Sound) (steps : List Step) :
    (state.steps steps).1.Sound := by
  induction steps generalizing state with
  | nil => exact sound
  | cons next rest inductionHypothesis => exact inductionHypothesis (sound.step next)

theorem Sound.strays_steps (sound : state.Sound) (steps : List Step) :
    (state.steps steps).1.session.library.strays =
      state.session.library.strays ++ state.misusesIn steps := by
  induction steps generalizing state with
  | nil => exact (List.append_nil _).symm
  | cons next rest inductionHypothesis =>
      rw [steps_cons, inductionHypothesis (sound.step next), sound.strays_step, misusesIn,
        List.append_assoc]

theorem Sound.lost_steps (sound : state.Sound) (steps : List Step) :
    ∃ units, (state.steps steps).1.session.holdings.lost = state.session.holdings.lost ++ units ∧
      (∀ handle ∈ units, handle.sort = .unit) ∧ units.length = state.losses steps := by
  induction steps generalizing state with
  | nil => exact ⟨[], (List.append_nil _).symm, by simp, rfl⟩
  | cons next rest inductionHypothesis =>
      obtain ⟨first, lostFirst, unitsFirst, countFirst⟩ := sound.lost_step next
      obtain ⟨others, lostOthers, unitsOthers, countOthers⟩ := inductionHypothesis (sound.step next)
      refine ⟨first ++ others, ?_, ?_, ?_⟩
      · rw [steps_cons, lostOthers, lostFirst, List.append_assoc]
      · intro handle member
        exact (List.mem_append.mp member).elim (unitsFirst handle) (unitsOthers handle)
      · rw [List.length_append, countFirst, countOthers, losses]

theorem steps_append (state : State) (earlier rest : List Step) :
    (state.steps (earlier ++ rest)).1 = ((state.steps earlier).1.steps rest).1 := by
  induction earlier generalizing state with
  | nil => rfl
  | cons next others inductionHypothesis => exact inductionHypothesis (state.step next).1

/-- How the library answers is no matter of holders. -/
theorem grows_facing (state : State) (step : Step) : state.session.Grows (state.facing step) :=
  .of_same rfl rfl

theorem Sound.grows_step (sound : state.Sound) (step : Step) :
    (state.facing step).Grows (state.step step).1.session := (sound.accounted step).grows

/-- Holders stay what they are, whatever steps follow. -/
theorem Sound.grows_steps (sound : state.Sound) (steps : List Step) :
    state.session.Grows (state.steps steps).1.session := by
  induction steps generalizing state with
  | nil => exact .refl _
  | cons next rest inductionHypothesis =>
      have grown := (grows_facing state next).trans (sound.grows_step next)
      exact grown.trans (inductionHypothesis (sound.step next))

/-- Holders keep what they were made with, whatever steps follow. -/
theorem Sound.keepsContents_steps (sound : state.Sound) (steps : List Step) :
    state.session.holdings.KeepsContents (state.steps steps).1.session.holdings := by
  induction steps generalizing state with
  | nil => exact .refl _
  | cons next rest inductionHypothesis =>
      have facing : state.session.holdings.KeepsContents (state.facing next).holdings :=
        .of_same rfl
      have kept := facing.trans (sound.accounted next).contents
      exact kept.trans (inductionHypothesis (sound.step next))

end State

end Scenario
end Custody
