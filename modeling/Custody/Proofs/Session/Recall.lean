import Custody.Proofs.Scenario.Steps
import Custody.Proofs.Session.Snapshots
import Custody.Proofs.Session.Watch

/-!
# Recalling the commands of a database

A database is asked for all commands once: as soon as copying them succeeds, it remembers the list
and answers with that for ever, without the library and also after it is closed.  As long as copying
fails, nothing is remembered and the next request is made in full.  What a database remembers after
any rounds of requests and closings is therefore the first success.
-/

namespace Custody

open Facade Library

namespace CompilationDatabase

/-- A holder is a database. -/
def IsDatabase (session : Session) (number : Nat) : Prop :=
  ∃ directory memo, session.estate.content? number = some (.database directory memo)

/-- A session in which a database remembers a list, with a further serial used up for the list. -/
def keeping (session : Session) (database : Nat) (copies : List CompileCommand) : Session :=
  { session with
    nextSerial := session.nextSerial + 1
    estate := session.estate.modify database fun record =>
      { record with content := remembering (session.nextSerial, copies) record.content } }

section Outcomes

variable {session : Session} {database : Nat}

/-- A database that remembers a list answers with that and does nothing. -/
theorem commands_outcome_of_memo {memo : Nat × List CompileCommand}
    (remembered : memo? session database = some memo) :
    (commands database).outcome session = (.ok memo, session) := by
  cases present : session.estate.get? database with
  | none =>
      unfold memo? Estate.content? at remembered
      rw [present] at remembered
      cases remembered
  | some record =>
      rw [memo?_of_get? present] at remembered
      unfold commands
      rw [outcome_bind_of_ok (holder_outcome_of_get? present)]
      obtain ⟨handle, owned, dependants, content⟩ := record
      cases content with
      | database directory kept =>
          cases remembered
          rfl
      | _ => cases remembered

/-- Asks a database for all commands and remembers them. -/
def inquire (database : Nat) : Facade (Nat × List CompileCommand) := do
  let handle ← Facade.handle database
  let commands ← snapshot (← Facade.call (Library.Call.allCommands handle))
  let memo := (← Facade.fresh, commands)
  remember database memo
  return memo

/-- A holder that remembers nothing is asked. -/
theorem commands_outcome_of_forgotten {record : Holder Handle Wrapper}
    (present : session.estate.get? database = some record)
    (forgotten : memo? session database = none) :
    (commands database).outcome session = (inquire database).outcome session := by
  rw [memo?_of_get? present] at forgotten
  unfold commands inquire
  rw [outcome_bind_of_ok (holder_outcome_of_get? present)]
  obtain ⟨handle, owned, dependants, content⟩ := record
  cases content with
  | database directory kept =>
      cases forgotten
      rfl
  | _ => rfl

/-- The handle of a closed holder is refused. -/
theorem handle_outcome_of_closed {record : Holder Handle Wrapper}
    (present : session.estate.get? database = some record) (closed : record.handle = none) :
    (handle database).outcome session =
      (.error (.closed record.content.className), session) := by
  rw [handle_outcome, present]
  change (record.handle.elim _ _, session) = _
  rw [closed]
  rfl

/-- A closed holder that remembers nothing refuses. -/
theorem commands_outcome_of_closed {record : Holder Handle Wrapper}
    (present : session.estate.get? database = some record)
    (forgotten : memo? session database = none) (closed : record.handle = none) :
    (commands database).outcome session =
      (.error (.closed record.content.className), session) := by
  rw [commands_outcome_of_forgotten present forgotten]
  exact outcome_bind_of_error (handle_outcome_of_closed present closed) _

theorem remember_outcome (memo : Nat × List CompileCommand) :
    (remember database memo).outcome session =
      (.ok (), { session with
        estate := session.estate.modify database fun record =>
          { record with content := remembering memo record.content } }) := by
  refine Prod.ext rfl ?_
  refine congrArg (fun change => { session with
    estate := session.estate.modify database change }) ?_
  funext ⟨handle, owned, dependants, content⟩
  cases content <;> rfl

/-- An open holder that remembers nothing asks for all commands and remembers the copies. -/
theorem commands_outcome_of_held (valid : session.holdings.Valid)
    (forgotten : memo? session database = none) {handle : Handle}
    (held : session.estate.handle? database = some handle) :
    (commands database).outcome session =
      match copying session 0 (session.library.databaseModel handle) with
      | .error failure => (.error failure, session.inquiring handle .all)
      | .ok copies =>
          (.ok ((session.inquiring handle .all).nextSerial, copies),
            keeping (session.inquiring handle .all) database copies) := by
  obtain ⟨record, present, _⟩ := Estate.handle?_eq_some_iff.mp held
  have copied := snapshot_outcome valid.accurate.regular (Session.isGood_of_held valid held) .all
  change (call (Library.Call.allCommands handle) >>= snapshot).outcome session =
    (copying session 0 (session.library.databaseModel handle), _) at copied
  rw [commands_outcome_of_forgotten present forgotten]
  unfold inquire
  rw [outcome_bind_of_ok (handle_outcome_of_held held), ← bind_assoc, outcome_bind, copied]
  cases copying session 0 (session.library.databaseModel handle) with
  | error failure => rfl
  | ok copies =>
      dsimp only
      rw [outcome_bind_of_ok (outcome_fresh _), outcome_bind_of_ok (remember_outcome _),
        outcome_pure]
      rfl

/-- A closed database refuses to be asked for the commands for a file. -/
theorem commandsFor_outcome_of_closed {record : Holder Handle Wrapper}
    (present : session.estate.get? database = some record) (closed : record.handle = none)
    (filename : Datum) :
    (commandsFor database filename).outcome session =
      (.error (.closed record.content.className), session) :=
  outcome_bind_of_error (handle_outcome_of_closed present closed) _

/-- An open holder is not asked for commands if the file has no name that can be passed on. -/
theorem commandsFor_outcome_of_unencodable {handle : Handle}
    (held : session.estate.handle? database = some handle) {filename : Datum} {failure : Failure}
    (uncoded : filename.encodeName = .error failure) :
    (commandsFor database filename).outcome session = (.error failure, session) := by
  unfold commandsFor
  rw [outcome_bind_of_ok (handle_outcome_of_held held), uncoded]
  rfl

/-- An open holder asks for the commands for a file every time. -/
theorem commandsFor_outcome_of_held (valid : session.holdings.Valid) {handle : Handle}
    (held : session.estate.handle? database = some handle) {filename : Datum} {encoded : Bytes}
    (coded : filename.encodeName = .ok encoded) :
    (commandsFor database filename).outcome session =
      (copying session 0 ((Listing.forFile encoded).items session.library handle),
        session.inquiring handle (.forFile encoded)) := by
  have copied := snapshot_outcome valid.accurate.regular (Session.isGood_of_held valid held)
    (.forFile encoded)
  unfold commandsFor
  rw [outcome_bind_of_ok (handle_outcome_of_held held), coded]
  exact copied

/-- Asking for the commands for a file changes no holder. -/
theorem commandsFor_estate (valid : session.holdings.Valid) (filename : Datum) :
    ((commandsFor database filename).outcome session).2.estate = session.estate := by
  cases held : session.estate.handle? database with
  | none =>
      cases present : session.estate.get? database with
      | none =>
          have refused : (handle database).outcome session = (.error .noSuchPart, session) := by
            rw [handle_outcome, present]
            rfl
          unfold commandsFor
          rw [outcome_bind_of_error refused]
      | some record =>
          rw [Estate.handle?_of_get? present] at held
          rw [commandsFor_outcome_of_closed present held]
  | some handle =>
      cases coded : filename.encodeName with
      | error failure => rw [commandsFor_outcome_of_unencodable held coded]
      | ok encoded =>
          rw [commandsFor_outcome_of_held valid held coded]
          rfl

end Outcomes

/-- What is done with holders in a round. -/
inductive Turn where
  /-- A database is asked for all commands. -/
  | all (database : Nat)
  /-- A database is asked for the commands for a file. -/
  | forFile (database : Nat) (filename : Datum)
  /-- A holder is closed. -/
  | close (number : Nat)

/-- The operation of a turn. -/
def Turn.act : Turn → Facade Unit
  | .all database => do
      let _ ← commands database
  | .forFile database filename => do
      let _ ← commandsFor database filename
  | .close number => Facade.close number

/-- A round: how the library answers in it, which commands its databases have, and what is done. -/
structure Round where
  /-- How the library answers. -/
  reply : Reply
  /-- The commands of its databases. -/
  databases : List DatabaseModel
  /-- What is done. -/
  turn : Turn

/-- The session at the beginning of a round. -/
def Round.facing (round : Round) (session : Session) : Session :=
  { session with
    library := { session.library with
      reply := round.reply
      script := { session.library.script with databases := round.databases } } }

/-- The session after a round. -/
def Round.after (round : Round) (session : Session) : Session :=
  (round.turn.act.outcome (round.facing session)).2

/-- The session after some rounds. -/
def afterRounds (session : Session) (rounds : List Round) : Session :=
  rounds.foldl (fun session round => round.after session) session

/-- What a database answers in a round, if it is asked for all commands and that succeeds. -/
def Round.success? (round : Round) (session : Session) (database : Nat) :
    Option (Nat × List CompileCommand) :=
  match round.turn with
  | .all other =>
      if other = database then
        ((commands other).outcome (round.facing session)).1.toOption
      else none
  | _ => none

/-- What a database answers first in some rounds, if it does not fail every time. -/
def firstSuccess? (session : Session) (database : Nat) :
    List Round → Option (Nat × List CompileCommand)
  | [] => none
  | round :: rest =>
      round.success? session database <|> firstSuccess? (round.after session) database rest

/-- A session in which rounds can begin. -/
structure Ready (session : Session) (database : Nat) : Prop where
  /-- The holdings are valid. -/
  valid : session.holdings.Valid
  /-- The session is tidy. -/
  tidy : session.Tidy
  /-- The holder is a database. -/
  isDatabase : IsDatabase session database

section Rounds

variable {session : Session} {database : Nat}

/-- How the library answers is no matter of holders. -/
theorem Ready.facing (ready : Ready session database) (round : Round) :
    Ready (round.facing session) database :=
  ⟨ready.valid.answering round.reply, ready.tidy, ready.isDatabase⟩

theorem Turn.act_runs {holdings : Holdings} (valid : holdings.Valid) (turn : Turn) :
    Runs holdings turn.act fun _ _ => True := by
  cases turn with
  | all database =>
      exact (commands_runs valid database).bind valid fun _ _ _ _ _ => .pure True.intro
  | forFile database filename =>
      exact (commandsFor_runs valid database filename).bind valid fun _ _ _ _ _ => .pure True.intro
  | close number => exact close_runs valid number

/-- A round leaves a session in which rounds can begin. -/
theorem Ready.after (ready : Ready session database) (round : Round) :
    Ready (round.after session) database := by
  have facing := ready.facing round
  obtain ⟨tidy, course, _⟩ :=
    round.turn.act_runs facing.valid (round.facing session) rfl facing.tidy
  refine ⟨course.valid facing.valid, tidy, ?_⟩
  obtain ⟨directory, memo, present⟩ := facing.isDatabase
  obtain ⟨kept, presentLater, alike⟩ := course.grows.contents present
  obtain ⟨sorted, _, _⟩ := alike
  cases kept with
  | database directory memo => exact ⟨directory, memo, presentLater⟩
  | _ => cases sorted

theorem Ready.afterRounds (ready : Ready session database) (rounds : List Round) :
    Ready (afterRounds session rounds) database := by
  induction rounds generalizing session with
  | nil => exact ready
  | cons round rest inductionHypothesis => exact inductionHypothesis (ready.after round)

theorem memo?_keeping (copies : List CompileCommand) (other : Nat)
    (isDatabase : IsDatabase session database) :
    memo? (keeping session other copies) database =
      if other = database then some (session.nextSerial, copies) else memo? session database := by
  obtain ⟨directory, memo, present⟩ := isDatabase
  obtain ⟨record, found, content⟩ := Option.map_eq_some_iff.mp present
  have changed : (keeping session other copies).estate.get? database =
      if database = other then
        some { record with content := remembering (session.nextSerial, copies) record.content }
      else some record := by
    change (session.estate.modify other _).get? database = _
    rw [Estate.get?_modify, found]
    rfl
  by_cases same : other = database
  · rw [if_pos same.symm] at changed
    rw [if_pos same, memo?_of_get? changed, content]
    rfl
  · rw [if_neg (Ne.symm same)] at changed
    rw [if_neg same, memo?_of_get? changed, memo?_of_get? found]

/-- What a request for all commands comes to: the list that was remembered, a failure that changes
no holder, or a list that is remembered from now on. -/
inductive Resolves (session : Session) (database : Nat) :
    Except Failure (Nat × List CompileCommand) → Session → Prop
  /-- The list was remembered. -/
  | recalled {memo : Nat × List CompileCommand} (remembered : memo? session database = some memo) :
      Resolves session database (.ok memo) session
  /-- The request failed. -/
  | failed {failure : Failure} {after : Session} (same : after.estate = session.estate) :
      Resolves session database (.error failure) after
  /-- The list is new. -/
  | kept {copies : List CompileCommand} {after : Session}
      (forgotten : memo? session database = none) (same : after.estate = session.estate) :
      Resolves session database (.ok (after.nextSerial, copies)) (keeping after database copies)

theorem commands_resolves (valid : session.holdings.Valid) (database : Nat) :
    Resolves session database ((commands database).outcome session).1
      ((commands database).outcome session).2 := by
  cases remembered : memo? session database with
  | some memo =>
      rw [commands_outcome_of_memo remembered]
      exact .recalled remembered
  | none =>
      cases present : session.estate.get? database with
      | none =>
          have refused : (commands database).outcome session = (.error .noSuchPart, session) := by
            refine outcome_bind_of_error ?_ _
            rw [holder_outcome, present]
            rfl
          rw [refused]
          exact .failed rfl
      | some record =>
          cases opened : record.handle with
          | none =>
              rw [commands_outcome_of_closed present remembered opened]
              exact .failed rfl
          | some handle =>
              have held : session.estate.handle? database = some handle :=
                (Estate.handle?_of_get? present).trans opened
              rw [commands_outcome_of_held valid remembered held]
              cases copying session 0 (session.library.databaseModel handle) with
              | error failure => exact .failed rfl
              | ok copies => exact .kept remembered rfl

/-- What a database remembers after a request for all commands is what it remembered before, or else
the list that it answers with. -/
theorem memo?_commands (ready : Ready session database) (other : Nat) :
    memo? ((commands other).outcome session).2 database =
      (memo? session database <|>
        if other = database then ((commands other).outcome session).1.toOption else none) := by
  have resolves := commands_resolves ready.valid other
  generalize (commands other).outcome session = reached at resolves ⊢
  obtain ⟨result, after⟩ := reached
  dsimp only at resolves ⊢
  cases resolves with
  | recalled remembered =>
      by_cases same : other = database
      · subst same
        rw [remembered]
        rfl
      · rw [if_neg same]
        exact (orElse_failure _).symm
  | failed sameEstate =>
      rw [memo?_congr (congrArg (·.content? database) sameEstate)]
      split <;> exact (orElse_failure _).symm
  | @kept copies after forgotten sameEstate =>
      have isDatabase : IsDatabase after database := by
        unfold IsDatabase
        rw [sameEstate]
        exact ready.isDatabase
      rw [memo?_keeping copies other isDatabase]
      by_cases same : other = database
      · subst same
        rw [if_pos rfl, if_pos rfl, forgotten]
        rfl
      · rw [if_neg same, if_neg same, memo?_congr (congrArg (·.content? database) sameEstate)]
        exact (orElse_failure _).symm

theorem memo?_close (number : Nat) :
    memo? ((Facade.close number).outcome session).2 database = memo? session database := by
  have advances : discipline.Advances session.estate session.library
      (discipline.close number session.estate session.library) :=
    Discipline.closeWithin_advances _ _ _ _
  have closed : ((Facade.close number).outcome session).2.estate =
      (discipline.close number session.estate session.library).estate := by
    unfold Facade.close
    rw [outcome_bind_of_ok (outcome_get session), settle_outcome]
  refine memo?_congr ?_
  rw [closed]
  exact advances.wanes.content?_eq database

/-- What an operation leaves does not depend on what becomes of its value. -/
theorem outcome_discard {α : Type} (action : Facade α) (session : Session) :
    ((do let _ ← action : Facade Unit).outcome session).2 = (action.outcome session).2 := by
  rw [outcome_bind]
  rcases action.outcome session with ⟨failure | value, after⟩ <;> rfl

/-- What a database remembers after a round is what it remembered before, or else what it answered
with success. -/
theorem memo?_after (ready : Ready session database) (round : Round) :
    memo? (round.after session) database =
      (memo? session database <|> round.success? session database) := by
  have facing := ready.facing round
  have quiet (same : memo? (round.after session) database = memo? session database) :
      memo? (round.after session) database = (memo? session database <|> none) := by
    rw [same]
    exact (orElse_failure _).symm
  unfold Round.success?
  cases turn : round.turn with
  | all other =>
      unfold Round.after
      rw [turn]
      refine (congrArg (memo? · database) (outcome_discard (commands other) _)).trans ?_
      exact memo?_commands facing other
  | forFile other filename =>
      refine quiet ?_
      unfold Round.after
      rw [turn]
      refine (congrArg (memo? · database) (outcome_discard (commandsFor other filename) _)).trans ?_
      refine memo?_congr ?_
      rw [commandsFor_estate facing.valid]
      rfl
  | close number =>
      refine quiet ?_
      unfold Round.after
      rw [turn]
      exact memo?_close number

/-- What a database remembers after rounds is what it remembered before, or else the first
success. -/
theorem memo?_afterRounds (ready : Ready session database) (rounds : List Round) :
    memo? (CompilationDatabase.afterRounds session rounds) database =
      (memo? session database <|> firstSuccess? session database rounds) := by
  induction rounds generalizing session with
  | nil =>
      exact (orElse_failure _).symm
  | cons round rest inductionHypothesis =>
      have later := inductionHypothesis (ready.after round)
      rw [memo?_after ready round] at later
      exact later.trans (orElse_assoc _ _ _).symm

end Rounds

/-- What a database answers in a session. -/
structure Responds (session : Session) (database : Nat) : Prop where
  /-- If it remembers a list, it answers with that and does nothing, be it open or closed. -/
  recalls : ∀ memo, memo? session database = some memo →
    (commands database).outcome session = (.ok memo, session)
  /-- If it remembers nothing and is open, it asks for all commands in full.  It remembers the list
  if that succeeds, and nothing if it fails. -/
  asks : memo? session database = none →
    ∀ handle, session.estate.handle? database = some handle →
    ∃ result after, Inquires session handle .all result after ∧
      (commands database).outcome session =
        match result with
        | .error failure => (.error failure, after)
        | .ok copies => (.ok (after.nextSerial, copies), keeping after database copies)
  /-- If it remembers nothing and is closed, it refuses. -/
  refuses : memo? session database = none → session.estate.handle? database = none →
    (commands database).outcome session = (.error (.closed "CompilationDatabase"), session)
  /-- An open database asks for the commands for a file every time, if the file has a name. -/
  asksForFile : ∀ handle, session.estate.handle? database = some handle →
    ∀ filename : Datum,
      (∀ encoded, filename.encodeName = .ok encoded →
        Inquires session handle (.forFile encoded)
          ((commandsFor database filename).outcome session).1
          ((commandsFor database filename).outcome session).2) ∧
      ∀ failure, filename.encodeName = .error failure →
        (commandsFor database filename).outcome session = (.error failure, session)
  /-- A closed database refuses to ask for the commands for a file. -/
  refusesForFile : session.estate.handle? database = none → ∀ filename,
    (commandsFor database filename).outcome session =
      (.error (.closed "CompilationDatabase"), session)

/-- How a database recalls its commands through any rounds of requests and closings, whatever the
library answers in them. -/
structure RecallsCommands (session : Session) (database : Nat) : Prop where
  /-- What it remembers after the rounds is what it remembered before, or else its first success. -/
  first : ∀ rounds, memo? (afterRounds session rounds) database =
    (memo? session database <|> firstSuccess? session database rounds)
  /-- It answers accordingly in the round after them. -/
  responds : ∀ rounds (round : Round),
    Responds (round.facing (afterRounds session rounds)) database

section Responding

variable {session : Session} {database : Nat}

theorem Ready.responds (ready : Ready session database) : Responds session database := by
  obtain ⟨directory, memo, content⟩ := ready.isDatabase
  obtain ⟨record, present, isDatabase⟩ := Option.map_eq_some_iff.mp content
  have named : record.content.className = "CompilationDatabase" := by
    rw [isDatabase]
    rfl
  exact {
    recalls := fun memo remembered => commands_outcome_of_memo remembered
    asks := fun forgotten handle held =>
      ⟨_, _, inquires .all, commands_outcome_of_held ready.valid forgotten held⟩
    refuses := fun forgotten closed => by
      rw [Estate.handle?_of_get? present] at closed
      rw [commands_outcome_of_closed present forgotten closed, named]
    asksForFile := fun handle held filename => by
      refine ⟨fun encoded coded => ?_, fun failure uncoded =>
        commandsFor_outcome_of_unencodable held uncoded⟩
      rw [commandsFor_outcome_of_held ready.valid held coded]
      exact inquires (.forFile encoded)
    refusesForFile := fun closed filename => by
      rw [Estate.handle?_of_get? present] at closed
      rw [commandsFor_outcome_of_closed present closed, named] }

theorem Ready.recallsCommands (ready : Ready session database) :
    RecallsCommands session database where
  first rounds := memo?_afterRounds ready rounds
  responds rounds round := ((ready.afterRounds rounds).facing round).responds

end Responding

end CompilationDatabase

namespace Scenario

open CompilationDatabase

/-- Whatever a scenario does, all databases in it recall their commands. -/
theorem steps_recallCommands (script : Library.Script) (settings : Settings) (storage : Storage)
    (steps : List Step) {database : Nat}
    (isDatabase :
      IsDatabase ((State.start script settings storage).steps steps).1.session database) :
    RecallsCommands ((State.start script settings storage).steps steps).1.session database := by
  have sound := (State.start_sound script settings storage).steps steps
  exact Ready.recallsCommands ⟨sound.valid, sound.tidy, isDatabase⟩

/-- Opening the database of a directory. -/
def openingDatabase : List Step := [⟨.openDatabase (.text "build"), {}, some "database"⟩]

/-- The session after that, with a file that makes the directory a database. -/
def openedSession : Session :=
  ((State.start ⟨[], [], [[]], 0⟩ .blank
    (.ofPaths [("build/compile_commands.json", some [])])).steps openingDatabase).1.session

theorem openedSession_recalls :
    IsDatabase openedSession 0 ∧ RecallsCommands openedSession 0 := by
  have isDatabase : IsDatabase openedSession 0 := ⟨"build", none, rfl⟩
  exact ⟨isDatabase, steps_recallCommands _ _ _ openingDatabase isDatabase⟩

/-- A null command fails a first request, the second one succeeds, and the third one is answered
after closing. -/
example :
    let command : CommandModel := ⟨some [0x2F], some [0x61], [some [0x63, 0x63], none, some [0x61]]⟩
    let rounds : List Round :=
      [⟨{}, [[some command, none]], .all 0⟩, ⟨{}, [[some command]], .all 0⟩, ⟨{}, [], .close 0⟩,
        ⟨{}, [], .all 0⟩]
    (memo? (afterRounds openedSession rounds) 0).map (fun memo =>
        (memo.1, memo.2.map fun copy => copy.arguments.map Datum.shown)) =
      some (2, [[Text.ofString "cc", Text.ofString "", Text.ofString "a"]]) := by
  decide +kernel

end Scenario
end Custody
