import Custody.Proofs.Session.Outcomes
import Custody.Proofs.Text.Loan
import Custody.Session.Database

/-!
# Copies of commands

The strings of a command are read one after the other, each under the next number: its directory,
its file and its arguments.  A list of commands is copied in order up to the first null command,
which is the failure.  Strings and numbers are all that copying uses up.
-/

namespace Custody

namespace Library

/-- A string as it is handed out under a number: its bytes are shown unless the reply says
otherwise. -/
def Reply.loan (reply : Reply) (number : Nat) (data : Option Bytes) : Loan :=
  ⟨data, !reply.hidden.contains number⟩

/-- Strings as they are handed out in turn, numbered from a number on. -/
def Reply.loans (reply : Reply) : Nat → List (Option Bytes) → List Loan
  | _, [] => []
  | number, data :: rest => reply.loan number data :: reply.loans (number + 1) rest

@[simp] theorem Reply.length_loans (reply : Reply) (number : Nat) (strings : List (Option Bytes)) :
    (reply.loans number strings).length = strings.length := by
  induction strings generalizing number with
  | nil => rfl
  | cons data rest inductionHypothesis =>
      rw [Reply.loans, List.length_cons, List.length_cons, inductionHypothesis]

theorem Reply.loans_append (reply : Reply) (number : Nat) (first second : List (Option Bytes)) :
    reply.loans number (first ++ second) =
      reply.loans number first ++ reply.loans (number + first.length) second := by
  induction first generalizing number with
  | nil => rfl
  | cons data rest inductionHypothesis =>
      rw [List.cons_append, Reply.loans, Reply.loans, inductionHypothesis, List.cons_append,
        List.length_cons, Nat.add_assoc, Nat.add_comm 1]

/-- The text that is read of a string. -/
def Reply.text (reply : Reply) (number : Nat) (data : Option Bytes) : Text :=
  Text.ofString (reply.loan number data).read

/-- The texts that are read of strings in turn. -/
def Reply.texts (reply : Reply) (number : Nat) (strings : List (Option Bytes)) : List Text :=
  (reply.loans number strings).map fun loan => Text.ofString loan.read

/-- The strings of a command, in the order in which they are read. -/
def CommandModel.strings (command : CommandModel) : List (Option Bytes) :=
  command.directory :: command.filename :: command.arguments

/-- The copy of a command with a serial, if its strings are numbered from a number on. -/
def Reply.copied (reply : Reply) (number serial : Nat) (command : CommandModel) :
    CompileCommand where
  serial := serial
  directory := .text (reply.text number command.directory)
  filename := .text (reply.text (number + 1) command.filename)
  arguments := (reply.texts (number + 2) command.arguments).map .text

/-- The copies of commands in order, with serials and strings that are numbered consecutively. -/
def Reply.copies (reply : Reply) : Nat → Nat → List CommandModel → List CompileCommand
  | _, _, [] => []
  | number, serial, command :: rest =>
      reply.copied number serial command ::
        reply.copies (number + command.strings.length) (serial + 1) rest

/-- The strings of several commands. -/
def stringsOf (commands : List CommandModel) : List (Option Bytes) :=
  commands.flatMap CommandModel.strings

/-- The copy at a position is of the command there, and its strings come after those of the commands
before. -/
theorem Reply.getElem?_copies (reply : Reply) (number serial : Nat)
    (commands : List CommandModel) (position : Nat) :
    (reply.copies number serial commands)[position]? =
      commands[position]?.map (reply.copied
        (number + (stringsOf (commands.take position)).length) (serial + position)) := by
  induction commands generalizing number serial position with
  | nil => rfl
  | cons command rest inductionHypothesis =>
      cases position with
      | zero => rfl
      | succ position =>
          rw [Reply.copies, List.getElem?_cons_succ, List.getElem?_cons_succ, inductionHypothesis,
            List.take_succ_cons, stringsOf, stringsOf, List.flatMap_cons, List.length_append,
            Nat.add_assoc, Nat.add_assoc, Nat.add_comm 1]

/-- The library after strings were handed out and those with data given back. -/
def State.lending (state : State) (strings : List (Option Bytes)) : State :=
  { state with
    lent := state.lent ++ state.reply.loans state.lent.length strings
    returned := state.returned ++
      dueFrom state.lent.length (state.reply.loans state.lent.length strings) }

@[simp] theorem State.lending_nil (state : State) : state.lending [] = state := by
  unfold lending Reply.loans
  rw [List.append_nil, dueFrom_nil, List.append_nil]

theorem State.lending_append (state : State) (first second : List (Option Bytes)) :
    state.lending (first ++ second) = (state.lending first).lending second := by
  unfold lending
  simp only [Reply.loans_append, dueFrom_append, List.append_assoc, Reply.length_loans,
    List.length_append]

/-- Reading a string that is lent. -/
theorem Call.lend_settle_run (data : Option Bytes) (state : State) :
    Id.run (StateT.run (do settle (← lend data)) state) =
      ((state.reply.loan state.lent.length data).read, state.lending [data]) := by
  have unfolded : Id.run (StateT.run (do settle (← lend data)) state) =
      Id.run (StateT.run (settle ⟨state.lent.length, state.reply.loan state.lent.length data⟩)
        { state with lent := state.lent ++ [state.reply.loan state.lent.length data] }) := rfl
  have due : dueFrom state.lent.length (state.reply.loans state.lent.length [data]) =
      Lent.due ⟨state.lent.length, state.reply.loan state.lent.length data⟩ := by
    rw [Reply.loans, Reply.loans, dueFrom_cons, dueFrom_nil, List.append_nil]
    rfl
  rw [unfolded, settle_run, ← due]
  rfl

end Library

open Facade Library

/-- A session after strings were read and serials were used up. -/
def Session.borrowing (session : Session) (strings : List (Option Bytes)) (serials : Nat) :
    Session :=
  { session with
    library := session.library.lending strings
    nextSerial := session.nextSerial + serials }

theorem Session.borrowing_borrowing (session : Session) (first second : List (Option Bytes))
    (serials more : Nat) :
    (session.borrowing first serials).borrowing second more =
      session.borrowing (first ++ second) (serials + more) := by
  unfold borrowing
  rw [State.lending_append, Nat.add_assoc]

@[simp] theorem Session.length_lent_borrowing (session : Session) (strings : List (Option Bytes))
    (serials : Nat) :
    (session.borrowing strings serials).library.lent.length =
      session.library.lent.length + strings.length := by
  change (session.library.lent ++ _).length = _
  rw [List.length_append, Reply.length_loans]

namespace CompilationDatabase

variable (session : Session)

theorem borrowed_outcome (data : Option Bytes) :
    (borrowed (Call.lend data)).outcome session =
      (.ok (session.library.reply.loan session.library.lent.length data).read,
        session.borrowing [data] 0) := by
  unfold borrowed
  rw [outcome_call, Call.lend_settle_run]
  rfl

/-- The strings of a list are read in order. -/
theorem borrowAll_outcome (strings : List (Option Bytes)) :
    (strings.mapM fun data => borrowed (Call.lend data)).outcome session =
      (.ok ((session.library.reply.loans session.library.lent.length strings).map Loan.read),
        session.borrowing strings 0) := by
  induction strings generalizing session with
  | nil =>
      rw [List.mapM_nil, outcome_pure]
      unfold Session.borrowing
      rw [State.lending_nil]
      rfl
  | cons data rest inductionHypothesis =>
      rw [List.mapM_cons, outcome_bind_of_ok (borrowed_outcome session data),
        outcome_bind_of_ok (inductionHypothesis _), outcome_pure, Session.borrowing_borrowing,
        Session.length_lent_borrowing]
      rfl

/-- Copying a command reads its strings and uses up a serial. -/
theorem copy_outcome (command : CommandModel) :
    (copy command).outcome session =
      (.ok (session.library.reply.copied session.library.lent.length session.nextSerial command),
        session.borrowing command.strings 1) := by
  unfold copy
  rw [outcome_bind_of_ok (borrowed_outcome session _),
    outcome_bind_of_ok (borrowed_outcome _ _), outcome_bind_of_ok (borrowAll_outcome _ _),
    outcome_bind_of_ok (outcome_fresh _), outcome_pure, Session.borrowing_borrowing,
    Session.borrowing_borrowing, List.map_map]
  simp only [Session.length_lent_borrowing]
  unfold Reply.copied Reply.texts
  rw [List.map_map]
  rfl

/-- The commands of a list that stand before the first null command. -/
def readable : List (Option CommandModel) → List CommandModel
  | some command :: rest => command :: readable rest
  | _ => []

/-- What copying a list of commands from a position on comes to: copies of all commands in order, or
the failure that names the position of the first null command. -/
def copying (session : Session) (position : Nat) (items : List (Option CommandModel)) :
    Except Failure (List CompileCommand) :=
  match items.findIdx? Option.isNone with
  | none => .ok (session.library.reply.copies session.library.lent.length session.nextSerial
      items.reduceOption)
  | some offset => .error (.nullCommand (position + offset))

/-- A list without null commands is copied. -/
theorem copying_of_commands (position : Nat) (commands : List CommandModel) :
    copying session position (commands.map some) =
      .ok (session.library.reply.copies session.library.lent.length session.nextSerial
        commands) := by
  have clean : (commands.map some).findIdx? Option.isNone = none := by
    rw [List.findIdx?_eq_none_iff]
    rintro _ member
    obtain ⟨command, _, rfl⟩ := List.mem_map.mp member
    rfl
  have all : (commands.map some).reduceOption = commands := by
    change (commands.map some).filterMap id = commands
    rw [List.filterMap_map]
    exact List.filterMap_some
  unfold copying
  rw [clean, all]

/-- Copying fails at the first null command. -/
theorem copying_of_null (position : Nat) (commands : List CommandModel)
    (rest : List (Option CommandModel)) :
    copying session position (commands.map some ++ none :: rest) =
      .error (.nullCommand (position + commands.length)) := by
  have first : (commands.map some ++ none :: rest).findIdx? Option.isNone =
      some commands.length := by
    induction commands with
    | nil => rfl
    | cons command commands inductionHypothesis =>
        rw [List.map_cons, List.cons_append, List.findIdx?_cons, inductionHypothesis]
        rfl
  unfold copying
  rw [first]

/-- A list with a command at its head is copied after the command. -/
theorem copying_cons (position : Nat) (command : CommandModel)
    (rest : List (Option CommandModel)) :
    copying session position (some command :: rest) =
      (copying (session.borrowing command.strings 1) (position + 1) rest).map
        (session.library.reply.copied session.library.lent.length session.nextSerial command ::
          ·) := by
  unfold copying
  rw [List.findIdx?_cons]
  cases rest.findIdx? Option.isNone with
  | none =>
      rw [Session.length_lent_borrowing]
      rfl
  | some offset =>
      dsimp
      rw [Nat.add_assoc, Nat.add_comm 1]
      rfl

/-- A list of commands is copied up to the first null command. -/
theorem copyAll_outcome (position : Nat) (items : List (Option CommandModel)) :
    (copyAll position items).outcome session =
      (copying session position items,
        session.borrowing (stringsOf (readable items)) (readable items).length) := by
  induction items generalizing session position with
  | nil =>
      rw [copyAll, outcome_pure]
      unfold Session.borrowing readable stringsOf
      rw [List.flatMap_nil, State.lending_nil]
      rfl
  | cons item rest inductionHypothesis =>
      cases item with
      | none =>
          rw [copyAll, outcome_throw]
          unfold Session.borrowing readable stringsOf
          rw [List.flatMap_nil, State.lending_nil]
          rfl
      | some command =>
          rw [copyAll, outcome_bind_of_ok (copy_outcome session command), outcome_bind,
            inductionHypothesis, copying_cons, Session.borrowing_borrowing, readable,
            List.length_cons, Nat.add_comm 1 (readable rest).length]
          cases copying (session.borrowing command.strings 1) (position + 1) rest with
          | error failure => rfl
          | ok copies => rfl

end CompilationDatabase
end Custody
