import Custody.Proofs.Estate.Worlds
import Custody.Proofs.Library.Loans
import Custody.Proofs.Library.Models
import Custody.Proofs.Session.Outcomes
import Custody.Session.Database
import Custody.Session.Source

/-!
# Watches

A watch says what is kept while operations run: a relation between the sessions before and after,
something that is true of every session, the numbers of locations that may be read, and the compile
commands that may be handed out.  A watch is steady when it does not mind what most operations do:
to use up numbers, to make and close holders, to leave marks and records, and to ask the library.
What some operations do besides is left to further demands on the watch: to record where a location
lies, to make units and sets, and to change unsaved files.

The operations are walked once, for every watch.  A watch that is to be kept in every run only has
to be shown to meet the demands.
-/

namespace Custody

/-- What the library found when a location was read. -/
def Expansion.native (expansion : Expansion) : Library.NativeExpansion :=
  ⟨expansion.file.map File.native, expansion.line, expansion.column, expansion.offset⟩

namespace Library

/-- What was owed is owed still, and nothing else is. -/
def State.SameDebts (before after : State) : Prop :=
  ∀ (origin : State) (debt : Debt), origin.Owes debt before → origin.Owes debt after

theorem State.SameDebts.refl (state : State) : state.SameDebts state := fun _ _ owes => owes

/-- Debts that outlast two changes of the library outlast both in turn. -/
theorem State.SameDebts.trans {before middle after : State} (first : before.SameDebts middle)
    (rest : middle.SameDebts after) : before.SameDebts after :=
  fun origin debt owes => rest origin debt (first origin debt owes)

/-- A request leaves the models and all debts alone. -/
structure Call.Calm {α : Type} (request : Call α) : Prop where
  /-- The models stay the same. -/
  models : request.Leaves State.SameModels
  /-- What is handed out is given back. -/
  debts : request.Square

end Library

namespace CompilationDatabase

/-- The list that a holder remembers, if it is a database that does. -/
def recalled : Wrapper → Option (Nat × List CompileCommand)
  | .database _ memo => memo
  | _ => none

/-- What a database remembers. -/
def memo? (session : Session) (database : Nat) : Option (Nat × List CompileCommand) :=
  (session.estate.content? database).bind recalled

variable {session : Session} {database : Nat}

/-- A holder that is there remembers what its content recalls. -/
theorem memo?_of_get? {record : Holder Handle Wrapper}
    (present : session.estate.get? database = some record) :
    memo? session database = recalled record.content := by
  unfold memo?
  rw [Estate.content?_of_get? present]
  rfl

/-- What a holder remembers depends on what it is. -/
theorem memo?_congr {later : Session}
    (same : later.estate.content? database = session.estate.content? database) :
    memo? later database = memo? session database := by
  unfold memo?
  rw [same]

end CompilationDatabase

open CompilationDatabase (recalled memo? memo?_congr memo?_of_get?)

namespace Session

/-- A command is on the list that a database remembers. -/
def Remembers (session : Session) (command : CompileCommand) : Prop :=
  ∃ database memo, memo? session database = some memo ∧ command ∈ memo.2

/-- What is remembered depends on what the holders are. -/
theorem Remembers.of_contents {before after : Session} {command : CompileCommand}
    (same : ∀ number, after.estate.content? number = before.estate.content? number)
    (remembers : after.Remembers command) : before.Remembers command := by
  obtain ⟨database, memo, kept, listed⟩ := remembers
  exact ⟨database, memo, (memo?_congr (same database)).symm.trans kept, listed⟩

/-- A change that is aside from the models and the debts of the library, from the expansions that
were recorded and from the unsaved files.  It gives no number out again, and only commands of a
kind come to be remembered. -/
structure Aside (admits : CompileCommand → Prop) (before after : Session) : Prop where
  /-- The models are the same. -/
  models : before.library.SameModels after.library
  /-- The debts are the same. -/
  debts : before.library.SameDebts after.library
  /-- The expansions are the same. -/
  expansions : after.expansions = before.expansions
  /-- The unsaved files are the same. -/
  unsaved : after.unsaved = before.unsaved
  /-- No number is given out again. -/
  serials : before.nextSerial ≤ after.nextSerial
  /-- What comes to be remembered is admitted. -/
  memos : ∀ command, after.Remembers command → before.Remembers command ∨ admits command

namespace Aside

variable {admits : CompileCommand → Prop} {before middle after : Session}

/-- The library and the holders are as they were. -/
theorem of_same (library : after.library = before.library) (estate : after.estate = before.estate)
    (expansions : after.expansions = before.expansions) (unsaved : after.unsaved = before.unsaved)
    (serials : before.nextSerial ≤ after.nextSerial) : Aside admits before after where
  models := library ▸ .refl _
  debts := library ▸ .refl _
  expansions := expansions
  unsaved := unsaved
  serials := serials
  memos _ remembers := .inl (remembers.of_contents fun _ => by rw [estate])

/-- The library is asked something. -/
theorem of_library {library : Library.State} (models : before.library.SameModels library)
    (debts : before.library.SameDebts library) :
    Aside admits before { before with library := library } where
  models := models
  debts := debts
  expansions := rfl
  unsaved := rfl
  serials := Nat.le_refl _
  memos _ remembers := .inl remembers

/-- The holders are changed, but not what they are. -/
theorem of_contents {estate : Estate Handle Wrapper} {adoptions : List Adoption}
    (same : ∀ number, estate.content? number = before.estate.content? number) :
    Aside admits before { before with estate := estate, adoptions := adoptions } where
  models := .refl _
  debts := .refl _
  expansions := rfl
  unsaved := rfl
  serials := Nat.le_refl _
  memos _ remembers := .inl (Remembers.of_contents same remembers)

/-- A holder is made that remembers nothing. -/
theorem of_holder (record : Holder Handle Wrapper) (forgetful : recalled record.content = none)
    (made : List Handle) :
    Aside admits before { before with estate := before.estate.add record, made := made } where
  models := .refl _
  debts := .refl _
  expansions := rfl
  unsaved := rfl
  serials := Nat.le_refl _
  memos command := by
    rintro ⟨database, memo, kept, listed⟩
    refine .inl ⟨database, memo, ?_, listed⟩
    unfold memo? at kept ⊢
    dsimp only at kept
    rw [Estate.content?_add] at kept
    split at kept
    · rw [Option.bind_some, forgetful] at kept
      cases kept
    · exact kept

/-- A database comes to remember a list. -/
theorem of_memo (database : Nat) (memo : Nat × List CompileCommand)
    (admitted : ∀ command ∈ memo.2, admits command) :
    Aside admits before ((CompilationDatabase.remember database memo).outcome before).2 where
  models := .refl _
  debts := .refl _
  expansions := rfl
  unsaved := rfl
  serials := Nat.le_refl _
  memos command := by
    rintro ⟨other, list, kept, listed⟩
    obtain ⟨content, present, recalls⟩ := Option.bind_eq_some_iff.mp kept
    obtain ⟨record, found, rfl⟩ := Option.map_eq_some_iff.mp present
    change (before.estate.modify database _).get? other = some record at found
    rw [Estate.get?_modify] at found
    split at found
    · obtain ⟨former, presentBefore, rfl⟩ := Option.map_eq_some_iff.mp found
      split at recalls
      · cases recalls
        exact .inr (admitted command listed)
      · exact .inl ⟨other, list, (memo?_of_get? presentBefore).trans recalls, listed⟩
    · exact .inl ⟨other, list, (memo?_of_get? found).trans recalls, listed⟩

end Aside
end Session

/-- What is watched while operations run. -/
structure Watch where
  /-- How the session before an operation is related to the one after it. -/
  relation : Session → Session → Prop
  /-- What is true of every session. -/
  holds : Session → Prop
  /-- The numbers of the locations that may be read. -/
  issued : Session → Nat → Prop
  /-- The compile commands that may be handed out. -/
  admits : CompileCommand → Prop

namespace Watch

/-- A session may be followed by another one. -/
def Allows (watch : Watch) (before after : Session) : Prop :=
  watch.holds before → watch.relation before after ∧ watch.holds after

/-- A watch that does not mind what most operations do. -/
class Steady (watch : Watch) : Prop where
  /-- The relation is reflexive. -/
  refl : ∀ session, watch.relation session session
  /-- The relation is transitive. -/
  trans : ∀ {before middle after : Session}, watch.relation before middle →
    watch.relation middle after → watch.relation before after
  /-- A location that may be read may be read later. -/
  lasts : ∀ {before after : Session} {number : Nat}, watch.relation before after →
    watch.issued before number → watch.issued after number
  /-- What is aside is allowed. -/
  aside : ∀ {before after : Session}, before.Aside watch.admits after → watch.Allows before after
  /-- The number that is given out may be that of a location that is read. -/
  fresh : ∀ session : Session,
    watch.issued { session with nextSerial := session.nextSerial + 1 } session.nextSerial
  /-- What is remembered may be handed out. -/
  recalls : ∀ {session : Session} {command : CompileCommand}, watch.holds session →
    session.Remembers command → watch.admits command
  /-- A command of the library may be handed out. -/
  copies : ∀ (serial : Nat) (directory filename : String) (arguments : List String),
    watch.admits ⟨serial, .text directory, .text filename,
      arguments.map fun argument => .text (Text.ofString argument)⟩

/-- A watch that allows for recording where a location lies at present. -/
class Recording (watch : Watch) : Prop extends Steady watch where
  /-- One more expansion is recorded. -/
  records : ∀ {session : Session} {location : Location} {expansion : Expansion},
    expansion.native = session.library.expand location.native →
      watch.issued session location.serial →
        watch.Allows session
          { session with expansions := session.expansions ++ [(location, expansion)] }

/-- A watch that allows for making units, sets and databases and for parsing units again. -/
class Producing (watch : Watch) : Prop extends Steady watch where
  /-- The library has the same script and the same debts, but maybe other models. -/
  produces : ∀ {session : Session} {library : Library.State},
    session.library.SameScript library → session.library.SameDebts library →
      watch.Allows session { session with library := library }

/-- A watch that allows for making and changing unsaved files. -/
class Revising (watch : Watch) : Prop extends Steady watch where
  /-- The unsaved files are replaced. -/
  revises : ∀ {session : Session} {files : List UnsavedFile},
    watch.Allows session { session with unsaved := files }

/-- A watch on a relation alone. -/
def of (relation : Session → Session → Prop) : Watch where
  relation := relation
  holds _ := True
  issued _ _ := True
  admits _ := True

/-- A preorder that only minds the models of the library, the expansions that were recorded and the
unsaved files makes a steady watch. -/
theorem of_steady {relation : Session → Session → Prop} [IsPreorder Session relation]
    (aside : ∀ {before after : Session}, before.library.SameModels after.library →
      after.expansions = before.expansions → after.unsaved = before.unsaved →
        relation before after) : Steady (of relation) where
  refl := refl_of relation
  trans := trans_of relation
  lasts _ _ := True.intro
  aside change _ := ⟨aside change.models change.expansions change.unsaved, True.intro⟩
  fresh _ := True.intro
  recalls _ _ := True.intro
  copies _ _ _ _ := True.intro

/-- How an operation ends that keeps a watch, also if it fails. -/
structure Ends {α : Type} (watch : Watch) (before : Session) (fits : Session → α → Prop)
    (outcome : Except Failure α × Session) : Prop where
  /-- The session after it is in the relation to the one before. -/
  relation : watch.relation before outcome.2
  /-- What is true of every session is true of the one after it. -/
  holds : watch.holds outcome.2
  /-- The value fits the session after it. -/
  fits : ∀ value, outcome.1 = .ok value → fits outcome.2 value

variable {α β : Type} {watch : Watch} {before : Session}

/-- What follows matters only if the operation succeeds. -/
theorem Ends.bind
    [Steady watch]
    {action : Facade β}
    {next : β → Facade α}
    {middle : Session → β → Prop}
    {fits : Session → α → Prop}
    (first : watch.Ends before middle (action.outcome before))
    (rest : ∀ value later, action.outcome before = (.ok value, later) → watch.holds later →
      middle later value → watch.Ends later fits ((next value).outcome later)) :
    watch.Ends before fits ((action >>= next).outcome before) := by
  rw [Facade.outcome_bind]
  rcases reached : action.outcome before with ⟨failure | value, later⟩
  all_goals rw [reached] at first
  · exact ⟨first.relation, first.holds, by rintro _ ⟨⟩⟩
  · obtain ⟨related, held, fine⟩ := rest value later reached first.holds (first.fits value rfl)
    exact ⟨Steady.trans first.relation related, held, fine⟩

end Watch

open Watch

namespace Facade

variable {α β : Type} {watch : Watch} {begun : Session}

/-- Wherever an operation begins after a session, it keeps the watch, and its value fits. -/
def Keeps (watch : Watch) (begun : Session) (action : Facade α) (fits : Session → α → Prop) :
    Prop :=
  ∀ session, watch.relation begun session → watch.holds session →
    watch.Ends session fits (action.outcome session)

/-- Wherever an operation begins after a session, it keeps the watch. -/
def Abides (watch : Watch) (begun : Session) (action : Facade α) : Prop :=
  Keeps watch begun action fun _ _ => True

/-- An operation abides where the session that it leaves is one that the watch allows. -/
theorem Abides.of_allows {action : Facade α}
    (allowed : ∀ session, watch.relation begun session →
      watch.Allows session (action.outcome session).2) : Abides watch begun action :=
  fun session reached held =>
    have ⟨related, heldAfter⟩ := allowed session reached held
    ⟨related, heldAfter, fun _ _ => True.intro⟩

/-- What fits may be weakened. -/
theorem Keeps.mono {fits weaker : Session → α → Prop} {action : Facade α}
    (first : Keeps watch begun action fits)
    (weakens : ∀ later value, fits later value → weaker later value) :
    Keeps watch begun action weaker := fun session reached held =>
  have ended := first session reached held
  ⟨ended.relation, ended.holds, fun value succeeded => weakens _ value (ended.fits value succeeded)⟩

/-- An operation whose value fits keeps the watch all the more. -/
theorem Keeps.abides {fits : Session → α → Prop} {action : Facade α}
    (first : Keeps watch begun action fits) : Abides watch begun action :=
  first.mono fun _ _ _ => True.intro

/-- What may depend on the present session is kept where it is kept in each. -/
theorem Keeps.getThen {fits : Session → α → Prop} {next : Session → Facade α}
    (rest : ∀ session, watch.relation begun session → watch.holds session →
      watch.Ends session fits ((next session).outcome session)) :
    Keeps watch begun (get >>= next) fits := rest

variable [Steady watch]

namespace Keeps

variable {fits : Session → α → Prop}

/-- An operation begins in the session after which it is watched. -/
theorem ends {action : Facade α} (kept : Keeps watch begun action fits)
    (held : watch.holds begun) : watch.Ends begun fits (action.outcome begun) :=
  kept begun (Steady.refl begun) held

omit [Steady watch] in
/-- A watch on a relation alone says how the sessions are related. -/
theorem leaves {relation : Session → Session → Prop} [Steady (Watch.of relation)]
    {action : Facade α} (kept : Keeps (Watch.of relation) begun action fits) :
    relation begun (action.outcome begun).2 := (kept.ends True.intro).relation

/-- Another session takes the place of the present one. -/
theorem setThen {session later : Session} {next : PUnit → Facade α}
    (related : watch.relation session later) (held : watch.holds later)
    (rest : Keeps watch later (next ⟨⟩) fits) :
    watch.Ends session fits ((set later >>= next).outcome session) := by
  have ended := rest later (Steady.refl later) held
  exact ⟨Steady.trans related ended.relation, ended.holds, ended.fits⟩

/-- A value fits that fits every session after the first one. -/
theorem pure {value : α}
    (holds : ∀ session, watch.relation begun session → fits session value) :
    Keeps watch begun (Pure.pure value) fits := by
  refine fun session reached held => ⟨Steady.refl session, held, ?_⟩
  rintro _ ⟨⟩
  exact holds session reached

/-- A failure leaves the session as it is, and no value has to fit. -/
theorem throw (failure : Failure) : Keeps watch begun (MonadExcept.throw failure) fits :=
  fun session _ held => ⟨Steady.refl session, held, by rintro _ ⟨⟩⟩

/-- Nothing follows after a failure. -/
theorem throwThen {next : β → Facade α} (failure : Failure) :
    Keeps watch begun (MonadExcept.throw failure >>= next) fits := throw failure

/-- What follows an operation begins in the session that the operation has left. -/
theorem bind
    {action : Facade β}
    {next : β → Facade α}
    {middle : Session → β → Prop}
    (first : Keeps watch begun action middle)
    (rest : ∀ value later, watch.relation begun later → middle later value →
      Keeps watch later (next value) fits) : Keeps watch begun (action >>= next) fits := by
  intro session reached held
  have ended := first session reached held
  refine Ends.bind ended fun value later finished heldLater fine => ?_
  have grown : watch.relation begun later :=
    Steady.trans reached (by simpa only [finished] using ended.relation)
  exact rest value later grown fine later (Steady.refl later) heldLater

/-- After an operation that only keeps the watch, whatever was true when it began may be used. -/
theorem after {action : Facade β} {next : β → Facade α} (first : Abides watch begun action)
    (rest : ∀ value, Keeps watch begun (next value) fits) :
    Keeps watch begun (action >>= next) fits := by
  intro session reached held
  have ended := first session reached held
  refine Ends.bind ended fun value later finished heldLater _ => ?_
  exact rest value later
    (Steady.trans reached (by simpa only [finished] using ended.relation)) heldLater

omit [Steady watch] in
/-- Each branch may use what the condition has decided. -/
theorem ite {condition : Prop} [Decidable condition] {first second : Facade α}
    (whenTrue : condition → Keeps watch begun first fits)
    (whenFalse : ¬ condition → Keeps watch begun second fits) :
    Keeps watch begun (if condition then first else second) fits := by
  split
  · next holds => exact whenTrue holds
  · next fails => exact whenFalse fails

/-- A computed result leaves the session as it is, so only its value has to fit. -/
theorem ofExcept {result : Except Failure α}
    (holds : ∀ value, result = .ok value →
      ∀ session, watch.relation begun session → fits session value) :
    Keeps watch begun (ofExcept result) fits := by
  cases result with
  | error failure => exact .throw failure
  | ok value => exact .pure (holds value rfl)

omit [Steady watch] in
/-- An attempt cannot fail, and the value fits if there is one. -/
theorem attempt {action : Facade α} (first : Keeps watch begun action fits) :
    Keeps watch begun (Facade.attempt action) fun later result =>
      ∀ value, result = .ok value → fits later value := by
  intro session reached held
  obtain ⟨related, heldAfter, fine⟩ := first session reached held
  refine ⟨related, heldAfter, ?_⟩
  rintro _ ⟨⟩
  exact fine

/-- What fits a session has to fit all later ones for this. -/
theorem mapM
    {items : List β}
    {change : β → Facade α}
    (lasts : ∀ later further value, watch.relation later further → fits later value →
      fits further value)
    (each : ∀ item ∈ items, ∀ later, watch.relation begun later →
      Keeps watch later (change item) fits) :
    Keeps watch begun (items.mapM change) fun later values =>
      ∀ value ∈ values, fits later value := by
  induction items generalizing begun with
  | nil => exact .pure (by simp)
  | cons item rest inductionHypothesis =>
      rw [List.mapM_cons]
      refine (each item (by simp) begun (Steady.refl begun)).bind fun first middle grown holds => ?_
      have others : ∀ other ∈ rest, ∀ later, watch.relation middle later →
          Keeps watch later (change other) fits := fun other member later further =>
        each other (List.mem_cons_of_mem item member) later (Steady.trans grown further)
      refine (inductionHypothesis others).bind fun values last further allHold => ?_
      refine .pure fun final beyond value member => ?_
      rcases List.mem_cons.mp member with rfl | later
      · exact lasts _ _ _ (Steady.trans further beyond) holds
      · exact lasts _ _ _ beyond (allHold value later)

end Keeps

namespace Abides

/-- To return a value changes nothing. -/
protected theorem pure (value : α) : Abides watch begun (pure value) :=
  Keeps.pure fun _ _ => True.intro

/-- To fail changes nothing. -/
protected theorem throw (failure : Failure) : Abides watch begun (throw failure : Facade α) :=
  Keeps.throw failure

/-- Nothing follows after a failure. -/
protected theorem throwThen {next : α → Facade β} (failure : Failure) :
    Abides watch begun (throw failure >>= next) := Keeps.throw failure

/-- To look at the session changes nothing. -/
protected theorem get : Abides watch begun get :=
  .of_allows fun session _ held => ⟨Steady.refl session, held⟩

/-- A change that is aside from what a steady watch minds. -/
protected theorem modify {change : Session → Session}
    (aside : ∀ session : Session, session.Aside watch.admits (change session)) :
    Abides watch begun (modify change) :=
  .of_allows fun session _ => Steady.aside (aside session)

/-- What follows is watched from the same session, since nothing is asked of the value. -/
protected theorem bind {action : Facade α} {next : α → Facade β} (first : Abides watch begun action)
    (rest : ∀ value, Abides watch begun (next value)) : Abides watch begun (action >>= next) :=
  Keeps.after first rest

/-- What follows may use that the value fits. -/
protected theorem making {action : Facade α} {next : α → Facade β} {middle : Session → α → Prop}
    (first : Keeps watch begun action middle)
    (rest : ∀ value later, watch.relation begun later → middle later value →
      Abides watch later (next value)) : Abides watch begun (action >>= next) :=
  Keeps.bind first rest

/-- A computed result changes nothing, whether it is a value or a failure. -/
protected theorem ofExcept (result : Except Failure α) : Abides watch begun (ofExcept result) :=
  Keeps.ofExcept fun _ _ _ _ => True.intro

omit [Steady watch] in
/-- A failure that is caught has kept the watch like any other end. -/
protected theorem attempt {action : Facade α} (abides : Abides watch begun action) :
    Abides watch begun (Facade.attempt action) := (Keeps.attempt abides).abides

/-- A list of operations abides where each of them does. -/
protected theorem mapM {items : List α} {change : α → Facade β}
    (each : ∀ item ∈ items, Abides watch begun (change item)) :
    Abides watch begun (items.mapM change) := by
  induction items with
  | nil => exact .pure _
  | cons item items inductionHypothesis =>
      rw [List.mapM_cons]
      refine .bind (each item (by simp)) fun _ => .bind (inductionHypothesis ?_) fun _ => .pure _
      exact fun other member => each other (List.mem_cons_of_mem item member)

/-- An operation on a value that may be missing abides where it does on every value. -/
protected theorem optionMapM {change : α → Facade β}
    (each : ∀ value, Abides watch begun (change value)) (item : Option α) :
    Abides watch begun (item.mapM change) := by
  cases item with
  | none => exact .pure _
  | some value => exact .bind (each value) fun _ => .pure _

/-- An action on a value that may be missing abides where it does on every value. -/
protected theorem optionForM {action : α → Facade PUnit}
    (each : ∀ value, Abides watch begun (action value)) (item : Option α) :
    Abides watch begun (item.forM action) := by
  cases item with
  | none => exact .pure _
  | some value => exact each value

omit [Steady watch] in
/-- A choice abides where both of its branches do. -/
protected theorem ite {condition : Prop} [Decidable condition] {first second : Facade α}
    (whenTrue : Abides watch begun first) (whenFalse : Abides watch begun second) :
    Abides watch begun (if condition then first else second) :=
  Keeps.ite (fun _ => whenTrue) fun _ => whenFalse

/-- The library is asked something that leaves the models and all debts alone. -/
protected theorem call {request : Library.Call α} (calm : request.Calm) :
    Abides watch begun (call request) :=
  .of_allows fun session _ => Steady.aside <| .of_library (calm.models session.library)
    fun origin debt => calm.debts debt origin session.library

/-- A string that is read at once is given back at once. -/
protected theorem borrowed {request : Library.Call Library.Lent}
    (models : request.Leaves Library.State.SameModels) (lends : request.Lends) :
    Abides watch begun (borrowed request) :=
  .call ⟨models.bind Library.Call.settle_leaves, lends.settle_square⟩

/-- A string that is read at once is given back at once. -/
protected theorem borrowed? {request : Library.Call Library.Lent}
    (models : request.Leaves Library.State.SameModels) (lends : request.Lends) :
    Abides watch begun (borrowed? request) :=
  .call ⟨models.bind Library.Call.settle?_leaves, lends.settle?_square⟩

/-- A line in the log is aside from all that is watched. -/
protected theorem record (level : LogLevel) (message : Text) :
    Abides watch begun (record level message) :=
  .modify fun _ => .of_same rfl rfl rfl rfl (Nat.le_refl _)

/-- A holder is made aside from a watch where it remembers no commands yet. -/
protected theorem wrap (handle : Option Handle) (owned : Bool) {wrapper : Wrapper}
    (forgetful : recalled wrapper = none) : Abides watch begun (wrap handle owned wrapper) := by
  cases handle with
  | none => exact .throw _
  | some handle => exact .of_allows fun _ _ => Steady.aside (.of_holder _ forgetful _)

/-- An adoption changes no content, so nothing comes to be remembered. -/
protected theorem adopt (parent child : Nat) : Abides watch begun (adopt parent child) :=
  .modify fun session => .of_contents fun _ => Estate.content?_adopt session.estate parent child _

/-- Closing clears holders and moves the library by disposals, and both are aside. -/
theorem aside_of_advances {admits : CompileCommand → Prop} {session : Session}
    {outcome : Outcome Handle Wrapper Library.State}
    (advances : discipline.Advances session.estate session.library outcome) :
    session.Aside admits ((Facade.settle outcome).outcome session).2 := by
  rw [settle_outcome]
  refine ⟨?_, fun origin debt owes => ?_, rfl, rfl, Nat.le_refl _, fun _ remembers => .inl ?_⟩
  · change session.library.SameModels outcome.world
    obtain ⟨_, disposals⟩ := advances
    generalize outcome.world = later at disposals ⊢
    induction disposals with
    | refl => exact .refl _
    | tail _ disposed inductionHypothesis =>
        obtain ⟨_, _, handle, rfl⟩ := disposed
        exact inductionHypothesis.trans (Library.Call.dispose_leaves handle _)
  · exact owes.of_accounts (advances.spares Library.State.accounts fun _ _ _ _ => rfl)
  · exact remembers.of_contents advances.wanes.content?_eq

/-- Closing one holder closes all that depend on it, and all of that is aside. -/
protected theorem close (number : Nat) : Abides watch begun (close number) :=
  .of_allows fun _ _ => Steady.aside (aside_of_advances (Discipline.closeWithin_advances _ _ _ _))

/-- Closing only what depends on a holder is aside as well. -/
protected theorem closeDependants (number : Nat) : Abides watch begun (closeDependants number) :=
  .of_allows fun _ _ =>
    Steady.aside (aside_of_advances (Discipline.closeDependants_advances _ _ _))

end Abides

/-- A list that a holder remembers may be handed out. -/
def Admitted (watch : Watch) (record : Holder Handle Wrapper) : Prop :=
  ∀ memo, recalled record.content = some memo → ∀ command ∈ memo.2, watch.admits command

/-- What a holder remembers may be handed out. -/
theorem holder_keeps (number : Nat) :
    Keeps watch begun (holder number) fun _ record => Admitted watch record := by
  intro session _ held
  rw [holder_outcome]
  refine ⟨Steady.refl session, held, fun record found memo recalls command listed => ?_⟩
  cases present : session.estate.get? number with
  | none =>
      rw [present] at found
      cases found
  | some other =>
      rw [present] at found
      cases found
      exact Steady.recalls held ⟨number, memo, (memo?_of_get? present).trans recalls, listed⟩

namespace Abides

/-- To look up a holder changes nothing. -/
protected theorem holder (number : Nat) : Abides watch begun (holder number) :=
  (holder_keeps number).abides

/-- A handle is looked up or reported closed, and neither changes anything. -/
protected theorem handle (number : Nat) : Abides watch begun (handle number) := by
  refine .bind (.holder number) fun record => ?_
  split
  · exact .pure _
  · exact .throw _

/-- What was passed in another's place is refused before the library is asked. -/
protected theorem passed (given : Passed) : Abides watch begun (passed given) := by
  cases given with
  | holder number => exact .bind (.handle number) fun _ => .pure _
  | other => exact .throw _

/-- The check that a holder is open changes nothing. -/
protected theorem ensureOpen (number : Nat) : Abides watch begun (ensureOpen number) :=
  .bind (.handle number) fun _ => .pure _

/-- To look up the unit of an owner changes nothing. -/
protected theorem unit? (owner : Nat) : Abides watch begun (unit? owner) := by
  refine .bind (.holder owner) fun record => ?_
  split <;> exact .pure _

end Abides

/-- The number that is given out may be that of a location that is read. -/
theorem fresh_keeps : Keeps watch begun fresh watch.issued := by
  intro session _ held
  have later : session.Aside watch.admits { session with nextSerial := session.nextSerial + 1 } :=
    .of_same rfl rfl rfl rfl (Nat.le_succ _)
  obtain ⟨related, heldAfter⟩ := Steady.aside later held
  refine ⟨related, heldAfter, ?_⟩
  rintro _ ⟨⟩
  exact Steady.fresh session

/-- To use up a number keeps a steady watch. -/
theorem fresh_abides : Abides watch begun fresh := fresh_keeps.abides

/-- To read a mark changes nothing. -/
theorem mark?_abides (bearer : Bearer) (name : String) : Abides watch begun (mark? bearer name) :=
  .bind .get fun _ => .pure _

/-- A mark takes a number, and is aside otherwise. -/
theorem putMark_abides (bearer : Bearer) (name : String) (value : Datum) :
    Abides watch begun (putMark bearer name value) :=
  .bind fresh_abides fun _ => .modify fun _ => .of_same rfl rfl rfl rfl (Nat.le_refl _)

section Lending

/-- A request hands out a string, and that is read at once. -/
def readOff (request : Library.Call α) (lent : α → Library.Lent) : Library.Call (α × String) := do
  let answer ← request
  return (answer, ← Library.Call.settle (lent answer))

omit [Steady watch] in
/-- A string that is read at once leaves no debt, whatever else was answered. -/
theorem readOff_square {request : Library.Call α} {lent : α → Library.Lent}
    (turns : ∀ debt : Library.Debt,
      request.Turns debt fun answer => debt.withString (lent answer)) :
    (readOff request lent).Square := fun debt =>
  (turns debt).bind fun answer => (Library.Call.settle_turns debt (lent answer)).bind fun _ =>
    Library.Call.Square.pure _ debt

/-- Two requests in turn are one request. -/
theorem Abides.callThen {request : Library.Call α} {second : α → Library.Call β}
    {next : α → Facade β} (same : ∀ answer, next answer = call (second answer))
    (calm : (request >>= second).Calm) : Abides watch begun (call request >>= next) := by
  rw [funext same]
  exact .call calm

/-- A string that comes with an answer is read before anything else happens. -/
theorem Keeps.lendThen
    {request : Library.Call α}
    {next : α → Facade β}
    {fits : Session → β → Prop}
    (lent : α → Library.Lent)
    (asked : Abides watch begun (call (readOff request lent)))
    (each : ∀ answer, ∃ rest : String → Facade β,
      next answer = (call (Library.Call.settle (lent answer)) >>= rest) ∧
        ∀ text, Keeps watch begun (rest text) fits) :
    Keeps watch begun (call request >>= next) fits := by
  choose rest same kept using each
  rw [funext same]
  change Keeps watch begun (call (readOff request lent) >>= fun both => rest both.1 both.2) fits
  exact .after asked fun both => kept both.1 both.2

end Lending

end Facade
end Custody
