import Custody.Library.Cursor
import Custody.Library.Database
import Custody.Library.Diagnostic
import Custody.Library.Indexing
import Mathlib.Data.List.Basic

/-!
# Loans of the library

The library numbers the strings and the token buffers that it hands out.  Strings with data
and all token buffers have to be given back, strings without data must not be.  A debt lists
what was handed out and has yet to be given back.  Every request turns one debt into another:
most leave it alone, lending adds to it, and taking a string or a buffer back reduces it.
-/

namespace Custody
namespace Library

/-- The numbers of the strings with data among strings that are numbered from a number on. -/
def dueFrom (number : Nat) (loans : List Loan) : List Nat :=
  ((loans.zipIdx number).filter fun entry => entry.1.isDue).map Prod.snd

@[simp] theorem dueFrom_nil (number : Nat) : dueFrom number [] = [] := rfl

/-- The first loan has the first number. -/
theorem dueFrom_cons (number : Nat) (loan : Loan) (loans : List Loan) :
    dueFrom number (loan :: loans) =
      (if loan.isDue then [number] else []) ++ dueFrom (number + 1) loans := by
  cases due : loan.isDue <;> simp [dueFrom, due]

/-- The numbers of a second list go on after those of the first. -/
theorem dueFrom_append (number : Nat) (first second : List Loan) :
    dueFrom number (first ++ second) =
      dueFrom number first ++ dueFrom (number + first.length) second := by
  unfold dueFrom
  rw [List.zipIdx_append, List.filter_append, List.map_append]

/-- A string with data is due once under its number, and nothing else is due. -/
theorem count_dueFrom (start : Nat) (loans : List Loan) (number : Nat) :
    (dueFrom start loans).count number =
      if start ≤ number ∧ (loans[number - start]?).any Loan.isDue then 1 else 0 := by
  induction loans generalizing start with
  | nil => simp
  | cons loan loans inductionHypothesis =>
      rw [dueFrom_cons, List.count_append, inductionHypothesis]
      rcases Nat.lt_trichotomy number start with below | rfl | above
      · have missed : start ≠ number := by omega
        have neither : ¬ start ≤ number ∧ ¬ start + 1 ≤ number := by omega
        cases loan.isDue <;> simp [missed, neither]
      · have past : ¬ number + 1 ≤ number := by omega
        cases due : loan.isDue <;> simp [due, past]
      · have missed : start ≠ number := by omega
        have both : start ≤ number ∧ start + 1 ≤ number := by omega
        have moved : number - start = number - (start + 1) + 1 := by omega
        cases loan.isDue <;> simp [missed, both, moved]

example : dueFrom 3 [⟨none, true⟩, ⟨some [], true⟩, ⟨some [65], false⟩] = [4, 5] := rfl

/-- The number under which a string has to be given back, if it has data. -/
def Lent.due (lent : Lent) : List Nat := if lent.loan.isDue then [lent.number] else []

/-- What was handed out and has yet to be given back. -/
structure Debt where
  /-- The strings. -/
  strings : List Lent
  /-- The token buffers. -/
  buffers : List TokenBuffer

namespace Debt

/-- Everything was given back. -/
def nothing : Debt := ⟨[], []⟩

/-- One more string was handed out. -/
def withString (debt : Debt) (lent : Lent) : Debt := { debt with strings := lent :: debt.strings }

/-- One more token buffer was handed out. -/
def withBuffer (debt : Debt) (buffer : TokenBuffer) : Debt :=
  { debt with buffers := buffer :: debt.buffers }

/-- The numbers of the strings that have to be given back. -/
def due (debt : Debt) : List Nat := debt.strings.flatMap Lent.due

/-- The numbers of the token buffers that have to be given back. -/
def held (debt : Debt) : List Nat := debt.buffers.map TokenBuffer.number

@[simp] theorem due_nothing : nothing.due = [] := rfl

@[simp] theorem held_nothing : nothing.held = [] := rfl

@[simp] theorem due_withString (debt : Debt) (lent : Lent) :
    (debt.withString lent).due = lent.due ++ debt.due := rfl

@[simp] theorem held_withBuffer (debt : Debt) (buffer : TokenBuffer) :
    (debt.withBuffer buffer).held = buffer.number :: debt.held := rfl

end Debt

namespace State

/-- What the library remembers of strings and token buffers. -/
def accounts (state : State) : List Loan × List Nat × List Nat × List Nat :=
  (state.lent, state.returned, state.buffers, state.released)

/-- Of what was handed out between two states, everything that has to be given back was given back
once, but for a debt, and nothing else was. -/
structure Owes (debt : Debt) (before after : State) : Prop where
  /-- The strings with data were given back, and no others. -/
  returned : ∃ loans given, after.lent = before.lent ++ loans ∧
    after.returned = before.returned ++ given ∧
      (given ++ debt.due).Perm (dueFrom before.lent.length loans)
  /-- The token buffers were given back. -/
  released : ∃ sizes given, after.buffers = before.buffers ++ sizes ∧
    after.released = before.released ++ given ∧
      (given ++ debt.held).Perm (List.range' before.buffers.length sizes.length)

namespace Owes

variable {debt : Debt} {before middle after : State}

/-- Nothing was handed out where nothing happened. -/
protected theorem refl (state : State) : Owes .nothing state state where
  returned := ⟨[], [], by simp⟩
  released := ⟨[], [], by simp⟩

/-- Debts depend on the accounts only. -/
theorem of_accounts (owes : Owes debt before middle) (same : after.accounts = middle.accounts) :
    Owes debt before after := by
  simp only [accounts, Prod.mk.injEq] at same
  obtain ⟨lent, returned, buffers, released⟩ := same
  exact ⟨by rw [lent, returned]; exact owes.returned, by
    rw [buffers, released]; exact owes.released⟩

/-- Lending a string adds it to the debt. -/
theorem lend (owes : Owes debt before middle) (loan : Loan) :
    Owes (debt.withString ⟨middle.lent.length, loan⟩) before
      { middle with lent := middle.lent ++ [loan] } where
  returned := by
    obtain ⟨loans, given, lent, returned, due⟩ := owes.returned
    refine ⟨loans ++ [loan], given, by simp [lent], returned, ?_⟩
    have last : dueFrom (before.lent.length + loans.length) [loan] =
        Lent.due ⟨middle.lent.length, loan⟩ := by
      rw [dueFrom_cons, dueFrom_nil, List.append_nil, lent, List.length_append]
      rfl
    rw [dueFrom_append, last, Debt.due_withString]
    exact (List.perm_append_comm_assoc ..).trans (List.perm_append_comm.trans
      (due.append_right _))
  released := owes.released

/-- Giving a string back reduces the debt. -/
theorem giveBack {lent : Lent} (owes : Owes (debt.withString lent) before middle) :
    Owes debt before { middle with returned := middle.returned ++ lent.due } where
  returned := by
    obtain ⟨loans, given, same, returned, due⟩ := owes.returned
    refine ⟨loans, given ++ lent.due, same, by simp [returned], ?_⟩
    rwa [List.append_assoc]
  released := owes.released

/-- Handing out a token buffer adds it to the debt. -/
theorem issue (owes : Owes debt before middle) (tokens : List NativeToken) :
    Owes (debt.withBuffer ⟨middle.buffers.length, tokens⟩) before
      { middle with buffers := middle.buffers ++ [tokens.length] } where
  returned := owes.returned
  released := by
    obtain ⟨sizes, given, buffers, released, due⟩ := owes.released
    refine ⟨sizes ++ [tokens.length], given, by simp [buffers], released, ?_⟩
    rw [List.length_append, List.length_singleton, List.range'_concat, Debt.held_withBuffer,
      buffers, List.length_append, Nat.one_mul]
    exact List.perm_middle.trans ((due.cons _).trans (List.perm_append_singleton _ _).symm)

/-- The order of the strings in a debt does not matter. -/
theorem swap {first second : Lent}
    (owes : Owes ((debt.withString first).withString second) before middle) :
    Owes ((debt.withString second).withString first) before middle where
  returned := by
    obtain ⟨loans, given, lent, returned, due⟩ := owes.returned
    refine ⟨loans, given, lent, returned, ((List.Perm.append_left given ?_).trans due)⟩
    exact List.perm_append_comm_assoc ..
  released := owes.released

/-- Releasing a token buffer reduces the debt. -/
theorem release {buffer : TokenBuffer} (owes : Owes (debt.withBuffer buffer) before middle) :
    Owes debt before { middle with released := middle.released ++ [buffer.number] } where
  returned := owes.returned
  released := by
    obtain ⟨sizes, given, same, released, due⟩ := owes.released
    refine ⟨sizes, given ++ [buffer.number], same, by simp [released], ?_⟩
    rwa [List.append_assoc]

end Owes

/-- The strings and token buffers that were handed out between two states were given back between
them as they have to be, and nothing else was. -/
structure GivesBackOnce (before after : State) : Prop where
  /-- What was handed out before is not forgotten. -/
  lent : before.lent <+: after.lent
  /-- What was given back before is not forgotten. -/
  returned : before.returned <+: after.returned
  /-- The token buffers that were handed out before are not forgotten. -/
  buffers : before.buffers <+: after.buffers
  /-- The token buffers that were given back before are not forgotten. -/
  released : before.released <+: after.released
  /-- Each string with data that was handed out meanwhile was given back once meanwhile; strings
  without data and strings that were handed out before were not given back. -/
  string_once : ∀ number, (after.returned.drop before.returned.length).count number =
    if before.lent.length ≤ number ∧ (after.lent[number]?).any Loan.isDue then 1 else 0
  /-- Each token buffer that was handed out meanwhile was given back once meanwhile, and no
  others. -/
  buffer_once : ∀ number, (after.released.drop before.released.length).count number =
    if before.buffers.length ≤ number ∧ number < after.buffers.length then 1 else 0

/-- Without a debt everything was given back once. -/
theorem Owes.givesBackOnce {before after : State} (owes : Owes .nothing before after) :
    before.GivesBackOnce after := by
  obtain ⟨loans, given, lent, returned, due⟩ := owes.returned
  obtain ⟨sizes, back, buffers, released, held⟩ := owes.released
  rw [Debt.due_nothing, List.append_nil] at due
  rw [Debt.held_nothing, List.append_nil] at held
  refine ⟨⟨loans, lent.symm⟩, ⟨given, returned.symm⟩, ⟨sizes, buffers.symm⟩,
    ⟨back, released.symm⟩, fun number => ?_, fun number => ?_⟩
  · rw [returned, List.drop_left, due.count_eq, count_dueFrom, lent]
    by_cases reached : before.lent.length ≤ number
    · rw [List.getElem?_append_right reached]
    · simp [reached]
  · rw [released, List.drop_left, held.count_eq, buffers, List.length_append,
      (List.nodup_range' ..).count]
    exact if_congr List.mem_range'_1 rfl rfl

end State

namespace Call

variable {α β : Type}

/-- A request turns one debt into another, which depends on its answer. -/
def Turns (earlier : Debt) (request : Call α) (later : α → Debt) : Prop :=
  ∀ origin state : State, origin.Owes earlier state →
    origin.Owes (later (Id.run (StateT.run request state)).1) (Id.run (StateT.run request state)).2

/-- A request leaves every debt as it is. -/
def Square (request : Call α) : Prop := ∀ debt, Turns debt request fun _ => debt

/-- A request lends the string that it answers with. -/
def Lends (request : Call Lent) : Prop := ∀ debt : Debt, Turns debt request debt.withString

namespace Turns

variable {debt : Debt}

protected theorem pure {later : α → Debt} (value : α) : Turns (later value) (pure value) later :=
  fun _ _ owes => owes

/-- The debt that the first request leaves is the one that the next begins with. -/
protected theorem bind {earlier : Debt} {middle : α → Debt} {later : β → Debt} {request : Call α}
    {next : α → Call β} (first : Turns earlier request middle)
    (rest : ∀ answer, Turns (middle answer) (next answer) later) :
    Turns earlier (request >>= next) later :=
  fun origin state owes => rest _ origin _ (first origin state owes)

/-- What follows may depend on the present state. -/
protected theorem getThen {earlier : Debt} {later : β → Debt} {next : State → Call β}
    (rest : ∀ origin state : State, origin.Owes earlier state →
      origin.Owes (later (Id.run (StateT.run (next state) state)).1)
        (Id.run (StateT.run (next state) state)).2) : Turns earlier (get >>= next) later := rest

end Turns

namespace Square

/-- A request that does not touch the accounts leaves every debt as it is. -/
protected theorem of_accounts {request : Call α}
    (same : ∀ state, (Id.run (StateT.run request state)).2.accounts = state.accounts) :
    Square request :=
  fun _ _ state owes => owes.of_accounts (same state)

protected theorem pure (value : α) : Square (pure value) := fun _ _ _ owes => owes

protected theorem get : Square get := fun _ _ _ owes => owes

protected theorem modify {change : State → State}
    (same : ∀ state, (change state).accounts = state.accounts) : Square (modify change) :=
  .of_accounts same

/-- Debts that are left alone by two requests are left alone by both in turn. -/
protected theorem bind {request : Call α} {next : α → Call β} (first : Square request)
    (rest : ∀ answer, Square (next answer)) : Square (request >>= next) :=
  fun debt => (first debt).bind fun answer => rest answer debt

/-- Looking something up after a request makes no difference. -/
protected theorem lookUp {request : Call α} (first : Square request) (answer : α → State → β) :
    Square (do let found ← request; return answer found (← get)) :=
  .bind first fun _ => .bind .get fun _ => .pure _

/-- A request that leaves debts alone can come before any other one. -/
protected theorem andTurns {earlier : Debt} {later : β → Debt} {request : Call α}
    {next : α → Call β} (first : Square request)
    (rest : ∀ answer, Turns earlier (next answer) later) : Turns earlier (request >>= next) later :=
  (first earlier).bind rest

/-- A request that leaves debts alone can come before one that lends. -/
protected theorem andLends {request : Call α} {next : α → Call Lent} (first : Square request)
    (rest : ∀ answer, Lends (next answer)) : Lends (request >>= next) :=
  fun debt => (first debt).bind fun answer => rest answer debt

end Square

section Basics

/-- An effect is not in the accounts. -/
theorem note_square (effect : Effect) : Square (note effect) := .modify fun _ => rfl

/-- A misuse is recorded outside the accounts. -/
theorem use_square (handle : Handle) : Square (use handle) := by
  refine .modify fun state => ?_
  split <;> rfl

/-- An allocation is not in the accounts. -/
theorem allocate_square (kind : HandleKind) (parent : Option Handle) (content : Content) :
    Square (allocate kind parent content) :=
  .bind .get fun _ => .bind (.modify fun _ => rfl) fun _ => .pure _

/-- A handle that is given back is no loan. -/
theorem dispose_square (handle : Handle) : Square (dispose handle) :=
  .bind .get fun _ => .bind (note_square _) fun _ => .modify fun _ => rfl

/-- What is lent is owed from then on. -/
theorem lend_lends (data : Option Bytes) : Lends (lend data) :=
  fun _ _ _ owes => owes.lend _

/-- A string is given back exactly if it has data, even if its bytes cannot be read. -/
theorem settle?_turns (debt : Debt) (lent : Lent) :
    Turns (debt.withString lent) (settle? lent) fun _ => debt := by
  intro origin state owes
  have paid := owes.giveBack
  unfold Lent.due at paid
  unfold settle?
  split at paid
  · next due => rwa [if_pos due]
  · next undue =>
      rw [if_neg undue]
      rwa [List.append_nil] at paid

/-- To read a string and give it back pays the debt for it. -/
theorem settle_turns (debt : Debt) (lent : Lent) :
    Turns (debt.withString lent) (settle lent) fun _ => debt :=
  (settle?_turns debt lent).bind fun _ => Square.pure _ debt

/-- A string that is read at once is given back at once. -/
theorem Lends.settle_square {request : Call Lent} (lends : Lends request) :
    Square (do settle (← request)) :=
  fun debt => (lends debt).bind fun lent => settle_turns debt lent

/-- A string that is read at once is given back at once. -/
theorem Lends.settle?_square {request : Call Lent} (lends : Lends request) :
    Square (do settle? (← request)) :=
  fun debt => (lends debt).bind fun lent => settle?_turns debt lent

end Basics

section Units

/-- To make an index lends nothing. -/
theorem createIndex_square (excludeDeclarations displayDiagnostics : Bool) :
    Square (createIndex excludeDeclarations displayDiagnostics) := by
  refine .bind (note_square _) fun _ => .bind .get fun state => ?_
  split
  · exact .pure _
  · exact .bind (allocate_square _ _ _) fun _ => .pure _

theorem globalOptions_square (index : Handle) : Square (globalOptions index) := by
  refine .bind (use_square index) fun _ => .bind .get fun state => ?_
  split <;> exact .pure _

theorem setGlobalOptions_square (index : Handle) (options : Int) :
    Square (setGlobalOptions index options) :=
  .bind (use_square index) fun _ => .bind (note_square _) fun _ => .modify fun _ => rfl

/-- Whatever the reply, a unit is produced without a loan. -/
theorem produceUnit_square (index : Handle) : Square (produceUnit index) := by
  refine .bind .get fun state => ?_
  dsimp only
  split
  · exact .pure _
  · split
    · exact .pure _
    · exact .bind (allocate_square _ _ _) fun _ => .pure _

/-- To parse a file lends nothing, whatever the status. -/
theorem parse_square (full : Bool) (index : Handle) (filename : Option Bytes)
    (arguments : List Bytes) (unsaved : Option (List Slot)) (options : Int) :
    Square (parse full index filename arguments unsaved options) :=
  .bind (use_square index) fun _ => .bind (note_square _) fun _ => produceUnit_square index

theorem loadUnit_square (index : Handle) (path : Bytes) : Square (loadUnit index path) :=
  .bind (use_square index) fun _ => .bind (note_square _) fun _ => produceUnit_square index

/-- To parse a unit again lends nothing either. -/
theorem reparse_square (unit : Handle) (unsaved : Option (List Slot)) (options : Int) :
    Square (reparse unit unsaved options) :=
  .bind (use_square unit) fun _ => .bind (note_square _) fun _ => .bind .get fun _ =>
    .bind (.modify fun _ => rfl) fun _ => .pure _

/-- What a status says is no loan. -/
theorem save_square (unit : Handle) (path : Bytes) (options : Int) :
    Square (save unit path options) :=
  .bind (use_square unit) fun _ => (note_square _).lookUp _

theorem unitModel_square (unit : Handle) : Square (unitModel unit) :=
  (use_square _).lookUp _

theorem defaultReparseOptions_square (unit : Handle) : Square (defaultReparseOptions unit) :=
  .bind (unitModel_square unit) fun _ => .pure _

theorem defaultSaveOptions_square (unit : Handle) : Square (defaultSaveOptions unit) :=
  .bind (unitModel_square unit) fun _ => .pure _

/-- The name of a unit is lent. -/
theorem unitSpelling_lends (unit : Handle) : Lends (unitSpelling unit) :=
  (unitModel_square unit).andLends fun _ => lend_lends _

end Units

section Sources

/-- A location that lies nowhere uses nothing. -/
theorem useSpace_square (location : NativeLocation) : Square (useSpace location) := by
  unfold useSpace
  split
  · exact .pure _
  · exact use_square _

theorem fileNamed_square (unit : Handle) (name : Bytes) : Square (fileNamed unit name) :=
  (use_square _).lookUp _

/-- The name of a file is lent. -/
theorem fileName_lends (file : FileHandle) : Lends (fileName file) :=
  (use_square _).andLends fun _ => Square.get.andLends fun _ => lend_lends _

theorem fileTime_square (file : FileHandle) : Square (fileTime file) :=
  (use_square _).lookUp _

theorem sameFile_square (left right : FileHandle) : Square (sameFile left right) :=
  .bind (use_square _) fun _ => (use_square _).lookUp _

theorem locationOfOffset_square (unit : Handle) (file : FileHandle) (offset : Nat) :
    Square (locationOfOffset unit file offset) :=
  .bind (use_square _) fun _ => (use_square _).lookUp _

theorem locationOfPosition_square (unit : Handle) (file : FileHandle) (line column : Nat) :
    Square (locationOfPosition unit file line column) :=
  .bind .get fun _ => locationOfOffset_square unit file _

/-- The file in an expansion is a handle, and handles are not lent. -/
theorem expansion_square (location : NativeLocation) : Square (expansion location) :=
  (useSpace_square location).lookUp _

theorem isFromMainFile_square (location : NativeLocation) : Square (isFromMainFile location) :=
  (useSpace_square location).lookUp _

theorem isInSystemHeader_square (location : NativeLocation) :
    Square (isInSystemHeader location) :=
  (useSpace_square location).lookUp _

end Sources

section Diagnostics

theorem diagnosticCount_square (unit : Handle) : Square (diagnosticCount unit) :=
  (use_square _).lookUp _

/-- A diagnostic that is allocated is no loan. -/
theorem diagnosticAt_square (unit : Handle) (position : Nat) :
    Square (diagnosticAt unit position) := by
  refine .bind (use_square unit) fun _ => .bind .get fun state => ?_
  split
  · exact .pure _
  · exact .bind (allocate_square _ _ _) fun _ => .pure _

theorem setCount_square (set : Handle) : Square (setCount set) :=
  (use_square _).lookUp _

theorem setItem_square (set : Handle) (position : Nat) : Square (setItem set position) :=
  .bind (use_square set) fun _ => .pure _

theorem childDiagnostics_square (diagnostic : Handle) : Square (childDiagnostics diagnostic) :=
  (use_square _).lookUp _

theorem diagnosticModel_square (diagnostic : Handle) : Square (diagnosticModel diagnostic) :=
  (use_square _).lookUp _

theorem diagnosticLocation_square (diagnostic : Handle) :
    Square (diagnosticLocation diagnostic) :=
  (diagnosticModel_square diagnostic).lookUp _

theorem diagnosticRanges_square (diagnostic : Handle) : Square (diagnosticRanges diagnostic) :=
  (diagnosticModel_square diagnostic).lookUp _

theorem replacementCount_square (diagnostic : Handle) : Square (replacementCount diagnostic) :=
  .bind (diagnosticModel_square diagnostic) fun _ => .pure _

/-- A replacement comes with a string on loan. -/
theorem replacementAt_turns (debt : Debt) (diagnostic : Handle) (position : Nat) :
    Turns debt (replacementAt diagnostic position) fun answer => debt.withString answer.1 :=
  (diagnosticModel_square diagnostic).andTurns fun _ => (lend_lends _ debt).bind fun _ =>
    Square.get.andTurns fun _ => .pure _

/-- Without a request for the option that disables a diagnostic, there is one string on loan. -/
theorem diagnosticOption_turns (debt : Debt) (diagnostic : Handle) :
    Turns debt (diagnosticOption diagnostic false) fun answer => debt.withString answer.1 :=
  (diagnosticModel_square diagnostic).andTurns fun _ => (lend_lends _ debt).bind fun _ => .pure _

/-- On request for the option that disables a diagnostic, there is a second string on loan. -/
theorem disablingOption_turns (debt : Debt) (diagnostic : Handle) :
    Turns debt (diagnosticOption diagnostic true) fun answer =>
      (answer.2.elim debt debt.withString).withString answer.1 := by
  refine (diagnosticModel_square diagnostic).andTurns fun _ => (lend_lends _ debt).bind fun _ => ?_
  exact (lend_lends _ _).bind fun _ _ _ owes => owes.swap

/-- A formatted diagnostic is lent. -/
theorem formatDiagnostic_lends (diagnostic : Handle) (options : Int) :
    Lends (formatDiagnostic diagnostic options) :=
  (diagnosticModel_square diagnostic).andLends fun _ => lend_lends _

/-- Stored diagnostics come with a message on loan, whatever the status. -/
theorem loadDiagnostics_turns (debt : Debt) (path : Bytes) :
    Turns debt (loadDiagnostics path) fun answer => debt.withString answer.2.2 := by
  refine (note_square _).andTurns fun _ => Square.get.andTurns fun state => ?_
  dsimp only
  split
  · exact (lend_lends _ debt).bind fun _ => .pure _
  · refine Square.andTurns (.bind (allocate_square _ _ _) fun _ => .pure _) fun handle => ?_
    exact (lend_lends _ debt).bind fun _ => .pure _

end Diagnostics

section Databases

/-- A database is opened without a loan. -/
theorem openDatabase_square (path : Bytes) : Square (openDatabase path) := by
  refine .bind (note_square _) fun _ => .bind .get fun state => ?_
  dsimp only
  split
  · exact .pure _
  · exact .bind (allocate_square _ _ _) fun _ => .pure _

/-- A list of commands is allocated and not lent. -/
theorem listCommands_square (items : List (Option CommandModel)) :
    Square (listCommands items) := by
  refine .bind .get fun state => ?_
  split
  · exact .pure _
  · exact .bind (allocate_square _ _ _) fun _ => .pure _

theorem allCommands_square (database : Handle) : Square (allCommands database) :=
  .bind (use_square database) fun _ => .bind (note_square _) fun _ => .bind .get fun _ =>
    listCommands_square _

theorem commandsFor_square (database : Handle) (filename : Bytes) :
    Square (commandsFor database filename) :=
  .bind (use_square database) fun _ => .bind (note_square _) fun _ => .bind .get fun _ =>
    listCommands_square _

theorem commandItems_square (commands : Handle) : Square (commandItems commands) :=
  (use_square _).lookUp _

end Databases

section Cursors

theorem rootCursor_square (unit : Handle) : Square (rootCursor unit) :=
  (use_square _).lookUp _

theorem cursorModel_square (cursor : NativeCursor) : Square (cursorModel cursor) :=
  (use_square _).lookUp _

theorem cursorExtent_square (cursor : NativeCursor) : Square (cursorExtent cursor) :=
  (cursorModel_square cursor).lookUp _

theorem cursorLocation_square (cursor : NativeCursor) : Square (cursorLocation cursor) :=
  (cursorModel_square cursor).lookUp _

theorem relatedCursor_square (cursor : NativeCursor) (relation : CursorModel → Option Nat) :
    Square (relatedCursor cursor relation) :=
  (cursorModel_square cursor).lookUp _

/-- A visitor cannot reach the accounts. -/
theorem visitChildren_square {σ : Type} (cursor : Option NativeCursor) (visitor : CursorVisitor σ)
    (start : σ) : Square (visitChildren cursor visitor start) := by
  cases cursor with
  | none => exact .pure _
  | some cursor => exact (use_square _).lookUp _

/-- A visitor of inclusions cannot reach the accounts either. -/
theorem visitInclusions_square {σ : Type} (unit : Handle)
    (visitor : FileHandle → List NativeLocation → σ → σ) (start : σ) :
    Square (visitInclusions unit visitor start) :=
  (use_square _).lookUp _

end Cursors

section Tokens

/-- If there is a token buffer, even an empty one, it is handed out. -/
theorem tokenize_turns (debt : Debt) (unit : Handle) (range : NativeRange) :
    Turns debt (tokenize unit range) fun answer => answer.elim debt debt.withBuffer := by
  refine (use_square unit).andTurns fun _ => .getThen fun origin state owes => ?_
  dsimp only
  split
  · exact owes
  · exact owes.issue (state.tokensIn unit range)

/-- The disposal of a token buffer pays the debt for it. -/
theorem disposeTokens_turns (debt : Debt) (unit : Handle) (buffer : TokenBuffer) :
    Turns (debt.withBuffer buffer) (disposeTokens unit buffer) fun _ => debt :=
  (use_square unit).andTurns fun _ => (note_square _).andTurns fun _ _ _ owes => owes.release

/-- The spelling of a token is lent. -/
theorem tokenSpelling_lends (unit : Handle) (token : NativeToken) :
    Lends (tokenSpelling unit token) :=
  (use_square unit).andLends fun _ => Square.get.andLends fun _ => lend_lends _

theorem tokenExtent_square (unit : Handle) (token : NativeToken) :
    Square (tokenExtent unit token) :=
  (use_square _).lookUp _

/-- A token is located by its extent. -/
theorem tokenLocation_square (unit : Handle) (token : NativeToken) :
    Square (tokenLocation unit token) :=
  .bind (tokenExtent_square unit token) fun _ => .pure _

end Tokens

section Indexing

/-- To make an action lends nothing. -/
theorem createAction_square (index : Handle) : Square (createAction index) := by
  refine .bind (use_square index) fun _ => .bind (note_square _) fun _ => .bind .get fun state => ?_
  split
  · exact .pure _
  · exact .bind (allocate_square _ _ _) fun _ => .pure _

theorem beginIndexing_square (action unit : Handle) (options : Int) (installed : List Station) :
    Square (beginIndexing action unit options installed) :=
  .bind (use_square action) fun _ => .bind (use_square unit) fun _ => .bind (note_square _)
    fun _ => .bind (.modify fun _ => rfl) fun _ => .bind .get fun _ => .pure _

end Indexing

end Call
end Library
end Custody
