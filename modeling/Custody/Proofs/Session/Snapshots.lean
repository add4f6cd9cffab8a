import Custody.Proofs.Session.Commands
import Custody.Proofs.Session.Copies
import Custody.Proofs.Session.Sequences

/-!
# Snapshots of the commands of a database

The library answers a request for commands with a list that it allocates, or with none.  The list is
new, so nothing was made from it, and the commands in it are those that were asked for.  Whatever
comes of copying them, the list is given back once, and the session is as before but for what
copying uses up.
-/

namespace Custody

open Facade Library

namespace Library

/-- Which commands of a database are asked for. -/
inductive Listing where
  /-- All of them. -/
  | all
  /-- Those for a file. -/
  | forFile (filename : Bytes)

namespace Listing

/-- The request to the library. -/
def request (database : Handle) : Listing → Call (Option Handle)
  | .all => Call.allCommands database
  | .forFile filename => Call.commandsFor database filename

/-- The call that is noted. -/
def effect (database : Handle) : Listing → Effect
  | .all => .allCommands database
  | .forFile filename => .commandsFor database filename

/-- The commands that the library has, null commands among them. -/
def items (state : State) (database : Handle) : Listing → List (Option CommandModel)
  | .all => state.databaseModel database
  | .forFile filename => (state.databaseModel database).filter fun item =>
      item.all fun command => command.filename = some filename

end Listing

namespace State

/-- The library after a call was noted. -/
def noting (state : State) (effects : List Effect) : State :=
  { state with effects := state.effects ++ effects }

theorem noting_noting (state : State) (first second : List Effect) :
    (state.noting first).noting second = state.noting (first ++ second) := by
  unfold noting
  rw [List.append_assoc]

/-- Whether some commands are handed out as a list, and not as a null pointer. -/
def lists (state : State) (items : List (Option CommandModel)) : Bool :=
  !items.isEmpty || state.reply.emptyList

/-- The handle of the list that is allocated next. -/
def nextList (state : State) : Handle := .owned .commands (state.allocated .commands + 1)

/-- The list with some commands that is allocated next. -/
def listOf (state : State) (items : List (Option CommandModel)) (live : Bool) : Resource :=
  ⟨state.nextList, none, .commands items, live, true⟩

variable {state : State}

/-- The list that is allocated next was not there before. -/
theorem nextList_notMem (regular : state.ledger.Regular) :
    state.nextList ∉ state.resources.map Resource.handle := by
  unfold nextList
  rw [allocated_eq, ← handles_ledger]
  exact regular.fresh_notMem .commands

theorem resource?_nextList (regular : state.ledger.Regular)
    (items : List (Option CommandModel)) :
    (state.allocating [state.listOf items true]).resource? state.nextList =
      some (state.listOf items true) := by
  have absent :
      state.resources.find? (fun resource => resource.handle = state.nextList) = none := by
    rw [List.find?_eq_none]
    intro resource member same
    exact nextList_notMem regular (List.mem_map.mpr ⟨resource, member, of_decide_eq_true same⟩)
  unfold resource? allocating
  dsimp only
  rw [List.find?_append, absent, Option.none_or, List.find?_cons_of_pos]
  exact decide_eq_true rfl

/-- Nothing was made from the list that is allocated next. -/
theorem parent_ne_nextList (regular : state.ledger.Regular) {resource : Resource}
    (member : resource ∈ state.resources) : resource.parent ≠ some state.nextList := by
  intro same
  have entered : resource.entry ∈ state.ledger := List.mem_map.mpr ⟨resource, member, rfl⟩
  have above : state.ledger.parent? resource.handle = some state.nextList := by
    unfold Ledger.parent?
    have found := regular.entryOf?_of_mem entered
    change state.ledger.entryOf? resource.handle = _ at found
    rw [found]
    exact same
  have listed := regular.rooted _ _ above
  rw [handles_ledger] at listed
  exact nextList_notMem regular listed

end State

namespace Call

variable {state : State} {database : Handle}

/-- A list is allocated, unless there is nothing to list and nothing is no list. -/
theorem listCommands_run (state : State) (items : List (Option CommandModel)) :
    Id.run (StateT.run (listCommands items) state) =
      if state.lists items then (some state.nextList, state.allocating [state.listOf items true])
      else (none, state) := by
  have unfolded : Id.run (StateT.run (listCommands items) state) =
      Id.run (StateT.run (if items.isEmpty && !state.reply.emptyList then pure none
        else do return some (← allocate .commands none (.commands items)) :
          Call (Option Handle)) state) := rfl
  rw [unfolded]
  unfold State.lists
  cases items.isEmpty <;> cases state.reply.emptyList <;> rfl

/-- The library notes a request for commands and allocates a list, if there is one. -/
theorem request_run (good : state.isGood database = true) (listing : Listing) :
    Id.run (StateT.run (listing.request database) state) =
      if state.lists (listing.items state database) then
        (some state.nextList, (state.noting [listing.effect database]).allocating
          [state.listOf (listing.items state database) true])
      else (none, state.noting [listing.effect database]) := by
  cases listing with
  | all =>
      change Id.run (StateT.run (allCommands database) state) = _
      unfold allCommands
      rw [(Answers.use good).run_bind]
      exact listCommands_run (state.noting [.allCommands database]) (state.databaseModel database)
  | forFile filename =>
      change Id.run (StateT.run (commandsFor database filename) state) = _
      unfold commandsFor
      rw [(Answers.use good).run_bind]
      exact listCommands_run (state.noting [.commandsFor database filename])
        ((state.databaseModel database).filter fun item =>
          item.all fun command => command.filename = some filename)

end Call

namespace State

variable {state : State} (regular : state.ledger.Regular) (items : List (Option CommandModel))
include regular

/-- The list that was just allocated is good. -/
theorem isGood_nextList :
    (state.allocating [state.listOf items true]).isGood state.nextList = true := by
  have found := resource?_nextList regular items
  unfold nextList at found ⊢
  unfold isGood
  dsimp only
  rw [found]
  rfl

theorem commandItems_nextList :
    (state.allocating [state.listOf items true]).commandItems state.nextList = items := by
  unfold commandItems
  rw [resource?_nextList regular]
  rfl

/-- Giving the list that was just allocated back leaves a dead allocation. -/
theorem dispose_nextList :
    (Id.run (StateT.run (Call.dispose state.nextList)
        (state.allocating [state.listOf items true]))).2 =
      (state.noting [.dispose state.nextList 0]).allocating [state.listOf items false] := by
  have childless : (state.allocating [state.listOf items true]).dependants state.nextList = 0 := by
    unfold dependants allocating
    rw [List.countP_eq_zero]
    intro resource member
    rcases List.mem_append.mp member with old | new
    · simp [parent_ne_nextList regular old]
    · rw [List.mem_singleton.mp new]
      simp [listOf]
  have kept : (state.resources.map fun resource =>
      if resource.handle = state.nextList then { resource with live := false } else resource) =
        state.resources := by
    refine (List.map_congr_left fun resource member => if_neg fun same => ?_).trans (List.map_id _)
    exact nextList_notMem regular (List.mem_map.mpr ⟨resource, member, same⟩)
  have unfolded : (Id.run (StateT.run (Call.dispose state.nextList)
      (state.allocating [state.listOf items true]))).2 =
        { state.noting [.dispose state.nextList
            ((state.allocating [state.listOf items true]).dependants state.nextList)] with
          resources := (state.resources ++ [state.listOf items true]).map fun resource =>
            if resource.handle = state.nextList then { resource with live := false }
            else resource } := rfl
  have new : (state.listOf items true).handle = state.nextList := rfl
  rw [unfolded, childless, List.map_append, kept, List.map_singleton, if_pos new]
  rfl

end State
end Library

/-- A session after commands were asked for: the request is noted, the commands before the first
null command were read, and the list, if there was one, was given back. -/
def Session.inquiring (session : Session) (database : Handle) (listing : Listing) : Session :=
  let items := listing.items session.library database
  let commands := CompilationDatabase.readable items
  let later := session.borrowing (stringsOf commands) commands.length
  { later with
    library :=
      if session.library.lists items then
        (later.library.noting
          [listing.effect database, .dispose session.library.nextList 0]).allocating
            [session.library.listOf items false]
      else later.library.noting [listing.effect database] }

namespace CompilationDatabase

variable {session : Session}

/-- The list that was just allocated is copied and given back. -/
theorem snapshot_nextList_outcome (regular : session.library.ledger.Regular)
    (items : List (Option CommandModel)) :
    (snapshot (some session.library.nextList)).outcome
        { session with library := session.library.allocating [session.library.listOf items true] } =
      (copying session 0 items,
        { session.borrowing (stringsOf (readable items)) (readable items).length with
          library :=
            ((session.library.lending (stringsOf (readable items))).noting
              [.dispose session.library.nextList 0]).allocating
                [session.library.listOf items false] }) := by
  have listed : (Call.commandItems session.library.nextList).Answers
      (session.library.allocating [session.library.listOf items true]) items := by
    refine .useThen (State.isGood_nextList regular items) (.bind .get ?_)
    rw [State.commandItems_nextList regular]
    exact .pure items
  have disposed := @State.dispose_nextList (session.library.lending (stringsOf (readable items)))
    regular items
  unfold snapshot
  rw [outcome_bind_of_ok (call_outcome_of_answers listed),
    outcome_bind_of_ok (outcome_attempt _ _), outcome_bind_of_ok (outcome_call _ _),
    outcome_ofExcept, copyAll_outcome]
  refine Prod.ext rfl ?_
  exact congrArg (fun library : Library.State =>
    { session.borrowing (stringsOf (readable items)) (readable items).length with
      library := library }) disposed

/-- Commands are asked for, copied and given back. -/
theorem snapshot_outcome {database : Handle} (regular : session.library.ledger.Regular)
    (good : session.library.isGood database = true) (listing : Listing) :
    (do snapshot (← call (listing.request database)) : Facade _).outcome session =
      (copying session 0 (listing.items session.library database),
        session.inquiring database listing) := by
  have noted : (session.library.noting [listing.effect database]).ledger.Regular := regular
  rw [outcome_bind_of_ok (outcome_call _ _), Call.request_run good]
  unfold Session.inquiring
  dsimp only
  cases listed : session.library.lists (listing.items session.library database) with
  | true =>
      rw [if_pos rfl, if_pos rfl]
      refine (@snapshot_nextList_outcome
        { session with library := session.library.noting [listing.effect database] }
        noted (listing.items session.library database)).trans ?_
      refine Prod.ext rfl ?_
      have joined := State.noting_noting (session.library.lending
        (stringsOf (readable (listing.items session.library database))))
          [listing.effect database] [.dispose session.library.nextList 0]
      exact congrArg (fun library : Library.State =>
        { session.borrowing (stringsOf (readable (listing.items session.library database)))
            (readable (listing.items session.library database)).length with
          library := library.allocating
            [session.library.listOf (listing.items session.library database) false] }) joined
  | false =>
      have nothing : listing.items session.library database = [] := by
        unfold State.lists at listed
        rw [Bool.or_eq_false_iff, Bool.not_eq_false', List.isEmpty_iff] at listed
        exact listed.1
      rw [nothing, if_neg Bool.false_ne_true, if_neg Bool.false_ne_true]
      unfold Session.borrowing readable stringsOf
      rw [List.flatMap_nil, State.lending_nil]
      rfl

/-- Commands of a database are asked for with some result. -/
structure Inquires (session : Session) (database : Handle) (listing : Listing)
    (result : Except Failure (List CompileCommand)) (after : Session) : Prop where
  /-- Without null commands the result are copies of all commands in order.  The strings of a
  command come after those of the commands before. -/
  copies : ∀ commands : List CommandModel,
    listing.items session.library database = commands.map some →
    ∃ copies : List CompileCommand, result = .ok copies ∧ ∀ position : Nat,
      copies[position]? = commands[position]?.map (session.library.reply.copied
        (session.library.lent.length + (stringsOf (commands.take position)).length)
        (session.nextSerial + position))
  /-- The first null command is a failure that names its position. -/
  fails : ∀ (commands : List CommandModel) (rest : List (Option CommandModel)),
    listing.items session.library database = commands.map some ++ none :: rest →
    result = .error (.nullCommand commands.length) ∧
      (Failure.nullCommand commands.length).category = .runtime ∧
      (Failure.nullCommand commands.length).message =
        "libclang returned no compile command at index " ++ Text.ofNat commands.length
  /-- After the request nothing is called but the disposal of the list, once, if there is one. -/
  effects : after.library.effects = session.library.effects ++ listing.effect database ::
    if session.library.lists (listing.items session.library database) then
      [.dispose session.library.nextList 0] else []
  /-- No list is left. -/
  live : after.library.live = session.library.live
  /-- No handle is misused. -/
  strays : after.library.strays = session.library.strays
  /-- Nothing else of the session changes, but that serials are used up. -/
  rest : after = { session with library := after.library, nextSerial := after.nextSerial }

theorem inquires {database : Handle} (listing : Listing) :
    Inquires session database listing
      (copying session 0 (listing.items session.library database))
      (session.inquiring database listing) where
  copies commands same := by
    rw [same, copying_of_commands]
    exact ⟨_, rfl, Reply.getElem?_copies _ _ _ _⟩
  fails commands rest same := by
    rw [same, copying_of_null, Nat.zero_add]
    exact ⟨rfl, rfl, rfl⟩
  effects := by
    unfold Session.inquiring
    dsimp only
    split <;> rfl
  live := by
    unfold Session.inquiring
    dsimp only
    split
    · unfold State.live State.allocating
      dsimp only
      rw [List.filter_append, List.map_append]
      exact List.append_nil _
    · rfl
  strays := by
    unfold Session.inquiring
    dsimp only
    split <;> rfl
  rest := rfl

end CompilationDatabase
end Custody
