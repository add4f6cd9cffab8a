import Custody.Proofs.Estate.Closing
import Custody.Proofs.Scenario.Refusal

/-!
# The order of closings

Several holders of a session are closed one after the other.  What is closed in the end is
what they exposed at first, so the order of the closings makes no difference, nor does the
order in which the dependants of each holder are closed: the sessions that are reached differ
only in the order in which the same handles were given back.
-/

namespace Custody

namespace Library.State

/-- Gives several handles back, one after the other. -/
def disposeAll (state : State) (handles : List Handle) : State :=
  handles.foldl (fun state handle => (Id.run (StateT.run (Call.dispose handle) state)).2) state

/-- Giving handles back ends them and lists them, and does nothing else. -/
theorem disposeAll_eq (state : State) (handles : List Handle) :
    ∃ notes : List Effect, notes.filterMap Effect.disposed? = handles ∧
      state.disposeAll handles =
        { state with
          resources := state.resources.map fun resource =>
            if resource.handle ∈ handles then { resource with live := false } else resource
          effects := state.effects ++ notes } := by
  induction handles generalizing state with
  | nil => exact ⟨[], rfl, by simp [disposeAll]⟩
  | cons handle rest inductionHypothesis =>
      obtain ⟨notes, listed, later⟩ :=
        inductionHypothesis (Id.run (StateT.run (Call.dispose handle) state)).2
      refine ⟨.dispose handle (state.dependants handle) :: notes, by simp [Effect.disposed?, listed],
        ?_⟩
      have ended : (Id.run (StateT.run (Call.dispose handle) state)).2 =
          { state with
            resources := state.resources.map fun resource =>
              if resource.handle = handle then { resource with live := false } else resource
            effects := state.effects ++ [.dispose handle (state.dependants handle)] } := rfl
      unfold disposeAll at later ⊢
      rw [List.foldl_cons, later, ended, List.map_map, List.append_assoc]
      congr 1
      refine List.map_congr_left fun resource _ => ?_
      by_cases same : resource.handle = handle <;> simp [same]

/-- Only the order in which handles are listed as given back depends on the order in which they
are. -/
theorem disposeAll_perm (state : State) {first second : List Handle} (permuted : first.Perm second) :
    (state.disposeAll first).disposals.Perm (state.disposeAll second).disposals ∧
      { state.disposeAll first with effects := [] } =
        { state.disposeAll second with effects := [] } := by
  obtain ⟨firstNotes, firstListed, firstEq⟩ := state.disposeAll_eq first
  obtain ⟨secondNotes, secondListed, secondEq⟩ := state.disposeAll_eq second
  rw [firstEq, secondEq]
  constructor
  · unfold disposals
    dsimp only
    rw [List.filterMap_append, List.filterMap_append, firstListed, secondListed]
    exact permuted.append_left _
  · simp only [permuted.mem_iff]

end Library.State

namespace Facade

variable {order rival : Discipline Handle Wrapper Library.State}

/-- Closes several holders in turn, with the dependants of each in the order of a discipline. -/
def closeAll (order : Discipline Handle Wrapper Library.State) (holders : List Nat) :
    Facade Unit :=
  holders.forM fun holder => do
    let session ← get
    settle (order.close holder session.estate session.library)

/-- In the order of adoption, several closings in turn are what the session does. -/
theorem closeAll_discipline (holders : List Nat) :
    closeAll discipline holders = holders.forM close := rfl

/-- Several closings in turn put what they lead to into the session. -/
theorem closeAll_outcome (order : Discipline Handle Wrapper Library.State) (holders : List Nat)
    (session : Session) :
    (closeAll order holders).outcome session =
      (settle (Discipline.closeEach order.close holders session.estate
        session.library)).outcome session := by
  induction holders generalizing session with
  | nil => rfl
  | cons holder rest inductionHypothesis =>
      have unfolded : closeAll order (holder :: rest) =
          (do
            let session ← get
            settle (order.close holder session.estate session.library)) >>= fun _ =>
          closeAll order rest := List.forM_cons ..
      rw [unfolded, outcome_bind, outcome_bind_of_ok (outcome_get session), settle_outcome,
        Discipline.closeEach]
      cases failure : (order.close holder session.estate session.library).failure with
      | some wording =>
          rw [settle_outcome]
          simp [failure]
      | none => exact inductionHypothesis _

/-- What a discipline that disposes by the library does to the library is to give the listed
handles back. -/
theorem disposeAll_of_disposals
    (byLibrary : DisposesByLibrary order)
    {library : Library.State}
    {later : Library.State × List (Nat × Handle)}
    (disposals : Relation.ReflTransGen order.recorded.Disposes (library, []) later) :
    later.1 = library.disposeAll (later.2.map Prod.snd) := by
  induction disposals with
  | refl => rfl
  | @tail middle last _ disposed inductionHypothesis =>
      obtain ⟨estate, holder, handle, rfl⟩ := disposed
      have given : (order.dispose estate holder handle middle.1).1 =
          (Id.run (StateT.run (Library.Call.dispose handle) middle.1)).2 := by
        rw [show order.dispose = discipline.dispose from byLibrary]
        rfl
      unfold Discipline.recorded Library.State.disposeAll
      dsimp only
      rw [given, inductionHypothesis, List.map_append, List.foldl_append]
      rfl

/-- Several closings succeed.  They clear what the holders expose, and give the handles of the
owned ones among it back. -/
theorem closeAll_clearance
    (byLibrary : DisposesByLibrary order)
    (session : Session)
    (valid : session.holdings.Valid)
    (holders : List Nat) :
    ∃ (estate : Estate Handle Wrapper) (calls : List (Nat × Handle)),
      session.estate.Clearance
          (fun other => ∃ holder ∈ holders, session.estate.ReachesOpen holder other) estate calls ∧
        (closeAll order holders).outcome session =
          (.ok (), { session with
            estate := estate
            library := session.library.disposeAll (calls.map Prod.snd) }) := by
  have calm (reach : Nat → Prop) : order.Calm reach := by
    intro _ _ estate handle world
    rw [show order.dispose = discipline.dispose from byLibrary]
    rfl
  have acyclic : session.estate.Acyclic := valid.orderly.acyclic
  obtain ⟨peaceful, clearance⟩ :=
    Discipline.closeEach_clearance session.library acyclic (calm _)
  have advances : order.recorded.Advances session.estate (session.library, [])
      (Discipline.closeEach order.recorded.close holders session.estate (session.library, [])) :=
    Discipline.closeEach_advances (fun _ _ _ => Discipline.closeWithin_advances _ _ _ _) _ _ _
  refine ⟨_, _, clearance, ?_⟩
  have seen := order.closeEach_recorded holders session.estate (session.library, [])
  dsimp only at seen
  rw [closeAll_outcome, seen, settle_outcome, Outcome.see_failure, peaceful,
    ← disposeAll_of_disposals byLibrary advances.disposals]
  rfl

end Facade

/-- A session without the list of the calls that matter. -/
def Session.unlisted (session : Session) : Session :=
  { session with library := { session.library with effects := [] } }

namespace Scenario

variable {order rival : Discipline Handle Wrapper Library.State}

/-- Closing holders in another order, with the dependants of each in another order, makes no
difference: both succeed and leave the same holders open, the same handles live, and have given
the same handles back.  Only the order in which these are listed may differ. -/
theorem closings_commute
    (script : Library.Script)
    (settings : Settings)
    (storage : Storage)
    (steps : List Step)
    {first second : List Nat}
    (byLibrary : Facade.DisposesByLibrary order)
    (rivalByLibrary : Facade.DisposesByLibrary rival)
    (permuted : first.Perm second) :
    let session := ((State.start script settings storage).steps steps).1.session
    let left := (Facade.closeAll order first).outcome session
    let right := (Facade.closeAll rival second).outcome session
    left.1 = .ok () ∧ right.1 = .ok () ∧
      (∀ holder, left.2.estate.isOpen holder = right.2.estate.isOpen holder) ∧
      left.2.library.live = right.2.library.live ∧
      left.2.library.disposals.Perm right.2.library.disposals ∧
      left.2.unlisted = right.2.unlisted := by
  intro session left right
  have sound := (State.start_sound script settings storage).steps steps
  obtain ⟨estate, calls, clearance, reached⟩ :=
    Facade.closeAll_clearance byLibrary session sound.valid first
  obtain ⟨otherEstate, otherCalls, otherClearance, otherReached⟩ :=
    Facade.closeAll_clearance rivalByLibrary session sound.valid second
  simp only [← permuted.mem_iff] at otherClearance
  obtain ⟨rfl, sameCalls⟩ := clearance.unique otherClearance
  obtain ⟨disposals, library⟩ := session.library.disposeAll_perm (sameCalls.map Prod.snd)
  have leftReached : left = _ := reached
  have rightReached : right = _ := otherReached
  rw [leftReached, rightReached]
  have sameLive := congrArg Library.State.live library
  refine ⟨rfl, rfl, fun _ => rfl, sameLive, disposals, ?_⟩
  unfold Session.unlisted
  dsimp only
  rw [library]

/-- Closing as the session does, but with the youngest dependants first. -/
def youngestFirst : Discipline Handle Wrapper Library.State where
  arrange := fun _ _ _ items => items.reverse
  arrange_perm := fun _ _ _ items => List.reverse_perm items
  dispose := Facade.discipline.dispose

/-- The diagnostic, the index, the note and the index again, or the index, the note, the index again
and the diagnostic. -/
theorem closingIndex_closings_commute :
    [2, 0, 4, 0].Perm [0, 4, 0, 2] ∧
      (let session := ((State.start notedScript .blank ⟨[]⟩).steps (closingIndex.take 4)).1.session
       let left := (Facade.closeAll Facade.discipline [2, 0, 4, 0]).outcome session
       let right := (Facade.closeAll youngestFirst [0, 4, 0, 2]).outcome session
       (session.library.live.length = 3 ∧ left.2.library.live = [] ∧
          left.2.library.disposals =
            [.owned .diagnostic 1, .owned .unit 1, .owned .index 1]) ∧
        left.1 = .ok () ∧ right.1 = .ok () ∧
        (∀ holder, left.2.estate.isOpen holder = right.2.estate.isOpen holder) ∧
        left.2.library.live = right.2.library.live ∧
        left.2.library.disposals.Perm right.2.library.disposals ∧
        left.2.unlisted = right.2.unlisted) := by
  have permuted : [2, 0, 4, 0].Perm [0, 4, 0, 2] := by decide
  refine ⟨permuted, by decide +kernel, ?_⟩
  exact closings_commute notedScript .blank ⟨[]⟩ (closingIndex.take 4) rfl rfl permuted

end Scenario
end Custody
