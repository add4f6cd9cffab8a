import Custody.Proofs.Scenario.Sweep
import Mathlib.Data.List.Nodup

/-!
# Conservation of handles

The live handles of the library are those of the open holders that own theirs, one
for each, and the units that steps have lost.  A unit is lost only where a parse call
has to be named after arguments that are not all texts.  While the arguments have the
types that are declared for them, that does not happen: every compile command is
textual, whether it was made or comes from a database.  A handle is given back once at
most, and only if it was allocated.
-/

namespace Custody

open Facade Watch

namespace Session

/-- The handle of a holder that is open and owns it. -/
def ownedHandle? (session : Session) (number : Nat) : Option Handle :=
  (session.estate.get? number).bind fun holder => if holder.owned then holder.handle else none

/-- The handles of the open holders that own theirs, by number. -/
def ownedHandles (session : Session) : List Handle :=
  (List.range session.estate.size).filterMap session.ownedHandle?

/-- Handles are live once and given back once at most. -/
structure DisposesOnce (session : Session) : Prop where
  /-- No handle is live twice. -/
  nodup_live : session.library.live.Nodup
  /-- No list of compile commands stays live. -/
  sort_ne_commands : ∀ handle ∈ session.library.live, handle.sort ≠ .commands
  /-- No handle was given back twice. -/
  nodup_disposals : session.library.disposals.Nodup
  /-- Only owned handles that were allocated were given back, and they are dead. -/
  disposed : ∀ handle ∈ session.library.disposals, handle.isOwned = true ∧
    handle ∈ session.library.resources.map Library.Resource.handle ∧ handle ∉ session.library.live

/-- The library and the holders agree on the live handles, and none was given back twice. -/
structure ConservesHandles (session : Session) : Prop extends DisposesOnce session where
  /-- The live handles are those of the open holders that own theirs, one for each. -/
  corresponds : session.library.live.Perm session.ownedHandles

section Valid

variable {session : Session} (valid : session.holdings.Valid)
include valid

theorem ownedHandle?_eq_some_iff {number : Nat} {handle : Handle} :
    session.ownedHandle? number = some handle ↔
      session.estate.handle? number = some handle ∧ handle.isOwned = true := by
  unfold ownedHandle? Estate.handle?
  cases present : session.estate.get? number with
  | none => simp
  | some holder =>
      have owned (held : holder.handle = some handle) : holder.owned = handle.isOwned :=
        valid.founded.owned_eq (Estate.owned?_of_get? present)
          (valid.orderly.made_of_held ((Estate.handle?_of_get? present).trans held))
      constructor
      · intro found
        simp only [Option.bind_some] at found ⊢
        split at found
        · next kept => exact ⟨found, (owned found).symm.trans kept⟩
        · cases found
      · rintro ⟨held, isOwned⟩
        simp only [Option.bind_some] at held ⊢
        rw [owned held, isOwned]
        exact held

theorem mem_ownedHandles_iff {handle : Handle} :
    handle ∈ session.ownedHandles ↔
      handle.isOwned = true ∧ ∃ number, session.estate.handle? number = some handle := by
  simp only [ownedHandles, List.mem_filterMap, List.mem_range, ownedHandle?_eq_some_iff valid]
  constructor
  · rintro ⟨number, _, held, owned⟩
    exact ⟨owned, number, held⟩
  · rintro ⟨owned, number, held⟩
    exact ⟨number, Estate.lt_size_of_handle? held, held, owned⟩

theorem nodup_ownedHandles : session.ownedHandles.Nodup := by
  refine List.Nodup.filterMap ?_ List.nodup_range
  intro first second handle heldFirst heldSecond
  obtain ⟨heldFirst, owned⟩ := (ownedHandle?_eq_some_iff valid).mp heldFirst
  obtain ⟨heldSecond, _⟩ := (ownedHandle?_eq_some_iff valid).mp heldSecond
  exact valid.founded.injective (valid.orderly.made_of_held heldFirst)
    (valid.orderly.made_of_held heldSecond) owned

/-- A live handle for which a holder was made belongs to an open holder. -/
theorem mem_live_and_made_iff {handle : Handle} :
    handle ∈ session.library.live ∧ handle ∈ session.made ↔ handle ∈ session.ownedHandles := by
  have regular : session.library.ledger.Regular := valid.accurate.regular
  rw [mem_ownedHandles_iff valid, Library.State.live_eq, regular.mem_live_iff]
  constructor
  · rintro ⟨alive, member⟩
    have owned := regular.owned handle (regular.mem_handles_of_isLive alive)
    obtain ⟨number, made⟩ := List.mem_iff_getElem?.mp member
    cases opened : session.estate.isOpen number with
    | true => exact ⟨owned, number, valid.orderly.held_of_isOpen opened made⟩
    | false =>
        have gone : session.library.ledger.isLive handle = false :=
          valid.backed.dead made owned opened
        rw [alive] at gone
        cases gone
  · rintro ⟨owned, number, held⟩
    exact ⟨Library.Ledger.isLive_of_stands (valid.backed.stands held owned),
      List.mem_of_getElem? (valid.orderly.made_of_held held)⟩

/-- The live handles are those of the open holders that own theirs, and the lost ones. -/
theorem live_perm : session.library.live.Perm (session.ownedHandles ++ session.holdings.lost) := by
  have nodup : session.library.live.Nodup := by
    rw [Library.State.live_eq]
    exact valid.accurate.regular.nodup_live
  have held : (session.library.live.filter fun handle => handle ∈ session.made).Perm
      session.ownedHandles := by
    refine (List.perm_ext_iff_of_nodup (nodup.filter _) (nodup_ownedHandles valid)).mpr ?_
    intro handle
    rw [List.mem_filter, decide_eq_true_iff, mem_live_and_made_iff valid]
  have lost : session.holdings.lost =
      session.library.live.filter fun handle => !decide (handle ∈ session.made) := by
    rw [Library.State.live_eq]
    unfold Holdings.lost
    simp only [decide_not]
    rfl
  rw [lost]
  exact (List.filter_append_perm _ _).symm.trans (held.append_right _)

theorem sort_ne_commands_of_owned {handle : Handle} (member : handle ∈ session.ownedHandles) :
    handle.sort ≠ .commands := by
  obtain ⟨_, number, held⟩ := (mem_ownedHandles_iff valid).mp member
  have made := valid.orderly.made_of_held held
  obtain ⟨wrapper, found⟩ := valid.orderly.exists_content made
  rw [valid.founded.sort_eq found made]
  cases wrapper <;> exact nofun

theorem disposed_of_mem {handle : Handle} (member : handle ∈ session.library.disposals) :
    handle.isOwned = true ∧ handle ∈ session.library.resources.map Library.Resource.handle ∧
      handle ∉ session.library.live := by
  obtain ⟨allocated, gone⟩ := valid.accurate.mem_disposals_iff.mp member
  have listed : session.library.ledger.handles =
      session.library.resources.map Library.Resource.handle := by
    simp [Library.State.ledger, Library.Ledger.handles, Library.Resource.entry]
  refine ⟨valid.accurate.regular.owned handle allocated, ?_, fun alive => ?_⟩
  · rw [← listed]
    exact allocated
  · rw [Library.State.live_eq] at alive
    have isLive := valid.accurate.regular.mem_live_iff.mp alive
    rw [gone] at isLive
    cases isLive

/-- Valid holdings give handles back once, if only units were lost. -/
theorem disposesOnce (units : ∀ handle ∈ session.holdings.lost, handle.sort = .unit) :
    session.DisposesOnce where
  nodup_live := by
    rw [Library.State.live_eq]
    exact valid.accurate.regular.nodup_live
  sort_ne_commands := by
    intro handle member
    rcases List.mem_append.mp ((live_perm valid).mem_iff.mp member) with owned | lost
    · exact sort_ne_commands_of_owned valid owned
    · rw [units handle lost]
      exact nofun
  nodup_disposals := valid.accurate.nodup_disposals
  disposed := fun handle member => disposed_of_mem valid member

end Valid
end Session

/-- The watch on compile commands: all that are remembered or handed out are textual. -/
def Watch.textual : Watch where
  relation _ _ := True
  holds session := ∀ command, session.Remembers command → command.IsTextual
  issued _ _ := True
  admits := CompileCommand.IsTextual

namespace Watch.textual

instance : Steady textual where
  refl _ := True.intro
  trans _ _ := True.intro
  lasts _ _ := True.intro
  aside change held :=
    ⟨True.intro, fun command remembers => (change.memos command remembers).elim (held command) id⟩
  fresh _ := True.intro
  recalls held remembers := held _ remembers
  copies _ directory _ arguments :=
    ⟨⟨_, rfl⟩, arguments.map Text.ofString, by rw [List.map_map]; rfl⟩

instance : Recording textual where
  records _ _ held := ⟨True.intro, held⟩

instance : Producing textual where
  produces _ _ held := ⟨True.intro, held⟩

instance : Revising textual where
  revises held := ⟨True.intro, held⟩

end Watch.textual

namespace Scenario

/-- The arguments of an operation have the types that are declared for them, as far as the name of
a parse call depends on it: there is a file name to parse a file, and the directory and the
arguments of a compile command are texts. -/
def Operation.IsTyped : Operation → Prop
  | .parseFile _ filename _ => filename ≠ .null
  | .parseWith _ filename _ => filename ≠ .null
  | .newCommand directory _ arguments => (∃ text, directory = .text text) ∧
      ∀ items, arguments.toItems = .ok items → ∃ texts : List Text, items = texts.map .text
  | _ => True

theorem Operation.IsTyped.suits {operation : Operation} (typed : operation.IsTyped) :
    operation.Suits textual where
  records _ _ := inferInstance
  produces _ := inferInstance
  revises _ := inferInstance
  admits := by
    cases operation with
    | newCommand directory filename arguments =>
        exact fun _ items listed => ⟨typed.1, typed.2 items listed⟩
    | _ => exact True.intro

namespace State

variable {state : State}

/-- A typed step loses no unit while all compile commands are textual. -/
theorem Sound.losesUnit_eq_false (sound : state.Sound) (watched : state.Watched textual)
    {step : Step} (typed : step.operation.IsTyped) : state.losesUnit step = false := by
  rw [Bool.eq_false_iff]
  intro loses
  have may := sound.mayLose_of_losesUnit loses
  obtain ⟨-, held⟩ := Steady.aside (state.aside_facing step) watched.holds
  have named : NamesFit textual (state.facing step) state.names :=
    watched.names.lasts True.intro
  cases performed : step.operation with
  | parseFile index filename parsing =>
      rw [performed] at may typed
      exact typed may
  | parseWith index filename parsing =>
      rw [performed] at may typed
      exact typed may
  | parseCommand index target parsing =>
      rw [performed] at may
      obtain ⟨value, found, command, rfl, untextual⟩ := may
      exact untextual (((target.value_offers named).ends held).fits _ found)
  | _ =>
      rw [performed] at may
      exact may

/-- Typed steps lose no unit. -/
theorem Sound.losses_eq_zero (sound : state.Sound) (watched : state.Watched textual)
    {steps : List Step} (typed : ∀ step ∈ steps, step.operation.IsTyped) :
    state.losses steps = 0 := by
  induction steps generalizing state with
  | nil => rfl
  | cons next rest inductionHypothesis =>
      have nextTyped := typed next (by simp)
      have later := inductionHypothesis (sound.step next)
        (sound.keeps_step watched nextTyped.suits).2
        fun step member => typed step (List.mem_cons_of_mem next member)
      rw [losses, sound.losesUnit_eq_false watched nextTyped, later]
      rfl

end State

/-- Whatever a scenario does, with whatever arguments, the live handles are those of the open
holders that own theirs and one unit for every step that loses one. -/
theorem steps_balanceHandles (script : Library.Script) (settings : Settings) (storage : Storage)
    (steps : List Step) :
    let session := ((State.start script settings storage).steps steps).1.session
    session.DisposesOnce ∧
      ∃ lost : List Handle, session.library.live.Perm (session.ownedHandles ++ lost) ∧
        lost.length = (State.start script settings storage).losses steps ∧
        ∀ handle ∈ lost, handle.sort = .unit := by
  have sound := State.start_sound script settings storage
  have valid := (sound.steps steps).valid
  obtain ⟨units, lost, sorted, count⟩ := sound.lost_steps steps
  have all : ((State.start script settings storage).steps steps).1.session.holdings.lost = units :=
    lost
  subst all
  exact ⟨Session.disposesOnce valid sorted, _, Session.live_perm valid, count, sorted⟩

/-- Whatever typed steps a scenario has, over whatever script and whether they fail or not, the live
handles are those of the open holders that own theirs, one for each, and each handle is given back
once at most and only if it was allocated and is owned. -/
theorem steps_conserveHandles (script : Library.Script) (settings : Settings) (storage : Storage)
    (steps : List Step) (typed : ∀ step ∈ steps, step.operation.IsTyped) :
    ((State.start script settings storage).steps steps).1.session.ConservesHandles := by
  have watched : (State.start script settings storage).Watched textual := by
    refine State.start_watched ?_
    rintro _ ⟨_, _, kept, _⟩
    cases kept
  have none := (State.start_sound script settings storage).losses_eq_zero watched typed
  obtain ⟨once, lost, perm, count, -⟩ := steps_balanceHandles script settings storage steps
  rw [List.eq_nil_of_length_eq_zero (count.trans none), List.append_nil] at perm
  exact ⟨once, perm⟩

/-- A compile command is made and parsed, once with success and once without. -/
def compiling : List Step :=
  [⟨.newCommand (.text "src") (.text "a.c") (.list [.text "clang", .text "a.c"]), {},
      some "command"⟩,
    ⟨.parseCommand none (.named "command" []) ⟨none, [], .int 0⟩, {}, some "unit"⟩,
    ⟨.parseCommand none (.named "command" []) ⟨none, [], .int 0⟩, { status := 1 }, none⟩]

/-- The steps are typed, so handles are conserved: an index and a unit are held, and the index that
was made for the second call. -/
theorem compiling_conservesHandles :
    (∀ step ∈ compiling, step.operation.IsTyped) ∧
      ((State.start ⟨[default], [], [], 0⟩ .blank ⟨[]⟩).steps
        compiling).1.session.ConservesHandles ∧
      ((State.start ⟨[default], [], [], 0⟩ .blank ⟨[]⟩).steps
        compiling).1.session.ownedHandles =
          [.owned .index 1, .owned .unit 1, .owned .index 2] := by
  have typed : ∀ step ∈ compiling, step.operation.IsTyped := by
    intro step member
    simp only [compiling, List.mem_cons, List.not_mem_nil, or_false] at member
    rcases member with rfl | rfl | rfl
    · refine ⟨⟨_, rfl⟩, ?_⟩
      rintro _ ⟨⟩
      exact ⟨["clang", "a.c"], rfl⟩
    · exact True.intro
    · exact True.intro
  exact ⟨typed, steps_conserveHandles _ _ _ compiling typed, by decide +kernel⟩

end Scenario
end Custody
