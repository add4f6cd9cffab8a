import Custody.Proofs.Library.Ledger

/-!
# The books of the library

The books are the ledger together with what was given back, what was misused, how
often a unit was asked for without naming a file, and how the library answers at
present.  A request is described by the books that it leaves and by its answer.
Most requests only consult the books, provided that the handles they use are good.
-/

namespace Custody
namespace Library

/-- Whether a reply provides a unit. -/
def Reply.providesUnit (reply : Reply) : Bool := reply.status = 0 && reply.unit.number?.isSome

/-- All that custody depends on in the state of the library. -/
structure Books where
  /-- The allocations. -/
  ledger : Ledger
  /-- The handles that were given back, in order. -/
  disposals : List Handle
  /-- The handles that were used although they were no longer good, in order. -/
  strays : List Handle
  /-- How often a unit was asked for without naming a file. -/
  nameless : Nat
  /-- How the library answers at present. -/
  reply : Reply

namespace Books

/-- The books after an allocation. -/
def grant (books : Books) (kind : HandleKind) (parent : Option Handle) : Books :=
  { books with ledger := books.ledger.grant kind parent }

/-- The books after a handle was given back. -/
def retire (books : Books) (handle : Handle) : Books :=
  { books with ledger := books.ledger.retire handle, disposals := books.disposals ++ [handle] }

/-- The books after a failure has left a handle unusable. -/
def spoil (books : Books) (handle : Handle) : Books :=
  { books with ledger := books.ledger.spoil handle }

/-- The books after a handle was misused. -/
def stray (books : Books) (handle : Handle) : Books :=
  { books with strays := books.strays ++ [handle] }

/-- The books after a unit was asked for without naming a file. -/
def ask (books : Books) : Books := { books with nameless := books.nameless + 1 }

/-- A request either allocates nothing or grants the next handle of a kind. -/
def Grants (books : Books) (kind : HandleKind) (parent : Option Handle) (answer : Option Handle)
    (later : Books) : Prop :=
  (answer = none ∧ later = books) ∨
    (answer = some (books.ledger.fresh kind) ∧ later = books.grant kind parent)

/-- Books are accurate when their ledger is regular, every dead handle was given back once, and
nothing was given back before what is derived from it. -/
structure Accurate (books : Books) : Prop where
  /-- The ledger is regular. -/
  regular : books.ledger.Regular
  /-- The dead handles are those that were given back, each once. -/
  disposed : books.disposals.Perm books.ledger.dead
  /-- No handle was given back after one that it is derived from. -/
  ordered : books.disposals.Pairwise fun earlier later => ¬ books.ledger.Derived later earlier

namespace Accurate

variable {books : Books}

/-- What was given back is what was allocated and is not live. -/
theorem mem_disposals_iff (accurate : books.Accurate) {handle : Handle} :
    handle ∈ books.disposals ↔
      handle ∈ books.ledger.handles ∧ books.ledger.isLive handle = false := by
  rw [accurate.disposed.mem_iff, accurate.regular.mem_dead_iff]

/-- Nothing was given back twice. -/
theorem nodup_disposals (accurate : books.Accurate) : books.disposals.Nodup :=
  accurate.disposed.nodup_iff.mpr accurate.regular.nodup_dead

/-- What is newly granted is derived from nothing that was given back. -/
protected theorem grant
    (accurate : books.Accurate)
    (kind : HandleKind)
    {parent : Option Handle}
    (allocated : ∀ upper, parent = some upper → upper.root ∈ books.ledger.handles) :
    (books.grant kind parent).Accurate where
  regular := accurate.regular.grant kind allocated
  disposed := by
    unfold grant
    rw [Ledger.dead_grant]
    exact accurate.disposed
  ordered := by
    refine accurate.ordered.imp_of_mem fun {earlier later} _ given apart derived => apart ?_
    have old := (accurate.mem_disposals_iff.mp given).1
    exact accurate.regular.derived_of_derived_grant derived old

/-- A live handle can be given back while everything that it is derived from is live. -/
protected theorem retire
    (accurate : books.Accurate)
    {handle : Handle}
    (alive : books.ledger.isLive handle = true)
    (above : ∀ upper, books.ledger.Derived handle upper → books.ledger.isLive upper = true) :
    (books.retire handle).Accurate where
  regular := accurate.regular.retire handle
  disposed := by
    have joined := accurate.disposed.append_right [handle]
    exact joined.trans (accurate.regular.dead_retire_perm alive).symm
  ordered := by
    unfold retire
    rw [Ledger.derived_congr (Ledger.parent?_retire books.ledger handle), List.pairwise_append]
    refine ⟨accurate.ordered, List.pairwise_singleton _ _, ?_⟩
    intro earlier given later new derived
    rw [List.mem_singleton] at new
    have gone := (accurate.mem_disposals_iff.mp given).2
    rw [above earlier (new ▸ derived)] at gone
    cases gone

/-- An unusable handle is still live, so it is not given back by that. -/
protected theorem spoil (accurate : books.Accurate) (handle : Handle) :
    (books.spoil handle).Accurate where
  regular := accurate.regular.spoil handle
  disposed := by
    unfold spoil
    rw [Ledger.dead_spoil]
    exact accurate.disposed
  ordered := by
    unfold spoil
    rw [Ledger.derived_congr (Ledger.parent?_spoil books.ledger handle)]
    exact accurate.ordered

/-- A misuse does not disturb what was given back. -/
protected theorem stray (accurate : books.Accurate) (handle : Handle) :
    (books.stray handle).Accurate := ⟨accurate.regular, accurate.disposed, accurate.ordered⟩

protected theorem ask (accurate : books.Accurate) : books.ask.Accurate :=
  ⟨accurate.regular, accurate.disposed, accurate.ordered⟩

end Accurate

end Books

/-- The books of a state. -/
def State.books (state : State) : Books :=
  ⟨state.ledger, state.disposals, state.strays, state.namelessCount, state.reply⟩

/-- An effect is custodial when it gives a handle back or asks for a unit without naming a
file. -/
def Effect.isCustodial (effect : Effect) : Bool := effect.disposed?.isSome || effect.isNameless

namespace Call

variable {α β : Type} {books : Books}

/-- A request with given books leaves an answer and books of a certain kind. -/
def Ensures (books : Books) (request : Call α) (post : α → Books → Prop) : Prop :=
  ∀ state : State, state.books = books →
    post (Id.run (StateT.run request state)).1 (Id.run (StateT.run request state)).2.books

/-- A request leaves the books alone, and its answer is of a certain kind. -/
def Consults (books : Books) (request : Call α) (fits : α → Prop) : Prop :=
  Ensures books request fun answer later => later = books ∧ fits answer

namespace Ensures

theorem pure {post : α → Books → Prop} {value : α} (holds : post value books) :
    Ensures books (Pure.pure value) post := by
  rintro state rfl
  exact holds

/-- The books of the first request are those of the next. -/
theorem bind
    {request : Call α}
    {next : α → Call β}
    {middle : α → Books → Prop}
    {post : β → Books → Prop}
    (first : Ensures books request middle)
    (rest : ∀ answer later, middle answer later → Ensures later (next answer) post) :
    Ensures books (request >>= next) post := by
  intro state same
  exact rest _ _ (first state same) _ rfl

theorem mono {request : Call α} {post weaker : α → Books → Prop}
    (first : Ensures books request post)
    (weakens : ∀ answer later, post answer later → weaker answer later) :
    Ensures books request weaker :=
  fun state same => weakens _ _ (first state same)

/-- What an answer is turned into is told along with the books. -/
theorem map {request : Call α} {post : α → Books → Prop} (first : Ensures books request post)
    (change : α → β) :
    Ensures books (change <$> request) fun value later =>
      ∃ answer, value = change answer ∧ post answer later :=
  fun state same => ⟨_, rfl, first state same⟩

/-- A change of the state may change its books. -/
theorem modify {change : State → State} {post : Unit → Books → Prop}
    (holds : ∀ state : State, state.books = books → post () (change state).books) :
    Ensures books (modify change : Call Unit) post := holds

theorem ite {condition : Prop} [Decidable condition] {first second : Call α}
    {post : α → Books → Prop}
    (whenTrue : condition → Ensures books first post)
    (whenFalse : ¬ condition → Ensures books second post) :
    Ensures books (if condition then first else second) post := by
  split
  · next holds => exact whenTrue holds
  · next fails => exact whenFalse fails

end Ensures

namespace Consults

theorem pure {fits : α → Prop} {value : α} (holds : fits value) :
    Consults books (Pure.pure value) fits := Ensures.pure ⟨rfl, holds⟩

/-- Requests that only consult the books do so in turn. -/
theorem bind
    {request : Call α}
    {next : α → Call β}
    {middle : α → Prop}
    {fits : β → Prop}
    (first : Consults books request middle)
    (rest : ∀ answer, middle answer → Consults books (next answer) fits) :
    Consults books (request >>= next) fits := by
  refine Ensures.bind first ?_
  rintro answer _ ⟨rfl, holds⟩
  exact rest answer holds

/-- After a request that only consults the books, any other request may follow. -/
theorem andThen
    {request : Call α}
    {next : α → Call β}
    {middle : α → Prop}
    {post : β → Books → Prop}
    (first : Consults books request middle)
    (rest : ∀ answer, middle answer → Ensures books (next answer) post) :
    Ensures books (request >>= next) post := by
  refine Ensures.bind first ?_
  rintro answer _ ⟨rfl, holds⟩
  exact rest answer holds

theorem get : Consults books (get : Call State) fun state => state.books = books :=
  fun _ same => ⟨same, same⟩

/-- A change outside the books leaves them alone. -/
theorem modify {change : State → State}
    (keeps : ∀ state : State, (change state).books = state.books) :
    Consults books (modify change : Call Unit) fun _ => True :=
  fun state same => ⟨(keeps state).trans same, True.intro⟩

theorem set {state : State} (same : state.books = books) :
    Consults books (set state : Call PUnit) fun _ => True := fun _ _ => ⟨same, True.intro⟩

theorem ite {condition : Prop} [Decidable condition] {first second : Call α} {fits : α → Prop}
    (whenTrue : condition → Consults books first fits)
    (whenFalse : ¬ condition → Consults books second fits) :
    Consults books (if condition then first else second) fits := Ensures.ite whenTrue whenFalse

end Consults

/-- To change an allocation changes its entry in the ledger. -/
theorem books_modifyResource
    (change : Resource → Resource)
    (amended : Entry → Entry)
    (agrees : ∀ resource, (change resource).entry = amended resource.entry)
    (state : State)
    (handle : Handle) :
    (state.modifyResource handle change).books =
      { state.books with ledger := state.books.ledger.amend amended handle } := by
  unfold State.books
  rw [State.ledger_modifyResource change amended agrees]
  rfl

/-- Changing the content of an allocation leaves the books alone. -/
theorem books_modifyResource_of_keeps
    (change : Resource → Resource)
    (keeps : ∀ resource, (change resource).entry = resource.entry)
    (state : State)
    (handle : Handle) :
    (state.modifyResource handle change).books = state.books := by
  rw [books_modifyResource change id keeps, Ledger.amend]
  simp

/-- An effect that is noted may be a disposal or a request that names no file. -/
theorem books_note (state : State) (effect : Effect) :
    State.books { state with effects := state.effects ++ [effect] } =
      { state.books with
        disposals := state.disposals ++ effect.disposed?.toList
        nameless := state.namelessCount + if effect.isNameless then 1 else 0 } := by
  unfold State.books State.disposals State.namelessCount State.ledger
  simp only [List.filterMap_append, List.countP_append, List.countP_singleton]
  cases found : effect.disposed? <;> simp [found]

/-- An effect that is not custodial leaves the books alone. -/
theorem note_consults {effect : Effect} (plain : effect.isCustodial = false) :
    Consults books (note effect) fun _ => True := by
  refine Consults.modify fun state => ?_
  simp only [Effect.isCustodial, Bool.or_eq_false_iff, Option.isSome_eq_false_iff,
    Option.isNone_iff_eq_none] at plain
  rw [books_note, plain.1, plain.2]
  simp [State.books]

/-- A good handle may be used without a trace. -/
theorem use_consults {handle : Handle} (good : books.ledger.isGood handle = true) :
    Consults books (use handle) fun _ => True := by
  rintro state rfl
  have fine : state.isGood handle = true := by
    rw [State.isGood_eq]
    exact good
  refine ⟨?_, True.intro⟩
  change State.books (if state.isGood handle then state else _) = _
  rw [if_pos fine]

/-- Using a handle that is not good is recorded. -/
theorem use_strays {handle : Handle} (bad : books.ledger.isGood handle = false) :
    Ensures books (use handle) fun _ later => later = books.stray handle := by
  rintro state rfl
  have faulty : ¬ state.isGood handle = true := by
    rw [State.isGood_eq]
    exact Bool.eq_false_iff.mp bad
  change State.books (if state.isGood handle then state else _) = _
  rw [if_neg faulty]
  rfl

/-- What is lent is not in the books. -/
theorem lend_consults (data : Option Bytes) : Consults books (lend data) fun _ => True :=
  Consults.get.bind fun _ _ => Consults.bind (.modify fun _ => rfl) fun _ _ => .pure True.intro

/-- What is given back of what was lent is not in the books either. -/
theorem giveBack_consults (lent : Lent) : Consults books (giveBack lent) fun _ => True :=
  .modify fun _ => rfl

theorem settle?_consults (lent : Lent) : Consults books (settle? lent) fun _ => True := by
  unfold settle?
  split
  · exact (giveBack_consults lent).bind fun _ _ => .pure True.intro
  · exact .pure True.intro

theorem settle_consults (lent : Lent) : Consults books (settle lent) fun _ => True :=
  (settle?_consults lent).bind fun _ _ => .pure True.intro

/-- An allocation grants the next handle of its kind. -/
theorem allocate_ensures (kind : HandleKind) (parent : Option Handle) (content : Content) :
    Ensures books (allocate kind parent content) fun answer later =>
      answer = books.ledger.fresh kind ∧ later = books.grant kind parent := by
  rintro state rfl
  have number : state.allocated kind = state.ledger.count kind := state.allocated_eq kind
  refine ⟨?_, ?_⟩
  · change Handle.owned kind (state.allocated kind + 1) = _
    rw [number]
    rfl
  · change (⟨List.map Resource.entry (state.resources ++ [⟨.owned kind (state.allocated kind + 1),
      parent, content, true, true⟩]), _, _, _, _⟩ : Books) = _
    rw [List.map_append, number]
    rfl

/-- A disposal that is noted is added to those that were given back. -/
theorem note_disposal (handle : Handle) (count : Nat) :
    Ensures books (note (.dispose handle count)) fun _ later =>
      later = { books with disposals := books.disposals ++ [handle] } := by
  refine Ensures.modify ?_
  rintro state rfl
  rw [books_note]
  rfl

/-- A disposal gives a handle back, whatever it is. -/
theorem dispose_ensures (handle : Handle) :
    Ensures books (dispose handle) fun _ later => later = books.retire handle := by
  refine Consults.get.andThen fun _ _ => ?_
  refine (note_disposal handle _).bind ?_
  rintro _ _ rfl
  refine Ensures.modify fun state same => ?_
  rw [books_modifyResource _ Entry.retired (fun _ => rfl), same]
  rfl

end Call
end Library
end Custody
