import Custody.Proofs.Sequence
import Custody.Proofs.Session.Diagnostics
import Custody.Proofs.Session.Requests

/-!
# Sequences of diagnostics

The diagnostics of a unit and the diagnostics of a set are read like a list.  Every read makes
one more holder: for a unit, of a handle that the library allocates for it, and for a set, of
a borrowed one.  What several reads in turn deliver is described by one invariant, which a
further read extends.
-/

namespace Custody

namespace Library.State

/-- The library after further allocations. -/
def allocating (state : State) (new : List Resource) : State :=
  { state with resources := state.resources ++ new }

@[simp] theorem allocating_nil (state : State) : state.allocating [] = state := by
  simp [allocating]

theorem allocating_append (state : State) (first second : List Resource) :
    (state.allocating first).allocating second = state.allocating (first ++ second) := by
  simp [allocating]

variable {state : State}

theorem resource?_allocating {handle : Handle}
    (listed : handle ∈ state.resources.map Resource.handle) (new : List Resource) :
    (state.allocating new).resource? handle = state.resource? handle := by
  obtain ⟨resource, member, same⟩ := List.mem_map.mp listed
  have found : (state.resources.find? fun resource => resource.handle = handle).isSome = true :=
    List.find?_isSome.mpr ⟨resource, member, decide_eq_true same⟩
  unfold resource? allocating
  dsimp only
  rw [List.find?_append, Option.or_of_isSome found]

/-- The model of a unit stays as it is when the library allocates something. -/
theorem unitModel_allocating {unit : Handle}
    (listed : unit ∈ state.resources.map Resource.handle) (new : List Resource) :
    (state.allocating new).unitModel unit = state.unitModel unit := by
  unfold unitModel modelNumber
  rw [resource?_allocating listed]
  rfl

/-- The model of a diagnostic stays as it is when the library allocates something. -/
theorem diagnosticModel_allocating {kind : HandleKind} {number : Nat}
    (listed : Handle.owned kind number ∈ state.resources.map Resource.handle)
    (new : List Resource) :
    (state.allocating new).diagnosticModel (.owned kind number) =
      state.diagnosticModel (.owned kind number) := by
  unfold diagnosticModel
  rw [resource?_allocating listed]

/-- A new diagnostic has the model that it was allocated with. -/
theorem diagnosticModel_of_new {number : Nat}
    (apart : Handle.owned .diagnostic number ∉ state.resources.map Resource.handle)
    (parent : Option Handle)
    (model : DiagnosticModel)
    (live sound : Bool) :
    (state.allocating
        [⟨.owned .diagnostic number, parent, .diagnostic model, live, sound⟩]).diagnosticModel
      (.owned .diagnostic number) = model := by
  have absent : state.resources.find?
      (fun resource => resource.handle = Handle.owned .diagnostic number) = none := by
    rw [List.find?_eq_none]
    intro resource member same
    exact apart (List.mem_map.mpr ⟨resource, member, of_decide_eq_true same⟩)
  unfold diagnosticModel resource? allocating
  dsimp only
  rw [List.find?_append, absent]
  simp

theorem handles_ledger (state : State) :
    state.ledger.handles = state.resources.map Resource.handle := by
  simp [ledger, Ledger.handles, Resource.entry]

/-- The diagnostic that is allocated next was not there before. -/
theorem nextDiagnostic_notMem (regular : state.ledger.Regular) :
    Handle.owned .diagnostic (state.allocated .diagnostic + 1) ∉
      state.resources.map Resource.handle := by
  rw [allocated_eq, ← handles_ledger]
  exact regular.fresh_notMem .diagnostic

end Library.State

/-- A new holder that is adopted at once. -/
theorem Estate.get?_adopt_add
    {η α : Type}
    {estate : Estate η α}
    {parent : Nat}
    (below : parent < estate.size)
    (older : ∀ child, estate.Adopts parent child → child < estate.size)
    (record : Holder η α)
    (other : Nat) :
    ((estate.add record).adopt parent estate.size).get? other =
      if other = estate.size then some record
      else if other = parent then
        (estate.get? other).map fun kept =>
          { kept with dependants := kept.dependants ++ [estate.size] }
      else estate.get? other := by
  unfold Estate.adopt
  rw [Estate.get?_modify, Estate.get?_add]
  by_cases last : other = estate.size
  · rw [if_pos last, if_neg (by omega), if_pos last]
  rw [if_neg last, if_neg last]
  by_cases same : other = parent
  · subst same
    rw [if_pos rfl, if_pos rfl]
    cases present : estate.get? other with
    | none => rfl
    | some kept =>
        have absent : estate.size ∉ kept.dependants := by
          intro member
          have adopted : estate.Adopts other estate.size := by
            rw [Estate.Adopts, Estate.dependants_of_get? present]
            exact member
          exact Nat.lt_irrefl _ (older _ adopted)
        simp [absent]
  · rw [if_neg same, if_neg same]

/-- A session with one more holder, which another one adopts. -/
def Session.placing (session : Session) (parent : Nat) (handle : Handle) (owned : Bool)
    (wrapper : Wrapper) : Session :=
  { session with
    estate := (session.estate.add ⟨some handle, owned, [], wrapper⟩).adopt parent
      session.estate.size
    made := session.made ++ [handle]
    adoptions := session.adoptions ++ [⟨parent, session.estate.size, true⟩] }

/-- An open holder adopts a new one. -/
theorem Facade.place_outcome
    {session : Session}
    {parent : Nat}
    (opened : session.estate.isOpen parent = true)
    (handle : Handle)
    (owned : Bool)
    (wrapper : Wrapper) :
    Facade.outcome (do
        let number ← wrap (some handle) owned wrapper
        adopt parent number
        return number) session =
      (.ok session.estate.size, session.placing parent handle owned wrapper) := by
  have still : (session.estate.add ⟨some handle, owned, [], wrapper⟩).isOpen parent = true := by
    rw [Estate.isOpen_add, if_neg (Nat.ne_of_lt (Estate.lt_size_of_isOpen opened))]
    exact opened
  have placed : Facade.outcome (do
        let number ← wrap (some handle) owned wrapper
        adopt parent number
        return number) session =
      (.ok session.estate.size, { session.placing parent handle owned wrapper with
        adoptions := session.adoptions ++ [⟨parent, session.estate.size,
          (session.estate.add ⟨some handle, owned, [], wrapper⟩).isOpen parent⟩] }) := rfl
  rw [placed, still]
  rfl

/-- What is read like a list of diagnostics. -/
inductive DiagnosticSequence where
  /-- The diagnostics of a unit. -/
  | view (unit : Nat)
  /-- A set of diagnostics. -/
  | set (number : Nat)
  deriving DecidableEq

namespace DiagnosticSequence

/-- The holder that adopts what is read. -/
def holder : DiagnosticSequence → Nat
  | .view unit => unit
  | .set number => number

/-- The sort of that holder. -/
def sort : DiagnosticSequence → HandleKind
  | .view _ => .unit
  | .set _ => .set

/-- Whether what is read owns its handle. -/
def lets : DiagnosticSequence → Bool
  | .view _ => true
  | .set _ => false

/-- How many diagnostics there are. -/
def count : DiagnosticSequence → Facade Nat
  | .view unit => DiagnosticView.count unit
  | .set number => DiagnosticSet.count number

/-- The diagnostic that an index denotes. -/
def item : DiagnosticSequence → Int → Facade Nat
  | .view unit => DiagnosticView.item unit
  | .set number => DiagnosticSet.item number

/-- The diagnostics that a slice picks. -/
def slice : DiagnosticSequence → Slice → Facade (List Nat)
  | .view unit => DiagnosticView.slice unit
  | .set number => DiagnosticSet.slice number

/-- All diagnostics. -/
def toList : DiagnosticSequence → Facade (List Nat)
  | .view unit => DiagnosticView.toList unit
  | .set number => DiagnosticSet.toList number

/-- What the library has below the handle of the holder. -/
def models (library : Library.State) (upper : Handle) :
    DiagnosticSequence → List Library.DiagnosticModel
  | .view _ => (library.unitModel upper).diagnostics
  | .set _ => library.setModel upper

/-- The holder to which the locations of what is read belong. -/
def owner (session : Session) : DiagnosticSequence → Nat
  | .view unit => unit
  | .set number =>
      match session.estate.content? number with
      | some (.set (some owner)) => owner
      | _ => number

/-- Reads the diagnostic at a position. -/
def read : DiagnosticSequence → Nat → Facade Nat
  | .view unit, position => do
      let handle ← Facade.handle unit
      let diagnostic ← Facade.call (Library.Call.diagnosticAt handle position)
      let diagnostic ← Facade.wrap diagnostic true (.diagnostic unit)
      Facade.adopt unit diagnostic
      return diagnostic
  | .set number, position => do
      let handle ← Facade.handle number
      let note ← Facade.call (Library.Call.setItem handle position)
      let diagnostic ← Facade.wrap (some note) false (.diagnostic (← DiagnosticSet.owner number))
      Facade.adopt number diagnostic
      return diagnostic

theorem item_eq (sequence : DiagnosticSequence) (index : Int) :
    sequence.item index =
      sequence.count >>= fun count =>
        match Sequence.position? index count with
        | none => throw .diagnosticIndex
        | some position => sequence.read position := by
  cases sequence <;> rfl

theorem slice_eq (sequence : DiagnosticSequence) (slice : Slice) :
    sequence.slice slice =
      sequence.count >>= fun count =>
        Facade.ofExcept (slice.positions count) >>= fun positions =>
          positions.mapM sequence.item := by
  cases sequence <;> rfl

theorem toList_eq (sequence : DiagnosticSequence) :
    sequence.toList =
      sequence.count >>= fun count =>
        (List.range count).mapM fun (position : Nat) => sequence.item position := by
  cases sequence <;> rfl

/-- The handle that the next read of a position gives. -/
def handleAt (library : Library.State) (upper : Handle) (position : Nat) :
    DiagnosticSequence → Handle
  | .view _ => .owned .diagnostic (library.allocated .diagnostic + 1)
  | .set _ => .note upper position

/-- The library after a position was read. -/
def libraryAt (library : Library.State) (upper : Handle) (position : Nat) :
    DiagnosticSequence → Library.State
  | .view _ =>
      library.allocating [⟨.owned .diagnostic (library.allocated .diagnostic + 1), some upper,
        .diagnostic (((library.unitModel upper).diagnostics[position]?).getD default), true, true⟩]
  | .set _ => library

/-- The session after a position was read. -/
def deliver (sequence : DiagnosticSequence) (upper : Handle) (session : Session) (position : Nat) :
    Session :=
  { session with library := sequence.libraryAt session.library upper position }.placing
    sequence.holder (sequence.handleAt session.library upper position) sequence.lets
    (.diagnostic (sequence.owner session))

@[simp] theorem size_deliver (sequence : DiagnosticSequence) (upper : Handle) (session : Session)
    (position : Nat) :
    (sequence.deliver upper session position).estate.size = session.estate.size + 1 := by
  change ((session.estate.add _).adopt _ _).size = _
  rw [Estate.size_adopt, Estate.size_add]

section Reading

variable {session : Session} (valid : session.holdings.Valid) {upper : Handle}
include valid

/-- Reading a position of a unit has the library allocate a diagnostic. -/
theorem read_view_outcome {unit position : Nat}
    (held : session.estate.handle? unit = some upper)
    (below : position < (session.library.unitModel upper).diagnostics.length) :
    ((view unit).read position).outcome session =
      (.ok session.estate.size, (view unit).deliver upper session position) := by
  have good := session.isGood_of_held valid held
  have opened : session.estate.isOpen unit = true := Estate.isOpen_iff.mpr ⟨upper, held⟩
  have allocated : (Facade.call (Library.Call.diagnosticAt upper position)).outcome session =
      (.ok (some ((view unit).handleAt session.library upper position)),
        { session with library := (view unit).libraryAt session.library upper position }) := by
    have model := List.getElem?_eq_getElem below
    rw [Facade.outcome_call, Library.Call.diagnosticAt,
      (Library.Call.Answers.use good).run_bind, Library.Call.Answers.get.run_bind, model, handleAt,
      libraryAt, model]
    rfl
  rw [read, Facade.outcome_bind_of_ok (Facade.handle_outcome_of_held held),
    Facade.outcome_bind_of_ok allocated]
  have stillOpen : { session with
      library := (view unit).libraryAt session.library upper position }.estate.isOpen unit = true :=
    opened
  exact Facade.place_outcome stillOpen _ _ _

/-- Reading a position of a set borrows a diagnostic from the set. -/
theorem read_set_outcome {number position : Nat}
    (held : session.estate.handle? number = some upper) :
    ((set number).read position).outcome session =
      (.ok session.estate.size, (set number).deliver upper session position) := by
  have good := session.isGood_of_held valid held
  have opened : session.estate.isOpen number = true := Estate.isOpen_iff.mpr ⟨upper, held⟩
  obtain ⟨record, present, kept⟩ := Estate.handle?_eq_some_iff.mp held
  have owned : (DiagnosticSet.owner number).outcome session =
      (.ok ((set number).owner session), session) := by
    rw [DiagnosticSet.owner, Facade.outcome_bind_of_ok (Facade.holder_outcome_of_get? present),
      owner, Estate.content?_of_get? present]
    rcases record.content with _ | _ | _ | _ | ⟨_ | _⟩ | _ <;> rfl
  rw [read, Facade.outcome_bind_of_ok (Facade.handle_outcome_of_held held),
    Facade.outcome_bind_of_ok (Facade.call_outcome_of_answers
      (Library.Call.setItem_answers good position)), Facade.outcome_bind_of_ok owned]
  exact Facade.place_outcome opened _ _ _

variable
  {sequence : DiagnosticSequence}
  (held : session.estate.handle? sequence.holder = some upper)
include held

theorem count_outcome :
    sequence.count.outcome session =
      (.ok (sequence.models session.library upper).length, session) := by
  have good := session.isGood_of_held valid held
  cases sequence with
  | view unit =>
      change session.estate.handle? unit = some upper at held
      rw [count, DiagnosticView.count, Facade.outcome_bind_of_ok (Facade.handle_outcome_of_held held)]
      exact Facade.call_outcome_of_answers (Library.Call.diagnosticCount_answers good)
  | set number =>
      change session.estate.handle? number = some upper at held
      obtain ⟨record, present, kept⟩ := Estate.handle?_eq_some_iff.mp held
      rw [count, DiagnosticSet.count,
        Facade.outcome_bind_of_ok (Facade.holder_outcome_of_get? present), kept]
      exact Facade.call_outcome_of_answers (Library.Call.setCount_answers good)

/-- An index that denotes no position is refused, and nothing happens. -/
theorem item_outcome_of_none {index : Int}
    (outside : Sequence.position? index (sequence.models session.library upper).length = none) :
    (sequence.item index).outcome session = (.error .diagnosticIndex, session) := by
  rw [item_eq, Facade.outcome_bind_of_ok (count_outcome valid held), outside]
  rfl

/-- An index that denotes a position delivers the diagnostic there. -/
theorem item_outcome_of_some {index : Int} {position : Nat}
    (inside : Sequence.position? index (sequence.models session.library upper).length =
      some position) :
    (sequence.item index).outcome session =
      (.ok session.estate.size, sequence.deliver upper session position) := by
  have below := (Sequence.position?_eq_some_iff.mp inside).1
  rw [item_eq, Facade.outcome_bind_of_ok (count_outcome valid held), inside]
  cases sequence with
  | view unit => exact read_view_outcome valid held below
  | set number => exact read_set_outcome valid held

end Reading

/-- How the library hands out the diagnostics at several positions: for a unit it allocates a handle
for each, and for a set it allocates nothing. -/
inductive Hands (library : Library.State) (upper : Handle) (positions : List Nat)
    (handles : List Handle) : DiagnosticSequence → Library.State → Prop
  /-- Handles that were not there before, each once. -/
  | allocated (unit : Nat) {new : List Library.Resource}
      (listed : new.map Library.Resource.handle = handles)
      (alive : ∀ resource ∈ new, resource.parent = some upper ∧ resource.live = true)
      (owned : ∀ handle ∈ handles, ∃ number, handle = .owned .diagnostic number)
      (apart : ∀ handle ∈ handles, handle ∉ library.resources.map Library.Resource.handle)
      (distinct : handles.Nodup) :
      Hands library upper positions handles (.view unit) (library.allocating new)
  /-- Handles that are borrowed from the set. -/
  | borrowed (number : Nat) (notes : handles = positions.map (Handle.note upper)) :
      Hands library upper positions handles (.set number) library

/-- What reads of several positions in turn have delivered: one new holder for each, in order, which
the holder of the sequence has adopted, and nothing else. -/
structure Delivered (sequence : DiagnosticSequence) (upper : Handle) (before : Session)
    (positions : List Nat) (handles : List Handle) (after : Session) : Prop where
  /-- There is a handle for every position. -/
  length_eq : handles.length = positions.length
  /-- There is a holder for every position. -/
  size : after.estate.size = before.estate.size + positions.length
  /-- The new holders are the diagnostics at the positions. -/
  diagnostic : ∀ (count position : Nat) (handle : Handle), positions[count]? = some position →
    handles[count]? = some handle →
      after.estate.get? (before.estate.size + count) =
          some ⟨some handle, sequence.lets, [], .diagnostic (sequence.owner before)⟩ ∧
        (sequence.models before.library upper)[position]? =
          some (after.library.diagnosticModel handle)
  /-- The holder of the sequence has adopted them. -/
  adopted : after.estate.get? sequence.holder =
    (before.estate.get? sequence.holder).map fun record =>
      { record with
        dependants := record.dependants ++ List.range' before.estate.size positions.length }
  /-- The other holders are as they were. -/
  kept : ∀ other, other < before.estate.size → other ≠ sequence.holder →
    after.estate.get? other = before.estate.get? other
  /-- The library has handed their handles out. -/
  handed : sequence.Hands before.library upper positions handles after.library
  /-- The session has listed them. -/
  made : after.made = before.made ++ handles
  /-- The session has listed that they were adopted. -/
  adoptions : after.adoptions = before.adoptions ++
    (List.range' before.estate.size positions.length).map (⟨sequence.holder, ·, true⟩)
  /-- Nothing else has changed. -/
  rest : after = { before with
    library := after.library
    estate := after.estate
    made := after.made
    adoptions := after.adoptions }

namespace Delivered

variable
  {sequence : DiagnosticSequence}
  {upper : Handle}
  {before after : Session}
  {positions : List Nat}
  {handles : List Handle}

/-- Before the first read nothing was delivered. -/
theorem none (sequence : DiagnosticSequence) (upper : Handle) (session : Session) :
    sequence.Delivered upper session [] [] session where
  length_eq := rfl
  size := rfl
  diagnostic := by simp
  adopted := by simp
  kept := fun _ _ _ => rfl
  handed := by
    cases sequence with
    | view unit =>
        have handed : Hands session.library upper [] [] (.view unit)
            (session.library.allocating []) := .allocated unit rfl nofun nofun nofun .nil
        rwa [Library.State.allocating_nil] at handed
    | set number => exact .borrowed number rfl
  made := (List.append_nil _).symm
  adoptions := (List.append_nil _).symm
  rest := rfl

section Kept

variable (delivered : sequence.Delivered upper before positions handles after)
include delivered

/-- The sequence keeps its handle. -/
theorem held (held : before.estate.handle? sequence.holder = some upper) :
    after.estate.handle? sequence.holder = some upper := by
  unfold Estate.handle? at held ⊢
  rw [delivered.adopted]
  cases present : before.estate.get? sequence.holder with
  | none =>
      rw [present] at held
      cases held
  | some record =>
      rw [present] at held
      exact held

theorem content? : after.estate.content? sequence.holder =
    before.estate.content? sequence.holder := by
  unfold Estate.content?
  rw [delivered.adopted, Option.map_map]
  rfl

/-- What is read belongs to the same owner as before. -/
theorem owner_eq : sequence.owner after = sequence.owner before := by
  cases sequence with
  | view unit => rfl
  | set number =>
      have same := delivered.content?
      change after.estate.content? number = before.estate.content? number at same
      rw [owner, owner, same]

/-- The library has the same diagnostics as before. -/
theorem models_eq
    (listed : sequence.sort = .unit →
      upper ∈ before.library.resources.map Library.Resource.handle) :
    sequence.models after.library upper = sequence.models before.library upper := by
  have handed := delivered.handed
  generalize after.library = library at handed ⊢
  cases handed with
  | allocated unit =>
      exact congrArg Library.UnitModel.diagnostics
        (Library.State.unitModel_allocating (listed rfl) _)
  | borrowed number => rfl

/-- What was delivered keeps its model when the library allocates something. -/
theorem diagnosticModel_eq {handle : Handle} (member : handle ∈ handles) (position : Nat) :
    (sequence.libraryAt after.library upper position).diagnosticModel handle =
      after.library.diagnosticModel handle := by
  have handed := delivered.handed
  generalize after.library = library at handed ⊢
  cases handed with
  | @allocated unit new listed alive owned apart distinct =>
      obtain ⟨number, rfl⟩ := owned handle member
      refine Library.State.diagnosticModel_allocating ?_ _
      unfold Library.State.allocating
      rw [List.map_append, listed]
      exact List.mem_append_right _ member
  | borrowed number => rfl

end Kept

/-- The library hands out one more diagnostic. -/
theorem hands
    (delivered : sequence.Delivered upper before positions handles after)
    (regular : after.library.ledger.Regular)
    (position : Nat) :
    sequence.Hands before.library upper (positions ++ [position])
      (handles ++ [sequence.handleAt after.library upper position])
      (sequence.libraryAt after.library upper position) := by
  have unlisted := Library.State.nextDiagnostic_notMem regular
  have handed := delivered.handed
  generalize after.library = library at handed unlisted ⊢
  cases handed with
  | @allocated unit new listed alive owned apart distinct =>
      have resources : ((before.library.allocating new).resources.map Library.Resource.handle) =
          before.library.resources.map Library.Resource.handle ++ handles := by
        rw [← listed]
        exact List.map_append
      rw [resources, List.mem_append, not_or] at unlisted
      unfold libraryAt handleAt
      rw [Library.State.allocating_append]
      refine .allocated unit ?_ ?_ ?_ ?_ ?_
      · rw [List.map_append, listed]
        rfl
      · intro resource member
        rcases List.mem_append.mp member with old | new
        · exact alive resource old
        · rw [List.mem_singleton.mp new]
          exact ⟨rfl, rfl⟩
      · intro handle member
        rcases List.mem_append.mp member with old | new
        · exact owned handle old
        · exact ⟨_, List.mem_singleton.mp new⟩
      · intro handle member
        rcases List.mem_append.mp member with old | new
        · exact apart handle old
        · rw [List.mem_singleton.mp new]
          exact unlisted.1
      · rw [List.nodup_append]
        refine ⟨distinct, List.nodup_singleton _, ?_⟩
        rintro handle member _ new rfl
        rw [List.mem_singleton.mp new] at member
        exact unlisted.2 member
  | borrowed number notes =>
      refine .borrowed number ?_
      rw [List.map_append, notes]
      rfl

/-- What is read has the model of its position. -/
theorem diagnosticModel_handleAt
    (sequence : DiagnosticSequence)
    {library : Library.State}
    (regular : library.ledger.Regular)
    {upper : Handle}
    {position : Nat}
    (below : position < (sequence.models library upper).length) :
    (sequence.models library upper)[position]? =
      some ((sequence.libraryAt library upper position).diagnosticModel
        (sequence.handleAt library upper position)) := by
  cases sequence with
  | view unit =>
      have model := List.getElem?_eq_getElem below
      unfold libraryAt handleAt
      rw [Library.State.diagnosticModel_of_new (Library.State.nextDiagnostic_notMem regular), model]
      unfold models at model ⊢
      rw [model]
      rfl
  | set number =>
      have model := List.getElem?_eq_getElem below
      unfold libraryAt handleAt Library.State.diagnosticModel
      rw [model]
      unfold models at model ⊢
      rw [model]
      rfl

/-- The holders after one more read. -/
theorem get?_deliver
    (sequence : DiagnosticSequence)
    {session : Session}
    (valid : session.holdings.Valid)
    (below : sequence.holder < session.estate.size)
    (upper : Handle)
    (position other : Nat) :
    (sequence.deliver upper session position).estate.get? other =
      if other = session.estate.size then
        some ⟨some (sequence.handleAt session.library upper position), sequence.lets, [],
          .diagnostic (sequence.owner session)⟩
      else if other = sequence.holder then
        (session.estate.get? other).map fun kept =>
          { kept with dependants := kept.dependants ++ [session.estate.size] }
      else session.estate.get? other := by
  refine Estate.get?_adopt_add below (fun child adopted => ?_) _ other
  obtain ⟨adoption, member, _, rfl⟩ := valid.orderly.recorded adopted
  exact valid.orderly.child_lt adoption member

/-- One more read delivers one more diagnostic. -/
theorem deliver
    (delivered : sequence.Delivered upper before positions handles after)
    (valid : after.holdings.Valid)
    (held : before.estate.handle? sequence.holder = some upper)
    (listed : sequence.sort = .unit →
      upper ∈ before.library.resources.map Library.Resource.handle)
    {position : Nat}
    (below : position < (sequence.models before.library upper).length) :
    sequence.Delivered upper before (positions ++ [position])
      (handles ++ [sequence.handleAt after.library upper position])
      (sequence.deliver upper after position) := by
  have regular : after.library.ledger.Regular := valid.accurate.regular
  have inside : sequence.holder < before.estate.size := Estate.lt_size_of_handle? held
  have size := delivered.size
  have holders := get?_deliver sequence valid (by omega) upper position
  have range : List.range' before.estate.size (positions ++ [position]).length =
      List.range' before.estate.size positions.length ++ [after.estate.size] := by
    rw [List.length_append, List.length_singleton, List.range'_concat, size]
    simp
  refine ⟨?_, ?_, ?_, ?_, ?_, delivered.hands regular position, ?_, ?_, ?_⟩
  · simp [delivered.length_eq]
  · rw [size_deliver, size, List.length_append]
    rfl
  · intro count place handle placed handed
    rw [holders]
    rcases Nat.lt_or_ge count positions.length with old | new
    · rw [List.getElem?_append_left old] at placed
      rw [List.getElem?_append_left (delivered.length_eq ▸ old)] at handed
      obtain ⟨present, model⟩ := delivered.diagnostic count place handle placed handed
      rw [if_neg (by omega), if_neg (by omega)]
      refine ⟨present, model.trans ?_⟩
      exact congrArg some (delivered.diagnosticModel_eq (List.mem_of_getElem? handed) position).symm
    · have lengths := delivered.length_eq
      obtain ⟨within, _⟩ := List.getElem?_eq_some_iff.mp placed
      rw [List.length_append, List.length_singleton] at within
      have last : count = positions.length := by omega
      subst last
      rw [List.getElem?_concat_length, Option.some.injEq] at placed
      rw [← lengths, List.getElem?_concat_length, Option.some.injEq] at handed
      subst placed handed
      rw [if_pos size.symm, delivered.owner_eq]
      refine ⟨rfl, ?_⟩
      rw [← delivered.models_eq listed] at below ⊢
      exact diagnosticModel_handleAt sequence regular below
  · rw [holders, if_neg (by omega), if_pos rfl, delivered.adopted, Option.map_map, range]
    simp [Function.comp_def]
  · intro other older different
    rw [holders, if_neg (by omega), if_neg different]
    exact delivered.kept other older different
  · change after.made ++ [_] = _
    rw [delivered.made, List.append_assoc]
  · change after.adoptions ++ [_] = _
    rw [delivered.adoptions, range, List.map_append, List.append_assoc]
    rfl
  · have rest := delivered.rest
    unfold DiagnosticSequence.deliver Session.placing
    rw [rest]

end Delivered

/-- A sequence that is open in a session in good order. -/
structure Readable (sequence : DiagnosticSequence) (upper : Handle) (session : Session) : Prop where
  /-- The holdings are valid. -/
  valid : session.holdings.Valid
  /-- The session is tidy. -/
  tidy : session.Tidy
  /-- The holder is open. -/
  held : session.estate.handle? sequence.holder = some upper
  /-- The holder is of the right sort. -/
  isMade : Holdings.IsMade session.made sequence.sort sequence.holder

namespace Readable

variable {sequence : DiagnosticSequence} {upper : Handle} {session : Session}

/-- Reading an item is a course of moves. -/
theorem item_runs (readable : sequence.Readable upper session) (index : Int) :
    Facade.Runs session.holdings (sequence.item index) fun _ _ => True := by
  have isMade := readable.isMade
  cases sequence with
  | view unit => exact DiagnosticView.item_runs readable.valid isMade index
  | set number => exact DiagnosticSet.item_runs readable.valid isMade index

/-- After one more read the sequence can still be read. -/
theorem deliver (readable : sequence.Readable upper session) {position : Nat}
    (below : position < (sequence.models session.library upper).length) :
    sequence.Readable upper (sequence.deliver upper session position) := by
  have inside := Sequence.position?_eq_some_iff.mpr ⟨below, .inl rfl⟩
  have reached := item_outcome_of_some readable.valid readable.held inside
  obtain ⟨tidy, course, _⟩ := readable.item_runs position session rfl readable.tidy
  rw [reached] at tidy course
  have valid := course.valid readable.valid
  have older : sequence.holder < session.estate.size := Estate.lt_size_of_handle? readable.held
  refine ⟨valid, tidy, ?_, readable.isMade.mono (course.faithful readable.valid).made⟩
  have held := readable.held
  unfold Estate.handle? at held ⊢
  rw [Delivered.get?_deliver sequence readable.valid older, if_neg (by omega), if_pos rfl]
  cases present : session.estate.get? sequence.holder with
  | none =>
      rw [present] at held
      cases held
  | some record =>
      rw [present] at held
      exact held

theorem listed (readable : sequence.Readable upper session) (sorted : sequence.sort = .unit) :
    upper ∈ session.library.resources.map Library.Resource.handle := by
  have valid := readable.valid
  have rooted := valid.founded.root_mem (valid.orderly.made_of_held readable.held)
  have isUnit := valid.sort_of_held readable.isMade readable.held
  rw [sorted] at isUnit
  obtain ⟨number, rfl⟩ := Handle.exists_eq_owned_unit isUnit
  rw [← Library.State.handles_ledger]
  exact rooted

end Readable

/-- Reading several positions in turn, after others were read, delivers them in order. -/
theorem mapM_item_outcome
    {sequence : DiagnosticSequence}
    {upper : Handle}
    {before session : Session}
    {read : List Nat}
    {handles : List Handle}
    (listed : sequence.sort = .unit →
      upper ∈ before.library.resources.map Library.Resource.handle)
    (held : before.estate.handle? sequence.holder = some upper)
    (delivered : sequence.Delivered upper before read handles session)
    (readable : sequence.Readable upper session)
    (positions : List Nat)
    (inside : ∀ position ∈ positions,
      position < (sequence.models before.library upper).length) :
    ∃ (more : List Handle) (later : Session),
      (positions.mapM fun (position : Nat) => sequence.item position).outcome session =
          (.ok (List.range' session.estate.size positions.length), later) ∧
        sequence.Delivered upper before (read ++ positions) (handles ++ more) later ∧
        sequence.Readable upper later := by
  induction positions generalizing session read handles with
  | nil => exact ⟨[], session, rfl, by simpa using delivered, readable⟩
  | cons position rest inductionHypothesis =>
      have below := inside position (by simp)
      have belowNow := below
      rw [← delivered.models_eq listed] at belowNow
      have next := delivered.deliver readable.valid held listed below
      obtain ⟨more, later, reached, further, still⟩ :=
        inductionHypothesis next (readable.deliver belowNow) fun other member =>
          inside other (by simp [member])
      refine ⟨sequence.handleAt session.library upper position :: more, later, ?_, ?_, still⟩
      · have first := item_outcome_of_some readable.valid readable.held
          (Sequence.position?_eq_some_iff.mpr ⟨belowNow, .inl rfl⟩)
        rw [List.mapM_cons, Facade.outcome_bind_of_ok first, Facade.outcome_bind_of_ok reached,
          Facade.outcome_pure, size_deliver]
        rfl
      · rw [List.append_assoc, List.append_assoc] at further
        exact further

end DiagnosticSequence
end Custody
