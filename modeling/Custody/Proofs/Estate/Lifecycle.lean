import Custody.Proofs.Estate.Worlds

/-!
# The life of an estate

A life is any finite run of steps over an estate: holders are made, change, adopt one
another and are closed, under any discipline.  Disposals may fail, dependants may be
shared or adopted several times, and a closed holder may still adopt.  A journal lists
what happened, in order.

Main statement: as long as adoption has no circle, every holder is disposed of at most
once and only if it owns its handle, all it ever adopted is closed by then, what is
closed stays closed, and the failure of a disposal leaves a closing at most once.
-/

namespace Custody
namespace Lifecycle

variable {η α σ : Type}

/-- A disposal: whose handle was given back, the estate at that moment, and the failure. -/
structure Disposal (η α : Type) where
  /-- The holder. -/
  holder : Nat
  /-- The estate when the handle was given back. -/
  estate : Estate η α
  /-- How the disposal failed, if it did. -/
  failure : Option Failure

/-- What a journal lists. -/
inductive Event (η α : Type)
  /-- One holder adopted another. -/
  | adopted (parent child : Nat)
  /-- A handle was given back. -/
  | disposed (disposal : Disposal η α)
  /-- A closing ended with a failure. -/
  | raised (failure : Failure)

/-- A discipline that also lists its disposals. -/
def journaled (discipline : Discipline η α σ) : Discipline η α (σ × List (Event η α)) where
  arrange := fun estate world holder items => discipline.arrange estate world.1 holder items
  arrange_perm := fun estate world holder items =>
    discipline.arrange_perm estate world.1 holder items
  dispose := fun estate holder handle world =>
    let result := discipline.dispose estate holder handle world.1
    ((result.1, world.2 ++ [.disposed ⟨holder, estate, result.2⟩]), result.2)

/-- One step in the life of an estate. -/
inductive Step (η α : Type)
  /-- Makes a holder; without a handle it is closed from the beginning. -/
  | make (handle : Option η) (owned : Bool) (content : α)
  /-- Changes what a holder is. -/
  | change (holder : Nat) (change : α → α)
  /-- Lets one holder adopt another. -/
  | adopt (parent child : Nat)
  /-- Closes a holder. -/
  | close (holder : Nat)
  /-- Uses a holder for the length of a block, the end of which closes it. -/
  | block (holder : Nat)
  /-- Checks that a holder is open. -/
  | ensureOpen (holder : Nat)

/-- An estate with its world and its journal. -/
structure Life (η α σ : Type) where
  /-- The estate. -/
  estate : Estate η α
  /-- The world. -/
  world : σ
  /-- What happened so far. -/
  journal : List (Event η α)

namespace Life

/-- A life before its first step. -/
def start (world : σ) : Life η α σ := ⟨.empty, world, []⟩

/-- Closes a holder and lists the failure that ended the closing. -/
def close (discipline : Discipline η α σ) (life : Life η α σ) (holder : Nat) : Life η α σ :=
  let outcome := (journaled discipline).close holder life.estate (life.world, life.journal)
  ⟨outcome.estate, outcome.world.1, outcome.world.2 ++ outcome.failure.toList.map .raised⟩

/-- Takes one step.  Only holders that exist can adopt and be adopted. -/
def step (discipline : Discipline η α σ) (life : Life η α σ) : Step η α → Life η α σ
  | .make handle owned content =>
      { life with estate := life.estate.add ⟨handle, owned, [], content⟩ }
  | .change holder change =>
      { life with
        estate := life.estate.modify holder fun record =>
          { record with content := change record.content } }
  | .adopt parent child =>
      if parent < life.estate.size ∧ child < life.estate.size then
        { life with
          estate := life.estate.adopt parent child
          journal := life.journal ++ [.adopted parent child] }
      else life
  | .close holder => life.close discipline holder
  | .block holder => life.close discipline holder
  | .ensureOpen _ => life

/-- Takes several steps in turn. -/
def run (discipline : Discipline η α σ) (life : Life η α σ) (steps : List (Step η α)) :
    Life η α σ :=
  steps.foldl (step discipline) life

end Life

/-- One holder adopted another at some time. -/
def Adopted (journal : List (Event η α)) (parent child : Nat) : Prop :=
  .adopted parent child ∈ journal

/-- No holder is adopted by what it adopted, or by what that adopted, and so on. -/
def Acyclic (journal : List (Event η α)) : Prop :=
  ∀ holder, ¬ Relation.TransGen (Adopted journal) holder holder

/-- The holders whose handles were given back, in order. -/
def disposedHolders (journal : List (Event η α)) : List Nat :=
  journal.filterMap fun event =>
    match event with
    | .disposed disposal => some disposal.holder
    | _ => none

/-- The holders whose failure to be disposed of ended a closing, in order. -/
def raisers : List (Event η α) → List Nat
  | .disposed disposal :: .raised _ :: rest => disposal.holder :: raisers rest
  | _ :: rest => raisers rest
  | [] => []

/-- What a holder has adopted is closed when the holder is disposed of later. -/
def Event.LeavesFirst (earlier later : Event η α) : Prop :=
  ∀ child disposal, earlier = .adopted disposal.holder child → later = .disposed disposal →
    disposal.estate.isOpen child = false

/-- The laws of a journal. -/
structure Lawful (journal : List (Event η α)) : Prop where
  /-- No holder is disposed of twice. -/
  disposed_once : (disposedHolders journal).Nodup
  /-- Only owned handles are given back. -/
  disposed_owned : ∀ disposal, .disposed disposal ∈ journal →
    ∃ record, disposal.estate.get? disposal.holder = some record ∧ record.owned = true
  /-- All that a holder adopted before is closed when it is disposed of. -/
  leaves_first : journal.Pairwise Event.LeavesFirst
  /-- A failure that leaves a closing is that of the disposal right before. -/
  raised_disposed : ∀ before failure after, journal = before ++ .raised failure :: after →
    ∃ earlier disposal, before = earlier ++ [.disposed disposal] ∧
      disposal.failure = some failure
  /-- The failure of one holder leaves a closing at most once. -/
  raised_once : (raisers journal).Nodup

theorem raisers_sublist (journal : List (Event η α)) :
    (raisers journal).Sublist (disposedHolders journal) := by
  fun_induction raisers journal with
  | case1 disposal failure rest inductionHypothesis =>
      exact inductionHypothesis.cons_cons disposal.holder
  | case2 event rest _ inductionHypothesis =>
      cases event with
      | adopted parent child => exact inductionHypothesis
      | disposed disposal => exact inductionHypothesis.cons disposal.holder
      | raised failure => exact inductionHypothesis
  | case3 => exact .slnil

theorem Acyclic.of_prefix {earlier later : List (Event η α)} (started : earlier <+: later)
    (acyclic : Acyclic later) : Acyclic earlier := by
  intro holder circle
  exact acyclic holder
    (Relation.TransGen.mono (fun _ _ adopted => started.subset adopted) holder holder circle)

/-- What holds of an estate and its journal between two steps. -/
structure Consistent (estate : Estate η α) (journal : List (Event η α)) : Prop where
  /-- Dependants were adopted. -/
  known : ∀ parent child, estate.Adopts parent child → Adopted journal parent child
  /-- Only holders that exist adopt and are adopted. -/
  bounded : ∀ parent child, Adopted journal parent child →
    parent < estate.size ∧ child < estate.size
  /-- An open holder still has all that it adopted among its dependants. -/
  kept : ∀ parent child, Adopted journal parent child → estate.isOpen parent = true →
    estate.Adopts parent child
  /-- What was disposed of exists and is closed. -/
  disposed_closed : ∀ holder ∈ disposedHolders journal,
    holder < estate.size ∧ estate.isOpen holder = false
  /-- The journal obeys its laws. -/
  lawful : Lawful journal

@[simp] theorem disposedHolders_append (first second : List (Event η α)) :
    disposedHolders (first ++ second) = disposedHolders first ++ disposedHolders second := by
  simp [disposedHolders]

@[simp] theorem disposedHolders_adopted (parent child : Nat) :
    disposedHolders [(.adopted parent child : Event η α)] = [] := rfl

@[simp] theorem disposedHolders_disposed (disposal : Disposal η α) :
    disposedHolders [.disposed disposal] = [disposal.holder] := rfl

@[simp] theorem disposedHolders_raised (failure : Failure) :
    disposedHolders [(.raised failure : Event η α)] = [] := rfl

/-- A journal stays lawful when one event is added that obeys the laws itself. -/
theorem Lawful.snoc
    {journal : List (Event η α)}
    {event : Event η α}
    (lawful : Lawful journal)
    (fresh : ∀ disposal, event = .disposed disposal →
      disposal.holder ∉ disposedHolders journal)
    (owned : ∀ disposal, event = .disposed disposal →
      ∃ record, disposal.estate.get? disposal.holder = some record ∧ record.owned = true)
    (leavesFirst : ∀ disposal child, event = .disposed disposal →
      Adopted journal disposal.holder child → disposal.estate.isOpen child = false)
    (accounted : ∀ failure, event = .raised failure →
      ∃ earlier disposal, journal = earlier ++ [.disposed disposal] ∧
        disposal.failure = some failure) :
    Lawful (journal ++ [event]) := by
  have once : (disposedHolders (journal ++ [event])).Nodup := by
    rw [disposedHolders_append, List.nodup_append]
    refine ⟨lawful.disposed_once, ?_, ?_⟩
    · cases event <;> simp [disposedHolders]
    · intro holder member other memberToo same
      cases event with
      | disposed disposal =>
          rw [disposedHolders_disposed, List.mem_singleton] at memberToo
          exact fresh disposal rfl (memberToo ▸ same ▸ member)
      | adopted parent child => simp at memberToo
      | raised failure => simp at memberToo
  refine ⟨once, ?_, ?_, ?_, once.sublist (raisers_sublist _)⟩
  · intro disposal member
    rcases List.mem_append.mp member with before | last
    · exact lawful.disposed_owned disposal before
    · exact owned disposal (List.mem_singleton.mp last).symm
  · rw [List.pairwise_append]
    refine ⟨lawful.leaves_first, List.pairwise_singleton _ _, ?_⟩
    intro earlier member later last child disposal isAdopted isDisposed
    rw [List.mem_singleton] at last
    subst isAdopted
    exact leavesFirst disposal child (last ▸ isDisposed) member
  · intro before failure after split
    rcases List.eq_nil_or_concat after with rfl | ⟨front, last, rfl⟩
    · obtain ⟨rfl, same⟩ := List.append_inj' split rfl
      exact accounted failure (List.singleton_inj.mp same)
    · rw [List.concat_eq_append, ← List.cons_append, ← List.append_assoc] at split
      exact lawful.raised_disposed before failure front (List.append_inj_left' split rfl)

namespace Consistent

variable {estate : Estate η α} {journal : List (Event η α)}

theorem adopted_append_of_not_adopted {event : Event η α}
    (other : ∀ parent child, event ≠ .adopted parent child) (parent child : Nat) :
    Adopted (journal ++ [event]) parent child ↔ Adopted journal parent child := by
  unfold Adopted
  rw [List.mem_append, List.mem_singleton]
  constructor
  · rintro (before | last)
    · exact before
    · exact absurd last.symm (other parent child)
  · exact Or.inl

/-- Clearing a holder takes dependants away only from a holder that is closed now. -/
theorem clear (consistent : Consistent estate journal) (holder : Nat) :
    Consistent (estate.clear holder) journal where
  known := fun parent child adopted =>
    consistent.known parent child (Estate.adopts_clear_iff.mp adopted).2
  bounded := by simpa using consistent.bounded
  kept := by
    intro parent child adopted opened
    rw [Estate.isOpen_clear, Bool.and_eq_true, Bool.not_eq_true', decide_eq_false_iff_not] at opened
    exact Estate.adopts_clear_iff.mpr ⟨opened.1, consistent.kept parent child adopted opened.2⟩
  disposed_closed := by
    intro number member
    obtain ⟨below, closed⟩ := consistent.disposed_closed number member
    rw [Estate.size_clear, Estate.isOpen_clear]
    exact ⟨below, by simp [closed]⟩
  lawful := consistent.lawful

/-- Listing something other than an adoption. -/
theorem snoc
    (consistent : Consistent estate journal)
    {event : Event η α}
    (other : ∀ parent child, event ≠ .adopted parent child)
    (disposed : ∀ holder ∈ disposedHolders [event],
      holder < estate.size ∧ estate.isOpen holder = false)
    (lawful : Lawful (journal ++ [event])) :
    Consistent estate (journal ++ [event]) where
  known := by
    intro parent child adopted
    rw [adopted_append_of_not_adopted other]
    exact consistent.known parent child adopted
  bounded := by
    intro parent child adopted
    rw [adopted_append_of_not_adopted other] at adopted
    exact consistent.bounded parent child adopted
  kept := by
    intro parent child adopted
    rw [adopted_append_of_not_adopted other] at adopted
    exact consistent.kept parent child adopted
  disposed_closed := by
    intro holder member
    rw [disposedHolders_append, List.mem_append] at member
    rcases member with before | last
    · exact consistent.disposed_closed holder before
    · exact disposed holder last
  lawful := lawful

/-- Releasing a leaf keeps an estate and its journal consistent, and a failure is that of the
disposal listed last. -/
theorem release
    {discipline : Discipline η α σ}
    {holder : Nat}
    {record : Holder η α}
    {handle : η}
    (consistent : Consistent estate journal)
    (world : σ)
    (present : estate.get? holder = some record)
    (opened : record.handle = some handle)
    (leaf : ∀ child ∈ record.dependants, estate.isOpen child = false) :
    let outcome := (journaled discipline).release holder handle record.owned estate (world, journal)
    Consistent (estate.clear holder) outcome.world.2 ∧ journal <+: outcome.world.2 ∧
      ∀ failure, outcome.failure = some failure →
        ∃ earlier disposal, outcome.world.2 = earlier ++ [.disposed disposal] ∧
          disposal.failure = some failure := by
  have isOpen : estate.isOpen holder = true :=
    Estate.isOpen_iff.mpr ⟨handle, (Estate.handle?_of_get? present).trans opened⟩
  cases owned : record.owned with
  | false => exact ⟨consistent.clear holder, List.prefix_rfl, by simp [Discipline.release]⟩
  | true =>
      let disposal : Disposal η α := ⟨holder, estate.clear holder,
        (discipline.dispose (estate.clear holder) holder handle world).2⟩
      have lawful : Lawful (journal ++ [.disposed disposal]) := by
        refine consistent.lawful.snoc ?_ ?_ ?_ ?_
        · rintro _ ⟨⟩ member
          rw [(consistent.disposed_closed holder member).2] at isOpen
          cases isOpen
        · rintro _ ⟨⟩
          refine ⟨record.cleared, ?_, owned⟩
          rw [Estate.get?_clear, if_pos rfl, present, Option.map_some]
        · rintro _ child ⟨⟩ adopted
          have dependant := consistent.kept holder child adopted isOpen
          rw [Estate.Adopts, Estate.dependants_of_get? present] at dependant
          rw [Estate.isOpen_clear, leaf child dependant, Bool.and_false]
        · intro failure impossible
          cases impossible
      refine ⟨?_, List.prefix_append journal [.disposed disposal], ?_⟩
      · refine (consistent.clear holder).snoc (by simp) ?_ lawful
        intro number member
        rw [disposedHolders_disposed, List.mem_singleton] at member
        subst member
        rw [Estate.size_clear, Estate.isOpen_clear]
        exact ⟨Estate.lt_size_of_get? present, by simp⟩
      · intro failure raised
        exact ⟨journal, disposal, rfl, raised⟩

/-- A teardown keeps an estate and its journal consistent. -/
theorem teardown
    {discipline : Discipline η α σ}
    {reach : Nat → Prop}
    {world : σ × List (Event η α)}
    {outcome : Outcome η α (σ × List (Event η α))}
    (tornDown : (journaled discipline).Teardown reach estate world outcome)
    (consistent : Consistent estate world.2) :
    Consistent outcome.estate outcome.world.2 ∧ world.2 <+: outcome.world.2 ∧
      ∀ failure, outcome.failure = some failure →
        ∃ earlier disposal, outcome.world.2 = earlier ++ [.disposed disposal] ∧
          disposal.failure = some failure := by
  induction tornDown with
  | finished estate world => exact ⟨consistent, List.prefix_rfl, by simp⟩
  | @released _ world _ _ _ _ _ present opened leaf _ _ inductionHypothesis =>
      obtain ⟨after, extended, _⟩ := consistent.release world.1 present opened leaf
      obtain ⟨final, extendedToo, accounted⟩ := inductionHypothesis after
      exact ⟨final, extended.trans extendedToo, accounted⟩
  | @failed _ world _ _ _ _ present opened leaf _ =>
      obtain ⟨after, extended, accounted⟩ := consistent.release world.1 present opened leaf
      rw [Discipline.release_estate]
      exact ⟨after, extended, accounted⟩

/-- A new holder has adopted nothing and was not disposed of. -/
theorem add (consistent : Consistent estate journal) (handle : Option η) (owned : Bool)
    (content : α) : Consistent (estate.add ⟨handle, owned, [], content⟩) journal where
  known := fun parent child adopted =>
    consistent.known parent child ((Estate.adopts_add_iff rfl).mp adopted)
  bounded := by
    intro parent child adopted
    obtain ⟨parentBelow, childBelow⟩ := consistent.bounded parent child adopted
    rw [Estate.size_add]
    omega
  kept := by
    intro parent child adopted opened
    have below := (consistent.bounded parent child adopted).1
    rw [Estate.isOpen_add, if_neg (by omega)] at opened
    exact (Estate.adopts_add_iff rfl).mpr (consistent.kept parent child adopted opened)
  disposed_closed := by
    intro holder member
    obtain ⟨below, closed⟩ := consistent.disposed_closed holder member
    rw [Estate.size_add, Estate.isOpen_add, if_neg (by omega)]
    exact ⟨by omega, closed⟩
  lawful := consistent.lawful

/-- What a holder is has no part in the journal. -/
theorem change (consistent : Consistent estate journal) (holder : Nat) (change : α → α) :
    Consistent (estate.modify holder fun record =>
      { record with content := change record.content }) journal := by
  let renewed (record : Holder η α) : Holder η α := { record with content := change record.content }
  have sameOpen (other : Nat) : (estate.modify holder renewed).isOpen other = estate.isOpen other :=
    congrArg Option.isSome
      (Estate.handle?_modify_of_keeps renewed (fun _ => rfl) estate holder other)
  have sameDependants (other : Nat) :
      (estate.modify holder renewed).dependants other = estate.dependants other :=
    Estate.dependants_modify_of_keeps renewed (fun _ => rfl) estate holder other
  refine ⟨?_, ?_, ?_, ?_, consistent.lawful⟩
  · intro parent child adopted
    rw [Estate.Adopts, sameDependants] at adopted
    exact consistent.known parent child adopted
  · simpa using consistent.bounded
  · intro parent child adopted opened
    rw [sameOpen] at opened
    rw [Estate.Adopts, sameDependants]
    exact consistent.kept parent child adopted opened
  · intro number member
    rw [Estate.size_modify, sameOpen]
    exact consistent.disposed_closed number member

/-- Adoption is listed when it happens. -/
theorem adopt (consistent : Consistent estate journal) {parent child : Nat}
    (parentBelow : parent < estate.size) (childBelow : child < estate.size) :
    Consistent (estate.adopt parent child) (journal ++ [.adopted parent child]) := by
  have listed (upper lower : Nat) :
      Adopted (journal ++ [.adopted parent child]) upper lower ↔
        Adopted journal upper lower ∨ (upper = parent ∧ lower = child) := by
    simp [Adopted]
  refine ⟨?_, ?_, ?_, ?_, ?_⟩
  · intro upper lower adopted
    rw [listed]
    rcases Estate.adopts_adopt_iff.mp adopted with before | ⟨same, sameToo, _⟩
    · exact .inl (consistent.known upper lower before)
    · exact .inr ⟨same, sameToo⟩
  · intro upper lower adopted
    rw [Estate.size_adopt]
    rcases (listed upper lower).mp adopted with before | ⟨rfl, rfl⟩
    · exact consistent.bounded upper lower before
    · exact ⟨parentBelow, childBelow⟩
  · intro upper lower adopted opened
    rw [Estate.isOpen_adopt] at opened
    refine Estate.adopts_adopt_iff.mpr ?_
    rcases (listed upper lower).mp adopted with before | ⟨same, sameToo⟩
    · exact .inl (consistent.kept upper lower before opened)
    · exact .inr ⟨same, sameToo, parentBelow⟩
  · simpa using consistent.disposed_closed
  · exact consistent.lawful.snoc (by simp) (by simp) (by simp) (by simp)

/-- Closing a holder keeps an estate and its journal consistent as long as there are no
circles, and opens nothing. -/
theorem close
    {life : Life η α σ}
    (discipline : Discipline η α σ)
    (consistent : Consistent life.estate life.journal)
    (acyclic : Acyclic life.journal)
    (holder : Nat) :
    Consistent (life.close discipline holder).estate (life.close discipline holder).journal ∧
      life.estate.Wanes (life.close discipline holder).estate := by
  have unlooped : life.estate.Acyclic := fun holder circle =>
    acyclic holder (Relation.TransGen.mono consistent.known holder holder circle)
  obtain ⟨rank, ranked, small⟩ := unlooped.exists_rank
  have tornDown := ((journaled discipline).closeWithin_teardown (life.world, life.journal) ranked
    (Nat.lt_succ_of_le (small holder))).1
  obtain ⟨after, _, accounted⟩ := consistent.teardown tornDown
  refine ⟨?_, tornDown.wanes⟩
  unfold Life.close Discipline.close
  dsimp only
  cases failure : ((journaled discipline).closeWithin (life.estate.size + 1) holder life.estate
      (life.world, life.journal)).failure with
  | none => simpa using after
  | some wording =>
      refine after.snoc (by simp) (by simp) ?_
      refine after.lawful.snoc (by simp) (by simp) (by simp) ?_
      rintro _ ⟨⟩
      exact accounted wording failure

end Consistent

/-- Keeping a journal has no influence on disposal. -/
theorem journaled_seen (discipline : Discipline η α σ) :
    Discipline.Seen Prod.fst (journaled discipline) discipline :=
  ⟨fun _ _ _ _ => rfl, fun _ _ _ _ => rfl⟩

/-- Keeping a journal has no influence on a closing. -/
theorem closeWithin_journaled
    (discipline : Discipline η α σ)
    (depth holder : Nat)
    (estate : Estate η α)
    (world : σ × List (Event η α)) :
    let plain := discipline.closeWithin depth holder estate world.1
    let listed := (journaled discipline).closeWithin depth holder estate world
    listed.estate = plain.estate ∧ listed.world.1 = plain.world ∧
      listed.failure = plain.failure ∧ world.2 <+: listed.world.2 := by
  have same := (journaled_seen discipline).closeWithin depth holder estate world
  have extended {later : σ × List (Event η α)}
      (disposals : Relation.ReflTransGen (journaled discipline).Disposes world later) :
      world.2 <+: later.2 := by
    induction disposals with
    | refl => exact List.prefix_rfl
    | tail _ disposed inductionHypothesis =>
        obtain ⟨estate, holder, handle, rfl⟩ := disposed
        exact inductionHypothesis.trans (List.prefix_append _ _)
  dsimp only
  rw [same]
  exact ⟨rfl, rfl, rfl, extended (Discipline.closeWithin_advances _ _ _ _).disposals⟩

/-- A life closes holders as its discipline does. -/
theorem Life.close_eq (discipline : Discipline η α σ) (life : Life η α σ) (holder : Nat) :
    (life.close discipline holder).estate =
        (discipline.close holder life.estate life.world).estate ∧
      (life.close discipline holder).world =
        (discipline.close holder life.estate life.world).world ∧
      life.journal <+: (life.close discipline holder).journal := by
  obtain ⟨sameEstate, sameWorld, _, extended⟩ := closeWithin_journaled discipline
    (life.estate.size + 1) holder life.estate (life.world, life.journal)
  exact ⟨sameEstate, sameWorld, extended.trans (List.prefix_append _ _)⟩

theorem Life.journal_prefix_step (discipline : Discipline η α σ) (life : Life η α σ)
    (step : Step η α) : life.journal <+: (life.step discipline step).journal := by
  cases step with
  | make handle owned content => exact List.prefix_rfl
  | change holder change => exact List.prefix_rfl
  | adopt parent child =>
      simp only [Life.step]
      split
      · exact List.prefix_append _ _
      · exact List.prefix_rfl
  | close holder => exact (life.close_eq discipline holder).2.2
  | block holder => exact (life.close_eq discipline holder).2.2
  | ensureOpen holder => exact List.prefix_rfl

theorem Life.journal_prefix_run (discipline : Discipline η α σ) (life : Life η α σ)
    (steps : List (Step η α)) : life.journal <+: (life.run discipline steps).journal := by
  induction steps generalizing life with
  | nil => exact List.prefix_rfl
  | cons step rest inductionHypothesis =>
      exact (life.journal_prefix_step discipline step).trans
        (inductionHypothesis (life.step discipline step))

/-- One step keeps a life consistent, and what is closed stays closed. -/
theorem Consistent.step
    {life : Life η α σ}
    (discipline : Discipline η α σ)
    (consistent : Consistent life.estate life.journal)
    (acyclic : Acyclic life.journal)
    (step : Step η α) :
    Consistent (life.step discipline step).estate (life.step discipline step).journal ∧
      ∀ holder, holder < life.estate.size → life.estate.isOpen holder = false →
        holder < (life.step discipline step).estate.size ∧
          (life.step discipline step).estate.isOpen holder = false := by
  have closing (target : Nat) :
      Consistent (life.close discipline target).estate (life.close discipline target).journal ∧
        ∀ holder, holder < life.estate.size → life.estate.isOpen holder = false →
          holder < (life.close discipline target).estate.size ∧
            (life.close discipline target).estate.isOpen holder = false := by
    obtain ⟨after, waned⟩ := consistent.close discipline acyclic target
    refine ⟨after, fun holder below closed => ?_⟩
    rw [waned.size_eq]
    exact ⟨below, waned.isOpen_eq_false closed⟩
  cases step with
  | make handle owned content =>
      refine ⟨consistent.add handle owned content, fun holder below closed => ?_⟩
      simp only [Life.step]
      rw [Estate.size_add, Estate.isOpen_add, if_neg (by omega)]
      exact ⟨by omega, closed⟩
  | change holder change =>
      refine ⟨consistent.change holder change, fun other below closed => ?_⟩
      simp only [Life.step, Estate.size_modify]
      refine ⟨below, ?_⟩
      rw [Estate.isOpen_eq_false_iff] at closed ⊢
      rw [← closed]
      exact Estate.handle?_modify_of_keeps
        (fun record => { record with content := change record.content }) (fun _ => rfl) _ _ _
  | adopt parent child =>
      simp only [Life.step]
      split
      · next exist =>
          refine ⟨consistent.adopt exist.1 exist.2, fun holder below closed => ?_⟩
          rw [Estate.size_adopt, Estate.isOpen_adopt]
          exact ⟨below, closed⟩
      · exact ⟨consistent, fun holder below closed => ⟨below, closed⟩⟩
  | close holder => exact closing holder
  | block holder => exact closing holder
  | ensureOpen holder => exact ⟨consistent, fun other below closed => ⟨below, closed⟩⟩

/-- A run keeps a life consistent, and what is closed stays closed. -/
theorem Consistent.run
    {life : Life η α σ}
    (discipline : Discipline η α σ)
    (steps : List (Step η α))
    (consistent : Consistent life.estate life.journal)
    (acyclic : Acyclic (life.run discipline steps).journal) :
    Consistent (life.run discipline steps).estate (life.run discipline steps).journal ∧
      ∀ holder, holder < life.estate.size → life.estate.isOpen holder = false →
        (life.run discipline steps).estate.isOpen holder = false := by
  induction steps generalizing life with
  | nil => exact ⟨consistent, fun holder _ closed => closed⟩
  | cons step rest inductionHypothesis =>
      have started := life.journal_prefix_run discipline (step :: rest)
      obtain ⟨after, closedAfter⟩ :=
        consistent.step discipline (acyclic.of_prefix started) step
      obtain ⟨final, closedFinally⟩ := inductionHypothesis after acyclic
      refine ⟨final, fun holder below closed => ?_⟩
      obtain ⟨belowAfter, stillClosed⟩ := closedAfter holder below closed
      exact closedFinally holder belowAfter stillClosed

theorem Consistent.start : Consistent (Estate.empty : Estate η α) [] where
  known := by simp [Estate.Adopts, Estate.dependants]
  bounded := by simp [Adopted]
  kept := by simp [Adopted]
  disposed_closed := by simp [disposedHolders]
  lawful := ⟨List.nodup_nil, by simp, List.Pairwise.nil, by simp, List.nodup_nil⟩

/-- In every life without circles of adoption, whatever disposals fail and in whatever order
dependants are presented, the journal obeys its laws and what is closed stays closed. -/
theorem run_lawful_of_acyclic
    (discipline : Discipline η α σ)
    (world : σ)
    (steps : List (Step η α))
    (acyclic : Acyclic ((Life.start world).run discipline steps).journal) :
    Lawful ((Life.start world).run discipline steps).journal ∧
      ∀ first second, steps = first ++ second → ∀ holder,
        holder < ((Life.start world).run discipline first).estate.size →
        ((Life.start world).run discipline first).estate.isOpen holder = false →
          ((Life.start world).run discipline steps).estate.isOpen holder = false := by
  refine ⟨(Consistent.start.run discipline steps acyclic).1.lawful, ?_⟩
  rintro first second rfl holder below closed
  have split : (Life.start world).run discipline (first ++ second) =
      ((Life.start world).run discipline first).run discipline second := List.foldl_append
  rw [split] at acyclic ⊢
  have earlier := acyclic.of_prefix (Life.journal_prefix_run discipline _ second)
  have halfway := (Consistent.start.run discipline first earlier).1
  exact (halfway.run discipline second acyclic).2 holder below closed

/-- Where every holder adopts only holders made after it, there are no circles. -/
theorem acyclic_of_lt {journal : List (Event η α)}
    (later : ∀ parent child, Adopted journal parent child → parent < child) : Acyclic journal :=
  fun holder circle => Nat.lt_irrefl holder (lt_of_transGen later circle)

/-- A discipline under which the disposal of every holder that is marked fails. -/
def failingIfMarked : Discipline Nat Bool Unit :=
  .inOrder fun estate holder _ world =>
    (world, if estate.content? holder = some true then some .indisposable else none)

/-- Two parents share a borrowed dependant, and one of them has another dependant, adopted
twice, whose disposal fails.  That parent is closed twice, and adopts once more after that. -/
def sharedFailing : List (Step Nat Bool) :=
  [.make (some 1) true false, .make (some 2) true false, .make (some 3) true true,
    .make (some 4) false false, .adopt 0 2, .adopt 0 3, .adopt 0 2, .adopt 1 3, .close 0, .block 0,
    .adopt 0 1, .close 0, .close 1]

theorem sharedFailing_lawful :
    Acyclic ((Life.start ()).run failingIfMarked sharedFailing).journal ∧
      disposedHolders ((Life.start ()).run failingIfMarked sharedFailing).journal = [2, 0, 1] ∧
      raisers ((Life.start ()).run failingIfMarked sharedFailing).journal = [2] ∧
      Lawful ((Life.start ()).run failingIfMarked sharedFailing).journal := by
  have acyclic : Acyclic ((Life.start ()).run failingIfMarked sharedFailing).journal := by
    refine acyclic_of_lt fun parent child adopted => ?_
    let pair? (event : Event Nat Bool) : Option (Nat × Nat) :=
      match event with
      | .adopted parent child => some (parent, child)
      | _ => none
    have pairs : ((Life.start ()).run failingIfMarked sharedFailing).journal.filterMap pair? =
        [(0, 2), (0, 3), (0, 2), (1, 3), (0, 1)] := rfl
    have member : (parent, child) ∈ [(0, 2), (0, 3), (0, 2), (1, 3), (0, 1)] := by
      rw [← pairs, List.mem_filterMap]
      exact ⟨.adopted parent child, adopted, rfl⟩
    have increasing : ∀ pair ∈ [(0, 2), (0, 3), (0, 2), (1, 3), (0, 1)], pair.1 < pair.2 := by
      decide
    exact increasing (parent, child) member
  exact ⟨acyclic, rfl, rfl, (run_lawful_of_acyclic failingIfMarked () sharedFailing acyclic).1⟩

end Lifecycle
end Custody
