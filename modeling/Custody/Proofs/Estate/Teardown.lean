import Custody.Estate.Close
import Custody.Proofs.Estate.Lookup
import Mathlib.Data.Finset.Card
import Mathlib.Logic.Relation

/-!
# Teardown

Closing a holder releases one leaf after the other: a holder is released only when
all its dependants are closed, and the first failure ends the teardown.  The main
statement says that closing is such a teardown of what the holder reaches, provided
that adoption goes down in some rank.  Whatever a release of a leaf preserves is
then preserved by closing.
-/

namespace Custody

/-- Where every step of a relation goes up, a chain of steps goes up. -/
theorem lt_of_transGen {relation : Nat → Nat → Prop}
    (increases : ∀ lower upper, relation lower upper → lower < upper) {first last : Nat}
    (chain : Relation.TransGen relation first last) : first < last := by
  have : IsTrans Nat (· < ·) := ⟨fun _ _ _ => Nat.lt_trans⟩
  exact Relation.transGen_minimal increases _ _ chain

namespace Estate

variable {η α : Type}

/-- An estate wanes to another one when some holders are cleared and nothing else changes. -/
def Wanes (before after : Estate η α) : Prop :=
  ∀ holder, after.get? holder = before.get? holder ∨
    after.get? holder = (before.get? holder).map Holder.cleared

namespace Wanes

theorem refl (estate : Estate η α) : estate.Wanes estate := fun _ => .inl rfl

/-- To clear a holder makes an estate wane. -/
theorem clear (estate : Estate η α) (holder : Nat) : estate.Wanes (estate.clear holder) := by
  intro other
  rw [get?_clear]
  split
  · exact .inr rfl
  · exact .inl rfl

/-- What wanes twice wanes. -/
theorem trans {first second third : Estate η α}
    (left : first.Wanes second) (right : second.Wanes third) : first.Wanes third := by
  intro holder
  rcases left holder with kept | cleared <;> rcases right holder with keptToo | clearedToo
  · exact .inl (keptToo.trans kept)
  · exact .inr (by rw [clearedToo, kept])
  · exact .inr (keptToo.trans cleared)
  · refine .inr ?_
    rw [clearedToo, cleared]
    cases first.get? holder <;> rfl

variable {before after : Estate η α}

/-- No holder is lost. -/
theorem size_eq (wanes : before.Wanes after) : after.size = before.size := by
  have same (holder : Nat) : after.get? holder = none ↔ before.get? holder = none := by
    rcases wanes holder with kept | cleared
    · rw [kept]
    · rw [cleared, Option.map_eq_none_iff]
  have bounds (holder : Nat) : after.size ≤ holder ↔ before.size ≤ holder := by
    rw [← get?_eq_none_iff, ← get?_eq_none_iff, same]
  have down := (bounds before.size).mpr (Nat.le_refl _)
  have up := (bounds after.size).mp (Nat.le_refl _)
  omega

/-- What a holder is made of survives when holders are cleared. -/
theorem content?_eq (wanes : before.Wanes after) (holder : Nat) :
    after.content? holder = before.content? holder := by
  unfold content?
  rcases wanes holder with kept | cleared
  · rw [kept]
  · rw [cleared, Option.map_map]
    rfl

/-- A handle that is still there was there before. -/
theorem handle?_of_some (wanes : before.Wanes after) {holder : Nat} {handle : η}
    (opened : after.handle? holder = some handle) : before.handle? holder = some handle := by
  rcases wanes holder with kept | cleared
  · rwa [handle?, kept] at opened
  · rw [handle?, cleared] at opened
    cases present : before.get? holder <;> simp [present] at opened

/-- What was closed stays closed. -/
theorem isOpen_eq_false (wanes : before.Wanes after) {holder : Nat}
    (closed : before.isOpen holder = false) : after.isOpen holder = false := by
  cases opened : after.isOpen holder with
  | false => rfl
  | true =>
      obtain ⟨handle, held⟩ := isOpen_iff.mp opened
      rw [isOpen_eq_false_iff, wanes.handle?_of_some held] at closed
      cases closed

/-- An adoption that is still there was there before. -/
theorem adopts (wanes : before.Wanes after) {parent child : Nat}
    (adopted : after.Adopts parent child) : before.Adopts parent child := by
  unfold Adopts dependants at adopted ⊢
  rcases wanes parent with kept | cleared
  · rwa [kept] at adopted
  · rw [cleared] at adopted
    cases present : before.get? parent <;> simp [present] at adopted

end Wanes

/-- A holder reaches itself, its dependants, their dependants, and so on. -/
def Reaches (estate : Estate η α) : Nat → Nat → Prop := Relation.ReflTransGen estate.Adopts

/-- An open holder has another one among its dependants. -/
def Exposes (estate : Estate η α) (parent child : Nat) : Prop :=
  estate.isOpen parent = true ∧ estate.Adopts parent child

/-- A holder exposes itself, its dependants while it is open, their dependants while they are
open, and so on. -/
def ReachesOpen (estate : Estate η α) : Nat → Nat → Prop := Relation.ReflTransGen estate.Exposes

/-- What is reached through open holders is reached. -/
theorem ReachesOpen.reaches {estate : Estate η α} {upper lower : Nat}
    (reached : estate.ReachesOpen upper lower) : estate.Reaches upper lower :=
  Relation.ReflTransGen.mono (fun _ _ exposed => exposed.2) upper lower reached

/-- What a holder exposes lies within every list that has the holder and is closed under
exposing. -/
theorem ReachesOpen.mem_of_closed
    {estate : Estate η α}
    {within : List Nat}
    (closed : ∀ parent ∈ within, estate.isOpen parent = true →
      ∀ child ∈ estate.dependants parent, child ∈ within)
    {upper lower : Nat}
    (member : upper ∈ within)
    (reached : estate.ReachesOpen upper lower) : lower ∈ within := by
  induction reached with
  | refl => exact member
  | tail _ exposed inductionHypothesis =>
      exact closed _ inductionHypothesis exposed.1 _ exposed.2

/-- What is still open was open before. -/
theorem Wanes.isOpen {before after : Estate η α} (wanes : before.Wanes after) {holder : Nat}
    (opened : after.isOpen holder = true) : before.isOpen holder = true := by
  cases closed : before.isOpen holder with
  | true => rfl
  | false =>
      rw [wanes.isOpen_eq_false closed] at opened
      exact opened

/-- What is still exposed was exposed before. -/
theorem Wanes.exposes {before after : Estate η α} (wanes : before.Wanes after)
    {parent child : Nat} (exposed : after.Exposes parent child) : before.Exposes parent child :=
  ⟨wanes.isOpen exposed.1, wanes.adopts exposed.2⟩

/-- What is still reached through open holders was so before. -/
theorem Wanes.reachesOpen {before after : Estate η α} (wanes : before.Wanes after)
    {upper lower : Nat} (reached : after.ReachesOpen upper lower) :
    before.ReachesOpen upper lower :=
  Relation.ReflTransGen.mono (fun _ _ exposed => wanes.exposes exposed) upper lower reached

/-- Adoption goes down in a rank. -/
def Ranked (estate : Estate η α) (rank : Nat → Nat) : Prop :=
  ∀ parent child, estate.Adopts parent child → rank child < rank parent

/-- A ranking of an estate ranks what is left of it. -/
theorem Wanes.ranked {before after : Estate η α} (wanes : before.Wanes after) {rank : Nat → Nat}
    (ranked : before.Ranked rank) : after.Ranked rank :=
  fun parent child adopted => ranked parent child (wanes.adopts adopted)

/-- No holder is among the dependants of its dependants, or of theirs, and so on. -/
def Acyclic (estate : Estate η α) : Prop :=
  ∀ holder, ¬ Relation.TransGen estate.Adopts holder holder

/-- Where every holder adopts only holders made after it, there are no circles. -/
theorem Acyclic.of_lt {estate : Estate η α}
    (later : ∀ parent child, estate.Adopts parent child → parent < child) : estate.Acyclic :=
  fun holder circle => Nat.lt_irrefl holder (lt_of_transGen later circle)

/-- What is left of an acyclic estate is acyclic. -/
theorem Wanes.acyclic {before after : Estate η α} (wanes : before.Wanes after)
    (acyclic : before.Acyclic) : after.Acyclic := by
  intro holder circle
  exact acyclic holder
    (Relation.TransGen.mono (fun _ _ adopted => wanes.adopts adopted) holder holder circle)

/-- Without circles there is a rank in which adoption goes down, bounded by the size of the
estate: the number of holders that a holder reaches. -/
theorem Acyclic.exists_rank {estate : Estate η α} (acyclic : estate.Acyclic) :
    ∃ rank, estate.Ranked rank ∧ ∀ holder, rank holder ≤ estate.size := by
  classical
  let below (holder : Nat) : Finset Nat := (Finset.range estate.size).filter (estate.Reaches holder)
  refine ⟨fun holder => (below holder).card, ?_, ?_⟩
  · intro parent child adopted
    apply Finset.card_lt_card
    rw [Finset.ssubset_iff_of_subset]
    · refine ⟨parent, ?_, ?_⟩
      · simp only [below, Finset.mem_filter, Finset.mem_range]
        exact ⟨lt_size_of_adopts adopted, .refl⟩
      · simp only [below, Finset.mem_filter, not_and]
        exact fun _ reached => acyclic parent (.head' adopted reached)
    · intro other member
      simp only [below, Finset.mem_filter] at member ⊢
      exact ⟨member.1, .head adopted member.2⟩
  · intro holder
    calc (below holder).card ≤ (Finset.range estate.size).card := Finset.card_filter_le _ _
      _ = estate.size := Finset.card_range _

/-- Ranks do not grow on the way down. -/
theorem Ranked.rank_le {estate : Estate η α} {rank : Nat → Nat} (ranked : estate.Ranked rank)
    {upper lower : Nat} (reached : estate.Reaches upper lower) : rank lower ≤ rank upper := by
  induction reached with
  | refl => exact Nat.le_refl _
  | tail _ adopted inductionHypothesis =>
      have below := ranked _ _ adopted
      omega

end Estate

namespace Discipline

variable {η α σ : Type} (discipline : Discipline η α σ)

@[simp] theorem release_estate
    (holder : Nat)
    (handle : η)
    (owned : Bool)
    (estate : Estate η α)
    (world : σ) :
    (discipline.release holder handle owned estate world).estate = estate.clear holder := by
  cases owned <;> rfl

/-- To close what is closed does nothing, at any depth. -/
theorem closeWithin_of_closed
    {estate : Estate η α}
    {holder : Nat}
    (depth : Nat)
    (world : σ)
    (closed : estate.isOpen holder = false) :
    discipline.closeWithin depth holder estate world = ⟨estate, world, none⟩ := by
  unfold closeWithin
  cases present : estate.get? holder with
  | none => rfl
  | some record =>
      have absent : record.handle = none := by
        rw [← Estate.handle?_of_get? present]
        exact Estate.isOpen_eq_false_iff.mp closed
      simp only [absent]

/-- An open holder closes its dependants first and then releases its handle. -/
theorem closeWithin_succ_of_open
    {estate : Estate η α}
    {holder : Nat}
    {record : Holder η α}
    {handle : η}
    (depth : Nat)
    (world : σ)
    (present : estate.get? holder = some record)
    (opened : record.handle = some handle) :
    discipline.closeWithin (depth + 1) holder estate world =
      (let order := discipline.arrange estate world holder record.dependants
       let outcome := closeEach (discipline.closeWithin depth) order estate world
       match outcome.failure with
       | some _ => outcome
       | none => discipline.release holder handle record.owned outcome.estate outcome.world) := by
  cases failure : (closeEach (discipline.closeWithin depth)
      (discipline.arrange estate world holder record.dependants) estate world).failure with
  | none => simp [closeWithin, present, opened, failure]
  | some wording => simp [closeWithin, present, opened, failure]

/-- To close several that are closed does nothing. -/
theorem closeEach_of_closed
    {estate : Estate η α}
    {order : List Nat}
    (depth : Nat)
    (world : σ)
    (closed : ∀ holder ∈ order, estate.isOpen holder = false) :
    closeEach (discipline.closeWithin depth) order estate world = ⟨estate, world, none⟩ := by
  induction order with
  | nil => rfl
  | cons holder rest inductionHypothesis =>
      rw [closeEach, closeWithin_of_closed discipline depth world (closed holder (by simp))]
      exact inductionHypothesis fun other member => closed other (by simp [member])

/-- Closing a leaf releases it and nothing else. -/
theorem close_of_leaf
    {estate : Estate η α}
    {holder : Nat}
    {record : Holder η α}
    {handle : η}
    (world : σ)
    (present : estate.get? holder = some record)
    (opened : record.handle = some handle)
    (leaf : ∀ child ∈ record.dependants, estate.isOpen child = false) :
    discipline.close holder estate world =
      discipline.release holder handle record.owned estate world := by
  have closed : ∀ child ∈ discipline.arrange estate world holder record.dependants,
      estate.isOpen child = false := fun child member =>
    leaf child ((discipline.arrange_perm estate world holder record.dependants).mem_iff.mp member)
  rw [close, closeWithin_succ_of_open discipline estate.size world present opened]
  dsimp only
  rw [closeEach_of_closed discipline estate.size world closed]

/-- Leaves among the holders of a reach are released one after the other. -/
inductive Teardown (reach : Nat → Prop) : Estate η α → σ → Outcome η α σ → Prop
  | finished (estate : Estate η α) (world : σ) : Teardown reach estate world ⟨estate, world, none⟩
  | released
      {estate : Estate η α}
      {world : σ}
      {holder : Nat}
      {record : Holder η α}
      {handle : η}
      {outcome : Outcome η α σ}
      (reached : reach holder)
      (present : estate.get? holder = some record)
      (opened : record.handle = some handle)
      (leaf : ∀ child ∈ record.dependants, estate.isOpen child = false)
      (peaceful : (discipline.release holder handle record.owned estate world).failure = none)
      (rest : Teardown reach (estate.clear holder)
        (discipline.release holder handle record.owned estate world).world outcome) :
      Teardown reach estate world outcome
  | failed
      {estate : Estate η α}
      {world : σ}
      {holder : Nat}
      {record : Holder η α}
      {handle : η}
      (reached : reach holder)
      (present : estate.get? holder = some record)
      (opened : record.handle = some handle)
      (leaf : ∀ child ∈ record.dependants, estate.isOpen child = false)
      (failing : (discipline.release holder handle record.owned estate world).failure ≠ none) :
      Teardown reach estate world (discipline.release holder handle record.owned estate world)

namespace Teardown

variable {discipline} {reach : Nat → Prop} {estate : Estate η α} {world : σ}
  {outcome : Outcome η α σ}

/-- A teardown may be said to stay within more. -/
theorem mono {wider : Nat → Prop} (wide : ∀ holder, reach holder → wider holder)
    (teardown : discipline.Teardown reach estate world outcome) :
    discipline.Teardown wider estate world outcome := by
  induction teardown with
  | finished estate world => exact .finished estate world
  | released reached present opened leaf peaceful _ inductionHypothesis =>
      exact .released (wide _ reached) present opened leaf peaceful inductionHypothesis
  | failed reached present opened leaf failing =>
      exact .failed (wide _ reached) present opened leaf failing

/-- A teardown that has met no failure may be followed by another. -/
theorem append {later : Outcome η α σ}
    (teardown : discipline.Teardown reach estate world outcome)
    (peaceful : outcome.failure = none)
    (next : discipline.Teardown reach outcome.estate outcome.world later) :
    discipline.Teardown reach estate world later := by
  induction teardown with
  | finished estate world => exact next
  | released reached present opened leaf calm _ inductionHypothesis =>
      exact .released reached present opened leaf calm (inductionHypothesis peaceful next)
  | failed _ _ _ _ failing => exact absurd peaceful failing

/-- An estate wanes in a teardown. -/
theorem wanes (teardown : discipline.Teardown reach estate world outcome) :
    estate.Wanes outcome.estate := by
  induction teardown with
  | finished estate world => exact .refl estate
  | released _ _ _ _ _ _ inductionHypothesis =>
      exact (Estate.Wanes.clear _ _).trans inductionHypothesis
  | failed =>
      rw [release_estate]
      exact .clear _ _

/-- What is out of reach stays as it is. -/
theorem get?_eq_of_not_reach (teardown : discipline.Teardown reach estate world outcome)
    {holder : Nat} (apart : ¬ reach holder) :
    outcome.estate.get? holder = estate.get? holder := by
  induction teardown with
  | finished => rfl
  | released reached _ _ _ _ _ inductionHypothesis =>
      rw [inductionHypothesis, Estate.get?_clear, if_neg]
      rintro rfl
      exact apart reached
  | failed reached =>
      rw [release_estate, Estate.get?_clear, if_neg]
      rintro rfl
      exact apart reached

end Teardown

/-- Releasing one leaf is a teardown. -/
theorem release_teardown
    {reach : Nat → Prop}
    {estate : Estate η α}
    {holder : Nat}
    {record : Holder η α}
    {handle : η}
    (world : σ)
    (reached : reach holder)
    (present : estate.get? holder = some record)
    (opened : record.handle = some handle)
    (leaf : ∀ child ∈ record.dependants, estate.isOpen child = false) :
    discipline.Teardown reach estate world
      (discipline.release holder handle record.owned estate world) := by
  by_cases peaceful :
      (discipline.release holder handle record.owned estate world).failure = none
  · have last := Teardown.released reached present opened leaf peaceful (.finished _ _)
    rw [← release_estate discipline holder handle record.owned estate world, ← peaceful] at last
    exact last
  · exact .failed reached present opened leaf peaceful

/-- Closing several holders in turn is a teardown if closing each of them is one, in every
estate that the earlier ones may have left. -/
theorem closeEach_teardown
    {reach : Nat → Prop}
    {close : Nat → Estate η α → σ → Outcome η α σ}
    {order : List Nat}
    (start : Estate η α)
    (closes : ∀ holder ∈ order, ∀ estate world, start.Wanes estate →
      discipline.Teardown reach estate world (close holder estate world) ∧
        ((close holder estate world).failure = none →
          (close holder estate world).estate.isOpen holder = false))
    {estate : Estate η α}
    (world : σ)
    (waned : start.Wanes estate) :
    discipline.Teardown reach estate world (closeEach close order estate world) ∧
      ((closeEach close order estate world).failure = none →
        ∀ holder ∈ order, (closeEach close order estate world).estate.isOpen holder = false) := by
  induction order generalizing estate world with
  | nil => exact ⟨.finished estate world, fun _ _ absent => absurd absent (by simp)⟩
  | cons holder rest inductionHypothesis =>
      obtain ⟨first, firstClosed⟩ := closes holder (by simp) estate world waned
      unfold closeEach
      cases failure : (close holder estate world).failure with
      | some wording =>
          simp only [failure]
          exact ⟨first, fun peaceful => absurd peaceful (by simp)⟩
      | none =>
          simp only [failure]
          obtain ⟨others, othersClosed⟩ := inductionHypothesis
            (fun other member => closes other (by simp [member]))
            (close holder estate world).world (waned.trans first.wanes)
          refine ⟨first.append failure others, ?_⟩
          intro peaceful other member
          rcases List.mem_cons.mp member with rfl | later
          · exact others.wanes.isOpen_eq_false (firstClosed failure)
          · exact othersClosed peaceful other later

/-- Closing the dependants of a holder tears down what they expose and leaves the holder as it is,
provided that closing each of them is a teardown of what it exposes. -/
theorem closeEach_dependants_teardown
    {rank : Nat → Nat}
    {depth holder : Nat}
    {record : Holder η α}
    {estate : Estate η α}
    (world : σ)
    (ranked : estate.Ranked rank)
    (present : estate.get? holder = some record)
    (each : ∀ child later after, estate.Adopts holder child → estate.Wanes later →
      discipline.Teardown (later.ReachesOpen child) later after
          (discipline.closeWithin depth child later after) ∧
        ((discipline.closeWithin depth child later after).failure = none →
          (discipline.closeWithin depth child later after).estate.isOpen child = false)) :
    let outcome := closeEach (discipline.closeWithin depth)
      (discipline.arrange estate world holder record.dependants) estate world
    discipline.Teardown
        (fun other => ∃ child, estate.Adopts holder child ∧ estate.ReachesOpen child other)
        estate world outcome ∧
      (outcome.failure = none → ∀ child ∈ record.dependants,
        outcome.estate.isOpen child = false) ∧
      outcome.estate.get? holder = some record := by
  have members (child : Nat) :
      child ∈ discipline.arrange estate world holder record.dependants ↔
        estate.Adopts holder child := by
    rw [(discipline.arrange_perm estate world holder record.dependants).mem_iff, Estate.Adopts,
      Estate.dependants_of_get? present]
  -- Closing a dependant reaches less than closing all of them, whatever waned before.
  have closes : ∀ child ∈ discipline.arrange estate world holder record.dependants,
      ∀ later after, estate.Wanes later →
        discipline.Teardown
            (fun other => ∃ child, estate.Adopts holder child ∧ estate.ReachesOpen child other)
            later after (discipline.closeWithin depth child later after) ∧
          ((discipline.closeWithin depth child later after).failure = none →
            (discipline.closeWithin depth child later after).estate.isOpen child = false) := by
    intro child member later after waned
    have adopted := (members child).mp member
    obtain ⟨teardown, closed⟩ := each child later after adopted waned
    exact ⟨teardown.mono fun other reached => ⟨child, adopted, waned.reachesOpen reached⟩, closed⟩
  obtain ⟨teardown, closed⟩ := discipline.closeEach_teardown estate closes world (.refl estate)
  refine ⟨teardown, fun peaceful child member => closed peaceful child ((members child).mpr ?_), ?_⟩
  · rw [Estate.Adopts, Estate.dependants_of_get? present]
    exact member
  · -- The holder does not reach itself from below, so it is still as it was.
    refine (teardown.get?_eq_of_not_reach ?_).trans present
    rintro ⟨child, adopted, reached⟩
    have lower := ranked holder child adopted
    have notHigher := ranked.rank_le reached.reaches
    omega

/-- Closing tears down what a holder exposes, and closes the holder unless it fails. -/
theorem closeWithin_teardown_open
    {rank : Nat → Nat}
    {estate : Estate η α}
    (depth holder : Nat)
    (world : σ)
    (ranked : estate.Ranked rank)
    (deep : rank holder < depth) :
    discipline.Teardown (estate.ReachesOpen holder) estate world
        (discipline.closeWithin depth holder estate world) ∧
      ((discipline.closeWithin depth holder estate world).failure = none →
        (discipline.closeWithin depth holder estate world).estate.isOpen holder = false) := by
  induction depth generalizing holder estate world with
  | zero => omega
  | succ depth inductionHypothesis =>
      cases opened : estate.isOpen holder with
      | false =>
          rw [closeWithin_of_closed discipline (depth + 1) world opened]
          exact ⟨.finished estate world, fun _ => opened⟩
      | true =>
          obtain ⟨handle, held⟩ := Estate.isOpen_iff.mp opened
          obtain ⟨record, present, heldHere⟩ := Estate.handle?_eq_some_iff.mp held
          have each (child : Nat) (later : Estate η α) (after : σ)
              (adopted : estate.Adopts holder child) (waned : estate.Wanes later) :=
            inductionHypothesis child after (waned.ranked ranked)
              (Nat.lt_of_lt_of_le (ranked holder child adopted) (Nat.le_of_lt_succ deep))
          obtain ⟨below, closed, kept⟩ :=
            discipline.closeEach_dependants_teardown world ranked present each
          have wide : ∀ other,
              (∃ child, estate.Adopts holder child ∧ estate.ReachesOpen child other) →
                estate.ReachesOpen holder other :=
            fun other ⟨child, adopted, reached⟩ => .head ⟨opened, adopted⟩ reached
          rw [closeWithin_succ_of_open discipline depth world present heldHere]
          dsimp only
          cases failure : (closeEach (discipline.closeWithin depth)
              (discipline.arrange estate world holder record.dependants) estate world).failure with
          | some wording =>
              exact ⟨below.mono wide, fun peaceful => absurd peaceful (by simp [failure])⟩
          | none =>
              refine ⟨(below.mono wide).append failure ?_, fun _ => ?_⟩
              · exact discipline.release_teardown _ .refl kept heldHere (closed failure)
              · rw [release_estate, Estate.isOpen_clear]
                simp

/-- Closing tears down what a holder reaches, and closes the holder unless it fails. -/
theorem closeWithin_teardown
    {rank : Nat → Nat}
    {depth holder : Nat}
    {estate : Estate η α}
    (world : σ)
    (ranked : estate.Ranked rank)
    (deep : rank holder < depth) :
    discipline.Teardown (estate.Reaches holder) estate world
        (discipline.closeWithin depth holder estate world) ∧
      ((discipline.closeWithin depth holder estate world).failure = none →
        (discipline.closeWithin depth holder estate world).estate.isOpen holder = false) :=
  (discipline.closeWithin_teardown_open depth holder world ranked deep).imp_left
    (Teardown.mono fun _ => Estate.ReachesOpen.reaches)

/-- Where adoption has no circle, closing a holder tears down what it exposes, and closes it unless
it fails. -/
theorem close_teardown
    {estate : Estate η α}
    (holder : Nat)
    (world : σ)
    (acyclic : estate.Acyclic) :
    discipline.Teardown (estate.ReachesOpen holder) estate world
        (discipline.close holder estate world) ∧
      ((discipline.close holder estate world).failure = none →
        (discipline.close holder estate world).estate.isOpen holder = false) := by
  obtain ⟨rank, ranked, small⟩ := acyclic.exists_rank
  exact discipline.closeWithin_teardown_open _ holder world ranked
    (Nat.lt_succ_of_le (small holder))

end Discipline
end Custody
