import Custody.Failure
import Mathlib.Data.List.Forall2

/-!
# Changes that may fail

A change of all items of a list succeeds with the changes of the items, or it fails as the first
item does that cannot be changed.  The failures of a computation are those of its parts.
-/

namespace Custody

/-- An item cannot be changed, and all items before it can. -/
inductive FailsFirst {α β : Type} (change : α → Except Failure β) (failure : Failure) :
    List α → Prop
  /-- The first item cannot be changed. -/
  | here {item : α} {items : List α} (fails : change item = .error failure) :
      FailsFirst change failure (item :: items)
  /-- The first item can be changed, but not a later one. -/
  | later {item : α} {items : List α} {value : β} (passes : change item = .ok value)
      (rest : FailsFirst change failure items) : FailsFirst change failure (item :: items)

section Changes

variable {α β : Type} {change : α → Except Failure β} {items : List α}

theorem map_eq_ok_iff {γ : Type} {result : Except Failure β} {finish : β → γ} {value : γ} :
    result.map finish = .ok value ↔ ∃ found, result = .ok found ∧ value = finish found := by
  cases result with
  | error failure => simp [Except.map]
  | ok found => simp [Except.map, eq_comm]

theorem map_eq_error_iff {γ : Type} {result : Except Failure β} {finish : β → γ}
    {failure : Failure} : result.map finish = .error failure ↔ result = .error failure := by
  cases result with
  | error other => simp [Except.map]
  | ok found => simp [Except.map]

/-- A change of all items succeeds exactly with the values of the items. -/
theorem mapM_eq_ok_iff {values : List β} :
    items.mapM change = .ok values ↔
      List.Forall₂ (fun item value => change item = .ok value) items values := by
  induction items generalizing values with
  | nil =>
      rw [List.mapM_nil]
      constructor
      · rintro ⟨⟩
        exact .nil
      · rintro ⟨⟩
        rfl
  | cons item items inductionHypothesis =>
      rw [List.mapM_cons]
      constructor
      · intro changed
        cases first : change item with
        | error failure =>
            rw [first] at changed
            cases changed
        | ok value =>
            cases rest : items.mapM change with
            | error failure =>
                rw [first, rest] at changed
                cases changed
            | ok others =>
                rw [first, rest] at changed
                cases changed
                exact .cons first (inductionHypothesis.mp rest)
      · rintro (_ | ⟨first, rest⟩)
        rw [first, inductionHypothesis.mpr rest]
        rfl

/-- A change of all items fails exactly as the first of them does that fails. -/
theorem mapM_eq_error_iff {failure : Failure} :
    items.mapM change = .error failure ↔ FailsFirst change failure items := by
  constructor
  · intro refused
    induction items with
    | nil => cases refused
    | cons item items inductionHypothesis =>
        rw [List.mapM_cons] at refused
        cases first : change item with
        | error other =>
            rw [first] at refused
            cases refused
            exact .here first
        | ok value =>
            cases rest : items.mapM change with
            | error other =>
                rw [first, rest] at refused
                cases refused
                exact .later first (inductionHypothesis rest)
            | ok others =>
                rw [first, rest] at refused
                cases refused
  · intro first
    induction first with
    | here fails =>
        rw [List.mapM_cons, fails]
        rfl
    | later passes _ inductionHypothesis =>
        rw [List.mapM_cons, passes, inductionHypothesis]
        rfl

/-- All items can be changed, or there is a first that cannot. -/
theorem changes_or_failsFirst (change : α → Except Failure β) (items : List α) :
    (∀ item ∈ items, ∃ value, change item = .ok value) ∨
    ∃ failure, FailsFirst change failure items := by
  induction items with
  | nil => exact .inl (List.forall_mem_nil _)
  | cons item items inductionHypothesis =>
      cases made : change item with
      | error failure => exact .inr ⟨failure, .here made⟩
      | ok value =>
          rcases inductionHypothesis with all | ⟨failure, first⟩
          · exact .inl (List.forall_mem_cons.mpr ⟨⟨value, made⟩, all⟩)
          · exact .inr ⟨failure, .later made first⟩

/-- Two changes that succeed and fail alike fail first at the same item. -/
theorem FailsFirst.congr {γ : Type} {another : α → Except Failure γ} {failure : Failure}
    (passes : ∀ item value, change item = .ok value → ∃ other, another item = .ok other)
    (fails : ∀ item, change item = .error failure → another item = .error failure)
    (first : FailsFirst change failure items) : FailsFirst another failure items := by
  induction first with
  | here failsHere => exact .here (fails _ failsHere)
  | later passesHere _ inductionHypothesis =>
      obtain ⟨_, passesToo⟩ := passes _ _ passesHere
      exact .later passesToo inductionHypothesis

/-- Changing what all items become is changing the items to that. -/
theorem mapM_map {γ : Type} (finish : β → γ) (change : α → Except Failure β) (items : List α) :
    items.mapM (fun item => (change item).map finish) =
      (items.mapM change).map (List.map finish) := by
  induction items with
  | nil => rfl
  | cons item items inductionHypothesis =>
      rw [List.mapM_cons, List.mapM_cons, inductionHypothesis]
      cases change item with
      | error failure => rfl
      | ok value => cases items.mapM change <;> rfl

theorem optionMapM_some (change : α → Except Failure β) (item : α) :
    (some item).mapM change = (change item).map some := by
  cases made : change item <;> simp [made, Except.map]

/-- A change of a value, if there is one, succeeds exactly with the value of it. -/
theorem optionMapM_eq_ok_iff {item? : Option α} {value? : Option β} :
    item?.mapM change = .ok value? ↔
      Option.Rel (fun item value => change item = .ok value) item? value? := by
  cases item? with
  | none =>
      constructor
      · rintro ⟨⟩
        exact .none
      · rintro ⟨⟩
        rfl
  | some item =>
      rw [optionMapM_some, map_eq_ok_iff]
      constructor
      · rintro ⟨value, made, rfl⟩
        exact .some made
      · rintro (made | _)
        exact ⟨_, made, rfl⟩

/-- A change of a value fails exactly if there is a value and its change fails. -/
theorem optionMapM_eq_error_iff {item? : Option α} {failure : Failure} :
    item?.mapM change = .error failure ↔
      ∃ item, item? = some item ∧ change item = .error failure := by
  cases item? with
  | none => exact ⟨nofun, nofun⟩
  | some item =>
      rw [optionMapM_some, map_eq_error_iff]
      constructor
      · intro fails
        exact ⟨item, rfl, fails⟩
      · rintro ⟨_, ⟨⟩, fails⟩
        exact fails

/-- Changes of related items are equal if related items are changed alike. -/
theorem mapM_eq_of_forall₂ {γ : Type} {another : γ → Except Failure β} {others : List γ}
    (matched : List.Forall₂ (fun item other => change item = another other) items others) :
    items.mapM change = others.mapM another := by
  induction matched with
  | nil => rfl
  | cons first _ inductionHypothesis =>
      rw [List.mapM_cons, List.mapM_cons, first, inductionHypothesis]

end Changes

/-- All failures of a result are of a kind. -/
def FailsOnly {α : Type} (kind : Failure → Prop) (result : Except Failure α) : Prop :=
  ∀ failure, result = .error failure → kind failure

namespace FailsOnly

variable {α β : Type} {kind : Failure → Prop}

theorem ok (value : α) : FailsOnly kind (.ok value) := nofun

theorem error {failure : Failure} (is : kind failure) :
    FailsOnly kind (.error failure : Except _ α) := by
  rintro _ ⟨⟩
  exact is

theorem bind {result : Except Failure α} {next : α → Except Failure β}
    (first : FailsOnly kind result) (rest : ∀ value, FailsOnly kind (next value)) :
    FailsOnly kind (result >>= next) := by
  intro failure refused
  cases made : result with
  | error other =>
      rw [made] at refused
      cases refused
      exact first _ made
  | ok value =>
      rw [made] at refused
      exact rest value _ refused

theorem map {result : Except Failure α} (first : FailsOnly kind result) (finish : α → β) :
    FailsOnly kind (result.map finish) :=
  fun failure refused => first failure (map_eq_error_iff.mp refused)

/-- What fails first fails in the way that the changes of all items fail. -/
theorem of_failsFirst {change : α → Except Failure β} {items : List α} {failure : Failure}
    (each : ∀ item, FailsOnly kind (change item)) (first : FailsFirst change failure items) :
    kind failure := by
  induction first with
  | here fails => exact each _ _ fails
  | later _ _ inductionHypothesis => exact inductionHypothesis

theorem mapM {change : α → Except Failure β} (each : ∀ item, FailsOnly kind (change item))
    (items : List α) : FailsOnly kind (items.mapM change) :=
  fun _ refused => of_failsFirst each (mapM_eq_error_iff.mp refused)

end FailsOnly
end Custody
