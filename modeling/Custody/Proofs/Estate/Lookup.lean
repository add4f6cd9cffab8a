import Custody.Estate.Basic

/-!
# Looking up holders

Every change of an estate is described by what it does to the look-up of holders,
of their handles and of their dependants.  Nothing below opens an estate as a list.
-/

namespace Custody

namespace Holder

variable {η α : Type}

/-- A holder without its handle and its dependants. -/
def cleared (holder : Holder η α) : Holder η α :=
  { holder with handle := none, dependants := [] }

@[simp] theorem handle_cleared (holder : Holder η α) : holder.cleared.handle = none := rfl

@[simp] theorem owned_cleared (holder : Holder η α) : holder.cleared.owned = holder.owned := rfl

@[simp] theorem dependants_cleared (holder : Holder η α) : holder.cleared.dependants = [] := rfl

@[simp] theorem content_cleared (holder : Holder η α) :
    holder.cleared.content = holder.content := rfl

end Holder

namespace Estate

variable {η α : Type}

/-- The dependants of a holder. -/
def dependants (estate : Estate η α) (holder : Nat) : List Nat :=
  (estate.get? holder).elim [] Holder.dependants

/-- A holder has another one among its dependants. -/
def Adopts (estate : Estate η α) (parent child : Nat) : Prop := child ∈ estate.dependants parent

/-- What a holder is. -/
def content? (estate : Estate η α) (holder : Nat) : Option α :=
  (estate.get? holder).map Holder.content

/-- Whether a holder owns its handle. -/
def owned? (estate : Estate η α) (holder : Nat) : Option Bool :=
  (estate.get? holder).map Holder.owned

/-- To clear a holder is one way to change it. -/
theorem clear_eq_modify (estate : Estate η α) (holder : Nat) :
    estate.clear holder = estate.modify holder Holder.cleared := rfl

/-- Only the holder that is changed is looked up otherwise. -/
theorem get?_modify
    (estate : Estate η α)
    (holder other : Nat)
    (change : Holder η α → Holder η α) :
    (estate.modify holder change).get? other =
      if other = holder then (estate.get? other).map change else estate.get? other := by
  by_cases same : other = holder
  · subst same
    simp
  · rw [if_neg same, get?_modify_other estate change (Ne.symm same)]

/-- Only the holder that is cleared is looked up otherwise. -/
theorem get?_clear (estate : Estate η α) (holder other : Nat) :
    (estate.clear holder).get? other =
      if other = holder then (estate.get? other).map Holder.cleared else estate.get? other := by
  rw [clear_eq_modify, get?_modify]

/-- A new holder has the next number. -/
theorem get?_add (estate : Estate η α) (holder : Holder η α) (other : Nat) :
    (estate.add holder).get? other =
      if other = estate.size then some holder else estate.get? other := by
  unfold get? add size
  by_cases last : other = estate.holders.length
  · subst last
    simp
  · rw [if_neg last]
    rcases Nat.lt_or_ge other estate.holders.length with below | above
    · rw [List.getElem?_append_left below]
    · rw [List.getElem?_eq_none (by simp; omega), List.getElem?_eq_none above]

/-- There are holders up to the size of an estate. -/
theorem get?_eq_none_iff (estate : Estate η α) (holder : Nat) :
    estate.get? holder = none ↔ estate.size ≤ holder := by
  simp [get?, size]

theorem lt_size_of_get? {estate : Estate η α} {holder : Nat} {record : Holder η α}
    (present : estate.get? holder = some record) : holder < estate.size := by
  rcases Nat.lt_or_ge holder estate.size with below | beyond
  · exact below
  · rw [(get?_eq_none_iff estate holder).mpr beyond] at present
    cases present

/-- Below the size of an estate every number is that of a holder. -/
theorem exists_get?_of_lt {estate : Estate η α} {holder : Nat} (below : holder < estate.size) :
    ∃ record, estate.get? holder = some record := by
  cases present : estate.get? holder with
  | some record => exact ⟨record, rfl⟩
  | none =>
      rw [get?_eq_none_iff] at present
      omega

@[simp] theorem get?_empty (holder : Nat) : (empty : Estate η α).get? holder = none := by
  simp [get?, empty]

/-- A holder has a handle if it is there and has not been closed. -/
theorem handle?_eq_some_iff {estate : Estate η α} {holder : Nat} {handle : η} :
    estate.handle? holder = some handle ↔
      ∃ record, estate.get? holder = some record ∧ record.handle = some handle := by
  simp [handle?, Option.bind_eq_some_iff]

theorem handle?_of_get? {estate : Estate η α} {holder : Nat} {record : Holder η α}
    (present : estate.get? holder = some record) : estate.handle? holder = record.handle := by
  simp [handle?, present]

theorem dependants_of_get? {estate : Estate η α} {holder : Nat} {record : Holder η α}
    (present : estate.get? holder = some record) :
    estate.dependants holder = record.dependants := by
  simp [dependants, present]

theorem content?_of_get? {estate : Estate η α} {holder : Nat} {record : Holder η α}
    (present : estate.get? holder = some record) :
    estate.content? holder = some record.content := by
  simp [content?, present]

theorem owned?_of_get? {estate : Estate η α} {holder : Nat} {record : Holder η α}
    (present : estate.get? holder = some record) :
    estate.owned? holder = some record.owned := by
  simp [owned?, present]

/-- A holder is open as long as it has a handle. -/
theorem isOpen_iff {estate : Estate η α} {holder : Nat} :
    estate.isOpen holder = true ↔ ∃ handle, estate.handle? holder = some handle := by
  simp [isOpen, Option.isSome_iff_exists]

/-- A holder without a handle is closed, and so is one that is not there. -/
theorem isOpen_eq_false_iff {estate : Estate η α} {holder : Nat} :
    estate.isOpen holder = false ↔ estate.handle? holder = none := by
  simp [isOpen]

theorem lt_size_of_handle? {estate : Estate η α} {holder : Nat} {handle : η}
    (opened : estate.handle? holder = some handle) : holder < estate.size := by
  obtain ⟨record, present, _⟩ := handle?_eq_some_iff.mp opened
  exact lt_size_of_get? present

theorem lt_size_of_isOpen {estate : Estate η α} {holder : Nat}
    (opened : estate.isOpen holder = true) : holder < estate.size := by
  obtain ⟨handle, held⟩ := isOpen_iff.mp opened
  exact lt_size_of_handle? held

/-- Only holders that exist have dependants. -/
theorem lt_size_of_adopts {estate : Estate η α} {parent child : Nat}
    (adopted : estate.Adopts parent child) : parent < estate.size := by
  cases present : estate.get? parent with
  | none => simp [Adopts, dependants, present] at adopted
  | some record => exact lt_size_of_get? present

/-- Estates are equal when they have the same holders. -/
theorem ext_get? {left right : Estate η α}
    (same : ∀ holder, left.get? holder = right.get? holder) : left = right := by
  cases left
  cases right
  exact congrArg Estate.mk (List.ext_getElem? same)

/-- Only the holder that is cleared loses its handle. -/
theorem handle?_clear (estate : Estate η α) (holder other : Nat) :
    (estate.clear holder).handle? other =
      if other = holder then none else estate.handle? other := by
  unfold handle?
  rw [get?_clear]
  by_cases same : other = holder
  · cases estate.get? other <;> simp [same]
  · simp [same]

/-- Only the holder that is cleared loses its dependants. -/
theorem dependants_clear (estate : Estate η α) (holder other : Nat) :
    (estate.clear holder).dependants other =
      if other = holder then [] else estate.dependants other := by
  unfold dependants
  rw [get?_clear]
  by_cases same : other = holder
  · cases estate.get? other <;> simp [same]
  · simp [same]

@[simp] theorem content?_clear (estate : Estate η α) (holder other : Nat) :
    (estate.clear holder).content? other = estate.content? other := by
  unfold content?
  rw [get?_clear]
  by_cases same : other = holder
  · cases estate.get? other <;> simp [same]
  · simp [same]

@[simp] theorem owned?_clear (estate : Estate η α) (holder other : Nat) :
    (estate.clear holder).owned? other = estate.owned? other := by
  unfold owned?
  rw [get?_clear]
  by_cases same : other = holder
  · cases estate.get? other <;> simp [same]
  · simp [same]

/-- A change that keeps handles changes the handle of no holder. -/
theorem handle?_modify_of_keeps
    (change : Holder η α → Holder η α)
    (keeps : ∀ record, (change record).handle = record.handle)
    (estate : Estate η α)
    (holder other : Nat) :
    (estate.modify holder change).handle? other = estate.handle? other := by
  unfold handle?
  rw [get?_modify]
  split
  · cases estate.get? other <;> simp [keeps]
  · rfl

/-- A change that keeps dependants changes the dependants of no holder. -/
theorem dependants_modify_of_keeps
    (change : Holder η α → Holder η α)
    (keeps : ∀ record, (change record).dependants = record.dependants)
    (estate : Estate η α)
    (holder other : Nat) :
    (estate.modify holder change).dependants other = estate.dependants other := by
  unfold dependants
  rw [get?_modify]
  split
  · cases estate.get? other <;> simp [keeps]
  · rfl

/-- A change that keeps contents changes the content of no holder. -/
theorem content?_modify_of_keeps
    (change : Holder η α → Holder η α)
    (keeps : ∀ record, (change record).content = record.content)
    (estate : Estate η α)
    (holder other : Nat) :
    (estate.modify holder change).content? other = estate.content? other := by
  unfold content?
  rw [get?_modify]
  split
  · cases estate.get? other <;> simp [keeps]
  · rfl

/-- A change that keeps ownership changes the ownership of no holder. -/
theorem owned?_modify_of_keeps
    (change : Holder η α → Holder η α)
    (keeps : ∀ record, (change record).owned = record.owned)
    (estate : Estate η α)
    (holder other : Nat) :
    (estate.modify holder change).owned? other = estate.owned? other := by
  unfold owned?
  rw [get?_modify]
  split
  · cases estate.get? other <;> simp [keeps]
  · rfl

/-- A new holder has the handle that it is made with. -/
theorem handle?_add (estate : Estate η α) (holder : Holder η α) (other : Nat) :
    (estate.add holder).handle? other =
      if other = estate.size then holder.handle else estate.handle? other := by
  unfold handle?
  rw [get?_add]
  split <;> rfl

theorem dependants_add (estate : Estate η α) (holder : Holder η α) (other : Nat) :
    (estate.add holder).dependants other =
      if other = estate.size then holder.dependants else estate.dependants other := by
  unfold dependants
  rw [get?_add]
  split <;> rfl

theorem content?_add (estate : Estate η α) (holder : Holder η α) (other : Nat) :
    (estate.add holder).content? other =
      if other = estate.size then some holder.content else estate.content? other := by
  unfold content?
  rw [get?_add]
  split <;> rfl

theorem owned?_add (estate : Estate η α) (holder : Holder η α) (other : Nat) :
    (estate.add holder).owned? other =
      if other = estate.size then some holder.owned else estate.owned? other := by
  unfold owned?
  rw [get?_add]
  split <;> rfl

@[simp] theorem handle?_adopt (estate : Estate η α) (parent child other : Nat) :
    (estate.adopt parent child).handle? other = estate.handle? other := by
  refine handle?_modify_of_keeps _ (fun record => ?_) estate parent other
  split <;> rfl

@[simp] theorem content?_adopt (estate : Estate η α) (parent child other : Nat) :
    (estate.adopt parent child).content? other = estate.content? other := by
  refine content?_modify_of_keeps _ (fun record => ?_) estate parent other
  split <;> rfl

@[simp] theorem owned?_adopt (estate : Estate η α) (parent child other : Nat) :
    (estate.adopt parent child).owned? other = estate.owned? other := by
  refine owned?_modify_of_keeps _ (fun record => ?_) estate parent other
  split <;> rfl

@[simp] theorem isOpen_adopt (estate : Estate η α) (parent child other : Nat) :
    (estate.adopt parent child).isOpen other = estate.isOpen other := by
  simp [isOpen]

/-- Only the holder that is cleared is closed by that. -/
theorem isOpen_clear (estate : Estate η α) (holder other : Nat) :
    (estate.clear holder).isOpen other = (!decide (other = holder) && estate.isOpen other) := by
  unfold isOpen
  rw [handle?_clear]
  by_cases same : other = holder <;> simp [same]

/-- A new holder is open if it is made with a handle. -/
theorem isOpen_add (estate : Estate η α) (holder : Holder η α) (other : Nat) :
    (estate.add holder).isOpen other =
      if other = estate.size then holder.handle.isSome else estate.isOpen other := by
  unfold isOpen
  rw [handle?_add]
  split <;> rfl

/-- A holder that is cleared has adopted nothing any more. -/
theorem adopts_clear_iff {estate : Estate η α} {holder parent child : Nat} :
    (estate.clear holder).Adopts parent child ↔ parent ≠ holder ∧ estate.Adopts parent child := by
  unfold Adopts
  rw [dependants_clear]
  by_cases same : parent = holder <;> simp [same]

/-- A holder that is made without dependants adds no adoption. -/
theorem adopts_add_iff {estate : Estate η α} {holder : Holder η α} {parent child : Nat}
    (childless : holder.dependants = []) :
    (estate.add holder).Adopts parent child ↔ estate.Adopts parent child := by
  unfold Adopts
  rw [dependants_add]
  by_cases last : parent = estate.size
  · subst last
    have absent := (get?_eq_none_iff estate estate.size).mpr (Nat.le_refl _)
    simp [childless, dependants, absent]
  · simp [last]

/-- An adoption takes place if the parent is there. -/
theorem adopts_adopt_iff {estate : Estate η α} {parent child upper lower : Nat} :
    (estate.adopt parent child).Adopts upper lower ↔
      estate.Adopts upper lower ∨ (upper = parent ∧ lower = child ∧ parent < estate.size) := by
  unfold Adopts dependants adopt
  rw [get?_modify]
  by_cases same : upper = parent
  · subst same
    cases present : estate.get? upper with
    | none =>
        have beyond := (get?_eq_none_iff estate upper).mp present
        simp only [if_true, Option.map_none, Option.elim_none, List.not_mem_nil, true_and, false_or]
        exact ⟨False.elim, fun found => absurd found.2 (Nat.not_lt.mpr beyond)⟩
    | some record =>
        have below := lt_size_of_get? present
        simp only [if_true, Option.map_some, Option.elim_some, true_and, below, and_true]
        split
        · next already =>
            constructor
            · exact Or.inl
            · rintro (found | rfl)
              · exact found
              · exact already
        · simp
  · simp [same]

end Estate
end Custody
