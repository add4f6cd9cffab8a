import Custody.Failure

/-!
# Estates

An estate is a collection of holders, numbered in the order in which they were
made.  A holder keeps one handle of the library until it is closed.  It owns the
handle or borrows it, and it may adopt other holders, its dependants, which are
closed before it is.
-/

namespace Custody

/-- A holder of one handle. -/
structure Holder (η α : Type) where
  /-- The handle, absent once the holder is closed. -/
  handle : Option η
  /-- Whether closing disposes of the handle. -/
  owned : Bool
  /-- The numbers of the adopted holders, each once. -/
  dependants : List Nat
  /-- What the holder is. -/
  content : α
  deriving Inhabited

/-- Holders, numbered from zero in the order of their making. -/
structure Estate (η α : Type) where
  /-- The holders in order. -/
  holders : List (Holder η α)
  deriving Inhabited

namespace Estate

variable {η α : Type}

/-- The estate without holders. -/
def empty : Estate η α := ⟨[]⟩

/-- How many holders were made. -/
def size (estate : Estate η α) : Nat := estate.holders.length

/-- The holder with a given number. -/
def get? (estate : Estate η α) (holder : Nat) : Option (Holder η α) := estate.holders[holder]?

/-- The handle of a holder that is open. -/
def handle? (estate : Estate η α) (holder : Nat) : Option η :=
  (estate.get? holder).bind Holder.handle

/-- A holder is open while it has a handle. -/
def isOpen (estate : Estate η α) (holder : Nat) : Bool := (estate.handle? holder).isSome

/-- Changes one holder. -/
def modify (estate : Estate η α) (holder : Nat) (change : Holder η α → Holder η α) : Estate η α :=
  ⟨estate.holders.modify holder change⟩

/-- Adds a holder, whose number is the size of the estate before. -/
def add (estate : Estate η α) (holder : Holder η α) : Estate η α := ⟨estate.holders ++ [holder]⟩

/-- Registers a dependant; registering it again changes nothing. -/
def adopt (estate : Estate η α) (parent child : Nat) : Estate η α :=
  estate.modify parent fun holder =>
    if child ∈ holder.dependants then holder
    else { holder with dependants := holder.dependants ++ [child] }

/-- Forgets the handle and the dependants of a holder. -/
def clear (estate : Estate η α) (holder : Nat) : Estate η α :=
  estate.modify holder fun record => { record with handle := none, dependants := [] }

@[simp] theorem size_empty : (empty : Estate η α).size = 0 := rfl

@[simp] theorem size_modify (estate : Estate η α) (holder : Nat) (change : Holder η α → Holder η α) :
    (estate.modify holder change).size = estate.size := by
  simp [size, modify]

@[simp] theorem size_add (estate : Estate η α) (holder : Holder η α) :
    (estate.add holder).size = estate.size + 1 := by
  simp [size, add]

@[simp] theorem size_adopt (estate : Estate η α) (parent child : Nat) :
    (estate.adopt parent child).size = estate.size := by
  simp [adopt]

@[simp] theorem size_clear (estate : Estate η α) (holder : Nat) :
    (estate.clear holder).size = estate.size := by
  simp [clear]

@[simp] theorem get?_modify_same
    (estate : Estate η α)
    (holder : Nat)
    (change : Holder η α → Holder η α) :
    (estate.modify holder change).get? holder = (estate.get? holder).map change := by
  simp [get?, modify]

theorem get?_modify_other
    (estate : Estate η α)
    {holder other : Nat}
    (change : Holder η α → Holder η α)
    (distinct : holder ≠ other) :
    (estate.modify holder change).get? other = estate.get? other := by
  simp [get?, modify, distinct]

@[simp] theorem handle?_clear_same (estate : Estate η α) (holder : Nat) :
    (estate.clear holder).handle? holder = none := by
  cases present : estate.get? holder <;> simp [handle?, clear, present]

end Estate
end Custody
