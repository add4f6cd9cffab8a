import Custody.Proofs.Estate.Teardown
import Custody.Proofs.Library.Books
import Custody.Session.Basic

/-!
# Holdings

The holdings of a session are its holders with the handles they were made for, the
adoptions among them, and the books of the library.  Holdings are valid when the
books are accurate, adoption goes from older to younger holders, every holder was
made for a handle of its sort and adopted by a holder of the handle above, and an
owned handle stands exactly as long as its holder is open.  In valid holdings the
handle of an open holder is good.
-/

namespace Custody

namespace Handle

/-- What a handle stands for: a note is a diagnostic, and notes are a set. -/
def sort : Handle → HandleKind
  | .owned kind _ => kind
  | .note _ _ => .diagnostic
  | .notes _ => .set

/-- What a borrowed handle was borrowed from is of the right sort. -/
def IsProper : Handle → Prop
  | .owned _ _ => True
  | .note set _ => set.sort = .set
  | .notes diagnostic => diagnostic.sort = .diagnostic

/-- Only a unit has the sort of units. -/
theorem exists_eq_owned_unit {handle : Handle} (sorted : handle.sort = .unit) :
    ∃ number, handle = .owned .unit number := by
  cases handle with
  | owned kind number =>
      cases sorted
      exact ⟨number, rfl⟩
  | note set position => cases sorted
  | notes diagnostic => cases sorted

end Handle

namespace Wrapper

/-- The sort of the handle that a holder keeps. -/
def sort : Wrapper → HandleKind
  | .index => .index
  | .unit _ _ => .unit
  | .action _ => .action
  | .diagnostic _ => .diagnostic
  | .set _ => .set
  | .database _ _ => .database

/-- The index of a unit or of an indexing session. -/
def index? : Wrapper → Option Nat
  | .unit number _ => some number
  | .action number => some number
  | _ => none

/-- The holder to which the locations of a diagnostic or of a set with a given number belong. -/
def space? (number : Nat) : Wrapper → Option Nat
  | .diagnostic owner => some owner
  | .set owner => some (owner.getD number)
  | _ => none

end Wrapper

/-- All that custody depends on in a session. -/
structure Holdings where
  /-- The holders. -/
  estate : Estate Handle Wrapper
  /-- The handles that the holders were made for. -/
  made : List Handle
  /-- The adoptions so far, in order. -/
  adoptions : List Adoption
  /-- The books of the library. -/
  books : Library.Books

/-- The holdings of a session. -/
def Session.holdings (session : Session) : Holdings :=
  ⟨session.estate, session.made, session.adoptions, session.library.books⟩

namespace Holdings

/-- The ledger of the library. -/
abbrev ledger (holdings : Holdings) : Library.Ledger := holdings.books.ledger

/-- Holders and adoptions are in order: an adoption goes from an open holder to a younger one, and
an open holder keeps the dependants it adopted and outlives them. -/
structure Orderly (holdings : Holdings) : Prop where
  /-- Every holder was made for a handle. -/
  made_length : holdings.made.length = holdings.estate.size
  /-- An open holder has the handle that it was made for. -/
  made_of_held : ∀ {number : Nat} {handle : Handle}, holdings.estate.handle? number = some handle →
    holdings.made[number]? = some handle
  /-- Only open holders adopt. -/
  parentOpen : ∀ adoption ∈ holdings.adoptions, adoption.parentOpen = true
  /-- Only younger holders are adopted. -/
  parent_lt : ∀ adoption ∈ holdings.adoptions, adoption.parent < adoption.child
  /-- Only holders are adopted. -/
  child_lt : ∀ adoption ∈ holdings.adoptions, adoption.child < holdings.estate.size
  /-- All dependants were adopted. -/
  recorded : ∀ {parent child : Nat}, holdings.estate.Adopts parent child →
    ∃ adoption ∈ holdings.adoptions, adoption.parent = parent ∧ adoption.child = child
  /-- An open holder keeps its dependants. -/
  adopts : ∀ adoption ∈ holdings.adoptions, holdings.estate.isOpen adoption.parent = true →
    holdings.estate.Adopts adoption.parent adoption.child
  /-- A dependant is open only while the holder that adopted it is. -/
  open_parent : ∀ adoption ∈ holdings.adoptions, holdings.estate.isOpen adoption.child = true →
    holdings.estate.isOpen adoption.parent = true

/-- Every holder was made for an allocated or borrowed handle of its sort, and adopted by a holder
of the handle above. -/
structure Founded (holdings : Holdings) : Prop where
  /-- The handle belongs to an allocation. -/
  root_mem : ∀ {number : Nat} {handle : Handle}, holdings.made[number]? = some handle →
    handle.root ∈ holdings.ledger.handles
  /-- Exactly the handles that must be given back are owned by their holders. -/
  owned_eq : ∀ {number : Nat} {owned : Bool} {handle : Handle},
    holdings.estate.owned? number = some owned → holdings.made[number]? = some handle →
      owned = handle.isOwned
  /-- An owned handle has one holder. -/
  injective : ∀ {first second : Nat} {handle : Handle}, holdings.made[first]? = some handle →
    holdings.made[second]? = some handle → handle.isOwned = true → first = second
  /-- A borrowed handle was borrowed from something of the right sort. -/
  proper : ∀ {number : Nat} {handle : Handle}, holdings.made[number]? = some handle →
    handle.IsProper
  /-- A holder and its handle are of one sort. -/
  sort_eq : ∀ {number : Nat} {wrapper : Wrapper} {handle : Handle},
    holdings.estate.content? number = some wrapper → holdings.made[number]? = some handle →
      handle.sort = wrapper.sort
  /-- A holder was adopted by a holder of the handle above its own. -/
  above : ∀ {number : Nat} {handle upper : Handle}, holdings.made[number]? = some handle →
    holdings.ledger.above? handle = some upper →
      ∃ adoption ∈ holdings.adoptions, adoption.child = number ∧
        holdings.made[adoption.parent]? = some upper
  /-- A unit and an indexing session were adopted by their index. -/
  indexed : ∀ {number : Nat} {wrapper : Wrapper} {index : Nat},
    holdings.estate.content? number = some wrapper → wrapper.index? = some index →
      ∃ adoption ∈ holdings.adoptions, adoption.parent = index ∧ adoption.child = number
  /-- The locations of a diagnostic or of a set lie in the space of their owner. -/
  spaced : ∀ {number : Nat} {wrapper : Wrapper} {handle : Handle} {owner : Nat},
    holdings.estate.content? number = some wrapper → holdings.made[number]? = some handle →
      wrapper.space? number = some owner →
        holdings.made[owner]? = some (holdings.ledger.space handle)
  /-- An owned diagnostic was made from a unit. -/
  unit_above : ∀ {number count : Nat}, holdings.made[number]? = some (.owned .diagnostic count) →
    ∃ unit, holdings.ledger.parent? (.owned .diagnostic count) = some (.owned .unit unit)

/-- An owned handle stands while its holder is open and is dead afterwards. -/
structure Backed (holdings : Holdings) : Prop where
  /-- An owned handle stands while its holder is open. -/
  stands : ∀ {number : Nat} {handle : Handle}, holdings.estate.handle? number = some handle →
    handle.isOwned = true → holdings.ledger.stands handle = true
  /-- An owned handle is dead once its holder is closed. -/
  dead : ∀ {number : Nat} {handle : Handle}, holdings.made[number]? = some handle →
    handle.isOwned = true → holdings.estate.isOpen number = false →
      holdings.ledger.isLive handle = false

/-- Holdings are valid when everything is in order. -/
structure Valid (holdings : Holdings) : Prop where
  /-- The books are accurate. -/
  accurate : holdings.books.Accurate
  /-- Holders and adoptions are in order. -/
  orderly : holdings.Orderly
  /-- Holders have what they were made for. -/
  founded : holdings.Founded
  /-- Owned handles live as long as their holders are open. -/
  backed : holdings.Backed

namespace Orderly

variable {holdings : Holdings}

/-- An open holder keeps the handle that it was made for. -/
theorem held_of_isOpen (orderly : holdings.Orderly) {number : Nat} {handle : Handle}
    (opened : holdings.estate.isOpen number = true)
    (made : holdings.made[number]? = some handle) :
    holdings.estate.handle? number = some handle := by
  obtain ⟨kept, held⟩ := Estate.isOpen_iff.mp opened
  have same : some kept = some handle := (orderly.made_of_held held).symm.trans made
  rwa [same] at held

theorem exists_made (orderly : holdings.Orderly) {number : Nat}
    (below : number < holdings.estate.size) : ∃ handle, holdings.made[number]? = some handle := by
  rw [← orderly.made_length] at below
  exact ⟨_, List.getElem?_eq_getElem below⟩

theorem exists_content (orderly : holdings.Orderly) {number : Nat} {handle : Handle}
    (made : holdings.made[number]? = some handle) :
    ∃ wrapper, holdings.estate.content? number = some wrapper := by
  obtain ⟨below, _⟩ := List.getElem?_eq_some_iff.mp made
  rw [orderly.made_length] at below
  obtain ⟨record, present⟩ := Estate.exists_get?_of_lt below
  exact ⟨record.content, Estate.content?_of_get? present⟩

/-- The rank in which adoption goes down: the youngest holders come last. -/
theorem ranked (orderly : holdings.Orderly) :
    holdings.estate.Ranked fun number => holdings.estate.size - number := by
  intro parent child adopted
  obtain ⟨adoption, member, rfl, rfl⟩ := orderly.recorded adopted
  have younger := orderly.parent_lt adoption member
  have bounded := orderly.child_lt adoption member
  dsimp only
  omega

/-- There are no circles of adoption. -/
theorem acyclic (orderly : holdings.Orderly) : holdings.estate.Acyclic := by
  refine Estate.Acyclic.of_lt fun parent child adopted => ?_
  obtain ⟨adoption, member, rfl, rfl⟩ := orderly.recorded adopted
  exact orderly.parent_lt adoption member

end Orderly

namespace Valid

variable {holdings : Holdings}

/-- An open holder was adopted by an open holder of the handle above. -/
theorem exists_adopter (valid : holdings.Valid) {number : Nat} {handle upper : Handle}
    (held : holdings.estate.handle? number = some handle)
    (above : holdings.ledger.above? handle = some upper) :
    ∃ adoption ∈ holdings.adoptions, adoption.child = number ∧
      holdings.estate.handle? adoption.parent = some upper := by
  obtain ⟨adoption, member, rfl, made⟩ :=
    valid.founded.above (valid.orderly.made_of_held held) above
  have opened := valid.orderly.open_parent adoption member (Estate.isOpen_iff.mpr ⟨handle, held⟩)
  exact ⟨adoption, member, rfl, valid.orderly.held_of_isOpen opened made⟩

/-- What is above the handle of an open holder is held by an open holder. -/
theorem exists_held_above (valid : holdings.Valid) {number : Nat} {handle upper : Handle}
    (held : holdings.estate.handle? number = some handle)
    (above : holdings.ledger.above? handle = some upper) :
    ∃ holder, holdings.estate.handle? holder = some upper := by
  obtain ⟨adoption, _, _, heldAbove⟩ := valid.exists_adopter held above
  exact ⟨adoption.parent, heldAbove⟩

/-- The owned handle behind the handle of an open holder is held by an open holder. -/
theorem exists_held_root (valid : holdings.Valid) {number : Nat} {handle : Handle}
    (held : holdings.estate.handle? number = some handle) :
    ∃ holder, holdings.estate.handle? holder = some handle.root := by
  induction handle generalizing number with
  | owned kind count => exact ⟨number, held⟩
  | note set position inductionHypothesis =>
      obtain ⟨holder, heldAbove⟩ := valid.exists_held_above held rfl
      exact inductionHypothesis heldAbove
  | notes diagnostic inductionHypothesis =>
      obtain ⟨holder, heldAbove⟩ := valid.exists_held_above held rfl
      exact inductionHypothesis heldAbove

theorem stands_root (valid : holdings.Valid) {number : Nat} {handle : Handle}
    (held : holdings.estate.handle? number = some handle) :
    holdings.ledger.stands handle.root = true := by
  obtain ⟨holder, heldRoot⟩ := valid.exists_held_root held
  exact valid.backed.stands heldRoot handle.isOwned_root

/-- The handle of an open holder is good. -/
theorem good_of_held (valid : holdings.Valid) {number : Nat} {handle : Handle}
    (held : holdings.estate.handle? number = some handle) :
    holdings.ledger.isGood handle = true := by
  unfold Library.Ledger.isGood
  rw [valid.stands_root held, Bool.true_and]
  cases made : holdings.ledger.parent? handle.root with
  | none => rfl
  | some parent =>
      obtain ⟨holder, heldRoot⟩ := valid.exists_held_root held
      obtain ⟨kind, count, rooted⟩ := Handle.isOwned_iff.mp handle.isOwned_root
      rw [rooted] at made heldRoot
      obtain ⟨upper, heldAbove⟩ := valid.exists_held_above heldRoot made
      exact valid.stands_root heldAbove

/-- Whatever the owned handle of an open holder is derived from is held by an open holder. -/
theorem exists_held_of_derived (valid : holdings.Valid) {number : Nat} {handle upper : Handle}
    (held : holdings.estate.handle? number = some handle)
    (derived : holdings.ledger.Derived handle upper) :
    ∃ holder, holdings.estate.handle? holder = some upper := by
  have climb {lower above : Handle} {holder : Nat}
      (heldLower : holdings.estate.handle? holder = some lower)
      (made : ∃ parent, holdings.ledger.parent? lower = some parent ∧ parent.root = above) :
      ∃ holder, holdings.estate.handle? holder = some above := by
    obtain ⟨parent, made, rfl⟩ := made
    have owned := valid.accurate.regular.owned lower (Library.Ledger.mem_handles_of_parent? made)
    obtain ⟨kind, count, rfl⟩ := Handle.isOwned_iff.mp owned
    obtain ⟨middle, heldParent⟩ := valid.exists_held_above heldLower made
    exact valid.exists_held_root heldParent
  induction derived with
  | single made => exact climb held made
  | tail _ made inductionHypothesis =>
      obtain ⟨holder, heldMiddle⟩ := inductionHypothesis
      exact climb heldMiddle made

end Valid
end Holdings
end Custody
