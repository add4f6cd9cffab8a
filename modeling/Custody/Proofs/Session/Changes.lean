import Custody.Proofs.Session.Holdings

/-!
# Changes of holdings

Holdings change in few ways: a handle is granted, a holder is placed, a leaf is
released, a handle that nobody holds is given back, spoiled or misused, and a
database remembers its commands.  Each of them keeps holdings valid.
-/

namespace Custody

/-- Two wrappers are alike when they differ at most in what they remember. -/
def Wrapper.Alike (first second : Wrapper) : Prop :=
  first.sort = second.sort ∧ first.index? = second.index? ∧
    ∀ number, first.space? number = second.space? number

theorem Wrapper.Alike.refl (wrapper : Wrapper) : wrapper.Alike wrapper := ⟨rfl, rfl, fun _ => rfl⟩

namespace Holdings

/-- Holdings after an allocation. -/
def grant (holdings : Holdings) (kind : HandleKind) (parent : Option Handle) : Holdings :=
  { holdings with books := holdings.books.grant kind parent }

/-- Holdings after a handle that nobody holds was given back. -/
def retire (holdings : Holdings) (handle : Handle) : Holdings :=
  { holdings with books := holdings.books.retire handle }

/-- Holdings after a failure has left a handle unusable. -/
def spoil (holdings : Holdings) (handle : Handle) : Holdings :=
  { holdings with books := holdings.books.spoil handle }

/-- Holdings after a handle was misused. -/
def stray (holdings : Holdings) (handle : Handle) : Holdings :=
  { holdings with books := holdings.books.stray handle }

/-- Holdings after a unit was asked for without naming a file. -/
def ask (holdings : Holdings) : Holdings := { holdings with books := holdings.books.ask }

/-- Holdings with one more holder. -/
def enrol (holdings : Holdings) (handle : Handle) (owned : Bool) (wrapper : Wrapper) : Holdings :=
  { holdings with
    estate := holdings.estate.add ⟨some handle, owned, [], wrapper⟩
    made := holdings.made ++ [handle] }

/-- Holdings after one holder adopted another. -/
def adopt (holdings : Holdings) (parent child : Nat) : Holdings :=
  { holdings with
    estate := holdings.estate.adopt parent child
    adoptions := holdings.adoptions ++ [⟨parent, child, holdings.estate.isOpen parent⟩] }

/-- Holdings with one more holder, which a parent adopts if there is one. -/
def place (holdings : Holdings) (parent : Option Nat) (handle : Handle) (wrapper : Wrapper) :
    Holdings :=
  match parent with
  | none => holdings.enrol handle handle.isOwned wrapper
  | some parent => (holdings.enrol handle handle.isOwned wrapper).adopt parent holdings.estate.size

/-- Holdings after a holder was closed and its handle, if owned, given back. -/
def release (holdings : Holdings) (number : Nat) (handle : Handle) : Holdings :=
  { holdings with
    estate := holdings.estate.clear number
    books := if handle.isOwned then holdings.books.retire handle else holdings.books }

/-- Holdings after the content of a holder was changed. -/
def remember (holdings : Holdings) (number : Nat) (change : Wrapper → Wrapper) : Holdings :=
  { holdings with
    estate := holdings.estate.modify number fun record =>
      { record with content := change record.content } }

/-- What a new holder needs: an open parent that holds the handle above, and a handle that stands
and that nobody holds yet. -/
structure Placeable (holdings : Holdings) (parent : Option Nat) (handle : Handle)
    (wrapper : Wrapper) : Prop where
  /-- The parent is open. -/
  open_parent : ∀ number, parent = some number → holdings.estate.isOpen number = true
  /-- The handle belongs to an allocation. -/
  root_mem : handle.root ∈ holdings.ledger.handles
  /-- Nobody holds an owned handle yet. -/
  unheld : handle.isOwned = true → handle ∉ holdings.made
  /-- An owned handle stands. -/
  stands : handle.isOwned = true → holdings.ledger.stands handle = true
  /-- A borrowed handle was borrowed from something of the right sort. -/
  proper : handle.IsProper
  /-- The holder and its handle are of one sort. -/
  sort_eq : handle.sort = wrapper.sort
  /-- The parent holds the handle above. -/
  above : ∀ upper, holdings.ledger.above? handle = some upper →
    ∃ number, parent = some number ∧ holdings.made[number]? = some upper
  /-- An index is the parent. -/
  indexed : ∀ index, wrapper.index? = some index → parent = some index
  /-- Locations lie in the space of the owner. -/
  spaced : ∀ owner, wrapper.space? holdings.estate.size = some owner →
    (holdings.made ++ [handle])[owner]? = some (holdings.ledger.space handle)
  /-- An owned diagnostic was made from a unit. -/
  unit_above : ∀ count, handle = .owned .diagnostic count →
    ∃ unit, holdings.ledger.parent? handle = some (.owned .unit unit)

variable {holdings : Holdings}

/-- An owned handle is given back when its holder is released. -/
theorem release_of_owned (number : Nat) {handle : Handle} (owned : handle.isOwned = true) :
    holdings.release number handle =
      retire { holdings with estate := holdings.estate.clear number } handle := by
  simp [release, retire, owned]

/-- A borrowed handle is only forgotten when its holder is released. -/
theorem release_of_borrowed (number : Nat) {handle : Handle} (borrowed : handle.isOwned = false) :
    holdings.release number handle =
      { holdings with estate := holdings.estate.clear number } := by
  simp [release, borrowed]

/-- What is found in a list that has grown by one was there or is the last. -/
theorem getElem?_concat_eq_some {items : List Handle} {item found : Handle} {number : Nat}
    (present : (items ++ [item])[number]? = some found) :
    items[number]? = some found ∨ (number = items.length ∧ found = item) := by
  rw [List.getElem?_append] at present
  split at present
  · exact .inl present
  · right
    rw [List.getElem?_singleton] at present
    split at present
    · exact ⟨by omega, (Option.some.inj present).symm⟩
    · cases present

/-- What is found in a list is found in one that begins with it. -/
theorem getElem?_of_prefix {items later : List Handle} {found : Handle} {number : Nat}
    (grown : items <+: later) (present : items[number]? = some found) :
    later[number]? = some found := by
  obtain ⟨rest, rfl⟩ := grown
  obtain ⟨below, _⟩ := List.getElem?_eq_some_iff.mp present
  rwa [List.getElem?_append_left below]

/-- What is found in a list is found when it has grown by one. -/
theorem getElem?_concat_of_some {items : List Handle} {item found : Handle} {number : Nat}
    (present : items[number]? = some found) : (items ++ [item])[number]? = some found :=
  getElem?_of_prefix (List.prefix_append items [item]) present

section Place

variable (holdings : Holdings) (parent : Option Nat) (handle : Handle) (wrapper : Wrapper)

@[simp] theorem ledger_place : (holdings.place parent handle wrapper).ledger = holdings.ledger := by
  cases parent <;> rfl

@[simp] theorem made_place :
    (holdings.place parent handle wrapper).made = holdings.made ++ [handle] := by
  cases parent <;> rfl

/-- A holder that is placed holds its handle, and all others keep theirs. -/
theorem handle?_place (number : Nat) :
    (holdings.place parent handle wrapper).estate.handle? number =
      if number = holdings.estate.size then some handle else holdings.estate.handle? number := by
  cases parent <;> simp [place, adopt, enrol, Estate.handle?_add]

/-- A holder that is placed owns its handle if that has to be given back. -/
theorem owned?_place (number : Nat) :
    (holdings.place parent handle wrapper).estate.owned? number =
      if number = holdings.estate.size then some handle.isOwned
      else holdings.estate.owned? number := by
  cases parent <;> simp [place, adopt, enrol, Estate.owned?_add]

/-- A holder that is placed has its own content, and all others keep theirs. -/
theorem content?_place (number : Nat) :
    (holdings.place parent handle wrapper).estate.content? number =
      if number = holdings.estate.size then some wrapper
      else holdings.estate.content? number := by
  cases parent <;> simp [place, adopt, enrol, Estate.content?_add]

/-- Adoptions that were recorded stay recorded. -/
theorem adoptions_place :
    holdings.adoptions <+: (holdings.place parent handle wrapper).adoptions := by
  cases parent with
  | none => exact List.prefix_rfl
  | some number => exact List.prefix_append _ _

/-- The parent adopts the holder that is placed. -/
theorem adopted_place (number : Nat) :
    ∃ adoption ∈ (holdings.place (some number) handle wrapper).adoptions,
      adoption.parent = number ∧ adoption.child = holdings.estate.size :=
  ⟨_, List.mem_append_right _ (List.mem_singleton.mpr rfl), rfl, rfl⟩

variable {holdings parent handle wrapper}

/-- What a holder was made for was there before, or it is what was placed. -/
theorem Orderly.of_made_place (orderly : holdings.Orderly) {number : Nat} {found : Handle}
    (made : (holdings.place parent handle wrapper).made[number]? = some found) :
    (number ≠ holdings.estate.size ∧ holdings.made[number]? = some found) ∨
      (number = holdings.estate.size ∧ found = handle) := by
  rw [made_place] at made
  rcases getElem?_concat_eq_some made with old | ⟨last, same⟩
  · obtain ⟨below, _⟩ := List.getElem?_eq_some_iff.mp old
    rw [orderly.made_length] at below
    exact .inl ⟨below.ne, old⟩
  · exact .inr ⟨last.trans orderly.made_length, same⟩

end Place

namespace Orderly

/-- The order does not depend on the books. -/
theorem of_books (orderly : holdings.Orderly) (books : Library.Books) :
    Orderly { holdings with books := books } :=
  ⟨orderly.made_length, orderly.made_of_held, orderly.parentOpen, orderly.parent_lt,
    orderly.child_lt, orderly.recorded, orderly.adopts, orderly.open_parent⟩

/-- A holder that is enrolled is the youngest and has adopted nothing. -/
protected theorem enrol (orderly : holdings.Orderly) (handle : Handle) (owned : Bool)
    (wrapper : Wrapper) : (holdings.enrol handle owned wrapper).Orderly where
  made_length := by simp [enrol, orderly.made_length]
  made_of_held := by
    intro number found held
    unfold enrol at held ⊢
    rw [Estate.handle?_add] at held
    split at held
    · next last =>
        cases held
        rw [last, ← orderly.made_length]
        exact List.getElem?_concat_length
    · exact getElem?_concat_of_some (orderly.made_of_held held)
  parentOpen := orderly.parentOpen
  parent_lt := orderly.parent_lt
  child_lt := by
    intro adoption member
    have bounded := orderly.child_lt adoption member
    simp only [enrol, Estate.size_add]
    omega
  recorded := fun adopted => orderly.recorded ((Estate.adopts_add_iff rfl).mp adopted)
  adopts := by
    intro adoption member opened
    have younger := orderly.parent_lt adoption member
    have bounded := orderly.child_lt adoption member
    unfold enrol at opened ⊢
    rw [Estate.isOpen_add, if_neg (by omega)] at opened
    exact (Estate.adopts_add_iff rfl).mpr (orderly.adopts adoption member opened)
  open_parent := by
    intro adoption member opened
    have younger := orderly.parent_lt adoption member
    have bounded := orderly.child_lt adoption member
    unfold enrol at opened ⊢
    rw [Estate.isOpen_add, if_neg (by omega)] at opened ⊢
    exact orderly.open_parent adoption member opened

/-- An adoption by an older, open holder keeps the order. -/
protected theorem adopt (orderly : holdings.Orderly) {parent child : Nat}
    (opened : holdings.estate.isOpen parent = true)
    (younger : parent < child)
    (bounded : child < holdings.estate.size) : (holdings.adopt parent child).Orderly where
  made_length := by simp [adopt, orderly.made_length]
  made_of_held := by
    intro number handle held
    unfold adopt at held
    rw [Estate.handle?_adopt] at held
    exact orderly.made_of_held held
  parentOpen := by
    intro adoption member
    rcases List.mem_append.mp member with old | new
    · exact orderly.parentOpen adoption old
    · rw [List.mem_singleton.mp new]
      exact opened
  parent_lt := by
    intro adoption member
    rcases List.mem_append.mp member with old | new
    · exact orderly.parent_lt adoption old
    · rw [List.mem_singleton.mp new]
      exact younger
  child_lt := by
    intro adoption member
    simp only [adopt, Estate.size_adopt]
    rcases List.mem_append.mp member with old | new
    · exact orderly.child_lt adoption old
    · rw [List.mem_singleton.mp new]
      exact bounded
  recorded := by
    intro upper lower adopted
    rcases Estate.adopts_adopt_iff.mp adopted with old | ⟨rfl, rfl, _⟩
    · obtain ⟨adoption, member, same⟩ := orderly.recorded old
      exact ⟨adoption, List.mem_append_left _ member, same⟩
    · exact ⟨_, List.mem_append_right _ (List.mem_singleton.mpr rfl), rfl, rfl⟩
  adopts := by
    intro adoption member stillOpen
    unfold adopt at stillOpen
    rw [Estate.isOpen_adopt] at stillOpen
    rcases List.mem_append.mp member with old | new
    · exact Estate.adopts_adopt_iff.mpr (.inl (orderly.adopts adoption old stillOpen))
    · rw [List.mem_singleton.mp new]
      exact Estate.adopts_adopt_iff.mpr (.inr ⟨rfl, rfl, Estate.lt_size_of_isOpen opened⟩)
  open_parent := by
    intro adoption member stillOpen
    unfold adopt at stillOpen ⊢
    rw [Estate.isOpen_adopt] at stillOpen ⊢
    rcases List.mem_append.mp member with old | new
    · exact orderly.open_parent adoption old stillOpen
    · rw [List.mem_singleton.mp new]
      exact opened

/-- A holder that is placed is adopted by an older one. -/
protected theorem place (orderly : holdings.Orderly) {parent : Option Nat} (handle : Handle)
    (wrapper : Wrapper)
    (opened : ∀ number, parent = some number → holdings.estate.isOpen number = true) :
    (holdings.place parent handle wrapper).Orderly := by
  cases parent with
  | none => exact orderly.enrol handle _ wrapper
  | some number =>
      have below := Estate.lt_size_of_isOpen (opened number rfl)
      refine (orderly.enrol handle _ wrapper).adopt ?_ below (by simp [enrol])
      unfold enrol
      rw [Estate.isOpen_add, if_neg (by omega)]
      exact opened number rfl

/-- Releasing a leaf keeps the order. -/
protected theorem release (orderly : holdings.Orderly) {number : Nat} {handle : Handle}
    (held : holdings.estate.handle? number = some handle)
    (leaf : ∀ child, holdings.estate.Adopts number child → holdings.estate.isOpen child = false) :
    (holdings.release number handle).Orderly where
  made_length := by simp [release, orderly.made_length]
  made_of_held := by
    intro other found stillHeld
    unfold release at stillHeld
    rw [Estate.handle?_clear] at stillHeld
    split at stillHeld
    · cases stillHeld
    · exact orderly.made_of_held stillHeld
  parentOpen := orderly.parentOpen
  parent_lt := orderly.parent_lt
  child_lt := by
    intro adoption member
    simp only [release, Estate.size_clear]
    exact orderly.child_lt adoption member
  recorded := fun adopted => orderly.recorded (Estate.adopts_clear_iff.mp adopted).2
  adopts := by
    intro adoption member opened
    unfold release at opened
    simp only [Estate.isOpen_clear, Bool.and_eq_true, Bool.not_eq_true', decide_eq_false_iff_not]
      at opened
    exact Estate.adopts_clear_iff.mpr ⟨opened.1, orderly.adopts adoption member opened.2⟩
  open_parent := by
    intro adoption member opened
    unfold release at opened ⊢
    simp only [Estate.isOpen_clear, Bool.and_eq_true, Bool.not_eq_true', decide_eq_false_iff_not]
      at opened ⊢
    have openedParent := orderly.open_parent adoption member opened.2
    refine ⟨?_, openedParent⟩
    -- A dependant of the released leaf would be closed already.
    rintro rfl
    have closed := leaf adoption.child (orderly.adopts adoption member openedParent)
    rw [opened.2] at closed
    cases closed

/-- What is remembered has no part in the order. -/
protected theorem remember (orderly : holdings.Orderly) (number : Nat)
    (change : Wrapper → Wrapper) :
    (holdings.remember number change).Orderly := by
  have sameHandles (other : Nat) :
      (holdings.remember number change).estate.handle? other = holdings.estate.handle? other :=
    Estate.handle?_modify_of_keeps _ (fun _ => by rfl) holdings.estate number other
  have sameOpen (other : Nat) :
      (holdings.remember number change).estate.isOpen other = holdings.estate.isOpen other := by
    rw [Estate.isOpen, sameHandles, Estate.isOpen]
  have sameDependants (parent child : Nat) :
      (holdings.remember number change).estate.Adopts parent child ↔
        holdings.estate.Adopts parent child := by
    unfold Estate.Adopts
    rw [show (holdings.remember number change).estate.dependants parent = _ from
      Estate.dependants_modify_of_keeps _ (fun _ => by rfl) holdings.estate number parent]
  have sameSize : (holdings.remember number change).estate.size = holdings.estate.size :=
    Estate.size_modify _ _ _
  constructor
  · exact orderly.made_length.trans sameSize.symm
  · intro other handle held
    exact orderly.made_of_held ((sameHandles other).symm.trans held)
  · exact orderly.parentOpen
  · exact orderly.parent_lt
  · intro adoption member
    exact sameSize ▸ orderly.child_lt adoption member
  · intro parent child adopted
    exact orderly.recorded ((sameDependants parent child).mp adopted)
  · intro adoption member opened
    exact (sameDependants _ _).mpr (orderly.adopts adoption member (sameOpen _ ▸ opened))
  · intro adoption member opened
    rw [sameOpen] at opened ⊢
    exact orderly.open_parent adoption member opened

end Orderly

namespace Founded

/-- What holders were made for depends on few things: new allocations, new liveness, closed holders
and what databases remember do not matter. -/
theorem of_steady
    {later : Holdings}
    (founded : holdings.Founded)
    (sameMade : later.made = holdings.made)
    (sameAdoptions : later.adoptions = holdings.adoptions)
    (sameOwned : ∀ number, later.estate.owned? number = holdings.estate.owned? number)
    (alike : ∀ number wrapper, later.estate.content? number = some wrapper →
      ∃ former, holdings.estate.content? number = some former ∧ wrapper.Alike former)
    (kept : ∀ handle ∈ holdings.ledger.handles, handle ∈ later.ledger.handles)
    (sameParents : ∀ handle ∈ holdings.ledger.handles,
      later.ledger.parent? handle = holdings.ledger.parent? handle) :
    later.Founded where
  root_mem := fun made => kept _ (founded.root_mem (sameMade ▸ made))
  owned_eq := by
    intro number owned handle present made
    rw [sameOwned] at present
    exact founded.owned_eq present (sameMade ▸ made)
  injective := by
    rw [sameMade]
    exact founded.injective
  proper := by
    rw [sameMade]
    exact founded.proper
  sort_eq := by
    intro number wrapper handle present made
    obtain ⟨former, before, sameSort, _⟩ := alike number wrapper present
    rw [sameSort]
    exact founded.sort_eq before (sameMade ▸ made)
  above := by
    intro number handle upper made upward
    rw [sameMade] at made ⊢
    rw [sameAdoptions]
    rw [Library.Ledger.above?_congr (sameParents _ (founded.root_mem made))] at upward
    exact founded.above made upward
  indexed := by
    intro number wrapper index present indexed
    obtain ⟨former, before, _, sameIndex, _⟩ := alike number wrapper present
    rw [sameAdoptions]
    exact founded.indexed before (sameIndex ▸ indexed)
  spaced := by
    intro number wrapper handle owner present made belongs
    obtain ⟨former, before, _, _, sameSpace⟩ := alike number wrapper present
    rw [sameMade] at made ⊢
    rw [Library.Ledger.space_congr (sameParents _ (founded.root_mem made))]
    exact founded.spaced before made (sameSpace number ▸ belongs)
  unit_above := by
    intro number count made
    rw [sameMade] at made
    have same := sameParents _ (founded.root_mem made)
    rw [Handle.root_owned] at same
    rw [same]
    exact founded.unit_above made

/-- A new allocation is named by no holder yet, so its parent need not be held. -/
protected theorem grant (founded : holdings.Founded) (regular : holdings.ledger.Regular)
    (kind : HandleKind) (parent : Option Handle) : (holdings.grant kind parent).Founded := by
  refine founded.of_steady rfl rfl (fun _ => rfl)
    (fun _ wrapper present => ⟨wrapper, present, .refl _⟩)
    ?_ ?_
  · intro handle member
    exact (Library.Ledger.handles_grant _ _ _).symm ▸ List.mem_append_left _ member
  · intro handle member
    refine (regular.parent?_grant kind parent handle).trans (if_neg ?_)
    rintro rfl
    exact regular.fresh_notMem kind member

/-- What is founded on parents stays founded while they are the same. -/
theorem of_same_parents {books : Library.Books} (founded : holdings.Founded)
    (sameHandles : books.ledger.handles = holdings.ledger.handles)
    (sameParents : ∀ handle, books.ledger.parent? handle = holdings.ledger.parent? handle) :
    Founded { holdings with books := books } :=
  founded.of_steady rfl rfl (fun _ => rfl) (fun _ wrapper present => ⟨wrapper, present, .refl _⟩)
    (fun _ member => sameHandles ▸ member) fun handle _ => sameParents handle

/-- What is given back keeps its parent. -/
protected theorem retire (founded : holdings.Founded) (handle : Handle) :
    (holdings.retire handle).Founded :=
  founded.of_same_parents (Library.Ledger.handles_retire _ handle)
    (Library.Ledger.parent?_retire _ handle)

/-- What is spoiled keeps its parent. -/
protected theorem spoil (founded : holdings.Founded) (handle : Handle) :
    (holdings.spoil handle).Founded :=
  founded.of_same_parents (Library.Ledger.handles_spoil _ handle)
    (Library.Ledger.parent?_spoil _ handle)

/-- A holder that is cleared names no handle. -/
protected theorem clear (founded : holdings.Founded) (number : Nat) :
    Founded { holdings with estate := holdings.estate.clear number } := by
  refine founded.of_steady rfl rfl (fun _ => Estate.owned?_clear _ _ _) ?_ (fun _ member => member)
    fun _ _ => rfl
  intro other wrapper present
  exact ⟨wrapper, (Estate.content?_clear _ _ _).symm.trans present, .refl wrapper⟩

/-- A release clears a holder and may give its handle back. -/
protected theorem release (founded : holdings.Founded) (number : Nat) (handle : Handle) :
    (holdings.release number handle).Founded := by
  cases owned : handle.isOwned with
  | false => exact release_of_borrowed number owned ▸ founded.clear number
  | true => exact release_of_owned number owned ▸ (founded.clear number).retire handle

/-- A wrapper that is alike is founded alike. -/
protected theorem remember (founded : holdings.Founded) (number : Nat) {change : Wrapper → Wrapper}
    (alike : ∀ wrapper, (change wrapper).Alike wrapper) :
    (holdings.remember number change).Founded := by
  refine founded.of_steady rfl rfl ?_ ?_ (fun _ member => member) fun _ _ => rfl
  · intro other
    exact Estate.owned?_modify_of_keeps _ (fun _ => by rfl) holdings.estate number other
  · intro other wrapper present
    unfold remember Estate.content? at present
    rw [Estate.get?_modify] at present
    split at present
    · cases before : holdings.estate.get? other with
      | none => simp [before] at present
      | some record =>
          simp only [before, Option.map_some, Option.some.injEq] at present
          subst present
          exact ⟨record.content, Estate.content?_of_get? before, alike record.content⟩
    · exact ⟨wrapper, present, .refl wrapper⟩

/-- A new holder that can be placed is founded. -/
protected theorem place
    (founded : holdings.Founded)
    (orderly : holdings.Orderly)
    {parent : Option Nat}
    {handle : Handle}
    {wrapper : Wrapper}
    (placeable : holdings.Placeable parent handle wrapper) :
    (holdings.place parent handle wrapper).Founded where
  root_mem := by
    intro number found made
    rw [ledger_place]
    rcases orderly.of_made_place made with ⟨_, old⟩ | ⟨_, rfl⟩
    · exact founded.root_mem old
    · exact placeable.root_mem
  owned_eq := by
    intro number owned found present made
    rw [owned?_place] at present
    rcases orderly.of_made_place made with ⟨apart, old⟩ | ⟨last, rfl⟩
    · rw [if_neg apart] at present
      exact founded.owned_eq present old
    · rw [if_pos last] at present
      exact (Option.some.inj present).symm
  injective := by
    intro first second found madeFirst madeSecond owned
    rcases orderly.of_made_place madeFirst with ⟨_, oldFirst⟩ | ⟨lastFirst, rfl⟩
    · rcases orderly.of_made_place madeSecond with ⟨_, oldSecond⟩ | ⟨_, rfl⟩
      · exact founded.injective oldFirst oldSecond owned
      · exact absurd (List.mem_of_getElem? oldFirst) (placeable.unheld owned)
    · rcases orderly.of_made_place madeSecond with ⟨_, oldSecond⟩ | ⟨lastSecond, _⟩
      · exact absurd (List.mem_of_getElem? oldSecond) (placeable.unheld owned)
      · exact lastFirst.trans lastSecond.symm
  proper := by
    intro number found made
    rcases orderly.of_made_place made with ⟨_, old⟩ | ⟨_, rfl⟩
    · exact founded.proper old
    · exact placeable.proper
  sort_eq := by
    intro number content found present made
    rw [content?_place] at present
    rcases orderly.of_made_place made with ⟨apart, old⟩ | ⟨last, rfl⟩
    · rw [if_neg apart] at present
      exact founded.sort_eq present old
    · rw [if_pos last] at present
      rw [placeable.sort_eq, Option.some.inj present]
  above := by
    intro number found upper made upward
    rw [ledger_place] at upward
    rw [made_place]
    rcases orderly.of_made_place made with ⟨_, old⟩ | ⟨last, rfl⟩
    · obtain ⟨adoption, member, same, madeAbove⟩ := founded.above old upward
      exact ⟨adoption, (adoptions_place ..).subset member, same, getElem?_concat_of_some madeAbove⟩
    · obtain ⟨above, rfl, madeAbove⟩ := placeable.above upper upward
      obtain ⟨adoption, member, rfl, child⟩ := adopted_place holdings found wrapper above
      exact ⟨adoption, member, child.trans last.symm, getElem?_concat_of_some madeAbove⟩
  indexed := by
    intro number content index present indexed
    rw [content?_place] at present
    split at present
    · next last =>
        cases present
        cases placeable.indexed index indexed
        obtain ⟨adoption, member, same, child⟩ := adopted_place holdings handle wrapper index
        exact ⟨adoption, member, same, child.trans last.symm⟩
    · obtain ⟨adoption, member, same⟩ := founded.indexed present indexed
      exact ⟨adoption, (adoptions_place ..).subset member, same⟩
  spaced := by
    intro number content found owner present made belongs
    rw [content?_place] at present
    rw [ledger_place, made_place]
    rcases orderly.of_made_place made with ⟨apart, old⟩ | ⟨last, rfl⟩
    · rw [if_neg apart] at present
      exact getElem?_concat_of_some (founded.spaced present old belongs)
    · rw [if_pos last] at present
      cases present
      rw [last] at belongs
      exact placeable.spaced owner belongs
  unit_above := by
    intro number count made
    rw [ledger_place]
    rcases orderly.of_made_place made with ⟨_, old⟩ | ⟨_, rfl⟩
    · exact founded.unit_above old
    · exact placeable.unit_above count rfl

end Founded

namespace Backed

/-- Backing holds with other books if they let the handles of open holders stand and bring no
handle back to life. -/
theorem of_books {books : Library.Books} (backed : holdings.Backed)
    (stands : ∀ (number : Nat) (handle : Handle), holdings.estate.handle? number = some handle →
      handle.isOwned = true → holdings.ledger.stands handle = true →
        books.ledger.stands handle = true)
    (dead : ∀ (number : Nat) (handle : Handle), holdings.made[number]? = some handle →
      handle.isOwned = true → holdings.ledger.isLive handle = false →
        books.ledger.isLive handle = false) :
    Backed { holdings with books := books } where
  stands := fun {number handle} held owned =>
    stands number handle held owned (backed.stands held owned)
  dead := fun {number handle} made owned closed =>
    dead number handle made owned (backed.dead made owned closed)

/-- A new allocation does not take the backing of what was held. -/
protected theorem grant (backed : holdings.Backed) (founded : holdings.Founded)
    (regular : holdings.ledger.Regular) (kind : HandleKind) (parent : Option Handle) :
    (holdings.grant kind parent).Backed := by
  refine backed.of_books ?_ ?_
  · intro number handle _ _ standing
    refine (regular.stands_grant kind parent handle).trans ?_
    rw [standing, Bool.or_true]
  · intro number handle made owned gone
    refine (regular.isLive_grant kind parent handle).trans ?_
    rw [gone, Bool.or_false, decide_eq_false_iff_not]
    rintro rfl
    exact regular.fresh_notMem kind (founded.root_mem made)

/-- A handle that nobody holds can be given back. -/
protected theorem retire (backed : holdings.Backed) {handle : Handle}
    (unheld : ∀ number, holdings.estate.handle? number ≠ some handle) :
    (holdings.retire handle).Backed := by
  refine backed.of_books ?_ ?_
  · intro number other held _ standing
    refine (Library.Ledger.stands_retire _ handle other).trans ?_
    have apart : other ≠ handle := fun same => unheld number (same ▸ held)
    simp [apart, standing]
  · intro number other _ _ gone
    refine (Library.Ledger.isLive_retire _ handle other).trans ?_
    rw [gone, Bool.and_false]

/-- A handle that nobody holds can be spoiled. -/
protected theorem spoil (backed : holdings.Backed) {handle : Handle}
    (unheld : ∀ number, holdings.estate.handle? number ≠ some handle) :
    (holdings.spoil handle).Backed := by
  refine backed.of_books ?_ ?_
  · intro number other held _ standing
    refine (Library.Ledger.stands_spoil _ handle other).trans ?_
    have apart : other ≠ handle := fun same => unheld number (same ▸ held)
    simp [apart, standing]
  · intro number other _ _ gone
    exact (Library.Ledger.isLive_spoil _ handle other).trans gone

/-- A handle is held by the same holder, whatever that remembers. -/
protected theorem remember (backed : holdings.Backed) (number : Nat) (change : Wrapper → Wrapper) :
    (holdings.remember number change).Backed := by
  have sameHandles (other : Nat) :
      (holdings.remember number change).estate.handle? other = holdings.estate.handle? other :=
    Estate.handle?_modify_of_keeps _ (fun _ => by rfl) holdings.estate number other
  constructor
  · intro other handle held owned
    exact backed.stands ((sameHandles other).symm.trans held) owned
  · intro other handle made owned closed
    rw [Estate.isOpen, sameHandles, ← Estate.isOpen] at closed
    exact backed.dead made owned closed

/-- What is placed is backed by the handle for which it is placed. -/
protected theorem place
    (backed : holdings.Backed)
    (orderly : holdings.Orderly)
    {parent : Option Nat}
    {handle : Handle}
    {wrapper : Wrapper}
    (placeable : holdings.Placeable parent handle wrapper) :
    (holdings.place parent handle wrapper).Backed where
  stands := by
    intro number found held owned
    rw [ledger_place]
    rw [handle?_place] at held
    split at held
    · cases held
      exact placeable.stands owned
    · exact backed.stands held owned
  dead := by
    intro number found made owned closed
    rw [ledger_place]
    rw [Estate.isOpen, handle?_place] at closed
    rcases orderly.of_made_place made with ⟨apart, old⟩ | ⟨last, rfl⟩
    · rw [if_neg apart] at closed
      exact backed.dead old owned closed
    · rw [if_pos last] at closed
      cases closed

/-- Releasing a holder gives its handle back, so no open holder keeps it. -/
protected theorem release
    (backed : holdings.Backed)
    (orderly : holdings.Orderly)
    (founded : holdings.Founded)
    {number : Nat}
    {handle : Handle}
    (held : holdings.estate.handle? number = some handle) :
    (holdings.release number handle).Backed := by
  have made := orderly.made_of_held held
  have othersApart {other : Nat} {found : Handle} (owned : found.isOwned = true)
      (heldOther : (holdings.estate.clear number).handle? other = some found) :
      holdings.estate.handle? other = some found ∧ found ≠ handle := by
    rw [Estate.handle?_clear] at heldOther
    split at heldOther
    · cases heldOther
    · next apart =>
        refine ⟨heldOther, ?_⟩
        rintro rfl
        exact apart (founded.injective (orderly.made_of_held heldOther) made owned)
  cases owned : handle.isOwned with
  | true =>
      rw [release_of_owned number owned]
      constructor
      · intro other found heldOther ownedFound
        obtain ⟨before, apart⟩ := othersApart ownedFound heldOther
        refine (Library.Ledger.stands_retire _ handle found).trans ?_
        have standing : holdings.books.ledger.stands found = true := backed.stands before ownedFound
        simp [apart, standing]
      · intro other found madeOther ownedFound closed
        refine (Library.Ledger.isLive_retire _ handle found).trans ?_
        by_cases same : found = handle
        · simp [same]
        · have apart : other ≠ number := by
            rintro rfl
            exact same (Option.some.inj (madeOther.symm.trans made))
          unfold retire at closed
          rw [Estate.isOpen, Estate.handle?_clear, if_neg apart, ← Estate.isOpen] at closed
          have gone : holdings.books.ledger.isLive found = false :=
            backed.dead madeOther ownedFound closed
          simp [gone]
  | false =>
      rw [release_of_borrowed number owned]
      constructor
      · intro other found heldOther ownedFound
        exact backed.stands (othersApart ownedFound heldOther).1 ownedFound
      · intro other found madeOther ownedFound closed
        have apart : other ≠ number := by
          rintro rfl
          rw [Option.some.inj (madeOther.symm.trans made), owned] at ownedFound
          cases ownedFound
        rw [Estate.isOpen, Estate.handle?_clear, if_neg apart, ← Estate.isOpen] at closed
        exact backed.dead madeOther ownedFound closed

end Backed

namespace Valid

/-- A grant keeps the holdings valid before anything holds the new handle. -/
protected theorem grant (valid : holdings.Valid) (kind : HandleKind) {parent : Option Handle}
    (allocated : ∀ upper, parent = some upper → upper.root ∈ holdings.ledger.handles) :
    (holdings.grant kind parent).Valid where
  accurate := valid.accurate.grant kind allocated
  orderly := valid.orderly.of_books _
  founded := valid.founded.grant valid.accurate.regular kind parent
  backed := valid.backed.grant valid.founded valid.accurate.regular kind parent

/-- A holder may be placed for what was granted. -/
protected theorem place (valid : holdings.Valid) {parent : Option Nat} {handle : Handle}
    {wrapper : Wrapper} (placeable : holdings.Placeable parent handle wrapper) :
    (holdings.place parent handle wrapper).Valid where
  accurate := by cases parent <;> exact valid.accurate
  orderly := valid.orderly.place handle wrapper placeable.open_parent
  founded := valid.founded.place valid.orderly placeable
  backed := valid.backed.place valid.orderly placeable

/-- A live handle that nobody holds and that was made from nothing can be given back. -/
protected theorem retire (valid : holdings.Valid) {handle : Handle}
    (alive : holdings.ledger.isLive handle = true)
    (orphan : holdings.ledger.parent? handle = none)
    (unheld : ∀ number, holdings.estate.handle? number ≠ some handle) :
    (holdings.retire handle).Valid where
  accurate := by
    refine valid.accurate.retire alive fun upper derived => ?_
    obtain ⟨parent, made⟩ := Library.Ledger.exists_parent_of_derived derived
    cases orphan.symm.trans made
  orderly := valid.orderly.of_books _
  founded := valid.founded.retire handle
  backed := valid.backed.retire unheld

/-- A failure may spoil what no holder has. -/
protected theorem spoil (valid : holdings.Valid) {handle : Handle}
    (unheld : ∀ number, holdings.estate.handle? number ≠ some handle) :
    (holdings.spoil handle).Valid where
  accurate := valid.accurate.spoil handle
  orderly := valid.orderly.of_books _
  founded := valid.founded.spoil handle
  backed := valid.backed.spoil unheld

/-- A misuse keeps the holdings valid. -/
protected theorem stray (valid : holdings.Valid) (handle : Handle) :
    (holdings.stray handle).Valid where
  accurate := valid.accurate.stray handle
  orderly := valid.orderly.of_books _
  founded := valid.founded.of_same_parents rfl fun _ => rfl
  backed := valid.backed.of_books (fun _ _ _ _ standing => standing) fun _ _ _ _ gone => gone

/-- So does a request that names no file. -/
protected theorem ask (valid : holdings.Valid) : holdings.ask.Valid where
  accurate := valid.accurate.ask
  orderly := valid.orderly.of_books _
  founded := valid.founded.of_same_parents rfl fun _ => rfl
  backed := valid.backed.of_books (fun _ _ _ _ standing => standing) fun _ _ _ _ gone => gone

/-- So does what a database remembers. -/
protected theorem remember (valid : holdings.Valid) (number : Nat) {change : Wrapper → Wrapper}
    (alike : ∀ wrapper, (change wrapper).Alike wrapper) :
    (holdings.remember number change).Valid where
  accurate := valid.accurate
  orderly := valid.orderly.remember number change
  founded := valid.founded.remember number alike
  backed := valid.backed.remember number change

/-- A leaf can be released: all that its handle is derived from is still live. -/
protected theorem release (valid : holdings.Valid) {number : Nat} {handle : Handle}
    (held : holdings.estate.handle? number = some handle)
    (leaf : ∀ child, holdings.estate.Adopts number child → holdings.estate.isOpen child = false) :
    (holdings.release number handle).Valid where
  accurate := by
    unfold release
    cases owned : handle.isOwned with
    | false => exact valid.accurate
    | true =>
        have alive := Library.Ledger.isLive_of_stands (valid.backed.stands held owned)
        refine valid.accurate.retire alive fun upper derived => ?_
        obtain ⟨holder, heldUpper⟩ := valid.exists_held_of_derived held derived
        have ownedUpper := Library.Ledger.isOwned_of_derived derived
        exact Library.Ledger.isLive_of_stands (valid.backed.stands heldUpper ownedUpper)
  orderly := valid.orderly.release held leaf
  founded := valid.founded.release number handle
  backed := valid.backed.release valid.orderly valid.founded held

end Valid

end Holdings
end Custody
