import Custody.Library.Diagnostic
import Mathlib.Logic.Relation

/-!
# The ledger of the library

The ledger is the list of all allocations without what stands behind them: each entry
has a handle, the handle it was made from, and whether it is live and sound.  It is
all that custody depends on.  Allocating adds an entry under a fresh handle, disposing
marks one as dead, and a failed reparse marks one as unsound.
-/

namespace Custody

namespace Handle

/-- Whether a handle has to be given back. -/
def isOwned : Handle → Bool
  | .owned _ _ => true
  | _ => false

@[simp] theorem isOwned_owned (kind : HandleKind) (number : Nat) :
    isOwned (.owned kind number) = true := rfl

@[simp] theorem isOwned_note (set : Handle) (position : Nat) :
    isOwned (.note set position) = false := rfl

@[simp] theorem isOwned_notes (diagnostic : Handle) : isOwned (.notes diagnostic) = false := rfl

/-- The owned handles are the numbered ones. -/
theorem isOwned_iff {handle : Handle} :
    handle.isOwned = true ↔ ∃ kind number, handle = .owned kind number := by
  cases handle <;> simp [isOwned]

/-- An owned handle stands for itself. -/
theorem root_eq_self {handle : Handle} (owned : handle.isOwned = true) : handle.root = handle := by
  obtain ⟨kind, number, rfl⟩ := isOwned_iff.mp owned
  rfl

/-- Every handle is borrowed from an owned one, if it is not owned. -/
theorem isOwned_root (handle : Handle) : handle.root.isOwned = true := by
  induction handle with
  | owned kind number => rfl
  | note set position inductionHypothesis => exact inductionHypothesis
  | notes diagnostic inductionHypothesis => exact inductionHypothesis

end Handle

namespace Library

/-- What is known of an allocation apart from its content. -/
structure Entry where
  /-- The handle. -/
  handle : Handle
  /-- The handle it was made from. -/
  parent : Option Handle
  /-- Whether it was not yet disposed of. -/
  live : Bool
  /-- Whether no failure has left it unusable. -/
  sound : Bool
  deriving DecidableEq

/-- The entry of an allocation. -/
def Resource.entry (resource : Resource) : Entry :=
  ⟨resource.handle, resource.parent, resource.live, resource.sound⟩

/-- The entry of a handle that was disposed of. -/
def Entry.retired (entry : Entry) : Entry := { entry with live := false }

/-- The entry of a handle that a failure has left unusable. -/
def Entry.spoiled (entry : Entry) : Entry := { entry with sound := false }

@[simp] theorem Entry.handle_retired (entry : Entry) : entry.retired.handle = entry.handle := rfl

@[simp] theorem Entry.live_retired (entry : Entry) : entry.retired.live = false := rfl

@[simp] theorem Entry.handle_spoiled (entry : Entry) : entry.spoiled.handle = entry.handle := rfl

@[simp] theorem Entry.sound_spoiled (entry : Entry) : entry.spoiled.sound = false := rfl

/-- The entries of all allocations, in order. -/
abbrev Ledger := List Entry

namespace Ledger

/-- The handles that were allocated, in order. -/
def handles (ledger : Ledger) : List Handle := ledger.map Entry.handle

/-- The entry of a handle. -/
def entryOf? (ledger : Ledger) (handle : Handle) : Option Entry :=
  ledger.find? fun entry => entry.handle = handle

/-- An owned handle is live until it is disposed of. -/
def isLive (ledger : Ledger) (handle : Handle) : Bool := (ledger.entryOf? handle).any Entry.live

/-- An owned handle stands while its entry is live and sound. -/
def stands (ledger : Ledger) (handle : Handle) : Bool :=
  (ledger.entryOf? handle).any fun entry => entry.live && entry.sound

/-- The handle that an owned handle was made from. -/
def parent? (ledger : Ledger) (handle : Handle) : Option Handle :=
  (ledger.entryOf? handle).bind Entry.parent

/-- A handle is good while its owned handle stands, and so does that behind its parent. -/
def isGood (ledger : Ledger) (handle : Handle) : Bool :=
  ledger.stands handle.root &&
    (ledger.parent? handle.root).all fun parent => ledger.stands parent.root

/-- The handle right above another one: the one it was made or borrowed from. -/
def above? (ledger : Ledger) : Handle → Option Handle
  | .owned kind number => ledger.parent? (.owned kind number)
  | .note set _ => some set
  | .notes diagnostic => some diagnostic

/-- The unit or set in whose space the locations of a diagnostic lie. -/
def space (ledger : Ledger) (handle : Handle) : Handle :=
  match handle.root with
  | .owned .diagnostic number => (ledger.parent? (.owned .diagnostic number)).getD handle.root
  | root => root

/-- One owned handle is derived from another one if it was made from it, or from something
borrowed from it, in one or more steps. -/
def Derived (ledger : Ledger) : Handle → Handle → Prop :=
  Relation.TransGen fun lower upper =>
    ∃ parent, ledger.parent? lower = some parent ∧ parent.root = upper

/-- How many handles of a kind were allocated. -/
def count (ledger : Ledger) (kind : HandleKind) : Nat :=
  ledger.countP fun entry =>
    match entry.handle with
    | .owned other _ => other = kind
    | _ => false

/-- The handle that is allocated next. -/
def fresh (ledger : Ledger) (kind : HandleKind) : Handle := .owned kind (ledger.count kind + 1)

/-- The ledger after an allocation. -/
def grant (ledger : Ledger) (kind : HandleKind) (parent : Option Handle) : Ledger :=
  ledger ++ [⟨ledger.fresh kind, parent, true, true⟩]

/-- Changes the entry of a handle. -/
def amend (change : Entry → Entry) (ledger : Ledger) (handle : Handle) : Ledger :=
  ledger.map fun entry => if entry.handle = handle then change entry else entry

/-- The ledger after a handle was disposed of. -/
def retire : Ledger → Handle → Ledger := amend Entry.retired

/-- The ledger after a failure has left a handle unusable. -/
def spoil : Ledger → Handle → Ledger := amend Entry.spoiled

/-- The live handles. -/
def live (ledger : Ledger) : List Handle := (ledger.filter Entry.live).map Entry.handle

/-- The handles that were disposed of, in the order of their allocation. -/
def dead (ledger : Ledger) : List Handle :=
  (ledger.filter fun entry => !entry.live).map Entry.handle

/-- An entry that is amended keeps its handle. -/
theorem handles_amend
    (change : Entry → Entry)
    (keeps : ∀ entry, (change entry).handle = entry.handle)
    (ledger : Ledger)
    (handle : Handle) :
    (ledger.amend change handle).handles = ledger.handles := by
  unfold handles amend
  rw [List.map_map]
  refine List.map_congr_left fun entry _ => ?_
  simp only [Function.comp_apply]
  split
  · exact keeps entry
  · rfl

/-- Only the entry of the handle is amended. -/
theorem entryOf?_amend
    (change : Entry → Entry)
    (keeps : ∀ entry, (change entry).handle = entry.handle)
    (ledger : Ledger)
    (handle other : Handle) :
    (ledger.amend change handle).entryOf? other =
      if other = handle then (ledger.entryOf? other).map change else ledger.entryOf? other := by
  induction ledger with
  | nil => simp [amend, entryOf?]
  | cons entry rest inductionHypothesis =>
      unfold amend entryOf? at inductionHypothesis ⊢
      by_cases found : entry.handle = other <;> by_cases amended : entry.handle = handle
      · simp [← found, ← amended, keeps]
      · simp [← found, amended]
      · simp only [List.map_cons, List.find?_cons, if_pos amended, keeps, found, decide_false]
        exact inductionHypothesis
      · simp only [List.map_cons, List.find?_cons, if_neg amended, found, decide_false]
        exact inductionHypothesis

/-- Changes of different parts of entries can be made in either order. -/
theorem amend_comm
    (first second : Entry → Entry)
    (keepsFirst : ∀ entry, (first entry).handle = entry.handle)
    (keepsSecond : ∀ entry, (second entry).handle = entry.handle)
    (commute : ∀ entry, first (second entry) = second (first entry))
    (ledger : Ledger)
    (handle : Handle) :
    (ledger.amend second handle).amend first handle =
      (ledger.amend first handle).amend second handle := by
  unfold amend
  rw [List.map_map, List.map_map]
  refine List.map_congr_left fun entry _ => ?_
  by_cases same : entry.handle = handle <;> simp [same, keepsFirst, keepsSecond, commute]

@[simp] theorem handles_retire (ledger : Ledger) (handle : Handle) :
    (ledger.retire handle).handles = ledger.handles :=
  handles_amend Entry.retired (fun _ => rfl) ledger handle

@[simp] theorem handles_spoil (ledger : Ledger) (handle : Handle) :
    (ledger.spoil handle).handles = ledger.handles :=
  handles_amend Entry.spoiled (fun _ => rfl) ledger handle

@[simp] theorem handles_grant (ledger : Ledger) (kind : HandleKind) (parent : Option Handle) :
    (ledger.grant kind parent).handles = ledger.handles ++ [ledger.fresh kind] := by
  simp [handles, grant]

/-- Only the entry of the handle is retired. -/
theorem entryOf?_retire (ledger : Ledger) (handle other : Handle) :
    (ledger.retire handle).entryOf? other =
      if other = handle then (ledger.entryOf? other).map Entry.retired else ledger.entryOf? other :=
  entryOf?_amend Entry.retired (fun _ => rfl) ledger handle other

/-- Only the entry of the handle is spoiled. -/
theorem entryOf?_spoil (ledger : Ledger) (handle other : Handle) :
    (ledger.spoil handle).entryOf? other =
      if other = handle then (ledger.entryOf? other).map Entry.spoiled else ledger.entryOf? other :=
  entryOf?_amend Entry.spoiled (fun _ => rfl) ledger handle other

/-- A handle may be spoiled before or after it is given back. -/
theorem retire_spoil_comm (ledger : Ledger) (handle : Handle) :
    (ledger.spoil handle).retire handle = (ledger.retire handle).spoil handle :=
  amend_comm Entry.retired Entry.spoiled (fun _ => rfl) (fun _ => rfl) (fun _ => rfl) ledger handle

@[simp] theorem parent?_retire (ledger : Ledger) (handle other : Handle) :
    (ledger.retire handle).parent? other = ledger.parent? other := by
  unfold parent?
  rw [entryOf?_retire]
  split
  · cases ledger.entryOf? other <;> rfl
  · rfl

@[simp] theorem parent?_spoil (ledger : Ledger) (handle other : Handle) :
    (ledger.spoil handle).parent? other = ledger.parent? other := by
  unfold parent?
  rw [entryOf?_spoil]
  split
  · cases ledger.entryOf? other <;> rfl
  · rfl

/-- Only the handle that is given back is dead from then on. -/
theorem isLive_retire (ledger : Ledger) (handle other : Handle) :
    (ledger.retire handle).isLive other = (!decide (other = handle) && ledger.isLive other) := by
  unfold isLive
  rw [entryOf?_retire]
  by_cases same : other = handle
  · cases ledger.entryOf? other <;> simp [same]
  · simp [same]

@[simp] theorem isLive_spoil (ledger : Ledger) (handle other : Handle) :
    (ledger.spoil handle).isLive other = ledger.isLive other := by
  unfold isLive
  rw [entryOf?_spoil]
  split
  · cases ledger.entryOf? other <;> rfl
  · rfl

/-- What is given back does not stand any more. -/
theorem stands_retire (ledger : Ledger) (handle other : Handle) :
    (ledger.retire handle).stands other = (!decide (other = handle) && ledger.stands other) := by
  unfold stands
  rw [entryOf?_retire]
  by_cases same : other = handle
  · cases ledger.entryOf? other <;> simp [same]
  · simp [same]

/-- What is spoiled does not stand any more. -/
theorem stands_spoil (ledger : Ledger) (handle other : Handle) :
    (ledger.spoil handle).stands other = (!decide (other = handle) && ledger.stands other) := by
  unfold stands
  rw [entryOf?_spoil]
  by_cases same : other = handle
  · cases ledger.entryOf? other <;> simp [same]
  · simp [same]

/-- Just the handles that were allocated have entries. -/
theorem entryOf?_eq_none_iff {ledger : Ledger} {handle : Handle} :
    ledger.entryOf? handle = none ↔ handle ∉ ledger.handles := by
  simp [entryOf?, handles]

/-- Among distinct handles, an entry is found under its handle. -/
theorem entryOf?_of_mem {ledger : Ledger} (distinct : ledger.handles.Nodup) {entry : Entry}
    (member : entry ∈ ledger) : ledger.entryOf? entry.handle = some entry := by
  induction ledger with
  | nil => cases member
  | cons first rest inductionHypothesis =>
      unfold handles at distinct
      rw [List.map_cons, List.nodup_cons] at distinct
      unfold entryOf?
      rcases List.mem_cons.mp member with rfl | later
      · simp
      · have other : first.handle ≠ entry.handle := by
          intro same
          exact distinct.1 (same ▸ List.mem_map_of_mem later)
        rw [List.find?_cons_of_neg (by simpa using other)]
        exact inductionHypothesis distinct.2 later

/-- What is derived from something was allocated. -/
theorem mem_handles_of_parent? {ledger : Ledger} {handle parent : Handle}
    (made : ledger.parent? handle = some parent) : handle ∈ ledger.handles := by
  rcases Classical.em (handle ∈ ledger.handles) with present | absent
  · exact present
  · rw [parent?, entryOf?_eq_none_iff.mpr absent] at made
    cases made

/-- What stands is live. -/
theorem isLive_of_stands {ledger : Ledger} {handle : Handle}
    (standing : ledger.stands handle = true) : ledger.isLive handle = true := by
  unfold stands at standing
  unfold isLive
  cases found : ledger.entryOf? handle with
  | none => simp [found] at standing
  | some entry =>
      simp only [found, Option.any_some, Bool.and_eq_true] at standing ⊢
      exact standing.1

@[simp] theorem live_grant (ledger : Ledger) (kind : HandleKind) (parent : Option Handle) :
    (ledger.grant kind parent).live = ledger.live ++ [ledger.fresh kind] := by
  simp [live, grant]

@[simp] theorem dead_grant (ledger : Ledger) (kind : HandleKind) (parent : Option Handle) :
    (ledger.grant kind parent).dead = ledger.dead := by
  simp [dead, grant]

/-- The live handles lose the one that is given back. -/
theorem live_retire (ledger : Ledger) (handle : Handle) :
    (ledger.retire handle).live = ledger.live.filter fun other => other ≠ handle := by
  unfold live retire amend
  induction ledger with
  | nil => rfl
  | cons entry rest inductionHypothesis =>
      rw [List.map_cons]
      by_cases same : entry.handle = handle <;> cases alive : entry.live <;>
        simpa [same, alive] using inductionHypothesis

/-- Choosing entries without regard to soundness, one finds the same handles after a failure. -/
theorem filter_handles_spoil
    (keep : Entry → Bool)
    (blind : ∀ entry, keep entry.spoiled = keep entry)
    (ledger : Ledger) (handle : Handle) :
    ((ledger.spoil handle).filter keep).map Entry.handle =
      (ledger.filter keep).map Entry.handle := by
  unfold spoil amend
  induction ledger with
  | nil => rfl
  | cons entry rest inductionHypothesis =>
      rw [List.map_cons]
      by_cases same : entry.handle = handle <;> cases kept : keep entry <;>
        simpa [same, kept, blind] using inductionHypothesis

@[simp] theorem live_spoil (ledger : Ledger) (handle : Handle) :
    (ledger.spoil handle).live = ledger.live :=
  filter_handles_spoil Entry.live (fun _ => rfl) ledger handle

@[simp] theorem dead_spoil (ledger : Ledger) (handle : Handle) :
    (ledger.spoil handle).dead = ledger.dead :=
  filter_handles_spoil (fun entry => !entry.live) (fun _ => rfl) ledger handle

/-- What is derived from something was made from something. -/
theorem exists_parent_of_derived {ledger : Ledger} {lower upper : Handle}
    (derived : ledger.Derived lower upper) : ∃ parent, ledger.parent? lower = some parent := by
  obtain ⟨_, ⟨parent, made, _⟩, _⟩ := Relation.TransGen.head'_iff.mp derived
  exact ⟨parent, made⟩

/-- Handles are derived from owned ones only. -/
theorem isOwned_of_derived {ledger : Ledger} {lower upper : Handle}
    (derived : ledger.Derived lower upper) : upper.isOwned = true := by
  obtain ⟨_, _, parent, _, rfl⟩ := Relation.TransGen.tail'_iff.mp derived
  exact parent.isOwned_root

/-- What is derived from what depends on the parents alone. -/
theorem derived_congr {ledger later : Ledger}
    (same : ∀ handle, later.parent? handle = ledger.parent? handle) :
    later.Derived = ledger.Derived := by
  unfold Derived
  simp only [same]

/-- The space of a handle depends only on what its owned handle was made from. -/
theorem space_congr {ledger later : Ledger} {handle : Handle}
    (same : later.parent? handle.root = ledger.parent? handle.root) :
    later.space handle = ledger.space handle := by
  unfold space
  split
  · next number rooted =>
      rw [← rooted, same]
  · rfl

/-- A diagnostic that was made from a unit lies in the space of the unit. -/
theorem space_of_parent? {ledger : Ledger} {number : Nat} {upper : Handle}
    (made : ledger.parent? (.owned .diagnostic number) = some upper) :
    ledger.space (.owned .diagnostic number) = upper := by
  simp [space, made]

/-- What is above a handle depends only on what its owned handle was made from. -/
theorem above?_congr {ledger later : Ledger} {handle : Handle}
    (same : later.parent? handle.root = ledger.parent? handle.root) :
    later.above? handle = ledger.above? handle := by
  cases handle with
  | owned kind number => exact same
  | note set position => rfl
  | notes diagnostic => rfl

/-- A ledger is regular when its handles are owned, distinct and numbered by kind, and everything
was made from what had been allocated. -/
structure Regular (ledger : Ledger) : Prop where
  /-- No handle was allocated twice. -/
  nodup : ledger.handles.Nodup
  /-- Only owned handles are allocated. -/
  owned : ∀ handle ∈ ledger.handles, handle.isOwned = true
  /-- The number of a handle is at most the count of its kind. -/
  numbered : ∀ kind number, Handle.owned kind number ∈ ledger.handles → number ≤ ledger.count kind
  /-- What a handle was made from is borrowed from an allocated handle. -/
  rooted : ∀ handle parent, ledger.parent? handle = some parent → parent.root ∈ ledger.handles

/-- An empty ledger is regular. -/
theorem regular_nil : Regular [] where
  nodup := List.nodup_nil
  owned := by simp [handles]
  numbered := by simp [handles]
  rooted := by simp [parent?, entryOf?]

/-- How many of a kind there are depends on the handles alone. -/
theorem count_eq_of_handles_eq {ledger later : Ledger} (same : later.handles = ledger.handles)
    (kind : HandleKind) : later.count kind = ledger.count kind := by
  have counted (ledger : Ledger) : ledger.count kind = ledger.handles.countP fun handle =>
      match handle with
      | .owned other _ => other = kind
      | _ => false := by
    unfold count handles
    rw [List.countP_map]
    rfl
  rw [counted, counted, same]

/-- A grant adds one to the count of its kind. -/
theorem count_grant (ledger : Ledger) (kind other : HandleKind) (parent : Option Handle) :
    (ledger.grant kind parent).count other =
      ledger.count other + if kind = other then 1 else 0 := by
  simp [count, grant, fresh, List.countP_append]

namespace Regular

variable {ledger : Ledger}

/-- In a regular ledger an entry is found under its handle. -/
theorem entryOf?_of_mem (regular : ledger.Regular) {entry : Entry} (member : entry ∈ ledger) :
    ledger.entryOf? entry.handle = some entry := Ledger.entryOf?_of_mem regular.nodup member

/-- The next handle was not allocated before. -/
theorem fresh_notMem (regular : ledger.Regular) (kind : HandleKind) :
    ledger.fresh kind ∉ ledger.handles := by
  intro member
  have bounded := regular.numbered kind (ledger.count kind + 1) member
  omega

/-- The new entry is found under the new handle, and nothing else changes. -/
theorem entryOf?_grant
    (regular : ledger.Regular)
    (kind : HandleKind)
    (parent : Option Handle)
    (handle : Handle) :
    (ledger.grant kind parent).entryOf? handle =
      if handle = ledger.fresh kind then some ⟨ledger.fresh kind, parent, true, true⟩
      else ledger.entryOf? handle := by
  unfold entryOf? grant
  rw [List.find?_append]
  by_cases same : handle = ledger.fresh kind
  · have absent := entryOf?_eq_none_iff.mpr (regular.fresh_notMem kind)
    unfold entryOf? at absent
    simp [same, absent]
  · cases ledger.find? _ <;> simp [same, Ne.symm same]

/-- The new handle has the parent that it was granted with. -/
theorem parent?_grant
    (regular : ledger.Regular)
    (kind : HandleKind)
    (parent : Option Handle)
    (handle : Handle) :
    (ledger.grant kind parent).parent? handle =
      if handle = ledger.fresh kind then parent else ledger.parent? handle := by
  unfold parent?
  rw [regular.entryOf?_grant]
  split <;> rfl

/-- The new handle is live. -/
theorem isLive_grant
    (regular : ledger.Regular)
    (kind : HandleKind)
    (parent : Option Handle)
    (handle : Handle) :
    (ledger.grant kind parent).isLive handle =
      (decide (handle = ledger.fresh kind) || ledger.isLive handle) := by
  unfold isLive
  rw [regular.entryOf?_grant]
  by_cases same : handle = ledger.fresh kind <;> simp [same]

/-- The new handle stands. -/
theorem stands_grant
    (regular : ledger.Regular)
    (kind : HandleKind)
    (parent : Option Handle)
    (handle : Handle) :
    (ledger.grant kind parent).stands handle =
      (decide (handle = ledger.fresh kind) || ledger.stands handle) := by
  unfold stands
  rw [regular.entryOf?_grant]
  by_cases same : handle = ledger.fresh kind <;> simp [same]

/-- A grant numbers its handle one up and derives it from what was there. -/
protected theorem grant
    (regular : ledger.Regular)
    (kind : HandleKind)
    {parent : Option Handle}
    (allocated : ∀ upper, parent = some upper → upper.root ∈ ledger.handles) :
    (ledger.grant kind parent).Regular where
  nodup := by
    rw [handles_grant, List.nodup_append]
    refine ⟨regular.nodup, by simp, ?_⟩
    intro handle old other new same
    rw [List.mem_singleton] at new
    exact regular.fresh_notMem kind (new ▸ same ▸ old)
  owned := by
    intro handle member
    rw [handles_grant, List.mem_append, List.mem_singleton] at member
    rcases member with old | rfl
    · exact regular.owned handle old
    · rfl
  numbered := by
    intro other number member
    rw [handles_grant, List.mem_append, List.mem_singleton] at member
    rw [count_grant]
    rcases member with old | new
    · have bounded := regular.numbered other number old
      omega
    · cases new
      simp
  rooted := by
    intro handle upper made
    rw [regular.parent?_grant] at made
    rw [handles_grant, List.mem_append]
    split at made
    · exact .inl (allocated upper made)
    · exact .inl (regular.rooted handle upper made)

/-- Regularity depends only on the handles and on what they were made from. -/
theorem of_same
    (regular : ledger.Regular)
    {later : Ledger}
    (sameHandles : later.handles = ledger.handles)
    (sameParents : ∀ handle, later.parent? handle = ledger.parent? handle) :
    later.Regular where
  nodup := sameHandles ▸ regular.nodup
  owned := sameHandles ▸ regular.owned
  numbered := by
    intro kind number member
    rw [count_eq_of_handles_eq sameHandles]
    exact regular.numbered kind number (sameHandles ▸ member)
  rooted := by
    intro handle parent made
    rw [sameHandles]
    exact regular.rooted handle parent (sameParents handle ▸ made)

/-- What is given back keeps its place in the ledger. -/
protected theorem retire (regular : ledger.Regular) (handle : Handle) :
    (ledger.retire handle).Regular :=
  regular.of_same (handles_retire ledger handle) (parent?_retire ledger handle)

/-- What is spoiled keeps its place in the ledger. -/
protected theorem spoil (regular : ledger.Regular) (handle : Handle) :
    (ledger.spoil handle).Regular :=
  regular.of_same (handles_spoil ledger handle) (parent?_spoil ledger handle)

/-- The live handles are those whose entries say so. -/
theorem mem_live_iff (regular : ledger.Regular) {handle : Handle} :
    handle ∈ ledger.live ↔ ledger.isLive handle = true := by
  unfold live isLive
  rw [List.mem_map]
  constructor
  · rintro ⟨entry, member, rfl⟩
    rw [List.mem_filter] at member
    rw [regular.entryOf?_of_mem member.1]
    exact member.2
  · intro alive
    cases found : ledger.entryOf? handle with
    | none => simp [found] at alive
    | some entry =>
        have stored := List.mem_of_find?_eq_some found
        have named := List.find?_some found
        rw [found] at alive
        exact ⟨entry, List.mem_filter.mpr ⟨stored, alive⟩, of_decide_eq_true named⟩

/-- The dead handles were allocated and are not live. -/
theorem mem_dead_iff (regular : ledger.Regular) {handle : Handle} :
    handle ∈ ledger.dead ↔ handle ∈ ledger.handles ∧ ledger.isLive handle = false := by
  unfold dead handles isLive
  rw [List.mem_map, List.mem_map]
  constructor
  · rintro ⟨entry, member, rfl⟩
    rw [List.mem_filter] at member
    rw [regular.entryOf?_of_mem member.1]
    exact ⟨⟨entry, member.1, rfl⟩, by simpa using member.2⟩
  · rintro ⟨⟨entry, member, rfl⟩, gone⟩
    rw [regular.entryOf?_of_mem member] at gone
    exact ⟨entry, List.mem_filter.mpr ⟨member, by simpa using gone⟩, rfl⟩

/-- What is live was allocated. -/
theorem mem_handles_of_isLive (regular : ledger.Regular) {handle : Handle}
    (alive : ledger.isLive handle = true) : handle ∈ ledger.handles := by
  have member := regular.mem_live_iff.mpr alive
  obtain ⟨entry, stored, rfl⟩ := List.mem_map.mp member
  exact List.mem_map_of_mem (List.mem_filter.mp stored).1

/-- No live handle is listed twice. -/
theorem nodup_live (regular : ledger.Regular) : ledger.live.Nodup :=
  regular.nodup.sublist (List.filter_sublist.map Entry.handle)

/-- No dead handle is listed twice. -/
theorem nodup_dead (regular : ledger.Regular) : ledger.dead.Nodup :=
  regular.nodup.sublist (List.filter_sublist.map Entry.handle)

/-- A handle that is disposed of joins the dead ones. -/
theorem dead_retire_perm (regular : ledger.Regular) {handle : Handle}
    (alive : ledger.isLive handle = true) :
    (ledger.retire handle).dead.Perm (ledger.dead ++ [handle]) := by
  have notDead : handle ∉ ledger.dead := by
    rw [regular.mem_dead_iff, alive]
    simp
  have distinct : (ledger.dead ++ [handle]).Nodup := by
    rw [List.nodup_append]
    refine ⟨regular.nodup_dead, by simp, ?_⟩
    intro first old second new same
    rw [List.mem_singleton] at new
    exact notDead (new ▸ same ▸ old)
  rw [List.perm_ext_iff_of_nodup (regular.retire handle).nodup_dead distinct]
  intro other
  rw [(regular.retire handle).mem_dead_iff, List.mem_append, regular.mem_dead_iff,
    List.mem_singleton, handles_retire, isLive_retire]
  by_cases same : other = handle
  · subst same
    simp [regular.mem_handles_of_isLive alive]
  · simp [same]

/-- What was allocated before is derived from the same handles after an allocation. -/
theorem derived_of_derived_grant
    (regular : ledger.Regular)
    {kind : HandleKind}
    {parent : Option Handle}
    {lower upper : Handle}
    (derived : (ledger.grant kind parent).Derived lower upper)
    (old : lower ∈ ledger.handles) :
    ledger.Derived lower upper := by
  have back {first second : Handle}
      (made : ∃ parent', (ledger.grant kind parent).parent? first = some parent' ∧
        parent'.root = second)
      (member : first ∈ ledger.handles) :
      (∃ parent', ledger.parent? first = some parent' ∧ parent'.root = second) ∧
        second ∈ ledger.handles := by
    obtain ⟨above, made, rfl⟩ := made
    have other : first ≠ ledger.fresh kind :=
      fun same => regular.fresh_notMem kind (same ▸ member)
    rw [regular.parent?_grant, if_neg other] at made
    exact ⟨⟨above, made, rfl⟩, regular.rooted first above made⟩
  induction derived using Relation.TransGen.head_induction_on with
  | single made => exact .single (back made old).1
  | head made _ inductionHypothesis =>
      obtain ⟨first, member⟩ := back made old
      exact .head first (inductionHypothesis member)

end Regular

end Ledger

/-- The handle that an effect gives back. -/
def Effect.disposed? : Effect → Option Handle
  | .dispose handle _ => some handle
  | _ => none

/-- A request to parse that names no file. -/
def Effect.isNameless : Effect → Bool
  | .parse _ _ none _ _ _ => true
  | _ => false

namespace State

/-- The ledger. -/
def ledger (state : State) : Ledger := state.resources.map Resource.entry

/-- The handles that were given back, in order. -/
def disposals (state : State) : List Handle := state.effects.filterMap Effect.disposed?

/-- How often a unit was asked for without naming a file. -/
def namelessCount (state : State) : Nat := state.effects.countP Effect.isNameless

/-- The entry of a handle is read off its allocation. -/
theorem entryOf?_ledger (state : State) (handle : Handle) :
    Ledger.entryOf? state.ledger handle = (state.resource? handle).map Resource.entry := by
  unfold Ledger.entryOf? ledger resource?
  rw [List.find?_map]
  rfl

/-- The parent of a handle is read off its allocation. -/
theorem parent?_ledger (state : State) (handle : Handle) :
    Ledger.parent? state.ledger handle = (state.resource? handle).bind Resource.parent := by
  unfold Ledger.parent?
  rw [entryOf?_ledger]
  cases state.resource? handle <;> rfl

/-- Whether a handle stands is read off its allocation. -/
theorem stands_ledger (state : State) (handle : Handle) :
    Ledger.stands state.ledger handle =
      (state.resource? handle).any fun resource => resource.live && resource.sound := by
  unfold Ledger.stands
  rw [entryOf?_ledger]
  cases state.resource? handle <;> rfl

/-- Whether a handle is good can be read off the ledger. -/
theorem isGood_eq (state : State) (handle : Handle) :
    state.isGood handle = Ledger.isGood state.ledger handle := by
  induction handle with
  | owned kind number =>
      unfold isGood Ledger.isGood
      rw [Handle.root_owned, stands_ledger, parent?_ledger]
      simp only [stands_ledger]
  | note set position inductionHypothesis => exact inductionHypothesis
  | notes diagnostic inductionHypothesis => exact inductionHypothesis

/-- The space of a diagnostic can be read off the ledger. -/
theorem diagnosticSpace_eq (state : State) (handle : Handle) :
    state.diagnosticSpace handle = Ledger.space state.ledger handle := by
  unfold diagnosticSpace Ledger.space
  cases handle.root with
  | owned kind number => cases kind <;> simp [parent?_ledger]
  | note set position => rfl
  | notes diagnostic => rfl

/-- The library numbers handles by how many of a kind there are. -/
theorem allocated_eq (state : State) (kind : HandleKind) :
    state.allocated kind = Ledger.count state.ledger kind := by
  unfold allocated Ledger.count ledger
  rw [List.countP_map]
  rfl

/-- What the library tells to be live is live in the ledger. -/
theorem live_eq (state : State) : state.live = Ledger.live state.ledger := by
  unfold live Ledger.live ledger
  rw [List.filter_map, List.map_map]
  rfl

/-- Changing an allocation changes its entry. -/
theorem ledger_modifyResource
    (change : Resource → Resource)
    (amended : Entry → Entry)
    (agrees : ∀ resource, (change resource).entry = amended resource.entry)
    (state : State)
    (handle : Handle) :
    (state.modifyResource handle change).ledger = state.ledger.amend amended handle := by
  unfold ledger modifyResource Ledger.amend
  rw [List.map_map, List.map_map]
  refine List.map_congr_left fun resource _ => ?_
  simp only [Function.comp_apply]
  have same : resource.entry.handle = resource.handle := rfl
  rw [same]
  split
  · exact agrees resource
  · rfl

end State
end Library
end Custody
