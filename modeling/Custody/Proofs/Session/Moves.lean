import Custody.Proofs.Session.Changes

/-!
# Moves

A move is what an operation of a session can do to the holdings when nothing goes
wrong: it makes a holder for a new or a borrowed handle, gives an unwanted handle
back at once, releases a leaf, or remembers commands.  A course is a sequence of
moves.  It keeps holdings valid, misuses no handle and loses none.
-/

namespace Custody

/-- The holders that are made for a handle without a parent. -/
inductive Wrapper.Root : HandleKind → Wrapper → Prop
  | index : Root .index .index
  | set : Root .set (.set none)
  | database (directory : Text) (memo : Option (Nat × List CompileCommand)) :
      Root .database (.database directory memo)

/-- The holders that are made for a handle with a parent. -/
inductive Wrapper.Branch (parent : Nat) (upper : Handle) : HandleKind → Wrapper → Prop
  | unit (overlay : Option UnsavedFile) : Branch parent upper .unit (.unit parent overlay)
  | action : Branch parent upper .action (.action parent)
  | diagnostic (ofUnit : upper.sort = .unit) : Branch parent upper .diagnostic (.diagnostic parent)

/-- The holders that are made for a borrowed handle. -/
inductive Wrapper.Loan (owner : Nat) (upper : Handle) : Handle → Wrapper → Prop
  | note (ofSet : upper.sort = .set) (position : Nat) :
      Loan owner upper (.note upper position) (.diagnostic owner)
  | notes (ofDiagnostic : upper.sort = .diagnostic) :
      Loan owner upper (.notes upper) (.set (some owner))

namespace Holdings

/-- The live handles that no holder was made for. -/
def lost (holdings : Holdings) : List Handle :=
  holdings.ledger.live.filter fun handle => handle ∉ holdings.made

/-- One change of the holdings. -/
inductive Move (holdings : Holdings) : Holdings → Prop
  | found {kind : HandleKind} {wrapper : Wrapper} (root : Wrapper.Root kind wrapper) :
      Move holdings ((holdings.grant kind none).place none (holdings.ledger.fresh kind) wrapper)
  | derive {parent : Nat} {upper : Handle} {kind : HandleKind} {wrapper : Wrapper}
      (held : holdings.estate.handle? parent = some upper)
      (branch : Wrapper.Branch parent upper kind wrapper) :
      Move holdings
        ((holdings.grant kind (some upper)).place (some parent) (holdings.ledger.fresh kind)
          wrapper)
  | borrow {parent owner : Nat} {upper handle : Handle} {wrapper : Wrapper}
      (held : holdings.estate.handle? parent = some upper)
      (spaced : holdings.made[owner]? = some (holdings.ledger.space upper))
      (loan : Wrapper.Loan owner upper handle wrapper) :
      Move holdings (holdings.place (some parent) handle wrapper)
  | pass (kind : HandleKind) :
      Move holdings ((holdings.grant kind none).retire (holdings.ledger.fresh kind))
  | release {number : Nat} {handle : Handle}
      (held : holdings.estate.handle? number = some handle)
      (leaf : ∀ child, holdings.estate.Adopts number child → holdings.estate.isOpen child = false) :
      Move holdings (holdings.release number handle)
  | remember (number : Nat) {change : Wrapper → Wrapper}
      (alike : ∀ wrapper, (change wrapper).Alike wrapper)
      (others : ∀ wrapper, wrapper.sort ≠ .database → change wrapper = wrapper) :
      Move holdings (holdings.remember number change)

/-- Any number of changes of the holdings. -/
def Course : Holdings → Holdings → Prop := Relation.ReflTransGen Move

variable {holdings later : Holdings}

section Granted

variable (valid : holdings.Valid) (kind : HandleKind) {parent : Option Handle}
include valid

/-- The handle that is granted next was not made for any holder. -/
theorem Valid.fresh_notMem_made : holdings.ledger.fresh kind ∉ holdings.made := by
  intro member
  obtain ⟨number, made⟩ := List.mem_iff_getElem?.mp member
  exact valid.accurate.regular.fresh_notMem kind (valid.founded.root_mem made)

theorem Valid.stands_fresh :
    (holdings.grant kind parent).ledger.stands (holdings.ledger.fresh kind) = true := by
  refine (valid.accurate.regular.stands_grant kind parent _).trans ?_
  simp

theorem Valid.parent?_fresh :
    (holdings.grant kind parent).ledger.parent? (holdings.ledger.fresh kind) = parent := by
  refine (valid.accurate.regular.parent?_grant kind parent _).trans ?_
  simp

theorem Valid.good_fresh :
    (holdings.grant kind none).ledger.isGood (holdings.ledger.fresh kind) = true := by
  unfold Library.Ledger.isGood
  have rooted : (holdings.ledger.fresh kind).root = holdings.ledger.fresh kind := rfl
  rw [rooted, valid.stands_fresh, valid.parent?_fresh]
  rfl

omit valid in
theorem root_fresh_mem :
    (holdings.ledger.fresh kind).root ∈ (holdings.grant kind parent).ledger.handles :=
  (Library.Ledger.handles_grant _ _ _).symm ▸ List.mem_append_right _ (List.mem_singleton.mpr rfl)

end Granted

/-- A holder without a parent can be placed for a new handle. -/
theorem Valid.placeable_root (valid : holdings.Valid) {kind : HandleKind} {wrapper : Wrapper}
    (root : Wrapper.Root kind wrapper) :
    (holdings.grant kind none).Placeable none (holdings.ledger.fresh kind) wrapper where
  open_parent := by simp
  root_mem := root_fresh_mem kind
  unheld := fun _ => valid.fresh_notMem_made kind
  stands := fun _ => valid.stands_fresh kind
  proper := True.intro
  sort_eq := by cases root <;> rfl
  above := by
    intro upper above
    cases (valid.parent?_fresh kind).symm.trans above
  indexed := by cases root <;> simp [Wrapper.index?]
  spaced := by
    intro owner belongs
    cases root with
    | index => cases belongs
    | database => cases belongs
    | set =>
        cases belongs
        have length : holdings.made.length = holdings.estate.size := valid.orderly.made_length
        change (holdings.made ++ _)[holdings.estate.size]? = _
        rw [← length, List.getElem?_concat_length]
        rfl
  unit_above := by
    intro count same
    cases root <;> cases same

/-- A holder with a parent can be placed for a new handle. -/
theorem Valid.placeable_branch (valid : holdings.Valid) {parent : Nat} {upper : Handle}
    {kind : HandleKind} {wrapper : Wrapper}
    (held : holdings.estate.handle? parent = some upper)
    (branch : Wrapper.Branch parent upper kind wrapper) :
    (holdings.grant kind (some upper)).Placeable (some parent) (holdings.ledger.fresh kind)
      wrapper where
  open_parent := by
    rintro _ ⟨⟩
    exact Estate.isOpen_iff.mpr ⟨upper, held⟩
  root_mem := root_fresh_mem kind
  unheld := fun _ => valid.fresh_notMem_made kind
  stands := fun _ => valid.stands_fresh kind
  proper := True.intro
  sort_eq := by cases branch <;> rfl
  above := by
    intro above made
    have same : some upper = some above := (valid.parent?_fresh kind).symm.trans made
    exact ⟨parent, rfl, same ▸ valid.orderly.made_of_held held⟩
  indexed := by cases branch <;> simp [Wrapper.index?]
  spaced := by
    intro owner belongs
    cases branch with
    | unit => cases belongs
    | action => cases belongs
    | diagnostic =>
        cases belongs
        refine getElem?_concat_of_some ((valid.orderly.made_of_held held).trans ?_)
        exact congrArg some (Library.Ledger.space_of_parent? (valid.parent?_fresh .diagnostic)).symm
  unit_above := by
    intro count same
    cases branch with
    | unit => cases same
    | action => cases same
    | diagnostic ofUnit =>
        obtain ⟨unit, rfl⟩ := Handle.exists_eq_owned_unit ofUnit
        exact ⟨unit, valid.parent?_fresh .diagnostic⟩

/-- A holder can be placed for a borrowed handle. -/
theorem Valid.placeable_loan (valid : holdings.Valid) {parent owner : Nat} {upper handle : Handle}
    {wrapper : Wrapper}
    (held : holdings.estate.handle? parent = some upper)
    (spaced : holdings.made[owner]? = some (holdings.ledger.space upper))
    (loan : Wrapper.Loan owner upper handle wrapper) :
    holdings.Placeable (some parent) handle wrapper where
  open_parent := by
    rintro _ ⟨⟩
    exact Estate.isOpen_iff.mpr ⟨upper, held⟩
  root_mem := by
    have member := valid.founded.root_mem (valid.orderly.made_of_held held)
    cases loan <;> exact member
  unheld := by cases loan <;> simp
  stands := by cases loan <;> simp
  proper := by
    cases loan with
    | note ofSet => exact ofSet
    | notes ofDiagnostic => exact ofDiagnostic
  sort_eq := by cases loan <;> rfl
  above := by
    intro above made
    have same : upper = above := by cases loan <;> exact Option.some.inj made
    exact ⟨parent, rfl, same ▸ valid.orderly.made_of_held held⟩
  indexed := by cases loan <;> simp [Wrapper.index?]
  spaced := by
    intro other belongs
    refine getElem?_concat_of_some ?_
    cases loan <;> cases belongs <;> exact spaced
  unit_above := by
    intro count same
    cases loan <;> cases same

section Lost

theorem mem_lost_iff (valid : holdings.Valid) {handle : Handle} :
    handle ∈ holdings.lost ↔ holdings.ledger.isLive handle = true ∧ handle ∉ holdings.made := by
  unfold lost
  rw [List.mem_filter, valid.accurate.regular.mem_live_iff, decide_eq_true_iff]

theorem filter_lost_of_notMem {handle : Handle} (absent : handle ∉ holdings.lost) :
    (holdings.lost.filter fun other => other ≠ handle) = holdings.lost := by
  rw [List.filter_eq_self]
  intro other member
  rw [decide_eq_true_iff]
  rintro rfl
  exact absent member

theorem Valid.fresh_notMem_lost (valid : holdings.Valid) (kind : HandleKind) :
    holdings.ledger.fresh kind ∉ holdings.lost := by
  rw [mem_lost_iff valid]
  rintro ⟨alive, _⟩
  have regular := valid.accurate.regular
  exact regular.fresh_notMem kind (regular.mem_handles_of_isLive alive)

/-- An allocated handle is lost until a holder is placed for it. -/
theorem lost_grant (valid : holdings.Valid) (kind : HandleKind) (parent : Option Handle) :
    (holdings.grant kind parent).lost = holdings.lost ++ [holdings.ledger.fresh kind] := by
  change List.filter _ (holdings.ledger.grant kind parent).live = _
  rw [Library.Ledger.live_grant, List.filter_append]
  have kept : [holdings.ledger.fresh kind].filter (fun handle => handle ∉ holdings.made) =
      [holdings.ledger.fresh kind] := by
    simp [valid.fresh_notMem_made kind]
  exact congrArg (holdings.lost ++ ·) kept

theorem lost_place (parent : Option Nat) (handle : Handle) (wrapper : Wrapper) :
    (holdings.place parent handle wrapper).lost =
      holdings.lost.filter fun other => other ≠ handle := by
  have same : (holdings.place parent handle wrapper).lost =
      holdings.ledger.live.filter fun other => other ∉ holdings.made ++ [handle] := by
    cases parent <;> rfl
  rw [same, lost, List.filter_filter]
  refine List.filter_congr fun other _ => ?_
  simp [and_comm]

theorem lost_retire (handle : Handle) :
    (holdings.retire handle).lost = holdings.lost.filter fun other => other ≠ handle := by
  change List.filter _ (holdings.ledger.retire handle).live = _
  rw [Library.Ledger.live_retire, lost, List.filter_filter, List.filter_filter]
  refine List.filter_congr fun other _ => ?_
  exact Bool.and_comm _ _

/-- What is granted and then placed or given back is not lost. -/
theorem filter_lost_grant (valid : holdings.Valid) (kind : HandleKind) (parent : Option Handle) :
    ((holdings.grant kind parent).lost.filter fun other => other ≠ holdings.ledger.fresh kind) =
      holdings.lost := by
  rw [lost_grant valid, List.filter_append, filter_lost_of_notMem (valid.fresh_notMem_lost kind)]
  simp

theorem lost_release (valid : holdings.Valid) {number : Nat} {handle : Handle}
    (held : holdings.estate.handle? number = some handle) :
    (holdings.release number handle).lost = holdings.lost := by
  have notLost : handle ∉ holdings.lost := by
    rw [mem_lost_iff valid]
    exact fun found => found.2 (List.mem_of_getElem? (valid.orderly.made_of_held held))
  cases owned : handle.isOwned with
  | false =>
      rw [release_of_borrowed number owned]
      rfl
  | true =>
      rw [release_of_owned number owned, lost_retire]
      exact filter_lost_of_notMem notLost

end Lost

/-- What a course of moves keeps: handles that were made stay listed, nothing is misused or lost,
and the library answers as before. -/
structure Faithful (before after : Holdings) : Prop where
  /-- No holder is forgotten. -/
  made : before.made <+: after.made
  /-- No handle is misused. -/
  strays : after.books.strays = before.books.strays
  /-- No unit is asked for without naming a file. -/
  nameless : after.books.nameless = before.books.nameless
  /-- The library answers as before. -/
  reply : after.books.reply = before.books.reply
  /-- No handle is lost. -/
  lost : after.lost = before.lost

namespace Faithful

theorem refl (holdings : Holdings) : holdings.Faithful holdings :=
  ⟨List.prefix_rfl, rfl, rfl, rfl, rfl⟩

theorem trans {first second third : Holdings} (left : first.Faithful second)
    (right : second.Faithful third) : first.Faithful third :=
  ⟨left.made.trans right.made, right.strays.trans left.strays, right.nameless.trans left.nameless,
    right.reply.trans left.reply, right.lost.trans left.lost⟩

end Faithful

theorem made_prefix_place (holdings : Holdings) (parent : Option Nat) (handle : Handle)
    (wrapper : Wrapper) :
    holdings.made <+: (holdings.place parent handle wrapper).made := by
  cases parent <;> exact List.prefix_append _ _

theorem books_place (holdings : Holdings) (parent : Option Nat) (handle : Handle)
    (wrapper : Wrapper) :
    (holdings.place parent handle wrapper).books = holdings.books := by
  cases parent <;> rfl

/-- Placing a holder for a new handle is faithful. -/
theorem Valid.faithful_grant_place (valid : holdings.Valid) (kind : HandleKind)
    (upper : Option Handle) (parent : Option Nat) (wrapper : Wrapper) :
    holdings.Faithful
      ((holdings.grant kind upper).place parent (holdings.ledger.fresh kind) wrapper) := by
  have sameBooks :=
    (holdings.grant kind upper).books_place parent (holdings.ledger.fresh kind) wrapper
  refine ⟨(holdings.grant kind upper).made_prefix_place _ _ _, ?_, ?_, ?_, ?_⟩
  · exact (congrArg Library.Books.strays sameBooks).trans rfl
  · exact (congrArg Library.Books.nameless sameBooks).trans rfl
  · exact (congrArg Library.Books.reply sameBooks).trans rfl
  · rw [lost_place, filter_lost_grant valid]

/-- A move is faithful. -/
theorem Move.faithful (move : holdings.Move later) (valid : holdings.Valid) :
    holdings.Faithful later := by
  cases move with
  | found root => exact valid.faithful_grant_place _ _ _ _
  | derive held branch => exact valid.faithful_grant_place _ _ _ _
  | borrow held spaced loan =>
      refine ⟨holdings.made_prefix_place _ _ _, ?_, ?_, ?_, ?_⟩
      · rw [books_place]
      · rw [books_place]
      · rw [books_place]
      · rw [lost_place]
        refine filter_lost_of_notMem fun member => ?_
        have alive := ((mem_lost_iff valid).mp member).1
        have owned := valid.accurate.regular.owned _
          (valid.accurate.regular.mem_handles_of_isLive alive)
        cases loan <;> cases owned
  | pass kind =>
      refine ⟨List.prefix_rfl, rfl, rfl, rfl, ?_⟩
      rw [lost_retire, filter_lost_grant valid]
  | @release number handle held leaf =>
      refine ⟨List.prefix_rfl, ?_, ?_, ?_, lost_release valid held⟩ <;>
        cases owned : handle.isOwned <;> simp [Holdings.release, owned, Library.Books.retire]
  | remember number alike others => exact ⟨List.prefix_rfl, rfl, rfl, rfl, rfl⟩

/-- A move keeps holdings valid. -/
theorem Move.valid (move : holdings.Move later) (valid : holdings.Valid) : later.Valid := by
  cases move with
  | found root =>
      exact (valid.grant _ (by simp)).place (valid.placeable_root root)
  | derive held branch =>
      refine (valid.grant _ ?_).place (valid.placeable_branch held branch)
      rintro _ ⟨⟩
      exact valid.founded.root_mem (valid.orderly.made_of_held held)
  | borrow held spaced loan => exact valid.place (valid.placeable_loan held spaced loan)
  | pass kind =>
      refine (valid.grant kind (by simp)).retire ?_ (valid.parent?_fresh kind) ?_
      · exact Library.Ledger.isLive_of_stands (valid.stands_fresh kind)
      · intro number held
        exact valid.fresh_notMem_made kind
          (List.mem_of_getElem? (valid.orderly.made_of_held held))
  | release held leaf => exact valid.release held leaf
  | remember number alike others => exact valid.remember number alike

theorem Course.valid (course : holdings.Course later) (valid : holdings.Valid) : later.Valid := by
  induction course with
  | refl => exact valid
  | tail _ move inductionHypothesis => exact move.valid inductionHypothesis

theorem Course.faithful (course : holdings.Course later) (valid : holdings.Valid) :
    holdings.Faithful later := by
  induction course with
  | refl => exact .refl holdings
  | tail first move inductionHypothesis =>
      exact inductionHypothesis.trans (move.faithful (Course.valid first valid))

end Holdings
end Custody
