import Custody.Proofs.Session.Errands

/-!
# Growth of holdings

Whatever an operation does, holders are never forgotten: they stay what they are, even
when they are closed, and all adoptions stay listed.
-/

namespace Custody

theorem Wrapper.Alike.trans {first second third : Wrapper} (left : first.Alike second)
    (right : second.Alike third) : first.Alike third :=
  ⟨left.1.trans right.1, left.2.1.trans right.2.1, fun number =>
    (left.2.2 number).trans (right.2.2 number)⟩

theorem Wrapper.Alike.symm {first second : Wrapper} (alike : first.Alike second) :
    second.Alike first :=
  ⟨alike.1.symm, alike.2.1.symm, fun number => (alike.2.2 number).symm⟩

/-- All of a wrapper but what it remembers. -/
def Wrapper.profile : Wrapper → HandleKind × Option Nat × Option (Option Nat)
  | .diagnostic owner => (.diagnostic, none, some (some owner))
  | .set owner => (.set, none, some owner)
  | wrapper => (wrapper.sort, wrapper.index?, none)

/-- The owner of a set is known from where the locations of the set belong, whatever its number. -/
theorem Wrapper.getD_eq_iff {first second : Option Nat} :
    (∀ number, first.getD number = second.getD number) ↔ first = second := by
  constructor
  · intro same
    cases first with
    | none =>
        cases second with
        | none => rfl
        | some owner => simpa using same (owner + 1)
    | some owner =>
        cases second with
        | none => simpa using (same (owner + 1)).symm
        | some other => exact congrArg some (same 0)
  · rintro rfl _
    rfl

/-- Wrappers are alike when all that is not remembered agrees. -/
theorem Wrapper.alike_iff {first second : Wrapper} :
    first.Alike second ↔ first.profile = second.profile := by
  cases first <;> cases second <;> simp [Alike, profile, sort, index?, space?, getD_eq_iff]

/-- Only a diagnostic of the same owner is like a diagnostic. -/
theorem Wrapper.Alike.eq_diagnostic {wrapper : Wrapper} {owner : Nat}
    (alike : wrapper.Alike (.diagnostic owner)) : wrapper = .diagnostic owner := by
  have same := alike_iff.mp alike
  cases wrapper <;> simp_all [profile, sort]

/-- Only a set of the same owner is like a set with an owner. -/
theorem Wrapper.Alike.eq_set {wrapper : Wrapper} {owner : Option Nat}
    (alike : wrapper.Alike (.set owner)) : wrapper = .set owner := by
  have same := alike_iff.mp alike
  cases wrapper <;> simp_all [profile, sort]

namespace Holdings

variable {holdings middle later : Holdings}

/-- Holders stay what they are and adoptions stay listed. -/
structure Grows (holdings later : Holdings) : Prop where
  contents : ∀ {number : Nat} {wrapper : Wrapper},
    holdings.estate.content? number = some wrapper →
      ∃ kept, later.estate.content? number = some kept ∧ kept.Alike wrapper
  adoptions : holdings.adoptions <+: later.adoptions

namespace Grows

/-- Contents that stay and adoptions that are only added to are growth. -/
theorem of_contents
    (contents : ∀ {number : Nat} {wrapper : Wrapper},
      holdings.estate.content? number = some wrapper →
        later.estate.content? number = some wrapper)
    (adoptions : holdings.adoptions <+: later.adoptions) : holdings.Grows later :=
  ⟨fun present => ⟨_, contents present, .refl _⟩, adoptions⟩

/-- Only the books changed. -/
theorem of_same (sameEstate : later.estate = holdings.estate)
    (sameAdoptions : later.adoptions = holdings.adoptions) : holdings.Grows later := by
  apply of_contents
  · intro number wrapper present
    rwa [sameEstate]
  · exact sameAdoptions ▸ List.prefix_rfl

protected theorem refl (holdings : Holdings) : holdings.Grows holdings := of_same rfl rfl

/-- Growth in two stretches is growth. -/
protected theorem trans (first : holdings.Grows middle) (second : middle.Grows later) :
    holdings.Grows later := by
  refine ⟨fun present => ?_, first.adoptions.trans second.adoptions⟩
  obtain ⟨between, presentBetween, alikeBetween⟩ := first.contents present
  obtain ⟨kept, presentLater, alike⟩ := second.contents presentBetween
  exact ⟨kept, presentLater, alike.trans alikeBetween⟩

/-- A holder that is enrolled comes after all that are there. -/
theorem enrol (holdings : Holdings) (handle : Handle) (owned : Bool) (wrapper : Wrapper) :
    holdings.Grows (holdings.enrol handle owned wrapper) := by
  apply of_contents
  · intro number former present
    change (holdings.estate.add _).content? number = _
    rw [Estate.content?_add]
    have below : number ≠ holdings.estate.size := by
      obtain ⟨record, found, _⟩ := Option.map_eq_some_iff.mp present
      exact Nat.ne_of_lt (Estate.lt_size_of_get? found)
    rwa [if_neg below]
  · exact List.prefix_rfl

/-- An adoption is added to those that were recorded. -/
theorem adopt (holdings : Holdings) (parent child : Nat) :
    holdings.Grows (holdings.adopt parent child) := by
  apply of_contents
  · intro number former present
    change (holdings.estate.adopt parent child).content? number = _
    rwa [Estate.content?_adopt]
  · exact List.prefix_append _ _

/-- A holder that is placed is enrolled and adopted. -/
theorem place (holdings : Holdings) (parent : Option Nat) (handle : Handle) (wrapper : Wrapper) :
    holdings.Grows (holdings.place parent handle wrapper) := by
  cases parent with
  | none => exact enrol holdings handle _ wrapper
  | some parent => exact (enrol holdings handle _ wrapper).trans (adopt _ parent _)

/-- A release takes handles and keeps contents. -/
theorem release (holdings : Holdings) (number : Nat) (handle : Handle) :
    holdings.Grows (holdings.release number handle) := by
  apply of_contents
  · intro other former present
    change (holdings.estate.clear number).content? other = _
    rwa [Estate.content?_clear]
  · exact List.prefix_rfl

/-- What a database remembers makes it no other thing. -/
theorem remember (holdings : Holdings) (number : Nat) {change : Wrapper → Wrapper}
    (alike : ∀ wrapper, (change wrapper).Alike wrapper) :
    holdings.Grows (holdings.remember number change) := by
  refine ⟨fun {other former} present => ?_, List.prefix_rfl⟩
  obtain ⟨record, found, rfl⟩ := Option.map_eq_some_iff.mp present
  have changed : (holdings.remember number change).estate.content? other =
      if other = number then some (change record.content) else some record.content := by
    change ((holdings.estate.modify number _).get? other).map _ = _
    rw [Estate.get?_modify, found]
    split <;> rfl
  rw [changed]
  split
  · exact ⟨_, rfl, alike _⟩
  · exact ⟨_, rfl, .refl _⟩

end Grows

/-- Every move grows the holdings, since none takes back what was made. -/
theorem Move.grows (move : holdings.Move later) : holdings.Grows later := by
  cases move with
  | @found kind wrapper root =>
      have granted : holdings.Grows (holdings.grant kind none) := .of_same rfl rfl
      exact granted.trans (.place _ _ _ _)
  | @derive parent upper kind wrapper held branch =>
      have granted : holdings.Grows (holdings.grant kind (some upper)) := .of_same rfl rfl
      exact granted.trans (.place _ _ _ _)
  | borrow held spaced loan => exact .place holdings _ _ _
  | pass kind => exact .of_same rfl rfl
  | release held leaf => exact .release holdings _ _
  | remember number alike others => exact .remember holdings number alike

/-- A course of moves grows the holdings. -/
theorem Course.grows (course : holdings.Course later) : holdings.Grows later := by
  induction course with
  | refl => exact .refl holdings
  | tail _ move inductionHypothesis => exact inductionHypothesis.trans move.grows

/-- An errand grows the holdings, also when it loses a unit. -/
theorem Errand.grows {mayLose : Prop} {succeeded : Bool}
    (errand : holdings.Errand mayLose succeeded later) : holdings.Grows later := by
  cases errand with
  | course course => exact course.grows
  | @asked _ middle _ before after _ =>
      exact before.grows.trans ((Grows.of_same rfl rfl : middle.Grows middle.ask).trans after.grows)
  | lost _ before _ _ => exact before.grows.trans (.of_same rfl rfl)

/-- A unit that was parsed again is still there. -/
theorem Reparsed.grows {unit : Nat} (reparsed : holdings.Reparsed unit later) :
    holdings.Grows later := by
  cases reparsed with
  | kept course _ => exact course.grows
  | @abandoned middle handle _ before _ _ _ =>
      exact before.grows.trans ((Grows.release middle unit handle).trans (.of_same rfl rfl))

/-- Holders keep what they were made with, but for databases, which come to remember commands. -/
def KeepsContents (holdings later : Holdings) : Prop :=
  ∀ (number : Nat) (wrapper : Wrapper), holdings.estate.content? number = some wrapper →
    wrapper.sort ≠ .database → later.estate.content? number = some wrapper

namespace KeepsContents

/-- Only the books changed. -/
theorem of_same (same : later.estate = holdings.estate) : holdings.KeepsContents later := by
  intro number wrapper present _
  rwa [same]

protected theorem refl (holdings : Holdings) : holdings.KeepsContents holdings := of_same rfl

protected theorem trans (first : holdings.KeepsContents middle)
    (second : middle.KeepsContents later) : holdings.KeepsContents later :=
  fun _ _ present other => second _ _ (first _ _ present other) other

theorem enrol (holdings : Holdings) (handle : Handle) (owned : Bool) (wrapper : Wrapper) :
    holdings.KeepsContents (holdings.enrol handle owned wrapper) := by
  intro number former present _
  obtain ⟨record, found, _⟩ := Option.map_eq_some_iff.mp present
  change (holdings.estate.add _).content? number = _
  rwa [Estate.content?_add, if_neg (Nat.ne_of_lt (Estate.lt_size_of_get? found))]

theorem adopt (holdings : Holdings) (parent child : Nat) :
    holdings.KeepsContents (holdings.adopt parent child) := by
  intro number former present _
  change (holdings.estate.adopt parent child).content? number = _
  rwa [Estate.content?_adopt]

/-- A holder that is placed has its own content and disturbs no other. -/
theorem place (holdings : Holdings) (parent : Option Nat) (handle : Handle) (wrapper : Wrapper) :
    holdings.KeepsContents (holdings.place parent handle wrapper) := by
  cases parent with
  | none => exact enrol holdings handle _ wrapper
  | some parent => exact (enrol holdings handle _ wrapper).trans (adopt _ parent _)

theorem release (holdings : Holdings) (number : Nat) (handle : Handle) :
    holdings.KeepsContents (holdings.release number handle) := by
  intro other former present _
  change (holdings.estate.clear number).content? other = _
  rwa [Estate.content?_clear]

/-- Only databases remember, so the contents of all else are kept. -/
theorem remember (holdings : Holdings) (number : Nat) {change : Wrapper → Wrapper}
    (others : ∀ wrapper, wrapper.sort ≠ .database → change wrapper = wrapper) :
    holdings.KeepsContents (holdings.remember number change) := by
  intro other former present notDatabase
  obtain ⟨record, found, rfl⟩ := Option.map_eq_some_iff.mp present
  change ((holdings.estate.modify number _).get? other).map _ = _
  rw [Estate.get?_modify, found]
  split
  · exact congrArg some (others _ notDatabase)
  · rfl

end KeepsContents

/-- Every move keeps the contents of what is no database. -/
theorem Move.keepsContents (move : holdings.Move later) : holdings.KeepsContents later := by
  cases move with
  | @found kind wrapper root =>
      have granted : holdings.KeepsContents (holdings.grant kind none) := .of_same rfl
      exact granted.trans (.place _ _ _ _)
  | @derive parent upper kind wrapper held branch =>
      have granted : holdings.KeepsContents (holdings.grant kind (some upper)) := .of_same rfl
      exact granted.trans (.place _ _ _ _)
  | borrow held spaced loan => exact .place holdings _ _ _
  | pass kind => exact .of_same rfl
  | release held leaf => exact .release holdings _ _
  | remember number alike others => exact .remember holdings number others

/-- A course of moves keeps them all along. -/
theorem Course.keepsContents (course : holdings.Course later) :
    holdings.KeepsContents later := by
  induction course with
  | refl => exact .refl holdings
  | tail _ move inductionHypothesis => exact inductionHypothesis.trans move.keepsContents

/-- An errand keeps them, also when it loses a unit. -/
theorem Errand.keepsContents {mayLose : Prop} {succeeded : Bool}
    (errand : holdings.Errand mayLose succeeded later) : holdings.KeepsContents later := by
  cases errand with
  | course course => exact course.keepsContents
  | @asked _ middle _ before after _ =>
      have asking : middle.KeepsContents middle.ask := .of_same rfl
      exact before.keepsContents.trans (asking.trans after.keepsContents)
  | lost _ before _ _ => exact before.keepsContents.trans (.of_same rfl)

/-- A unit that is parsed again keeps its index and its unsaved file. -/
theorem Reparsed.keepsContents {unit : Nat} (reparsed : holdings.Reparsed unit later) :
    holdings.KeepsContents later := by
  cases reparsed with
  | kept course _ => exact course.keepsContents
  | @abandoned middle handle _ before _ _ _ =>
      have released := KeepsContents.release middle unit handle
      exact before.keepsContents.trans (released.trans (.of_same rfl))

/-- Only the holders that exist so far have to be looked at. -/
theorem grows_iff : holdings.Grows later ↔
    (∀ number ∈ List.range holdings.estate.size,
      (holdings.estate.content? number).map Wrapper.profile =
        (later.estate.content? number).map Wrapper.profile) ∧
      holdings.adoptions <+: later.adoptions := by
  constructor
  · intro grown
    refine ⟨fun number below => ?_, grown.adoptions⟩
    obtain ⟨record, found⟩ := Estate.exists_get?_of_lt (List.mem_range.mp below)
    have present := Estate.content?_of_get? found
    obtain ⟨kept, presentLater, alike⟩ := grown.contents present
    rw [present, presentLater, Option.map_some, Option.map_some, Wrapper.alike_iff.mp alike]
  · rintro ⟨same, adoptions⟩
    refine ⟨fun {number wrapper} present => ?_, adoptions⟩
    obtain ⟨record, found, _⟩ := Option.map_eq_some_iff.mp present
    have sameHere := same number (List.mem_range.mpr (Estate.lt_size_of_get? found))
    rw [present, Option.map_some] at sameHere
    obtain ⟨kept, presentLater, sameProfile⟩ := Option.map_eq_some_iff.mp sameHere.symm
    exact ⟨kept, presentLater, Wrapper.alike_iff.mpr sameProfile⟩

end Holdings

/-- Holders of a session stay what they are in a later one, and adoptions stay listed. -/
def Session.Grows (session later : Session) : Prop := session.holdings.Grows later.holdings

instance (session later : Session) : Decidable (session.Grows later) :=
  decidable_of_iff _ Holdings.grows_iff.symm

end Custody
