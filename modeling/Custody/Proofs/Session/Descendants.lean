import Custody.Proofs.Estate.Closing
import Custody.Proofs.Session.Growth

/-!
# What was made from a holder

A unit and an indexing session are made from their index, and diagnostics and their sets from
their owner.  A holder adopts what is made from it, or, being a diagnostic or a set itself,
what is made from the same owner.  So all that an open unit exposes was made from it, or from
what was made from it, and all of that which is open is exposed.
-/

namespace Custody

namespace Wrapper

/-- The owner of a diagnostic or of a set of notes. -/
def owner? : Wrapper → Option Nat
  | .diagnostic owner => some owner
  | .set owner => owner
  | _ => none

/-- What a holder was made from: the index of a unit or of an indexing session, and the owner of a
diagnostic or of a set of notes. -/
def source? : Wrapper → Option Nat
  | .unit number _ => some number
  | .action number => some number
  | .diagnostic owner => some owner
  | .set owner => owner
  | _ => none

theorem Alike.source? {first second : Wrapper} (alike : first.Alike second) :
    first.source? = second.source? := by
  have same := alike_iff.mp alike
  cases first <;> cases second <;> simp_all [profile, sort, index?, Wrapper.source?]

theorem Alike.owner? {first second : Wrapper} (alike : first.Alike second) :
    first.owner? = second.owner? := by
  have same := alike_iff.mp alike
  cases first <;> cases second <;> simp_all [profile, sort, index?, Wrapper.owner?]

theorem source?_of_owner? {wrapper : Wrapper} {owner : Nat} (owned : wrapper.owner? = some owner) :
    wrapper.source? = some owner := by
  cases wrapper with
  | diagnostic other => exact owned
  | set other => exact owned
  | _ => cases owned

/-- Locations lie in the space of an owner. -/
theorem space?_of_owner? {wrapper : Wrapper} {number owner : Nat}
    (owned : wrapper.owner? = some owner) : wrapper.space? number = some owner := by
  cases wrapper with
  | diagnostic other => exact owned
  | set other =>
      cases owned
      rfl
  | _ => cases owned

/-- A source is an index or an owner. -/
theorem source?_cases {wrapper : Wrapper} {source : Nat} (made : wrapper.source? = some source) :
    wrapper.index? = some source ∨ wrapper.owner? = some source := by
  cases wrapper with
  | unit number overlay => exact .inl made
  | action number => exact .inl made
  | diagnostic owner => exact .inr made
  | set owner => exact .inr made
  | _ => cases made

end Wrapper

namespace Holdings

variable {holdings later : Holdings}

/-- What a holder was made from. -/
def source? (holdings : Holdings) (number : Nat) : Option Nat :=
  (holdings.estate.content? number).bind Wrapper.source?

/-- The owner of a diagnostic or of a set of notes. -/
def owner? (holdings : Holdings) (number : Nat) : Option Nat :=
  (holdings.estate.content? number).bind Wrapper.owner?

theorem source?_of_owner? {number owner : Nat} (owned : holdings.owner? number = some owner) :
    holdings.source? number = some owner := by
  obtain ⟨wrapper, found, same⟩ := Option.bind_eq_some_iff.mp owned
  exact Option.bind_eq_some_iff.mpr ⟨wrapper, found, Wrapper.source?_of_owner? same⟩

/-- A holder was made from another one, directly or through holders between them. -/
def MadeFrom (holdings : Holdings) : Nat → Nat → Prop :=
  Relation.TransGen fun upper lower => holdings.source? lower = some upper

/-- Units and indexing sessions are made from indexes only. -/
def UsesIndexes (holdings : Holdings) : Prop :=
  ∀ number wrapper index, holdings.estate.content? number = some wrapper →
    wrapper.index? = some index →
      (holdings.estate.content? index).map Wrapper.sort = some .index

/-- Holders are made from older ones, and adopted by what they were made from or by what shares
their owner. -/
structure Stemming (holdings : Holdings) : Prop where
  /-- What a holder was made from is older. -/
  older : ∀ number source, holdings.source? number = some source → source < number
  /-- Who adopts is the source of what it adopts, or has the same owner. -/
  adopted : ∀ adoption ∈ holdings.adoptions,
    holdings.source? adoption.child = some adoption.parent ∨
      ∃ owner, holdings.owner? adoption.child = some owner ∧
        holdings.owner? adoption.parent = some owner

section Growing

variable (grows : holdings.Grows later) {number : Nat} (below : number < holdings.estate.size)
include grows below

theorem Grows.source?_eq : later.source? number = holdings.source? number := by
  obtain ⟨record, found⟩ := Estate.exists_get?_of_lt below
  have present := Estate.content?_of_get? found
  obtain ⟨kept, presentLater, alike⟩ := grows.contents present
  rw [Holdings.source?, Holdings.source?, present, presentLater, Option.bind_some,
    Option.bind_some, alike.source?]

theorem Grows.owner?_eq : later.owner? number = holdings.owner? number := by
  obtain ⟨record, found⟩ := Estate.exists_get?_of_lt below
  have present := Estate.content?_of_get? found
  obtain ⟨kept, presentLater, alike⟩ := grows.contents present
  rw [Holdings.owner?, Holdings.owner?, present, presentLater, Option.bind_some,
    Option.bind_some, alike.owner?]

end Growing

theorem lt_size_of_source? {number source : Nat} (made : holdings.source? number = some source) :
    number < holdings.estate.size := by
  obtain ⟨wrapper, found, _⟩ := Option.bind_eq_some_iff.mp made
  obtain ⟨record, present, _⟩ := Option.map_eq_some_iff.mp found
  exact Estate.lt_size_of_get? present

namespace Stemming

variable (stemming : holdings.Stemming) (valid : holdings.Valid)
include stemming valid

/-- Old adoptions stay as they were. -/
theorem adopted_of_grows (grows : holdings.Grows later) {adoption : Adoption}
    (member : adoption ∈ holdings.adoptions) :
    later.source? adoption.child = some adoption.parent ∨
      ∃ owner, later.owner? adoption.child = some owner ∧
        later.owner? adoption.parent = some owner := by
  have child := valid.orderly.child_lt adoption member
  have parent := (valid.orderly.parent_lt adoption member).trans child
  rw [grows.source?_eq child, grows.owner?_eq child, grows.owner?_eq parent]
  exact stemming.adopted adoption member

/-- Without new holders and adoptions nothing changes. -/
theorem of_grows (grows : holdings.Grows later) (size : later.estate.size = holdings.estate.size)
    (adoptions : later.adoptions = holdings.adoptions) : later.Stemming where
  older := by
    intro number source made
    have below := lt_size_of_source? made
    rw [size] at below
    rw [grows.source?_eq below] at made
    exact stemming.older number source made
  adopted := fun adoption member =>
    stemming.adopted_of_grows valid grows (adoptions ▸ member)

/-- A new holder is made from an older one, which is its parent or has the same owner as that. -/
theorem place {parent : Option Nat} {handle : Handle} {wrapper : Wrapper}
    (older : ∀ source, wrapper.source? = some source → source < holdings.estate.size)
    (adopter : ∀ number, parent = some number → number < holdings.estate.size ∧
      (wrapper.source? = some number ∨
        ∃ owner, wrapper.owner? = some owner ∧ holdings.owner? number = some owner)) :
    (holdings.place parent handle wrapper).Stemming := by
  have grows := Grows.place holdings parent handle wrapper
  have size : (holdings.place parent handle wrapper).estate.size = holdings.estate.size + 1 := by
    cases parent <;> simp [Holdings.place, Holdings.adopt, Holdings.enrol]
  have placed : (holdings.place parent handle wrapper).estate.content? holdings.estate.size =
      some wrapper := by
    cases parent <;> simp [Holdings.place, Holdings.adopt, Holdings.enrol, Estate.content?_add]
  constructor
  · intro number source made
    have below := lt_size_of_source? made
    rw [size] at below
    rcases Nat.lt_succ_iff_lt_or_eq.mp below with old | rfl
    · rw [grows.source?_eq old] at made
      exact stemming.older number source made
    · rw [Holdings.source?, placed] at made
      exact older source made
  · intro adoption member
    cases parent with
    | none => exact stemming.adopted_of_grows valid grows member
    | some number =>
        rcases List.mem_append.mp member with old | new
        · exact stemming.adopted_of_grows valid grows old
        · obtain ⟨below, stems⟩ := adopter number rfl
          rw [List.mem_singleton.mp new]
          dsimp only
          rw [grows.owner?_eq below, Holdings.source?, Holdings.owner?]
          rw [placed]
          exact stems

end Stemming

/-- Some holder was made for the owned handle behind the handle of a holder. -/
theorem Founded.exists_made_root (founded : holdings.Founded) {number : Nat} {handle : Handle}
    (made : holdings.made[number]? = some handle) :
    ∃ holder : Nat, holdings.made[holder]? = some handle.root := by
  induction handle generalizing number with
  | owned kind count => exact ⟨number, made⟩
  | note set position inductionHypothesis =>
      obtain ⟨adoption, _, _, madeAbove⟩ := founded.above made rfl
      exact inductionHypothesis madeAbove
  | notes diagnostic inductionHypothesis =>
      obtain ⟨adoption, _, _, madeAbove⟩ := founded.above made rfl
      exact inductionHypothesis madeAbove

/-- The locations of a diagnostic lie in the space of an owned handle that is no diagnostic. -/
theorem Founded.space_owned (founded : holdings.Founded) {number : Nat} {handle : Handle}
    (made : holdings.made[number]? = some handle) :
    ∃ kind count, holdings.ledger.space handle = .owned kind count ∧ kind ≠ .diagnostic := by
  obtain ⟨holder, madeRoot⟩ := founded.exists_made_root made
  obtain ⟨kind, count, rooted⟩ := Handle.isOwned_iff.mp handle.isOwned_root
  unfold Library.Ledger.space
  rw [rooted] at madeRoot ⊢
  cases kind with
  | diagnostic =>
      obtain ⟨unit, above⟩ := founded.unit_above madeRoot
      exact ⟨.unit, unit, by simp [above], by simp⟩
  | _ => exact ⟨_, count, rfl, by simp⟩

/-- Only one holder is the owner of what lies in a space. -/
theorem Founded.eq_of_spaced (founded : holdings.Founded) {first second number : Nat}
    {handle : Handle} (made : holdings.made[number]? = some handle)
    (left : holdings.made[first]? = some (holdings.ledger.space handle))
    (right : holdings.made[second]? = some (holdings.ledger.space handle)) : first = second := by
  obtain ⟨kind, count, space, _⟩ := founded.space_owned made
  exact founded.injective left right (by rw [space]; rfl)

section Valid

variable (valid : holdings.Valid)
include valid

/-- A set or a diagnostic that lends a handle is the owner of what is made for that, or has the
same owner. -/
theorem Valid.owner?_of_lends {parent owner : Nat} {upper handle : Handle} {wrapper : Wrapper}
    (held : holdings.estate.handle? parent = some upper)
    (spaced : holdings.made[owner]? = some (holdings.ledger.space upper))
    (loan : Wrapper.Loan owner upper handle wrapper) :
    owner = parent ∨ holdings.owner? parent = some owner := by
  have made := valid.orderly.made_of_held held
  obtain ⟨kept, found⟩ := valid.orderly.exists_content made
  have sorted := valid.founded.sort_eq found made
  have lends : kept.sort = .set ∨ kept.sort = .diagnostic := by
    rw [← sorted]
    cases loan with
    | note ofSet => exact .inl ofSet
    | notes ofDiagnostic => exact .inr ofDiagnostic
  have same (other : Nat) (belongs : kept.space? parent = some other) : owner = other :=
    valid.founded.eq_of_spaced made spaced (valid.founded.spaced found made belongs)
  have owned : holdings.owner? parent = kept.owner? := by
    rw [Holdings.owner?, found, Option.bind_some]
  rw [owned]
  cases kept with
  | diagnostic other => exact .inr (congrArg some (same other rfl).symm)
  | set other =>
      cases other with
      | none => exact .inl (same parent rfl)
      | some other => exact .inr (congrArg some (same other rfl).symm)
  | _ => simp [Wrapper.sort] at lends

/-- A move keeps it that holders are adopted by what they were made from or by what shares their
owner. -/
theorem Move.stemming (move : holdings.Move later) (stemming : holdings.Stemming) :
    later.Stemming := by
  have grown := move.grows
  have granted (kind : HandleKind) (upper : Option Handle) :
      (holdings.grant kind upper).Stemming :=
    stemming.of_grows valid (.of_same rfl rfl) rfl rfl
  cases move with
  | @found kind wrapper root =>
      refine (granted kind none).place (valid.grant kind (by simp)) ?_ (by simp)
      intro source made
      cases root <;> cases made
  | @derive parent upper kind wrapper held branch =>
      have below := Estate.lt_size_of_handle? held
      have grantedValid : (holdings.grant kind (some upper)).Valid := by
        refine valid.grant kind ?_
        rintro _ ⟨⟩
        exact valid.founded.root_mem (valid.orderly.made_of_held held)
      have made : wrapper.source? = some parent := by cases branch <;> rfl
      refine (granted kind (some upper)).place grantedValid ?_ ?_
      · intro source madeFrom
        rw [made] at madeFrom
        cases madeFrom
        exact below
      · rintro _ ⟨⟩
        exact ⟨below, .inl made⟩
  | @borrow parent owner upper handle wrapper held spaced loan =>
      have made : wrapper.owner? = some owner := by cases loan <;> rfl
      refine stemming.place valid ?_ ?_
      · intro source madeFrom
        rw [Wrapper.source?_of_owner? made] at madeFrom
        cases madeFrom
        rw [← valid.orderly.made_length]
        exact (List.getElem?_eq_some_iff.mp spaced).1
      · rintro _ ⟨⟩
        refine ⟨Estate.lt_size_of_handle? held, ?_⟩
        rcases valid.owner?_of_lends held spaced loan with rfl | shared
        · exact .inl (Wrapper.source?_of_owner? made)
        · exact .inr ⟨owner, made, shared⟩
  | pass kind => exact stemming.of_grows valid grown rfl rfl
  | release held leaf =>
      exact stemming.of_grows valid grown (Estate.size_clear _ _) rfl
  | remember number alike others =>
      exact stemming.of_grows valid grown (Estate.size_modify _ _ _) rfl

theorem Course.stemming (course : holdings.Course later) (stemming : holdings.Stemming) :
    later.Stemming := by
  induction course with
  | refl => exact stemming
  | tail first move inductionHypothesis =>
      exact move.stemming (Course.valid first valid) inductionHypothesis

theorem Errand.stemming {mayLose : Prop} {succeeded : Bool}
    (errand : holdings.Errand mayLose succeeded later)
    (stemming : holdings.Stemming) : later.Stemming := by
  cases errand with
  | course course => exact course.stemming valid stemming
  | @asked _ middle _ before after _ =>
      have middleValid := before.valid valid
      have asked : middle.ask.Stemming :=
        (before.stemming valid stemming).of_grows middleValid (.of_same rfl rfl) rfl rfl
      exact after.stemming middleValid.ask asked
  | lost _ before _ _ =>
      have granted := before.stemming valid stemming
      exact granted.of_grows (before.valid valid) (.of_same rfl rfl) rfl rfl

theorem Reparsed.stemming {unit : Nat} (reparsed : holdings.Reparsed unit later)
    (stemming : holdings.Stemming) : later.Stemming := by
  cases reparsed with
  | kept course _ => exact course.stemming valid stemming
  | @abandoned middle handle _ before _ _ _ =>
      have released := Grows.release middle unit handle
      exact (before.stemming valid stemming).of_grows (before.valid valid)
        (released.trans (.of_same rfl rfl)) (Estate.size_clear _ _) rfl

end Valid

/-- What was made from a holder is younger. -/
theorem Stemming.lt_of_madeFrom (stemming : holdings.Stemming) {upper lower : Nat}
    (made : holdings.MadeFrom upper lower) : upper < lower :=
  lt_of_transGen (fun upper lower source => stemming.older lower upper source) made

section Reach

variable (stemming : holdings.Stemming) (valid : holdings.Valid)

include stemming valid

/-- What has an owner was not made for a set that was loaded, for that owns itself. -/
theorem Stemming.made_ne_set {number owner count : Nat}
    (owned : holdings.owner? number = some owner) :
    holdings.made[number]? ≠ some (.owned .set count) := by
  intro made
  obtain ⟨wrapper, found, isOwner⟩ := Option.bind_eq_some_iff.mp owned
  have sorted := valid.founded.sort_eq found made
  cases wrapper with
  | set other =>
      cases isOwner
      have spaced : holdings.made[owner]? = some (.owned .set count) :=
        valid.founded.spaced found made rfl
      have itself : owner = number := valid.founded.injective spaced made rfl
      have older := stemming.older number owner (source?_of_owner? owned)
      omega
  | _ => cases sorted

/-- Something is above the handle of what has an owner. -/
theorem Stemming.exists_above {number owner : Nat} {handle : Handle}
    (owned : holdings.owner? number = some owner)
    (made : holdings.made[number]? = some handle) :
    ∃ upper, holdings.ledger.above? handle = some upper := by
  obtain ⟨wrapper, found, isOwner⟩ := Option.bind_eq_some_iff.mp owned
  have sorted := valid.founded.sort_eq found made
  cases handle with
  | note set position => exact ⟨set, rfl⟩
  | notes diagnostic => exact ⟨diagnostic, rfl⟩
  | owned kind count =>
      cases wrapper with
      | diagnostic other =>
          cases sorted
          obtain ⟨unit, above⟩ := valid.founded.unit_above made
          exact ⟨_, above⟩
      | set other =>
          cases sorted
          exact absurd made (stemming.made_ne_set valid owned)
      | _ => cases isOwner

/-- An open holder is exposed by what it was made from. -/
theorem Stemming.exposes_of_source {number source : Nat}
    (opened : holdings.estate.isOpen number = true)
    (made : holdings.source? number = some source) :
    Relation.TransGen holdings.estate.Exposes source number := by
  induction number using Nat.strongRecOn with
  | ind number inductionHypothesis =>
      -- Whoever adopted it is the source itself or was made from the same one.
      have climb (adoption : Adoption) (member : adoption ∈ holdings.adoptions)
          (child : adoption.child = number) :
          Relation.TransGen holdings.estate.Exposes source number := by
        subst child
        have upperOpen := valid.orderly.open_parent adoption member opened
        have exposed : holdings.estate.Exposes adoption.parent adoption.child :=
          ⟨upperOpen, valid.orderly.adopts adoption member upperOpen⟩
        rcases stemming.adopted adoption member with direct | ⟨owner, owned, shared⟩
        · cases made.symm.trans direct
          exact .single exposed
        · cases made.symm.trans (source?_of_owner? owned)
          refine .tail ?_ exposed
          exact inductionHypothesis adoption.parent (valid.orderly.parent_lt adoption member)
            upperOpen (source?_of_owner? shared)
      obtain ⟨wrapper, found, madeFrom⟩ := Option.bind_eq_some_iff.mp made
      rcases Wrapper.source?_cases madeFrom with indexed | owned
      · obtain ⟨adoption, member, _, child⟩ := valid.founded.indexed found indexed
        exact climb adoption member child
      · obtain ⟨handle, held⟩ := Estate.isOpen_iff.mp opened
        have madeFor := valid.orderly.made_of_held held
        obtain ⟨upper, above⟩ := stemming.exists_above valid
          (Option.bind_eq_some_iff.mpr ⟨wrapper, found, owned⟩) madeFor
        obtain ⟨adoption, member, child, _⟩ := valid.founded.above madeFor above
        exact climb adoption member child

theorem Stemming.exposes_of_madeFrom {upper lower : Nat}
    (opened : holdings.estate.isOpen lower = true) (made : holdings.MadeFrom upper lower) :
    Relation.TransGen holdings.estate.Exposes upper lower := by
  induction made with
  | single direct => exact stemming.exposes_of_source valid opened direct
  | tail _ direct inductionHypothesis =>
      have exposed := stemming.exposes_of_source valid opened direct
      obtain ⟨first, exposes, _⟩ := Relation.TransGen.head'_iff.mp exposed
      exact (inductionHypothesis exposes.1).trans exposed

/-- All that a unit exposes was made from it. -/
theorem Stemming.madeFrom_of_exposes {upper lower : Nat}
    (unowned : holdings.owner? upper = none)
    (exposed : Relation.TransGen holdings.estate.Exposes upper lower) :
    holdings.MadeFrom upper lower := by
  have step (parent child : Nat) (exposes : holdings.estate.Exposes parent child) :
      holdings.source? child = some parent ∨
        ∃ owner, holdings.owner? child = some owner ∧ holdings.owner? parent = some owner := by
    obtain ⟨adoption, member, rfl, rfl⟩ := valid.orderly.recorded exposes.2
    exact stemming.adopted adoption member
  induction exposed with
  | single exposes =>
      rcases step _ _ exposes with direct | ⟨owner, _, shared⟩
      · exact .single direct
      · rw [unowned] at shared
        cases shared
  | tail _ exposes inductionHypothesis =>
      rcases step _ _ exposes with direct | ⟨owner, owned, shared⟩
      · exact .tail inductionHypothesis direct
      · obtain ⟨source, above, direct⟩ := Relation.TransGen.tail'_iff.mp inductionHypothesis
        cases direct.symm.trans (source?_of_owner? shared)
        exact .tail' above (source?_of_owner? owned)

/-- What an open unit exposes is what was made from it and is open. -/
theorem Stemming.exposes_iff_madeFrom {upper lower : Nat}
    (unowned : holdings.owner? upper = none) (opened : holdings.estate.isOpen lower = true) :
    Relation.TransGen holdings.estate.Exposes upper lower ↔ holdings.MadeFrom upper lower :=
  ⟨stemming.madeFrom_of_exposes valid unowned, stemming.exposes_of_madeFrom valid opened⟩

/-- An owner has no owner itself. -/
theorem Stemming.owner?_of_owner? {number owner : Nat}
    (owned : holdings.owner? number = some owner) : holdings.owner? owner = none := by
  cases further : holdings.owner? owner with
  | none => rfl
  | some upper =>
      obtain ⟨wrapper, found, isOwner⟩ := Option.bind_eq_some_iff.mp owned
      obtain ⟨handle, made⟩ := valid.orderly.exists_made (lt_size_of_source? (source?_of_owner? owned))
      have spaced := valid.founded.spaced found made (Wrapper.space?_of_owner? isOwner)
      obtain ⟨kind, count, space, notDiagnostic⟩ := valid.founded.space_owned made
      rw [space] at spaced
      obtain ⟨kept, foundOwner, hasOwner⟩ := Option.bind_eq_some_iff.mp further
      have sorted := valid.founded.sort_eq foundOwner spaced
      cases kept with
      | diagnostic other => exact absurd sorted notDiagnostic
      | set other =>
          cases sorted
          exact absurd spaced (stemming.made_ne_set valid further)
      | _ => cases hasOwner

/-- Where only indexes are used as indexes, all that was made from a unit has it as its owner. -/
theorem Stemming.madeFrom_iff_owner {unit number : Nat}
    (isUnit : (holdings.estate.content? unit).map Wrapper.sort = some .unit)
    (proper : holdings.UsesIndexes) :
    holdings.MadeFrom unit number ↔ holdings.owner? number = some unit := by
  refine ⟨fun made => ?_, fun owned => .single (source?_of_owner? owned)⟩
  induction made with
  | single direct =>
      obtain ⟨wrapper, found, madeFrom⟩ := Option.bind_eq_some_iff.mp direct
      rcases Wrapper.source?_cases madeFrom with indexed | owned
      · cases isUnit.symm.trans (proper _ wrapper _ found indexed)
      · exact Option.bind_eq_some_iff.mpr ⟨wrapper, found, owned⟩
  | tail _ direct inductionHypothesis =>
      obtain ⟨wrapper, found, madeFrom⟩ := Option.bind_eq_some_iff.mp direct
      rcases Wrapper.source?_cases madeFrom with indexed | owned
      · obtain ⟨kept, foundMiddle, hasOwner⟩ := Option.bind_eq_some_iff.mp inductionHypothesis
        have isIndex := proper _ wrapper _ found indexed
        rw [foundMiddle] at isIndex
        cases kept with
        | diagnostic other => cases isIndex
        | set other => cases isIndex
        | _ => cases hasOwner
      · have none := stemming.owner?_of_owner? valid
          (Option.bind_eq_some_iff.mpr ⟨wrapper, found, owned⟩)
        cases none.symm.trans inductionHypothesis

end Reach

end Holdings
end Custody
