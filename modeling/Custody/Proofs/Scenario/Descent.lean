import Custody.Proofs.Scenario.Dependencies
import Custody.Proofs.Scenario.Owners

/-!
# Descent

The diagnostics of a unit hang on the unit: it adopted them, or they are notes in a set
that such a diagnostic adopted.  A value is derived from a unit when a chain of operations
leads from the unit to it, each applied to what an earlier one yielded.  Derived values lie
within the unit, and derived diagnostics hang on it.  All this holds of a set that was loaded
as well, which is the owner of whatever comes from its diagnostics.
-/

namespace Custody

namespace Session

/-- A holder is of a sort: a unit, a diagnostic and so on. -/
def HasSort (session : Session) (number : Nat) (sort : HandleKind) : Prop :=
  (session.estate.content? number).map Wrapper.sort = some sort

instance (session : Session) (number : Nat) (sort : HandleKind) :
    Decidable (session.HasSort number sort) := inferInstanceAs (Decidable (_ = _))

/-- A diagnostic of a unit that hangs on a holder. -/
def Hangs (session : Session) (top unit number : Nat) : Prop :=
  session.estate.content? number = some (.diagnostic unit) ∧
    Relation.TransGen session.Adopted top number

/-- A unit itself, or a diagnostic that hangs on it. -/
def Kin (session : Session) (unit number : Nat) : Prop :=
  number = unit ∨ session.Hangs unit unit number

/-- A holder that is the owner of all that comes from it: a unit, or a set that was loaded. -/
def Heads (session : Session) (top : Nat) : Prop :=
  session.HasSort top .unit ∨ session.estate.content? top = some (.set none)

variable {session later : Session}

namespace Grows

variable (grown : session.Grows later) {number unit : Nat} {wrapper : Wrapper}
include grown

/-- An adoption is there in all later sessions. -/
protected theorem adopted {parent child : Nat} (adopted : session.Adopted parent child) :
    later.Adopted parent child := by
  obtain ⟨adoption, member, ends⟩ := adopted
  exact ⟨adoption, grown.adoptions.subset member, ends⟩

/-- A diagnostic names its unit in all later sessions. -/
theorem diagnostic (found : session.estate.content? number = some (.diagnostic unit)) :
    later.estate.content? number = some (.diagnostic unit) := by
  obtain ⟨kept, present, alike⟩ := grown.contents found
  rw [← alike.eq_diagnostic]
  exact present

/-- A set names its unit in all later sessions. -/
theorem set {owner : Option Nat} (found : session.estate.content? number = some (.set owner)) :
    later.estate.content? number = some (.set owner) := by
  obtain ⟨kept, present, alike⟩ := grown.contents found
  rw [← alike.eq_set]
  exact present

/-- What hangs on a unit hangs on it in all later sessions. -/
protected theorem hangs {top : Nat} (hangs : session.Hangs top unit number) :
    later.Hangs top unit number := by
  refine ⟨grown.diagnostic hangs.1, hangs.2.lift id fun parent child adopted => ?_⟩
  exact grown.adopted adopted

/-- What is a diagnostic later was one before. -/
theorem eq_diagnostic (known : later.estate.content? number = some (.diagnostic unit))
    (found : session.estate.content? number = some wrapper) : wrapper = .diagnostic unit := by
  obtain ⟨kept, present, alike⟩ := grown.contents found
  cases present.symm.trans known
  exact alike.symm.eq_diagnostic

/-- What is a set later was one before. -/
theorem eq_set {owner : Option Nat} (known : later.estate.content? number = some (.set owner))
    (found : session.estate.content? number = some wrapper) : wrapper = .set owner := by
  obtain ⟨kept, present, alike⟩ := grown.contents found
  cases present.symm.trans known
  exact alike.symm.eq_set

/-- What is a unit later was one before. -/
theorem eq_unit (known : later.HasSort number .unit)
    (found : session.estate.content? number = some wrapper) :
    ∃ index overlay, wrapper = .unit index overlay := by
  obtain ⟨kept, present, sorted, _⟩ := grown.contents found
  obtain ⟨other, presentToo, isUnit⟩ := Option.map_eq_some_iff.mp known
  cases present.symm.trans presentToo
  exact Wrapper.eq_unit_of_sort (sorted.symm.trans isUnit)

end Grows

/-- What hangs on something that hangs on a unit hangs on the unit. -/
theorem Hangs.trans {top unit upper number : Nat} (first : session.Hangs top unit upper)
    (second : session.Hangs upper unit number) : session.Hangs top unit number :=
  ⟨second.1, first.2.trans second.2⟩

end Session

namespace Facade

variable {α β : Type} {session : Session}

/-- An operation forgets no holder, and if it succeeds, what it leaves is of a certain kind. -/
structure Leads (session : Session) (action : Facade α) (fits : Session → α → Prop) : Prop where
  grows : session.Grows (action.outcome session).2
  gives : Gives session action fits

namespace Leads

theorem pure {fits : Session → α → Prop} {value : α} (holds : fits session value) :
    Leads session (Pure.pure value) fits := ⟨.refl _, .pure holds⟩

theorem throw {fits : Session → α → Prop} (failure : Failure) :
    Leads session (MonadExcept.throw failure) fits := ⟨.refl _, .throw failure⟩

/-- What comes after begins in a session that has grown. -/
theorem bind
    {action : Facade α}
    {next : α → Facade β}
    {middle : Session → α → Prop}
    {fits : Session → β → Prop}
    (first : Leads session action middle)
    (rest : ∀ value later, session.Grows later → middle later value →
      Leads later (next value) fits) :
    Leads session (action >>= next) fits := by
  have grown := first.grows
  constructor
  · rw [outcome_bind]
    rcases reached : action.outcome session with ⟨result, later⟩
    rw [reached] at grown
    cases result with
    | error failure => exact grown
    | ok value =>
        have holds := first.gives value later reached
        exact grown.trans (rest value later grown holds).grows
  · intro value after succeeded
    rw [outcome_bind] at succeeded
    rcases reached : action.outcome session with ⟨result, later⟩
    rw [reached] at grown succeeded
    cases result with
    | error failure => cases succeeded
    | ok found =>
        have holds := first.gives found later reached
        exact (rest found later grown holds).gives value after succeeded

/-- What is led to may be weakened. -/
theorem mono {action : Facade α} {fits weaker : Session → α → Prop}
    (first : Leads session action fits)
    (weakens : ∀ later value, fits later value → weaker later value) :
    Leads session action weaker := ⟨first.grows, first.gives.mono weakens⟩

/-- What an operation leaves has grown out of the session. -/
theorem further {action : Facade α} {fits : Session → α → Prop} (first : Leads session action fits) :
    Leads session action fun later value => session.Grows later ∧ fits later value := by
  refine ⟨first.grows, fun value after succeeded => ⟨?_, first.gives value after succeeded⟩⟩
  have grown := first.grows
  rw [succeeded] at grown
  exact grown

/-- What stays so while a session grows is so of all values in the end. -/
theorem mapM {items : List α} {change : α → Facade β} {fits : Session → β → Prop}
    (stable : ∀ earlier later value, earlier.Grows later → fits earlier value → fits later value)
    (each : ∀ item ∈ items, ∀ later, session.Grows later → Leads later (change item) fits) :
    Leads session (items.mapM change) fun later values =>
      ∀ value ∈ values, fits later value := by
  induction items generalizing session with
  | nil => exact .pure (by simp)
  | cons item rest inductionHypothesis =>
      rw [List.mapM_cons]
      refine (each item (by simp) session (.refl _)).bind fun first later grown holds => ?_
      refine (inductionHypothesis fun other member last further =>
        each other (by simp [member]) last (grown.trans further)).bind ?_
      intro others last further allHold
      refine .pure fun value member => ?_
      rcases List.mem_cons.mp member with rfl | listed
      · exact stable later last value further holds
      · exact allHold value listed

theorem call (request : Library.Call α) :
    Leads session (Facade.call request) fun _ _ => True :=
  ⟨.of_same rfl rfl, fun _ _ _ => True.intro⟩

theorem fresh : Leads session Facade.fresh fun _ _ => True :=
  ⟨.of_same rfl rfl, fun _ _ _ => True.intro⟩

theorem ofExcept (result : Except Failure α) :
    Leads session (Facade.ofExcept result) fun _ _ => True := by
  cases result with
  | ok value => exact .pure True.intro
  | error failure => exact .throw failure

theorem holder (number : Nat) :
    Leads session (Facade.holder number) fun later record =>
      later = session ∧ session.estate.get? number = some record := by
  refine ⟨?_, .holder number⟩
  rw [holder_outcome]
  exact .refl _

theorem handle (number : Nat) : Leads session (Facade.handle number) fun _ _ => True := by
  refine (holder number).bind fun record later _ _ => ?_
  split
  · exact .pure True.intro
  · exact .throw _

/-- A holder is made for the content that is given. -/
theorem wrap (handle : Option Handle) (owned : Bool) (wrapper : Wrapper) :
    Leads session (Facade.wrap handle owned wrapper) fun later number =>
      later.estate.content? number = some wrapper := by
  cases handle with
  | none => exact .throw _
  | some handle =>
      refine ⟨Holdings.Grows.enrol session.holdings handle owned wrapper, ?_⟩
      rintro _ _ ⟨⟩
      change (session.estate.add _).content? _ = _
      rw [Estate.content?_add, if_pos rfl]

/-- The adoption is there when it was made. -/
theorem adopt (parent child : Nat) :
    Leads session (Facade.adopt parent child) fun later _ => later.Adopted parent child := by
  refine ⟨Holdings.Grows.adopt session.holdings parent child, ?_⟩
  rintro _ _ ⟨⟩
  exact ⟨_, List.mem_append_right _ (List.mem_singleton_self _), rfl, rfl⟩

/-- Making a diagnostic that another holder adopts. -/
theorem place (handle : Option Handle) (owned : Bool) (unit parent : Nat) :
    Leads session (do
        let number ← Facade.wrap handle owned (.diagnostic unit)
        Facade.adopt parent number
        return number) fun later number => later.Hangs parent unit number := by
  refine (wrap handle owned _).bind fun number later _ found => ?_
  refine (adopt parent number).bind fun _ last grown adopted => .pure ?_
  exact ⟨grown.diagnostic found, .single adopted⟩

end Leads
end Facade

open Facade

variable {session final : Session} {unit : Nat}

theorem Location.wrap_leads (native : NativeLocation) (owner : Nat) :
    Leads session (wrap native owner) fun _ location => location.owner = owner :=
  Leads.fresh.bind fun _ _ _ _ => .pure rfl

theorem Range.wrap_leads (native : NativeRange) (owner : Nat) :
    Leads session (wrap native owner) fun _ range => range.owner = owner :=
  Leads.fresh.bind fun _ _ _ _ => .pure rfl

namespace DiagnosticView

theorem count_leads (session : Session) (unit : Nat) :
    Leads session (count unit) fun _ _ => True :=
  (Leads.handle unit).bind fun _ _ _ _ => .call _

/-- A diagnostic of a unit hangs on the unit. -/
theorem item_leads (session : Session) (unit : Nat) (index : Int) :
    Leads session (item unit index) fun later number => later.Hangs unit unit number := by
  refine (count_leads session unit).bind fun count later _ _ => ?_
  split
  · exact .throw _
  · refine (Leads.handle unit).bind fun handle last _ _ => ?_
    exact (Leads.call _).bind fun found _ _ _ => .place found true unit unit

/-- Every diagnostic in a slice hangs on the unit. -/
theorem slice_leads (session : Session) (unit : Nat) (slice : Slice) :
    Leads session (DiagnosticView.slice unit slice) fun later numbers =>
      ∀ number ∈ numbers, later.Hangs unit unit number := by
  refine (count_leads session unit).bind fun count _ _ _ => ?_
  refine (Leads.ofExcept _).bind fun positions _ _ _ => ?_
  exact .mapM (fun _ _ _ grown => grown.hangs) fun position _ later _ => item_leads later unit _

/-- Every diagnostic of a unit hangs on it. -/
theorem toList_leads (session : Session) (unit : Nat) :
    Leads session (toList unit) fun later numbers =>
      ∀ number ∈ numbers, later.Hangs unit unit number := by
  refine (count_leads session unit).bind fun count _ _ _ => ?_
  exact .mapM (fun _ _ _ grown => grown.hangs) fun position _ later _ => item_leads later unit _

end DiagnosticView

namespace DiagnosticSet

variable {set : Nat} {above : Option Nat}

/-- What comes from a set belongs to the owner of the set, or else to the set. -/
theorem owner_leads (found : session.estate.content? set = some (.set above)) :
    Leads session (owner set) fun _ owner => owner = above.getD set := by
  refine (Leads.holder set).bind ?_
  rintro record _ _ ⟨rfl, present⟩
  rw [Estate.content?_of_get? present] at found
  rw [Option.some.inj found]
  cases above <;> exact .pure rfl

theorem count_leads (session : Session) (set : Nat) :
    Leads session (count set) fun _ _ => True := by
  refine (Leads.holder set).bind fun record later _ _ => ?_
  split
  · exact .pure True.intro
  · exact .call _

/-- A diagnostic of a set hangs on what the set hangs on. -/
theorem item_leads (found : session.estate.content? set = some (.set above)) (index : Int) :
    Leads session (item set index) fun later number =>
      later.Hangs set (above.getD set) number := by
  refine (count_leads session set).bind fun count later grown _ => ?_
  split
  · exact .throw _
  · refine (Leads.handle set).bind fun handle next further _ => ?_
    refine (Leads.call _).bind fun note last onward _ => ?_
    have kept := onward.set (further.set (grown.set found))
    refine (owner_leads kept).bind ?_
    rintro _ _ _ rfl
    exact .place (some note) false _ set

/-- Every diagnostic in a slice of a set hangs on what the set hangs on. -/
theorem slice_leads (found : session.estate.content? set = some (.set above)) (slice : Slice) :
    Leads session (DiagnosticSet.slice set slice) fun later numbers =>
      ∀ number ∈ numbers, later.Hangs set (above.getD set) number := by
  refine (count_leads session set).bind fun count later grown _ => ?_
  refine (Leads.ofExcept _).bind fun positions next further _ => ?_
  refine .mapM (fun _ _ _ grown => grown.hangs) fun position _ last onward => ?_
  exact item_leads (onward.set (further.set (grown.set found))) _

/-- Every diagnostic of a set hangs on what the set hangs on. -/
theorem toList_leads (found : session.estate.content? set = some (.set above)) :
    Leads session (toList set) fun later numbers =>
      ∀ number ∈ numbers, later.Hangs set (above.getD set) number := by
  refine (count_leads session set).bind fun count later grown _ => ?_
  refine .mapM (fun _ _ _ grown => grown.hangs) fun position _ last further => ?_
  exact item_leads (further.set (grown.set found)) _

end DiagnosticSet

namespace Diagnostic

variable {diagnostic : Nat}

/-- The owner of a diagnostic is the unit that its content names. -/
theorem owner_leads (found : session.estate.content? diagnostic = some (.diagnostic unit)) :
    Leads session (owner diagnostic) fun _ owner => owner = unit := by
  refine (Leads.holder diagnostic).bind ?_
  rintro record _ _ ⟨rfl, present⟩
  rw [Estate.content?_of_get? present] at found
  rw [Option.some.inj found]
  exact .pure rfl

section Reading

variable (found : session.estate.content? diagnostic = some (.diagnostic unit))
include found

/-- The location of a diagnostic names its unit. -/
theorem location_leads :
    Leads session (location diagnostic) fun _ location => location.owner = unit := by
  refine (Leads.handle diagnostic).bind fun handle later grown _ => ?_
  refine (Leads.call _).bind fun native last further _ => ?_
  refine (owner_leads (further.diagnostic (grown.diagnostic found))).bind ?_
  rintro _ _ _ rfl
  exact Location.wrap_leads native _

/-- The ranges of a diagnostic name its unit. -/
theorem ranges_leads :
    Leads session (ranges diagnostic) fun _ ranges => ∀ range ∈ ranges, range.owner = unit := by
  refine (Leads.handle diagnostic).bind fun handle later grown _ => ?_
  refine (Leads.call _).bind fun natives last further _ => ?_
  refine (owner_leads (further.diagnostic (grown.diagnostic found))).bind ?_
  rintro _ _ _ rfl
  refine .mapM (fun _ _ _ _ owned => owned) fun native _ _ _ => ?_
  exact Range.wrap_leads native _

/-- The ranges of its fix-its name its unit. -/
theorem fixIts_leads :
    Leads session (fixIts diagnostic) fun _ fixIts =>
      ∀ fixIt ∈ fixIts, fixIt.range.owner = unit := by
  refine (Leads.handle diagnostic).bind fun handle later grown _ => ?_
  refine (owner_leads (grown.diagnostic found)).bind ?_
  rintro _ _ _ rfl
  refine (Leads.call _).bind fun count _ _ _ => ?_
  refine .mapM (fun _ _ _ _ owned => owned) fun position _ _ _ => ?_
  refine (Leads.call _).bind fun answer _ _ _ => (Leads.call _).bind fun value _ _ _ => ?_
  refine (Range.wrap_leads _ _).bind fun range _ _ owned => ?_
  exact Leads.fresh.bind fun _ _ _ _ => .pure owned

/-- The notes of a diagnostic hang on it through the set that they are in. -/
theorem children_leads :
    Leads session (children diagnostic) fun later numbers =>
      ∀ number ∈ numbers, later.Hangs diagnostic unit number := by
  refine (Leads.handle diagnostic).bind fun handle later grown _ => ?_
  refine (Leads.call _).bind fun notes next further _ => ?_
  cases notes with
  | none => exact .pure (by simp)
  | some notes =>
      refine (owner_leads (further.diagnostic (grown.diagnostic found))).bind ?_
      rintro _ _ _ rfl
      refine (Leads.wrap _ _ _).bind fun set _ _ isSet => ?_
      refine (Leads.adopt diagnostic set).bind fun _ adopting onward adopted => ?_
      refine (DiagnosticSet.toList_leads (onward.set isSet)).further.mono ?_
      intro last numbers ⟨grownLast, all⟩ number member
      obtain ⟨isDiagnostic, chain⟩ := all number member
      exact ⟨isDiagnostic, .head (grownLast.adopted adopted) chain⟩

end Reading

end Diagnostic

/-- What an operation yields in a session lies within a unit, seen from a session that has grown
out of it. -/
def Facade.Stays (final : Session) (unit : Nat) (session : Session) (action : Facade Value) :
    Prop :=
  Gives session action fun later value => later.Grows final → value.Within unit (final.Kin unit)

theorem Facade.Stays.of_always {action : Facade Value}
    (always : Always action (Value.Within unit (final.Kin unit))) :
    Stays final unit session action := (always.gives session).mono fun _ _ within _ => within

namespace Value

/-- Holders and views of diagnostics look their items up in the session. -/
theorem holder_or_view (value : Value) :
    (∃ number, value = .holder number) ∨ (∃ serial owner, value = .view serial owner) ∨
      (∀ number, value ≠ .holder number) ∧ ∀ serial owner, value ≠ .view serial owner := by
  cases value <;> simp

/-- Diagnostics that hang on a unit, or on a diagnostic of the unit, are of its kin. -/
theorem holders_stays {top : Nat} {numbers : List Nat}
    (all : ∀ number ∈ numbers, session.Hangs top unit number)
    (known : ∀ number, final.Hangs top unit number → final.Kin unit number) :
    Stays final unit session (listOf (numbers.map .holder)) := by
  rintro _ _ ⟨⟩ grown
  refine areWithin_map fun number member => known number ?_
  have grown : session.Grows final := .trans (.of_same rfl rfl) grown
  exact grown.hangs (all number member)

section Holders

variable (heads : final.Heads unit)
  (grown : session.Grows final)

/-- What is no part of every holder is read from a unit as a part of units. -/
theorem wrapperPart_of_unit {number : Nat} {name : String}
    (plain : holderPart? number name = none) (isUnit : session.HasSort number .unit) :
    (wrapperPart number name).outcome session = (unitPart number name).outcome session := by
  obtain ⟨wrapper, found, sorted⟩ := Option.map_eq_some_iff.mp isUnit
  obtain ⟨index, overlay, rfl⟩ := Wrapper.eq_unit_of_sort sorted
  obtain ⟨kept, present, same⟩ := Option.map_eq_some_iff.mp found
  unfold wrapperPart
  rw [plain, outcome_bind_of_ok (holder_outcome_of_get? present), same]

/-- What is no part of every holder is read from a diagnostic as such. -/
theorem wrapperPart_of_diagnostic {number : Nat} {name : String}
    (plain : holderPart? number name = none) (isDiagnostic : session.HasSort number .diagnostic) :
    (wrapperPart number name).outcome session = (diagnosticPart number name).outcome session := by
  obtain ⟨wrapper, found, sorted⟩ := Option.map_eq_some_iff.mp isDiagnostic
  obtain ⟨owner, rfl⟩ := Wrapper.eq_diagnostic_of_sort sorted
  obtain ⟨kept, present, same⟩ := Option.map_eq_some_iff.mp found
  unfold wrapperPart
  rw [plain, outcome_bind_of_ok (holder_outcome_of_get? present), same]

theorem holderPart?_within {kin : Nat → Prop} {number : Nat} {name : String}
    {action : Facade Value} (present : holderPart? number name = some action) :
    Always action (Within unit kin) := by
  unfold holderPart? at present
  split at present
  · cases present
    exact .last fun _ => .pure True.intro
  · cases present
    exact .last fun _ => .pure True.intro
  · cases present
    exact .last fun _ => .pure True.intro
  · cases present

/-- All parts of a unit but its index lie within it. -/
theorem unitPart_within {kin : Nat → Prop} {name : String} (apart : name ≠ "index") :
    Always (unitPart unit name) (Within unit kin) := by
  unfold unitPart
  split
  · exact absurd rfl apart
  · exact .last fun _ => .pure True.intro
  · exact .last fun _ => .pure True.intro
  · exact .last fun _ => newString_within _
  · exact (CompilationUnit.cursor_unit unit).bind fun _ named => .pure (within_option named)
  · exact .last fun _ => .pure rfl
  · exact .throw _

/-- The notes of a diagnostic hang on the unit, and all else names it. -/
theorem diagnosticPart_stays {diagnostic : Nat}
    (found : session.estate.content? diagnostic = some (.diagnostic unit))
    (hangs : final.Hangs unit unit diagnostic) (name : String) :
    Stays final unit session (diagnosticPart diagnostic name) := by
  unfold diagnosticPart
  split
  · exact .of_always (.last fun _ => .pure True.intro)
  · exact .of_always (.last fun _ => newString_within _)
  · exact (Diagnostic.location_leads found).gives.bind fun _ _ owned => .pure fun _ => owned
  · refine (Diagnostic.ranges_leads found).gives.bind fun ranges _ owned => ?_
    exact Stays.of_always (listOf_within (areWithin_map owned))
  · refine (Diagnostic.fixIts_leads found).gives.bind fun fixIts _ owned => ?_
    refine Stays.of_always (listOf_within (areWithin_map fun fixIt member => ?_))
    exact ⟨True.intro, owned fixIt member, True.intro⟩
  · exact .of_always (.last fun _ => .pure True.intro)
  · exact .of_always (.last fun _ => newString_within _)
  · exact .of_always (.last fun _ => newString_within _)
  · exact .of_always (.last fun _ => newString_within _)
  · refine (Diagnostic.children_leads found).gives.bind fun numbers _ all => ?_
    exact holders_stays all fun number below => .inr (hangs.trans below)
  · exact .throw _

include heads grown

/-- What is of the kin of a unit or of a loaded set later was that before, or one of its
diagnostics. -/
theorem content_of_kin {number : Nat} {wrapper : Wrapper} (known : final.Kin unit number)
    (found : session.estate.content? number = some wrapper) :
    (number = unit ∧ ∃ index overlay, wrapper = .unit index overlay) ∨
      (number = unit ∧ wrapper = .set none) ∨
      (final.Hangs unit unit number ∧ wrapper = .diagnostic unit) := by
  rcases known with rfl | hangs
  · rcases heads with isUnit | isSet
    · exact .inl ⟨rfl, grown.eq_unit isUnit found⟩
    · exact .inr (.inl ⟨rfl, grown.eq_set isSet found⟩)
  · exact .inr (.inr ⟨hangs, grown.eq_diagnostic hangs.1 found⟩)

/-- From a holder of the unit only the index leads out of it. -/
theorem wrapperPart_stays {number : Nat} (known : final.Kin unit number) {name : String}
    (apart : name ≠ "index") : Stays final unit session (wrapperPart number name) := by
  unfold wrapperPart
  split
  · next action present => exact .of_always (holderPart?_within present)
  · refine (Gives.holder number).bind ?_
    rintro record _ ⟨rfl, present⟩
    have found := Estate.content?_of_get? present
    rcases content_of_kin heads grown known found with
      ⟨rfl, index, overlay, same⟩ | ⟨rfl, same⟩ | ⟨hangs, same⟩
    · rw [same]
      exact Stays.of_always (unitPart_within apart)
    · rw [same]
      exact .throw _
    · rw [same] at found ⊢
      exact diagnosticPart_stays found hangs name

/-- Only a set has items to yield. -/
theorem holderItems_gives {α : Type} {number : Nat} (known : final.Kin unit number)
    {next : Option Nat → Facade α} {fits : Session → α → Prop}
    (ofSet : number = unit → session.estate.content? number = some (.set none) →
      Gives session (next none) fits) :
    Gives session (do
      match (← Facade.holder number).content with
      | .set owner => next owner
      | _ => throw .wrongKind) fits := by
  refine (Gives.holder number).bind ?_
  rintro record _ ⟨rfl, present⟩
  have found := Estate.content?_of_get? present
  rcases content_of_kin heads grown known found with
    ⟨_, index, overlay, same⟩ | ⟨isTop, same⟩ | ⟨_, same⟩
  · rw [same]
    exact .throw _
  · rw [same] at found ⊢
    exact ofSet isTop found
  · rw [same]
    exact .throw _

/-- A value within a unit that is taken for a unit is that unit. -/
theorem asUnit_gives {value : Value} (within : value.Within unit (final.Kin unit)) :
    Gives session value.asUnit fun _ number => number = unit := by
  have asked : Gives session value.asHolder fun later number =>
      later = session ∧ value = .holder number := by
    unfold asHolder
    split
    · exact .pure ⟨rfl, rfl⟩
    · exact .throw _
  refine asked.bind ?_
  rintro number _ ⟨rfl, rfl⟩
  refine (Gives.holder number).bind ?_
  rintro record _ ⟨rfl, present⟩
  have found := Estate.content?_of_get? present
  rcases content_of_kin heads grown within found with
    ⟨rfl, index, overlay, same⟩ | ⟨_, same⟩ | ⟨_, same⟩
  · rw [same]
    exact .pure rfl
  · rw [same]
    exact .throw _
  · rw [same]
    exact .throw _

variable {value : Value} (within : value.Within unit (final.Kin unit))
include within

/-- From a value of the unit only the index leads out of it. -/
theorem ownPart_stays (tidy : session.Tidy) {name : String} (apart : name ≠ "index") :
    Stays final unit session (value.ownPart name) := by
  by_cases object : ∃ number, value = .holder number
  · obtain ⟨number, rfl⟩ := object
    exact wrapperPart_stays heads grown within apart
  · have object : ∀ number, value ≠ .holder number := fun number same => object ⟨number, same⟩
    exact (ownPart_within (.inl rfl) tidy within object name).mono fun _ _ within _ => within

/-- An item of what was derived from a unit is derived from it. -/
theorem item_stays (index : Int) : Stays final unit session (value.item index) := by
  rcases value.holder_or_view with ⟨number, rfl⟩ | ⟨serial, owner, rfl⟩ | ⟨object, listed⟩
  · refine holderItems_gives heads grown within ?_
    rintro rfl isSet
    refine (DiagnosticSet.item_leads isSet index).gives.bind fun number _ hangs => ?_
    exact .pure fun grown => .inr (grown.hangs hangs)
  · obtain rfl : owner = unit := within
    refine (DiagnosticView.item_leads session owner index).gives.bind fun number _ hangs => ?_
    exact .pure fun grown => .inr (grown.hangs hangs)
  · exact .of_always (item_within within object listed index)

/-- A slice of what was derived from a unit is derived from it. -/
theorem slice_stays (bounds : Bounds) : Stays final unit session (value.slice bounds) := by
  rcases value.holder_or_view with ⟨number, rfl⟩ | ⟨serial, owner, rfl⟩ | ⟨object, listed⟩
  · refine holderItems_gives heads grown within ?_
    rintro rfl isSet
    refine (Leads.ofExcept bounds.slice).further.gives.bind fun slice later reached => ?_
    refine (DiagnosticSet.slice_leads (reached.1.set isSet) slice).gives.bind ?_
    exact fun numbers _ all => holders_stays all fun number => .inr
  · obtain rfl : owner = unit := within
    refine (DiagnosticView.count_leads session owner).gives.bind fun _ _ _ => ?_
    refine (Leads.ofExcept _).gives.bind fun slice later _ => ?_
    refine (DiagnosticView.slice_leads later owner slice).gives.bind fun numbers _ all => ?_
    exact holders_stays all fun number => .inr
  · exact .of_always (slice_within within object listed bounds)

/-- However something is picked, it stays with the unit. -/
theorem pick_stays (choice : Choice) : Stays final unit session (value.pick choice) := by
  unfold pick
  split
  · exact slice_stays heads grown within _
  · exact item_stays heads grown within _
  · exact item_stays heads grown within _
  · exact .of_always (oddItem_within _ value)

/-- Iterating stays with the unit. -/
theorem items_stays :
    Gives session value.items fun later items => later.Grows final →
      ∀ item ∈ items, Within unit (final.Kin unit) item := by
  rcases value.holder_or_view with ⟨number, rfl⟩ | ⟨serial, owner, rfl⟩ | ⟨object, listed⟩
  · refine holderItems_gives heads grown within ?_
    rintro rfl isSet
    refine (DiagnosticSet.toList_leads isSet).gives.bind fun numbers _ hangs => ?_
    refine .pure fun grown => within_of_mem_map fun number member => ?_
    exact .inr (grown.hangs (hangs number member))
  · obtain rfl : owner = unit := within
    refine (DiagnosticView.toList_leads session owner).gives.bind fun numbers _ hangs => ?_
    refine .pure fun grown => within_of_mem_map fun number member => ?_
    exact .inr (grown.hangs (hangs number member))
  · exact ((items_within within object listed).gives session).mono fun _ _ all _ => all

end Holders

/-- The operations that lead from a value to others. -/
inductive Offers : Value → Facade (List Value) → Prop
  /-- A part of the value; only the index of a unit is no part of what the unit offers. -/
  | part (value : Value) (name : String) (apart : name ≠ "index") :
      Offers value (do return [← value.ownPart name])
  /-- An item of the value, or the items of a slice. -/
  | pick (value : Value) (choice : Choice) : Offers value (do return [← value.pick choice])
  /-- All items of the value. -/
  | items (value : Value) : Offers value value.items
  /-- A file of a unit. -/
  | file (value : Value) (path : Datum) :
      Offers value (do return [option .file (← CompilationUnit.file (← value.asUnit) path)])
  /-- The tokens of a unit, of an extent of it, or of a cursor. -/
  | tokens (value : Value) (extent : Option Value) :
      Offers value (do return (← Scenario.tokens value extent).map .token)
  /-- What a visitor is called on below a cursor or in a unit. -/
  | visit (value : Value) (visitor : Visitor) :
      Offers value (do return (← Scenario.visit value visitor).1.map (option .cursor))
  /-- A cursor and what is below it. -/
  | walk (cursor : Cursor) : Offers (.cursor cursor) (do return (← cursor.walk).map .cursor)
  /-- What a visitor of inclusions is called on. -/
  | inclusions (value : Value) (visitor : CompilationUnit.InclusionVisitor) :
      Offers value (do
        let answer ← CompilationUnit.visitInclusions (← value.asUnit) visitor
        return answer.1.flatMap fun inclusion => .file inclusion.1 :: inclusion.2.map .location)
  /-- What the hooks of an indexing run over a unit are told. -/
  | notices (value : Value) (action : Nat) (hooks : Hooks) (options : Datum) :
      Offers value (do
        let answer ← IndexAction.index action (.holder (← value.asUnit)) hooks options
        return answer.1.map ofNotice)
  /-- A location in a unit by line and column. -/
  | positionIn (value : Value) (file : File) (line column : Int) :
      Offers value (do
        return [.location (← Location.ofPosition (← value.asUnit) file line column)])
  /-- A location in a file by line and column. -/
  | positionOf (owner : Nat) (file : File) (line column : Int) :
      Offers (.file file) (do return [.location (← Location.ofPosition owner file line column)])
  /-- A location in a unit by offset. -/
  | offsetIn (value : Value) (file : File) (offset : Int) :
      Offers value (do return [.location (← Location.ofOffset (← value.asUnit) file offset)])
  /-- A location in a file by offset. -/
  | offsetOf (owner : Nat) (file : File) (offset : Int) :
      Offers (.file file) (do return [.location (← Location.ofOffset owner file offset)])
  /-- A range that begins at a location. -/
  | rangeFrom (start finish : Location) :
      Offers (.location start) (do return [.range (← Range.make start finish)])
  /-- A range that ends at a location. -/
  | rangeTo (start finish : Location) :
      Offers (.location finish) (do return [.range (← Range.make start finish)])

/-- The tokens of a unit name it, whatever the extent. -/
theorem tokensIn_unit (unit : Nat) (extent : Value) :
    Always (Scenario.tokensIn unit extent) fun tokens => ∀ token ∈ tokens, token.unit = unit := by
  unfold Scenario.tokensIn
  split
  · exact CompilationUnit.tokens_unit unit none
  · exact CompilationUnit.tokens_unit unit (some _)
  · refine .last fun owner => .ite (fun _ => .throwThen _) fun _ => .last fun _ => .throw _

section Offering

variable (heads : final.Heads unit)
  (grown : session.Grows final) {value : Value} (within : value.Within unit (final.Kin unit))
include heads grown within

/-- After the unit was found, only what is read from it matters. -/
theorem asUnitThen {α : Type} {next : Nat → Facade α} {fits : α → Prop}
    (rest : Always (next unit) fits) :
    Gives session (do next (← value.asUnit)) fun _ => fits := by
  refine (asUnit_gives heads grown within).bind ?_
  rintro _ later rfl
  exact rest later

/-- The tokens of what was derived from a unit name it. -/
theorem tokens_gives (extent : Option Value) :
    Gives session (Scenario.tokens value extent) fun _ tokens =>
      ∀ token ∈ tokens, token.unit = unit := by
  unfold Scenario.tokens
  split
  · next cursor =>
      obtain rfl : cursor.unit = unit := within
      exact (CompilationUnit.tokensOfCursor_unit cursor).gives session
  · exact .throw _
  · exact asUnitThen heads grown within (tokensIn_unit unit _)

/-- The cursors of a visit name the unit of what is visited. -/
theorem visit_gives (visitor : Visitor) :
    Gives session (Scenario.visit value visitor) fun _ answer =>
      ∀ child ∈ answer.1, ∀ found, child = some found → found.unit = unit := by
  unfold Scenario.visit
  split
  · next cursor =>
      obtain rfl : cursor.unit = unit := within
      exact (cursor.visitChildren_unit visitor).gives session
  · exact asUnitThen heads grown within (CompilationUnit.visitChildren_unit unit visitor)

/-- What is offered by a value within a unit or a loaded set lies within it. -/
theorem Offers.gives {action : Facade (List Value)} (offered : value.Offers action)
    (tidy : session.Tidy) :
    Gives session action fun later values => later.Grows final →
      ∀ found ∈ values, Within unit (final.Kin unit) found := by
  have single {found : Value} (fine : Within unit (final.Kin unit) found) :
      ∀ other ∈ [found], Within unit (final.Kin unit) other := by
    intro other member
    rw [List.mem_singleton.mp member]
    exact fine
  cases offered with
  | part _ name apart =>
      refine (ownPart_stays heads grown within tidy apart).bind fun found later fine => ?_
      exact .pure fun grownLater => single (fine grownLater)
  | pick _ choice =>
      refine (pick_stays heads grown within choice).bind fun found later fine => ?_
      exact .pure fun grownLater => single (fine grownLater)
  | items => exact items_stays heads grown within
  | file _ path =>
      refine (asUnitThen heads grown within ?_).mono fun _ _ all _ => all
      refine (CompilationUnit.file_owner unit path).bind fun found owned => ?_
      exact .pure (single (within_option owned))
  | tokens _ extent =>
      refine (tokens_gives heads grown within extent).bind fun tokens _ named => ?_
      exact .pure fun _ => within_of_mem_map named
  | visit _ visitor =>
      refine (visit_gives heads grown within visitor).bind fun answer _ named => ?_
      exact .pure fun _ => within_of_mem_map fun child member => within_option (named child member)
  | walk cursor =>
      obtain rfl : cursor.unit = unit := within
      refine (cursor.walk_unit.gives session).bind fun cursors _ named => ?_
      exact .pure fun _ => within_of_mem_map named
  | inclusions _ visitor =>
      refine (asUnitThen heads grown within ?_).mono fun _ _ all _ => all
      refine (CompilationUnit.visitInclusions_owner unit visitor).bind fun answer owned => ?_
      refine .pure fun found member => ?_
      obtain ⟨inclusion, listed, among⟩ := List.mem_flatMap.mp member
      obtain ⟨fileOwned, stackOwned⟩ := owned inclusion listed
      rcases List.mem_cons.mp among with rfl | stacked
      · exact fileOwned
      · exact within_of_mem_map stackOwned found stacked
  | notices _ indexer hooks options =>
      refine (asUnitThen heads grown within ?_).mono fun _ _ all _ => all
      exact (IndexAction.index_within (final.Kin unit) indexer hooks options).bind
        fun answer told => .pure (within_of_mem_map told)
  | positionIn _ file line column =>
      refine (asUnitThen heads grown within ?_).mono fun _ _ all _ => all
      exact (Location.ofPosition_owner unit file line column).bind fun location owned =>
        .pure (single owned.1)
  | positionOf owner file line column =>
      refine ((Location.ofPosition_owner owner file line column).gives session).bind ?_
      intro location _ owned
      exact .pure fun _ => single (owned.1.trans (owned.2.symm.trans within))
  | offsetIn _ file offset =>
      refine (asUnitThen heads grown within ?_).mono fun _ _ all _ => all
      exact (Location.ofOffset_owner unit file offset).bind fun location owned =>
        .pure (single owned.1)
  | offsetOf owner file offset =>
      refine ((Location.ofOffset_owner owner file offset).gives session).bind ?_
      intro location _ owned
      exact .pure fun _ => single (owned.1.trans (owned.2.symm.trans within))
  | rangeFrom start finish =>
      refine ((Range.make_owner start finish).gives session).bind fun range _ owned => ?_
      exact .pure fun _ => single (owned.1.trans within)
  | rangeTo start finish =>
      refine ((Range.make_owner start finish).gives session).bind fun range _ owned => ?_
      exact .pure fun _ => single (owned.2.trans within)

end Offering

end Value

/-- A session lies before another one of the same run: it is tidy, and the other one has grown out
of it. -/
structure Session.Precedes (session final : Session) : Prop where
  tidy : session.Tidy
  grows : session.Grows final

instance (session final : Session) : Decidable (session.Precedes final) :=
  decidable_of_iff (session.Tidy ∧ session.Grows final)
    ⟨fun both => ⟨both.1, both.2⟩, fun precedes => ⟨precedes.tidy, precedes.grows⟩⟩

/-- Taking a serial does not count. -/
theorem Session.Precedes.fresh (preceding : session.Precedes final) :
    (Facade.fresh.outcome session).2.Precedes final :=
  ⟨preceding.tidy, .trans (.of_same rfl rfl) preceding.grows⟩

/-- The values to which a chain of operations leads from a unit, each operation applied to what an
earlier one yielded and all of them before a certain session. -/
inductive Value.Derived (final : Session) (unit : Nat) : Value → Prop
  /-- The unit itself. -/
  | unit : Derived final unit (.holder unit)
  /-- What an operation on a derived value yields. -/
  | step {source value : Value} {action : Facade (List Value)} {values : List Value}
      {before after : Session}
      (derived : Derived final unit source)
      (offered : source.Offers action)
      (preceding : before.Precedes final)
      (succeeded : action.outcome before = (.ok values, after))
      (following : after.Precedes final)
      (member : value ∈ values) : Derived final unit value

namespace Value

variable {after : Session}

namespace Derived

/-- What is read from something derived is derived. -/
theorem part {source value : Value} {name : String}
    (derived : source.Derived final unit)
    (apart : name ≠ "index")
    (preceding : session.Precedes final)
    (read : (source.ownPart name).outcome session = (.ok value, after))
    (following : after.Precedes final) : value.Derived final unit :=
  .step derived (.part source name apart) preceding (outcome_bind_of_ok read _) following
    (List.mem_singleton_self value)

/-- What is picked from something derived is derived. -/
theorem pick {source value : Value} {choice : Choice}
    (derived : source.Derived final unit)
    (preceding : session.Precedes final)
    (picked : (source.pick choice).outcome session = (.ok value, after))
    (following : after.Precedes final) : value.Derived final unit :=
  .step derived (.pick source choice) preceding (outcome_bind_of_ok picked _) following
    (List.mem_singleton_self value)

/-- A diagnostic that a unit hands out is derived from it. -/
theorem diagnostic {number : Nat} {position : Int}
    (isUnit : session.HasSort unit .unit)
    (preceding : session.Precedes final)
    (read : (DiagnosticView.item unit position).outcome session = (.ok number, after))
    (following : after.Precedes final) : (Value.holder number).Derived final unit := by
  have plain : holderPart? unit "diagnostics" = none := rfl
  have looked : ((Value.holder unit).ownPart "diagnostics").outcome session =
      (.ok (.view session.nextSerial unit), (Facade.fresh.outcome session).2) :=
    wrapperPart_of_unit plain isUnit
  have picked : ((Value.view session.nextSerial unit).pick (.one (.int position))).outcome session =
      (.ok (.holder number), after) := outcome_bind_of_ok read _
  exact pick (part .unit (by decide) preceding looked preceding.fresh) preceding picked following

/-- The notes of a derived diagnostic are derived. -/
theorem note {number child : Nat} {children : List Nat}
    (derived : (Value.holder number).Derived final unit)
    (isDiagnostic : session.HasSort number .diagnostic)
    (preceding : session.Precedes final)
    (read : (Diagnostic.children number).outcome session = (.ok children, after))
    (following : after.Precedes final)
    (member : child ∈ children) : (Value.holder child).Derived final unit := by
  have plain : holderPart? number "children" = none := rfl
  have listed : ((Value.holder number).ownPart "children").outcome session =
      (.ok (.list after.nextSerial (children.map .holder)), (Facade.fresh.outcome after).2) :=
    (wrapperPart_of_diagnostic plain isDiagnostic).trans
      (outcome_bind_of_ok read fun found => listOf (found.map .holder))
  have notes := part derived (by decide) preceding listed following.fresh
  exact .step notes (.items _) following rfl following (List.mem_map_of_mem member)

/-- Derived values lie within what they are derived from, and derived holders are of its kin. -/
theorem within_of_heads {value : Value} (derived : value.Derived final unit)
    (heads : final.Heads unit) :
    value.Within unit (final.Kin unit) := by
  induction derived with
  | unit => exact .inl rfl
  | step _ offered preceding succeeded following member inductionHypothesis =>
      have gives := offered.gives heads preceding.grows inductionHypothesis preceding.tidy
      exact gives _ _ succeeded following.grows _ member

/-- Values derived from a unit lie within it. -/
theorem within {value : Value} (derived : value.Derived final unit)
    (isUnit : final.HasSort unit .unit) :
    value.Within unit (final.Kin unit) := derived.within_of_heads (.inl isUnit)

end Derived

end Value

end Custody
