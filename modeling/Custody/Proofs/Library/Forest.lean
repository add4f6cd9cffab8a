import Custody.Library.Cursor
import Mathlib.Data.Finset.Card
import Mathlib.Logic.Relation

/-!
# Forests of cursors

The cursors below a cursor of an acyclic graph form a forest, in which a cursor
stands as often as there are ways to it.  The listing of a forest has every cursor
before those below it.  Visiting goes through the listing and passes over what is
below a cursor at which the visitor did not want to descend; it is never too deep.
-/

namespace Custody
namespace Library

/-- A sequence of trees of cursors: the first tree and the rest. -/
inductive Forest
  | empty
  | plant
      (root : NativeCursor)
      (below : Forest)
      (rest : Forest)
  deriving DecidableEq

/-- A line of a listing: a cursor, the cursor it is a child of and how deep it stands. -/
structure Line where
  depth : Nat
  cursor : NativeCursor
  parent : NativeCursor
  deriving DecidableEq

namespace Forest

/-- The length of the longest way down. -/
def height : Forest → Nat
  | .empty => 0
  | .plant _ below rest => max (below.height + 1) rest.height

/-- The first cursors of the trees, in order. -/
def roots : Forest → List NativeCursor
  | .empty => []
  | .plant root _ rest => root :: rest.roots

/-- The cursors of a forest in depth-first order, every cursor before those below it. -/
def listing (depth : Nat) (parent : NativeCursor) : Forest → List Line
  | .empty => []
  | .plant root below rest =>
      ⟨depth, root, parent⟩ :: (below.listing (depth + 1) root ++ rest.listing depth parent)

/-- A forest has certain cursors as roots, and below every cursor its children. -/
inductive Spreads (children : NativeCursor → List (Option NativeCursor)) :
    Forest → List (Option NativeCursor) → Prop
  | empty : Spreads children .empty []
  | plant
      {root : NativeCursor}
      {below rest : Forest}
      {others : List (Option NativeCursor)}
      (downward : below.Spreads children (children root))
      (onward : rest.Spreads children others) :
      Spreads children (.plant root below rest) (some root :: others)

variable {children : NativeCursor → List (Option NativeCursor)}

theorem Spreads.eq_roots {forest : Forest} {list : List (Option NativeCursor)}
    (spreads : forest.Spreads children list) : list = forest.roots.map some := by
  induction spreads with
  | empty => rfl
  | plant _ _ _ onwardHypothesis => simp [roots, onwardHypothesis]

/-- There is only one forest below a cursor. -/
theorem Spreads.unique {forest other : Forest} {list : List (Option NativeCursor)}
    (spreads : forest.Spreads children list) (otherSpreads : other.Spreads children list) :
    forest = other := by
  induction spreads generalizing other with
  | empty =>
      cases otherSpreads
      rfl
  | plant _ _ downwardHypothesis onwardHypothesis =>
      cases otherSpreads with
      | plant downward onward => rw [downwardHypothesis downward, onwardHypothesis onward]

theorem depth_le_of_mem_listing {forest : Forest} {depth : Nat} {parent : NativeCursor}
    {line : Line} (member : line ∈ forest.listing depth parent) : depth ≤ line.depth := by
  induction forest generalizing depth parent with
  | empty => simp [listing] at member
  | plant root below rest belowHypothesis restHypothesis =>
      simp only [listing, List.mem_cons, List.mem_append] at member
      rcases member with rfl | deeper | later
      · exact le_rfl
      · have := belowHypothesis deeper
        omega
      · exact restHypothesis later

end Forest

section Scanning

variable {σ : Type} {visitor : CursorVisitor σ}

/-- Whether a line stands below one at which the visitor did not descend. -/
def Line.isHidden (skipped : Option Nat) (line : Line) : Bool :=
  skipped.any fun depth => depth < line.depth

/-- Goes through a listing as a visitor directs; what is below a skipped depth is passed over. -/
def scan (visitor : CursorVisitor σ) : Option Nat → List Line → σ → σ × VisitEnd
  | _, [], state => (state, .complete)
  | skipped, line :: rest, state =>
      if line.isHidden skipped then scan visitor skipped rest state
      else
        match visitor (some line.cursor) line.parent state with
        | (state, .stop) => (state, .stopped)
        | (state, .proceed) => scan visitor (some line.depth) rest state
        | (state, .descend) => scan visitor none rest state

/-- A listing does not begin deeper than a certain depth. -/
def Shallow (depth : Nat) (lines : List Line) : Prop := ∀ line ∈ lines.head?, line.depth ≤ depth

theorem Shallow.nil (depth : Nat) : Shallow depth [] := by simp [Shallow]

theorem Shallow.mono {depth deeper : Nat} {lines : List Line} (shallow : Shallow depth lines)
    (lower : depth ≤ deeper) : Shallow deeper lines :=
  fun line first => (shallow line first).trans lower

theorem Shallow.listing_append {depth : Nat} {after : List Line} (shallow : Shallow depth after)
    (forest : Forest) (parent : NativeCursor) :
    Shallow depth (forest.listing depth parent ++ after) := by
  cases forest with
  | empty => exact shallow
  | plant root below rest => simp [Shallow, Forest.listing]

theorem scan_of_shallow {depth : Nat} {lines : List Line} (shallow : Shallow depth lines)
    (state : σ) : scan visitor (some depth) lines state = scan visitor none lines state := by
  cases lines with
  | nil => rfl
  | cons line rest =>
      have high : line.depth ≤ depth := shallow line (by simp)
      simp [scan, Line.isHidden, high]

/-- What is below a skipped cursor is passed over. -/
theorem scan_skip {depth : Nat} {hidden after : List Line}
    (deep : ∀ line ∈ hidden, depth < line.depth) (shallow : Shallow depth after) (state : σ) :
    scan visitor (some depth) (hidden ++ after) state = scan visitor none after state := by
  induction hidden with
  | nil => exact scan_of_shallow shallow state
  | cons line rest inductionHypothesis =>
      have below : depth < line.depth := deep line (by simp)
      simp only [List.cons_append, scan, Line.isHidden, Option.any_some, below, decide_true,
        if_true]
      exact inductionHypothesis fun other member => deep other (by simp [member])

/-- Visiting the children of a cursor is going through the listing of the forest below it. -/
theorem scan_listing
    (visitor : CursorVisitor σ)
    {children : NativeCursor → List (Option NativeCursor)}
    {forest : Forest}
    {list : List (Option NativeCursor)}
    (spreads : forest.Spreads children list)
    {limit : Nat}
    (low : forest.height ≤ limit)
    (depth : Nat)
    (parent : NativeCursor)
    {after : List Line}
    (shallow : Shallow depth after)
    (state : σ) :
    scan visitor none (forest.listing depth parent ++ after) state =
      match visitEach (visitBelow children visitor limit) visitor parent list state with
      | (reached, .complete) => scan visitor none after reached
      | ended => ended := by
  induction spreads generalizing limit depth parent after state with
  | empty => rfl
  | @plant root below rest others _ _ downwardHypothesis onwardHypothesis =>
      have lowBelow : below.height + 1 ≤ limit := (le_max_left _ _).trans low
      have lowRest : rest.height ≤ limit := (le_max_right _ _).trans low
      have onward (reached : σ) := onwardHypothesis lowRest depth parent shallow reached
      have shallowRest := shallow.listing_append rest parent
      simp only [Forest.listing, List.cons_append, List.append_assoc, scan, Line.isHidden,
        Option.any_none, Bool.false_eq_true, if_false, visitEach]
      rcases visitor (some root) parent state with ⟨reached, answer⟩
      cases answer with
      | stop => rfl
      | proceed =>
          have deep : ∀ line ∈ below.listing (depth + 1) root, depth < line.depth :=
            fun line member => Forest.depth_le_of_mem_listing member
          dsimp only
          rw [scan_skip deep shallowRest, onward]
      | descend =>
          obtain ⟨limit, rfl⟩ : ∃ lower, limit = lower + 1 := ⟨limit - 1, by omega⟩
          have lowerBelow : below.height ≤ limit := by omega
          have downward := downwardHypothesis lowerBelow (depth + 1) root
            (shallowRest.mono (Nat.le_succ depth)) reached
          dsimp only
          rw [downward]
          unfold visitBelow
          rcases visitEach (visitBelow children visitor limit) visitor root (children root) reached
            with ⟨reached, ended⟩
          cases ended with
          | complete => exact onward reached
          | stopped => rfl
          | tooDeep => rfl

theorem visitBelow_eq_scan
    {children : NativeCursor → List (Option NativeCursor)}
    {forest : Forest}
    {start : NativeCursor}
    (spreads : forest.Spreads children (children start))
    {limit : Nat}
    (low : forest.height < limit)
    (state : σ) :
    visitBelow children visitor limit start state =
      scan visitor none (forest.listing 0 start) state := by
  obtain ⟨limit, rfl⟩ : ∃ lower, limit = lower + 1 := ⟨limit - 1, by omega⟩
  have scanned := scan_listing visitor spreads (Nat.lt_succ_iff.mp low) 0 start
    (.nil 0) state
  rw [List.append_nil] at scanned
  rw [scanned]
  unfold visitBelow
  rcases visitEach (visitBelow children visitor limit) visitor start (children start) state
    with ⟨reached, ended⟩
  cases ended <;> rfl

end Scanning

namespace State

/-- A cursor is a child of another one. -/
def IsChild (state : State) (parent child : NativeCursor) : Prop :=
  some child ∈ state.childCursors parent

/-- No null child and no cursor below itself can be reached from a cursor. -/
structure Spreadable (state : State) (start : NativeCursor) : Prop where
  filled : ∀ cursor, Relation.ReflTransGen state.IsChild start cursor →
    none ∉ state.childCursors cursor
  acyclic : ∀ cursor, Relation.ReflTransGen state.IsChild start cursor →
    ¬ Relation.TransGen state.IsChild cursor cursor

namespace Spreadable

variable {state : State} {start : NativeCursor}

theorem child (spreadable : state.Spreadable start) {next : NativeCursor}
    (isChild : state.IsChild start next) : state.Spreadable next where
  filled cursor reached := spreadable.filled cursor (.head isChild reached)
  acyclic cursor reached := spreadable.acyclic cursor (.head isChild reached)

/-- Forests below the cursors of a list make up a forest with these roots. -/
theorem assemble
    {children : NativeCursor → List (Option NativeCursor)}
    {limit : Nat}
    {list : List (Option NativeCursor)}
    (filled : none ∉ list)
    (each : ∀ root, some root ∈ list →
      ∃ below : Forest, below.Spreads children (children root) ∧ below.height ≤ limit) :
    ∃ forest : Forest, forest.Spreads children list ∧ forest.height ≤ limit + 1 := by
  induction list with
  | nil => exact ⟨.empty, .empty, Nat.zero_le _⟩
  | cons first others inductionHypothesis =>
      simp only [List.mem_cons, not_or] at filled each
      obtain ⟨root, rfl⟩ := Option.ne_none_iff_exists'.mp (Ne.symm filled.1)
      obtain ⟨below, downward, lowBelow⟩ := each root (.inl rfl)
      obtain ⟨rest, onward, lowRest⟩ :=
        inductionHypothesis filled.2 fun other member => each other (.inr member)
      refine ⟨.plant root below rest, .plant downward onward, ?_⟩
      simp only [Forest.height]
      omega

/-- The forest below a cursor is not higher than there are cursors below it with children. -/
theorem exists_forest_within
    (spreadable : state.Spreadable start)
    (pool : Finset NativeCursor)
    (pooled : ∀ cursor, Relation.TransGen state.IsChild start cursor →
      state.childCursors cursor ≠ [] → cursor ∈ pool) :
    ∃ forest : Forest, forest.Spreads state.childCursors (state.childCursors start) ∧
      forest.height ≤ pool.card + 1 := by
  -- Every step down takes a cursor out of the pool, as it is not below itself.
  induction size : pool.card using Nat.strong_induction_on generalizing start pool with
  | _ size inductionHypothesis =>
      apply assemble (spreadable.filled start .refl)
      intro root isChild
      by_cases childless : state.childCursors root = []
      · refine ⟨.empty, ?_, Nat.zero_le _⟩
        rw [childless]
        exact .empty
      · have inPool : root ∈ pool := pooled root (.single isChild) childless
        have smaller : (pool.erase root).card < pool.card := Finset.card_erase_lt_of_mem inPool
        have erased : (pool.erase root).card + 1 = pool.card :=
          Finset.card_erase_add_one inPool
        obtain ⟨below, downward, low⟩ := inductionHypothesis (pool.erase root).card (by omega)
          (spreadable.child isChild) (pool.erase root) (fun cursor reached branches => by
            refine Finset.mem_erase.mpr ⟨?_, pooled cursor (.head isChild reached) branches⟩
            rintro rfl
            exact spreadable.acyclic cursor (.single isChild) reached) rfl
        exact ⟨below, downward, by omega⟩

end Spreadable

/-- Every line of a listing is reached from where its roots are reached. -/
theorem reaches_of_mem_listing
    {state : State}
    {start : NativeCursor}
    {forest : Forest}
    {list : List (Option NativeCursor)}
    (spreads : forest.Spreads state.childCursors list)
    (rooted : ∀ root, some root ∈ list → Relation.ReflTransGen state.IsChild start root)
    {depth : Nat}
    {parent : NativeCursor}
    {line : Line}
    (member : line ∈ forest.listing depth parent) :
    Relation.ReflTransGen state.IsChild start line.cursor := by
  induction spreads generalizing depth parent with
  | empty => simp [Forest.listing] at member
  | @plant root below rest others _ _ downwardHypothesis onwardHypothesis =>
      have reached := rooted root (by simp)
      simp only [Forest.listing, List.mem_cons, List.mem_append] at member
      rcases member with rfl | deeper | later
      · exact reached
      · exact downwardHypothesis (fun child isChild => reached.tail isChild) deeper
      · exact onwardHypothesis (fun other listed => rooted other (by simp [listed])) later

theorem unit_of_isChild {state : State} {parent child : NativeCursor}
    (isChild : state.IsChild parent child) :
    ∃ index, child = state.nativeCursor parent.unit index := by
  simp only [IsChild, childCursors, List.mem_map, Option.map_eq_some_iff] at isChild
  obtain ⟨_, _, index, _, rfl⟩ := isChild
  exact ⟨index, rfl⟩

theorem unit_of_below {state : State} {start cursor : NativeCursor}
    (below : Relation.TransGen state.IsChild start cursor) :
    ∃ index, cursor = state.nativeCursor start.unit index := by
  induction below with
  | single isChild => exact unit_of_isChild isChild
  | tail _ isChild inductionHypothesis =>
      obtain ⟨index, rfl⟩ := inductionHypothesis
      obtain ⟨next, rfl⟩ := unit_of_isChild isChild
      exact ⟨next, rfl⟩

theorem index_lt_of_childCursors {state : State} {unit : Handle} {index : Nat}
    (branches : state.childCursors (state.nativeCursor unit index) ≠ []) :
    index < (state.unitModel unit).cursors.length := by
  by_contra beyond
  apply branches
  have absent : (state.unitModel unit).cursors[index]? = none := by simpa using beyond
  simp only [childCursors, cursorModel, nativeCursor, absent]
  rfl

/-- Below a cursor from which no null child and no cycle can be reached stands a forest, and a
visit of it is not too deep. -/
theorem Spreadable.exists_forest {state : State} {start : NativeCursor}
    (spreadable : state.Spreadable start) :
    ∃ forest : Forest, forest.Spreads state.childCursors (state.childCursors start) ∧
      forest.height + 1 < state.depthBound start.unit := by
  let pool := (Finset.range (state.unitModel start.unit).cursors.length).image
    (state.nativeCursor start.unit)
  have pooled : ∀ cursor, Relation.TransGen state.IsChild start cursor →
      state.childCursors cursor ≠ [] → cursor ∈ pool := by
    intro cursor below branches
    obtain ⟨index, rfl⟩ := unit_of_below below
    apply Finset.mem_image_of_mem
    exact Finset.mem_range.mpr (index_lt_of_childCursors branches)
  obtain ⟨forest, spreads, low⟩ := spreadable.exists_forest_within pool pooled
  have bounded : pool.card ≤ (state.unitModel start.unit).cursors.length :=
    Finset.card_image_le.trans (Finset.card_range _).le
  refine ⟨forest, spreads, ?_⟩
  unfold depthBound
  omega

end State

/-- Whether every child in a unit is a cursor of the unit and comes after its parent. -/
def UnitModel.isOrdered (model : UnitModel) : Bool :=
  model.cursors.zipIdx.all fun entry => entry.1.children.all fun child =>
    child.any fun number => entry.2 < number && number < model.cursors.length

namespace State

variable {state : State} {start : NativeCursor}

theorem childCursors_of_isOrdered {parent : NativeCursor}
    (ordered : (state.unitModel parent.unit).isOrdered = true) {child : Option NativeCursor}
    (listed : child ∈ state.childCursors parent) :
    ∃ number, child = some (state.nativeCursor parent.unit number) ∧ parent.index < number ∧
      number < (state.unitModel parent.unit).cursors.length := by
  unfold childCursors cursorModel at listed
  obtain ⟨index, listedIndex, rfl⟩ := List.mem_map.mp listed
  cases present : (state.unitModel parent.unit).cursors[parent.index]? with
  | none =>
      rw [present, Option.getD_none] at listedIndex
      exact absurd listedIndex List.not_mem_nil
  | some model =>
      rw [present, Option.getD_some] at listedIndex
      have entry : (model, parent.index) ∈ (state.unitModel parent.unit).cursors.zipIdx :=
        List.mem_zipIdx_iff_getElem?.mpr present
      have checked := List.all_eq_true.mp (List.all_eq_true.mp ordered _ entry) index listedIndex
      simp only [Option.any_eq_true, Bool.and_eq_true, decide_eq_true_eq] at checked
      obtain ⟨number, rfl, later, within⟩ := checked
      exact ⟨number, rfl, later, within⟩

theorem unit_of_reaches {cursor : NativeCursor}
    (reached : Relation.ReflTransGen state.IsChild start cursor) : cursor.unit = start.unit := by
  induction reached with
  | refl => rfl
  | tail _ isChild inductionHypothesis =>
      obtain ⟨index, rfl⟩ := unit_of_isChild isChild
      exact inductionHypothesis

/-- What is below a cursor comes after it. -/
theorem index_lt_of_below {cursor : NativeCursor}
    (ordered : (state.unitModel start.unit).isOrdered = true)
    (below : Relation.TransGen state.IsChild start cursor) : start.index < cursor.index := by
  induction below with
  | single isChild =>
      obtain ⟨number, same, later, _⟩ := childCursors_of_isOrdered ordered isChild
      obtain rfl := Option.some.inj same
      exact later
  | @tail middle cursor reached isChild inductionHypothesis =>
      have orderedHere : (state.unitModel middle.unit).isOrdered = true := by
        rwa [unit_of_reaches reached.to_reflTransGen]
      obtain ⟨number, same, later, _⟩ := childCursors_of_isOrdered orderedHere isChild
      obtain rfl := Option.some.inj same
      exact inductionHypothesis.trans later

theorem Spreadable.of_isOrdered (ordered : (state.unitModel start.unit).isOrdered = true) :
    state.Spreadable start where
  filled cursor reached absent := by
    rw [← unit_of_reaches reached] at ordered
    obtain ⟨_, impossible, _⟩ := childCursors_of_isOrdered ordered absent
    cases impossible
  acyclic cursor reached cyclic := by
    rw [← unit_of_reaches reached] at ordered
    exact absurd (index_lt_of_below ordered cyclic) (Nat.lt_irrefl _)

theorem hasCursor_of_isOrdered {cursor : NativeCursor}
    (ordered : (state.unitModel start.unit).isOrdered = true)
    (present : state.hasCursor start = true)
    (reached : Relation.ReflTransGen state.IsChild start cursor) :
    state.hasCursor cursor = true := by
  cases reached with
  | refl => exact present
  | @tail middle _ before isChild =>
      rw [← unit_of_reaches before] at ordered
      obtain ⟨number, same, _, within⟩ := childCursors_of_isOrdered ordered isChild
      obtain rfl := Option.some.inj same
      exact decide_eq_true within

end State
end Library
end Custody
