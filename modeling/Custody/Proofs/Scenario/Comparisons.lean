import Custody.Proofs.Scenario.Queries
import Custody.Proofs.Session.Outcomes
import Custody.Scenario.Equality

/-!
# The conduct of comparisons

Making a key of an anchored value only reads.  Comparing two values changes nothing
in the session but the list of misused handles: a file on the right is used although
only the owner of the file on the left was found to be open.  Which handles are
misused can be told beforehand.
-/

namespace Custody

open Facade

/-- A session after further handles were misused. -/
def Session.straying (session : Session) (handles : List Handle) : Session :=
  { session with
    library := { session.library with strays := session.library.strays ++ handles } }

theorem Session.straying_nil (session : Session) : session.straying [] = session := by
  simp [Session.straying]

theorem Session.straying_straying (session : Session) (first second : List Handle) :
    (session.straying first).straying second = session.straying (first ++ second) := by
  simp [Session.straying]

/-- Holdings after further handles were misused. -/
def Holdings.straying (holdings : Holdings) (handles : List Handle) : Holdings :=
  { holdings with books := { holdings.books with strays := holdings.books.strays ++ handles } }

theorem Session.holdings_straying (session : Session) (handles : List Handle) :
    (session.straying handles).holdings = session.holdings.straying handles := rfl

protected theorem Holdings.Valid.straying {holdings : Holdings} (valid : holdings.Valid)
    (handles : List Handle) : (holdings.straying handles).Valid where
  accurate := ⟨valid.accurate.regular, valid.accurate.disposed, valid.accurate.ordered⟩
  orderly := valid.orderly.of_books _
  founded := valid.founded.of_same_parents rfl fun _ => rfl
  backed := valid.backed.of_books (fun _ _ _ _ standing => standing) fun _ _ _ _ gone => gone

namespace Facade

variable {α β : Type} {session : Session}

/-- An operation misuses certain handles and does nothing else; its result does not depend on
which handles were misused before. -/
def Strays (session : Session) (action : Facade α) (misused : List Handle) : Prop :=
  ∀ before, action.outcome (session.straying before) =
    ((action.outcome session).1, session.straying (before ++ misused))

theorem Strays.pure (value : α) : Strays session (Pure.pure value) [] := by
  intro before
  rw [List.append_nil]
  rfl

theorem Strays.outcome_eq {action : Facade α} {misused : List Handle}
    (strays : Strays session action misused) :
    action.outcome session = ((action.outcome session).1, session.straying misused) := by
  have first := strays []
  rw [session.straying_nil] at first
  exact first

/-- What follows on an operation that misuses nothing. -/
theorem Strays.plainThen {action : Facade α} {next : α → Facade β} {misused : List Handle}
    (first : Strays session action [])
    (succeeded : ∀ value, (action.outcome session).1 = .ok value →
      Strays session (next value) misused)
    (failed : ∀ failure, (action.outcome session).1 = .error failure → misused = []) :
    Strays session (action >>= next) misused := by
  intro before
  rw [outcome_bind, outcome_bind, first before, first.outcome_eq, session.straying_nil,
    List.append_nil]
  cases result : (action.outcome session).1 with
  | ok value => exact succeeded value result before
  | error failure =>
      rw [failed failure result, List.append_nil]

/-- A second question is asked only if the answer to the first one was yes. -/
theorem Strays.both {first second : Facade Bool} {firstMisused secondMisused : List Handle}
    (firstStrays : Strays session first firstMisused)
    (secondStrays : Strays session second secondMisused) :
    Strays session (do if ← first then second else return false)
      (firstMisused ++ match (first.outcome session).1 with
        | .ok true => secondMisused
        | _ => []) := by
  have answered (before : List Handle) :
      (do if ← first then second else return false : Facade Bool).outcome
          (session.straying before) =
        (match (first.outcome session).1 with
          | .ok true => (second.outcome session).1
          | .ok false => .ok false
          | .error failure => .error failure,
        session.straying (before ++ (firstMisused ++ match (first.outcome session).1 with
          | .ok true => secondMisused
          | _ => []))) := by
    rw [outcome_bind, firstStrays before]
    cases (first.outcome session).1 with
    | error failure => simp
    | ok answer =>
        cases answer with
        | false => simp
        | true => simp [secondStrays (before ++ firstMisused)]
  intro before
  have alone := answered []
  rw [session.straying_nil] at alone
  rw [answered before, alone]

end Facade

theorem Facade.ensureOpen_strays (session : Session) (number : Nat) :
    Strays session (ensureOpen number) [] := by
  intro before
  rw [ensureOpen_outcome, ensureOpen_outcome, List.append_nil]
  rfl

/-- Whether a handle is good does not depend on what was misused. -/
theorem Library.State.isGood_strays (state : Library.State) (strays : List Handle)
    (handle : Handle) :
    Library.State.isGood { state with strays := strays } handle = state.isGood handle := by
  rw [Library.State.isGood_eq, Library.State.isGood_eq]
  rfl

/-- Comparing files uses both origins. -/
theorem Library.Call.sameFile_run {state : Library.State} {left right : FileHandle}
    (good : state.isGood left.origin = true) :
    Id.run (StateT.run (sameFile left right) state) =
      (decide ((state.sourceFile left).identity = (state.sourceFile right).identity),
        if state.isGood right.origin then state
        else { state with strays := state.strays ++ [right.origin] }) := by
  have first : Id.run (StateT.run (use left.origin) state) = ((), state) := by
    change ((), if state.isGood left.origin then state else _) = _
    rw [if_pos good]
  have unfolded : Id.run (StateT.run (sameFile left right) state) =
      (let used := (Id.run (StateT.run (use right.origin)
        (Id.run (StateT.run (use left.origin) state)).2)).2
      (decide ((used.sourceFile left).identity = (used.sourceFile right).identity), used)) := rfl
  have second : Id.run (StateT.run (use right.origin) state) =
      ((), if state.isGood right.origin then state
        else { state with strays := state.strays ++ [right.origin] }) := rfl
  rw [unfolded, first]
  dsimp only
  rw [second]
  split <;> rfl

namespace File

/-- Comparing files misuses the origin of the second one if only the first one has an open
owner. -/
theorem agrees_strays {session : Session} {left : File} (valid : session.holdings.Valid)
    (anchored : left.Anchored session.made) (right : File) :
    Strays session (left.agrees right)
      (if session.estate.isOpen left.owner && !session.library.isGood right.native.origin then
        [right.native.origin] else []) := by
  refine (ensureOpen_strays session left.owner).plainThen ?_ ?_
  · rintro ⟨⟩ succeeded
    have opened := (ensureOpen_ok_iff session left.owner).mp succeeded
    have good : session.library.isGood left.native.origin = true := by
      rw [Library.State.isGood_eq]
      exact valid.good_of_made (Estate.isOpen_iff.mp opened) anchored
    intro before
    have goodBefore : (session.straying before).library.isGood left.native.origin = true :=
      (session.library.isGood_strays _ _).trans good
    change (Except.ok (Id.run (StateT.run (Library.Call.sameFile left.native right.native)
        (session.straying before).library)).1, { session.straying before with
          library := (Id.run (StateT.run (Library.Call.sameFile left.native right.native)
            (session.straying before).library)).2 }) =
      (Except.ok (Id.run (StateT.run (Library.Call.sameFile left.native right.native)
        session.library)).1, _)
    have sameGood : (session.straying before).library.isGood right.native.origin =
        session.library.isGood right.native.origin := session.library.isGood_strays _ _
    rw [Library.Call.sameFile_run goodBefore, Library.Call.sameFile_run good, opened, sameGood]
    cases session.library.isGood right.native.origin with
    | true =>
        change _ = (_, session.straying (before ++ []))
        rw [List.append_nil]
        rfl
    | false =>
        change _ = (_, session.straying (before ++ [right.native.origin]))
        rw [← session.straying_straying]
        rfl
  · intro failure failed
    have closed : session.estate.isOpen left.owner = false := by
      rw [← Bool.not_eq_true, ← ensureOpen_ok_iff, failed]
      simp
    simp [closed]

end File

namespace Value

mutual

/-- The handles that a comparison misuses, in order. -/
def misused (session : Session) : Value → Value → List Handle
  | .file left, .file right =>
      if session.estate.isOpen left.owner && !session.library.isGood right.native.origin then
        [right.native.origin] else []
  | .record _ left leftFields, .record _ right rightFields =>
      if left = right then misusedFields session leftFields rightFields else []
  | .list _ left, .list _ right =>
      if left.length = right.length then misusedItems session left right else []
  | .tuple _ left, .tuple _ right => misusedItems session left right
  | _, _ => []

/-- The handles that a comparison item by item misuses. -/
def misusedItems (session : Session) : List Value → List Value → List Handle
  | left :: lefts, right :: rights =>
      if left.same right then misusedItems session lefts rights
      else
        misused session left right ++
          match ((left.equal right).outcome session).1 with
          | .ok true => misusedItems session lefts rights
          | _ => []
  | _, _ => []

/-- The handles that a comparison of fields misuses. -/
def misusedFields (session : Session) :
    List (String × Value) → List (String × Value) → List Handle
  | (_, left) :: lefts, (_, right) :: rights =>
      if left.same right then misusedFields session lefts rights
      else
        misused session left right ++
          match ((left.equal right).outcome session).1 with
          | .ok true => misusedFields session lefts rights
          | _ => []
  | _, _ => []

end

/-- Comparing values misuses exactly the handles that can be told beforehand. -/
theorem equal_strays {session : Session} (valid : session.holdings.Valid) (left right : Value) :
    left.Anchored session.made →
      Strays session (left.equal right) (misused session left right) := by
  refine equal.induct
    (fun left right => left.Anchored session.made →
      Strays session (left.equal right) (misused session left right))
    (fun lefts rights => AreAnchored session.made lefts →
      Strays session (equalItems lefts rights) (misusedItems session lefts rights))
    (fun lefts rights => AreAnchoredFields session.made lefts →
      Strays session (equalFields lefts rights) (misusedFields session lefts rights))
    ?files ?locations ?ranges ?cursors ?commands ?records ?otherRecords ?lists ?otherLists ?tuples
    ?data ?others ?noFields ?sameField ?field ?otherFields ?noItems ?sameItem ?item ?otherItems
    left right
  case files =>
    intro left right anchored
    rw [equal, misused]
    exact File.agrees_strays valid anchored right
  case locations | ranges | cursors | commands =>
    intro left right _
    rw [equal, misused]
    · exact .pure _
    all_goals simp
  case records =>
    intro _ leftFields _ name rightFields inductionHypothesis anchored
    rw [equal, misused, if_pos rfl, if_pos rfl]
    exact inductionHypothesis anchored
  case otherRecords =>
    intro _ left leftFields _ right rightFields apart _
    rw [equal, misused, if_neg apart, if_neg apart]
    exact .pure false
  case lists =>
    intro _ left _ right sameLength inductionHypothesis anchored
    rw [equal, misused, if_pos sameLength, if_pos sameLength]
    exact inductionHypothesis anchored
  case otherLists =>
    intro _ left _ right apart _
    rw [equal, misused, if_neg apart, if_neg apart]
    exact .pure false
  case tuples =>
    intro _ left _ right inductionHypothesis anchored
    rw [equal, misused]
    exact inductionHypothesis anchored
  case noFields =>
    intro _
    rw [equalFields, misusedFields]
    · exact .pure true
    · simp
  case sameField =>
    intro _ left lefts _ right rights same inductionHypothesis anchored
    rw [equalFields, misusedFields, if_pos same, if_pos same]
    exact inductionHypothesis anchored.2
  case field =>
    intro _ left lefts _ right rights apart firstHypothesis restHypothesis anchored
    rw [equalFields, misusedFields, if_neg apart, if_neg apart]
    exact (firstHypothesis anchored.1).both (restHypothesis anchored.2)
  case noItems =>
    intro _
    rw [equalItems, misusedItems]
    · exact .pure true
    · simp
  case sameItem =>
    intro left lefts right rights same inductionHypothesis anchored
    rw [equalItems, misusedItems, if_pos same, if_pos same]
    exact inductionHypothesis anchored.2
  case item =>
    intro left lefts right rights apart firstHypothesis restHypothesis anchored
    rw [equalItems, misusedItems, if_neg apart, if_neg apart]
    exact (firstHypothesis anchored.1).both (restHypothesis anchored.2)
  case data =>
    intro left right _ _ _ _ _ _ _ _ leftDatum rightDatum rightFound leftFound _
    rw [equal, misused, leftFound, rightFound]
    · exact .pure _
    all_goals assumption
  case others =>
    intro left right _ _ _ _ _ _ _ _ noData _
    rw [equal, misused]
    · split
      · next leftFound rightFound => exact absurd rightFound (noData _ _ leftFound)
      · exact .pure _
    all_goals assumption
  case otherFields =>
    intro lefts rights _ _ _
    rw [equalFields, misusedFields]
    · exact .pure false
    all_goals assumption
  case otherItems =>
    intro lefts rights _ _ _
    rw [equalItems, misusedItems]
    · exact .pure false
    all_goals assumption

variable {holdings : Holdings}

mutual

/-- Making a key of an anchored value leaves the holdings alone. -/
theorem key_reads (valid : holdings.Valid) :
    (value : Value) → value.Anchored holdings.made → Reads holdings value.key fun _ => True
  | .file _, anchored => (File.name_reads valid anchored).bind fun _ _ => .pure True.intro
  | .location _, anchored => (Location.key_reads valid anchored).bind fun _ _ => .pure True.intro
  | .range _, anchored => (Range.key_reads valid anchored).bind fun _ _ => .pure True.intro
  | .loose _ _, _ => (Reads.ofExcept _).bind fun _ _ => .pure True.intro
  | .command _, _ => (Reads.ofExcept _).trivial
  | .record _ _ fields, anchored =>
      (fieldKeys_reads valid fields anchored).bind fun _ _ => .pure True.intro
  | .tuple _ items, anchored =>
      (itemKeys_reads valid items anchored).bind fun _ _ => .pure True.intro
  | .list _ _, _ => .throw _
  | .slot _, _ => .throw _
  | .nothing, _ => .pure True.intro
  | .bool _, _ => .pure True.intro
  | .int _, _ => .pure True.intro
  | .text _ _, _ => .pure True.intro
  | .bytes _ _, _ => .pure True.intro
  | .member _, _ => .pure True.intro
  | .kind _ _ _, _ => .pure True.intro
  | .flags _ _ _, _ => .pure True.intro
  | .holder _, _ => .pure True.intro
  | .unsaved _, _ => .pure True.intro
  | .cursor _, _ => .pure True.intro
  | .token _, _ => .pure True.intro
  | .view _ _, _ => .pure True.intro

theorem itemKeys_reads (valid : holdings.Valid) :
    (items : List Value) → AreAnchored holdings.made items →
      Reads holdings (itemKeys items) fun _ => True
  | [], _ => .pure True.intro
  | item :: items, anchored =>
      (key_reads valid item anchored.1).bind fun _ _ =>
        (itemKeys_reads valid items anchored.2).bind fun _ _ => .pure True.intro

theorem fieldKeys_reads (valid : holdings.Valid) :
    (fields : List (String × Value)) → AreAnchoredFields holdings.made fields →
      Reads holdings (fieldKeys fields) fun _ => True
  | [], _ => .pure True.intro
  | (_, value) :: fields, anchored =>
      (key_reads valid value anchored.1).bind fun _ _ =>
        (fieldKeys_reads valid fields anchored.2).bind fun _ _ => .pure True.intro

end

end Value
end Custody
