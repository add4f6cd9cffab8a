import Custody.Proofs.Changes
import Custody.Yaml.Printer

/-!
# Matching documents

A value of a document is given by a number, and so are its parts.  Two values of two documents are
the same when their numbers can be matched one to one, such that matched values have matched parts
and are equal otherwise.  Then both are shown alike, since a collection is cut off in the one
exactly if it is in the other.
-/

namespace Custody
namespace Yaml

/-- Two values without parts are equal, and of two others the parts are matched. -/
inductive Cell.Alike (same : Nat → Nat → Prop) : Cell → Cell → Prop
  /-- A value without parts. -/
  | scalar (value : Datum) : Alike same (.scalar value) (.scalar value)
  /-- Two lists. -/
  | list {items others : List Nat} (matched : List.Forall₂ same items others) :
      Alike same (.list items) (.list others)
  /-- Two lists of pairs. -/
  | pairs {items others : List (Nat × Nat)}
      (matched : List.Forall₂ (fun item other => same item.1 other.1 ∧ same item.2 other.2)
        items others) :
      Alike same (.pairs items) (.pairs others)
  /-- A set. -/
  | set (items : List Datum) : Alike same (.set items) (.set items)
  /-- Two mappings. -/
  | map {entries others : List (Datum × Nat)}
      (matched : List.Forall₂ (fun entry other => entry.1 = other.1 ∧ same entry.2 other.2)
        entries others) :
      Alike same (.map entries) (.map others)

namespace Document

variable {left right : Document} {same : Nat → Nat → Prop}

/-- Numbers of two documents are matched one to one, and matched values are alike. -/
structure Matching (left right : Document) (same : Nat → Nat → Prop) : Prop where
  /-- No number is matched with two others. -/
  single : ∀ {first second other another : Nat}, same first other → same second another →
    (first = second ↔ other = another)
  /-- Matched values are alike. -/
  alike : ∀ {number other : Nat}, same number other →
    Cell.Alike same (left.cell number) (right.cell other)

/-- A value of one document is the same as one of another document. -/
def SameValue (left right : Document) (number other : Nat) : Prop :=
  ∃ same, Matching left right same ∧ same number other

/-- Every value is the same as itself. -/
theorem SameValue.refl (document : Document) (number : Nat) :
    SameValue document document number number := by
  refine ⟨Eq, ⟨?_, ?_⟩, rfl⟩
  · rintro first second _ _ rfl rfl
    rfl
  · rintro number _ rfl
    cases document.cell number with
    | scalar value => exact .scalar value
    | list items => exact .list (List.forall₂_same.mpr fun _ _ => rfl)
    | pairs items => exact .pairs (List.forall₂_same.mpr fun _ _ => ⟨rfl, rfl⟩)
    | set items => exact .set items
    | map entries => exact .map (List.forall₂_same.mpr fun _ _ => ⟨rfl, rfl⟩)

/-- Two values with parts are matched. -/
inductive Whole.Alike (same : Nat → Nat → Prop) : Whole → Whole → Prop
  /-- Two collections. -/
  | collection {number other : Nat} (matched : same number other) :
      Alike same (.collection number) (.collection other)
  /-- Two pairs at one position of two lists. -/
  | pair {list other : Nat} (matched : same list other) (position : Nat) :
      Alike same (.pair list position) (.pair other position)

theorem Matching.whole_eq_iff (matching : Matching left right same)
    {first second other another : Whole} (matched : Whole.Alike same first other)
    (matchedToo : Whole.Alike same second another) : first = second ↔ other = another := by
  cases matched with
  | collection inside =>
      cases matchedToo with
      | collection insideToo => simpa using matching.single inside insideToo
      | pair insideToo position => simp
  | pair inside position =>
      cases matchedToo with
      | collection insideToo => simp
      | pair insideToo positionToo =>
          simp only [Whole.pair.injEq, matching.single inside insideToo]

/-- A collection is inside itself in both documents or in none. -/
theorem Matching.contains_eq (matching : Matching left right same) {path others : List Whole}
    (matched : List.Forall₂ (Whole.Alike same) path others) {whole other : Whole}
    (here : Whole.Alike same whole other) : path.contains whole = others.contains other := by
  induction matched with
  | nil => rfl
  | cons first _ inductionHypothesis =>
      rw [List.contains_cons, List.contains_cons, inductionHypothesis]
      congr 1
      exact decide_eq_decide.mpr (matching.whole_eq_iff here first)

theorem forall₂_zipIdx {α β : Type} {related : α → β → Prop} {items : List α} {others : List β}
    (matched : List.Forall₂ related items others) (position : Nat) :
    List.Forall₂ (fun item other => related item.1 other.1 ∧ item.2 = other.2)
      (items.zipIdx position) (others.zipIdx position) := by
  induction matched generalizing position with
  | nil => exact .nil
  | cons first _ inductionHypothesis =>
      exact .cons ⟨first, rfl⟩ (inductionHypothesis (position + 1))

/-- Matched values and matched pairs are written alike. -/
theorem Matching.written_eq (matching : Matching left right same) (bound : Nat) :
    (∀ {path trail : List Whole} {number other : Nat},
      List.Forall₂ (Whole.Alike same) path trail → same number other →
        left.writtenInside bound path number = right.writtenInside bound trail other) ∧
    ∀ {path trail : List Whole} {whole another : Whole} {pair other : Nat × Nat},
      List.Forall₂ (Whole.Alike same) path trail → Whole.Alike same whole another →
        same pair.1 other.1 → same pair.2 other.2 →
          left.writtenPair bound path whole pair = right.writtenPair bound trail another other := by
  induction bound with
  | zero => exact ⟨fun _ _ => rfl, fun _ _ _ _ => rfl⟩
  | succ bound inductionHypothesis =>
      obtain ⟨inside, pairInside⟩ := inductionHypothesis
      constructor
      · intro path trail number other matched here
        have whole : Whole.Alike same (.collection number) (.collection other) := .collection here
        have further : List.Forall₂ (Whole.Alike same) (.collection number :: path)
            (.collection other :: trail) := .cons whole matched
        have alike := matching.alike here
        unfold writtenInside
        dsimp only
        rw [matching.contains_eq matched whole]
        generalize left.cell number = cell at alike ⊢
        generalize right.cell other = another at alike ⊢
        cases alike with
        | scalar value => rfl
        | set items => cases items <;> rfl
        | list parts =>
            dsimp only
            rw [mapM_eq_of_forall₂ (parts.imp fun _ _ part => inside further part)]
        | pairs parts =>
            dsimp only
            split
            · rfl
            · refine congrArg (· >>= _) (mapM_eq_of_forall₂ ((forall₂_zipIdx parts 0).imp ?_))
              rintro ⟨pair, position⟩ ⟨another, _⟩ ⟨part, rfl⟩
              exact pairInside further (.pair here position) part.1 part.2
        | map parts =>
            dsimp only
            split
            · rfl
            · refine congrArg (· >>= _) (mapM_eq_of_forall₂ (parts.imp ?_))
              rintro ⟨key, value⟩ ⟨_, another⟩ ⟨rfl, part⟩
              dsimp only
              rw [inside further part]
      · intro path trail whole another pair other matched here first second
        have further := List.Forall₂.cons here matched
        unfold writtenPair
        dsimp only
        rw [matching.contains_eq matched here, inside further first, inside further second]

/-- A value that is the same in two documents is shown alike. -/
theorem SameValue.shown_eq {number other : Nat} (matched : SameValue left right number other)
    (bound : Nat) : left.shown bound number = right.shown bound other := by
  obtain ⟨same, matching, here⟩ := matched
  have written := (matching.written_eq bound).1 .nil here
  have alike := matching.alike here
  unfold shown Document.written
  rw [written]
  generalize left.cell number = cell at alike ⊢
  generalize right.cell other = another at alike ⊢
  cases alike <;> rfl

end Document
end Yaml
end Custody
