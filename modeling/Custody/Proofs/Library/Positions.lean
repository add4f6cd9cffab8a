import Mathlib.Data.List.TakeWhile
import Custody.Library.Source

/-!
# Offsets, positions, lines and columns

Every offset of every listed file, its end included, has a position of its own, and
the spot at that position is the offset.  The line and column of an offset lead back
to the offset, whatever bytes the text is made of and whether or not it ends with a
line feed.
-/

namespace Custody
namespace Source

section Space

variable {files : List SourceFile} {index offset : Nat}

theorem one_le_startOf (files : List SourceFile) (index : Nat) : 1 ≤ startOf files index := by
  cases files with
  | nil => exact Nat.le_refl 1
  | cons file rest =>
      cases index with
      | zero => exact Nat.le_refl 1
      | succ index =>
          rw [startOf_succ]
          omega

/-- An offset after the end of a file has the position of the end. -/
theorem positionOf_clamped (files : List SourceFile) (index offset : Nat) :
    positionOf files ⟨index, min offset (sizeOf files index)⟩ = positionOf files ⟨index, offset⟩ := by
  simp [positionOf]

theorem spotAtDistance?_of_listed
    (listed : index < files.length)
    (inside : offset ≤ sizeOf files index) :
    spotAtDistance? files (startOf files index - 1 + offset) = some ⟨index, offset⟩ := by
  induction files generalizing index with
  | nil => cases listed
  | cons file rest inductionHypothesis =>
      cases index with
      | zero =>
          have short : offset ≤ file.size := inside
          simp [spotAtDistance?, short]
      | succ index =>
          have beyond := one_le_startOf rest index
          have past : ¬ startOf (file :: rest) (index + 1) - 1 + offset ≤ file.size := by
            rw [startOf_succ]
            omega
          have left : startOf (file :: rest) (index + 1) - 1 + offset - (file.size + 1) =
              startOf rest index - 1 + offset := by
            rw [startOf_succ]
            omega
          rw [spotAtDistance?, if_neg past, left,
            inductionHypothesis (Nat.lt_of_succ_lt_succ listed) inside]
          rfl

/-- The spot at the position of a spot is that spot. -/
theorem spotAt?_positionOf
    (listed : index < files.length)
    (inside : offset ≤ sizeOf files index) :
    spotAt? files (positionOf files ⟨index, offset⟩) = some ⟨index, offset⟩ := by
  have somewhere := one_le_startOf files index
  have whole : positionOf files ⟨index, offset⟩ = startOf files index + offset := by
    simp [positionOf, inside]
  rw [whole, spotAt?, if_neg (by omega), Nat.sub_add_comm somewhere]
  exact spotAtDistance?_of_listed listed inside

/-- Different spots have different positions. -/
theorem positionOf_inj {other otherOffset : Nat}
    (listed : index < files.length)
    (inside : offset ≤ sizeOf files index)
    (otherListed : other < files.length)
    (otherInside : otherOffset ≤ sizeOf files other) :
    positionOf files ⟨index, offset⟩ = positionOf files ⟨other, otherOffset⟩ ↔
      index = other ∧ offset = otherOffset := by
  constructor
  · intro same
    have found := spotAt?_positionOf listed inside
    rw [same, spotAt?_positionOf otherListed otherInside] at found
    cases found
    exact ⟨rfl, rfl⟩
  · rintro ⟨rfl, rfl⟩
    rfl

end Space

section Lines

/-- How many bytes a text has after its last line feed. -/
def tailLength (text : Bytes) : Nat := (text.reverse.takeWhile (· ≠ lineFeed)).length

theorem tailLength_le (text : Bytes) : tailLength text ≤ text.length := by
  have short := (List.takeWhile_sublist (· ≠ lineFeed) (l := text.reverse)).length_le
  rwa [List.length_reverse] at short

/-- A text without a line feed is all tail. -/
theorem tailLength_of_notMem {text : Bytes} (absent : lineFeed ∉ text) :
    tailLength text = text.length := by
  have whole : text.reverse.takeWhile (· ≠ lineFeed) = text.reverse := by
    rw [List.takeWhile_eq_self_iff]
    intro byte member
    rw [decide_eq_true_iff]
    rintro rfl
    exact absent (List.mem_reverse.mp member)
  rw [tailLength, whole, List.length_reverse]

/-- What stands before a line feed is no part of the tail. -/
theorem tailLength_cons_of_mem {text : Bytes} (present : lineFeed ∈ text) (byte : UInt8) :
    tailLength (byte :: text) = tailLength text := by
  have cut : (text.reverse.takeWhile (· ≠ lineFeed)).length ≠ text.reverse.length := by
    intro whole
    have all : text.reverse.takeWhile (· ≠ lineFeed) = text.reverse :=
      (List.takeWhile_prefix _).eq_of_length whole
    have other := List.takeWhile_eq_self_iff.mp all lineFeed (List.mem_reverse.mpr present)
    simp at other
  rw [tailLength, tailLength, List.reverse_cons, List.takeWhile_append, if_neg cut]

/-- A line feed in front of a text is no part of its tail. -/
theorem tailLength_cons_lineFeed (text : Bytes) :
    tailLength (lineFeed :: text) = tailLength text := by
  have stopped : ([lineFeed].takeWhile (· ≠ lineFeed)) = [] := by simp
  rw [tailLength, List.reverse_cons, List.takeWhile_append, stopped, List.append_nil, tailLength]
  split
  · next whole => exact whole.symm
  · rfl

/-- The last of the lines of a text starts where its tail does, also when the text goes on. -/
theorem lineStart?_count (text : Bytes) (offset : Nat) (inside : offset ≤ text.length) :
    lineStart? text ((text.take offset).count lineFeed) =
      some (offset - tailLength (text.take offset)) := by
  induction text generalizing offset with
  | nil =>
      have nothing : offset = 0 := Nat.le_zero.mp inside
      subst nothing
      rfl
  | cons byte rest inductionHypothesis =>
      cases offset with
      | zero =>
          rw [List.take_zero]
          rfl
      | succ offset =>
          have insideRest : offset ≤ rest.length := Nat.le_of_succ_le_succ inside
          have further := inductionHypothesis offset insideRest
          have short : tailLength (rest.take offset) ≤ offset :=
            (tailLength_le _).trans (List.length_take_le _ _)
          rw [List.take_succ_cons]
          by_cases feed : byte = lineFeed
          · subst feed
            rw [List.count_cons_self, tailLength_cons_lineFeed, lineStart?, if_pos rfl, further,
              Option.map_some, Nat.sub_add_comm short]
          · rw [List.count_cons_of_ne feed]
            by_cases present : lineFeed ∈ rest.take offset
            · obtain ⟨line, counted⟩ : ∃ line, (rest.take offset).count lineFeed = line + 1 :=
                Nat.exists_eq_add_one.mpr (List.count_pos_iff.mpr present)
              rw [counted] at further ⊢
              rw [tailLength_cons_of_mem present, lineStart?, if_neg feed, further,
                Option.map_some, Nat.sub_add_comm short]
            · have absent : lineFeed ∉ byte :: rest.take offset := by
                simp [present, Ne.symm feed]
              rw [List.count_eq_zero_of_not_mem present, tailLength_of_notMem absent,
                List.length_cons, List.length_take_of_le insideRest, Nat.sub_self]
              rfl

/-- The line and column of an offset lead back to it. -/
theorem offsetAt_lineAt_columnAt {text : Bytes} {offset : Nat} (inside : offset ≤ text.length) :
    offsetAt text (lineAt text offset) (columnAt text offset) = offset := by
  have short : tailLength (text.take offset) ≤ offset :=
    (tailLength_le _).trans (List.length_take_le _ _)
  have line : lineAt text offset - 1 = (text.take offset).count lineFeed :=
    Nat.add_sub_cancel_left _ _
  have column : columnAt text offset - 1 = tailLength (text.take offset) :=
    Nat.add_sub_cancel_left _ _
  rw [offsetAt, line, lineStart?_count text offset inside, column]
  exact Nat.sub_add_cancel short

theorem one_le_lineAt (text : Bytes) (offset : Nat) : 1 ≤ lineAt text offset :=
  Nat.le_add_right 1 _

theorem one_le_columnAt (text : Bytes) (offset : Nat) : 1 ≤ columnAt text offset :=
  Nat.le_add_right 1 _

end Lines
end Source
end Custody
