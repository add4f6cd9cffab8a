import Custody.Proofs.Changes
import Custody.ShellWords

/-!
# Quoted words

A line is read from its start, so what is left after some of it depends on the state that reading
it ends in.  A quoted word ends in a word, whichever glyphs it has, and a blank after a line that can
be split parts all of its words from those after it.  Therefore quoted words are split into
themselves, and lines that are parted by a blank are split one by one.
-/

namespace Custody
namespace ShellWords

/-- The words that reading a line completes, and the state it ends in. -/
def reach (state : State) : List Glyph → List (List Glyph) × State
  | [] => ([], state)
  | glyph :: rest =>
      ((step state glyph).1 ++ (reach (step state glyph).2 rest).1,
        (reach (step state glyph).2 rest).2)

@[simp] theorem reach_nil (state : State) : reach state [] = ([], state) := rfl

theorem reach_cons (state : State) (glyph : Glyph) (rest : List Glyph) :
    reach state (glyph :: rest) =
      ((step state glyph).1 ++ (reach (step state glyph).2 rest).1,
        (reach (step state glyph).2 rest).2) := rfl

theorem reach_append (state : State) (left right : List Glyph) :
    reach state (left ++ right) =
      ((reach state left).1 ++ (reach (reach state left).2 right).1,
        (reach (reach state left).2 right).2) := by
  induction left generalizing state with
  | nil => rfl
  | cons glyph left inductionHypothesis =>
      rw [List.cons_append, reach_cons, reach_cons, inductionHypothesis, List.append_assoc]

/-- A line is split by reading it to its end. -/
theorem splitFrom_eq (state : State) (line : List Glyph) :
    splitFrom state line = (finish (reach state line).2).map ((reach state line).1 ++ ·) := by
  induction line generalizing state with
  | nil => cases state <;> rfl
  | cons glyph line inductionHypothesis =>
      rw [splitFrom_cons, inductionHypothesis, reach_cons]
      cases finish (reach (step state glyph).2 line).2 with
      | error failure => rfl
      | ok words => simp only [Except.map, List.append_assoc]

/-- What is left of a line is split from the state that its start ends in. -/
theorem splitFrom_append (state : State) (left right : List Glyph) :
    splitFrom state (left ++ right) =
      (splitFrom (reach state left).2 right).map ((reach state left).1 ++ ·) := by
  rw [splitFrom_eq, splitFrom_eq, reach_append]
  cases finish (reach (reach state left).2 right).2 with
  | error failure => rfl
  | ok words => simp only [Except.map, List.append_assoc]

/-- Where a line may end, a blank completes the same words and leaves no word begun. -/
theorem step_of_finish {state : State} {words : List (List Glyph)} {glyph : Glyph}
    (finished : finish state = .ok words) (blank : isBlank glyph = true) :
    step state glyph = (words, .between) := by
  cases state with
  | between =>
      cases finished
      exact if_pos blank
  | word taken =>
      cases finished
      exact if_pos blank
  | single taken => cases finished
  | double taken => cases finished
  | escaped taken => cases finished
  | doubleEscaped taken => cases finished

/-- A blank after a line that can be split parts its words from those after it. -/
theorem splitFrom_append_cons {state : State} {left right : List Glyph}
    {words : List (List Glyph)} {glyph : Glyph} (split : splitFrom state left = .ok words)
    (blank : isBlank glyph = true) :
    splitFrom state (left ++ glyph :: right) = (splitFrom .between right).map (words ++ ·) := by
  rw [splitFrom_eq, map_eq_ok_iff] at split
  obtain ⟨last, finished, rfl⟩ := split
  rw [splitFrom_append, splitFrom_cons, step_of_finish finished blank]
  cases splitFrom .between right with
  | error failure => rfl
  | ok more => simp only [Except.map, List.append_assoc]

section Quoting

variable (word taken : List Glyph)

/-- The inside of a quoted word is read glyph by glyph, whichever they are. -/
theorem reach_quoteInside :
    reach (.single taken) (quoteInside word) = ([], .single (taken ++ word)) := by
  induction word generalizing taken with
  | nil => rw [quoteInside, reach_nil, List.append_nil]
  | cons glyph word inductionHypothesis =>
      rw [quoteInside, List.append_cons]
      split
      · -- The quote leaves the quotes, comes between double quotes and enters them again.
        subst glyph
        rw [reach_cons, reach_cons, reach_cons, reach_cons, reach_cons]
        exact inductionHypothesis _
      · rename_i plain
        rw [reach_cons]
        have inside : step (.single taken) glyph = ([], .single (taken ++ [glyph])) := if_neg plain
        rw [inside]
        exact inductionHypothesis _

/-- A quoted word begins a word, also if it has no glyphs. -/
theorem reach_quote : reach .between (quote word) = ([], .word word) := by
  rw [quote, reach_append, reach_cons]
  have opened : step .between singleQuote = ([], .single []) := rfl
  rw [opened, reach_quoteInside]
  rfl

theorem splitFrom_quote : splitFrom .between (quote word) = .ok [word] := by
  rw [splitFrom_eq, reach_quote]
  rfl

/-- Quoted words are split into themselves. -/
theorem splitFrom_quoteAll (words : List (List Glyph)) :
    splitFrom .between (quoteAll words) = .ok words := by
  induction words with
  | nil => rfl
  | cons word words inductionHypothesis =>
      cases words with
      | nil => exact splitFrom_quote word
      | cons next words =>
          rw [quoteAll, splitFrom_append_cons (splitFrom_quote word) rfl, inductionHypothesis]
          rfl

end Quoting

/-- The line of some words, each between single quotes. -/
def line (words : List Text) : Text := ⟨quoteAll (words.map Text.glyphs)⟩

theorem split_line (words : List Text) : split (line words) = .ok words := by
  unfold split line
  rw [splitFrom_quoteAll]
  change Except.ok ((words.map Text.glyphs).map Text.mk) = _
  rw [List.map_map]
  exact congrArg Except.ok (List.map_id words)

/-- Lines that can be split are split one by one when a space parts them. -/
theorem split_append {left right : Text} {words more : List Text}
    (splitLeft : split left = .ok words) (splitRight : split right = .ok more) :
    split (left ++ " " ++ right) = .ok (words ++ more) := by
  obtain ⟨wordsLeft, readLeft, rfl⟩ := map_eq_ok_iff.mp splitLeft
  obtain ⟨wordsRight, readRight, rfl⟩ := map_eq_ok_iff.mp splitRight
  have parted : (left ++ " " ++ right).glyphs =
      left.glyphs ++ Glyph.char ' ' :: right.glyphs := by
    rw [Text.glyphs_append, Text.glyphs_append, List.append_assoc]
    rfl
  unfold split
  rw [parted, splitFrom_append_cons readLeft rfl, readRight]
  exact congrArg Except.ok List.map_append

/-- The line of no words is empty, and no other line is. -/
theorem isEmpty_line (words : List Text) : (line words).isEmpty = words.isEmpty := by
  match words with
  | [] => rfl
  | [_] => rfl
  | _ :: _ :: _ => rfl

/-- A quote inside of a word, an empty word and one with blanks. -/
example : split (line ["a\x27b", "", "c  d"]) = .ok ["a\x27b", "", "c  d"] := by decide

end ShellWords
end Custody
