import Custody.Proofs.Library.Loans
import Custody.Proofs.Text.Synchrony

/-!
# Strings of the library come back as text

A text without zero characters that the library stores is read as it was, however the string is
read and whatever stands behind its end.  A string counts as absent exactly if there is nothing to
read, and giving it back makes no difference to what is read.
-/

namespace Custody

namespace Utf8

/-- Only the bytes of the zero character have a zero among them. -/
theorem zero_notMem_encodeChar {character : Char} (other : character ≠ '\x00') :
    0 ∉ String.utf8EncodeChar character := by
  have positive : character.val.toNat ≠ 0 := by
    intro zero
    refine other (Char.ext (UInt32.toNat_inj.mp ?_))
    exact zero
  have valid := valid_val character
  have apart (number : Nat) (bytes : Bytes) (some : number % 256 ≠ 0) (rest : 0 ∉ bytes) :
      0 ∉ UInt8.ofNat number :: bytes := by
    rw [List.mem_cons, not_or]
    refine ⟨fun zero => some ?_, rest⟩
    simpa using (congrArg UInt8.toNat zero).symm
  unfold String.utf8EncodeChar
  dsimp only
  generalize character.val.toNat = code at positive valid
  split
  · exact apart _ _ (by omega) (by simp)
  split
  · exact apart _ _ (by omega) (apart _ _ (by omega) (by simp))
  split
  · exact apart _ _ (by omega) (apart _ _ (by omega) (apart _ _ (by omega) (by simp)))
  · exact apart _ _ (by omega) (apart _ _ (by omega) (apart _ _ (by omega)
      (apart _ _ (by omega) (by simp))))

/-- The bytes of a text have no zero among them if the text has none. -/
theorem zero_notMem_encode {characters : List Char} (clean : '\x00' ∉ characters) :
    0 ∉ encode characters := by
  unfold encode
  rw [List.mem_flatMap]
  rintro ⟨character, member, zero⟩
  refine zero_notMem_encodeChar ?_ zero
  rintro rfl
  exact clean member

theorem encode_eq_nil_iff {characters : List Char} : encode characters = [] ↔ characters = [] := by
  rw [← decodeReplacing_eq_nil_iff, decodeReplacing_encode]

end Utf8

namespace Bytes

/-- Bytes without a zero among them are taken whole, and then those behind them up to a zero. -/
theorem upToZero_append {bytes : Bytes} (clean : 0 ∉ bytes) (others : Bytes) :
    upToZero (bytes ++ others) = bytes ++ upToZero others := by
  refine List.takeWhile_append_of_pos fun byte member => ?_
  rw [decide_eq_true_iff]
  rintro rfl
  exact clean member

@[simp] theorem upToZero_zero_cons (others : Bytes) : upToZero (0 :: others) = [] := rfl

end Bytes

namespace Library.Call

/-- What is given back when a string is read is the string, if it has data. -/
theorem settle?_run (lent : Lent) (state : State) :
    Id.run (StateT.run (settle? lent) state) =
      (lent.loan.read?, { state with returned := state.returned ++ lent.due }) := by
  unfold settle? Lent.due
  cases lent.loan.isDue with
  | true => rfl
  | false =>
      change (lent.loan.read?, state) = (_, { state with returned := state.returned ++ [] })
      rw [List.append_nil]

theorem settle_run (lent : Lent) (state : State) :
    Id.run (StateT.run (settle lent) state) =
      (lent.loan.read, { state with returned := state.returned ++ lent.due }) := by
  have unfolded : Id.run (StateT.run (settle lent) state) =
      ((Id.run (StateT.run (settle? lent) state)).1.getD "",
        (Id.run (StateT.run (settle? lent) state)).2) := rfl
  rw [unfolded, settle?_run]
  rfl

end Library.Call

namespace Loan

open Utf8

/-- A string of the library that can be read holds a text, maybe with other bytes behind its
end. -/
structure Stores (loan : Loan) (text : String) : Prop where
  /-- The library shows its bytes. -/
  readable : loan.readable = true
  /-- The text does not end early. -/
  clean : '\x00' ∉ text.toList
  /-- The bytes are those of the text, up to the end. -/
  data : loan.data = some (encode text.toList) ∨
    ∃ others, loan.data = some (encode text.toList ++ 0 :: others)

/-- There is nothing to read: no data, no bytes shown, or none before the first zero. -/
inductive Lacks (loan : Loan) : Prop
  /-- The string is a null pointer. -/
  | null (absent : loan.data = none) : Lacks loan
  /-- The library shows no bytes. -/
  | unreadable (hidden : loan.readable = false) : Lacks loan
  /-- There are no bytes before the first zero. -/
  | empty {bytes : Bytes} (present : loan.data = some bytes) (ends : bytes.upToZero = []) :
      Lacks loan

theorem decode?_eq_none_iff {bytes : Option Bytes} :
    decode? bytes = none ↔ bytes = none ∨ bytes = some [] := by
  cases bytes with
  | none => simp [decode?]
  | some bytes => cases bytes <;> simp [decode?]

theorem decode?_of_ne_nil {bytes : Bytes} (present : bytes ≠ []) :
    decode? (some bytes) = some (String.ofList (decodeReplacing bytes)) := by
  cases bytes with
  | nil => exact absurd rfl present
  | cons byte bytes => rfl

/-- A text that is there is read as it was written. -/
theorem decode?_encode {text : String} (present : text ≠ "") :
    decode? (some (encode text.toList)) = some text := by
  have bytes : encode text.toList ≠ [] := by
    rw [ne_eq, encode_eq_nil_iff, String.toList_eq_nil_iff]
    exact present
  rw [decode?_of_ne_nil bytes, decodeReplacing_encode, String.ofList_toList]

/-- Bytes are never read as the empty text. -/
theorem decode?_ne_empty (bytes : Option Bytes) : decode? bytes ≠ some "" := by
  cases bytes with
  | none => exact nofun
  | some bytes =>
      cases bytes with
      | nil => exact nofun
      | cons byte bytes =>
          intro empty
          have nothing := congrArg String.toList (Option.some.inj empty)
          rw [String.toList_ofList] at nothing
          exact List.cons_ne_nil byte bytes (decodeReplacing_eq_nil_iff.mp nothing)

theorem read?_eq_none_iff (loan : Loan) : loan.read? = none ↔ loan.Lacks := by
  obtain ⟨data, readable⟩ := loan
  unfold read?
  rw [decode?_eq_none_iff]
  constructor
  · intro nothing
    cases readable with
    | false => exact .unreadable rfl
    | true =>
        cases data with
        | none => exact .null rfl
        | some bytes => exact .empty rfl (by simpa [visible?] using nothing)
  · rintro (absent | hidden | ⟨present, ends⟩)
    · simp [visible?, show data = none from absent]
    · simp [visible?, show readable = false from hidden]
    · cases readable with
      | false => simp [visible?]
      | true => simp [visible?, show data = some _ from present, ends]

section Stored

variable {loan : Loan} {text : String}

theorem visible?_of_stores (stores : loan.Stores text) :
    loan.visible? = some (encode text.toList) := by
  have clean := zero_notMem_encode stores.clean
  unfold visible?
  rw [if_pos stores.readable]
  rcases stores.data with whole | ⟨others, more⟩
  · rw [whole, Option.map_some, ← List.append_nil (encode text.toList),
      Bytes.upToZero_append clean]
    rfl
  · rw [more, Option.map_some, Bytes.upToZero_append clean, Bytes.upToZero_zero_cons,
      List.append_nil]

theorem read?_of_stores (stores : loan.Stores text) (present : text ≠ "") :
    loan.read? = some text := by
  unfold read?
  rw [visible?_of_stores stores, decode?_encode present]

theorem read_of_stores (stores : loan.Stores text) : loan.read = text := by
  unfold read
  by_cases empty : text = ""
  · subst empty
    have nothing : loan.read? = none := by
      unfold read?
      rw [visible?_of_stores stores]
      rfl
    rw [nothing]
    rfl
  · rw [read?_of_stores stores empty]
    rfl

end Stored

/-- How strings of the library become text. -/
structure ReadsFaithfully : Prop where
  /-- Bytes between two texts swallow or alter nothing of them, and are read as if they stood
  alone. -/
  between : ∀ (before after : List Char) (bytes : Bytes),
    decodeReplacing (encode before ++ bytes ++ encode after) =
      before ++ decodeReplacing bytes ++ after
  /-- There is a character for every character and for every maximal invalid subpart. -/
  replaces : ∀ bytes, ∃ pieces, Cuts bytes pieces ∧
    decodeReplacing bytes = pieces.map Piece.replaced
  /-- A text that is stored comes back, and unless it is empty it does not count as absent. -/
  stored : ∀ (loan : Loan) (text : String), loan.Stores text →
    loan.settle.1 = text ∧ loan.read = text ∧
    (text ≠ "" → loan.settle?.1 = some text ∧ loan.read? = some text)
  /-- Plain bytes of a text are read as the text unless it is empty. -/
  decoded : ∀ text : String, text ≠ "" → decode? (some (encode text.toList)) = some text
  /-- Giving a string back does not change what is read, and it is given back if it has data. -/
  settled : ∀ (lent : Library.Lent) (state : Library.State),
    lent.loan.settle? = (lent.loan.read?, lent.loan.data.isSome) ∧
    lent.loan.settle = (lent.loan.read?.getD "", lent.loan.data.isSome) ∧
    Id.run (StateT.run (Library.Call.settle? lent) state) =
      (lent.loan.read?, { state with returned := state.returned ++ lent.due }) ∧
    Id.run (StateT.run (Library.Call.settle lent) state) =
      (lent.loan.read, { state with returned := state.returned ++ lent.due })
  /-- A string counts as absent exactly if there is nothing to read; it is never read as the empty
  text. -/
  absent : ∀ loan : Loan, (loan.read? = none ↔ loan.Lacks) ∧ loan.read? ≠ some ""
  /-- Plain bytes count as absent exactly if there are none. -/
  missing : ∀ bytes, (decode? bytes = none ↔ bytes = none ∨ bytes = some []) ∧
    decode? bytes ≠ some ""

theorem reads_faithfully : ReadsFaithfully where
  between := decodeReplacing_between
  replaces bytes := ⟨_, cuts_pieces_idle bytes, rfl⟩
  stored _ _ stores := ⟨read_of_stores stores, read_of_stores stores, fun present =>
    ⟨read?_of_stores stores present, read?_of_stores stores present⟩⟩
  decoded _ := decode?_encode
  settled lent state :=
    ⟨rfl, rfl, Library.Call.settle?_run lent state, Library.Call.settle_run lent state⟩
  absent loan := ⟨loan.read?_eq_none_iff, decode?_ne_empty _⟩
  missing bytes := ⟨decode?_eq_none_iff, decode?_ne_empty bytes⟩

end Loan
end Custody
