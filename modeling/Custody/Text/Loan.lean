import Custody.Text.Utf8

/-!
# Strings on loan

The library hands out strings that must be given back.  A loan may have no data
at all, or data whose bytes the library refuses to show.  Reading takes the bytes
before the first zero byte and decodes them, and an empty text counts as absent.
-/

namespace Custody

/-- The bytes before the first zero byte. -/
def Bytes.upToZero (bytes : Bytes) : Bytes := bytes.takeWhile (· ≠ 0)

/-- A string that the library hands out. -/
structure Loan where
  /-- The bytes, or nothing for a null pointer. -/
  data : Option Bytes
  /-- Whether the library shows the bytes. -/
  readable : Bool := true
  deriving DecidableEq, Inhabited

namespace Loan

/-- The text of bytes, absent when there are none. -/
def decode? (bytes : Option Bytes) : Option String :=
  match bytes with
  | none => none
  | some [] => none
  | some bytes => some (String.ofList (Utf8.decodeReplacing bytes))

/-- The bytes that the library shows. -/
def visible? (loan : Loan) : Option Bytes :=
  if loan.readable then loan.data.map Bytes.upToZero else none

/-- The text of a loan, absent when it is null, unreadable or empty. -/
def read? (loan : Loan) : Option String := decode? loan.visible?

/-- The text of a loan, empty when it is absent. -/
def read (loan : Loan) : String := loan.read?.getD ""

/-- A loan must be given back when it has data. -/
def isDue (loan : Loan) : Bool := loan.data.isSome

/-- Reading and giving back: the text, and whether something was given back. -/
def settle? (loan : Loan) : Option String × Bool := (loan.read?, loan.isDue)

/-- Reading and giving back, with the empty text for an absent one. -/
def settle (loan : Loan) : String × Bool := (loan.read, loan.isDue)

@[simp] theorem read?_null (readable : Bool) : read? ⟨none, readable⟩ = none := by
  cases readable <;> rfl

@[simp] theorem settle?_fst (loan : Loan) : loan.settle?.1 = loan.read? := rfl

@[simp] theorem settle?_snd (loan : Loan) : loan.settle?.2 = loan.isDue := rfl

end Loan
end Custody
