import Custody.Datum

/-!
# Enumerations, flag sets and labels

An enumeration gives names to integer codes, a flag set gives names to bits, and
a label set gives names to short texts.  Looking up a code that has no name fails;
a flag set keeps bits that have no name.
-/

namespace Custody

/-- A named member of an enumeration. -/
structure Member where
  /-- The enumeration it belongs to. -/
  enumeration : String
  /-- Its name. -/
  name : String
  /-- Its code. -/
  code : Int
  deriving DecidableEq, Inhabited

/-- Names for integer codes. -/
structure Enumeration where
  /-- The name of the enumeration. -/
  name : String
  /-- Names and codes in order of definition. -/
  entries : List (String × Int)

namespace Enumeration

/-- The members in order of definition. -/
def members (enumeration : Enumeration) : List Member :=
  enumeration.entries.map fun (name, code) => ⟨enumeration.name, name, code⟩

/-- An enumeration whose codes count up from a first one. -/
def counting (name : String) (first : Nat) (names : List String) : Enumeration :=
  ⟨name, names.zipIdx.map fun (member, index) => (member, ((first + index : Nat) : Int))⟩

/-- The member with a given code. -/
def ofCode? (enumeration : Enumeration) (code : Int) : Option Member :=
  enumeration.members.find? fun member => member.code = code

/-- The member that a datum denotes. -/
def ofDatum? (enumeration : Enumeration) (datum : Datum) : Option Member :=
  datum.integer?.bind enumeration.ofCode?

end Enumeration

/-- Names for the bits of an integer. -/
structure FlagSet where
  /-- The name of the flag set. -/
  name : String
  /-- Names and values in order of definition. -/
  entries : List (String × Nat)

namespace FlagSet

/-- The entries that name a single bit. -/
def singles (flags : FlagSet) : List (String × Nat) :=
  flags.entries.filter fun (_, value) =>
    value ≠ 0 && (List.range 32).any fun exponent => value = Nat.pow 2 exponent

/-- The value with every named bit and every bit below the highest one. -/
def allBits (flags : FlagSet) : Nat :=
  let union := (flags.entries.map Prod.snd).foldl (· ||| ·) 0
  Nat.pow 2 (if union = 0 then 0 else union.log2 + 1) - 1

/-- The value of an integer: a negative one is completed within the named bits or, when it
reaches below them, within the bits it needs. -/
def ofInt (flags : FlagSet) (value : Int) : Nat :=
  match value with
  | .ofNat magnitude => magnitude
  | .negSucc magnitude =>
      let bits := if magnitude + 1 = 0 then 0 else (magnitude + 1).log2 + 1
      let room :=
        if magnitude ≤ flags.allBits then flags.allBits + 1
        else max (flags.allBits + 1) (Nat.pow 2 bits)
      room - (magnitude + 1)

/-- The entries of the single bits set in a value, in ascending order. -/
def singlesIn (flags : FlagSet) (value : Nat) : List (String × Nat) :=
  (flags.singles.mergeSort fun left right => left.2 ≤ right.2).filter
    fun (_, bit) => value &&& bit = bit

/-- The names of the single bits set in a value, in ascending order. -/
def namesIn (flags : FlagSet) (value : Nat) : List String := (flags.singlesIn value).map Prod.fst

/-- The named bits set in a value, in ascending order. -/
def bitsIn (flags : FlagSet) (value : Nat) : List Nat := (flags.singlesIn value).map Prod.snd

/-- The number of bits set in a value, with or without a name. -/
def countBits (value : Nat) : Nat :=
  if value = 0 then 0 else value % 2 + countBits (value / 2)

/-- The bits set in a value that have no name, as a value. -/
def unnamedIn (flags : FlagSet) (value : Nat) : Nat :=
  value - (value &&& (flags.singles.map Prod.snd).foldl (· ||| ·) 0)

/-- The word for a value: its own name, or else the names of its bits and then the bits that
have no name.  A value without a named bit has no word. -/
def word? (flags : FlagSet) (value : Nat) : Option String :=
  match flags.entries.find? fun entry => entry.2 = value with
  | some entry => some entry.1
  | none =>
      let unnamed := flags.unnamedIn value
      let names := flags.namesIn value
      if names.isEmpty then none
      else some ("|".intercalate
        (names ++ if unnamed = 0 then [] else [String.ofList (Nat.toDigits 10 unnamed)]))

end FlagSet

/-- Names for short texts. -/
structure LabelSet where
  /-- The name of the label set. -/
  name : String
  /-- Names and texts in order of definition. -/
  entries : List (String × String)

namespace LabelSet

/-- The name of a text. -/
def nameOf? (labels : LabelSet) (text : String) : Option String :=
  (labels.entries.find? fun (_, label) => label = text).map Prod.fst

end LabelSet
end Custody
