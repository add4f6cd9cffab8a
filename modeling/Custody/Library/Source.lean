import Custody.Text.Basic

/-!
# Source files and positions

The files of a unit share one space of positions.  Position zero is nowhere.  The
first file starts at one, and every file takes one position more than it has bytes,
so that its end is a position of its own.  Lines end at line feeds and are counted
from one; columns count bytes from one.
-/

namespace Custody

/-- What tells files apart. -/
inductive FileIdentity where
  /-- The name, where nothing else is known. -/
  | named (name : Option Bytes)
  /-- A number. -/
  | numbered (number : Int)
  deriving DecidableEq, Inhabited

/-- A source file as the library sees it. -/
structure SourceFile where
  /-- The name, null if the library has none. -/
  name : Option Bytes
  /-- The bytes of the file. -/
  text : Bytes
  /-- The time of the last change. -/
  time : Int
  /-- Whether it is a system header. -/
  system : Bool
  /-- What tells it apart from other files. -/
  identity : FileIdentity
  deriving DecidableEq, Inhabited

namespace SourceFile

/-- The number of bytes. -/
def size (file : SourceFile) : Nat := file.text.length

end SourceFile

/-- A byte of a file in a list of files. -/
structure Spot where
  /-- The number of the file. -/
  file : Nat
  /-- The offset of the byte. -/
  offset : Nat
  deriving DecidableEq, Inhabited

namespace Source

/-- The line feed. -/
def lineFeed : UInt8 := 0x0A

/-- The position at which a file starts. -/
def startOf : List SourceFile → Nat → Nat
  | [], _ => 1
  | _ :: _, 0 => 1
  | file :: rest, index + 1 => file.size + 1 + startOf rest index

@[simp] theorem startOf_zero (files : List SourceFile) : startOf files 0 = 1 := by
  cases files <;> rfl

@[simp] theorem startOf_succ (file : SourceFile) (rest : List SourceFile) (index : Nat) :
    startOf (file :: rest) (index + 1) = file.size + 1 + startOf rest index := rfl

/-- The size of a file of a list; a file that is not there is empty. -/
def sizeOf (files : List SourceFile) (index : Nat) : Nat :=
  (files[index]?.map SourceFile.size).getD 0

/-- The position of a spot; an offset after the end of the file means its end. -/
def positionOf (files : List SourceFile) (spot : Spot) : Nat :=
  startOf files spot.file + min spot.offset (sizeOf files spot.file)

/-- The spot at a distance from the start of the first file. -/
def spotAtDistance? : List SourceFile → Nat → Option Spot
  | [], _ => none
  | file :: rest, distance =>
      if distance ≤ file.size then some ⟨0, distance⟩
      else (spotAtDistance? rest (distance - (file.size + 1))).map fun spot =>
        ⟨spot.file + 1, spot.offset⟩

/-- The spot at a position. -/
def spotAt? (files : List SourceFile) (position : Nat) : Option Spot :=
  if position = 0 then none else spotAtDistance? files (position - 1)

/-- The line of an offset. -/
def lineAt (text : Bytes) (offset : Nat) : Nat := 1 + (text.take offset).count lineFeed

/-- The column of an offset. -/
def columnAt (text : Bytes) (offset : Nat) : Nat :=
  1 + ((text.take offset).reverse.takeWhile (· ≠ lineFeed)).length

/-- The offset at which a line starts, the lines being counted from zero here. -/
def lineStart? : Bytes → Nat → Option Nat
  | _, 0 => some 0
  | [], _ + 1 => none
  | byte :: rest, line + 1 =>
      (lineStart? rest (if byte = lineFeed then line else line + 1)).map (· + 1)

/-- The offset of a line and column.  A column may run on into later lines and past the end of
the text; a line after the last one means the end. -/
def offsetAt (text : Bytes) (line column : Nat) : Nat :=
  match lineStart? text (line - 1) with
  | none => text.length
  | some start => start + (column - 1)

end Source
end Custody
