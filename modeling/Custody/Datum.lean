import Custody.Number.Shortest
import Custody.Number.Calendar
import Custody.Text.Quoted

/-!
# Loose data

A datum is a value whose kind is known only when it is read: an item of a
configuration document or an answer that a caller gives.  `written` shows a datum
so that its kind can be told, with quotes around text; `shown` leaves the quotes
of a text that stands alone.  Numbers of different kinds agree when they denote
the same number.
-/

namespace Custody

/-- A value whose kind is known only when it is read. -/
inductive Datum where
  /-- The absent value. -/
  | null
  /-- A truth value. -/
  | bool (value : Bool)
  /-- An integer. -/
  | int (value : Int)
  /-- A floating-point number. -/
  | float (value : Binary64)
  /-- A text. -/
  | text (value : Text)
  /-- A byte string. -/
  | bytes (value : Bytes)
  /-- A date. -/
  | date (value : Date)
  /-- A moment. -/
  | moment (value : Moment)
  /-- A list. -/
  | list (items : List Datum)
  /-- A mapping in order of insertion. -/
  | map (entries : List (Datum × Datum))
  deriving Inhabited

namespace Datum

instance : Coe String Datum := ⟨fun string => .text string⟩

mutual

/-- The written form of a datum. -/
def written : Datum → String
  | .null => "None"
  | .bool true => "True"
  | .bool false => "False"
  | .int value => toString value
  | .float value => value.written
  | .text value => Quoted.ofText value
  | .bytes value => Quoted.ofBytes value
  | .date value => value.written
  | .moment value => value.written
  | .list items => Quoted.list (writtenAll items)
  | .map entries => Quoted.bracketed "\x7b" "\x7d" (writtenEntries entries)

/-- The written forms of several data. -/
def writtenAll : List Datum → List String
  | [] => []
  | item :: items => written item :: writtenAll items

/-- The written forms of the entries of a mapping. -/
def writtenEntries : List (Datum × Datum) → List String
  | [] => []
  | (key, value) :: entries => (written key ++ ": " ++ written value) :: writtenEntries entries

end

/-- The form of a datum that stands alone. -/
def shown : Datum → Text
  | .text value => value
  | .date value => value.shown
  | .moment value => value.shown
  | datum => datum.written

@[simp] theorem shown_text (value : Text) : shown (.text value) = value := rfl

/-- The name of the kind of a datum. -/
def kindName : Datum → String
  | .null => "NoneType"
  | .bool _ => "bool"
  | .int _ => "int"
  | .float _ => "float"
  | .text _ => "str"
  | .bytes _ => "bytes"
  | .date _ => "date"
  | .moment _ => "datetime"
  | .list _ => "list"
  | .map _ => "dict"

/-- The text of a datum that is text. -/
def text? : Datum → Option Text
  | .text value => some value
  | _ => none

/-- Whether a datum counts as true: zero, nothing and whatever is empty do not. -/
def isTrue : Datum → Bool
  | .null => false
  | .bool value => value
  | .int value => value ≠ 0
  | .float value => !value.isZero
  | .text value => !value.isEmpty
  | .bytes value => !value.isEmpty
  | .date _ => true
  | .moment _ => true
  | .list items => !items.isEmpty
  | .map entries => !entries.isEmpty

/-- The integer that a datum denotes, if it denotes one. -/
def integer? : Datum → Option Int
  | .bool value => some (if value then 1 else 0)
  | .int value => some value
  | .float value => value.toInt?
  | _ => none

/-- Two data without parts agree when they denote the same number, text or time. -/
def sameKey : Datum → Datum → Bool
  | .null, .null => true
  | .text left, .text right => left = right
  | .bytes left, .bytes right => left = right
  | .date left, .date right => left = right
  | .moment left, .moment right => left.agrees right
  | .float left, .float right => left.agrees right
  | left, right => left.integer?.isSome && left.integer? = right.integer?

mutual

/-- Two data agree when they denote the same; mappings may list their entries in any order. -/
def agrees : Datum → Datum → Bool
  | .list left, .list right => agreesAll left right
  | .map left, .map right => left.length = right.length && agreesEntries left right
  | left, right => left.sameKey right

/-- Whether two lists agree item by item. -/
def agreesAll : List Datum → List Datum → Bool
  | [], [] => true
  | left :: lefts, right :: rights => agrees left right && agreesAll lefts rights
  | _, _ => false

/-- Whether every entry has an agreeing one among others. -/
def agreesEntries : List (Datum × Datum) → List (Datum × Datum) → Bool
  | [], _ => true
  | (key, value) :: entries, others =>
      (match others.find? fun other => key.sameKey other.1 with
        | some other => agrees value other.2
        | none => false) && agreesEntries entries others

end

end Datum
end Custody
