import Custody.Failure

/-!
# Looking up members

Members are looked up by the values or by the names that loose data give.  A value
without a member and a name without an entry are different failures.  Names of flags
may be joined; a member of an enumeration stands alone.
-/

namespace Custody

/-- The member of an enumeration that a datum denotes, or a failure. -/
def Enumeration.ofDatum (enumeration : Enumeration) (datum : Datum) : Except Failure Member :=
  match enumeration.ofDatum? datum with
  | some member => .ok member
  | none => .error (.unknownMember enumeration.name datum.written)

/-- The member of an enumeration with a given code, or a failure. -/
def Enumeration.ofCode (enumeration : Enumeration) (code : Int) : Except Failure Member :=
  enumeration.ofDatum (.int code)

/-- The value of a flag set that a datum denotes, or a failure. -/
def FlagSet.ofDatum (flags : FlagSet) (datum : Datum) : Except Failure Nat :=
  match datum with
  | .bool value => .ok (flags.ofInt (if value then 1 else 0))
  | .int value => .ok (flags.ofInt value)
  | datum =>
      match datum.integer?.bind fun code =>
        (flags.entries.find? fun entry => (entry.2 : Int) = code).map Prod.snd with
      | some value => .ok value
      | none => .error (.unknownMember flags.name datum.written)

/-- The name of the label that a datum denotes, with the label, or a failure. -/
def LabelSet.ofDatum (labels : LabelSet) (datum : Datum) : Except Failure (String × String) :=
  let found :=
    match datum with
    | .text text => text.toString?.bind fun label =>
        (labels.nameOf? label).map fun name => (name, label)
    | _ => none
  match found with
  | some entry => .ok entry
  | none => .error (.unknownMember labels.name datum.written)

/-- The entry that a name denotes in a table. -/
def Enumeration.entryNamed {α : Type} (entries : List (String × α)) (name : Datum) :
    Except Failure (String × α) :=
  match name with
  | .list _ => .error .wrongKind
  | .map _ => .error .wrongKind
  | name =>
      match entries.find? fun entry => name.sameKey (.text entry.1) with
      | some entry => .ok entry
      | none => .error (.unknownKey name.written)

/-- The member of an enumeration with a name; several members do not make one. -/
def Enumeration.ofNames (enumeration : Enumeration) (names : List Datum) :
    Except Failure Member := do
  match ← names.mapM (entryNamed enumeration.entries) with
  | [] => .error .wrongKind
  | [(name, code)] => .ok ⟨enumeration.name, name, code⟩
  | _ => .error .noSuchPart

/-- The name and the text of a label with a name.  Labels cannot be joined: two of them fail, and
names after them are not looked up. -/
def LabelSet.ofNames (labels : LabelSet) (names : List Datum) :
    Except Failure (String × String) := do
  match ← (names.take 2).mapM (Enumeration.entryNamed labels.entries) with
  | [entry] => .ok entry
  | _ => .error .wrongKind

/-- The values of named flags, joined by an operation on bits. -/
def FlagSet.ofNames (flags : FlagSet) (join : Nat → Nat → Nat) (names : List Datum) :
    Except Failure Nat := do
  match ← names.mapM (Enumeration.entryNamed flags.entries) with
  | [] => .error .wrongKind
  | first :: rest => .ok ((rest.map Prod.snd).foldl join first.2)

end Custody
