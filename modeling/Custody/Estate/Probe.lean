import Custody.Datum
import Custody.Estate.Close

/-!
# Probes

A probe is a holder that records its own disposal: its handle, and how many of its
adoptions are still open at that moment.  A probe may fail after recording, and a
plain probe cannot be disposed of at all.  Anything that counts as true will do as a
handle, but after the disposal its digits are wanted, and only integers have any.  A
trial is an estate of named probes.
-/

namespace Custody

/-- What a probe does when it is disposed of. -/
inductive ProbeTemper where
  /-- Records and succeeds. -/
  | calm
  /-- Records and fails with the given wording. -/
  | failing (wording : Text)
  /-- Cannot be disposed of. -/
  | plain
  deriving DecidableEq, Inhabited

/-- What a probe is. -/
structure Probe where
  /-- Its behaviour on disposal. -/
  temper : ProbeTemper
  /-- Whether it was given a handle. -/
  complete : Bool
  /-- What it was told about owning its handle. -/
  ownership : Datum
  /-- The children of its adoptions so far, repetitions included. -/
  adoptions : List Nat
  deriving Inhabited

namespace Probe

/-- The name under which a probe complains. -/
def className (probe : Probe) : String :=
  match probe.temper with
  | .plain => "ClangObject"
  | _ => "Probe"

/-- A record of a disposal: the handle and the number of adoptions still open. -/
abbrev Disposal := Datum × Nat

/-- Whether one record is listed before another: by handle, then by number. -/
def Disposal.isBefore (left right : Disposal) : Bool :=
  match left.1, right.1 with
  | .text first, .text second =>
      let (first, second) := (first.glyphs.map Glyph.code, second.glyphs.map Glyph.code)
      first < second || (first = second && left.2 ≤ right.2)
  | first, second =>
      let (first, second) := (first.integer?.getD 0, second.integer?.getD 0)
      first < second || (first = second && left.2 ≤ right.2)

/-- The failure to find the digits of a handle. -/
def digitFailure : Datum → Option Failure
  | .bool _ => none
  | .int _ => none
  | _ => some .wrongKind

/-- Disposal of a probe: it is recorded, unless the probe is plain. -/
def dispose
    (estate : Estate Datum Probe)
    (holder : Nat)
    (handle : Datum)
    (disposals : List Disposal) : List Disposal × Option Failure :=
  match estate.get? holder with
  | none => (disposals, none)
  | some record =>
      let open' := (record.content.adoptions.filter estate.isOpen).length
      match record.content.temper with
      | .calm => (disposals ++ [(handle, open')], digitFailure handle)
      | .failing wording => (disposals ++ [(handle, open')], some (.hook wording))
      | .plain => (disposals, some .indisposable)

/-- The discipline of probes. -/
def discipline : Discipline Datum Probe (List Disposal) := .inOrder dispose

end Probe

/-- A trial: probes by name.  A name may be given again and then means the new probe. -/
structure Trial where
  /-- The probes. -/
  estate : Estate Datum Probe
  /-- The newest probe of every name. -/
  names : List (String × Nat)
  deriving Inhabited

namespace Trial

/-- One step of a trial, on a named probe. -/
inductive Step where
  /-- Makes a probe. -/
  | make (handle : Datum) (owned : Datum) (temper : ProbeTemper)
  /-- Adopts another probe. -/
  | adopt (child : String)
  /-- Closes the probe. -/
  | close
  /-- Checks that the probe is open. -/
  | ensureOpen
  /-- Uses the probe for the length of a block, which may fail. -/
  | scoped (fails : Option Text)
  /-- Asks for the handle. -/
  | handle
  /-- Asks whether the probe is closed. -/
  | closed
  /-- Asks whether the probe owns its handle. -/
  | owned
  deriving Inhabited

/-- What a step answers. -/
inductive Answer where
  /-- Nothing. -/
  | nothing
  /-- A truth value. -/
  | bool (value : Bool)
  /-- Something that the probe was given. -/
  | given (value : Datum)
  deriving Inhabited

/-- The result of a step. -/
structure Result where
  /-- The answer or the failure. -/
  answer : Except Failure Answer
  /-- The disposals in order of handle and open adoptions. -/
  disposals : List Probe.Disposal
  /-- Whether the probe of each name is closed. -/
  closed : List (String × Bool)

/-- The trial without probes. -/
def empty : Trial := ⟨.empty, []⟩

/-- The number of a named probe. -/
def number? (trial : Trial) (name : String) : Option Nat := trial.names.lookup name

/-- The handle of a probe, or the failure of a closed one. -/
def handleOf (trial : Trial) (probe : Nat) : Except Failure Datum :=
  match trial.estate.get? probe with
  | none => .error .noSuchPart
  | some record =>
      match record.handle with
      | some handle => .ok handle
      | none => .error (.closed record.content.className)

/-- Closes a probe and collects the disposals. -/
def closeProbe (trial : Trial) (probe : Nat) : Trial × List Probe.Disposal × Option Failure :=
  let outcome := Probe.discipline.close probe trial.estate []
  (⟨outcome.estate, trial.names⟩, outcome.world, outcome.failure)

/-- Makes a probe; without a handle it stays incomplete and the making fails. -/
def make
    (trial : Trial)
    (name : String)
    (handle : Datum)
    (owned : Datum)
    (temper : ProbeTemper) : Trial × Except Failure Answer :=
  let complete := handle.isTrue
  let probe : Probe := ⟨temper, complete, if complete then owned else .bool false, []⟩
  let made : Trial :=
    ⟨trial.estate.add ⟨if complete then some handle else none, complete && owned.isTrue, [], probe⟩,
      (name, trial.estate.size) :: trial.names.filter fun entry => entry.1 ≠ name⟩
  if complete then (made, .ok .nothing)
  else (made, .error (.nullHandle probe.className))

/-- Adoption; an incomplete probe cannot adopt. -/
def adopt (trial : Trial) (probe child : Nat) : Trial × Except Failure Answer :=
  match trial.estate.get? probe with
  | none => (trial, .error .noSuchPart)
  | some record =>
      if record.content.complete then
        let noted := trial.estate.modify probe fun holder =>
          { holder with content :=
              { holder.content with adoptions := holder.content.adoptions ++ [child] } }
        (⟨noted.adopt probe child, trial.names⟩, .ok .nothing)
      else (trial, .error .unfinishedHolder)

/-- Runs one step: the new trial, the answer and the disposals in the order they happened. -/
def run (trial : Trial) (name : String) (step : Step) :
    Trial × Except Failure Answer × List Probe.Disposal :=
  match step with
  | .make handle owned temper =>
      let (made, answer) := trial.make name handle owned temper
      (made, answer, [])
  | step =>
      match trial.number? name with
      | none => (trial, .error (.unknownKey (Quoted.ofString name)), [])
      | some probe =>
          match step with
          | .make .. => (trial, .ok .nothing, [])
          | .adopt child =>
              match trial.number? child with
              | none => (trial, .error (.unknownKey (Quoted.ofString child)), [])
              | some child =>
                  let (adopted, answer) := trial.adopt probe child
                  (adopted, answer, [])
          | .close =>
              match trial.closeProbe probe with
              | (closed, disposals, none) => (closed, .ok .nothing, disposals)
              | (closed, disposals, some failure) => (closed, .error failure, disposals)
          | .ensureOpen => (trial, (trial.handleOf probe).map fun _ => .nothing, [])
          | .scoped fails =>
              match trial.closeProbe probe, fails with
              | (closed, disposals, some failure), _ => (closed, .error failure, disposals)
              | (closed, disposals, none), some wording =>
                  (closed, .error (.hook wording), disposals)
              | (closed, disposals, none), none => (closed, .ok (.bool true), disposals)
          | .handle => (trial, (trial.handleOf probe).map .given, [])
          | .closed => (trial, .ok (.bool (!trial.estate.isOpen probe)), [])
          | .owned =>
              let probe := (trial.estate.get? probe).map Holder.content
              (trial, .ok (.given (probe.elim (.bool false) Probe.ownership)), [])

/-- Runs one step and reports on it. -/
def step (trial : Trial) (name : String) (step : Step) : Trial × Result :=
  let (next, answer, disposals) := trial.run name step
  let sorted := disposals.mergeSort Probe.Disposal.isBefore
  let closed := next.names.map fun (name, probe) => (name, !next.estate.isOpen probe)
  (next, ⟨answer, sorted, closed⟩)

/-- Runs the steps of a trial in turn. -/
def steps (trial : Trial) : List (String × Step) → List Result
  | [] => []
  | (name, next) :: rest =>
      let (after, result) := trial.step name next
      result :: steps after rest

end Trial
end Custody
