import Custody.Proofs.Library.Positions
import Custody.Proofs.Session.Requests
import Custody.Proofs.Session.Serials
import Custody.Scenario.Equality

/-!
# Locations of a file

A location is asked for by an offset of a file or by a line and column in it.  While the
owner of the file is open, the location is made, it reads as the file and the offset, and
its line and column lead to an equal location.  A location that has just been made was never
read before, so that nothing old is recalled for it.
-/

namespace Custody

open Facade

/-- A file has its place in the list of its owner at present. -/
structure File.Listed (session : Session) (unit : Nat) (upper : Handle) (file : File) : Prop where
  /-- It belongs to the owner. -/
  owner : file.owner = unit
  /-- The owner opened it. -/
  origin : file.native.origin = upper
  /-- The owner has the model in which it was found. -/
  model : file.native.model = session.library.modelNumber upper
  /-- The model lists it. -/
  index : file.native.index < (session.library.files upper).length

/-- What a location in a file is asked for by. -/
inductive Whereabouts where
  /-- An offset. -/
  | offset (offset : Int)
  /-- A line and column. -/
  | position (line column : Int)
  deriving DecidableEq, Inhabited

namespace Whereabouts

/-- Offsets are counted from zero, and lines and columns from one. -/
def IsProper : Whereabouts → Prop
  | .offset distance => 0 ≤ distance
  | .position line column => 1 ≤ line ∧ 1 ≤ column

/-- The location that is asked for. -/
def locate (unit : Nat) (file : File) : Whereabouts → Facade Location
  | .offset distance => Location.ofOffset unit file distance
  | .position line column => Location.ofPosition unit file line column

/-- The offset that is meant in a text; it may lie after the end. -/
def offsetIn (text : Bytes) : Whereabouts → Nat
  | .offset distance => distance.toNat
  | .position line column => Source.offsetAt text line.toNat column.toNat

/-- The offset of the location in a text: the one that is meant, or else the end. -/
def placeIn (text : Bytes) (place : Whereabouts) : Nat := min (place.offsetIn text) text.length

end Whereabouts

/-- A comparison that uses no library answers the same in all sessions, so one session tells. -/
theorem Facade.forall_outcome_iff {action : Facade Bool} {condition : Prop} [Decidable condition]
    (decided : ∀ session, action.outcome session = (.ok (decide condition), session)) :
    (∀ session, action.outcome session = (.ok true, session)) ↔ condition := by
  constructor
  · intro always
    have answered := (decided default).symm.trans (always default)
    exact of_decide_eq_true (Except.ok.inj (congrArg Prod.fst answered))
  · intro holds session
    rw [decided, decide_eq_true holds]

/-- Two locations compare as equal, in whatever session. -/
def Location.Equals (left right : Location) : Prop :=
  ∀ session : Session,
    ((Value.location left).equal (.location right)).outcome session = (.ok true, session)

/-- Locations are equal when the library has one location for both. -/
theorem Location.equals_iff {left right : Location} :
    left.Equals right ↔ left.native = right.native :=
  forall_outcome_iff fun _ => by rw [Value.equal, outcome_pure]

/-- An owner is open in a session that can be relied on: its handle is good, and only locations
with a number that was issued were read. -/
structure Session.Opens (session : Session) (unit : Nat) (upper : Handle) : Prop where
  /-- The owner is open. -/
  held : session.estate.handle? unit = some upper
  /-- Its handle is good. -/
  good : session.library.isGood upper = true
  /-- Only issued locations were read. -/
  issued : session.Issued

/-- Nothing but the numbers and what was read differs between two sessions. -/
structure Session.SameFiles (session later : Session) : Prop where
  /-- The library is the same. -/
  library : later.library = session.library
  /-- The holders are the same. -/
  estate : later.estate = session.estate

namespace Session.SameFiles

variable {session middle later : Session}

theorem trans (first : session.SameFiles middle) (rest : middle.SameFiles later) :
    session.SameFiles later :=
  ⟨rest.library.trans first.library, rest.estate.trans first.estate⟩

theorem listed (same : session.SameFiles later) {unit : Nat} {upper : Handle} {file : File}
    (listed : file.Listed session unit upper) : file.Listed later unit upper where
  owner := listed.owner
  origin := listed.origin
  model := by rw [same.library, listed.model]
  index := by rw [same.library]; exact listed.index

theorem opens (same : session.SameFiles later) {unit : Nat} {upper : Handle}
    (opens : session.Opens unit upper) (issued : later.Issued) : later.Opens unit upper where
  held := by rw [same.estate, opens.held]
  good := by rw [same.library, opens.good]
  issued := issued

end Session.SameFiles

namespace Session

/-- The session after one more number was given out. -/
def numbering (session : Session) : Session := { session with nextSerial := session.nextSerial + 1 }

/-- The session after a location was read. -/
def reading (session : Session) (location : Location) (expansion : Expansion) : Session :=
  { session.numbering with expansions := session.expansions ++ [(location, expansion)] }

variable {session : Session} {unit : Nat} {upper : Handle}

theorem sameFiles_numbering (session : Session) : session.SameFiles session.numbering := ⟨rfl, rfl⟩

theorem sameFiles_reading (session : Session) (location : Location) (expansion : Expansion) :
    session.SameFiles (session.reading location expansion) := ⟨rfl, rfl⟩

theorem Opens.numbering (opens : session.Opens unit upper) : session.numbering.Opens unit upper :=
  session.sameFiles_numbering.opens opens fun entry read =>
    (opens.issued entry read).mono (Nat.le_succ _)

theorem Opens.reading (opens : session.Opens unit upper) {location : Location}
    (issued : location.Issued session.nextSerial) (expansion : Expansion) :
    (session.reading location expansion).Opens unit upper := by
  refine (session.sameFiles_reading location expansion).opens opens fun entry read => ?_
  rcases List.mem_append.mp read with old | new
  · exact opens.numbering.issued entry old
  · rw [List.mem_singleton.mp new]
    exact issued.mono (Nat.le_succ _)

/-- Reading a location does not read another one. -/
theorem lookup_reading {location other : Location} (apart : other ≠ location)
    (unread : session.expansions.lookup other = none) (expansion : Expansion) :
    (session.reading location expansion).expansions.lookup other = none := by
  have alone : [(location, expansion)].lookup other = none := by
    rw [List.lookup_cons, beq_false_of_ne apart]
    rfl
  change (session.expansions ++ [(location, expansion)]).lookup other = none
  rw [List.lookup_append, unread, alone]
  rfl

end Session

namespace File

/-- The text of a file. -/
def text (session : Session) (file : File) : Bytes := (session.library.sourceFile file.native).text

/-- Another object of a file, with the next number. -/
def renumbered (session : Session) (file : File) : File :=
  { file with serial := session.nextSerial }

/-- What a location at an offset of a file is expanded to. -/
def expansionAt (session : Session) (file : File) (offset : Nat) : Expansion :=
  ⟨some (file.renumbered session), Source.lineAt (file.text session) offset,
    Source.columnAt (file.text session) offset, offset⟩

end File

namespace File.Listed

variable {session : Session} {unit : Nat} {upper : Handle} {file : File}
  (listed : file.Listed session unit upper)
include listed

theorem native_eq :
    file.native = ⟨upper, session.library.modelNumber upper, file.native.index⟩ := by
  calc file.native
    _ = ⟨file.native.origin, file.native.model, file.native.index⟩ := rfl
    _ = ⟨upper, session.library.modelNumber upper, file.native.index⟩ := by
      rw [listed.model, listed.origin]

theorem sourceFile_eq :
    (session.library.files upper)[file.native.index]? =
      some (session.library.sourceFile file.native) := by
  have present := List.getElem?_eq_getElem listed.index
  have found : session.library.sourceFile file.native =
      ((session.library.files upper)[file.native.index]?).getD default := by
    rw [Library.State.sourceFile, listed.origin, listed.model]
    rfl
  rw [found, present, Option.getD_some]

theorem sizeOf_eq :
    Source.sizeOf (session.library.files upper) file.native.index = (file.text session).length := by
  rw [Source.sizeOf, listed.sourceFile_eq]
  rfl

/-- Where what tells files apart differs from file to file, it tells the listed files apart. -/
theorem identity_eq_iff {other : File} (others : other.Listed session unit upper)
    (distinct : ((session.library.files upper).map SourceFile.identity).Nodup) :
    (session.library.sourceFile file.native).identity =
        (session.library.sourceFile other.native).identity ↔ file.native = other.native := by
  have bound : file.native.index < ((session.library.files upper).map SourceFile.identity).length :=
    listed.index.trans_eq (List.length_map _).symm
  have placed : ((session.library.files upper).map SourceFile.identity)[file.native.index]? =
      ((session.library.files upper).map SourceFile.identity)[other.native.index]? ↔
        file.native.index = other.native.index :=
    List.getElem?_inj bound distinct
  rw [List.getElem?_map, List.getElem?_map, listed.sourceFile_eq, others.sourceFile_eq,
    Option.map_some, Option.map_some, Option.some.injEq] at placed
  rw [placed]
  constructor
  · intro same
    rw [listed.native_eq, others.native_eq, same]
  · exact congrArg FileHandle.index

/-- Another object of a listed file is listed too. -/
theorem renumbered (later : Session) : (file.renumbered later).Listed session unit upper :=
  ⟨listed.owner, listed.origin, listed.model, listed.index⟩

theorem hasPlace : session.library.hasPlace upper file.native = true :=
  decide_eq_true listed.index

end File.Listed

namespace Library.State

/-- The location of an offset in a file of a unit or set. -/
def locationIn (state : State) (space : Handle) (file : FileHandle) (offset : Nat) :
    NativeLocation :=
  ⟨some space, Source.positionOf (state.files space) ⟨file.index, offset⟩⟩

end Library.State

section Outcomes

variable {session : Session} {unit : Nat} {upper : Handle} {file : File}
  (opens : session.Opens unit upper) (listed : file.Listed session unit upper)
include opens listed

theorem Library.Call.locationOfOffset_answers (offset : Nat) :
    (locationOfOffset upper file.native offset).Answers session.library
      (session.library.locationIn upper file.native offset) :=
  .useThen opens.good (.useThen (by rw [listed.origin]; exact opens.good) (.bind .get (.pure _)))

theorem Library.Call.locationOfPosition_answers (line column : Nat) :
    (locationOfPosition upper file.native line column).Answers session.library
      (session.library.locationIn upper file.native
        (Source.offsetAt (file.text session) line column)) :=
  .bind .get (locationOfOffset_answers opens listed _)

/-- Once the file has passed its checks, a new location holds what the library answers. -/
theorem Location.checked_outcome {request : Handle → Library.Call NativeLocation}
    {native : NativeLocation} (answers : (request upper).Answers session.library native) :
    Facade.outcome (do
        Location.checkFile unit file
        let handle ← Facade.handle unit
        Location.checkPlace handle file
        Location.wrap (← Facade.call (request handle)) unit) session =
      (.ok ⟨session.nextSerial, unit, native⟩,
        session.numbering) := by
  have owned : (Location.checkFile unit file).outcome session = (.ok (), session) := by
    rw [Location.checkFile, if_pos listed.owner, outcome_pure]
  have placed : (Location.checkPlace upper file).outcome session = (.ok (), session) := by
    rw [Location.checkPlace, outcome_bind_of_ok (outcome_get session), if_pos listed.hasPlace,
      outcome_pure]
  rw [outcome_bind_of_ok owned, outcome_bind_of_ok (handle_outcome_of_held opens.held),
    outcome_bind_of_ok placed, outcome_bind_of_ok (call_outcome_of_answers answers)]
  rfl

/-- A proper place in a listed file is located with a new number. -/
theorem Whereabouts.locate_outcome {place : Whereabouts} (proper : place.IsProper) :
    (place.locate unit file).outcome session =
      (.ok ⟨session.nextSerial, unit, session.library.locationIn upper file.native
          (place.offsetIn (file.text session))⟩,
        session.numbering) := by
  cases place with
  | offset distance =>
      have inside : ¬ distance < 0 := not_lt.mpr (show 0 ≤ distance from proper)
      unfold locate Location.ofOffset
      simp only [if_neg inside]
      exact Location.checked_outcome opens listed
        (Library.Call.locationOfOffset_answers opens listed distance.toNat)
  | position line column =>
      have inside : ¬ (line < 1 ∨ column < 1) := by
        obtain ⟨lines, columns⟩ := proper
        omega
      unfold locate Location.ofPosition
      simp only [if_neg inside]
      exact Location.checked_outcome opens listed
        (Library.Call.locationOfPosition_answers opens listed line.toNat column.toNat)

/-- A location in a listed file is expanded to the file and its offset. -/
theorem Library.Call.expansion_answers {offset : Nat}
    (inside : offset ≤ (file.text session).length) :
    (expansion (session.library.locationIn upper file.native offset)).Answers session.library
      ⟨some file.native, Source.lineAt (file.text session) offset,
        Source.columnAt (file.text session) offset, offset⟩ := by
  have expanded : session.library.expand (session.library.locationIn upper file.native offset) =
      ⟨some file.native, Source.lineAt (file.text session) offset,
        Source.columnAt (file.text session) offset, offset⟩ := by
    have found := Source.spotAt?_positionOf listed.index (listed.sizeOf_eq ▸ inside)
    unfold Library.State.expand Library.State.spot? Library.State.locationIn
    simp only [found, Option.map_some]
    rw [← listed.native_eq]
    rfl
  rw [← expanded]
  exact .useThen opens.good (.bind .get (.pure _))

/-- A location that was not read before is read as its file and offset, which are kept for it. -/
theorem Location.expansion_outcome {location : Location} {offset : Nat}
    (unread : session.expansions.lookup location = none)
    (owned : location.owner = unit)
    (native : location.native = session.library.locationIn upper file.native offset)
    (inside : offset ≤ (file.text session).length) :
    location.expansion.outcome session =
      (.ok (file.expansionAt session offset),
        session.reading location (file.expansionAt session offset)) := by
  have answered := call_outcome_of_answers
    (Library.Call.expansion_answers opens listed inside)
  have opened : session.estate.isOpen location.owner = true :=
    owned ▸ Estate.isOpen_iff.mpr ⟨upper, opens.held⟩
  have same : location.owner = file.owner := owned.trans listed.owner.symm
  unfold Location.expansion
  rw [outcome_bind_of_ok (outcome_get session)]
  simp only [unread]
  rw [outcome_bind_of_ok (ensureOpen_outcome_of_open opened), native,
    outcome_bind_of_ok answered, same]
  rfl

/-- Listed files agree exactly if what tells files apart is the same for both. -/
theorem File.agrees_iff {other : File} (others : other.Listed session unit upper) :
    (file.agrees other).outcome session = (.ok true, session) ↔
      (session.library.sourceFile file.native).identity =
        (session.library.sourceFile other.native).identity := by
  have opened : session.estate.isOpen file.owner = true :=
    listed.owner ▸ Estate.isOpen_iff.mpr ⟨upper, opens.held⟩
  have compared : (Library.Call.sameFile file.native other.native).Answers session.library
      (decide ((session.library.sourceFile file.native).identity =
        (session.library.sourceFile other.native).identity)) :=
    .useThen (by rw [listed.origin]; exact opens.good)
      (.useThen (by rw [others.origin]; exact opens.good) (.bind .get (.pure _)))
  rw [File.agrees, outcome_bind_of_ok (ensureOpen_outcome_of_open opened),
    call_outcome_of_answers compared]
  simp

end Outcomes

/-- A location lies at an offset of a file that an owner lists. -/
structure Location.Marks (session : Session) (unit : Nat) (upper : Handle) (file : File)
    (offset : Nat) (location : Location) : Prop where
  /-- The owner lists the file. -/
  listed : file.Listed session unit upper
  /-- The offset lies in the file or at its end. -/
  inside : offset ≤ (file.text session).length
  /-- The location belongs to the owner. -/
  owner : location.owner = unit
  /-- The library has the location at the offset. -/
  native : location.native = session.library.locationIn upper file.native offset

namespace Location.Marks

variable {session later : Session} {unit : Nat} {upper : Handle} {file other : File}
  {offset otherOffset : Nat} {location right : Location}

theorem of_sameFiles (same : session.SameFiles later)
    (marks : location.Marks session unit upper file offset) :
    location.Marks later unit upper file offset where
  listed := same.listed marks.listed
  inside := by rw [File.text, same.library]; exact marks.inside
  owner := marks.owner
  native := by rw [same.library, marks.native]

/-- What is located for a place lies at the offset that is meant, or at the end of the file. -/
theorem of_located (listed : file.Listed session unit upper) (place : Whereabouts) (serial : Nat) :
    Location.Marks session unit upper file (place.placeIn (file.text session))
      ⟨serial, unit, session.library.locationIn upper file.native
        (place.offsetIn (file.text session))⟩ where
  listed := listed
  inside := Nat.min_le_right _ _
  owner := rfl
  native := by
    rw [Whereabouts.placeIn, Library.State.locationIn, Library.State.locationIn,
      ← listed.sizeOf_eq, Source.positionOf_clamped]

/-- Locations of one owner are equal exactly if they lie at one offset of one file. -/
theorem equals_iff (marks : location.Marks session unit upper file offset)
    (others : right.Marks session unit upper other otherOffset) :
    location.Equals right ↔ file.native = other.native ∧ offset = otherOffset := by
  have placed := Source.positionOf_inj marks.listed.index
    (marks.listed.sizeOf_eq ▸ marks.inside) others.listed.index
    (others.listed.sizeOf_eq ▸ others.inside)
  rw [Location.equals_iff, marks.native, others.native, Library.State.locationIn,
    Library.State.locationIn, NativeLocation.mk.injEq, placed, marks.listed.native_eq,
    others.listed.native_eq]
  simp

end Location.Marks

end Custody
