import Custody.Proofs.Scenario.Refusal
import Custody.Proofs.Scenario.Serials
import Custody.Proofs.Session.Positions

/-!
# Positions are found again

In every state that a scenario reaches, a location in a file of an open owner reads as the
file and the offset that were asked for, its line and column lead back to it, two such
locations are equal exactly if their files and offsets are, and a range between them begins
and ends where they are.  Lines and columns of any size lead to a location in the file.
-/

namespace Custody

open Facade

namespace Location

/-- A location is expanded to an offset of a file, and its line and column lead to an equal
location in that file. -/
def ReadsAs (session : Session) (unit : Nat) (file : File) (offset : Nat) (location : Location) :
    Prop :=
  ∃ (expansion : Expansion) (found : File) (again : Location) (read last : Session),
    location.expansion.outcome session = (.ok expansion, read) ∧
      expansion.file = some found ∧
      found.native = file.native ∧
      (found.agrees file).outcome read = (.ok true, read) ∧
      expansion.offset = offset ∧
      (ofPosition unit file expansion.line expansion.column).outcome read = (.ok again, last) ∧
      again.Equals location

/-- Two locations are expanded to their files and offsets, and are equal exactly if these are.
What tells files apart decides about the files too, if it differs for any two files of the list. -/
def CompareByPlace (session : Session) (upper : Handle) (file other : File)
    (offset otherOffset : Nat) (left right : Location) : Prop :=
  ∃ (first second : Expansion) (found otherFound : File) (between read : Session),
    left.expansion.outcome session = (.ok first, between) ∧
      right.expansion.outcome between = (.ok second, read) ∧
      (first.file = some found ∧ found.native = file.native ∧ first.offset = offset) ∧
      (second.file = some otherFound ∧ otherFound.native = other.native ∧
        second.offset = otherOffset) ∧
      (left.Equals right ↔ file.native = other.native ∧ offset = otherOffset) ∧
      (((session.library.files upper).map SourceFile.identity).Nodup →
        (left.Equals right ↔
          (found.agrees otherFound).outcome read = (.ok true, read) ∧ offset = otherOffset))

/-- A range between two locations begins at the first and ends at the second. -/
def Delimits (session : Session) (left right : Location) : Prop :=
  ∃ (range : Range) (start finish : Location) (made begun ended : Session),
    (Range.make left right).outcome session = (.ok range, made) ∧
      range.start.outcome made = (.ok start, begun) ∧
      range.finish.outcome begun = (.ok finish, ended) ∧
      start.Equals left ∧
      finish.Equals right

end Location

/-- Positions in the files of an open owner are found again. -/
structure Session.FindsAgain (session : Session) (unit : Nat) (upper : Handle) : Prop where
  /-- The location of an offset, up to the end of the file, reads as the file and the offset. -/
  offset : ∀ (file : File) (offset : Nat), file.Listed session unit upper →
    offset ≤ (file.text session).length →
      ∃ (location : Location) (later : Session),
        (Location.ofOffset unit file offset).outcome session = (.ok location, later) ∧
          location.ReadsAs later unit file offset
  /-- The location of any line and column reads as the file and an offset in it. -/
  position : ∀ (file : File) (line column : Int), file.Listed session unit upper →
    1 ≤ line → 1 ≤ column →
      ∃ (location : Location) (offset : Nat) (later : Session),
        (Location.ofPosition unit file line column).outcome session = (.ok location, later) ∧
          offset ≤ (file.text session).length ∧
          location.ReadsAs later unit file offset
  /-- Two locations are equal exactly if their places are, and a range goes from the one to the
  other. -/
  pair : ∀ (left right : File) (here there : Whereabouts), left.Listed session unit upper →
    right.Listed session unit upper → here.IsProper → there.IsProper →
      ∃ (first second : Location) (between later : Session),
        (here.locate unit left).outcome session = (.ok first, between) ∧
          (there.locate unit right).outcome between = (.ok second, later) ∧
          Location.CompareByPlace later upper left right (here.placeIn (left.text session))
            (there.placeIn (right.text session)) first second ∧
          first.Delimits later second

section Proofs

variable {session : Session} {unit : Nat} {upper : Handle} {file other : File}
  {offset otherOffset : Nat} {location right : Location}

namespace Location.Marks

/-- A location that was not read yet reads as its file and offset. -/
theorem readsAs (marks : location.Marks session unit upper file offset)
    (opens : session.Opens unit upper) (issued : location.Issued session.nextSerial)
    (unread : session.expansions.lookup location = none) :
    location.ReadsAs session unit file offset := by
  have read := expansion_outcome opens marks.listed unread marks.owner marks.native marks.inside
  have opensRead := opens.reading issued (file.expansionAt session offset)
  have listedRead := (session.sameFiles_reading location (file.expansionAt session offset)).listed
    marks.listed
  have agreed := (File.agrees_iff opensRead (listedRead.renumbered session) listedRead).mpr rfl
  have proper : (Whereabouts.position (Source.lineAt (file.text session) offset)
      (Source.columnAt (file.text session) offset)).IsProper :=
    ⟨Int.ofNat_le.mpr (Source.one_le_lineAt _ _), Int.ofNat_le.mpr (Source.one_le_columnAt _ _)⟩
  refine ⟨_, _, _, _, _, read, rfl, rfl, agreed, rfl,
    Whereabouts.locate_outcome opensRead listedRead proper, ?_⟩
  have returned := Source.offsetAt_lineAt_columnAt marks.inside
  rw [Location.equals_iff, marks.native]
  exact congrArg (session.library.locationIn upper file.native) returned

/-- Two locations that were not read yet are compared by their files and offsets. -/
theorem compareByPlace (marks : location.Marks session unit upper file offset)
    (others : right.Marks session unit upper other otherOffset)
    (opens : session.Opens unit upper)
    (issued : location.Issued session.nextSerial) (issuedToo : right.Issued session.nextSerial)
    (unread : session.expansions.lookup location = none)
    (unreadToo : session.expansions.lookup right = none)
    (apart : right ≠ location) :
    CompareByPlace session upper file other offset otherOffset location right := by
  have first := expansion_outcome opens marks.listed unread marks.owner marks.native marks.inside
  have opensBetween := opens.reading issued (file.expansionAt session offset)
  have sameBetween := session.sameFiles_reading location (file.expansionAt session offset)
  have othersBetween := others.of_sameFiles sameBetween
  have second := expansion_outcome opensBetween othersBetween.listed
    (Session.lookup_reading apart unreadToo _) others.owner othersBetween.native
    othersBetween.inside
  have opensRead := opensBetween.reading (issuedToo.mono (Nat.le_succ _))
    (other.expansionAt (session.reading location (file.expansionAt session offset)) otherOffset)
  have sameRead := sameBetween.trans (Session.sameFiles_reading _ right
    (other.expansionAt (session.reading location (file.expansionAt session offset)) otherOffset))
  have agreed := File.agrees_iff opensRead
    ((sameRead.listed marks.listed).renumbered session)
    ((sameRead.listed others.listed).renumbered
      (session.reading location (file.expansionAt session offset)))
  have placed := marks.equals_iff others
  refine ⟨_, _, _, _, _, _, first, second, ⟨rfl, rfl, rfl⟩, ⟨rfl, rfl, rfl⟩, placed,
    fun distinct => ?_⟩
  have told := marks.listed.identity_eq_iff others.listed distinct
  exact placed.trans (and_congr (agreed.trans told).symm Iff.rfl)

/-- A range from one location of an open owner to another begins and ends with them. -/
theorem delimits (marks : location.Marks session unit upper file offset)
    (others : right.Marks session unit upper other otherOffset)
    (opens : session.Opens unit upper) : location.Delimits session right := by
  have present : location.native.space.isSome := by rw [marks.native]; rfl
  have shared : location.native.space = right.native.space := by
    rw [marks.native, others.native]
    rfl
  have opened : session.estate.isOpen location.owner = true :=
    marks.owner ▸ Estate.isOpen_iff.mpr ⟨upper, opens.held⟩
  have same : ¬ location.owner ≠ right.owner := by simp [marks.owner, others.owner]
  have made : (Range.make location right).outcome session =
      (.ok ⟨session.nextSerial, location.owner, .between location.native right.native⟩,
        session.numbering) := by
    unfold Range.make
    simp only [if_neg same]
    rw [outcome_bind_of_ok (ensureOpen_outcome_of_open opened)]
    rfl
  refine ⟨_, _, _, _, _, _, made, rfl, rfl, ?_, ?_⟩
  · exact Location.equals_iff.mpr (NativeRange.start_between present shared)
  · exact Location.equals_iff.mpr (NativeRange.finish_between present shared)

end Location.Marks

/-- A location for a proper place in a listed file is new: it has the next number, and nothing
was read for it. -/
theorem Session.Opens.locates (opens : session.Opens unit upper)
    (listed : file.Listed session unit upper) {place : Whereabouts} (proper : place.IsProper) :
    ∃ location : Location,
      (place.locate unit file).outcome session = (.ok location, session.numbering) ∧
        location.serial = session.nextSerial ∧
        session.expansions.lookup location = none ∧
        location.Marks session.numbering unit upper file (place.placeIn (file.text session)) :=
  ⟨_, Whereabouts.locate_outcome opens listed proper, rfl,
    opens.issued.lookup_eq_none (Nat.le_refl _),
    (Location.Marks.of_located listed place session.nextSerial).of_sameFiles
      session.sameFiles_numbering⟩

/-- Positions are found again in a session in which the owner is open. -/
theorem Session.Opens.findsAgain (opens : session.Opens unit upper) :
    session.FindsAgain unit upper where
  offset := by
    intro file offset listed inside
    have proper : (Whereabouts.offset offset).IsProper := Int.natCast_nonneg offset
    obtain ⟨location, located, numbered, unread, marks⟩ := opens.locates listed proper
    have placed : (Whereabouts.offset offset).placeIn (file.text session) = offset :=
      Nat.min_eq_left inside
    rw [placed] at marks
    have issued : location.Issued session.numbering.nextSerial :=
      numbered.trans_lt (Nat.lt_succ_self _)
    exact ⟨location, session.numbering, located, marks.readsAs opens.numbering issued unread⟩
  position := by
    intro file line column listed lines columns
    have proper : (Whereabouts.position line column).IsProper := ⟨lines, columns⟩
    obtain ⟨location, located, numbered, unread, marks⟩ := opens.locates listed proper
    have issued : location.Issued session.numbering.nextSerial :=
      numbered.trans_lt (Nat.lt_succ_self _)
    exact ⟨location, _, session.numbering, located, Nat.min_le_right _ _,
      marks.readsAs opens.numbering issued unread⟩
  pair := by
    intro left right here there leftListed rightListed leftProper rightProper
    obtain ⟨first, located, numbered, unread, marks⟩ := opens.locates leftListed leftProper
    obtain ⟨second, locatedToo, numberedToo, unreadToo, marksToo⟩ := opens.numbering.locates
      (session.sameFiles_numbering.listed rightListed) rightProper
    have opensLast := opens.numbering.numbering
    have marksLast := marks.of_sameFiles session.numbering.sameFiles_numbering
    have issued : first.Issued session.numbering.numbering.nextSerial :=
      numbered.trans_lt (Nat.lt_succ_of_lt (Nat.lt_succ_self _))
    have issuedToo : second.Issued session.numbering.numbering.nextSerial :=
      numberedToo.trans_lt (Nat.lt_succ_self _)
    -- The second location is another object even where it is equal to the first.
    have apart : second ≠ first := by
      rintro rfl
      exact absurd (numberedToo.symm.trans numbered) (Nat.succ_ne_self _)
    exact ⟨first, second, session.numbering, session.numbering.numbering, located, locatedToo,
      marksLast.compareByPlace marksToo opensLast issued issuedToo unread unreadToo apart,
      marksLast.delimits marksToo opensLast⟩

end Proofs

namespace Scenario

/-- In every state that a scenario reaches, positions in the files of an open owner are found
again. -/
theorem steps_findAgain
    (script : Library.Script)
    (settings : Settings)
    (storage : Storage)
    (steps : List Step)
    {unit : Nat}
    {upper : Handle}
    (held : ((State.start script settings storage).steps steps).1.session.estate.handle? unit =
      some upper) :
    ((State.start script settings storage).steps steps).1.session.FindsAgain unit upper := by
  have sound := State.start_sound script settings storage
  have issued := sound.steps_issued (State.start_issued script settings storage) steps
  have good := Session.isGood_of_held (sound.steps steps).valid held
  exact Session.Opens.findsAgain ⟨held, good, issued.holds⟩

/-- A library that can parse a unit with three files: one whose lines are both ended, an empty
one, and one without a line feed. -/
def linedScript : Library.Script :=
  ⟨[{ (default : Library.UnitModel) with
      files := [⟨none, [0x61, 0x0A, 0x0A], 0, false, .numbered 0⟩,
        ⟨none, [], 0, false, .numbered 1⟩,
        ⟨none, [0x62], 0, false, .numbered 2⟩] }],
    [], [], 0⟩

/-- The session in which the unit was parsed. -/
def linedSession : Session :=
  ((State.start linedScript .blank ⟨[]⟩).steps (closingIndex.take 2)).1.session

/-- The unit is open and lists its three files, and positions in them are found again. -/
theorem linedSession_findsAgain :
    linedSession.FindsAgain 1 (.owned .unit 1) ∧
      ∀ index < 3,
        (⟨0, 1, ⟨.owned .unit 1, 0, index⟩⟩ : File).Listed linedSession 1 (.owned .unit 1) := by
  have held : linedSession.estate.handle? 1 = some (.owned .unit 1) := by decide +kernel
  have model : linedSession.library.modelNumber (.owned .unit 1) = 0 := by decide +kernel
  have count : (linedSession.library.files (.owned .unit 1)).length = 3 := by decide +kernel
  refine ⟨steps_findAgain linedScript .blank ⟨[]⟩ (closingIndex.take 2) held, ?_⟩
  exact fun index inside => ⟨rfl, rfl, model.symm, inside.trans_eq count.symm⟩

end Scenario
end Custody
