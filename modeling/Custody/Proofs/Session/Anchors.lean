import Custody.Proofs.Session.Conduct
import Custody.Session.Cursor

/-!
# Anchors

A file, location, range, cursor or token is anchored when the holder that it names
was made for the unit or set in which it lies.  Operations that read an anchored
object use good handles only, since they look first whether the holder is open, and
what they yield is anchored too.
-/

namespace Custody

/-- A location belongs to its owner. -/
def Location.Anchored (made : List Handle) (location : Location) : Prop :=
  ∀ space, location.native.space = some space → made[location.owner]? = some space

/-- A range belongs to its owner. -/
def Range.Anchored (made : List Handle) (range : Range) : Prop :=
  ∀ space, range.native.space = some space → made[range.owner]? = some space

/-- A cursor belongs to its unit, and so does the cursor from which it was visited. -/
def Cursor.Anchored (made : List Handle) (cursor : Cursor) : Prop :=
  made[cursor.unit]? = some cursor.native.unit ∧
    ∀ origin, cursor.visitedFrom = some origin → origin.unit = cursor.native.unit

/-- A token belongs to its unit. -/
def Token.Anchored (made : List Handle) (token : Token) : Prop :=
  made[token.unit]? = some token.native.unit

/-- Both cursors of a call of a visitor are cursors of a unit. -/
def Visit.Inside (unit : Handle) (visit : Visit) : Prop :=
  visit.parent.unit = unit ∧ ∀ cursor, visit.cursor = some cursor → cursor.unit = unit

section Mono

variable {made later : List Handle}

/-- What a holder was made for stays, so a location keeps belonging to its owner. -/
theorem Location.Anchored.mono {location : Location} (anchored : location.Anchored made)
    (grown : made <+: later) : location.Anchored later :=
  fun space present => Holdings.getElem?_of_prefix grown (anchored space present)

/-- A range keeps belonging to its owner. -/
theorem Range.Anchored.mono {range : Range} (anchored : range.Anchored made)
    (grown : made <+: later) : range.Anchored later :=
  fun space present => Holdings.getElem?_of_prefix grown (anchored space present)

/-- A cursor keeps belonging to its unit. -/
theorem Cursor.Anchored.mono {cursor : Cursor} (anchored : cursor.Anchored made)
    (grown : made <+: later) : cursor.Anchored later :=
  ⟨Holdings.getElem?_of_prefix grown anchored.1, anchored.2⟩

/-- A token keeps belonging to its unit. -/
theorem Token.Anchored.mono {token : Token} (anchored : token.Anchored made)
    (grown : made <+: later) : token.Anchored later := Holdings.getElem?_of_prefix grown anchored

end Mono

open Facade

variable {holdings : Holdings}

/-- What an open holder was made for is good. -/
theorem Holdings.Valid.good_of_made (valid : holdings.Valid) {number : Nat} {handle : Handle}
    (opened : ∃ kept, holdings.estate.handle? number = some kept)
    (made : holdings.made[number]? = some handle) : holdings.ledger.isGood handle = true :=
  valid.good_of_held (valid.orderly.held_of_isOpen (Estate.isOpen_iff.mpr opened) made)

namespace File

variable {file : File}

/-- A file that is wrapped for the holder of its unit is anchored. -/
theorem wrap_reads {native : FileHandle} {owner : Nat}
    (made : holdings.made[owner]? = some native.origin) :
    Reads holdings (wrap native owner) fun file => file.Anchored holdings.made :=
  fresh_reads.bind fun _ _ => .pure made

/-- The library is asked for a name only while the owner of the file is open. -/
theorem name_reads (valid : holdings.Valid) (anchored : file.Anchored holdings.made) :
    Reads holdings file.name fun _ => True :=
  (ensureOpen_reads file.owner).bind fun _ opened =>
    borrowed_reads (Library.Call.fileName_consults (valid.good_of_made opened anchored))

/-- The library is asked for a time only while the owner of the file is open. -/
theorem time_reads (valid : holdings.Valid) (anchored : file.Anchored holdings.made) :
    Reads holdings file.time fun _ => True :=
  (ensureOpen_reads file.owner).bind fun _ opened =>
    call_reads (Library.Call.fileTime_consults (valid.good_of_made opened anchored))

theorem written_reads (valid : holdings.Valid) (anchored : file.Anchored holdings.made) :
    Reads holdings file.written fun _ => True :=
  (name_reads valid anchored).bind fun _ _ => .pure True.intro

end File

/-- To look up the unit of an owner uses no handle. -/
theorem Facade.unit?_reads (owner : Nat) : Reads holdings (unit? owner) fun _ => True := by
  refine (holder_reads owner).bind fun record _ => ?_
  split <;> exact .pure True.intro

namespace Location

variable {location : Location}

/-- A location that is wrapped for the holder of its space is anchored. -/
theorem wrap_reads {native : NativeLocation} {owner : Nat} {space : Handle}
    (inside : native.InSpace space) (made : holdings.made[owner]? = some space) :
    Reads holdings (wrap native owner) fun location => location.Anchored holdings.made := by
  refine fresh_reads.bind fun _ _ => .pure fun other present => ?_
  rw [inside other present]
  exact made

/-- A file that passes the check belongs to the unit. -/
theorem checkFile_reads (unit : Nat) (file : File) :
    Reads holdings (checkFile unit file) fun _ => file.owner = unit :=
  .ite (fun same => .pure same) fun _ => .throw _

/-- To look for the place of a file uses no handle. -/
theorem checkPlace_reads (handle : Handle) (file : File) :
    Reads holdings (checkPlace handle file) fun _ => True :=
  Reads.get.bind fun _ _ => .ite (fun _ => .pure True.intro) fun _ => .throw _

/-- A file that belongs to an open unit is one of the unit. -/
theorem origin_of_owner {file : File} {unit : Nat} {handle : Handle} (valid : holdings.Valid)
    (anchored : file.Anchored holdings.made) (same : file.owner = unit)
    (held : holdings.estate.handle? unit = some handle) : file.native.origin = handle := by
  have made := valid.orderly.made_of_held held
  rw [← same] at made
  exact Option.some.inj (anchored.symm.trans made)

/-- The file has passed the check before its handle is used along with that of the unit. -/
theorem placed_reads (valid : holdings.Valid) {file : File}
    (anchored : file.Anchored holdings.made) (unit : Nat)
    {request : Handle → Library.Call NativeLocation}
    (consults : ∀ handle, holdings.ledger.isGood handle = true →
      holdings.ledger.isGood file.native.origin = true →
        Library.Call.Consults holdings.books (request handle) fun answer =>
          answer.InSpace handle) :
    Reads holdings (do
        checkFile unit file
        let handle ← Facade.handle unit
        checkPlace handle file
        wrap (← Facade.call (request handle)) unit) fun location =>
      location.Anchored holdings.made := by
  refine (checkFile_reads unit file).bind fun _ same => ?_
  refine (handle_reads unit).bind fun handle held => ?_
  refine (checkPlace_reads handle file).bind fun _ _ => ?_
  have good := valid.good_of_held held
  have fileGood : holdings.ledger.isGood file.native.origin = true := by
    rw [origin_of_owner valid anchored same held]
    exact good
  exact (call_reads (consults handle good fileGood)).bind fun _ inside =>
    wrap_reads inside (valid.orderly.made_of_held held)

/-- A location at a line and a column of an anchored file is anchored. -/
theorem ofPosition_reads (valid : holdings.Valid) {file : File}
    (anchored : file.Anchored holdings.made) (unit : Nat) (line column : Int) :
    Reads holdings (ofPosition unit file line column) fun location =>
      location.Anchored holdings.made := by
  unfold ofPosition
  split
  · exact .throwThen _
  · exact placed_reads valid anchored unit fun _ good fileGood =>
      Library.Call.locationOfPosition_consults good fileGood _ _

/-- A location at an offset in an anchored file is anchored. -/
theorem ofOffset_reads (valid : holdings.Valid) {file : File}
    (anchored : file.Anchored holdings.made) (unit : Nat) (offset : Int) :
    Reads holdings (ofOffset unit file offset) fun location =>
      location.Anchored holdings.made := by
  unfold ofOffset
  split
  · exact .throwThen _
  · exact placed_reads valid anchored unit fun _ good fileGood =>
      Library.Call.locationOfOffset_consults good fileGood _

/-- The space of a location of an open owner is good. -/
theorem space_good (valid : holdings.Valid) (anchored : location.Anchored holdings.made)
    (opened : ∃ handle, holdings.estate.handle? location.owner = some handle) (space : Handle)
    (present : location.native.space = some space) : holdings.ledger.isGood space = true :=
  valid.good_of_made opened (anchored space present)

/-- The file of an expansion is anchored, whether it was just found or was recorded before. -/
theorem expansion_reads (valid : holdings.Valid) (anchored : location.Anchored holdings.made) :
    Reads holdings location.expansion fun expansion =>
      ∀ file, expansion.file = some file → file.Anchored holdings.made := by
  refine Reads.get.bind ?_
  rintro session ⟨rfl, tidy⟩
  split
  · next expansion found =>
      obtain ⟨earlier, others, listed, _⟩ := List.lookup_eq_some_iff.mp found
      refine .pure fun file present => ?_
      exact (tidy (location, expansion) (by simp [listed]) file present).1
  · refine (ensureOpen_reads location.owner).bind fun _ opened => ?_
    refine (call_reads (Library.Call.expansion_consults (space_good valid anchored opened))).bind ?_
    intro native inside
    have wrapped : Reads session.holdings
        (native.file.mapM fun file => File.wrap file location.owner)
        fun found => ∀ file, found = some file →
          file.Anchored session.made ∧ file.owner = location.owner :=
      .optionMapM fun file present =>
        fresh_reads.bind fun serial _ => .pure ⟨anchored _ (inside file present), rfl⟩
    refine wrapped.bind fun file belongs => ?_
    refine Reads.bind (.modify (fun _ => rfl) ?_) fun _ _ =>
      .pure fun found present => (belongs found present).1
    intro current same tidyCurrent entry member
    have sameMade : current.made = session.made := congrArg Holdings.made same
    rcases List.mem_append.mp member with old | new
    · exact tidyCurrent entry old
    · rw [List.mem_singleton.mp new]
      intro found present
      exact sameMade ▸ belongs found present

/-- The space of a location is used only while its owner is open. -/
theorem isFromMainFile_reads (valid : holdings.Valid) (anchored : location.Anchored holdings.made) :
    Reads holdings location.isFromMainFile fun _ => True :=
  (ensureOpen_reads location.owner).bind fun _ opened =>
    call_reads (Library.Call.isFromMainFile_consults (space_good valid anchored opened))

/-- The same check comes before a location is placed in a system header. -/
theorem isInSystemHeader_reads (valid : holdings.Valid)
    (anchored : location.Anchored holdings.made) :
    Reads holdings location.isInSystemHeader fun _ => True :=
  (ensureOpen_reads location.owner).bind fun _ opened =>
    call_reads (Library.Call.isInSystemHeader_consults (space_good valid anchored opened))

/-- The file of the expansion is asked for its name, and it is anchored. -/
theorem fileName?_reads (valid : holdings.Valid) (anchored : location.Anchored holdings.made) :
    Reads holdings location.fileName? fun _ => True := by
  refine (expansion_reads valid anchored).bind fun expansion fileAnchored => ?_
  split
  · exact .pure True.intro
  · next file present =>
      exact (File.name_reads valid (fileAnchored file present)).bind fun _ _ => .pure True.intro

/-- A key uses what the expansion and the name of the file use. -/
theorem key_reads (valid : holdings.Valid) (anchored : location.Anchored holdings.made) :
    Reads holdings location.key fun _ => True :=
  (fileName?_reads valid anchored).bind fun _ _ =>
    (expansion_reads valid anchored).bind fun _ _ => .pure True.intro

theorem written_reads (valid : holdings.Valid) (anchored : location.Anchored holdings.made) :
    Reads holdings location.written fun _ => True :=
  (fileName?_reads valid anchored).bind fun _ _ =>
    (expansion_reads valid anchored).bind fun _ _ => .pure True.intro

end Location

namespace Range

variable {range : Range}

/-- A range that is wrapped for the holder of its space is anchored. -/
theorem wrap_reads {native : NativeRange} {owner : Nat} {space : Handle}
    (inside : native.InSpace space) (made : holdings.made[owner]? = some space) :
    Reads holdings (wrap native owner) fun range => range.Anchored holdings.made := by
  refine fresh_reads.bind fun _ _ => .pure fun other present => ?_
  rw [inside other present]
  exact made

/-- A range between two locations lies in the space of the first, or nowhere. -/
theorem make_reads {start : Location} (anchored : start.Anchored holdings.made)
    (finish : Location) :
    Reads holdings (make start finish) fun range => range.Anchored holdings.made := by
  unfold make
  split
  · exact .throwThen _
  refine (ensureOpen_reads start.owner).bind fun _ _ => fresh_reads.bind fun _ _ => .pure ?_
  intro space present
  have inside : (NativeRange.between start.native finish.native).space = start.native.space := by
    unfold NativeRange.between at present ⊢
    split at present
    · next shared => rw [if_pos shared]
    · cases present
  exact anchored space (inside.symm.trans present)

/-- The start of an anchored range is anchored. -/
theorem start_reads (anchored : range.Anchored holdings.made) :
    Reads holdings range.start fun location => location.Anchored holdings.made :=
  fresh_reads.bind fun _ _ => .pure anchored

/-- The end of an anchored range is anchored. -/
theorem finish_reads (anchored : range.Anchored holdings.made) :
    Reads holdings range.finish fun location => location.Anchored holdings.made :=
  fresh_reads.bind fun _ _ => .pure anchored

/-- Both ends are anchored, so both of their keys may be read. -/
theorem key_reads (valid : holdings.Valid) (anchored : range.Anchored holdings.made) :
    Reads holdings range.key fun _ => True := by
  refine (start_reads anchored).bind fun start startAnchored =>
    (finish_reads anchored).bind fun finish finishAnchored => ?_
  exact (Location.key_reads valid startAnchored).bind fun _ _ =>
    (Location.key_reads valid finishAnchored).bind fun _ _ => .pure True.intro

theorem written_reads (valid : holdings.Valid) (anchored : range.Anchored holdings.made) :
    Reads holdings range.written fun _ => True :=
  (start_reads anchored).bind fun _ startAnchored =>
    (Location.written_reads valid startAnchored).bind fun _ _ =>
      (finish_reads anchored).bind fun _ finishAnchored =>
        (Location.written_reads valid finishAnchored).bind fun _ _ => .pure True.intro

end Range

namespace Cursor

variable {cursor : Cursor}

/-- A cursor that may be absent is anchored if it is there. -/
def AllAnchored (made : List Handle) (cursor : Option Cursor) : Prop :=
  ∀ present, cursor = some present → present.Anchored made

/-- A cursor of the unit is anchored, and so is none. -/
theorem wrap_reads {native : Option NativeCursor} {unit : Nat} {visitedFrom : Option NativeCursor}
    (made : ∀ found, native = some found → holdings.made[unit]? = some found.unit)
    (visited : ∀ found, native = some found → ∀ origin, visitedFrom = some origin →
      origin.unit = found.unit) :
    Reads holdings (wrap native unit visitedFrom) (AllAnchored holdings.made) := by
  cases native with
  | none => exact .pure (by simp [AllAnchored])
  | some native =>
      refine fresh_reads.bind fun _ _ => .pure ?_
      rintro _ ⟨⟩
      exact ⟨made native rfl, visited native rfl⟩

/-- To look for a cursor among those of the library uses no handle. -/
theorem checkPresent_reads (native : NativeCursor) :
    Reads holdings (checkPresent native) fun _ => True :=
  Reads.get.bind fun _ _ => .ite (fun _ => .pure True.intro) fun _ => .throw _

/-- The unit of a cursor that passes the checks is good. -/
theorem ensureReadable_reads (valid : holdings.Valid) (anchored : cursor.Anchored holdings.made) :
    Reads holdings cursor.ensureReadable fun _ =>
      holdings.ledger.isGood cursor.native.unit = true := by
  refine (ensureOpen_reads cursor.unit).bind fun _ opened => ?_
  exact (checkPresent_reads cursor.native).mono fun _ _ => valid.good_of_made opened anchored.1

/-- A text of a cursor is lent on the strength of its unit. -/
theorem lendText_consults {books : Library.Books}
    (good : books.ledger.isGood cursor.native.unit = true)
    (part : Library.CursorModel → Option Bytes) :
    Library.Call.Consults books (cursor.lendText part) fun _ => True :=
  (Library.Call.cursorModel_consults good).bind fun _ _ => Library.Call.lend_consults _

section Reading

variable (valid : holdings.Valid) (anchored : cursor.Anchored holdings.made)
include valid anchored

/-- The check that a cursor is readable comes before its spelling is lent. -/
theorem spelling_reads : Reads holdings cursor.spelling fun _ => True :=
  (ensureReadable_reads valid anchored).bind fun _ good =>
    borrowed_reads (lendText_consults good _)

/-- The check that a cursor is readable comes before its display name is lent. -/
theorem displayName_reads : Reads holdings cursor.displayName fun _ => True :=
  (ensureReadable_reads valid anchored).bind fun _ good =>
    borrowed_reads (lendText_consults good _)

/-- The check that a cursor is readable comes before its unique name is lent. -/
theorem usr_reads : Reads holdings cursor.usr fun _ => True :=
  (ensureReadable_reads valid anchored).bind fun _ good =>
    borrowed?_reads (lendText_consults good _)

/-- The extent of a cursor lies in its unit. -/
theorem range_reads : Reads holdings cursor.range fun range => range.Anchored holdings.made :=
  (ensureReadable_reads valid anchored).bind fun _ good =>
    (call_reads (Library.Call.cursorExtent_consults good)).bind fun _ inside =>
      Range.wrap_reads inside anchored.1

/-- The location of a cursor lies in its unit. -/
theorem location_reads :
    Reads holdings cursor.location fun location => location.Anchored holdings.made :=
  (ensureReadable_reads valid anchored).bind fun _ good =>
    (call_reads (Library.Call.cursorLocation_consults good)).bind fun _ inside =>
      Location.wrap_reads inside anchored.1

/-- A related cursor lies in the same unit, which its object names. -/
theorem related_reads (relation : Library.CursorModel → Option Nat) :
    Reads holdings (cursor.related relation) (AllAnchored holdings.made) := by
  refine (ensureReadable_reads valid anchored).bind fun _ good => ?_
  refine (call_reads (Library.Call.relatedCursor_consults good relation)).bind
    fun native inside => ?_
  refine Reads.bind (.optionForM fun found _ => checkPresent_reads found) fun _ _ => ?_
  refine wrap_reads (fun found present => ?_) (by simp)
  rw [inside found present]
  exact anchored.1

/-- The check that a cursor is readable comes before its model is looked up. -/
theorem isDefinition_reads : Reads holdings cursor.isDefinition fun _ => True :=
  (ensureReadable_reads valid anchored).bind fun _ good =>
    (call_reads (Library.Call.cursorModel_consults good)).bind fun _ _ => .pure True.intro

/-- The cursor that led to another lies in the same unit. -/
theorem parent_reads : Reads holdings cursor.parent (AllAnchored holdings.made) := by
  unfold parent
  split
  · next native visited =>
      refine wrap_reads ?_ (by simp)
      rintro _ ⟨⟩
      rw [anchored.2 native visited]
      exact anchored.1
  · exact related_reads valid anchored _

end Reading

/-- Visiting below a cursor of an open unit calls the visitor on cursors of the unit only. -/
theorem visitFrom_reads (valid : holdings.Valid) {unit : Nat} {handle : Handle}
    {start : Option NativeCursor}
    (made : holdings.made[unit]? = some handle)
    (inside : ∀ native, start = some native → native.unit = handle)
    (visitor : Visitor) :
    Reads holdings (visitFrom unit start visitor) fun visiting =>
      ∀ visit ∈ visiting.visits, visit.Inside handle := by
  refine (ensureOpen_reads unit).bind fun _ opened => ?_
  refine Reads.bind (.optionForM fun found _ => checkPresent_reads found) fun _ _ => ?_
  have good : ∀ native, start = some native → holdings.ledger.isGood native.unit = true := by
    intro native present
    rw [inside native present]
    exact valid.good_of_made opened made
  have visited : Library.Call.Consults holdings.books
      (Library.Call.visitChildren start (Visiting.step visitor) .start)
      fun answer => ∀ visit ∈ answer.1.visits, visit.Inside handle := by
    refine Library.Call.visitChildren_consults
      (fun visiting : Visiting => ∀ visit ∈ visiting.visits, visit.Inside handle) good ?_
      (by simp [Visiting.start])
    intro native present child parent visiting childInside parentInside all
    rw [inside native present] at childInside parentInside
    have extended : ∀ visit ∈ visiting.visits ++ [⟨child, parent⟩], visit.Inside handle := by
      intro visit member
      rcases List.mem_append.mp member with old | new
      · exact all visit old
      · rw [List.mem_singleton.mp new]
        exact ⟨parentInside, childInside⟩
    unfold Visiting.step
    dsimp only
    split <;> exact extended
  refine (call_reads visited).bind fun answer all => ?_
  exact .ite (fun _ => .pure all) fun _ => .pure all

/-- Objects for visited cursors of a unit are anchored, with the cursors that led to them. -/
theorem ofVisits_reads {unit : Nat} {handle : Handle} {visits : List Visit}
    (made : holdings.made[unit]? = some handle)
    (inside : ∀ visit ∈ visits, visit.Inside handle) :
    Reads holdings (ofVisits unit visits) fun cursors =>
      ∀ cursor ∈ cursors, AllAnchored holdings.made cursor := by
  refine .mapM fun visit member => ?_
  obtain ⟨parentInside, childInside⟩ := inside visit member
  refine wrap_reads (fun found present => ?_) ?_
  · rw [childInside found present]
    exact made
  · rintro found present _ ⟨⟩
    rw [childInside found present, parentInside]

section Visiting

variable (valid : holdings.Valid)
include valid

/-- The children of an anchored cursor are anchored. -/
theorem visitChildren_reads (anchored : cursor.Anchored holdings.made) (visitor : Visitor) :
    Reads holdings (cursor.visitChildren visitor) fun answer =>
      ∀ child ∈ answer.1, AllAnchored holdings.made child := by
  have inside : ∀ native, some cursor.native = some native → native.unit = cursor.native.unit := by
    rintro _ ⟨⟩
    rfl
  refine (visitFrom_reads valid anchored.1 inside visitor).bind fun visiting inside => ?_
  exact (ofVisits_reads anchored.1 inside).bind fun _ all => .pure all

/-- The same holds of a visit that collects all children. -/
theorem children_reads (anchored : cursor.Anchored holdings.made) :
    Reads holdings cursor.children fun children =>
      ∀ child ∈ children, AllAnchored holdings.made child :=
  (visitChildren_reads valid anchored collecting).bind fun _ all => .pure all

/-- A walk comes from anchored cursors to anchored ones, by induction on its depth. -/
theorem walkWithin_reads (anchored : cursor.Anchored holdings.made) (depth : Nat) :
    Reads holdings (cursor.walkWithin depth) fun cursors =>
      ∀ found ∈ cursors, Cursor.Anchored holdings.made found := by
  induction depth generalizing cursor with
  | zero => exact .throw _
  | succ depth inductionHypothesis =>
      refine (children_reads valid anchored).bind fun children all => ?_
      refine Reads.bind (show Reads holdings _ fun lists => ∀ cursors ∈ lists, ∀ found ∈ cursors,
        Cursor.Anchored holdings.made found from .mapM fun child member => ?_) ?_
      · split
        · next child => exact inductionHypothesis (all _ member child rfl)
        · exact .throw _
      · refine fun lists allBelow => .pure fun found member => ?_
        rcases List.mem_cons.mp member with rfl | lower
        · exact anchored
        · obtain ⟨cursors, listed, present⟩ := List.mem_flatten.mp lower
          exact allBelow cursors listed found present

/-- However deep a walk may go, it comes to anchored cursors only. -/
theorem walk_reads (anchored : cursor.Anchored holdings.made) :
    Reads holdings cursor.walk fun cursors =>
      ∀ found ∈ cursors, Cursor.Anchored holdings.made found :=
  Reads.get.bind fun _ _ => walkWithin_reads valid anchored _

theorem written_reads (anchored : cursor.Anchored holdings.made) :
    Reads holdings cursor.written fun _ => True :=
  (spelling_reads valid anchored).bind fun _ _ => .pure True.intro

end Visiting

end Cursor

namespace Token

variable {token : Token}

/-- A token that is wrapped for the holder of its unit is anchored. -/
theorem wrap_reads {native : NativeToken} {unit : Nat}
    (made : holdings.made[unit]? = some native.unit) :
    Reads holdings (wrap native unit) fun token => token.Anchored holdings.made :=
  fresh_reads.bind fun _ _ => .pure made

section Reading

variable (valid : holdings.Valid) (anchored : token.Anchored holdings.made)
include valid

/-- The handle with which a token is read is that of an open unit. -/
theorem readableIn_reads (token : Token) :
    Reads holdings token.readableIn fun handle => holdings.ledger.isGood handle = true := by
  refine (handle_reads token.unit).bind fun handle held => Reads.get.bind fun _ _ => ?_
  exact .ite (fun _ => .pure (valid.good_of_held held)) fun _ => .throw _

/-- The spelling of a token is lent on the strength of its unit. -/
theorem spelling_reads (token : Token) : Reads holdings token.spelling fun _ => True :=
  (readableIn_reads valid token).bind fun _ good =>
    borrowed_reads (Library.Call.tokenSpelling_consults good token.native)

include anchored in
/-- The location of a token lies in its unit. -/
theorem location_reads :
    Reads holdings token.location fun location => location.Anchored holdings.made :=
  (readableIn_reads valid token).bind fun _ good =>
    (call_reads (Library.Call.tokenLocation_consults good token.native)).bind fun _ inside =>
      Location.wrap_reads inside anchored

include anchored in
/-- The extent of a token lies in its unit. -/
theorem range_reads : Reads holdings token.range fun range => range.Anchored holdings.made :=
  (readableIn_reads valid token).bind fun _ good =>
    (call_reads (Library.Call.tokenExtent_consults good token.native)).bind fun _ inside =>
      Range.wrap_reads inside anchored

theorem written_reads (token : Token) : Reads holdings token.written fun _ => True :=
  (spelling_reads valid token).bind fun _ _ => .pure True.intro

end Reading

end Token
end Custody
