import Custody.Proofs.Scenario.Sweep
import Custody.Proofs.Session.Snapshots
import Custody.Proofs.Unsaved

/-!
# What unsaved files show

The unsaved files of a scenario are accounted for by deeds: a part was given bytes, or a field of a
slot was overwritten without the file.  Each step adds its deeds, none if it fails.  So in any state
the parts of a file are what they were given last, and the slot shows just these bytes and the full
length of the contents, unless it was overwritten.
-/

namespace Custody

open Session Facade UnsavedFile Watch

/-- The unsaved files are the same. -/
def Session.SameUnsaved (before after : Session) : Prop := after.unsaved = before.unsaved

namespace Session.SameUnsaved

instance : IsPreorder Session SameUnsaved where
  refl _ := rfl
  trans _ _ _ first rest := Eq.trans rest first

instance : Steady (Watch.of SameUnsaved) := of_steady fun _ _ same => same

instance : Recording (Watch.of SameUnsaved) where
  records _ _ _ := ⟨rfl, True.intro⟩

instance : Producing (Watch.of SameUnsaved) where
  produces _ _ _ := ⟨rfl, True.intro⟩

end Session.SameUnsaved

/-- The session with an unsaved file in place of another one. -/
def Session.replacing (session : Session) (number : Nat) (file : UnsavedFile) : Session :=
  { session with unsaved := session.unsaved.set number file }

namespace Scenario

/-- What is done to an unsaved file. -/
inductive Deed where
  /-- A part is given bytes. -/
  | put (number : Nat) (part : Part) (bytes : Bytes)
  /-- A field of the slot is changed without the file. -/
  | overwrite (number : Nat)

/-- The bytes that a deed gives to a part of a file, if it does. -/
def Deed.given? (number : Nat) (part : Part) : Deed → Option Bytes
  | .put other kind bytes => if other = number ∧ kind = part then some bytes else none
  | .overwrite _ => none

/-- The bytes that a part of a file is given last. -/
def latest? (deeds : List Deed) (number : Nat) (part : Part) : Option Bytes :=
  (deeds.filterMap (Deed.given? number part)).getLast?

theorem latest?_append (deeds others : List Deed) (number : Nat) (part : Part) :
    latest? (deeds ++ others) number part =
      (latest? others number part).or (latest? deeds number part) := by
  unfold latest?
  rw [List.filterMap_append, List.getLast?_append]

theorem latest?_put (number other : Nat) (kind part : Part) (bytes : Bytes) :
    latest? [.put other kind bytes] number part =
      if other = number ∧ kind = part then some bytes else none := by
  unfold latest?
  rw [List.filterMap_cons, Deed.given?]
  split
  · next kept =>
      rw [kept]
      rfl
  · next given =>
      rw [given]
      rfl

/-- Deeds account for unsaved files. -/
structure Accounts (deeds : List Deed) (files : List UnsavedFile) : Prop where
  /-- Each part has the bytes that it was given last. -/
  latest : ∀ number part, latest? deeds number part = files[number]?.map part.bytes
  /-- A slot that was not overwritten mirrors its file. -/
  mirrors : ∀ number file, files[number]? = some file → .overwrite number ∉ deeds → file.Mirrors

namespace Accounts

variable {deeds : List Deed} {files : List UnsavedFile} {file : UnsavedFile} {number : Nat}

theorem nil : Accounts [] [] where
  latest _ _ := rfl
  mirrors := nofun

/-- A new file is given both of its parts. -/
theorem append (accounts : Accounts deeds files) (mirrors : file.Mirrors) :
    Accounts (deeds ++ [.put files.length .filename file.filenameBytes,
      .put files.length .contents file.contentsBytes]) (files ++ [file]) where
  latest number part := by
    rw [← List.singleton_append, ← List.append_assoc, latest?_append, latest?_append, latest?_put,
      latest?_put, accounts.latest, List.getElem?_append]
    by_cases new : files.length = number
    · -- No file had this number before, so both parts are given here for the first time.
      subst new
      cases part <;> simp [Part.bytes]
    · rw [if_neg fun both => new both.1, if_neg fun both => new both.1]
      split
      · rfl
      · next beyond =>
          rw [List.getElem?_eq_none (Nat.le_of_not_lt beyond),
            List.getElem?_eq_none (by rw [List.length_singleton]; omega)]
          rfl
  mirrors number other present untouched := by
    rw [List.getElem?_append] at present
    split at present
    · exact accounts.mirrors number other present fun listed =>
        untouched (List.mem_append_left _ listed)
    · rw [List.mem_singleton.mp (List.mem_of_getElem? present)]
      exact mirrors

/-- A part of a file is given other bytes. -/
theorem put (accounts : Accounts deeds files) (present : files[number]? = some file) (part : Part)
    (bytes : Bytes) :
    Accounts (deeds ++ [.put number part bytes]) (files.set number (part.put file bytes)) where
  latest other kind := by
    rw [latest?_append, latest?_put, accounts.latest, List.getElem?_set]
    by_cases same : number = other
    · subst same
      rw [if_pos rfl, if_pos (List.getElem?_eq_some_iff.mp present).1, present, Option.map_some,
        Option.map_some, Part.bytes_put]
      by_cases like : part = kind <;> simp [like]
    · rw [if_neg same, if_neg fun both => same both.1, Option.none_or]
  mirrors other changed presentToo untouched := by
    have before : .overwrite other ∉ deeds := fun listed =>
      untouched (List.mem_append_left _ listed)
    rw [List.getElem?_set] at presentToo
    split at presentToo
    · next same =>
        subst same
        rw [if_pos (List.getElem?_eq_some_iff.mp present).1] at presentToo
        cases presentToo
        exact (accounts.mirrors number file present before).put part bytes
    · exact accounts.mirrors other changed presentToo before

/-- The slot of a file is changed without the file. -/
theorem overwrite (accounts : Accounts deeds files) (present : files[number]? = some file)
    (slot : Slot) :
    Accounts (deeds ++ [.overwrite number]) (files.set number { file with native := slot }) where
  latest other kind := by
    rw [latest?_append, accounts.latest, List.getElem?_set]
    change none.or _ = _
    rw [Option.none_or]
    split
    · next same =>
        subst same
        rw [if_pos (List.getElem?_eq_some_iff.mp present).1, present]
        cases kind <;> rfl
    · rfl
  mirrors other changed presentToo untouched := by
    have different : number ≠ other := by
      rintro rfl
      exact untouched (List.mem_append_right _ (List.mem_singleton_self _))
    rw [List.getElem?_set_ne different] at presentToo
    exact accounts.mirrors other changed presentToo fun listed =>
      untouched (List.mem_append_left _ listed)

end Accounts

section Assigning

variable {session : Session}

theorem changeUnsaved_outcome {number : Nat} {file : UnsavedFile}
    (present : session.unsaved[number]? = some file)
    (change : UnsavedFile → Except Failure UnsavedFile) :
    (changeUnsaved number change).outcome session =
      match change file with
      | .error failure => (.error failure, session)
      | .ok changed => (.ok (), session.replacing number changed) := by
  have found : (Value.unsaved number).asUnsaved.outcome session = (.ok file, session) := by
    unfold Value.asUnsaved
    rw [outcome_bind_of_ok (outcome_get session), present, outcome_pure]
  unfold changeUnsaved
  rw [outcome_bind_of_ok found, outcome_bind, outcome_ofExcept]
  cases change file <;> rfl

/-- What is not there cannot be changed. -/
theorem changeUnsaved_outcome_of_absent {number : Nat} (absent : session.unsaved[number]? = none)
    (change : UnsavedFile → Except Failure UnsavedFile) :
    (changeUnsaved number change).outcome session = (.error .noSuchPart, session) := by
  have missing : (Value.unsaved number).asUnsaved.outcome session =
      (.error .noSuchPart, session) := by
    unfold Value.asUnsaved
    rw [outcome_bind_of_ok (outcome_get session), absent, outcome_throw]
  exact outcome_bind_of_error missing _

theorem assign_eq_changeUnsaved (number : Nat) (part : Part) (datum : Datum) :
    assign (.unsaved number) part.name datum =
      changeUnsaved number fun file => part.assign file datum := by
  cases part <;> rfl

/-- A part is assigned as a whole, or nothing changes at all. -/
theorem assign_outcome {number : Nat} {file : UnsavedFile}
    (present : session.unsaved[number]? = some file) (part : Part) (datum : Datum) :
    (assign (.unsaved number) part.name datum).outcome session =
      match part.encode datum with
      | .error failure => (.error failure, session)
      | .ok bytes => (.ok (), session.replacing number (part.put file bytes)) := by
  rw [assign_eq_changeUnsaved, changeUnsaved_outcome present, Part.assign_eq]
  cases part.encode datum <;> rfl

theorem newUnsaved_outcome (filename contents : Datum) :
    (newUnsaved filename contents).outcome session =
      match UnsavedFile.make filename contents with
      | .error failure => (.error failure, session)
      | .ok file =>
          (.ok (.unsaved session.unsaved.length),
            { session with unsaved := session.unsaved ++ [file] }) := by
  unfold newUnsaved
  rw [outcome_bind, outcome_ofExcept]
  cases UnsavedFile.make filename contents <;> rfl

end Assigning

/-- Giving a datum to a part of a file. -/
def giving (number : Nat) (part : Part) (datum : Datum) : List Deed :=
  match part.encode datum with
  | .ok bytes => [.put number part bytes]
  | .error _ => []

/-- The name of a field of slots. -/
def IsField (part : Text) : Prop := part = "Filename" ∨ part = "Contents" ∨ part = "Length"

instance : DecidablePred IsField := fun _ => inferInstanceAs (Decidable (_ ∨ _ ∨ _))

/-- What assigning a part of a value does to unsaved files, unless it fails. -/
def aims (value : Value) (part : Text) (datum : Datum) : List Deed :=
  match value with
  | .unsaved number =>
      if part = "filename" then giving number .filename datum
      else if part = "contents" then giving number .contents datum
      else []
  | .slot number => if IsField part then [.overwrite number] else []
  | _ => []

/-- What an operation does to unsaved files, unless it fails. -/
def attempts (names : Names) (session : Session) : Operation → List Deed
  | .newUnsaved filename contents =>
      giving session.unsaved.length .filename filename ++
        giving session.unsaved.length .contents contents
  | .assign target part datum =>
      match ((target.value names).outcome session).1 with
      | .ok value => aims value part datum
      | .error _ => []
  | _ => []

/-- What an operation did to unsaved files, by its result. -/
def achieved {α : Type} (attempted : List Deed) : Except Failure α → List Deed
  | .ok _ => attempted
  | .error _ => []

/-- What a step does to unsaved files. -/
def State.deeds (state : State) (step : Step) : List Deed :=
  achieved (attempts state.names (state.facing step) step.operation)
    ((perform state.names step.operation).outcome (state.facing step)).1

/-- What some steps do to unsaved files, in order. -/
def State.deedsIn : State → List Step → List Deed
  | _, [] => []
  | state, next :: rest => state.deeds next ++ deedsIn (state.step next).1 rest

section Accounting

variable {session : Session} {deeds : List Deed} {names : Names}

theorem attempts_of_isRevision {operation : Operation} (revising : operation.isRevision = false) :
    attempts names session operation = [] := by
  cases operation with
  | newUnsaved filename contents => cases revising
  | assign target part datum => cases revising
  | _ => rfl

theorem achieved_nil {α : Type} (result : Except Failure α) : achieved [] result = [] := by
  cases result <;> rfl

/-- Where the files are the same and no deed is added, the deeds account for them still. -/
theorem Accounts.idle {later : Session} (accounts : Accounts deeds session.unsaved)
    (same : session.SameUnsaved later) : Accounts (deeds ++ []) later.unsaved := by
  rw [List.append_nil, same]
  exact accounts

/-- An operation that does not revise leaves the unsaved files. -/
theorem perform_sameUnsaved (valid : session.holdings.Valid) (tidy : session.Tidy)
    (anchored : names.Anchored session.made) {operation : Operation}
    (revising : operation.isRevision = false) :
    session.SameUnsaved ((perform names operation).outcome session).2 := by
  refine perform_leaves valid tidy anchored ⟨fun _ _ => inferInstance, fun _ => inferInstance,
    fun revises => ?_, operation.makesAdmitted_of_forall fun _ => True.intro⟩
  cases revising.symm.trans revises

theorem newUnsaved_accounts (accounts : Accounts deeds session.unsaved)
    (filename contents : Datum) :
    Accounts
      (deeds ++ achieved (attempts names session (.newUnsaved filename contents))
        ((perform names (.newUnsaved filename contents)).outcome session).1)
      ((perform names (.newUnsaved filename contents)).outcome session).2.unsaved := by
  unfold perform
  dsimp only
  rw [outcome_bind, newUnsaved_outcome]
  cases made : UnsavedFile.make filename contents with
  | error failure => exact accounts.idle rfl
  | ok file =>
      obtain ⟨named, filled⟩ := encoded_of_make made
      have given : attempts names session (.newUnsaved filename contents) =
          [.put session.unsaved.length .filename file.filenameBytes,
            .put session.unsaved.length .contents file.contentsBytes] := by
        unfold attempts giving Part.encode
        simp only [named, filled]
        rfl
      rw [given]
      exact accounts.append (mirrors_of_make made)

/-- Giving a datum to a part of a file is accounted for. -/
theorem Accounts.giving (accounts : Accounts deeds session.unsaved) (number : Nat) (part : Part)
    (datum : Datum) :
    Accounts
      (deeds ++ achieved (giving number part datum)
        ((assign (.unsaved number) part.name datum).outcome session).1)
      ((assign (.unsaved number) part.name datum).outcome session).2.unsaved := by
  cases present : session.unsaved[number]? with
  | none =>
      rw [assign_eq_changeUnsaved, changeUnsaved_outcome_of_absent present]
      exact accounts.idle rfl
  | some file =>
      rw [assign_outcome present]
      unfold Scenario.giving
      cases part.encode datum with
      | error failure => exact accounts.idle rfl
      | ok bytes => exact accounts.put present part bytes

/-- Assigning a field of a slot changes the slot. -/
theorem assign_eq_changeSlot (number : Nat) {part : Text} (field : IsField part)
    (datum : Datum) : ∃ change, assign (.slot number) part datum = changeSlot number change := by
  unfold assign
  dsimp only
  split
  · exact ⟨_, rfl⟩
  split
  · exact ⟨_, rfl⟩
  split
  · exact ⟨_, rfl⟩
  · next notName notContents notLength =>
      rcases field with isName | isContents | isLength
      · exact absurd isName notName
      · exact absurd isContents notContents
      · exact absurd isLength notLength

/-- Anything else that is assigned to a slot is a mark. -/
theorem assign_eq_putMark (number : Nat) {part : Text} (noField : ¬ IsField part)
    (datum : Datum) : assign (.slot number) part datum = putMark (.slot number) part datum := by
  obtain ⟨notName, others⟩ := not_or.mp noField
  obtain ⟨notContents, notLength⟩ := not_or.mp others
  unfold assign
  dsimp only
  rw [if_neg notName, if_neg notContents, if_neg notLength]

/-- Changing the slot of a file is accounted for. -/
theorem Accounts.changing (accounts : Accounts deeds session.unsaved) (number : Nat)
    (change : Slot → Except Failure Slot) :
    Accounts
      (deeds ++ achieved [.overwrite number] ((changeSlot number change).outcome session).1)
      ((changeSlot number change).outcome session).2.unsaved := by
  unfold changeSlot
  cases present : session.unsaved[number]? with
  | none =>
      rw [changeUnsaved_outcome_of_absent present]
      exact accounts.idle rfl
  | some file =>
      rw [changeUnsaved_outcome present]
      cases change file.native with
      | error failure => exact accounts.idle rfl
      | ok slot => exact accounts.overwrite present slot

/-- Assigning a part of anything is accounted for. -/
theorem Accounts.assign (accounts : Accounts deeds session.unsaved)
    (valid : session.holdings.Valid) (value : Value) (part : Text) (datum : Datum) :
    Accounts
      (deeds ++ achieved (aims value part datum) ((assign value part datum).outcome session).1)
      ((assign value part datum).outcome session).2.unsaved := by
  have marks : session.SameUnsaved ((putMark value part datum).outcome session).2 :=
    (putMark_abides value part datum).leaves
  have elsewhere (apart : unsavedNumber? value = none) (aimless : aims value part datum = []) :
      Accounts
        (deeds ++ achieved (aims value part datum)
          ((Scenario.assign value part datum).outcome session).1)
        ((Scenario.assign value part datum).outcome session).2.unsaved := by
    rw [aimless, achieved_nil]
    have ended : (Watch.of SameUnsaved).Ends session _ _ :=
      assign_ends_elsewhere True.intro valid apart part datum
    exact accounts.idle ended.relation
  cases value with
  | unsaved number =>
      by_cases isName : part = "filename"
      · subst isName
        exact accounts.giving number .filename datum
      by_cases isContents : part = "contents"
      · subst isContents
        exact accounts.giving number .contents datum
      unfold Scenario.assign aims
      dsimp only
      rw [if_neg isName, if_neg isName, if_neg isContents, if_neg isContents, achieved_nil]
      exact accounts.idle marks
  | slot number =>
      by_cases field : IsField part
      · have aimed : aims (.slot number) part datum = [.overwrite number] := if_pos field
        obtain ⟨change, changed⟩ := assign_eq_changeSlot number field datum
        rw [aimed, changed]
        exact accounts.changing number change
      · have aimed : aims (.slot number) part datum = [] := if_neg field
        rw [aimed, achieved_nil, assign_eq_putMark number field datum]
        exact accounts.idle marks
  | _ => exact elsewhere rfl rfl

/-- An operation adds what it did to the deeds that account for the files. -/
theorem Accounts.perform (accounts : Accounts deeds session.unsaved)
    (valid : session.holdings.Valid) (tidy : session.Tidy)
    (anchored : names.Anchored session.made) (operation : Operation) :
    Accounts
      (deeds ++ achieved (attempts names session operation)
        ((Scenario.perform names operation).outcome session).1)
      ((Scenario.perform names operation).outcome session).2.unsaved := by
  cases revising : operation.isRevision with
  | false =>
      rw [attempts_of_isRevision revising, achieved_nil]
      exact accounts.idle (perform_sameUnsaved valid tidy anchored revising)
  | true =>
      cases operation with
      | newUnsaved filename contents => exact newUnsaved_accounts accounts filename contents
      | assign target part datum =>
          have same : session.SameUnsaved ((target.value names).outcome session).2 :=
            (target.value_abides (namesFit_of SameUnsaved)).leaves
          obtain ⟨-, course, -⟩ := target.value_yields valid anchored session rfl tidy
          unfold Scenario.perform attempts
          dsimp only
          rw [outcome_bind]
          rcases reached : (target.value names).outcome session with ⟨failure | value, middle⟩
          · rw [reached] at same
            exact accounts.idle same
          · -- Looking the target up changes no file, so it is what it was when it is assigned to.
            rw [reached] at same course
            dsimp only at same ⊢
            have later := Accounts.assign (same ▸ accounts) (course.valid valid) value part datum
            rw [outcome_bind]
            rcases done : (Scenario.assign value part datum).outcome middle with
              ⟨failure | nothing, after⟩
            · rw [done] at later
              exact later
            · rw [done] at later
              exact later
      | _ => cases revising

end Accounting

namespace State

variable {state : State} {deeds : List Deed}

/-- A step adds its deeds. -/
theorem Sound.accounts_step (sound : state.Sound)
    (accounts : Accounts deeds state.session.unsaved) (step : Step) :
    Accounts (deeds ++ state.deeds step) (state.step step).1.session.unsaved := by
  have valid : (state.facing step).holdings.Valid := sound.valid.answering step.reply
  have facing : Accounts deeds (state.facing step).unsaved := accounts
  rw [session_step]
  exact facing.perform valid sound.tidy sound.anchored step.operation

/-- Steps add all of their deeds. -/
theorem Sound.accounts_steps (sound : state.Sound)
    (accounts : Accounts deeds state.session.unsaved) (steps : List Step) :
    Accounts (deeds ++ state.deedsIn steps) (state.steps steps).1.session.unsaved := by
  induction steps generalizing state deeds with
  | nil => exact accounts.idle rfl
  | cons next rest inductionHypothesis =>
      have later := inductionHypothesis (sound.step next) (sound.accounts_step accounts next)
      rw [deedsIn, ← List.append_assoc]
      exact later

end State

/-- What unsaved files show after some deeds, and what assigning a part does to them. -/
structure MirrorsFiles (deeds : List Deed) (session : Session) : Prop where
  /-- A file has the bytes that it was given last.  Its slot has just these, with the full length of
  the contents, unless the slot was overwritten. -/
  shows : ∀ number file, session.unsaved[number]? = some file →
    latest? deeds number .filename = some file.filenameBytes ∧
    latest? deeds number .contents = some file.contentsBytes ∧
    (.overwrite number ∉ deeds → file.native =
      ⟨some file.filenameBytes, some file.contentsBytes, file.contentsBytes.length⟩)
  /-- An assignment to a file succeeds if the datum can be encoded. -/
  accepts : ∀ number file (part : Part) datum bytes, session.unsaved[number]? = some file →
    part.encode datum = .ok bytes →
    (assign (.unsaved number) part.name datum).outcome session =
      (.ok (), session.replacing number (part.put file bytes))
  /-- An assignment that succeeds puts the encoded bytes into one file, wherever it keeps them. -/
  succeeds : ∀ number (part : Part) datum later,
    (assign (.unsaved number) part.name datum).outcome session = (.ok (), later) →
    ∃ file bytes, session.unsaved[number]? = some file ∧ part.encode datum = .ok bytes ∧
      later = session.replacing number (part.put file bytes)
  /-- An assignment that fails leaves everything as it was. -/
  fails : ∀ number (part : Part) datum failure later,
    (assign (.unsaved number) part.name datum).outcome session = (.error failure, later) →
    later = session
  /-- A text that was assigned is read back from the contents. -/
  readsBack : ∀ number text later,
    (assign (.unsaved number) "contents" (.text text)).outcome session = (.ok (), later) →
    ∃ file, later.unsaved[number]? = some file ∧ Text.ofString file.contents = text
  /-- Assigning the name that is read keeps the bytes of the name, whatever they are, and changes
  nothing at all unless the slot was overwritten. -/
  keepsName : ∀ number file, session.unsaved[number]? = some file →
    ∃ later renamed,
      (assign (.unsaved number) "filename" (.text file.filename)).outcome session =
        (.ok (), later) ∧
      later.unsaved[number]? = some renamed ∧ renamed.filenameBytes = file.filenameBytes ∧
      (.overwrite number ∉ deeds → later = session)
  /-- Files are passed on as their slots, in order, and as nothing if there are none. -/
  passes : ∀ files : List UnsavedFile,
    (∀ file ∈ files, ∃ number, session.unsaved[number]? = some file ∧ .overwrite number ∉ deeds) →
    unsavedSlots files = if files = [] then none else some (files.map UnsavedFile.native)

section Showing

variable {session : Session} {deeds : List Deed}

/-- What an assignment leads to is known from the file and the datum. -/
theorem assign_outcome_cases {number : Nat} {part : Part} {datum : Datum} {later : Session}
    {result : Except Failure Unit}
    (assigned : (assign (.unsaved number) part.name datum).outcome session = (result, later)) :
    (∃ failure, result = .error failure ∧ later = session) ∨
      ∃ file bytes, result = .ok () ∧ session.unsaved[number]? = some file ∧
        part.encode datum = .ok bytes ∧ later = session.replacing number (part.put file bytes) := by
  cases present : session.unsaved[number]? with
  | none =>
      rw [assign_eq_changeUnsaved, changeUnsaved_outcome_of_absent present] at assigned
      cases assigned
      exact .inl ⟨_, rfl, rfl⟩
  | some file =>
      rw [assign_outcome present] at assigned
      cases coded : part.encode datum with
      | error failure =>
          rw [coded] at assigned
          cases assigned
          exact .inl ⟨failure, rfl, rfl⟩
      | ok bytes =>
          rw [coded] at assigned
          cases assigned
          exact .inr ⟨file, bytes, rfl, rfl, rfl, rfl⟩

theorem replacing_present {number : Nat} {file : UnsavedFile}
    (present : session.unsaved[number]? = some file) (other : UnsavedFile) :
    (session.replacing number other).unsaved[number]? = some other :=
  List.getElem?_set_self (List.getElem?_eq_some_iff.mp present).1

/-- A file in its own place changes nothing. -/
theorem replacing_self {number : Nat} {file : UnsavedFile}
    (present : session.unsaved[number]? = some file) : session.replacing number file = session := by
  obtain ⟨below, same⟩ := List.getElem?_eq_some_iff.mp present
  unfold Session.replacing
  rw [← same, List.set_getElem_self]

theorem Accounts.mirrorsFiles (accounts : Accounts deeds session.unsaved) :
    MirrorsFiles deeds session where
  shows number file present := by
    have latest (part : Part) := accounts.latest number part
    rw [present] at latest
    exact ⟨latest .filename, latest .contents, accounts.mirrors number file present⟩
  accepts number file part datum bytes present coded := by
    rw [assign_outcome present, coded]
  succeeds number part datum later assigned := by
    obtain ⟨failure, failed, -⟩ | ⟨file, bytes, -, present, coded, reached⟩ :=
      assign_outcome_cases assigned
    · cases failed
    · exact ⟨file, bytes, present, coded, reached⟩
  fails number part datum failure later assigned := by
    obtain ⟨-, -, same⟩ | ⟨_, _, succeeded, -⟩ := assign_outcome_cases assigned
    · exact same
    · cases succeeded
  readsBack number text later assigned := by
    obtain ⟨failure, failed, -⟩ | ⟨file, bytes, -, present, coded, reached⟩ :=
      @assign_outcome_cases session number .contents _ _ _ assigned
    · cases failed
    · rw [reached]
      exact ⟨_, replacing_present present _, contents_of_encoded coded⟩
  keepsName number file present := by
    have assigned := assign_outcome present .filename (.text file.filename)
    have coded : Part.filename.encode (.text file.filename) = .ok file.filenameBytes :=
      encodeName_filename file
    rw [coded] at assigned
    refine ⟨_, _, assigned, replacing_present present _, rfl, fun untouched => ?_⟩
    have mirrors := accounts.mirrors number file present untouched
    have same : Part.put file file.filenameBytes .filename = file := mirrors.put_bytes .filename
    rw [same, replacing_self present]
  passes files listed := by
    refine unsavedSlots_of_mirrors fun file among => ?_
    obtain ⟨number, present, untouched⟩ := listed file among
    exact accounts.mirrors number file present untouched

end Showing

/-- Whatever a scenario does, its unsaved files show what they were given last. -/
theorem steps_mirrorFiles (script : Library.Script) (settings : Settings) (storage : Storage)
    (steps : List Step) :
    MirrorsFiles ((State.start script settings storage).deedsIn steps)
      ((State.start script settings storage).steps steps).1.session := by
  have sound := State.start_sound script settings storage
  exact (sound.accounts_steps .nil steps).mirrorsFiles

/-- The contents keep a zero byte and count it, and text that has no encoding leaves them. -/
example :
    let file : Target := .named "file" []
    let steps : List Step :=
      [⟨.newUnsaved (.bytes [0x61, 0xFF]) (.text "int a;"), {}, some "file"⟩,
        ⟨.assign file "contents" (.bytes [0x61, 0x00, 0x62]), {}, none⟩,
        ⟨.assign file "contents" (.text ⟨[.half 0xD800]⟩), {}, none⟩]
    ((State.start ⟨[], [], [], 0⟩ .blank ⟨[]⟩).steps steps).1.session.unsaved.map
        UnsavedFile.native = [⟨some [0x61, 0xFF], some [0x61, 0x00, 0x62], 3⟩] := by
  decide +kernel

end Scenario
end Custody
