import Custody.Proofs.Scenario.Provenance
import Custody.Proofs.Scenario.Sites

/-!
# Files as members of sets

Files of open owners are compared by what tells files apart in the library, which is an equivalence
whatever the library has.  Their hashes are made of their names.  So equal files have one hash
exactly if their names are hashed alike, and that is so for all files if files of one identity have
one name.  A library in which one file goes by two names has equal files with different hashes.
-/

namespace Custody

open Session Facade

namespace Library

/-- All files of a script, and the file that stands for one that is not there. -/
def Script.files (script : Script) : List SourceFile :=
  default :: (script.units.flatMap UnitModel.files ++ script.sets.flatMap SetModel.files)

/-- Files of one identity have one name. -/
def Script.HasOneName (script : Script) : Prop :=
  ∀ left ∈ script.files, ∀ right ∈ script.files,
    left.identity = right.identity → left.name = right.name

/-- Files that are told apart by their names have one name each. -/
theorem Script.hasOneName_of_named {script : Script}
    (named : ∀ file ∈ script.files, file.identity = .named file.name) : script.HasOneName := by
  intro left leftListed right rightListed same
  rw [named left leftListed, named right rightListed] at same
  exact FileIdentity.named.inj same

namespace State

theorem filesIn_subset (state : State) (origin : Handle) (model : Nat) :
    state.filesIn origin model ⊆ state.script.files := by
  have inModel {α : Type} {files : α → List SourceFile} (models : List α) {file : SourceFile}
      (listed : file ∈ (models[model]?).elim [] files) : file ∈ models.flatMap files := by
    cases present : models[model]? with
    | none => simp [present] at listed
    | some found =>
        rw [present] at listed
        exact List.mem_flatMap.mpr ⟨found, List.mem_of_getElem? present, listed⟩
  intro file listed
  unfold filesIn at listed
  refine List.mem_cons_of_mem _ (List.mem_append.mpr ?_)
  split at listed
  · exact .inr (inModel _ listed)
  · exact .inl (inModel _ listed)

/-- The file behind a handle is a file of the script. -/
theorem sourceFile_mem (state : State) (file : FileHandle) :
    state.sourceFile file ∈ state.script.files := by
  unfold sourceFile
  cases present : (state.filesIn file.origin file.model)[file.index]? with
  | none => exact List.mem_cons_self
  | some found => exact state.filesIn_subset _ _ (List.mem_of_getElem? present)

/-- What tells a file apart. -/
def identityOf (state : State) (file : FileHandle) : FileIdentity :=
  (state.sourceFile file).identity

/-- What the hash of a file is made of. -/
def keyOf (state : State) (file : FileHandle) : KeyPiece := .ofString (state.nameOf file)

/-- Where files of one identity have one name, they are hashed alike. -/
theorem keyOf_eq {state : State} (oneName : state.script.HasOneName) {left right : FileHandle}
    (same : state.identityOf left = state.identityOf right) :
    state.keyOf left = state.keyOf right := by
  have names := oneName _ (state.sourceFile_mem left) _ (state.sourceFile_mem right) same
  rw [keyOf, keyOf, nameOf, nameOf, names]

end State

theorem Call.sameFile_answers {state : State} {left right : FileHandle}
    (good : state.isGood left.origin = true) (goodToo : state.isGood right.origin = true) :
    Answers state (sameFile left right)
      (decide (state.identityOf left = state.identityOf right)) :=
  .useThen good (.useThen goodToo (.bind .get (.pure _)))

end Library

/-- A file can be used: its owner is open and it belongs to the owner. -/
structure File.IsUsable (session : Session) (file : File) : Prop where
  /-- The owner is open. -/
  opened : session.estate.isOpen file.owner = true
  /-- It belongs to the owner. -/
  anchored : file.Anchored session.made

/-- How files that can be used compare in a session, and what their hashes are made of. -/
structure Session.ComparesFiles (session : Session) : Prop where
  /-- Files are equal exactly if the library has one identity for them; nothing is changed. -/
  equality : ∀ left right : File, left.IsUsable session → right.IsUsable session →
    ((Value.file left).equal (.file right)).outcome session =
      (.ok (decide (session.library.identityOf left.native =
        session.library.identityOf right.native)), session)
  /-- Equality of files is an equivalence. -/
  equivalence : Equivalence fun left right : { file : File // file.IsUsable session } =>
    ((Value.file left.1).equal (.file right.1)).outcome session = (.ok true, session)
  /-- Their hashes are the same exactly if their names are hashed alike. -/
  hashes : ∀ left right : File, left.IsUsable session → right.IsUsable session →
    Tells session ((Value.file left).sameHash (.file right))
      (decide (session.library.keyOf left.native = session.library.keyOf right.native))
  /-- Where files of one identity have one name, equal files have one hash. -/
  coherent : session.library.script.HasOneName →
    ∀ left right : File, left.IsUsable session → right.IsUsable session →
      ((Value.file left).equal (.file right)).outcome session = (.ok true, session) →
        Tells session ((Value.file left).sameHash (.file right)) true

section Comparing

variable {session : Session}

theorem File.IsUsable.isGood (valid : session.holdings.Valid) {file : File}
    (usable : file.IsUsable session) : session.library.isGood file.native.origin = true :=
  Session.isGood_of_held valid (valid.orderly.held_of_isOpen usable.opened usable.anchored)

theorem File.IsUsable.resumes {later : Session} {file : File} (usable : file.IsUsable session)
    (resumes : session.Resumes later) : file.IsUsable later where
  opened := (resumes.isOpen _).trans usable.opened
  anchored := resumes.made.symm ▸ usable.anchored

theorem File.equal_outcome (valid : session.holdings.Valid) {left right : File}
    (usable : left.IsUsable session) (usableToo : right.IsUsable session) :
    ((Value.file left).equal (.file right)).outcome session =
      (.ok (decide (session.library.identityOf left.native =
        session.library.identityOf right.native)), session) := by
  rw [Value.equal, agrees, outcome_bind_of_ok (ensureOpen_outcome_of_open usable.opened)]
  exact call_outcome_of_answers
    (Library.Call.sameFile_answers (usable.isGood valid) (usableToo.isGood valid))

theorem Session.IsReliable.comparesFiles (reliable : session.IsReliable) :
    session.ComparesFiles := by
  have equal_iff {left right : File} (usable : left.IsUsable session)
      (usableToo : right.IsUsable session) :
      ((Value.file left).equal (.file right)).outcome session = (.ok true, session) ↔
        session.library.identityOf left.native = session.library.identityOf right.native := by
    rw [File.equal_outcome reliable.valid usable usableToo]
    simp
  have keyed {later : Session} {file : File} (usable : file.IsUsable later)
      (resumes : session.Resumes later) :
      Tells later (Value.file file).key [session.library.keyOf file.native] := by
    have named := File.name_tells resumes.reliable usable.anchored usable.opened
    rw [Library.State.nameOf_eq_of_script resumes.observes.models.script] at named
    exact named.bind fun _ further => .pure further.reliable _
  have hashes (left right : File) (usable : left.IsUsable session)
      (usableToo : right.IsUsable session) :
      Tells session ((Value.file left).sameHash (.file right))
        (decide (session.library.keyOf left.native = session.library.keyOf right.native)) := by
    have told := Value.sameHash_tells (keyed usable (.refl reliable))
      fun _ resumes => keyed (usableToo.resumes resumes) resumes
    simp only [List.cons.injEq, and_true] at told
    exact told
  refine ⟨fun _ _ => File.equal_outcome reliable.valid, ⟨?_, ?_, ?_⟩, hashes, ?_⟩
  · exact fun file => (equal_iff file.2 file.2).mpr rfl
  · exact fun {left right} same =>
      (equal_iff right.2 left.2).mpr ((equal_iff left.2 right.2).mp same).symm
  · exact fun {first second third} same sameToo => (equal_iff first.2 third.2).mpr
      (((equal_iff first.2 second.2).mp same).trans ((equal_iff second.2 third.2).mp sameToo))
  · intro oneName left right usable usableToo same
    have told := hashes left right usable usableToo
    rw [decide_eq_true (Library.State.keyOf_eq oneName ((equal_iff usable usableToo).mp same))]
      at told
    exact told

end Comparing

namespace Scenario

/-- However a scenario went, while the library shows all strings, the files of open owners that were
named or reached in any way are compared as the library identifies them, by an equivalence, and
hashed by their names as the script has them. -/
theorem steps_compareFiles
    (script : Library.Script)
    (settings : Settings)
    (storage : Storage)
    (steps : List Step)
    (next : Step)
    (shown : next.reply.hidden = []) :
    (∀ file : File,
      ((∃ name, (name, .file file) ∈ ((State.start script settings storage).steps steps).1.names) ∨
        ∃ top, (Value.file file).Traced top
          ((State.start script settings storage).steps steps).1.session) →
      ((State.start script settings storage).steps steps).1.session.estate.isOpen file.owner =
        true →
        file.IsUsable (((State.start script settings storage).steps steps).1.facing next)) ∧
      (((State.start script settings storage).steps steps).1.facing next).ComparesFiles ∧
      (((State.start script settings storage).steps steps).1.facing next).library.script =
        script := by
  have sound := State.start_sound script settings storage
  have issued := sound.steps_issued (State.start_issued script settings storage) steps
  have soundLater := sound.steps steps
  have script := sound.sameScript_steps steps
  have plain := script.plain (State.start_isPlain _ settings storage)
  refine ⟨fun file reached opened => ⟨opened, ?_⟩,
    (soundLater.isReliable_facing issued plain shown).comparesFiles, script.script⟩
  rcases reached with ⟨name, named⟩ | ⟨top, traced⟩
  · exact soundLater.anchored _ named
  · exact traced.anchored

/-- A library whose unit has one file under two names. -/
def aliasScript : Library.Script :=
  let file (name : String) : SourceFile :=
    { (default : SourceFile) with name := some name.toUTF8.toList, identity := .numbered 7 }
  ⟨[{ (default : Library.UnitModel) with files := [file "a.h", file "b.h"] }], [], [], 0⟩

/-- Asking for the file by either name. -/
def aliasing : List Step :=
  [parsingAs "unit",
    ⟨.file (.named "unit" []) (.text "a.h"), {}, some "left"⟩,
    ⟨.file (.named "unit" []) (.text "b.h"), {}, some "right"⟩]

/-- The session in which the hashes of the two files are compared. -/
def aliasSession : Session :=
  ((State.start aliasScript .blank ⟨[]⟩).steps aliasing).1.facing
    ⟨.hashEqual (.named "left" []) (.named "right" []), {}, none⟩

/-- The file under the name with a given number. -/
def aliasFile (index : Nat) : File := ⟨index, 1, ⟨.owned .unit 1, 0, index⟩⟩

theorem aliasFile_isUsable (index : Nat) : (aliasFile index).IsUsable aliasSession where
  opened := by
    change aliasSession.estate.isOpen 1 = true
    decide +kernel
  anchored := by
    change aliasSession.made[1]? = some (.owned .unit 1)
    decide +kernel

/-- Both files can be used, and files are compared and hashed as in all sessions. -/
theorem aliasSession_comparesFiles :
    (aliasFile 0).IsUsable aliasSession ∧
      (aliasFile 1).IsUsable aliasSession ∧
      aliasSession.ComparesFiles :=
  ⟨aliasFile_isUsable 0, aliasFile_isUsable 1,
    (steps_compareFiles aliasScript .blank ⟨[]⟩ aliasing
      ⟨.hashEqual (.named "left" []) (.named "right" []), {}, none⟩ rfl).2.1⟩

/-- The two files are equal, but their hashes are different. -/
theorem aliasFiles_differ :
    (aliasFile 0).IsUsable aliasSession ∧
      (aliasFile 1).IsUsable aliasSession ∧
      (((Value.file (aliasFile 0)).equal (.file (aliasFile 1))).outcome
        aliasSession).1.toOption = some true ∧
      (((Value.file (aliasFile 0)).sameHash (.file (aliasFile 1))).outcome
        aliasSession).1.toOption = some false :=
  ⟨aliasFile_isUsable 0, aliasFile_isUsable 1, by decide +kernel⟩

end Scenario
end Custody
