import Custody.Proofs.Session.Sources
import Custody.Proofs.Text.Synchrony

/-!
# The parts of an unsaved file

An unsaved file keeps its name and its contents twice, for itself and in its slot, and their length
a third time.  Either part is assigned in one way: the datum is encoded, and if that succeeds, all
copies of the part are renewed.  So a file whose slot mirrors it keeps mirroring it, and a file that
was just made does too.  What is read from a part can be assigned to it again.
-/

namespace Custody

namespace UnsavedFile

/-- A part of an unsaved file that can be assigned. -/
inductive Part where
  /-- The name. -/
  | filename
  /-- The contents. -/
  | contents
  deriving DecidableEq

variable {file : UnsavedFile} {filename contents : Datum}

namespace Part

/-- What the part is called. -/
def name : Part → Text
  | .filename => "filename"
  | .contents => "contents"

/-- The bytes that a datum becomes when it is assigned. -/
def encode : Part → Datum → Except Failure Bytes
  | .filename => Datum.encodeName
  | .contents => Datum.encodeContents

/-- The bytes that a file has. -/
def bytes : Part → UnsavedFile → Bytes
  | .filename => filenameBytes
  | .contents => contentsBytes

/-- Assigns the part. -/
def assign : Part → UnsavedFile → Datum → Except Failure UnsavedFile
  | .filename => setFilename
  | .contents => setContents

/-- A file with other bytes, wherever it keeps them. -/
def put (file : UnsavedFile) (bytes : Bytes) : Part → UnsavedFile
  | .filename =>
      { file with
        filenameBytes := bytes
        native := { file.native with filename := some bytes } }
  | .contents =>
      { file with
        contentsBytes := bytes
        native := { file.native with contents := some bytes, length := bytes.length } }

/-- An assignment puts the encoded bytes in place, or it fails as encoding fails. -/
theorem assign_eq (part : Part) (file : UnsavedFile) (datum : Datum) :
    part.assign file datum = (part.encode datum).map fun bytes => part.put file bytes := by
  cases part with
  | filename =>
      change setFilename file datum = datum.encodeName.map _
      unfold setFilename
      cases datum.encodeName <;> rfl
  | contents =>
      change setContents file datum = datum.encodeContents.map _
      unfold setContents
      cases datum.encodeContents <;> rfl

/-- The other part stays as it was. -/
theorem bytes_put (part other : Part) (bytes : Bytes) :
    part.bytes (other.put file bytes) = if other = part then bytes else part.bytes file := by
  cases part <;> cases other <;> rfl

end Part

/-- The slot shows the present name and contents, with the full length of the contents. -/
def Mirrors (file : UnsavedFile) : Prop := file.native = file.slot

/-- An assignment renews all that it changes. -/
protected theorem Mirrors.put (mirrors : file.Mirrors) (part : Part) (bytes : Bytes) :
    (part.put file bytes).Mirrors := by
  obtain ⟨kept, content, native⟩ := file
  change native = .of kept content at mirrors
  subst mirrors
  cases part <;> rfl

/-- Where the slot mirrors the file, putting the present bytes in place changes nothing. -/
theorem Mirrors.put_bytes (mirrors : file.Mirrors) (part : Part) :
    part.put file (part.bytes file) = file := by
  obtain ⟨kept, content, native⟩ := file
  change native = .of kept content at mirrors
  subst mirrors
  cases part <;> rfl

/-- A file is made if both parts can be encoded. -/
theorem make_of_encoded {name bytes : Bytes} (named : filename.encodeName = .ok name)
    (filled : contents.encodeContents = .ok bytes) :
    make filename contents = .ok ⟨name, bytes, .of name bytes⟩ := by
  unfold make setFilename setContents
  rw [named, filled]
  rfl

/-- The slot of a file mirrors it from the beginning. -/
theorem mirrors_of_make (made : make filename contents = .ok file) : file.Mirrors := by
  obtain ⟨named, filled⟩ := encoded_of_make made
  have same := Except.ok.inj ((make_of_encoded named filled).symm.trans made)
  rw [← same]
  rfl

/-- A text comes back from the contents that it was assigned to. -/
theorem contents_of_encoded {text : Text}
    (coded : (Datum.text text).encodeContents = .ok file.contentsBytes) :
    Text.ofString file.contents = text := by
  change Datum.encodeStrict text = .ok file.contentsBytes at coded
  unfold Datum.encodeStrict at coded
  cases plain : text.encodeStrict? with
  | none =>
      rw [plain] at coded
      cases coded
  | some encoded =>
      rw [plain] at coded
      exact Text.ofString_decodeReplacing (plain.trans (congrArg some (Except.ok.inj coded)))

/-- The name that is read from a file has the bytes of the name, valid or not. -/
theorem encodeName_filename (file : UnsavedFile) :
    (Datum.text file.filename).encodeName = .ok file.filenameBytes := by
  have coded : file.filename.encodeName? = some file.filenameBytes := by
    unfold Text.encodeName? filename
    rw [Text.hasHalf_decodeKeeping, Utf8.encode_decodeKeeping]
    rfl
  unfold Datum.encodeName
  dsimp only
  rw [coded]

end UnsavedFile

/-- Files whose slots mirror them are passed as these slots, in order. -/
theorem unsavedSlots_of_mirrors {files : List UnsavedFile}
    (mirrors : ∀ file ∈ files, file.Mirrors) :
    unsavedSlots files = if files = [] then none else some (files.map UnsavedFile.native) := by
  have same : files.map UnsavedFile.slot = files.map UnsavedFile.native :=
    List.map_congr_left fun file listed => (mirrors file listed).symm
  unfold unsavedSlots
  rw [same]
  cases files <;> rfl

end Custody
