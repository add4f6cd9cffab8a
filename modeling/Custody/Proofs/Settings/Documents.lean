import Custody.Proofs.Changes
import Custody.Proofs.Log
import Custody.Settings.Load

/-!
# What a configuration file says

A document with a mapping at its top says where the library is and which arguments there are, and
it is warned of every other key.  What it says is stated by the values under its keys, and where
they have no form, the reason why is.
-/

namespace Custody

open Logged

/-- Whether a value is a text or a list. -/
def Yaml.Cell.spellsArguments : Yaml.Cell → Bool
  | .scalar (.text _) => true
  | .list _ => true
  | .pairs _ => true
  | _ => false

/-- A value is a text, a list or neither. -/
theorem Yaml.Cell.spelling_cases (cell : Yaml.Cell) :
    (∃ line, cell = .scalar (.text line)) ∨ (∃ items, cell = .list items) ∨
      (∃ items, cell = .pairs items) ∨ cell.spellsArguments = false := by
  cases cell with
  | scalar value => cases value <;> simp [spellsArguments]
  | list items => exact .inr (.inl ⟨items, rfl⟩)
  | pairs items => exact .inr (.inr (.inl ⟨items, rfl⟩))
  | set items => exact .inr (.inr (.inr rfl))
  | map entries => exact .inr (.inr (.inr rfl))

/-- Whether a value of a document is null. -/
def Yaml.Document.isNull (document : Yaml.Document) (number : Nat) : Bool :=
  match document.cell number with
  | .scalar .null => true
  | _ => false

namespace Settings

/-- There is one warning for each key, in order. -/
theorem warnUnknown_yields (path : Datum) (entries : List (Datum × Nat)) :
    Yields (warnUnknown path entries) (.ok ())
      ((unknownKeys entries).map (unknownWarning path)) := by
  unfold warnUnknown
  induction unknownKeys entries with
  | nil => exact .pure ()
  | cons key keys inductionHypothesis => exact (Yields.leave _).bind inductionHypothesis

/-- What stands at the top of a document. -/
inductive Contents where
  /-- Nothing, or null. -/
  | nothing
  /-- A mapping. -/
  | mapping (entries : List (Datum × Nat))
  /-- The value with a number, which is something else. -/
  | other (top : Nat)

/-- What stands at the top of a document. -/
def contentsOf (document : Yaml.Document) : Contents :=
  match document.top with
  | none => .nothing
  | some top =>
      match document.cell top with
      | .scalar .null => .nothing
      | .map entries => .mapping entries
      | _ => .other top

theorem ofDocument_eq (room : Yaml.Room) (path : Datum) (document : Yaml.Document) :
    ofDocument room path document =
      match contentsOf document with
      | .nothing => return blank
      | .mapping entries => do
          warnUnknown path entries
          ExceptT.mk (pure (ofEntries room path document entries))
      | .other top => throw (.configuration (.notMapping path.shown (document.kindName top))) := by
  unfold ofDocument contentsOf
  cases document.top with
  | none => rfl
  | some top =>
      dsimp only
      cases document.cell top with
      | scalar value => cases value <;> rfl
      | _ => rfl

/-- What a configuration file says. -/
structure Said where
  /-- Where the library is. -/
  libraryFile : Option Text
  /-- The directory of the library. -/
  libraryPath : Option Text
  /-- The arguments. -/
  arguments : List Text

/-- Nothing is said. -/
def Said.nothing : Said := ⟨none, none, []⟩

/-- The settings that consist of what was said. -/
def Said.settings (said : Said) : Settings :=
  ⟨said.libraryFile.elim .null .text, said.libraryPath.elim .null .text,
    .list (said.arguments.map .text)⟩

/-- The arguments that the value under their key spells: none if there is no value, the words of a
text, and the forms of the items of a list that are not null. -/
inductive ArgumentsOf (room : Yaml.Room) (document : Yaml.Document) : Option Nat → List Text → Prop
  /-- There is no value. -/
  | absent : ArgumentsOf room document none []
  /-- A text is split. -/
  | line {number : Nat} {line : Text} {words : List Text}
      (spelled : document.cell number = .scalar (.text line))
      (split : ShellWords.split line = .ok words) : ArgumentsOf room document (some number) words
  /-- The items of a list are shown, but for null. -/
  | list {number : Nat} {items : List Nat} {words : List Text}
      (listed : document.cell number = .list items)
      (shown : List.Forall₂ (fun item word => document.shown room.item item = .ok word)
        (items.filter fun item => !document.isNull item) words) :
      ArgumentsOf room document (some number) words
  /-- The items of a list of pairs are written. -/
  | pairs {number : Nat} {items : List (Nat × Nat)} {words : List String}
      (listed : document.cell number = .pairs items)
      (written : List.Forall₂ (fun item word =>
        document.writtenPair room.item [] (.pair number item.2) item.1 = .ok word)
        items.zipIdx words) :
      ArgumentsOf room document (some number) (words.map Text.ofString)

/-- Why the value under the key of the arguments spells none. -/
inductive RefusesArguments (room : Yaml.Room) (path : Datum) (document : Yaml.Document) :
    Nat → Failure → Prop
  /-- A text cannot be split. -/
  | line {number : Nat} {line : Text} {failure : Failure}
      (spelled : document.cell number = .scalar (.text line))
      (split : ShellWords.split line = .error failure) :
      RefusesArguments room path document number failure
  /-- An item of a list cannot be shown. -/
  | list {number : Nat} {items : List Nat} {failure : Failure}
      (listed : document.cell number = .list items)
      (first : FailsFirst (document.shown room.item) failure items) :
      RefusesArguments room path document number failure
  /-- An item of a list of pairs cannot be written. -/
  | pairs {number : Nat} {items : List (Nat × Nat)} {failure : Failure}
      (listed : document.cell number = .pairs items)
      (first : FailsFirst (fun item : (Nat × Nat) × Nat =>
        document.writtenPair room.item [] (.pair number item.2) item.1) failure
          items.zipIdx) :
      RefusesArguments room path document number failure
  /-- It is neither a text nor a list. -/
  | other {number : Nat} (spelled : (document.cell number).spellsArguments = false) :
      RefusesArguments room path document number (.configuration (.arguments path.shown))

section Arguments

variable (room : Yaml.Room) (document : Yaml.Document)

theorem documentArgument?_eq (number : Nat) :
    documentArgument? room document number =
      if document.isNull number then .ok none
      else (document.shown room.item number).map (some ∘ .text) := by
  unfold documentArgument? Yaml.Document.isNull
  cases document.cell number with
  | scalar value => cases value <;> rfl
  | _ => rfl

variable {room} {document}

/-- The arguments that the items of a list are made into are the forms of those that are not
null. -/
theorem forall₂_shown_of_found {items : List Nat} {found : List (Option Datum)}
    (all : List.Forall₂ (fun item value => documentArgument? room document item = .ok value)
      items found) :
    ∃ words, List.Forall₂ (fun item word => document.shown room.item item = .ok word)
        (items.filter fun item => !document.isNull item) words ∧
      found.filterMap id = words.map .text := by
  induction all with
  | nil => exact ⟨[], .nil, rfl⟩
  | @cons item value items found first _ inductionHypothesis =>
      obtain ⟨words, shown, kept⟩ := inductionHypothesis
      rw [documentArgument?_eq] at first
      rw [List.filter_cons]
      cases null : document.isNull item with
      | true =>
          rw [null] at first
          cases first
          exact ⟨words, shown, kept⟩
      | false =>
          rw [null] at first
          cases reached : document.shown room.item item with
          | error failure =>
              rw [reached] at first
              cases first
          | ok word =>
              rw [reached] at first
              cases first
              refine ⟨word :: words, .cons reached shown, ?_⟩
              rw [List.filterMap_cons, kept]
              rfl

/-- If all items of a list but null can be shown, arguments are made of them. -/
theorem exists_found_of_shown {items : List Nat} {words : List Text}
    (shown : List.Forall₂ (fun item word => document.shown room.item item = .ok word)
      (items.filter fun item => !document.isNull item) words) :
    ∃ found, List.Forall₂ (fun item value => documentArgument? room document item = .ok value)
        items found ∧
      found.filterMap id = words.map .text := by
  induction items generalizing words with
  | nil =>
      cases shown
      exact ⟨[], .nil, rfl⟩
  | cons item items inductionHypothesis =>
      have made := documentArgument?_eq room document item
      rw [List.filter_cons] at shown
      cases null : document.isNull item with
      | true =>
          rw [null] at shown made
          obtain ⟨found, all, kept⟩ := inductionHypothesis shown
          exact ⟨none :: found, .cons made all, kept⟩
      | false =>
          rw [null] at shown made
          obtain _ | ⟨reached, others⟩ := shown
          obtain ⟨found, all, kept⟩ := inductionHypothesis others
          rw [reached] at made
          refine ⟨_ :: found, .cons made all, ?_⟩
          rw [List.filterMap_cons, kept]
          rfl

section Values

variable (path : Datum) {number : Nat}

theorem documentArguments_text {line : Text}
    (spelled : document.cell number = .scalar (.text line)) :
    documentArguments room path document (some number) =
      (ShellWords.split line).map (List.map .text) := by
  unfold documentArguments
  dsimp only
  rw [spelled]
  rfl

theorem documentArguments_list {items : List Nat} (listed : document.cell number = .list items) :
    documentArguments room path document (some number) =
      (items.mapM (documentArgument? room document)).map (List.filterMap id) := by
  unfold documentArguments
  dsimp only
  rw [listed]
  rfl

theorem documentArguments_pairs {items : List (Nat × Nat)}
    (listed : document.cell number = .pairs items) :
    documentArguments room path document (some number) =
      (items.zipIdx.mapM fun item =>
        document.writtenPair room.item [] (.pair number item.2) item.1).map
          (List.map fun written => .text (Text.ofString written)) := by
  unfold documentArguments
  dsimp only
  rw [listed, ← mapM_map]
  rfl

theorem documentArguments_other (spelled : (document.cell number).spellsArguments = false) :
    documentArguments room path document (some number) =
      .error (.configuration (.arguments path.shown)) := by
  unfold documentArguments
  dsimp only
  generalize document.cell number = cell at spelled ⊢
  cases cell with
  | scalar value =>
      cases value with
      | text line => cases spelled
      | _ => rfl
  | list items => cases spelled
  | pairs items => cases spelled
  | set items => rfl
  | map entries => rfl

end Values

/-- Arguments are made exactly of what the value under their key spells. -/
theorem documentArguments_eq_ok_iff (path : Datum) {value : Option Nat} {arguments : List Datum} :
    documentArguments room path document value = .ok arguments ↔
      ∃ words, ArgumentsOf room document value words ∧ arguments = words.map .text := by
  constructor
  · intro made
    cases value with
    | none =>
        cases made
        exact ⟨[], .absent, rfl⟩
    | some number =>
        rcases (document.cell number).spelling_cases with
          ⟨line, spelled⟩ | ⟨items, spelled⟩ | ⟨items, spelled⟩ | spelled
        · rw [documentArguments_text path spelled, map_eq_ok_iff] at made
          obtain ⟨words, split, rfl⟩ := made
          exact ⟨words, .line spelled split, rfl⟩
        · rw [documentArguments_list path spelled, map_eq_ok_iff] at made
          obtain ⟨found, all, rfl⟩ := made
          obtain ⟨words, shown, kept⟩ := forall₂_shown_of_found (mapM_eq_ok_iff.mp all)
          exact ⟨words, .list spelled shown, kept⟩
        · rw [documentArguments_pairs path spelled, map_eq_ok_iff] at made
          obtain ⟨words, written, rfl⟩ := made
          refine ⟨_, .pairs spelled (mapM_eq_ok_iff.mp written), ?_⟩
          rw [List.map_map]
          rfl
        · rw [documentArguments_other path spelled] at made
          cases made
  · rintro ⟨words, spelled, rfl⟩
    cases spelled with
    | absent => rfl
    | line spelled split =>
        rw [documentArguments_text path spelled, split]
        rfl
    | list listed shown =>
        obtain ⟨found, all, kept⟩ := exists_found_of_shown shown
        rw [documentArguments_list path listed, mapM_eq_ok_iff.mpr all, ← kept]
        rfl
    | pairs listed written =>
        rw [documentArguments_pairs path listed, mapM_eq_ok_iff.mpr written, List.map_map]
        rfl

/-- A list of arguments cannot be made exactly as an item of it cannot be shown. -/
theorem failsFirst_documentArgument?_iff {items : List Nat} {failure : Failure} :
    FailsFirst (documentArgument? room document) failure items ↔
      FailsFirst (document.shown room.item) failure items := by
  have shownNull {item : Nat} (null : document.isNull item = true) :
      ∃ form, document.shown room.item item = .ok form := by
    unfold Yaml.Document.isNull at null
    unfold Yaml.Document.shown
    split at null
    · rename_i spelled
      rw [spelled]
      exact ⟨_, rfl⟩
    · cases null
  constructor
  · refine FailsFirst.congr (fun item value made => ?_) (fun item refused => ?_)
    · rw [documentArgument?_eq] at made
      split at made
      · rename_i null
        exact shownNull null
      · obtain ⟨form, shown, _⟩ := map_eq_ok_iff.mp made
        exact ⟨form, shown⟩
    · rw [documentArgument?_eq] at refused
      split at refused
      · cases refused
      · exact map_eq_error_iff.mp refused
  · refine FailsFirst.congr (fun item form shown => ?_) (fun item unshown => ?_)
    · rw [documentArgument?_eq, shown]
      split <;> exact ⟨_, rfl⟩
    · rw [documentArgument?_eq]
      split
      · rename_i null
        obtain ⟨_, shown⟩ := shownNull null
        rw [shown] at unshown
        cases unshown
      · exact map_eq_error_iff.mpr unshown

/-- No arguments are made of a value exactly for the reason why it spells none. -/
theorem documentArguments_eq_error_iff (path : Datum) {value : Option Nat} {failure : Failure} :
    documentArguments room path document value = .error failure ↔
      ∃ number, value = some number ∧ RefusesArguments room path document number failure := by
  constructor
  · intro refused
    cases value with
    | none => cases refused
    | some number =>
        refine ⟨number, rfl, ?_⟩
        rcases (document.cell number).spelling_cases with
          ⟨line, spelled⟩ | ⟨items, spelled⟩ | ⟨items, spelled⟩ | spelled
        · rw [documentArguments_text path spelled, map_eq_error_iff] at refused
          exact .line spelled refused
        · rw [documentArguments_list path spelled, map_eq_error_iff, mapM_eq_error_iff] at refused
          exact .list spelled (failsFirst_documentArgument?_iff.mp refused)
        · rw [documentArguments_pairs path spelled, map_eq_error_iff, mapM_eq_error_iff] at refused
          exact .pairs spelled refused
        · rw [documentArguments_other path spelled] at refused
          cases refused
          exact .other spelled
  · rintro ⟨number, rfl, refused⟩
    cases refused with
    | line spelled split =>
        rw [documentArguments_text path spelled, split]
        rfl
    | list listed first =>
        rw [documentArguments_list path listed, map_eq_error_iff, mapM_eq_error_iff]
        exact failsFirst_documentArgument?_iff.mpr first
    | pairs listed first =>
        rw [documentArguments_pairs path listed, map_eq_error_iff, mapM_eq_error_iff]
        exact first
    | other spelled => exact documentArguments_other path spelled

end Arguments

section Entries

variable {room : Yaml.Room} {path : Datum} {document : Yaml.Document} {entries : List (Datum × Nat)}

/-- What a mapping says: the forms of the values under the keys of places, unless they are null,
and the arguments under their key. -/
structure MappingSays (room : Yaml.Room) (document : Yaml.Document) (entries : List (Datum × Nat))
    (said : Said) : Prop where
  /-- Where the library is. -/
  libraryFile : Option.Rel
    (fun number form => document.shown room.value number = .ok form)
    (present? document entries "library_file") said.libraryFile
  /-- The directory of the library. -/
  libraryPath : Option.Rel
    (fun number form => document.shown room.value number = .ok form)
    (present? document entries "library_path") said.libraryPath
  /-- The arguments. -/
  arguments : ArgumentsOf room document (present? document entries "default_args") said.arguments

/-- The form of the value under a key of a place, if there is one. -/
def placeForm (room : Yaml.Room) (document : Yaml.Document) (entries : List (Datum × Nat))
    (key : String) : Except Failure (Option Text) :=
  (present? document entries key).mapM (document.shown room.value)

/-- The keys of places. -/
def placeKeys : List String := ["library_file", "library_path"]

/-- Why a mapping says nothing. -/
inductive RefusesMapping (room : Yaml.Room) (path : Datum) (document : Yaml.Document)
    (entries : List (Datum × Nat)) (failure : Failure) : Prop
  /-- A place has no form. -/
  | place (first : FailsFirst (placeForm room document entries) failure placeKeys) :
      RefusesMapping room path document entries failure
  /-- The value under the key of the arguments spells none. -/
  | arguments {number : Nat}
      (placed : ∀ key ∈ placeKeys, ∃ form, placeForm room document entries key = .ok form)
      (present : present? document entries "default_args" = some number)
      (refused : RefusesArguments room path document number failure) :
      RefusesMapping room path document entries failure

theorem ofEntries_eq (room : Yaml.Room) (path : Datum) (document : Yaml.Document)
    (entries : List (Datum × Nat)) :
    ofEntries room path document entries = do
      let libraryFile ← placeForm room document entries "library_file"
      let libraryPath ← placeForm room document entries "library_path"
      let arguments ←
        documentArguments room path document (present? document entries "default_args")
      return ⟨libraryFile.elim .null .text, libraryPath.elim .null .text, .list arguments⟩ := rfl

/-- The settings of a mapping are what it says. -/
theorem ofEntries_of_mappingSays {said : Said} (told : MappingSays room document entries said) :
    ofEntries room path document entries = .ok said.settings := by
  rw [ofEntries_eq, placeForm, placeForm, optionMapM_eq_ok_iff.mpr told.libraryFile,
    optionMapM_eq_ok_iff.mpr told.libraryPath,
    (documentArguments_eq_ok_iff path).mpr ⟨_, told.arguments, rfl⟩]
  rfl

/-- There are no settings of a mapping for a reason why it says nothing. -/
theorem ofEntries_of_refuses {failure : Failure}
    (refused : RefusesMapping room path document entries failure) :
    ofEntries room path document entries = .error failure := by
  rw [ofEntries_eq]
  cases refused with
  | place first =>
      cases first with
      | here fails =>
          rw [fails]
          rfl
      | later passes rest =>
          obtain fails | ⟨_, _, ⟨⟩⟩ := rest
          rw [passes, fails]
          rfl
  | arguments placed present refused =>
      obtain ⟨_, file⟩ := placed "library_file" (by simp [placeKeys])
      obtain ⟨_, directory⟩ := placed "library_path" (by simp [placeKeys])
      rw [file, directory, (documentArguments_eq_error_iff path).mpr ⟨_, present, refused⟩]
      rfl

/-- A mapping says something, or there is a reason why not. -/
theorem mappingSays_or_refuses (room : Yaml.Room) (path : Datum) (document : Yaml.Document)
    (entries : List (Datum × Nat)) :
    (∃ said, MappingSays room document entries said) ∨
    ∃ failure, RefusesMapping room path document entries failure := by
  rcases changes_or_failsFirst (placeForm room document entries) placeKeys with
    placed | ⟨failure, first⟩
  swap
  · exact .inr ⟨failure, .place first⟩
  obtain ⟨libraryFile, file⟩ := placed "library_file" (by simp [placeKeys])
  obtain ⟨libraryPath, directory⟩ := placed "library_path" (by simp [placeKeys])
  cases made : documentArguments room path document (present? document entries "default_args") with
  | error failure =>
      obtain ⟨number, present, refused⟩ := (documentArguments_eq_error_iff path).mp made
      exact .inr ⟨failure, .arguments placed present refused⟩
  | ok arguments =>
      obtain ⟨words, spelled, rfl⟩ := (documentArguments_eq_ok_iff path).mp made
      exact .inl ⟨⟨libraryFile, libraryPath, words⟩, optionMapM_eq_ok_iff.mp file,
        optionMapM_eq_ok_iff.mp directory, spelled⟩

end Entries

end Settings
end Custody
