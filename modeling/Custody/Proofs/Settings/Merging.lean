import Custody.Proofs.Settings.Documents
import Custody.Proofs.Yaml.Matching

/-!
# How settings are merged

Loading goes through three stages: a configuration file is looked for, what it says is taken over
with warnings, and the environment overrides it.  What the environment names replaces the place of
the library, and its arguments follow those of the file.  Nothing else decides the result.
-/

namespace Custody

open Logged

/-- The arguments that an environment adds: the words of the text of its variable. -/
inductive Environment.Adds (environment : Environment) : List Text → Prop
  /-- The variable is not set or empty. -/
  | nothing (unset : environment.given? Environment.argumentsName = none) : Adds environment []
  /-- The variable is a text that can be split. -/
  | line {line : Text} {words : List Text}
      (given : environment.given? Environment.argumentsName = some (.text line))
      (split : ShellWords.split line = .ok words) : Adds environment words

/-- The variables of an environment that loading looks at. -/
def Environment.variableNames : List String :=
  [configurationName, libraryFileName, libraryPathName, argumentsName]

namespace Settings

/-- The warning about a file that cannot be read. -/
def unreadableWarning (path : Datum) : StorageFault → LogRecord
  | .missing => ⟨.warning, "config file not found, ignoring: " ++ path.shown⟩
  | fault =>
      ⟨.warning, "could not read config file " ++ path.shown ++ ": " ++ fault.message path⟩

/-- What looking for a file finds: nothing if none is named, a fault of the system, or the document
that the reader gives for the text of the file. -/
inductive Found (reader : Yaml.Reader) (storage : Storage) : Option Datum → Finding → Prop
  /-- No file is named. -/
  | unnamed : Found reader storage none .unnamed
  /-- The file cannot be opened. -/
  | unreadable {named : Datum} {encoded : Bytes} {fault : StorageFault}
      (coded : named.encodeName = .ok encoded) (clean : encoded.contains 0 = false)
      (unread : storage.read encoded = .error fault) :
      Found reader storage (some named) (.unreadable named fault)
  /-- The file holds a document. -/
  | document {named : Datum} {encoded contents : Bytes} {value : Yaml.Document}
      (coded : named.encodeName = .ok encoded) (clean : encoded.contains 0 = false)
      (stored : storage.read encoded = .ok contents)
      (spelled : reader.read (.ofBytes contents) = .ok value) :
      Found reader storage (some named) (.document named value)

section Found

variable {reader : Yaml.Reader} {storage : Storage} {named : Datum} {encoded contents : Bytes}

theorem readDocument_eq_ok_iff {value : Yaml.Document} :
    readDocument reader named contents = .ok value ↔
      reader.read (.ofBytes contents) = .ok value := by
  unfold readDocument
  rcases reader.read (.ofBytes contents) with (_ | (_ | _)) | document <;> simp

/-- Looking for a file with a name is reading what the storage has under it. -/
theorem find_of_name (coded : named.encodeName = .ok encoded)
    (clean : encoded.contains 0 = false) :
    find reader storage (some named) =
      match storage.read encoded with
      | .error fault => .ok (.unreadable named fault)
      | .ok contents => (readDocument reader named contents).map (.document named) := by
  unfold find
  dsimp only
  rw [coded]
  change (if encoded.contains 0 then _ else _) = _
  rw [clean]
  rfl

theorem find_eq_ok_iff {chosen : Option Datum} {finding : Finding} :
    find reader storage chosen = .ok finding ↔ Found reader storage chosen finding := by
  constructor
  · intro found
    cases chosen with
    | none =>
        cases found
        exact .unnamed
    | some named =>
        cases coded : named.encodeName with
        | error failure =>
            simp only [find, coded] at found
            cases found
        | ok encoded =>
            cases clean : encoded.contains 0 with
            | true =>
                simp only [find, coded, clean, bind, Except.bind, if_true] at found
                cases found
            | false =>
                rw [find_of_name coded clean] at found
                cases stored : storage.read encoded with
                | error fault =>
                    rw [stored] at found
                    cases found
                    exact .unreadable coded clean stored
                | ok contents =>
                    rw [stored] at found
                    obtain ⟨value, spelled, rfl⟩ := map_eq_ok_iff.mp found
                    exact .document coded clean stored (readDocument_eq_ok_iff.mp spelled)
  · intro found
    cases found with
    | unnamed => rfl
    | unreadable coded clean unread => rw [find_of_name coded clean, unread]
    | document coded clean stored spelled =>
        rw [find_of_name coded clean, stored]
        exact map_eq_ok_iff.mpr ⟨_, readDocument_eq_ok_iff.mpr spelled, rfl⟩

end Found

namespace Finding

/-- The keys of a found mapping that mean nothing. -/
def unknownKeys : Finding → List Datum
  | .unnamed => []
  | .unreadable _ _ => []
  | .document _ value =>
      match contentsOf value with
      | .mapping entries => Settings.unknownKeys entries
      | _ => []

/-- What looking for a file has found says: nothing, unless it is a mapping. -/
inductive Says (room : Yaml.Room) : Finding → Said → Prop
  /-- No file is named. -/
  | unnamed : Says room .unnamed .nothing
  /-- The file cannot be opened. -/
  | unreadable (path : Datum) (fault : StorageFault) : Says room (.unreadable path fault) .nothing
  /-- The document is empty or null. -/
  | blank {path : Datum} {document : Yaml.Document} (nothing : contentsOf document = .nothing) :
      Says room (.document path document) .nothing
  /-- There is a mapping at the top. -/
  | mapping {path : Datum} {document : Yaml.Document} {entries : List (Datum × Nat)} {said : Said}
      (found : contentsOf document = .mapping entries)
      (told : MappingSays room document entries said) : Says room (.document path document) said

/-- The warnings about what looking for a file has found: one about a file that cannot be opened,
and one about each key that means nothing, in order. -/
inductive Warns : Finding → List LogRecord → Prop
  /-- No file is named. -/
  | unnamed : Warns .unnamed []
  /-- The file cannot be opened. -/
  | unreadable (path : Datum) (fault : StorageFault) :
      Warns (.unreadable path fault) [unreadableWarning path fault]
  /-- The file holds a document. -/
  | document (path : Datum) (document : Yaml.Document) :
      Warns (.document path document)
        ((Finding.document path document).unknownKeys.map (unknownWarning path))

/-- Why no settings come of what looking for a file has found. -/
inductive Refuses (room : Yaml.Room) : Finding → Failure → Prop
  /-- There is something else than a mapping at the top. -/
  | other {path : Datum} {document : Yaml.Document} {top : Nat}
      (found : contentsOf document = .other top) :
      Refuses room (.document path document)
        (.configuration (.notMapping path.shown (document.kindName top)))
  /-- The mapping says nothing. -/
  | mapping {path : Datum} {document : Yaml.Document} {entries : List (Datum × Nat)}
      {failure : Failure} (found : contentsOf document = .mapping entries)
      (refused : RefusesMapping room path document entries failure) :
      Refuses room (.document path document) failure

/-- Whatever is found, it is clear what is warned of. -/
theorem exists_warns (finding : Finding) : ∃ records, finding.Warns records := by
  cases finding with
  | unnamed => exact ⟨_, .unnamed⟩
  | unreadable path fault => exact ⟨_, .unreadable path fault⟩
  | document path document => exact ⟨_, .document path document⟩

/-- What looking for a file has found says something, or it is refused. -/
theorem says_or_refuses (room : Yaml.Room) (finding : Finding) :
    (∃ said, finding.Says room said) ∨ ∃ failure, finding.Refuses room failure := by
  cases finding with
  | unnamed => exact .inl ⟨_, .unnamed⟩
  | unreadable path fault => exact .inl ⟨_, .unreadable path fault⟩
  | document path document =>
      cases found : contentsOf document with
      | nothing => exact .inl ⟨_, .blank found⟩
      | other top => exact .inr ⟨_, .other found⟩
      | mapping entries =>
          rcases mappingSays_or_refuses room path document entries with
            ⟨said, told⟩ | ⟨failure, refused⟩
          · exact .inl ⟨said, .mapping found told⟩
          · exact .inr ⟨failure, .mapping found refused⟩

end Finding

/-- The settings that what stands at the top of a document gives, or why there are none. -/
def Contents.settings (room : Yaml.Room) (path : Datum) (document : Yaml.Document) :
    Contents → Except Failure Settings
  | .nothing => .ok blank
  | .mapping entries => ofEntries room path document entries
  | .other top => .error (.configuration (.notMapping path.shown (document.kindName top)))

section OfFinding

variable {room : Yaml.Room} {finding : Finding} {records : List LogRecord}

/-- A document gives its settings after the warnings about its keys. -/
theorem ofDocument_yields (room : Yaml.Room) (path : Datum) (document : Yaml.Document) :
    Yields (ofDocument room path document) ((contentsOf document).settings room path document)
      ((Finding.document path document).unknownKeys.map (unknownWarning path)) := by
  rw [ofDocument_eq, Finding.unknownKeys]
  cases contentsOf document with
  | nothing => exact .pure blank
  | other top => exact .throw _
  | mapping entries =>
      rw [← List.append_nil (List.map _ _)]
      exact (warnUnknown_yields path entries).bind (.lift _)

/-- What looking for a file has found is taken over with its warnings. -/
theorem ofFinding_yields {said : Said} (told : finding.Says room said)
    (warns : finding.Warns records) :
    Yields (ofFinding room finding) (.ok said.settings) records := by
  cases warns with
  | unnamed =>
      cases told
      exact .pure blank
  | unreadable path fault =>
      cases told
      cases fault <;> exact (Yields.warn _).bind (.pure blank)
  | document path document =>
      have yields := ofDocument_yields room path document
      cases told with
      | blank nothing =>
          rw [nothing] at yields
          exact yields
      | mapping found told =>
          rw [found, Contents.settings, ofEntries_of_mappingSays told] at yields
          exact yields

/-- What is refused fails, with all warnings before. -/
theorem ofFinding_yields_error {failure : Failure} (refused : finding.Refuses room failure)
    (warns : finding.Warns records) :
    Yields (ofFinding room finding) (.error failure) records := by
  cases refused with
  | @other path document top found =>
      have yields := ofDocument_yields room path document
      rw [found] at yields
      cases warns
      exact yields
  | @mapping path document entries _ found refused =>
      have yields := ofDocument_yields room path document
      rw [found, Contents.settings, ofEntries_of_refuses refused] at yields
      cases warns
      exact yields

end OfFinding

/-- What a configuration file says and an environment adds, with the places that the environment
names. -/
def Said.merged (said : Said) (environment : Environment) (extra : List Text) : Settings :=
  ⟨(environment.given? Environment.libraryFileName).getD (said.libraryFile.elim .null .text),
    (environment.given? Environment.libraryPathName).getD (said.libraryPath.elim .null .text),
    .list ((said.arguments ++ extra).map .text)⟩

section Override

variable {environment : Environment}

/-- What an environment adds is made of its variable. -/
theorem words_of_adds {extra : List Text} (adds : environment.Adds extra) :
    ∃ added, (environment.given? Environment.argumentsName).mapM words = .ok added ∧
      added.getD [] = extra.map .text := by
  cases adds with
  | nothing unset =>
      rw [unset]
      exact ⟨none, rfl, rfl⟩
  | line given split =>
      rw [given]
      refine ⟨some (extra.map .text), optionMapM_eq_ok_iff.mpr (.some ?_), rfl⟩
      exact map_eq_ok_iff.mpr ⟨extra, split, rfl⟩

/-- An environment adds what can be made of its variable. -/
theorem exists_adds_of_words {added : Option (List Datum)}
    (made : (environment.given? Environment.argumentsName).mapM words = .ok added) :
    ∃ extra, environment.Adds extra := by
  rw [optionMapM_eq_ok_iff] at made
  cases given : environment.given? Environment.argumentsName with
  | none => exact ⟨[], .nothing given⟩
  | some value =>
      rw [given] at made
      obtain made | _ := made
      cases value with
      | text line =>
          obtain ⟨extra, split, _⟩ := map_eq_ok_iff.mp made
          exact ⟨extra, .line given split⟩
      | _ => cases made

theorem override_of_adds {extra : List Text} (adds : environment.Adds extra) (said : Said) :
    override environment said.settings = .ok (said.merged environment extra) := by
  obtain ⟨added, made, extraEq⟩ := words_of_adds adds
  unfold override Said.merged
  rw [made, List.map_append, ← extraEq]
  rfl

/-- Overriding succeeds exactly with what the environment adds. -/
theorem override_eq_ok_iff {said : Said} {settings : Settings} :
    override environment said.settings = .ok settings ↔
      ∃ extra, environment.Adds extra ∧ settings = said.merged environment extra := by
  constructor
  · intro made
    cases added : (environment.given? Environment.argumentsName).mapM words with
    | error failure =>
        unfold override at made
        rw [added] at made
        cases made
    | ok _ =>
        obtain ⟨extra, adds⟩ := exists_adds_of_words added
        rw [override_of_adds adds] at made
        exact ⟨extra, adds, (Except.ok.inj made).symm⟩
  · rintro ⟨extra, adds, rfl⟩
    exact override_of_adds adds said

end Override

section Load

variable {reader : Yaml.Reader} {storage : Storage} {environment : Environment} {path : Datum}

theorem load_of_find_eq_error {failure : Failure}
    (unfound : find reader storage (configurationPath? path environment) = .error failure) :
    Yields (load reader storage environment path) (.error failure) [] := by
  unfold load
  rw [unfound]
  exact .bind_error (.lift _)

variable {finding : Finding} {records : List LogRecord}

theorem load_of_told {said : Said}
    (found : find reader storage (configurationPath? path environment) = .ok finding)
    (told : finding.Says reader.room said) (warns : finding.Warns records) :
    Yields (load reader storage environment path) (override environment said.settings)
      records := by
  unfold load
  rw [found, ← List.append_nil records]
  exact .lift_bind ((ofFinding_yields told warns).bind (.lift _))

theorem load_of_refuses {failure : Failure}
    (found : find reader storage (configurationPath? path environment) = .ok finding)
    (refused : finding.Refuses reader.room failure) (warns : finding.Warns records) :
    Yields (load reader storage environment path) (.error failure) records := by
  unfold load
  rw [found]
  exact .lift_bind (.bind_error (ofFinding_yields_error refused warns))

/-- The settings of a mapping are overridden. -/
theorem load_result_of_mapping {named : Datum} {document : Yaml.Document}
    {entries : List (Datum × Nat)}
    (found : find reader storage (configurationPath? path environment) =
      .ok (.document named document))
    (top : contentsOf document = .mapping entries) :
    (load reader storage environment path).outcome.1 =
      ofEntries reader.room named document entries >>= override environment := by
  have warns : (Finding.document named document).Warns _ := .document named document
  rcases mappingSays_or_refuses reader.room named document entries with
    ⟨said, told⟩ | ⟨failure, refused⟩
  · rw [(load_of_told found (.mapping top told) warns).outcome_eq, ofEntries_of_mappingSays told]
    rfl
  · rw [(load_of_refuses found (.mapping top refused) warns).outcome_eq,
      ofEntries_of_refuses refused]
    rfl

/-- Settings are loaded exactly if what was found says something and the environment adds
arguments. -/
theorem load_eq_ok_iff {settings : Settings} :
    (load reader storage environment path).outcome = (.ok settings, records) ↔
      ∃ finding said extra,
        find reader storage (configurationPath? path environment) = .ok finding ∧
        finding.Says reader.room said ∧ finding.Warns records ∧ environment.Adds extra ∧
        settings = said.merged environment extra := by
  constructor
  · intro loaded
    cases found : find reader storage (configurationPath? path environment) with
    | error failure =>
        rw [(load_of_find_eq_error found).outcome_eq] at loaded
        cases loaded
    | ok finding =>
        obtain ⟨others, warns⟩ := finding.exists_warns
        rcases finding.says_or_refuses reader.room with ⟨said, told⟩ | ⟨failure, refused⟩
        · rw [(load_of_told found told warns).outcome_eq, Prod.mk.injEq] at loaded
          obtain ⟨overridden, rfl⟩ := loaded
          obtain ⟨extra, adds, rfl⟩ := override_eq_ok_iff.mp overridden
          exact ⟨finding, said, extra, rfl, told, warns, adds, rfl⟩
        · rw [(load_of_refuses found refused warns).outcome_eq] at loaded
          cases loaded
  · rintro ⟨finding, said, extra, found, told, warns, adds, rfl⟩
    rw [(load_of_told found told warns).outcome_eq, override_of_adds adds]

/-- If the environment adds arguments, loading fails exactly if what was found is refused. -/
theorem load_eq_error_iff {extra : List Text} {failure : Failure}
    (found : find reader storage (configurationPath? path environment) = .ok finding)
    (adds : environment.Adds extra) :
    (load reader storage environment path).outcome.1 = .error failure ↔
      finding.Refuses reader.room failure := by
  obtain ⟨records, warns⟩ := finding.exists_warns
  constructor
  · intro failed
    rcases finding.says_or_refuses reader.room with ⟨said, told⟩ | ⟨other, refused⟩
    · rw [(load_of_told found told warns).outcome_eq, override_of_adds adds] at failed
      cases failed
    · rw [(load_of_refuses found refused warns).outcome_eq] at failed
      exact Except.error.inj failed ▸ refused
  · intro refused
    rw [(load_of_refuses found refused warns).outcome_eq]

/-- What was found is warned of, also if there is a failure later. -/
theorem load_warns
    (found : find reader storage (configurationPath? path environment) = .ok finding) :
    finding.Warns (load reader storage environment path).outcome.2 := by
  obtain ⟨records, warns⟩ := finding.exists_warns
  rcases finding.says_or_refuses reader.room with ⟨said, told⟩ | ⟨failure, refused⟩
  · rw [(load_of_told found told warns).outcome_eq]
    exact warns
  · rw [(load_of_refuses found refused warns).outcome_eq]
    exact warns

/-- Two stores in which the file that is looked for reads the same give the same settings. -/
theorem load_eq_of_reads {other : Storage}
    (same : ∀ named encoded, configurationPath? path environment = some named →
      named.encodeName = .ok encoded → other.read encoded = storage.read encoded) :
    load reader other environment path = load reader storage environment path := by
  have found : find reader other (configurationPath? path environment) =
      find reader storage (configurationPath? path environment) := by
    unfold find
    cases chosen : configurationPath? path environment with
    | none => rfl
    | some named =>
        dsimp only
        cases coded : named.encodeName with
        | error failure => rfl
        | ok encoded =>
            change (if encoded.contains 0 then _ else _) = _
            rw [same named encoded chosen coded]
            rfl
  unfold load
  rw [found]

/-- Two environments that agree in the variables that are looked at give the same settings. -/
theorem load_eq_of_variables {other : Environment}
    (same : ∀ name ∈ Environment.variableNames, other.given? name = environment.given? name) :
    load reader storage other path = load reader storage environment path := by
  have config := same Environment.configurationName (by simp [Environment.variableNames])
  have file := same Environment.libraryFileName (by simp [Environment.variableNames])
  have directory := same Environment.libraryPathName (by simp [Environment.variableNames])
  have arguments := same Environment.argumentsName (by simp [Environment.variableNames])
  unfold load configurationPath? override
  rw [config, file, directory, arguments]

end Load

section SameValues

open Yaml Yaml.Document

variable {document another : Yaml.Document} {number other : Nat}

theorem isNull_eq_of_same (same : SameValue document another number other) :
    document.isNull number = another.isNull other := by
  obtain ⟨related, matching, here⟩ := same
  have alike := matching.alike here
  unfold isNull
  generalize document.cell number = cell at alike ⊢
  generalize another.cell other = cellToo at alike ⊢
  cases alike <;> rfl

theorem documentArgument?_eq_of_same (room : Yaml.Room)
    (same : SameValue document another number other) :
    documentArgument? room document number = documentArgument? room another other := by
  rw [documentArgument?_eq, documentArgument?_eq, isNull_eq_of_same same, same.shown_eq]

theorem documentArguments_eq_of_same (room : Yaml.Room) (path : Datum) {value? other? : Option Nat}
    (same : Option.Rel (SameValue document another) value? other?) :
    documentArguments room path document value? = documentArguments room path another other? := by
  obtain @⟨number, other, related, matching, here⟩ | _ := same
  · have alike := matching.alike here
    unfold documentArguments
    dsimp only
    generalize document.cell number = cell at alike ⊢
    generalize another.cell other = cellToo at alike ⊢
    cases alike with
    | scalar value => cases value <;> rfl
    | set items => rfl
    | map matched => rfl
    | list matched =>
        dsimp only
        rw [mapM_eq_of_forall₂ (matched.imp fun _ _ item =>
          documentArgument?_eq_of_same room ⟨related, matching, item⟩)]
    | pairs matched =>
        dsimp only
        refine mapM_eq_of_forall₂ ((forall₂_zipIdx matched 0).imp ?_)
        rintro ⟨pair, position⟩ ⟨otherPair, _⟩ ⟨⟨first, second⟩, rfl⟩
        dsimp only
        rw [(matching.written_eq room.item).2 .nil (.pair here position) first second]
  · rfl

variable {entries others : List (Datum × Nat)}

theorem present?_rel {key : String}
    (same : Option.Rel (SameValue document another) (lookup? entries key) (lookup? others key)) :
    Option.Rel (SameValue document another) (present? document entries key)
      (present? another others key) := by
  have filtered (document : Yaml.Document) (entries : List (Datum × Nat)) :
      present? document entries key =
        (lookup? entries key).filter fun number => !document.isNull number := by
    unfold present? isNull
    congr 1
    funext number
    cases document.cell number with
    | scalar value => cases value <;> rfl
    | _ => rfl
  rw [filtered, filtered]
  generalize lookup? entries key = value? at same ⊢
  generalize lookup? others key = other? at same ⊢
  obtain same | _ := same
  · rw [Option.filter_some, Option.filter_some, isNull_eq_of_same same]
    split
    · exact .some same
    · exact .none
  · exact .none

/-- Of two mappings that agree in the keys of settings the same settings come. -/
theorem ofEntries_eq_of_same (room : Yaml.Room) (path : Datum)
    (same : ∀ key ∈ keys,
      Option.Rel (SameValue document another) (lookup? entries key) (lookup? others key)) :
    ofEntries room path document entries = ofEntries room path another others := by
  have placed (key : String) (member : key ∈ keys) :
      (present? document entries key).mapM (document.shown room.value) =
        (present? another others key).mapM (another.shown room.value) := by
    have related := present?_rel (same key member)
    generalize present? document entries key = value? at related ⊢
    generalize present? another others key = other? at related ⊢
    obtain matched | _ := related
    · simp only [Option.mapM_some, matched.shown_eq]
    · rfl
  unfold ofEntries
  dsimp only
  rw [placed "library_file" (by simp [keys]), placed "library_path" (by simp [keys]),
    documentArguments_eq_of_same room path (present?_rel (same "default_args" (by simp [keys])))]

end SameValues

/-- How loading merges what the configuration file says with the environment.  Two values are the
same if they look alike all the way down, so a mapping that is a part of one of its own values under
a key of settings is told apart by all of its keys. -/
structure Merges (reader : Yaml.Reader) (storage : Storage) (environment : Environment)
    (path : Datum) : Prop where
  /-- Nothing is read but the file with the path, or else the one the environment names. -/
  reads : ∀ other : Storage,
    (∀ named encoded,
      (if path.isTrue then some path else environment.given? "CLANGKIT_CONFIG") = some named →
        named.encodeName = .ok encoded → other.read encoded = storage.read encoded) →
    load reader other environment path = load reader storage environment path
  /-- Settings are returned exactly if what was found says something and the environment adds
  arguments.  A place is the one the environment names, or else the one in the file; the arguments
  of the environment follow those of the file. -/
  returns : ∀ settings records,
    (load reader storage environment path).outcome = (.ok settings, records) ↔
      ∃ finding said extra,
        Found reader storage
          (if path.isTrue then some path else environment.given? "CLANGKIT_CONFIG") finding ∧
        finding.Says reader.room said ∧ finding.Warns records ∧ environment.Adds extra ∧
        settings =
          ⟨(environment.given? "CLANGKIT_LIBRARY_FILE").getD (said.libraryFile.elim .null .text),
            (environment.given? "CLANGKIT_LIBRARY_PATH").getD (said.libraryPath.elim .null .text),
            .list ((said.arguments ++ extra).map .text)⟩
  /-- All warnings are given even if there is a failure later. -/
  warns : ∀ finding,
    Found reader storage
      (if path.isTrue then some path else environment.given? "CLANGKIT_CONFIG") finding →
    finding.Warns (load reader storage environment path).outcome.2
  /-- No other variable counts. -/
  otherVariables : ∀ other : Environment,
    (∀ name ∈ Environment.variableNames, other.given? name = environment.given? name) →
    load reader storage other path = load reader storage environment path
  /-- No key counts that is not one of settings. -/
  otherKeys : ∀ (other : Storage) {named : Datum} {document another : Yaml.Document}
      {entries others : List (Datum × Nat)},
    Found reader storage (configurationPath? path environment) (.document named document) →
    Found reader other (configurationPath? path environment) (.document named another) →
    contentsOf document = .mapping entries → contentsOf another = .mapping others →
    (∀ key ∈ keys, Option.Rel (Yaml.Document.SameValue document another)
      (lookup? entries key) (lookup? others key)) →
    (load reader other environment path).outcome.1 =
      (load reader storage environment path).outcome.1

theorem load_merges (reader : Yaml.Reader) (storage : Storage) (environment : Environment)
    (path : Datum) : Merges reader storage environment path where
  reads _ same := load_eq_of_reads same
  returns settings records := by
    rw [load_eq_ok_iff]
    simp only [find_eq_ok_iff]
    rfl
  warns _ found := load_warns (find_eq_ok_iff.mpr found)
  otherVariables _ same := load_eq_of_variables same
  otherKeys := by
    intro other named document another entries others found foundToo top topToo same
    rw [load_result_of_mapping (find_eq_ok_iff.mpr found) top,
      load_result_of_mapping (find_eq_ok_iff.mpr foundToo) topToo,
      ofEntries_eq_of_same reader.room named same]

end Settings
end Custody
