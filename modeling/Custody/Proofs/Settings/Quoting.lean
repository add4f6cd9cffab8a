import Custody.Proofs.Settings.Merging
import Custody.Proofs.ShellWords

/-!
# Quoted arguments

Arguments are written between single quotes, in a configuration file or in the environment, or as
the items of a list.  Whichever way they are written, the settings hold them as they are: those of
the file first, and those of the environment after them.
-/

namespace Custody

/-- Some words are written as the value with a number of a document. -/
inductive Yaml.Document.Writes (document : Yaml.Document) (words : List Text) (number : Nat) :
    Prop
  /-- The value is the line of the words, each between single quotes. -/
  | line (spelled : document.cell number = .scalar (.text (ShellWords.line words)))
  /-- The value is a list with the words as its items. -/
  | list {items : List Nat} (listed : document.cell number = .list items)
      (each : List.Forall₂ (fun item word => document.cell item = .scalar (.text word))
        items words)

namespace Settings

variable {room : Yaml.Room} {document : Yaml.Document} {words : List Text}

/-- The items of a list of texts are not null, and they are shown as they are. -/
theorem forall₂_shown_of_texts {items : List Nat}
    (each : List.Forall₂ (fun item word => document.cell item = .scalar (.text word))
      items words) :
    List.Forall₂ (fun item word => document.shown room.item item = .ok word)
      (items.filter fun item => !document.isNull item) words := by
  induction each with
  | nil => exact .nil
  | @cons item word items words text _ inductionHypothesis =>
      have kept : (!document.isNull item) = true := by
        unfold Yaml.Document.isNull
        rw [text]
        rfl
      have shown : document.shown room.item item = .ok word := by
        unfold Yaml.Document.shown
        rw [text]
        rfl
      rw [List.filter_cons, if_pos kept]
      exact .cons shown inductionHypothesis

/-- Words are spelled by a value that they are written as. -/
theorem argumentsOf_of_writes {number : Nat} (writes : document.Writes words number) :
    ArgumentsOf room document (some number) words := by
  cases writes with
  | line spelled => exact .line spelled (ShellWords.split_line words)
  | list listed each => exact .list listed (forall₂_shown_of_texts each)

/-- A value spells no other words than those that are written as it. -/
theorem argumentsOf_iff_of_writes {number : Nat} (writes : document.Writes words number)
    {others : List Text} : ArgumentsOf room document (some number) others ↔ others = words := by
  constructor
  · intro spelled
    have made : documentArguments room .null document (some number) = .ok (words.map .text) :=
      (documentArguments_eq_ok_iff .null).mpr ⟨_, argumentsOf_of_writes writes, rfl⟩
    rw [(documentArguments_eq_ok_iff .null).mpr ⟨_, spelled, rfl⟩] at made
    exact List.map_injective_iff.mpr (fun _ _ => Datum.text.inj) (Except.ok.inj made)
  · rintro rfl
    exact argumentsOf_of_writes writes

section Mappings

variable {documentToo : Yaml.Document} {entries entriesToo : List (Datum × Nat)}
  {number numberToo : Nat}

/-- A mapping with written arguments says them, and the places that it names. -/
theorem mappingSays_iff_of_writes
    (present : present? document entries "default_args" = some number)
    (writes : document.Writes words number) {said : Said} :
    MappingSays room document entries said ↔
      placeForm room document entries "library_file" = .ok said.libraryFile ∧
      placeForm room document entries "library_path" = .ok said.libraryPath ∧
      said.arguments = words := by
  rw [placeForm, placeForm, optionMapM_eq_ok_iff, optionMapM_eq_ok_iff]
  constructor
  · rintro ⟨file, directory, arguments⟩
    rw [present, argumentsOf_iff_of_writes writes] at arguments
    exact ⟨file, directory, arguments⟩
  · rintro ⟨file, directory, arguments⟩
    refine ⟨file, directory, ?_⟩
    rw [present, argumentsOf_iff_of_writes writes]
    exact arguments

/-- It makes no difference how the arguments of a mapping are written. -/
theorem ofDocument_eq_of_writes (path : Datum)
    (top : contentsOf document = .mapping entries)
    (topToo : contentsOf documentToo = .mapping entriesToo)
    (present : present? document entries "default_args" = some number)
    (presentToo : present? documentToo entriesToo "default_args" = some numberToo)
    (writes : document.Writes words number) (writesToo : documentToo.Writes words numberToo)
    (unknown : unknownKeys entries = unknownKeys entriesToo)
    (places : ∀ key ∈ placeKeys,
      placeForm room document entries key = placeForm room documentToo entriesToo key) :
    ofDocument room path document = ofDocument room path documentToo := by
  rw [ofDocument_eq, ofDocument_eq, top, topToo]
  dsimp only
  unfold warnUnknown
  rw [unknown, ofEntries_eq, ofEntries_eq, present, presentToo,
    places "library_file" (by simp [placeKeys]), places "library_path" (by simp [placeKeys]),
    (documentArguments_eq_ok_iff path).mpr ⟨_, argumentsOf_of_writes writes, rfl⟩,
    (documentArguments_eq_ok_iff path).mpr ⟨_, argumentsOf_of_writes writesToo, rfl⟩]

end Mappings

section Variable

variable {reader : Yaml.Reader} {storage : Storage} {environment bare : Environment}
  {path : Datum}

/-- What an environment with the line of some words adds: the words and nothing else. -/
theorem adds_iff_of_line
    (given : environment.entries.lookup (Text.ofString "CLANGKIT_CLANG_ARGS") =
      some (.text (ShellWords.line words))) {extra : List Text} :
    environment.Adds extra ↔ extra = words := by
  have filled : environment.given? Environment.argumentsName =
      if words.isEmpty then none else some (.text (ShellWords.line words)) := by
    unfold Environment.given? Environment.argumentsName
    rw [given, Option.filter_some, Datum.isTrue, ShellWords.isEmpty_line]
    cases words <;> rfl
  constructor
  · intro adds
    cases adds with
    | nothing unset =>
        rw [unset] at filled
        cases words with
        | nil => rfl
        | cons word words => cases filled
    | line givenLine split =>
        rw [givenLine] at filled
        cases words with
        | nil => cases filled
        | cons word words =>
            cases filled
            rw [ShellWords.split_line] at split
            exact (Except.ok.inj split).symm
  · rintro rfl
    cases extra with
    | nil => exact .nothing filled
    | cons word words => exact .line filled (ShellWords.split_line _)

/-- The variable of the arguments does nothing but add its words at the end. -/
theorem load_eq_of_line
    (given : environment.entries.lookup (Text.ofString "CLANGKIT_CLANG_ARGS") =
      some (.text (ShellWords.line words)))
    (unset : bare.given? "CLANGKIT_CLANG_ARGS" = none)
    (same : ∀ name ∈ ["CLANGKIT_CONFIG", "CLANGKIT_LIBRARY_FILE", "CLANGKIT_LIBRARY_PATH"],
      bare.given? name = environment.given? name) :
    (load reader storage environment path).outcome =
      ((load reader storage bare path).outcome.1.bind fun settings =>
          settings.appendArguments (words.map .text),
        (load reader storage bare path).outcome.2) := by
  have adds : environment.Adds words := (adds_iff_of_line given).mpr rfl
  have chosen : configurationPath? path bare = configurationPath? path environment := by
    unfold configurationPath? Environment.configurationName
    rw [same "CLANGKIT_CONFIG" (by simp)]
  cases found : find reader storage (configurationPath? path environment) with
  | error failure =>
      have foundBare := found
      rw [← chosen] at foundBare
      rw [(load_of_find_eq_error found).outcome_eq, (load_of_find_eq_error foundBare).outcome_eq]
      rfl
  | ok finding =>
      have foundBare := found
      rw [← chosen] at foundBare
      obtain ⟨records, warns⟩ := finding.exists_warns
      rcases finding.says_or_refuses reader.room with ⟨said, told⟩ | ⟨failure, refused⟩
      · rw [(load_of_told found told warns).outcome_eq,
          (load_of_told foundBare told warns).outcome_eq, override_of_adds adds,
          override_of_adds (.nothing unset)]
        unfold Said.merged Environment.libraryFileName Environment.libraryPathName
        rw [same "CLANGKIT_LIBRARY_FILE" (by simp), same "CLANGKIT_LIBRARY_PATH" (by simp),
          List.append_nil, List.map_append]
        rfl
      · rw [(load_of_refuses found refused warns).outcome_eq,
          (load_of_refuses foundBare refused warns).outcome_eq]
        rfl

end Variable

/-- Words survive every way into the settings, whichever characters they have. -/
structure KeepsWords (reader : Yaml.Reader) (words : List Text) : Prop where
  /-- Quoted words are split into themselves. -/
  splits : ShellWords.split (ShellWords.line words) = .ok words
  /-- Lines that can be split are split one by one when a space parts them. -/
  joins : ∀ {left right : Text} {more : List Text},
    ShellWords.split left = .ok words → ShellWords.split right = .ok more →
    ShellWords.split (left ++ " " ++ right) = .ok (words ++ more)
  /-- If they are written under the key of the arguments of a configuration file, they are the
  arguments of the settings, before those of the environment.  The rest of the file says the
  places and decides whether there are settings. -/
  file : ∀ {storage : Storage} {environment : Environment} {path named : Datum}
      {document : Yaml.Document} {entries : List (Datum × Nat)} {number : Nat},
    find reader storage (configurationPath? path environment) = .ok (.document named document) →
    contentsOf document = .mapping entries →
    present? document entries "default_args" = some number → document.Writes words number →
    ∀ settings records,
      (load reader storage environment path).outcome = (.ok settings, records) ↔
        ∃ libraryFile libraryPath extra,
          placeForm reader.room document entries "library_file" = .ok libraryFile ∧
          placeForm reader.room document entries "library_path" = .ok libraryPath ∧
          (Finding.document named document).Warns records ∧ environment.Adds extra ∧
          settings = Said.merged ⟨libraryFile, libraryPath, words⟩ environment extra
  /-- It makes no difference whether they are written there as a line or as a list. -/
  alike : ∀ {storage storageToo : Storage} {environment : Environment} {path named : Datum}
      {document documentToo : Yaml.Document} {entries entriesToo : List (Datum × Nat)}
      {number numberToo : Nat},
    find reader storage (configurationPath? path environment) = .ok (.document named document) →
    find reader storageToo (configurationPath? path environment) =
      .ok (.document named documentToo) →
    contentsOf document = .mapping entries → contentsOf documentToo = .mapping entriesToo →
    present? document entries "default_args" = some number →
    present? documentToo entriesToo "default_args" = some numberToo →
    document.Writes words number → documentToo.Writes words numberToo →
    unknownKeys entries = unknownKeys entriesToo →
    (∀ key ∈ placeKeys,
      placeForm reader.room document entries key =
        placeForm reader.room documentToo entriesToo key) →
    load reader storage environment path = load reader storageToo environment path
  /-- If the variable of the arguments is the line of them, they follow the arguments of the file,
  and nothing else does. -/
  environment : ∀ {storage : Storage} {environment : Environment} {path : Datum},
    environment.entries.lookup (Text.ofString "CLANGKIT_CLANG_ARGS") =
      some (.text (ShellWords.line words)) →
    ∀ settings records,
      (load reader storage environment path).outcome = (.ok settings, records) ↔
        ∃ finding said,
          find reader storage (configurationPath? path environment) = .ok finding ∧
          finding.Says reader.room said ∧ finding.Warns records ∧
          settings =
            ⟨(environment.given? "CLANGKIT_LIBRARY_FILE").getD
                (said.libraryFile.elim .null .text),
              (environment.given? "CLANGKIT_LIBRARY_PATH").getD
                (said.libraryPath.elim .null .text),
              .list ((said.arguments ++ words).map .text)⟩
  /-- Loading without the variable comes to the same but for these arguments at the end. -/
  appends : ∀ {storage : Storage} {environment bare : Environment} {path : Datum},
    environment.entries.lookup (Text.ofString "CLANGKIT_CLANG_ARGS") =
      some (.text (ShellWords.line words)) →
    bare.given? "CLANGKIT_CLANG_ARGS" = none →
    (∀ name ∈ ["CLANGKIT_CONFIG", "CLANGKIT_LIBRARY_FILE", "CLANGKIT_LIBRARY_PATH"],
      bare.given? name = environment.given? name) →
    (load reader storage environment path).outcome =
      ((load reader storage bare path).outcome.1.bind fun settings =>
          settings.appendArguments (words.map .text),
        (load reader storage bare path).outcome.2)

theorem keepsWords (reader : Yaml.Reader) (words : List Text) : KeepsWords reader words where
  splits := ShellWords.split_line words
  joins := ShellWords.split_append
  file := by
    intro storage environment path named document entries number found top present writes settings
      records
    rw [load_eq_ok_iff]
    constructor
    · rintro ⟨finding, said, extra, foundHere, told, warns, adds, rfl⟩
      cases found.symm.trans foundHere
      cases told with
      | blank nothing => cases top.symm.trans nothing
      | mapping topHere told =>
          cases top.symm.trans topHere
          obtain ⟨file, directory, rfl⟩ := (mappingSays_iff_of_writes present writes).mp told
          exact ⟨_, _, extra, file, directory, warns, adds, rfl⟩
    · rintro ⟨libraryFile, libraryPath, extra, file, directory, warns, adds, rfl⟩
      have told : MappingSays reader.room document entries ⟨libraryFile, libraryPath, words⟩ :=
        (mappingSays_iff_of_writes present writes).mpr ⟨file, directory, rfl⟩
      exact ⟨_, _, extra, found, .mapping top told, warns, adds, rfl⟩
  alike := by
    intro storage storageToo environment path named document documentToo entries entriesToo number
      numberToo found foundToo top topToo present presentToo writes writesToo unknown places
    have same := ofDocument_eq_of_writes named top topToo present presentToo writes writesToo
      unknown places
    have taken : ofFinding reader.room (.document named document) =
        ofFinding reader.room (.document named documentToo) := same
    have continued (finding : Finding) :
        ((ExceptT.mk (pure (.ok finding)) : Logged Finding) >>= ofFinding reader.room) =
          ofFinding reader.room finding := rfl
    unfold load
    rw [found, foundToo, ← bind_assoc, ← bind_assoc, continued, continued, taken]
  environment := by
    intro storage environment path given settings records
    rw [load_eq_ok_iff]
    constructor
    · rintro ⟨finding, said, extra, found, told, warns, adds, rfl⟩
      cases (adds_iff_of_line given).mp adds
      exact ⟨finding, said, found, told, warns, rfl⟩
    · rintro ⟨finding, said, found, told, warns, rfl⟩
      exact ⟨finding, said, words, found, told, warns, (adds_iff_of_line given).mpr rfl, rfl⟩
  appends := load_eq_of_line

/-- A file with a list of arguments, and an environment that adds a line of others. -/
example :
    ((load (.whole ⟨9, 9, 9⟩ ⟨9, 9⟩)
      (.ofPaths [("cfg.yaml", some (Text.encode "default_args: [\"a b\", \"\"]\n"))])
      ⟨[("CLANGKIT_CLANG_ARGS", .text (ShellWords.line ["it\x27s", ""]))]⟩
      (.text "cfg.yaml")).outcome.1.map (·.defaultArguments.written)) =
        .ok "[\x27a b\x27, \x27\x27, \"it\x27s\", \x27\x27]" := by
  decide +kernel

end Settings
end Custody
