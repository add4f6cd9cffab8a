import Custody.Proofs.Settings.Merging

/-!
# What a bad configuration file leads to

The contents of a configuration file are decoded, read as a document, shown and split into words,
and each of these may fail.  A document that is not well formed, is no mapping or holds other things
than arguments under their key is refused as a configuration.  All other failures pass as they are.
Which of them comes first in a file with several is up to the reader of documents.
-/

namespace Custody

namespace ShellWords

/-- A line can only be refused for an open quotation or an open escape. -/
theorem splitFrom_failsOnly (line : List Glyph) (state : State) :
    FailsOnly (fun failure => failure = .openQuotation ∨ failure = .openEscape)
      (splitFrom state line) := by
  induction line generalizing state with
  | nil =>
      cases state with
      | between => exact .ok _
      | word taken => exact .ok _
      | single taken => exact .error (.inl rfl)
      | double taken => exact .error (.inl rfl)
      | escaped taken => exact .error (.inr rfl)
      | doubleEscaped taken => exact .error (.inr rfl)
  | cons glyph line inductionHypothesis => exact (inductionHypothesis _).map _

end ShellWords

namespace Yaml.Document

/-- The failures of showing a value: it is too deep, or it holds an integer with too many digits. -/
def IsUnshown (failure : Failure) : Prop := failure = .tooDeep ∨ failure = .tooManyDigits none

theorem checkDigits_failsOnly (value : Datum) : FailsOnly IsUnshown (checkDigits value) := by
  unfold checkDigits
  split
  · split
    · exact .error (.inr rfl)
    · exact .ok ()
  · exact .ok ()

theorem writtenScalar_failsOnly (value : Datum) : FailsOnly IsUnshown (writtenScalar value) :=
  (checkDigits_failsOnly value).bind fun _ => .ok _

theorem writtenLeaf_failsOnly (bound : Nat) (value : Datum) :
    FailsOnly IsUnshown (writtenLeaf bound value) := by
  cases bound with
  | zero => exact .error (.inl rfl)
  | succ bound => exact writtenScalar_failsOnly value

/-- Values and pairs are only refused for their depth or for their digits. -/
theorem written_failsOnly (document : Document) (bound : Nat) :
    (∀ path number, FailsOnly IsUnshown (document.writtenInside bound path number)) ∧
    ∀ path whole pair, FailsOnly IsUnshown (document.writtenPair bound path whole pair) := by
  induction bound with
  | zero => exact ⟨fun _ _ => .error (.inl rfl), fun _ _ _ => .error (.inl rfl)⟩
  | succ bound inductionHypothesis =>
      obtain ⟨inside, pairInside⟩ := inductionHypothesis
      constructor
      · intro path number
        unfold writtenInside
        dsimp only
        cases document.cell number with
        | scalar value => exact writtenScalar_failsOnly value
        | set items =>
            cases items with
            | nil => exact .ok _
            | cons item items =>
                exact (FailsOnly.mapM (writtenLeaf_failsOnly _) _).bind fun _ => .ok _
        | list items =>
            dsimp only
            split
            · exact .ok _
            · exact (FailsOnly.mapM (inside _) _).bind fun _ => .ok _
        | pairs items =>
            dsimp only
            split
            · exact .ok _
            · exact (FailsOnly.mapM (fun _ => pairInside _ _ _) _).bind fun _ => .ok _
        | map entries =>
            dsimp only
            split
            · exact .ok _
            · refine (FailsOnly.mapM (fun entry => ?_) _).bind fun _ => .ok _
              exact (writtenLeaf_failsOnly bound _).bind fun _ => (inside _ _).bind fun _ => .ok _
      · intro path whole pair
        unfold writtenPair
        dsimp only
        split
        · exact .ok _
        · exact (inside _ _).bind fun _ => (inside _ _).bind fun _ => .ok _

theorem shown_failsOnly (document : Document) (bound number : Nat) :
    FailsOnly IsUnshown (document.shown bound number) := by
  unfold shown
  split
  · exact (checkDigits_failsOnly _).bind fun _ => .ok _
  · exact ((document.written_failsOnly bound).1 [] number).bind fun _ => .ok _

theorem IsUnshown.foreign {failure : Failure} (unshown : IsUnshown failure) :
    failure.category ≠ .configuration := by
  rcases unshown with rfl | rfl <;> exact nofun

end Yaml.Document

namespace Settings

open Yaml.Document

/-- How the contents of a configuration file fail without being refused as a configuration. -/
inductive Lapses (reader : Yaml.Reader) (named : Datum) (contents : Bytes) : Failure → Prop
  /-- The reader comes to bytes that are no text. -/
  | undecodable (undecoded : Utf8.decode? contents = none)
      (reached : reader.read (.ofBytes contents) = .error .undecodable) :
      Lapses reader named contents .undecodable
  /-- A part of the document denotes nothing, or is too deep for the reader. -/
  | meaningless {failure : Failure}
      (refused : reader.read (.ofBytes contents) = .error (.fault (.refused failure)))
      (foreign : failure.category ≠ .configuration) : Lapses reader named contents failure
  /-- The value under the key of a place cannot be shown. -/
  | place {document : Yaml.Document} {entries : List (Datum × Nat)} {failure : Failure}
      (spelled : reader.read (.ofBytes contents) = .ok document)
      (found : contentsOf document = .mapping entries)
      (first : FailsFirst (placeForm reader.room document entries) failure placeKeys) :
      Lapses reader named contents failure
  /-- A text of arguments cannot be split, or an item of a list of arguments cannot be shown. -/
  | arguments {document : Yaml.Document} {entries : List (Datum × Nat)} {number : Nat}
      {failure : Failure}
      (spelled : reader.read (.ofBytes contents) = .ok document)
      (found : contentsOf document = .mapping entries)
      (placed : ∀ key ∈ placeKeys,
        ∃ form, placeForm reader.room document entries key = .ok form)
      (present : present? document entries "default_args" = some number)
      (kind : (document.cell number).spellsArguments = true)
      (refused : RefusesArguments reader.room named document number failure) :
      Lapses reader named contents failure

/-- Arguments that are a text or a list are not refused as a configuration. -/
theorem RefusesArguments.foreign {room : Yaml.Room} {path : Datum} {document : Yaml.Document}
    {number : Nat} {failure : Failure}
    (refused : RefusesArguments room path document number failure)
    (kind : (document.cell number).spellsArguments = true) :
    failure.category ≠ .configuration := by
  cases refused with
  | line _ split =>
      rcases ShellWords.splitFrom_failsOnly _ _ _ (map_eq_error_iff.mp split) with rfl | rfl <;>
        exact nofun
  | list _ first => exact (FailsOnly.of_failsFirst (shown_failsOnly document _) first).foreign
  | pairs _ first =>
      exact (FailsOnly.of_failsFirst
        (fun _ => (document.written_failsOnly _).2 _ _ _) first).foreign
  | other spelled =>
      rw [spelled] at kind
      cases kind

/-- Arguments that are neither a text nor a list are refused as a configuration. -/
theorem RefusesArguments.configuration {room : Yaml.Room} {path : Datum} {document : Yaml.Document}
    {number : Nat} {failure : Failure}
    (refused : RefusesArguments room path document number failure)
    (kind : (document.cell number).spellsArguments = false) :
    failure.category = .configuration := by
  cases refused with
  | line spelled _ =>
      rw [spelled] at kind
      cases kind
  | list listed _ =>
      rw [listed] at kind
      cases kind
  | pairs listed _ =>
      rw [listed] at kind
      cases kind
  | other _ => rfl

theorem Lapses.foreign {reader : Yaml.Reader} {named : Datum} {contents : Bytes}
    {failure : Failure} (lapses : Lapses reader named contents failure) :
    failure.category ≠ .configuration := by
  cases lapses with
  | undecodable _ _ => exact nofun
  | meaningless _ foreign => exact foreign
  | @place document entries _ _ _ first =>
      have formed (key : String) :
          FailsOnly IsUnshown (placeForm reader.room document entries key) := by
        intro failure refused
        obtain ⟨number, _, unshown⟩ := optionMapM_eq_error_iff.mp refused
        exact document.shown_failsOnly _ number failure unshown
      exact (FailsOnly.of_failsFirst formed first).foreign
  | arguments _ _ _ _ kind refused => exact refused.foreign kind

/-- A lapse is what reading the document fails with, or why a document gives no settings. -/
theorem lapses_iff {reader : Yaml.Reader} {named : Datum} {contents : Bytes} {failure : Failure} :
    Lapses reader named contents failure ↔
      (readDocument reader named contents = .error failure ∨
        ∃ document, reader.read (.ofBytes contents) = .ok document ∧
          (Finding.document named document).Refuses reader.room failure) ∧
      failure.category ≠ .configuration := by
  constructor
  · intro lapses
    refine ⟨?_, lapses.foreign⟩
    cases lapses with
    | undecodable _ reached =>
        refine .inl ?_
        unfold readDocument
        rw [reached]
    | meaningless refused _ =>
        refine .inl ?_
        unfold readDocument
        rw [refused]
    | place spelled found first => exact .inr ⟨_, spelled, .mapping found (.place first)⟩
    | arguments spelled found placed present _ refused =>
        exact .inr ⟨_, spelled, .mapping found (.arguments placed present refused)⟩
  · rintro ⟨unread | ⟨document, spelled, refused⟩, foreign⟩
    · unfold readDocument at unread
      cases read : reader.read (.ofBytes contents) with
      | ok document =>
          rw [read] at unread
          cases unread
      | error refusal =>
          rw [read] at unread
          cases refusal with
          | undecodable =>
              cases unread
              have broken := reader.broken_of_undecodable _ read
              exact .undecodable ((Yaml.Stream.broken_ofBytes_iff contents).mp broken) read
          | fault fault =>
              cases fault with
              | malformed =>
                  cases unread
                  exact absurd rfl foreign
              | refused other =>
                  cases unread
                  exact .meaningless read foreign
    · cases refused with
      | other _ => exact absurd rfl foreign
      | mapping found refused =>
          cases refused with
          | place first => exact .place spelled found first
          | @arguments number placed present refused =>
              cases kind : (document.cell number).spellsArguments with
              | true => exact .arguments spelled found placed present kind refused
              | false => exact absurd (refused.configuration kind) foreign

/-- A file that can be opened either gives settings or is refused as a configuration, unless its
contents lapse: then loading fails with the lapse.  This holds of every reader of documents. -/
theorem load_lapses {reader : Yaml.Reader} {storage : Storage} {environment : Environment}
    {path named : Datum} {encoded contents : Bytes} {extra : List Text}
    (chosen : configurationPath? path environment = some named)
    (coded : named.encodeName = .ok encoded) (clean : encoded.contains 0 = false)
    (stored : storage.read encoded = .ok contents) (adds : environment.Adds extra)
    (failure : Failure) :
    ((load reader storage environment path).outcome.1 = .error failure ∧
        failure.category ≠ .configuration) ↔
      Lapses reader named contents failure := by
  have found : find reader storage (configurationPath? path environment) =
      (readDocument reader named contents).map (.document named) := by
    rw [chosen, find_of_name coded clean, stored]
  rw [lapses_iff]
  refine and_congr_left fun _ => ?_
  cases spelled : readDocument reader named contents with
  | error other =>
      have unread : ∀ document, reader.read (.ofBytes contents) ≠ .ok document := by
        intro document read
        rw [readDocument_eq_ok_iff.mpr read] at spelled
        cases spelled
      rw [spelled] at found
      rw [(load_of_find_eq_error found).outcome_eq]
      simp [unread]
  | ok document =>
      rw [spelled] at found
      rw [load_eq_error_iff found adds, readDocument_eq_ok_iff.mp spelled]
      simp

/-- A store with one file, which ends inside of a character. -/
def truncatedStore : Storage := .ofPaths [("cfg.yaml", some [0xC3])]

/-- An environment that names a configuration file and adds two arguments. -/
def namingEnvironment : Environment :=
  ⟨[("CLANGKIT_CONFIG", .text "cfg.yaml"), ("CLANGKIT_CLANG_ARGS", .text "-I \x27a b\x27")]⟩

/-- A reader that has enough stack for small documents. -/
def smallReader : Yaml.Reader := .whole ⟨9, 9, 9⟩ ⟨9, 9⟩

theorem truncatedFile_lapses :
    configurationPath? .null namingEnvironment = some (.text "cfg.yaml") ∧
    truncatedStore.read (Text.encode "cfg.yaml") = .ok [0xC3] ∧
    namingEnvironment.Adds ["-I", "a b"] ∧
    (load smallReader truncatedStore namingEnvironment .null).outcome.1 =
      .error .undecodable := by
  have chosen : configurationPath? .null namingEnvironment = some (.text "cfg.yaml") := by
    rfl
  have stored : truncatedStore.read (Text.encode "cfg.yaml") = .ok [0xC3] := by decide +kernel
  have adds : namingEnvironment.Adds ["-I", "a b"] := .line rfl rfl
  have lapses : Lapses smallReader (.text "cfg.yaml") [0xC3] .undecodable := .undecodable rfl rfl
  exact ⟨chosen, stored, adds,
    ((load_lapses chosen rfl rfl stored adds .undecodable).mpr lapses).1⟩

/-- A file in which the arguments are a single quote. -/
def openQuotation : Bytes := Text.encode "default_args: \"\x27\"\n"

/-- A quotation that is not closed is not refused as a configuration. -/
theorem openQuotation_lapses :
    (Storage.ofPaths [("cfg.yaml", some openQuotation)]).read (Text.encode "cfg.yaml") =
      .ok openQuotation ∧
    (load smallReader (.ofPaths [("cfg.yaml", some openQuotation)]) ⟨[]⟩
      (.text "cfg.yaml")).outcome.1 = .error .openQuotation ∧
    Failure.openQuotation.category ≠ .configuration := by
  refine ⟨by decide +kernel, ?_, nofun⟩
  have escaped : ((load smallReader (.ofPaths [("cfg.yaml", some openQuotation)]) ⟨[]⟩
      (.text "cfg.yaml")).outcome.1.map fun _ => ()) = .error .openQuotation := by decide +kernel
  exact map_eq_error_iff.mp escaped

end Settings
end Custody
