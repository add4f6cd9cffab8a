import Custody.Enumeration.Codes

/-!
# Failures

A failure is a cause.  Its `message` is the wording shown to a caller and its
`category` the family of failures it belongs to.  Failures that the compiler
library reports carry an error kind and, when the library gave one, its status
code, which the wording repeats at the end.
-/

namespace Custody

/-- The part of the library that a reported failure comes from. -/
inductive Area where
  /-- No particular part. -/
  | general
  /-- Compilation databases. -/
  | database
  /-- Compilation units. -/
  | unit
  /-- Indexing. -/
  | indexing
  /-- Stored diagnostics. -/
  | storedDiagnostics
  deriving DecidableEq, Inhabited

/-- A failure that the library reported. -/
structure Report where
  /-- Where it comes from. -/
  area : Area
  /-- What went wrong. -/
  kind : ErrorKind
  /-- The wording without the code. -/
  wording : Text
  /-- The status code of the library. -/
  code : Option Int := none
  deriving DecidableEq, Inhabited

namespace Report

/-- The wording, followed by the code if there is one. -/
def message (report : Report) : Text :=
  match report.code with
  | none => report.wording
  | some code => report.wording ++ " (code " ++ Text.ofInt code ++ ")"

@[simp] theorem message_of_code_none (area : Area) (kind : ErrorKind) (wording : Text) :
    message ⟨area, kind, wording, none⟩ = wording := rfl

end Report

/-- The family of a failure. -/
inductive Category where
  /-- A value outside its domain. -/
  | value
  /-- A position outside a sequence. -/
  | index
  /-- A key outside a table. -/
  | key
  /-- A value of the wrong kind. -/
  | kind
  /-- A part that a value does not have. -/
  | missingPart
  /-- An assignment to a fixed part. -/
  | fixedPart
  /-- An operation that has no meaning here. -/
  | undefined
  /-- A number too large for its form. -/
  | overflow
  /-- Nesting without end. -/
  | recursion
  /-- Refused by the system. -/
  | system
  /-- An unexpected answer of the library. -/
  | runtime
  /-- Bytes that are not text. -/
  | undecodable
  /-- Text that has no bytes. -/
  | unencodable
  /-- Use of something closed. -/
  | closed
  /-- Bad or late configuration. -/
  | configuration
  /-- The library could not be loaded. -/
  | loading
  /-- Raised by a caller's own function. -/
  | hook
  /-- Reported by the library. -/
  | reported (area : Area)
  deriving DecidableEq, Inhabited

/-- Why a configuration is refused. -/
inductive ConfigurationFault where
  /-- The file is not a well-formed document. -/
  | malformed (path : Text)
  /-- The document is not a mapping. -/
  | notMapping (path : Text) (found : String)
  /-- The arguments are neither a list nor a text. -/
  | arguments (path : Text)
  /-- The library is loaded and its location cannot change any more. -/
  | locationFixed
  /-- Any other wording. -/
  | other (wording : Text)
  deriving DecidableEq, Inhabited

/-- The wording of a refused configuration. -/
def ConfigurationFault.message : ConfigurationFault → Text
  | .malformed path => "invalid YAML in config file " ++ path ++ ": <yaml>"
  | .notMapping path found =>
      "config file " ++ path ++ " must contain a mapping, got " ++ Text.ofString found
  | .arguments path => "default_args in " ++ path ++ " must be a list or a string"
  | .locationFixed => "library_file/library_path must be configured before libclang is loaded"
  | .other wording => wording

/-- Why an operation did not produce a value. -/
inductive Failure where
  /-- A holder was used after it was closed. -/
  | closed (holder : String)
  /-- A holder was made without a handle. -/
  | nullHandle (holder : String)
  /-- A holder does not know how to dispose of its handle. -/
  | indisposable
  /-- Adoption by a holder that was never completed. -/
  | unfinishedHolder
  /-- Things nest too deep, or in a circle. -/
  | tooDeep
  /-- The library reported a failure. -/
  | reported (report : Report)
  /-- The library refused the arguments of a parse call. -/
  | rejectedArguments (subject : Text)
  /-- A compile command without arguments. -/
  | noArguments (filename : Text)
  /-- The library gave a null command. -/
  | nullCommand (position : Nat)
  /-- A value that names no member of an enumeration. -/
  | unknownMember (enumeration : String) (value : String)
  /-- A cursor kind without a name. -/
  | unknownCursorKind (kind : Int)
  /-- A token kind without a name. -/
  | unknownTokenKind (kind : Int)
  /-- A file of another unit. -/
  | foreignFile
  /-- A range of another unit. -/
  | foreignRange
  /-- Two locations of different units. -/
  | mixedOwners
  /-- A line or column before the first. -/
  | positionBelowOne (line column : Text)
  /-- A negative offset. -/
  | negativeOffset (offset : Text)
  /-- Display options with bits that mean nothing. -/
  | displayOptions (options : Int)
  /-- A position outside a sequence of diagnostics. -/
  | diagnosticIndex
  /-- A position outside a list. -/
  | listIndex
  /-- A position outside a tuple. -/
  | tupleIndex
  /-- A position outside a text. -/
  | textIndex
  /-- A position outside a byte string. -/
  | bytesIndex
  /-- A position that no sequence can have. -/
  | hugeIndex
  /-- A slice that does not advance. -/
  | zeroStep
  /-- A path with a zero byte. -/
  | zeroByte
  /-- A quotation that is not closed. -/
  | openQuotation
  /-- An escape at the end of the text. -/
  | openEscape
  /-- A name that no variable of an environment can have. -/
  | variableName
  /-- A variable of an environment without a name. -/
  | namelessVariable
  /-- A value of the wrong kind. -/
  | wrongKind
  /-- A value without the part asked for. -/
  | noSuchPart
  /-- A part that cannot be assigned. -/
  | fixedPart
  /-- Bytes that are not text. -/
  | undecodable
  /-- Text that has no strict encoding. -/
  | unencodable
  /-- A spelling that is no integer in a base. -/
  | notInteger (base : Nat) (written : String)
  /-- An integer with too many digits to be read or, without a count, to be written. -/
  | tooManyDigits (found : Option Nat)
  /-- A spelling that is no number. -/
  | notNumber (written : String)
  /-- An undefined number has no integer part. -/
  | undefinedInteger
  /-- An infinite number has no integer part. -/
  | infiniteInteger
  /-- An integer beyond all floating-point numbers. -/
  | hugeNumber
  /-- A key that is not there. -/
  | unknownKey (written : String)
  /-- Numbers that make no date or time of day. -/
  | calendar (fault : CalendarFault)
  /-- A code point beyond all characters. -/
  | hugeCodePoint
  /-- A code point beyond all machine integers. -/
  | endlessCodePoint
  /-- A configuration was refused. -/
  | configuration (fault : ConfigurationFault)
  /-- The library could not be loaded. -/
  | loading (wording : Text)
  /-- The system could not open the library. -/
  | unopened (wording : Text)
  /-- The library lacks a symbol. -/
  | missingSymbol (symbol : String)
  /-- Raised by a caller's own function. -/
  | hook (wording : Text)
  deriving DecidableEq, Inhabited

namespace Failure

/-- The family of a failure. -/
def category : Failure → Category
  | .closed _ => .closed
  | .nullHandle _ => .value
  | .indisposable => .undefined
  | .unfinishedHolder => .missingPart
  | .tooDeep => .recursion
  | .reported report => .reported report.area
  | .rejectedArguments _ => .value
  | .noArguments _ => .value
  | .nullCommand _ => .runtime
  | .unknownMember _ _ => .value
  | .unknownCursorKind _ => .value
  | .unknownTokenKind _ => .value
  | .foreignFile => .value
  | .foreignRange => .value
  | .mixedOwners => .value
  | .positionBelowOne _ _ => .value
  | .negativeOffset _ => .value
  | .displayOptions _ => .value
  | .diagnosticIndex => .index
  | .listIndex => .index
  | .tupleIndex => .index
  | .textIndex => .index
  | .bytesIndex => .index
  | .hugeIndex => .index
  | .zeroStep => .value
  | .zeroByte => .value
  | .openQuotation => .value
  | .openEscape => .value
  | .variableName => .value
  | .namelessVariable => .system
  | .wrongKind => .kind
  | .noSuchPart => .missingPart
  | .fixedPart => .fixedPart
  | .undecodable => .undecodable
  | .unencodable => .unencodable
  | .notInteger _ _ => .value
  | .tooManyDigits _ => .value
  | .notNumber _ => .value
  | .undefinedInteger => .value
  | .infiniteInteger => .overflow
  | .hugeNumber => .overflow
  | .unknownKey _ => .key
  | .calendar _ => .value
  | .hugeCodePoint => .value
  | .endlessCodePoint => .overflow
  | .configuration _ => .configuration
  | .loading _ => .loading
  | .unopened _ => .system
  | .missingSymbol _ => .loading
  | .hook _ => .hook

/-- The wording of a failure. -/
def message : Failure → Text
  | .closed holder => Text.ofString holder ++ " has already been closed"
  | .nullHandle holder => Text.ofString holder ++ " requires a non-null backend handle"
  | .indisposable => ""
  | .unfinishedHolder => ""
  | .tooDeep => ""
  | .reported report => report.message
  | .rejectedArguments subject => "libclang rejected the arguments for " ++ subject
  | .noArguments filename => "compile command for " ++ filename ++ " has no arguments"
  | .nullCommand position =>
      "libclang returned no compile command at index " ++ Text.ofNat position
  | .unknownMember enumeration value =>
      Text.ofString value ++ " is not a valid " ++ Text.ofString enumeration
  | .unknownCursorKind kind => "Unknown template argument kind " ++ Text.ofInt kind
  | .unknownTokenKind kind => "Unknown TokenKind: " ++ Text.ofInt kind
  | .foreignFile => "file does not belong to this translation unit"
  | .foreignRange => "range does not belong to this translation unit"
  | .mixedOwners =>
      "cannot build a SourceRange from locations of different translation units"
  | .positionBelowOne line column =>
      "line and column are 1-based, got (" ++ line ++ ", " ++ column ++ ")"
  | .negativeOffset offset => "offset must be non-negative, got " ++ offset
  | .displayOptions options => "invalid diagnostic display options: " ++ Text.ofHex options
  | .diagnosticIndex => "diagnostic index out of range"
  | .listIndex => "list index out of range"
  | .tupleIndex => "tuple index out of range"
  | .textIndex => "string index out of range"
  | .bytesIndex => "index out of range"
  | .hugeIndex => "cannot fit \x27int\x27 into an index-sized integer"
  | .zeroStep => "slice step cannot be zero"
  | .zeroByte => "embedded null byte"
  | .openQuotation => "No closing quotation"
  | .openEscape => "No escaped character"
  | .variableName => "illegal environment variable name"
  | .namelessVariable => "[Errno 22] Invalid argument"
  | .wrongKind => ""
  | .noSuchPart => ""
  | .fixedPart => ""
  | .undecodable => ""
  | .unencodable => ""
  | .notInteger base written =>
      "invalid literal for int() with base " ++ Text.ofNat base ++ ": " ++
        Text.ofList (written.toList.take 200)
  | .tooManyDigits found =>
      "Exceeds the limit (4300 digits) for integer string conversion" ++
        found.elim Text.empty (fun digits => ": value has " ++ Text.ofNat digits ++ " digits") ++
        "; use sys.set_int_max_str_digits() to increase the limit"
  | .notNumber written => "could not convert string to float: " ++ Text.ofString written
  | .undefinedInteger => "cannot convert float NaN to integer"
  | .infiniteInteger => "cannot convert float infinity to integer"
  | .hugeNumber => "int too large to convert to float"
  | .unknownKey written => Text.ofString written
  | .calendar fault => Text.ofString fault.message
  | .hugeCodePoint => "chr() arg not in range(0x110000)"
  | .endlessCodePoint => "Python int too large to convert to C int"
  | .configuration fault => fault.message
  | .loading wording => wording
  | .unopened wording => wording
  | .missingSymbol symbol =>
      "no symbol " ++ Text.ofString symbol ++
        ". Please ensure that your libclang version exports " ++ Text.ofString symbol ++ "."
  | .hook wording => wording

/-- The report inside a failure that the library reported. -/
def report? : Failure → Option Report
  | .reported report => some report
  | _ => none

/-- The failure of a parse call with a status other than success, about a subject. -/
def ofParseStatus (status : Int) (subject : Text) : Failure :=
  if status = 3 then .rejectedArguments subject
  else if status = 1 then
    .reported ⟨.unit, .parseFailed, "failed to parse " ++ subject, some status⟩
  else
    .reported ⟨.unit, .unknownUnitFailure,
      "unexpected failure while parsing " ++ subject, some status⟩

end Failure

end Custody
