import Custody.Enumeration.Basic

/-!
# The codes of the compiler library

Status codes, severities, entity kinds and option bits, as the library numbers
them.
-/

namespace Custody
namespace Codes

/-- Options of an index. -/
def globalOptions : FlagSet := ⟨"GlobalOptions", [
  ("NONE", 0x0),
  ("THREAD_BACKGROUND_PRIORITY_FOR_INDEXING", 0x1),
  ("THREAD_BACKGROUND_PRIORITY_FOR_EDITING", 0x2),
  ("THREAD_BACKGROUND_PRIORITY_FOR_ALL", 0x3)]⟩

/-- Options of parsing a compilation unit. -/
def unitOptions : FlagSet := ⟨"TranslationUnitOptions", [
  ("NONE", 0x0),
  ("DETAILED_PREPROCESSING_RECORD", 0x01),
  ("INCOMPLETE", 0x02),
  ("PRECOMPILED_PREAMBLE", 0x04),
  ("CACHE_COMPLETION_RESULTS", 0x08),
  ("FOR_SERIALIZATION", 0x10),
  ("CXX_CHAINED_PCH", 0x20),
  ("SKIP_FUNCTION_BODIES", 0x40),
  ("INCLUDE_BRIEF_COMMENTS_IN_CODE_COMPLETION", 0x80),
  ("CREATE_PREAMBLE_ON_FIRST_PARSE", 0x100),
  ("KEEP_GOING", 0x200),
  ("SINGLE_FILE_PARSE", 0x400),
  ("LIMIT_SKIP_FUNCTION_BODIES_TO_PREAMBLE", 0x800),
  ("INCLUDE_ATTRIBUTED_TYPES", 0x1000),
  ("VISIT_IMPLICIT_ATTRIBUTES", 0x2000),
  ("IGNORE_NON_ERRORS_FROM_INCLUDED_FILES", 0x4000),
  ("RETAIN_EXCLUDED_CONDITIONAL_BLOCKS", 0x8000)]⟩

/-- What a formatted diagnostic shows. -/
def displayOptions : FlagSet := ⟨"DiagnosticDisplayOptions", [
  ("NONE", 0x00),
  ("SOURCE_LOCATION", 0x01),
  ("COLUMN", 0x02),
  ("SOURCE_RANGES", 0x04),
  ("OPTION", 0x08),
  ("CATEGORY_ID", 0x10),
  ("CATEGORY_NAME", 0x20)]⟩

/-- Options of an indexing run. -/
def indexOptions : FlagSet := ⟨"IndexOptions", [
  ("NONE", 0x0),
  ("SUPPRESS_REDUNDANT_REFS", 0x1),
  ("INDEX_FUNCTION_LOCAL_SYMBOLS", 0x2),
  ("INDEX_IMPLICIT_TEMPLATE_INSTANTIATIONS", 0x4),
  ("SUPPRESS_WARNINGS", 0x8),
  ("SKIP_PARSED_BODIES_IN_SESSION", 0x10)]⟩

/-- How grave a diagnostic is. -/
def severities : Enumeration := .counting "DiagnosticSeverity" 0 [
  "IGNORED", "NOTE", "WARNING", "ERROR", "FATAL"]

/-- What a visitor of cursors may answer. -/
def visitAnswers : Enumeration := .counting "ChildVisitResult" 0 [
  "BREAK", "CONTINUE", "RECURSE"]

/-- The status of a parse call. -/
def parseStatuses : Enumeration := .counting "ErrorCode" 0 [
  "SUCCESS", "FAILURE", "CRASHED", "INVALID_ARGUMENTS", "AST_READ_ERROR"]

/-- The status of a save call. -/
def saveStatuses : Enumeration := .counting "SaveError" 0 [
  "NONE", "UNKNOWN", "TRANSLATION_ERRORS", "INVALID_TU"]

/-- The status of loading stored diagnostics. -/
def loadStatuses : Enumeration := .counting "LoadDiagnosticsError" 0 [
  "NONE", "UNKNOWN", "CANNOT_LOAD", "INVALID_FILE"]

/-- The status of opening a compilation database. -/
def databaseStatuses : Enumeration := .counting "CompilationDatabaseStatus" 0 [
  "NO_ERROR", "CAN_NOT_LOAD_DATABASE"]

/-- What an indexed entity is. -/
def entityKinds : Enumeration := .counting "EntityKind" 0 [
  "UNEXPOSED", "TYPEDEF", "FUNCTION", "VARIABLE", "FIELD", "ENUM_CONSTANT", "OBJC_CLASS",
  "OBJC_PROTOCOL", "OBJC_CATEGORY", "OBJC_INSTANCE_METHOD", "OBJC_CLASS_METHOD",
  "OBJC_PROPERTY", "OBJC_IVAR", "ENUM", "STRUCT", "UNION", "CXX_CLASS", "CXX_NAMESPACE",
  "CXX_NAMESPACE_ALIAS", "CXX_STATIC_VARIABLE", "CXX_STATIC_METHOD", "CXX_INSTANCE_METHOD",
  "CXX_CONSTRUCTOR", "CXX_DESTRUCTOR", "CXX_CONVERSION_FUNCTION", "CXX_TYPE_ALIAS",
  "CXX_INTERFACE", "CXX_CONCEPT"]

/-- How an entity is referred to. -/
def referenceKinds : Enumeration := .counting "EntityReferenceKind" 1 [
  "DIRECT", "IMPLICIT"]

/-- All enumerations. -/
def enumerations : List Enumeration :=
  [severities, visitAnswers, parseStatuses,
    saveStatuses, loadStatuses, databaseStatuses, entityKinds, referenceKinds]

/-- All flag sets. -/
def flagSets : List FlagSet := [globalOptions, unitOptions, displayOptions, indexOptions]

end Codes

/-- What went wrong, independent of the wording. -/
inductive ErrorKind where
  /-- A compilation database could not be opened. -/
  | canNotLoadDatabase
  /-- A unit could not be made for an unknown reason. -/
  | unknownUnitFailure
  /-- A file could not be parsed. -/
  | parseFailed
  /-- A unit could not be parsed again. -/
  | reparseFailed
  /-- A unit could not be saved. -/
  | saveFailed
  /-- A unit could not be indexed. -/
  | indexFailed
  /-- A stored unit could not be read. -/
  | cannotLoadAst
  /-- A file is not a stored unit. -/
  | invalidAstFile
  /-- A file does not hold stored diagnostics. -/
  | invalidSerializedDiagnostics
  /-- Stored diagnostics could not be read. -/
  | cannotLoadSerializedDiagnostics
  /-- Stored diagnostics failed for an unknown reason. -/
  | unknownSerializedDiagnosticError
  deriving DecidableEq, Inhabited

namespace ErrorKind

/-- All kinds in order of definition. -/
def all : List ErrorKind := [
  .canNotLoadDatabase,
  .unknownUnitFailure,
  .parseFailed,
  .reparseFailed,
  .saveFailed,
  .indexFailed,
  .cannotLoadAst,
  .invalidAstFile,
  .invalidSerializedDiagnostics,
  .cannotLoadSerializedDiagnostics,
  .unknownSerializedDiagnosticError]

/-- The name of a kind. -/
def name : ErrorKind → String
  | .canNotLoadDatabase => "CAN_NOT_LOAD_DATABASE"
  | .unknownUnitFailure => "UNKNOWN_TRANSLATION_UNIT_FAILURE"
  | .parseFailed => "PARSE_FAILED"
  | .reparseFailed => "REPARSE_FAILED"
  | .saveFailed => "SAVE_FAILED"
  | .indexFailed => "INDEX_FAILED"
  | .cannotLoadAst => "CANNOT_LOAD_AST"
  | .invalidAstFile => "INVALID_AST_FILE"
  | .invalidSerializedDiagnostics => "INVALID_SERIALIZED_DIAGNOSTICS"
  | .cannotLoadSerializedDiagnostics => "CANNOT_LOAD_SERIALIZED_DIAGNOSTICS"
  | .unknownSerializedDiagnosticError => "UNKNOWN_SERIALIZED_DIAGNOSTIC_ERROR"

/-- The label of a kind. -/
def label : ErrorKind → String
  | .canNotLoadDatabase => "can_not_load_database"
  | .unknownUnitFailure => "unknown_translation_unit_failure"
  | .parseFailed => "parse_failed"
  | .reparseFailed => "reparse_failed"
  | .saveFailed => "save_failed"
  | .indexFailed => "index_failed"
  | .cannotLoadAst => "cannot_load_ast"
  | .invalidAstFile => "invalid_ast_file"
  | .invalidSerializedDiagnostics => "invalid_serialized_diagnostics"
  | .cannotLoadSerializedDiagnostics => "cannot_load_serialized_diagnostics"
  | .unknownSerializedDiagnosticError => "unknown_serialized_diagnostic_error"

/-- The kind with a given name. -/
def ofName? (name : String) : Option ErrorKind := all.find? fun kind => kind.name = name

/-- The kinds as labels. -/
def labels : LabelSet := ⟨"ErrorKind", all.map fun kind => (kind.name, kind.label)⟩

end ErrorKind

/-- A source language; its label is the extension of its files. -/
inductive Language where
  /-- C. -/
  | c
  /-- C++. -/
  | cPlusPlus
  /-- Objective-C. -/
  | objectiveC
  /-- Objective-C++. -/
  | objectiveCPlusPlus
  deriving DecidableEq, Inhabited

namespace Language

/-- All languages in order of definition. -/
def all : List Language := [.c, .cPlusPlus, .objectiveC, .objectiveCPlusPlus]

/-- The name of a language. -/
def name : Language → String
  | .c => "C"
  | .cPlusPlus => "CPLUSPLUS"
  | .objectiveC => "OBJECTIVE_C"
  | .objectiveCPlusPlus => "OBJECTIVE_CPLUSPLUS"

/-- The file extension of a language. -/
def extension : Language → String
  | .c => "c"
  | .cPlusPlus => "cpp"
  | .objectiveC => "m"
  | .objectiveCPlusPlus => "mm"

/-- The language with a given file extension. -/
def ofExtension? (extension : String) : Option Language :=
  all.find? fun language => language.extension = extension

/-- The languages as labels. -/
def labels : LabelSet := ⟨"Language", all.map fun language => (language.name, language.extension)⟩

end Language

/-- All label sets. -/
def Codes.labelSets : List LabelSet := [ErrorKind.labels, Language.labels]

end Custody
