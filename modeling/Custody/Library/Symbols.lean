/-!
# Symbols of the compiler library

The symbols that a library must export, in the order in which they are looked up.
-/

namespace Custody
namespace Library

/-- The symbols that are looked up after a library is opened. -/
def symbols : List String := [
  "clang_getCString", "clang_disposeString", "clang_createIndex", "clang_disposeIndex",
  "clang_CXIndex_getGlobalOptions", "clang_CXIndex_setGlobalOptions",
  "clang_parseTranslationUnit2", "clang_parseTranslationUnit2FullArgv",
  "clang_createTranslationUnit2", "clang_reparseTranslationUnit", "clang_saveTranslationUnit",
  "clang_disposeTranslationUnit", "clang_defaultReparseOptions", "clang_defaultSaveOptions",
  "clang_getTranslationUnitSpelling", "clang_getTranslationUnitCursor", "clang_getFile",
  "clang_getInclusions", "clang_getNumDiagnostics", "clang_getDiagnostic", "clang_tokenize",
  "clang_disposeTokens", "clang_getTokenKind", "clang_getTokenSpelling", "clang_getTokenLocation",
  "clang_getTokenExtent", "clang_getFileName", "clang_getFileTime", "clang_File_isEqual",
  "clang_getLocation", "clang_getLocationForOffset", "clang_getExpansionLocation",
  "clang_Location_isFromMainFile", "clang_Location_isInSystemHeader", "clang_equalLocations",
  "clang_getNullLocation", "clang_getRange", "clang_getRangeStart", "clang_getRangeEnd",
  "clang_equalRanges", "clang_Range_isNull", "clang_disposeDiagnostic",
  "clang_getDiagnosticSeverity", "clang_getDiagnosticSpelling", "clang_getDiagnosticLocation",
  "clang_getDiagnosticNumRanges", "clang_getDiagnosticRange", "clang_getDiagnosticNumFixIts",
  "clang_getDiagnosticFixIt", "clang_formatDiagnostic", "clang_defaultDiagnosticDisplayOptions",
  "clang_getDiagnosticOption", "clang_getDiagnosticCategory", "clang_getDiagnosticCategoryText",
  "clang_getChildDiagnostics", "clang_loadDiagnostics", "clang_getNumDiagnosticsInSet",
  "clang_getDiagnosticInSet", "clang_disposeDiagnosticSet", "clang_visitChildren",
  "clang_getCursorSpelling", "clang_getCursorDisplayName", "clang_getCursorUSR",
  "clang_getCursorExtent", "clang_getCursorLocation", "clang_getCursorSemanticParent",
  "clang_getCursorLexicalParent", "clang_getCursorReferenced", "clang_getCursorDefinition",
  "clang_isCursorDefinition", "clang_equalCursors", "clang_hashCursor", "clang_Cursor_isNull",
  "clang_isDeclaration", "clang_isReference", "clang_isExpression", "clang_isStatement",
  "clang_isAttribute", "clang_isInvalid", "clang_isTranslationUnit", "clang_isPreprocessing",
  "clang_CompilationDatabase_fromDirectory", "clang_CompilationDatabase_dispose",
  "clang_CompilationDatabase_getCompileCommands",
  "clang_CompilationDatabase_getAllCompileCommands", "clang_CompileCommands_dispose",
  "clang_CompileCommands_getSize", "clang_CompileCommands_getCommand",
  "clang_CompileCommand_getDirectory", "clang_CompileCommand_getFilename",
  "clang_CompileCommand_getNumArgs", "clang_CompileCommand_getArg", "clang_IndexAction_create",
  "clang_IndexAction_dispose", "clang_indexTranslationUnit", "clang_indexLoc_getCXSourceLocation"]

end Library
end Custody
