import Custody.Failure

/-!
# Cursor kinds

The compiler library numbers the kinds of cursors.  A kind has a name, unless the
number is unknown, and it decides the class of the cursor: some kinds have a class
of their own, the others share the class of the range they lie in.
-/

namespace Custody

/-- The class of a cursor. -/
inductive CursorClass where
  /-- A function declaration. -/
  | function
  /-- A variable declaration. -/
  | variable
  /-- A parameter declaration. -/
  | parameter
  /-- A field declaration. -/
  | field
  /-- A typedef. -/
  | typeAlias
  /-- A struct declaration. -/
  | struct
  /-- A union declaration. -/
  | union
  /-- An enum declaration. -/
  | enumeration
  /-- Any other declaration. -/
  | declaration
  /-- A reference. -/
  | reference
  /-- An expression. -/
  | expression
  /-- A statement. -/
  | statement
  /-- An attribute. -/
  | attribute
  /-- A preprocessing entity. -/
  | preprocessing
  /-- A compilation unit. -/
  | wholeUnit
  /-- An invalid cursor. -/
  | invalid
  /-- A cursor of no known range. -/
  | unexposed
  deriving DecidableEq, Inhabited

namespace CursorClass

/-- The name of a class. -/
def name : CursorClass → String
  | .function => "FunctionDecl"
  | .variable => "VarDecl"
  | .parameter => "ParmDecl"
  | .field => "FieldDecl"
  | .typeAlias => "TypedefDecl"
  | .struct => "StructDecl"
  | .union => "UnionDecl"
  | .enumeration => "EnumDecl"
  | .declaration => "Decl"
  | .reference => "Ref"
  | .expression => "Expr"
  | .statement => "Stmt"
  | .attribute => "Attr"
  | .preprocessing => "Preprocessing"
  | .wholeUnit => "TranslationUnitCursor"
  | .invalid => "InvalidCursor"
  | .unexposed => "UnexposedCursor"

/-- Declarations are the general class and the classes of particular declarations. -/
def isDeclaration : CursorClass → Bool
  | .function => true
  | .variable => true
  | .parameter => true
  | .field => true
  | .typeAlias => true
  | .struct => true
  | .union => true
  | .enumeration => true
  | .declaration => true
  | _ => false

/-- The class of a kind: particular kinds first, then the range the number lies in. -/
def ofKind (kind : Int) : CursorClass :=
  if kind = 8 then .function
  else if kind = 9 then .variable
  else if kind = 10 then .parameter
  else if kind = 6 then .field
  else if kind = 20 then .typeAlias
  else if kind = 2 then .struct
  else if kind = 3 then .union
  else if kind = 5 then .enumeration
  else if kind = 350 then .wholeUnit
  else if (1 ≤ kind ∧ kind ≤ 39) ∨ (600 ≤ kind ∧ kind ≤ 604) then .declaration
  else if 40 ≤ kind ∧ kind ≤ 50 then .reference
  else if 100 ≤ kind ∧ kind ≤ 155 then .expression
  else if 200 ≤ kind ∧ kind ≤ 306 then .statement
  else if 400 ≤ kind ∧ kind ≤ 441 then .attribute
  else if 500 ≤ kind ∧ kind ≤ 503 then .preprocessing
  else if 70 ≤ kind ∧ kind ≤ 73 then .invalid
  else .unexposed

end CursorClass

namespace CursorKind

/-- Runs of consecutive kinds: the first number and the names. -/
def runs : List (Nat × List String) := [
  (1, [
    "UNEXPOSED_DECL", "STRUCT_DECL", "UNION_DECL", "CLASS_DECL", "ENUM_DECL", "FIELD_DECL",
    "ENUM_CONSTANT_DECL", "FUNCTION_DECL", "VAR_DECL", "PARM_DECL", "OBJC_INTERFACE_DECL",
    "OBJC_CATEGORY_DECL", "OBJC_PROTOCOL_DECL", "OBJC_PROPERTY_DECL", "OBJC_IVAR_DECL",
    "OBJC_INSTANCE_METHOD_DECL", "OBJC_CLASS_METHOD_DECL", "OBJC_IMPLEMENTATION_DECL",
    "OBJC_CATEGORY_IMPL_DECL", "TYPEDEF_DECL", "CXX_METHOD", "NAMESPACE", "LINKAGE_SPEC",
    "CONSTRUCTOR", "DESTRUCTOR", "CONVERSION_FUNCTION", "TEMPLATE_TYPE_PARAMETER",
    "TEMPLATE_NON_TYPE_PARAMETER", "TEMPLATE_TEMPLATE_PARAMETER", "FUNCTION_TEMPLATE",
    "CLASS_TEMPLATE", "CLASS_TEMPLATE_PARTIAL_SPECIALIZATION", "NAMESPACE_ALIAS",
    "USING_DIRECTIVE", "USING_DECLARATION", "TYPE_ALIAS_DECL", "OBJC_SYNTHESIZE_DECL",
    "OBJC_DYNAMIC_DECL", "CXX_ACCESS_SPEC_DECL", "OBJC_SUPER_CLASS_REF", "OBJC_PROTOCOL_REF",
    "OBJC_CLASS_REF", "TYPE_REF", "CXX_BASE_SPECIFIER", "TEMPLATE_REF", "NAMESPACE_REF",
    "MEMBER_REF", "LABEL_REF", "OVERLOADED_DECL_REF", "VARIABLE_REF"]),
  (70, [
    "INVALID_FILE", "NO_DECL_FOUND", "NOT_IMPLEMENTED", "INVALID_CODE"]),
  (100, [
    "UNEXPOSED_EXPR", "DECL_REF_EXPR", "MEMBER_REF_EXPR", "CALL_EXPR", "OBJC_MESSAGE_EXPR",
    "BLOCK_EXPR", "INTEGER_LITERAL", "FLOATING_LITERAL", "IMAGINARY_LITERAL", "STRING_LITERAL",
    "CHARACTER_LITERAL", "PAREN_EXPR", "UNARY_OPERATOR", "ARRAY_SUBSCRIPT_EXPR",
    "BINARY_OPERATOR", "COMPOUND_ASSIGNMENT_OPERATOR", "CONDITIONAL_OPERATOR",
    "CSTYLE_CAST_EXPR", "COMPOUND_LITERAL_EXPR", "INIT_LIST_EXPR", "ADDR_LABEL_EXPR",
    "StmtExpr", "GENERIC_SELECTION_EXPR", "GNU_NULL_EXPR", "CXX_STATIC_CAST_EXPR",
    "CXX_DYNAMIC_CAST_EXPR", "CXX_REINTERPRET_CAST_EXPR", "CXX_CONST_CAST_EXPR",
    "CXX_FUNCTIONAL_CAST_EXPR", "CXX_TYPEID_EXPR", "CXX_BOOL_LITERAL_EXPR",
    "CXX_NULL_PTR_LITERAL_EXPR", "CXX_THIS_EXPR", "CXX_THROW_EXPR", "CXX_NEW_EXPR",
    "CXX_DELETE_EXPR", "CXX_UNARY_EXPR", "OBJC_STRING_LITERAL", "OBJC_ENCODE_EXPR",
    "OBJC_SELECTOR_EXPR", "OBJC_PROTOCOL_EXPR", "OBJC_BRIDGE_CAST_EXPR", "PACK_EXPANSION_EXPR",
    "SIZE_OF_PACK_EXPR", "LAMBDA_EXPR", "OBJ_BOOL_LITERAL_EXPR", "OBJ_SELF_EXPR",
    "OMP_ARRAY_SECTION_EXPR", "OBJC_AVAILABILITY_CHECK_EXPR", "FIXED_POINT_LITERAL",
    "OMP_ARRAY_SHAPING_EXPR", "OMP_ITERATOR_EXPR", "CXX_ADDRSPACE_CAST_EXPR",
    "CONCEPT_SPECIALIZATION_EXPR", "REQUIRES_EXPR"]),
  (200, [
    "UNEXPOSED_STMT", "LABEL_STMT", "COMPOUND_STMT", "CASE_STMT", "DEFAULT_STMT", "IF_STMT",
    "SWITCH_STMT", "WHILE_STMT", "DO_STMT", "FOR_STMT", "GOTO_STMT", "INDIRECT_GOTO_STMT",
    "CONTINUE_STMT", "BREAK_STMT", "RETURN_STMT", "ASM_STMT", "OBJC_AT_TRY_STMT",
    "OBJC_AT_CATCH_STMT", "OBJC_AT_FINALLY_STMT", "OBJC_AT_THROW_STMT",
    "OBJC_AT_SYNCHRONIZED_STMT", "OBJC_AUTORELEASE_POOL_STMT", "OBJC_FOR_COLLECTION_STMT",
    "CXX_CATCH_STMT", "CXX_TRY_STMT", "CXX_FOR_RANGE_STMT", "SEH_TRY_STMT", "SEH_EXCEPT_STMT",
    "SEH_FINALLY_STMT", "MS_ASM_STMT", "NULL_STMT", "DECL_STMT", "OMP_PARALLEL_DIRECTIVE",
    "OMP_SIMD_DIRECTIVE", "OMP_FOR_DIRECTIVE", "OMP_SECTIONS_DIRECTIVE",
    "OMP_SECTION_DIRECTIVE", "OMP_SINGLE_DIRECTIVE", "OMP_PARALLEL_FOR_DIRECTIVE",
    "OMP_PARALLEL_SECTIONS_DIRECTIVE", "OMP_TASK_DIRECTIVE", "OMP_MASTER_DIRECTIVE",
    "OMP_CRITICAL_DIRECTIVE", "OMP_TASKYIELD_DIRECTIVE", "OMP_BARRIER_DIRECTIVE",
    "OMP_TASKWAIT_DIRECTIVE", "OMP_FLUSH_DIRECTIVE", "SEH_LEAVE_STMT", "OMP_ORDERED_DIRECTIVE",
    "OMP_ATOMIC_DIRECTIVE", "OMP_FOR_SIMD_DIRECTIVE", "OMP_PARALLELFORSIMD_DIRECTIVE",
    "OMP_TARGET_DIRECTIVE", "OMP_TEAMS_DIRECTIVE", "OMP_TASKGROUP_DIRECTIVE",
    "OMP_CANCELLATION_POINT_DIRECTIVE", "OMP_CANCEL_DIRECTIVE", "OMP_TARGET_DATA_DIRECTIVE",
    "OMP_TASK_LOOP_DIRECTIVE", "OMP_TASK_LOOP_SIMD_DIRECTIVE", "OMP_DISTRIBUTE_DIRECTIVE",
    "OMP_TARGET_ENTER_DATA_DIRECTIVE", "OMP_TARGET_EXIT_DATA_DIRECTIVE",
    "OMP_TARGET_PARALLEL_DIRECTIVE", "OMP_TARGET_PARALLELFOR_DIRECTIVE",
    "OMP_TARGET_UPDATE_DIRECTIVE", "OMP_DISTRIBUTE_PARALLELFOR_DIRECTIVE",
    "OMP_DISTRIBUTE_PARALLEL_FOR_SIMD_DIRECTIVE", "OMP_DISTRIBUTE_SIMD_DIRECTIVE",
    "OMP_TARGET_PARALLEL_FOR_SIMD_DIRECTIVE", "OMP_TARGET_SIMD_DIRECTIVE",
    "OMP_TEAMS_DISTRIBUTE_DIRECTIVE", "OMP_TEAMS_DISTRIBUTE_SIMD_DIRECTIVE",
    "OMP_TEAMS_DISTRIBUTE_PARALLEL_FOR_SIMD_DIRECTIVE",
    "OMP_TEAMS_DISTRIBUTE_PARALLEL_FOR_DIRECTIVE", "OMP_TARGET_TEAMS_DIRECTIVE",
    "OMP_TARGET_TEAMS_DISTRIBUTE_DIRECTIVE",
    "OMP_TARGET_TEAMS_DISTRIBUTE_PARALLEL_FOR_DIRECTIVE",
    "OMP_TARGET_TEAMS_DISTRIBUTE_PARALLEL_FOR_SIMD_DIRECTIVE",
    "OMP_TARGET_TEAMS_DISTRIBUTE_SIMD_DIRECTIVE", "BUILTIN_BIT_CAST_EXPR",
    "OMP_MASTER_TASK_LOOP_DIRECTIVE", "OMP_PARALLEL_MASTER_TASK_LOOP_DIRECTIVE",
    "OMP_MASTER_TASK_LOOP_SIMD_DIRECTIVE", "OMP_PARALLEL_MASTER_TASK_LOOP_SIMD_DIRECTIVE",
    "OMP_PARALLEL_MASTER_DIRECTIVE", "OMP_DEPOBJ_DIRECTIVE", "OMP_SCAN_DIRECTIVE",
    "OMP_TILE_DIRECTIVE", "OMP_CANONICAL_LOOP", "OMP_INTEROP_DIRECTIVE",
    "OMP_DISPATCH_DIRECTIVE", "OMP_MASKED_DIRECTIVE", "OMP_UNROLL_DIRECTIVE",
    "OMP_META_DIRECTIVE", "OMP_GENERIC_LOOP_DIRECTIVE", "OMP_TEAMS_GENERIC_LOOP_DIRECTIVE",
    "OMP_TARGET_TEAMS_GENERIC_LOOP_DIRECTIVE", "OMP_PARALLEL_GENERIC_LOOP_DIRECTIVE",
    "OMP_TARGET_PARALLEL_GENERIC_LOOP_DIRECTIVE", "OMP_PARALLEL_MASKED_DIRECTIVE",
    "OMP_MASKED_TASK_LOOP_DIRECTIVE", "OMP_MASKED_TASK_LOOP_SIMD_DIRECTIVE",
    "OMP_PARALLEL_MASKED_TASK_LOOP_DIRECTIVE", "OMP_PARALLEL_MASKED_TASK_LOOP_SIMD_DIRECTIVE"]),
  (350, [
    "TRANSLATION_UNIT"]),
  (400, [
    "UNEXPOSED_ATTR", "IB_ACTION_ATTR", "IB_OUTLET_ATTR", "IB_OUTLET_COLLECTION_ATTR",
    "CXX_FINAL_ATTR", "CXX_OVERRIDE_ATTR", "ANNOTATE_ATTR", "ASM_LABEL_ATTR", "PACKED_ATTR",
    "PURE_ATTR", "CONST_ATTR", "NODUPLICATE_ATTR", "CUDACONSTANT_ATTR", "CUDADEVICE_ATTR",
    "CUDAGLOBAL_ATTR", "CUDAHOST_ATTR", "CUDASHARED_ATTR", "VISIBILITY_ATTR", "DLLEXPORT_ATTR",
    "DLLIMPORT_ATTR"]),
  (438, [
    "CONVERGENT_ATTR", "WARN_UNUSED_ATTR", "WARN_UNUSED_RESULT_ATTR", "ALIGNED_ATTR"]),
  (500, [
    "PREPROCESSING_DIRECTIVE", "MACRO_DEFINITION", "MACRO_INSTANTIATION", "INCLUSION_DIRECTIVE"]),
  (600, [
    "MODULE_IMPORT_DECL", "TYPE_ALIAS_TEMPLATE_DECL", "STATIC_ASSERT", "FRIEND_DECL",
    "CONCEPT_DECL"]),
  (700, [
    "OVERLOAD_CANDIDATE"])]

/-- The name of a kind. -/
def name? (kind : Int) : Option String :=
  runs.findSome? fun (first, names) =>
    if (first : Int) ≤ kind then names[(kind - first).toNat]? else none

/-- The name of a kind; an unknown kind is a failure. -/
def name (kind : Int) : Except Failure String :=
  match name? kind with
  | some name => .ok name
  | none => .error (.unknownCursorKind kind)

end CursorKind

namespace TokenKind

/-- The names of the token kinds, counted from zero. -/
def names : List String := ["PUNCTUATION", "KEYWORD", "IDENTIFIER", "LITERAL", "COMMENT"]

/-- The name of a token kind. -/
def name? (kind : Int) : Option String :=
  if 0 ≤ kind then names[kind.toNat]? else none

/-- The name of a token kind; an unknown kind is a failure. -/
def name (kind : Int) : Except Failure String :=
  match name? kind with
  | some name => .ok name
  | none => .error (.unknownTokenKind kind)

end TokenKind
end Custody
