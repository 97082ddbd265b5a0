/-! # The table of cursor kinds

The kinds of cursors that a C-family front end reports, each with the number that it
is known by and its name.
-/

namespace CursorLift.Kind.Table

def declarations : List (Nat × String) := [
  (1, "UNEXPOSED_DECL"), (2, "STRUCT_DECL"), (3, "UNION_DECL"), (4, "CLASS_DECL"),
  (5, "ENUM_DECL"), (6, "FIELD_DECL"), (7, "ENUM_CONSTANT_DECL"), (8, "FUNCTION_DECL"),
  (9, "VAR_DECL"), (10, "PARM_DECL"), (11, "OBJC_INTERFACE_DECL"), (12, "OBJC_CATEGORY_DECL"),
  (13, "OBJC_PROTOCOL_DECL"), (14, "OBJC_PROPERTY_DECL"), (15, "OBJC_IVAR_DECL"),
  (16, "OBJC_INSTANCE_METHOD_DECL"), (17, "OBJC_CLASS_METHOD_DECL"),
  (18, "OBJC_IMPLEMENTATION_DECL"), (19, "OBJC_CATEGORY_IMPL_DECL"), (20, "TYPEDEF_DECL"),
  (21, "CXX_METHOD"), (22, "NAMESPACE"), (23, "LINKAGE_SPEC"), (24, "CONSTRUCTOR"),
  (25, "DESTRUCTOR"), (26, "CONVERSION_FUNCTION"), (27, "TEMPLATE_TYPE_PARAMETER"),
  (28, "TEMPLATE_NON_TYPE_PARAMETER"), (29, "TEMPLATE_TEMPLATE_PARAMETER"),
  (30, "FUNCTION_TEMPLATE"), (31, "CLASS_TEMPLATE"),
  (32, "CLASS_TEMPLATE_PARTIAL_SPECIALIZATION"), (33, "NAMESPACE_ALIAS"), (34, "USING_DIRECTIVE"),
  (35, "USING_DECLARATION"), (36, "TYPE_ALIAS_DECL"), (37, "OBJC_SYNTHESIZE_DECL"),
  (38, "OBJC_DYNAMIC_DECL"), (39, "CXX_ACCESS_SPEC_DECL")]

def references : List (Nat × String) := [
  (40, "OBJC_SUPER_CLASS_REF"), (41, "OBJC_PROTOCOL_REF"), (42, "OBJC_CLASS_REF"),
  (43, "TYPE_REF"), (44, "CXX_BASE_SPECIFIER"), (45, "TEMPLATE_REF"), (46, "NAMESPACE_REF"),
  (47, "MEMBER_REF"), (48, "LABEL_REF"), (49, "OVERLOADED_DECL_REF"), (50, "VARIABLE_REF")]

/-- Cursors that stand for nothing in the source. -/
def invalid : List (Nat × String) := [
  (70, "INVALID_FILE"), (71, "NO_DECL_FOUND"), (72, "NOT_IMPLEMENTED"), (73, "INVALID_CODE")]

def expressions : List (Nat × String) := [
  (100, "UNEXPOSED_EXPR"), (101, "DECL_REF_EXPR"), (102, "MEMBER_REF_EXPR"), (103, "CALL_EXPR"),
  (104, "OBJC_MESSAGE_EXPR"), (105, "BLOCK_EXPR"), (106, "INTEGER_LITERAL"),
  (107, "FLOATING_LITERAL"), (108, "IMAGINARY_LITERAL"), (109, "STRING_LITERAL"),
  (110, "CHARACTER_LITERAL"), (111, "PAREN_EXPR"), (112, "UNARY_OPERATOR"),
  (113, "ARRAY_SUBSCRIPT_EXPR"), (114, "BINARY_OPERATOR"), (115, "COMPOUND_ASSIGNMENT_OPERATOR"),
  (116, "CONDITIONAL_OPERATOR"), (117, "CSTYLE_CAST_EXPR"), (118, "COMPOUND_LITERAL_EXPR"),
  (119, "INIT_LIST_EXPR"), (120, "ADDR_LABEL_EXPR"), (121, "StmtExpr"),
  (122, "GENERIC_SELECTION_EXPR"), (123, "GNU_NULL_EXPR"), (124, "CXX_STATIC_CAST_EXPR"),
  (125, "CXX_DYNAMIC_CAST_EXPR"), (126, "CXX_REINTERPRET_CAST_EXPR"),
  (127, "CXX_CONST_CAST_EXPR"), (128, "CXX_FUNCTIONAL_CAST_EXPR"), (129, "CXX_TYPEID_EXPR"),
  (130, "CXX_BOOL_LITERAL_EXPR"), (131, "CXX_NULL_PTR_LITERAL_EXPR"), (132, "CXX_THIS_EXPR"),
  (133, "CXX_THROW_EXPR"), (134, "CXX_NEW_EXPR"), (135, "CXX_DELETE_EXPR"),
  (136, "CXX_UNARY_EXPR"), (137, "OBJC_STRING_LITERAL"), (138, "OBJC_ENCODE_EXPR"),
  (139, "OBJC_SELECTOR_EXPR"), (140, "OBJC_PROTOCOL_EXPR"), (141, "OBJC_BRIDGE_CAST_EXPR"),
  (142, "PACK_EXPANSION_EXPR"), (143, "SIZE_OF_PACK_EXPR"), (144, "LAMBDA_EXPR"),
  (145, "OBJ_BOOL_LITERAL_EXPR"), (146, "OBJ_SELF_EXPR"), (147, "OMP_ARRAY_SECTION_EXPR"),
  (148, "OBJC_AVAILABILITY_CHECK_EXPR"), (149, "FIXED_POINT_LITERAL"),
  (150, "OMP_ARRAY_SHAPING_EXPR"), (151, "OMP_ITERATOR_EXPR"), (152, "CXX_ADDRSPACE_CAST_EXPR"),
  (153, "CONCEPT_SPECIALIZATION_EXPR"), (154, "REQUIRES_EXPR")]

/-- Statements, with one expression that was numbered among them. -/
def statements : List (Nat × String) := [
  (200, "UNEXPOSED_STMT"), (201, "LABEL_STMT"), (202, "COMPOUND_STMT"), (203, "CASE_STMT"),
  (204, "DEFAULT_STMT"), (205, "IF_STMT"), (206, "SWITCH_STMT"), (207, "WHILE_STMT"),
  (208, "DO_STMT"), (209, "FOR_STMT"), (210, "GOTO_STMT"), (211, "INDIRECT_GOTO_STMT"),
  (212, "CONTINUE_STMT"), (213, "BREAK_STMT"), (214, "RETURN_STMT"), (215, "ASM_STMT"),
  (216, "OBJC_AT_TRY_STMT"), (217, "OBJC_AT_CATCH_STMT"), (218, "OBJC_AT_FINALLY_STMT"),
  (219, "OBJC_AT_THROW_STMT"), (220, "OBJC_AT_SYNCHRONIZED_STMT"),
  (221, "OBJC_AUTORELEASE_POOL_STMT"), (222, "OBJC_FOR_COLLECTION_STMT"), (223, "CXX_CATCH_STMT"),
  (224, "CXX_TRY_STMT"), (225, "CXX_FOR_RANGE_STMT"), (226, "SEH_TRY_STMT"),
  (227, "SEH_EXCEPT_STMT"), (228, "SEH_FINALLY_STMT"), (229, "MS_ASM_STMT"), (230, "NULL_STMT"),
  (231, "DECL_STMT"), (232, "OMP_PARALLEL_DIRECTIVE"), (233, "OMP_SIMD_DIRECTIVE"),
  (234, "OMP_FOR_DIRECTIVE"), (235, "OMP_SECTIONS_DIRECTIVE"), (236, "OMP_SECTION_DIRECTIVE"),
  (237, "OMP_SINGLE_DIRECTIVE"), (238, "OMP_PARALLEL_FOR_DIRECTIVE"),
  (239, "OMP_PARALLEL_SECTIONS_DIRECTIVE"), (240, "OMP_TASK_DIRECTIVE"),
  (241, "OMP_MASTER_DIRECTIVE"), (242, "OMP_CRITICAL_DIRECTIVE"),
  (243, "OMP_TASKYIELD_DIRECTIVE"), (244, "OMP_BARRIER_DIRECTIVE"),
  (245, "OMP_TASKWAIT_DIRECTIVE"), (246, "OMP_FLUSH_DIRECTIVE"), (247, "SEH_LEAVE_STMT"),
  (248, "OMP_ORDERED_DIRECTIVE"), (249, "OMP_ATOMIC_DIRECTIVE"), (250, "OMP_FOR_SIMD_DIRECTIVE"),
  (251, "OMP_PARALLELFORSIMD_DIRECTIVE"), (252, "OMP_TARGET_DIRECTIVE"),
  (253, "OMP_TEAMS_DIRECTIVE"), (254, "OMP_TASKGROUP_DIRECTIVE"),
  (255, "OMP_CANCELLATION_POINT_DIRECTIVE"), (256, "OMP_CANCEL_DIRECTIVE"),
  (257, "OMP_TARGET_DATA_DIRECTIVE"), (258, "OMP_TASK_LOOP_DIRECTIVE"),
  (259, "OMP_TASK_LOOP_SIMD_DIRECTIVE"), (260, "OMP_DISTRIBUTE_DIRECTIVE"),
  (261, "OMP_TARGET_ENTER_DATA_DIRECTIVE"), (262, "OMP_TARGET_EXIT_DATA_DIRECTIVE"),
  (263, "OMP_TARGET_PARALLEL_DIRECTIVE"), (264, "OMP_TARGET_PARALLELFOR_DIRECTIVE"),
  (265, "OMP_TARGET_UPDATE_DIRECTIVE"), (266, "OMP_DISTRIBUTE_PARALLELFOR_DIRECTIVE"),
  (267, "OMP_DISTRIBUTE_PARALLEL_FOR_SIMD_DIRECTIVE"), (268, "OMP_DISTRIBUTE_SIMD_DIRECTIVE"),
  (269, "OMP_TARGET_PARALLEL_FOR_SIMD_DIRECTIVE"), (270, "OMP_TARGET_SIMD_DIRECTIVE"),
  (271, "OMP_TEAMS_DISTRIBUTE_DIRECTIVE"), (272, "OMP_TEAMS_DISTRIBUTE_SIMD_DIRECTIVE"),
  (273, "OMP_TEAMS_DISTRIBUTE_PARALLEL_FOR_SIMD_DIRECTIVE"),
  (274, "OMP_TEAMS_DISTRIBUTE_PARALLEL_FOR_DIRECTIVE"), (275, "OMP_TARGET_TEAMS_DIRECTIVE"),
  (276, "OMP_TARGET_TEAMS_DISTRIBUTE_DIRECTIVE"),
  (277, "OMP_TARGET_TEAMS_DISTRIBUTE_PARALLEL_FOR_DIRECTIVE"),
  (278, "OMP_TARGET_TEAMS_DISTRIBUTE_PARALLEL_FOR_SIMD_DIRECTIVE"),
  (279, "OMP_TARGET_TEAMS_DISTRIBUTE_SIMD_DIRECTIVE"), (280, "BUILTIN_BIT_CAST_EXPR"),
  (281, "OMP_MASTER_TASK_LOOP_DIRECTIVE"), (282, "OMP_PARALLEL_MASTER_TASK_LOOP_DIRECTIVE"),
  (283, "OMP_MASTER_TASK_LOOP_SIMD_DIRECTIVE"),
  (284, "OMP_PARALLEL_MASTER_TASK_LOOP_SIMD_DIRECTIVE"), (285, "OMP_PARALLEL_MASTER_DIRECTIVE"),
  (286, "OMP_DEPOBJ_DIRECTIVE"), (287, "OMP_SCAN_DIRECTIVE"), (288, "OMP_TILE_DIRECTIVE"),
  (289, "OMP_CANONICAL_LOOP"), (290, "OMP_INTEROP_DIRECTIVE"), (291, "OMP_DISPATCH_DIRECTIVE"),
  (292, "OMP_MASKED_DIRECTIVE"), (293, "OMP_UNROLL_DIRECTIVE"), (294, "OMP_META_DIRECTIVE"),
  (295, "OMP_GENERIC_LOOP_DIRECTIVE"), (296, "OMP_TEAMS_GENERIC_LOOP_DIRECTIVE"),
  (297, "OMP_TARGET_TEAMS_GENERIC_LOOP_DIRECTIVE"), (298, "OMP_PARALLEL_GENERIC_LOOP_DIRECTIVE"),
  (299, "OMP_TARGET_PARALLEL_GENERIC_LOOP_DIRECTIVE"), (300, "OMP_PARALLEL_MASKED_DIRECTIVE"),
  (301, "OMP_MASKED_TASK_LOOP_DIRECTIVE"), (302, "OMP_MASKED_TASK_LOOP_SIMD_DIRECTIVE"),
  (303, "OMP_PARALLEL_MASKED_TASK_LOOP_DIRECTIVE"),
  (304, "OMP_PARALLEL_MASKED_TASK_LOOP_SIMD_DIRECTIVE")]

def unit : List (Nat × String) := [
  (350, "TRANSLATION_UNIT")]

def attributes : List (Nat × String) := [
  (400, "UNEXPOSED_ATTR"), (401, "IB_ACTION_ATTR"), (402, "IB_OUTLET_ATTR"),
  (403, "IB_OUTLET_COLLECTION_ATTR"), (404, "CXX_FINAL_ATTR"), (405, "CXX_OVERRIDE_ATTR"),
  (406, "ANNOTATE_ATTR"), (407, "ASM_LABEL_ATTR"), (408, "PACKED_ATTR"), (409, "PURE_ATTR"),
  (410, "CONST_ATTR"), (411, "NODUPLICATE_ATTR"), (412, "CUDACONSTANT_ATTR"),
  (413, "CUDADEVICE_ATTR"), (414, "CUDAGLOBAL_ATTR"), (415, "CUDAHOST_ATTR"),
  (416, "CUDASHARED_ATTR"), (417, "VISIBILITY_ATTR"), (418, "DLLEXPORT_ATTR"),
  (419, "DLLIMPORT_ATTR"), (438, "CONVERGENT_ATTR"), (439, "WARN_UNUSED_ATTR"),
  (440, "WARN_UNUSED_RESULT_ATTR"), (441, "ALIGNED_ATTR")]

def preprocessing : List (Nat × String) := [
  (500, "PREPROCESSING_DIRECTIVE"), (501, "MACRO_DEFINITION"), (502, "MACRO_INSTANTIATION"),
  (503, "INCLUSION_DIRECTIVE")]

/-- Kinds that were added after the others were numbered. -/
def extra : List (Nat × String) := [
  (600, "MODULE_IMPORT_DECL"), (601, "TYPE_ALIAS_TEMPLATE_DECL"), (602, "STATIC_ASSERT"),
  (603, "FRIEND_DECL"), (604, "CONCEPT_DECL"), (700, "OVERLOAD_CANDIDATE")]

/-- All kinds, in increasing order of their numbers. -/
def entries : List (Nat × String) :=
  declarations ++ references ++ invalid ++ expressions ++ statements ++ unit ++ attributes
    ++ preprocessing ++ extra

/-- How many places the table has: one past the last number. Some places are empty. -/
def size : Nat := 701

def name? (id : Nat) : Option String := entries.lookup id

def id? (name : String) : Option Nat :=
  (entries.find? fun entry => entry.2 == name).map Prod.fst

end CursorLift.Kind.Table
