/-!
# Words of scripts

The words that the grammar of scripts gives a meaning to.  A reserved word is never a name; the
other words are names wherever their meaning does not apply.
-/

namespace SourceEdit.Script

/-- A word with a meaning in the grammar. -/
inductive Word where
  | await_
  | break_
  | case_
  | catch_
  | class_
  | const_
  | continue_
  | debugger_
  | default_
  | delete_
  | do_
  | else_
  | enum_
  | export_
  | extends_
  | finally_
  | for_
  | function_
  | if_
  | import_
  | in_
  | instanceof_
  | new_
  | return_
  | super_
  | switch_
  | this_
  | throw_
  | try_
  | typeof_
  | var_
  | void_
  | while_
  | with_
  | yield_
  | null_
  | true_
  | false_
  | async_
  | from_
  | get_
  | meta_
  | of_
  | set_
  | let_
  | static_
  | implements_
  | interface_
  | package_
  | private_
  | protected_
  | public_
  | accessor_
  | abstract_
  | as_
  | asserts_
  | assert_
  | any_
  | bigint_
  | boolean_
  | constructor_
  | declare_
  | defer_
  | global_
  | infer_
  | intrinsic_
  | is_
  | keyof_
  | module_
  | namespace_
  | never_
  | number_
  | object_
  | out_
  | override_
  | readonly_
  | require_
  | satisfies_
  | source_
  | string_
  | symbol_
  | type_
  | undefined_
  | unique_
  | using_
  | unknown_
  | target_
deriving DecidableEq, Repr, Inhabited

namespace Word

/-- The words, by spelling. -/
def spellings : List (Char × List (List Char × Word)) := [
  ('a', [
    (['a', 'w', 'a', 'i', 't'], .await_),
    (['a', 's', 'y', 'n', 'c'], .async_),
    (['a', 'c', 'c', 'e', 's', 's', 'o', 'r'], .accessor_),
    (['a', 'b', 's', 't', 'r', 'a', 'c', 't'], .abstract_),
    (['a', 's'], .as_),
    (['a', 's', 's', 'e', 'r', 't', 's'], .asserts_),
    (['a', 's', 's', 'e', 'r', 't'], .assert_),
    (['a', 'n', 'y'], .any_)]),
  ('b', [
    (['b', 'r', 'e', 'a', 'k'], .break_),
    (['b', 'i', 'g', 'i', 'n', 't'], .bigint_),
    (['b', 'o', 'o', 'l', 'e', 'a', 'n'], .boolean_)]),
  ('c', [
    (['c', 'a', 's', 'e'], .case_),
    (['c', 'a', 't', 'c', 'h'], .catch_),
    (['c', 'l', 'a', 's', 's'], .class_),
    (['c', 'o', 'n', 's', 't'], .const_),
    (['c', 'o', 'n', 't', 'i', 'n', 'u', 'e'], .continue_),
    (['c', 'o', 'n', 's', 't', 'r', 'u', 'c', 't', 'o', 'r'], .constructor_)]),
  ('d', [
    (['d', 'e', 'b', 'u', 'g', 'g', 'e', 'r'], .debugger_),
    (['d', 'e', 'f', 'a', 'u', 'l', 't'], .default_),
    (['d', 'e', 'l', 'e', 't', 'e'], .delete_),
    (['d', 'o'], .do_),
    (['d', 'e', 'c', 'l', 'a', 'r', 'e'], .declare_),
    (['d', 'e', 'f', 'e', 'r'], .defer_)]),
  ('e', [
    (['e', 'l', 's', 'e'], .else_),
    (['e', 'n', 'u', 'm'], .enum_),
    (['e', 'x', 'p', 'o', 'r', 't'], .export_),
    (['e', 'x', 't', 'e', 'n', 'd', 's'], .extends_)]),
  ('f', [
    (['f', 'i', 'n', 'a', 'l', 'l', 'y'], .finally_),
    (['f', 'o', 'r'], .for_),
    (['f', 'u', 'n', 'c', 't', 'i', 'o', 'n'], .function_),
    (['f', 'a', 'l', 's', 'e'], .false_),
    (['f', 'r', 'o', 'm'], .from_)]),
  ('g', [
    (['g', 'e', 't'], .get_),
    (['g', 'l', 'o', 'b', 'a', 'l'], .global_)]),
  ('i', [
    (['i', 'f'], .if_),
    (['i', 'm', 'p', 'o', 'r', 't'], .import_),
    (['i', 'n'], .in_),
    (['i', 'n', 's', 't', 'a', 'n', 'c', 'e', 'o', 'f'], .instanceof_),
    (['i', 'm', 'p', 'l', 'e', 'm', 'e', 'n', 't', 's'], .implements_),
    (['i', 'n', 't', 'e', 'r', 'f', 'a', 'c', 'e'], .interface_),
    (['i', 'n', 'f', 'e', 'r'], .infer_),
    (['i', 'n', 't', 'r', 'i', 'n', 's', 'i', 'c'], .intrinsic_),
    (['i', 's'], .is_)]),
  ('k', [
    (['k', 'e', 'y', 'o', 'f'], .keyof_)]),
  ('l', [
    (['l', 'e', 't'], .let_)]),
  ('m', [
    (['m', 'e', 't', 'a'], .meta_),
    (['m', 'o', 'd', 'u', 'l', 'e'], .module_)]),
  ('n', [
    (['n', 'e', 'w'], .new_),
    (['n', 'u', 'l', 'l'], .null_),
    (['n', 'a', 'm', 'e', 's', 'p', 'a', 'c', 'e'], .namespace_),
    (['n', 'e', 'v', 'e', 'r'], .never_),
    (['n', 'u', 'm', 'b', 'e', 'r'], .number_)]),
  ('o', [
    (['o', 'f'], .of_),
    (['o', 'b', 'j', 'e', 'c', 't'], .object_),
    (['o', 'u', 't'], .out_),
    (['o', 'v', 'e', 'r', 'r', 'i', 'd', 'e'], .override_)]),
  ('p', [
    (['p', 'a', 'c', 'k', 'a', 'g', 'e'], .package_),
    (['p', 'r', 'i', 'v', 'a', 't', 'e'], .private_),
    (['p', 'r', 'o', 't', 'e', 'c', 't', 'e', 'd'], .protected_),
    (['p', 'u', 'b', 'l', 'i', 'c'], .public_)]),
  ('r', [
    (['r', 'e', 't', 'u', 'r', 'n'], .return_),
    (['r', 'e', 'a', 'd', 'o', 'n', 'l', 'y'], .readonly_),
    (['r', 'e', 'q', 'u', 'i', 'r', 'e'], .require_)]),
  ('s', [
    (['s', 'u', 'p', 'e', 'r'], .super_),
    (['s', 'w', 'i', 't', 'c', 'h'], .switch_),
    (['s', 'e', 't'], .set_),
    (['s', 't', 'a', 't', 'i', 'c'], .static_),
    (['s', 'a', 't', 'i', 's', 'f', 'i', 'e', 's'], .satisfies_),
    (['s', 'o', 'u', 'r', 'c', 'e'], .source_),
    (['s', 't', 'r', 'i', 'n', 'g'], .string_),
    (['s', 'y', 'm', 'b', 'o', 'l'], .symbol_)]),
  ('t', [
    (['t', 'h', 'i', 's'], .this_),
    (['t', 'h', 'r', 'o', 'w'], .throw_),
    (['t', 'r', 'y'], .try_),
    (['t', 'y', 'p', 'e', 'o', 'f'], .typeof_),
    (['t', 'r', 'u', 'e'], .true_),
    (['t', 'y', 'p', 'e'], .type_),
    (['t', 'a', 'r', 'g', 'e', 't'], .target_)]),
  ('u', [
    (['u', 'n', 'd', 'e', 'f', 'i', 'n', 'e', 'd'], .undefined_),
    (['u', 'n', 'i', 'q', 'u', 'e'], .unique_),
    (['u', 's', 'i', 'n', 'g'], .using_),
    (['u', 'n', 'k', 'n', 'o', 'w', 'n'], .unknown_)]),
  ('v', [
    (['v', 'a', 'r'], .var_),
    (['v', 'o', 'i', 'd'], .void_)]),
  ('w', [
    (['w', 'h', 'i', 'l', 'e'], .while_),
    (['w', 'i', 't', 'h'], .with_)]),
  ('y', [
    (['y', 'i', 'e', 'l', 'd'], .yield_)])]

/-- The word that a name spells. -/
def ofName? : List Char → Option Word
  | [] => none
  | c :: cs => (spellings.lookup c).bind fun candidates => candidates.lookup (c :: cs)

/-- The words that are never names. -/
def isReserved : Word → Bool
  | .break_ | .case_ | .catch_ | .class_ | .const_ | .continue_ | .debugger_ | .default_
  | .delete_ | .do_ | .else_ | .enum_ | .export_ | .extends_ | .finally_ | .for_ | .function_
  | .if_ | .import_ | .in_ | .instanceof_ | .new_ | .return_ | .super_ | .switch_ | .this_
  | .throw_ | .try_ | .typeof_ | .var_ | .void_ | .while_ | .with_ | .null_ | .true_
  | .false_ => true
  | _ => false

end Word

end SourceEdit.Script
