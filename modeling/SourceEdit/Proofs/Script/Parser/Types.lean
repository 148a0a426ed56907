import SourceEdit.Proofs.Script.Parser.Patterns
import SourceEdit.Script.Parser.Types

/-!
# Types are well-formed
-/

namespace SourceEdit.Script.Parser

variable {parse : Goal → Parser Node} (h : ∀ goal, (parse goal).Yields)

include h

/-! ### Parameters and arguments -/

/-- A type parameter may have a bound and a default. -/
@[grind ←]
theorem typeParameter_yields : (typeParameter parse).Yields := by
  unfold typeParameter
  repeat' with_reducible refine .bind ?_ fun _ _ => ?_
  all_goals grind

/-- Type parameters stand in angle brackets. -/
@[grind ←]
theorem typeParameters_yields : (typeParameters parse).Yields := by
  unfold typeParameters
  grind

@[grind ←]
theorem typeArguments_yields : (typeArguments parse).Yields := by
  unfold typeArguments
  grind

/-- Where type arguments may be missing, what is read is a node or nothing. -/
@[grind ←]
theorem typeArguments?_yields : (typeArguments? parse).Yields := by
  unfold typeArguments?
  grind

/-- Type arguments that have to start on the line of what they belong to. -/
@[grind ←]
theorem typeArgumentsOnLine_yields : (typeArgumentsOnLine parse).Yields := by
  unfold typeArgumentsOnLine
  grind

/-! ### Names -/

omit h in
/-- Names after dots qualify the name before them. -/
@[grind ←]
theorem dottedAfter_yields (start : Nat) {first : Node} (hfirst : IsSound first) :
    (dottedAfter start first).Yields := by
  unfold dottedAfter
  repeat' with_reducible first
    | refine .bind ?_ fun _ _ => ?_ | refine .iterate (fun _ _ => ?_) ?_ | split
  all_goals grind

omit h in
/-- A name with its qualifiers. -/
@[grind ←]
theorem dottedName_yields : dottedName.Yields := by
  unfold dottedName
  grind

/-- The name of a type with its arguments. -/
@[grind ←]
theorem referenceType_yields : (referenceType parse).Yields := by
  unfold referenceType
  grind

/-! ### Results -/

/-- What a predicate says of a parameter, after its name. -/
@[grind ←]
theorem predicateRest_yields (asserts : Bool) (start : Nat) {subject : Node}
    (hsubject : IsSound subject) : (predicateRest parse asserts start subject).Yields := by
  unfold predicateRest
  grind

omit h in
@[grind ←]
theorem thisNode_yields : thisNode.Yields := by
  unfold thisNode
  grind

/-- The type `this` may begin a predicate. -/
@[grind ←]
theorem thisType_yields : (thisType parse).Yields := by
  unfold thisType
  grind

/-- A result may say what is asserted of a parameter. -/
@[grind ←]
theorem assertion?_yields : (assertion? parse).Yields := by
  unfold assertion?
  repeat' with_reducible refine .bind ?_ fun _ _ => ?_
  all_goals grind

/-- The result of a function is a type, a predicate or an assertion. -/
@[grind ←]
theorem resultType_yields : (resultType parse).Yields := by
  unfold resultType
  grind

@[grind ←]
theorem resultAfterColon_yields : (resultAfterColon parse).Yields := by
  unfold resultAfterColon
  grind

/-! ### Function types -/

/-- The type of a function has type parameters, parameters and a result. -/
@[grind ←]
theorem functionType_yields : (functionType parse).Yields := by
  unfold functionType
  repeat' with_reducible refine .bind ?_ fun _ _ => ?_
  all_goals grind

/-! ### Members of object types -/

/-- An index signature has the type of its index and that of its values. -/
@[grind ←]
theorem indexSignature_yields (start : Nat) (isReadonly : Bool) :
    (indexSignature parse start isReadonly).Yields := by
  unfold indexSignature
  repeat' with_reducible refine .bind ?_ fun _ _ => ?_
  all_goals grind

/-- A method without a body. -/
@[grind ←]
theorem methodSignature_yields (start : Nat) (flags : MemberFlags) {key : Node}
    (hkey : IsSound key) : (methodSignature parse start flags key).Yields := by
  unfold methodSignature
  repeat' with_reducible refine .bind ?_ fun _ _ => ?_
  all_goals grind

/-- An accessor without a body. -/
@[grind ←]
theorem accessorSignature_yields (start : Nat) (kind : MethodKind) :
    (accessorSignature parse start kind).Yields := by
  unfold accessorSignature
  repeat' with_reducible refine .bind ?_ fun _ _ => ?_
  all_goals grind

/-- A property or a method of an object type. -/
@[grind ←]
theorem memberSignature_yields (start : Nat) (flags : MemberFlags) :
    (memberSignature parse start flags).Yields := by
  unfold memberSignature
  repeat' with_reducible first | refine .bind ?_ fun _ _ => ?_ | split
  all_goals grind

/-- Every member of an object type. -/
@[grind ←]
theorem typeMember_yields : (typeMember parse).Yields := by
  unfold typeMember
  repeat' with_reducible first | refine .bind ?_ fun _ _ => ?_ | split
  all_goals grind

/-- The members of an object type. -/
@[grind ←]
theorem typeMembers_yields : (typeMembers parse).Yields := by
  unfold typeMembers
  repeat' with_reducible refine .bind ?_ fun _ _ => ?_
  all_goals grind

/-! ### Mapped types -/

/-- A mapped type has a type parameter, and may rename it. -/
@[grind ←]
theorem mappedType_yields : (mappedType parse).Yields := by
  unfold mappedType
  repeat' with_reducible refine .bind ?_ fun _ _ => ?_
  all_goals grind

/-! ### Operands -/

/-- An item of a tuple may have a name, and may be a spread. -/
@[grind ←]
theorem tupleItem_yields : (tupleItem parse).Yields := by
  unfold tupleItem
  repeat' with_reducible first | refine .bind ?_ fun _ _ => ?_ | split
  all_goals grind

/-- The type of a value goes by its name. -/
@[grind ←]
theorem queryType_yields : (queryType parse).Yields := by
  unfold queryType
  repeat' with_reducible refine .bind ?_ fun _ _ => ?_
  all_goals grind

omit h in
/-- A literal may stand for the type of its own value. -/
@[grind ←]
theorem literalType_yields {literal : Parser Node} (hliteral : literal.Yields) :
    (literalType literal).Yields := by
  unfold literalType
  grind

/-- The type of another module. -/
@[grind ←]
theorem importType_yields : (importType parse).Yields := by
  unfold importType
  repeat' with_reducible refine .bind ?_ fun _ _ => ?_
  all_goals grind

/-- A template whose parts are types. -/
@[grind ←]
theorem templateType_yields : (templateType parse).Yields := by
  unfold templateType
  repeat' with_reducible first
    | refine .bind ?_ fun _ _ => ?_ | refine .iterate (fun _ _ => ?_) ?_ | split | dsimp only
  all_goals grind

omit h in
@[grind ←]
theorem wordLiteral_yields {shape : Shape} (hshape : shape.Takes []) :
    (wordLiteral shape).Yields := by
  unfold wordLiteral
  repeat' with_reducible first | refine .bind ?_ fun _ _ => ?_ | split
  all_goals grind

/-- A type that starts with a word. -/
@[grind ←]
theorem typeOfWord_yields (w : Word) : (typeOfWord parse w).Yields := by
  unfold typeOfWord
  repeat' with_reducible first | refine .bind ?_ fun _ _ => ?_ | split
  all_goals grind

omit h in
/-- A number with a minus sign is a literal among types. -/
@[grind ←]
theorem negativeNumber_yields : negativeNumber.Yields := by
  unfold negativeNumber
  grind

/-- What may follow a question mark in a conditional type. -/
@[grind ←]
theorem afterQuestion_yields : (afterQuestion parse).Yields := by
  unfold afterQuestion
  grind

/-- A type without operators. -/
@[grind ←]
theorem primaryType_yields : (primaryType parse).Yields := by
  unfold primaryType
  repeat' with_reducible first | refine .bind ?_ fun _ _ => ?_ | split
  all_goals grind

@[grind ←]
theorem negatedType_yields : (negatedType parse).Yields := by
  unfold negatedType
  refine .bind (.of_isPlain _) fun marks _ => .bind (by grind) fun type htype => ?_
  induction marks with
  | nil => exact .pure htype
  | cons start marks ih =>
    rw [List.foldrM_cons]
    exact (ih (isSound_plain _)).bind (by grind)

/-- A type may be followed by brackets, as an array or a member. -/
@[grind ←]
theorem suffixedType_yields : (suffixedType parse).Yields := by
  unfold suffixedType
  repeat' with_reducible first
    | refine .bind ?_ fun _ _ => ?_ | refine .iterate (fun _ _ => ?_) ?_ | split
  all_goals grind

/-- A type variable of a conditional type, and its bound. -/
@[grind ←]
theorem inferType_yields : (inferType parse).Yields := by
  unfold inferType
  repeat' with_reducible refine .bind ?_ fun _ _ => ?_
  all_goals grind

/-- What stands between the operators for types. -/
@[grind ←]
theorem typeOperand_yields : (typeOperand parse).Yields := by
  unfold typeOperand
  repeat' with_reducible refine .bind ?_ fun _ _ => ?_
  all_goals grind

/-! ### Types -/

omit h in
/-- Types with one operator between them, or a single type. -/
theorem operatorList_yields (mark : Punct) {shape : Shape}
    (hshape : ∀ parts, IsSound parts → shape.Takes parts) {operand : Parser Node}
    (hoperand : operand.Yields) : (operatorList mark shape operand).Yields := by
  unfold operatorList
  repeat' with_reducible refine .bind ?_ fun _ _ => ?_
  all_goals grind

/-- Unions and intersections. -/
@[grind ←]
theorem listedType_yields : (listedType parse).Yields := by
  unfold listedType
  grind

/-- Unions of intersections. -/
theorem operatorLists_yields :
    (operatorList .bar .unionType
      (operatorList .amp .intersectionType (listedType parse))).Yields := by
  refine operatorList_yields _ ?_ (operatorList_yields _ ?_ (listedType_yields h))
  · exact fun _ hparts => hparts
  · exact fun _ hparts => hparts

/-- Every type. -/
@[grind ←]
theorem type_yields : (type parse).Yields := by
  have hlists := operatorLists_yields h
  unfold type
  repeat' with_reducible first | refine .bind ?_ fun _ _ => ?_ | split
  all_goals grind

end SourceEdit.Script.Parser
