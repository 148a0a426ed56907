import SourceEdit.Proofs.Script.Parser.Functions
import SourceEdit.Script.Parser.Declarations

/-!
# Declarations are well-formed
-/

namespace SourceEdit.Script.Parser

variable {parse : Goal → Parser Node} (h : ∀ goal, (parse goal).Yields)

include h

/-! ### Variables -/

section Variables

omit h

/-- In a declaration of variables, variables are sound. -/
private abbrev asVariable : Checked Node := ⟨Node.Legible⟩

private theorem bind_yields_variable {α : Type} [Checked α] {p : Parser α} {f : α → Parser Node}
    (hp : p.Yields) (hf : ∀ a, IsSound a → @Yields Node asVariable (f a)) :
    @Yields Node asVariable (p >>= f) :=
  @Yields.bind α Node _ asVariable p f hp hf

private theorem finish_yields_variable {isDefinite : Bool} {start : Nat} {bound type value : Node}
    {f : Node → Parser Node} (hparts : IsSound [bound, type, value])
    (hf : ∀ n, asVariable.IsSound n → @Yields Node asVariable (f n)) :
    @Yields Node asVariable
      (finish (.declarator isDefinite) start [bound, type, value] >>= f) := by
  refine @Yields.bind Node Node asVariable asVariable _ _ ?_ hf
  refine bind_yields_variable (.of_isPlain _) fun _ _ => ?_
  exact @Yields.pure Node asVariable _ (legible_declarator.mpr hparts)

end Variables

theorem declarator_yields (kind : VariableKind) (inLoop : Bool) :
    @Yields Node asVariable (declarator parse kind inLoop) := by
  unfold declarator
  repeat' with_reducible first
    | refine finish_yields_variable ?_ fun _ _ => ?_
    | refine bind_yields_variable ?_ fun _ _ => ?_
    | split
    | dsimp only
    | exact @Yields.pure Node asVariable _ ‹asVariable.IsSound _›
  all_goals grind

/-- A declaration of variables has at least one, since its declarators are separated by commas. -/
@[grind ←]
theorem variableList_yields (inLoop isDeclare : Bool) (start : Nat) :
    (variableList parse inLoop isDeclare start).Yields := by
  unfold variableList
  refine .bind (.of_isPlain _) fun kind _ => ?_
  intro c s n s' hn
  obtain ⟨⟨items, t⟩, hitems, hn⟩ := Option.bind_eq_some_iff.mp hn
  have hsound := @Yields.separated Node asVariable _ (declarator_yields h kind inLoop) _ _ _ _ hitems
  have htakes : (Shape.variableList kind isDeclare).Takes items :=
    ⟨separated_ne_nil hitems, hsound⟩
  exact Yields.finish htakes _ _ _ _ hn

/-! ### Interfaces and aliases -/

@[grind ←]
theorem extended_yields : (extended parse).Yields := by
  unfold extended
  grind

@[grind ←]
theorem interfaceNode_yields (isDeclare : Bool) (start : Nat) :
    (interfaceNode parse isDeclare start).Yields := by
  unfold interfaceNode
  repeat' with_reducible refine .bind ?_ fun _ _ => ?_
  all_goals grind

@[grind ←]
theorem typeAlias_yields (isDeclare : Bool) (start : Nat) :
    (typeAlias parse isDeclare start).Yields := by
  unfold typeAlias
  grind

/-! ### Enumerations -/

@[grind ←]
theorem enumMember_yields : (enumMember parse).Yields := by
  unfold enumMember
  repeat' with_reducible refine .bind ?_ fun _ _ => ?_
  all_goals grind

@[grind ←]
theorem enumNode_yields (isConst isDeclare : Bool) (start : Nat) :
    (enumNode parse isConst isDeclare start).Yields := by
  unfold enumNode
  grind

/-! ### Namespaces -/

@[grind ←]
theorem namespaceBody_yields : (namespaceBody parse).Yields := by
  unfold namespaceBody
  grind

@[grind ←]
theorem namespaceNode_yields (isDeclare : Bool) (start : Nat) :
    (namespaceNode parse isDeclare start).Yields := by
  unfold namespaceNode
  repeat' with_reducible first | refine .bind ?_ fun _ _ => ?_ | split
  all_goals grind

/-! ### Imports by equation -/

omit h in
@[grind ←]
theorem importReference_yields : importReference.Yields := by
  unfold importReference
  grind

omit h in
@[grind ←]
theorem importEquals_yields (typeOnly : Bool) (start : Nat) {name : Node} (hname : IsSound name) :
    (importEquals typeOnly start name).Yields := by
  unfold importEquals
  grind

/-! ### Declarations that types know -/

@[grind ←]
theorem declarationAfterWords_yields (isDeclare isAbstract : Bool) (start : Nat)
    {marks : List Node} (hmarks : IsSound marks) :
    (declarationAfterWords parse isDeclare isAbstract start marks).Yields := by
  unfold declarationAfterWords
  repeat' with_reducible refine .bind ?_ fun _ _ => ?_
  all_goals grind

@[grind ←]
theorem declaration_yields (start : Nat) {marks : List Node} (hmarks : IsSound marks) :
    (declaration parse start marks).Yields := by
  unfold declaration
  grind

end SourceEdit.Script.Parser
