import Mathlib.Data.List.TakeWhile
import SourceEdit.Proofs.Reached
import SourceEdit.Proofs.Script.Imports
import SourceEdit.Proofs.Script.Substitution
import SourceEdit.Proofs.Script.Update

/-!
# What is taken from the value of an edit

An insertion reads the value as a script and takes its first statement, which has to be an import
declaration; an update of variables takes the expression at the head of the value.  `Program.Offers`
says what there is to take, and whether it is the whole value.  Nothing asks for the whole: the edit is
carried out with what is at the head, wherever it belongs (`Program.Takes`), and what follows is left
out.  A value with nothing to take at its head makes the edit fail, and the script stays as it was.
-/

namespace SourceEdit.Script

namespace Node

variable {new last : Node} {parts before after result : List Node}

/-- A statement is inserted exactly if the last statement that holds an import declaration is one. -/
theorem insertAfterImports?_eq_some_iff :
    insertAfterImports? new parts = some result ↔ ∃ before last after,
      parts = before ++ last :: after ∧ last.isImport = true ∧
        (∀ n ∈ after, n.holdsImport = false) ∧ result = before ++ last :: new :: after := by
  constructor
  · intro h
    unfold insertAfterImports? at h
    split at h
    · next last before hdrop =>
      split at h
      · next hlast =>
        have hparts := List.takeWhile_append_dropWhile (p := fun n => !holdsImport n)
          (l := parts.reverse)
        rw [hdrop] at hparts
        refine ⟨before.reverse, last, _, by simpa using (congrArg List.reverse hparts).symm, hlast,
          fun n hn => ?_, (Option.some.inj h).symm⟩
        simpa using List.mem_takeWhile_imp (List.mem_reverse.mp hn)
      · cases h
    · cases h
  · rintro ⟨before, last, after, rfl, hlast, hafter, rfl⟩
    exact insertAfterImports?_append hlast hafter new

end Node

namespace Program

variable {p : Program} {value : String} {identifier : Name} {operation : Operation}

/-! ### What there is to take -/

/-- What a value has at its head for an operation. `isWhole` says whether it holds nothing else but
blanks and comments. -/
inductive Offers (p : Program) (value : String) : Operation → Node → (isWhole : Bool) → Prop
  /-- The first statement of the value, if it is an import declaration. -/
  | importDeclaration {q : Program} {directives rest : List Node} {new : Node} :
      parse? p.dialect value.toList = some q →
      q.root.children = [Node.group directives, Node.statements (new :: rest)] → new.isImport = true →
      Offers p value .insert new (directives.isEmpty && rest.isEmpty)
  /-- The expression at the head of the value. -/
  | expression {e : Node} {state : ReadState} :
      expression? p.dialect value.toList = some e →
      Parser.start p.dialect ⟨value.toList, 0⟩ (fun parse => parse .expression) = some (e, state) →
      Offers p value .update e (state.token.kind == .endOfText)

/-- What becomes of a script and how many edits are made, when a node is taken from a value. -/
inductive Takes (p : Program) (identifier : Name) (new : Node) : Operation → Program → Nat → Prop
  /-- It stands behind the last import declaration, and nothing behind that one holds another. -/
  | inserted {before after : List Node} {last : Node} : p.body = before ++ last :: after →
      last.isImport = true → (∀ n ∈ after, n.holdsImport = false) →
      Takes p identifier new .insert (p.withBody (before ++ last :: new :: after)) 1
  /-- There is no such place. -/
  | nowhere : (∀ before after last, p.body = before ++ last :: after → last.isImport = true →
      ∃ n ∈ after, n.holdsImport = true) → Takes p identifier new .insert p 0
  /-- It is the value of all variables of the name, but for those that stood in such a value. -/
  | given {root : Node} {count : Nat} :
      Node.Substituted (Node.isValueSlot identifier) (fun _ part => part = new) p.root root count →
      Takes p identifier new .update { p with root } count

/-- Whether a script holds what an operation with a value works on. -/
def holdsTarget (p : Program) (identifier : Name) : Operation → Bool
  | .insert => p.root.holdsLocated identifier .importDeclaration
  | _ => p.root.holdsLocated identifier .declarator

/-! ### What is taken -/

theorem offers_insert_iff {new : Node} : (∃ isWhole, p.Offers value .insert new isWhole) ↔
    p.statementOfValue value = .ok new ∧ new.isImport = true := by
  constructor
  · rintro ⟨_, h⟩
    cases h with
    | @importDeclaration q directives rest _ hread hparts himport =>
      have hbody : q.body = new :: rest := by
        rw [body, hparts]
        rfl
      exact ⟨by simp only [statementOfValue, hread, hbody], himport⟩
  · rintro ⟨h, himport⟩
    unfold statementOfValue at h
    split at h
    · cases h
    · next q hread =>
      obtain ⟨interpreter, stop, directives, statements, hroot, -⟩ := parse?_eq_some hread
      have hbody : q.body = statements := by rw [body, hroot]; rfl
      rw [hbody] at h
      split at h
      · cases h
      · next new' rest =>
        cases h
        have hparts : q.root.children = [Node.group directives, Node.statements (new :: rest)] := by
          rw [hroot]
          rfl
        exact ⟨_, .importDeclaration hread hparts himport⟩

theorem offers_update_iff {e : Node} :
    (∃ isWhole, p.Offers value .update e isWhole) ↔ p.expressionOfValue value = .ok e := by
  constructor
  · rintro ⟨_, h⟩
    cases h with
    | expression hread _ => simp only [expressionOfValue, hread]
  · intro h
    unfold expressionOfValue at h
    split at h
    · cases h
    · next hread =>
      cases h
      obtain ⟨⟨e', state⟩, hstart, hread'⟩ := Option.bind_eq_some_iff.mp hread
      dsimp only at hread'
      split at hread'
      · cases hread'
      · cases hread'
        exact ⟨_, .expression hread hstart⟩

theorem substituted_setValues (identifier : Name) (value n : Node) :
    Node.Substituted (Node.isValueSlot identifier) (fun _ part => part = value) n
      (Node.setValues identifier value n).1 (Node.setValues identifier value n).2 := by
  refine Node.substituted_substitute (g := fun _ => value) (fun _ => ?_) n
  rfl

/-- An import declaration that is inserted stands behind the last one, or nowhere. -/
theorem takes_insertAfterImports? (p : Program) (identifier : Name) (new : Node) :
    ∃ q count, p.Takes identifier new .insert q count ∧
      (match Node.insertAfterImports? new p.body with
      | some statements => .done (p.withBody statements) 1
      | none => .done p 0) = Edited.done q count := by
  cases h : Node.insertAfterImports? new p.body with
  | some statements =>
    obtain ⟨before, last, after, hbody, hlast, hafter, rfl⟩ :=
      Node.insertAfterImports?_eq_some_iff.mp h
    exact ⟨_, 1, .inserted hbody hlast hafter, rfl⟩
  | none =>
    refine ⟨p, 0, .nowhere fun before after last hbody hlast => ?_, rfl⟩
    by_contra hnone
    have hafter : ∀ n ∈ after, n.holdsImport = false := by simpa using hnone
    cases h.symm.trans
      (Node.insertAfterImports?_eq_some_iff.mpr ⟨before, last, after, hbody, hlast, hafter, rfl⟩)

/-- An insertion, or an update of variables, that finds something to work on takes what its value has
at the head, and fails if that is nothing; if it finds nothing, it does not look at its value. -/
theorem takes_of_value {options : ScriptOptions} (hp : options.editor.Reached p)
    {m : Modification} {identifier : String} (hid : m.target.identifier = some identifier) (hvalue : m.valueText? = some value)
    (hm : m.operation = .insert ∨ m.operation = .update ∧
      (m.target.attributeName = none ∨ p.root.holdsLocated identifier.toList .element = false)) :
    (p.holdsTarget identifier.toList m.operation = false → p.edit m = .done p 0) ∧
    (p.holdsTarget identifier.toList m.operation = true →
      (∃ new isWhole q count, p.Offers value m.operation new isWhole ∧ p.edit m = .done q count ∧
        p.Takes identifier.toList new m.operation q count) ∨
      (∀ new isWhole, ¬p.Offers value m.operation new isWhole) ∧
        ∃ err, p.edit m = .failed p err) := by
  -- An insertion needs a statement that is an import, an update an expression.
  obtain hm | ⟨hm, hattribute⟩ := hm
  · have hedit : p.edit m = if p.holdsTarget identifier.toList .insert then p.insertImport value
        else .done p 0 := by
      simp only [edit, hid, editNamed, hm, requiredValue_eq hvalue, Edited.needing]
      rfl
    rw [hm, hedit]
    refine ⟨fun h => by rw [h]; rfl, fun h => ?_⟩
    rw [if_pos h, insertImport]
    cases hnew : p.statementOfValue value with
    | error err =>
      refine .inr ⟨fun new isWhole hoffers => ?_, err, rfl⟩
      cases hnew.symm.trans (offers_insert_iff.mp ⟨_, hoffers⟩).1
    | ok new =>
      simp only [Edited.needing]
      cases himport : new.isImport with
      | false =>
        -- the value is a statement, but no import
        refine .inr ⟨fun new' isWhole hoffers => ?_, _, rfl⟩
        obtain ⟨hnew', himport'⟩ := offers_insert_iff.mp ⟨_, hoffers⟩
        obtain rfl := Except.ok.inj (hnew.symm.trans hnew')
        exact Bool.false_ne_true (himport.symm.trans himport')
      | true =>
        obtain ⟨isWhole, hoffers⟩ := offers_insert_iff.mpr ⟨hnew, himport⟩
        obtain ⟨q, count, htakes, hdone⟩ := takes_insertAfterImports? p identifier.toList new
        exact .inl ⟨new, isWhole, q, count, hoffers, hdone, htakes⟩
  · have hedit : p.edit m = if p.holdsTarget identifier.toList .update then
        .needing p (p.expressionOfValue value) fun e =>
          p.withRoot (Node.setValues identifier.toList e p.root)
        else .done p 0 := by
      simp only [edit, hid, editNamed, hm, update_value (settled_of_reached hp) hattribute,
        requiredValue_eq hvalue, Edited.needing]
      rfl
    rw [hm, hedit]
    refine ⟨fun h => by rw [h]; rfl, fun h => ?_⟩
    rw [if_pos h]
    cases he : p.expressionOfValue value with
    | error err =>
      refine .inr ⟨fun e isWhole hoffers => ?_, err, rfl⟩
      cases he.symm.trans (offers_update_iff.mp ⟨_, hoffers⟩)
    | ok e =>
      obtain ⟨isWhole, hoffers⟩ := offers_update_iff.mpr he
      exact .inl ⟨e, isWhole, _, _, hoffers, rfl, .given (substituted_setValues _ e p.root)⟩

/-- The expression of a value that ends with a comment is given to both variables of the name. -/
theorem takes_of_value_comment :
    let update : Modification :=
      { path := "a.js", operation := .update, target := { identifier := some "x" },
        value := some (.text "f(1) // x") }
    ∃ p e isWhole q, parse? (.ofPath "a.js") "let x = 0; for (var x;;) f();".toList = some p ∧
      p.Offers "f(1) // x" .update e isWhole ∧ p.edit update = .done q 2 ∧
      p.Takes "x".toList e .update q 2 := by
  intro update
  have hreads : ((parse? (.ofPath "a.js") "let x = 0; for (var x;;) f();".toList).any fun p =>
      p.holdsTarget "x".toList .update && (p.edit update).result.toOption == some 2) = true := by
    decide +kernel
  obtain ⟨p, hp, hread⟩ := (Option.any_eq_true _ _).mp hreads
  obtain ⟨hheld, hcount⟩ := Bool.and_eq_true_iff.mp hread
  have hreached : (ScriptOptions.editor {}).Reached p := reached_of_parse? hp
  obtain ⟨e, isWhole, q, count, hoffers, hedit, htakes⟩ | ⟨-, err, hedit⟩ :=
    (takes_of_value (m := update) hreached rfl rfl (.inr ⟨rfl, .inl rfl⟩)).2 hheld
  · obtain rfl : count = 2 := by
      rw [hedit] at hcount
      exact Option.some.inj (eq_of_beq hcount)
    exact ⟨p, e, isWhole, q, hp, hoffers, hedit, htakes⟩
  · rw [hedit] at hcount
    cases hcount

/-- What follows an import declaration that is inserted, or an expression that a variable is given, is
left out, and the edit counts as made. -/
theorem count_of_value_rest :
    let insert : Modification :=
      { path := "a.js", operation := .insert, target := { identifier := some "import" },
        value := some (.text "import b from 'b'; f()") }
    let update : Modification :=
      { path := "a.js", operation := .update, target := { identifier := some "x" },
        value := some (.text "1; f()") }
    ∃ p q state, parse? (.ofPath "a.js") "import a from 'a'; let x = 0;".toList = some p ∧
      (p.edit insert).result.toOption = some 1 ∧
      parse? p.dialect "import b from 'b'; f()".toList = some q ∧ q.body.length = 2 ∧
      (p.edit insert).tree.body.length = 3 ∧ (p.edit update).result.toOption = some 1 ∧
      (∃ e, Parser.start p.dialect ⟨"1; f()".toList, 0⟩ (fun parse => parse .expression) =
        some (e, state)) ∧ state.token.kind ≠ .endOfText := by
  intro insert update
  -- The script that is read is known by its text only, so everything about it is evaluated at once.
  have hreads : ((parse? (.ofPath "a.js") "import a from 'a'; let x = 0;".toList).any fun p =>
      (p.edit insert).result.toOption == some 1 && (p.edit insert).tree.body.length == 3 &&
        (p.edit update).result.toOption == some 1 &&
        ((parse? p.dialect "import b from 'b'; f()".toList).any fun q => q.body.length == 2) &&
        (Parser.start p.dialect ⟨"1; f()".toList, 0⟩ fun parse => parse .expression).any fun read =>
          read.2.token.kind != .endOfText) = true := by
    decide +kernel
  obtain ⟨p, hp, hread⟩ := (Option.any_eq_true _ _).mp hreads
  simp only [Bool.and_eq_true, beq_iff_eq] at hread
  obtain ⟨⟨⟨⟨hinsert, hbody⟩, hupdate⟩, hstatements⟩, hexpression⟩ := hread
  obtain ⟨q, hq, htwo⟩ := (Option.any_eq_true _ _).mp hstatements
  obtain ⟨⟨e, state⟩, hstart, hnext⟩ := (Option.any_eq_true _ _).mp hexpression
  exact ⟨p, q, state, hp, hinsert, hq, eq_of_beq htwo, hbody, hupdate, ⟨e, hstart⟩,
    bne_iff_ne.mp hnext⟩

end Program

end SourceEdit.Script
