import SourceEdit.Proofs.FileResult
import SourceEdit.Proofs.Script.Update

/-!
# Import declarations put in one after the other

An insertion looks for the last import declaration of a whole script and puts the new one behind it,
if it is a statement of the script.  An import declaration may also stand in the body of a declared
module.  If no such declaration comes after the last import declaration among the statements of the
script, that one is found, and the new one takes over its part: a run of insertions puts all new
declarations behind it, in the order of the run (`Program.body_of_insertions`).  Otherwise nothing
is put in (`Program.count_of_insertion_nested`).
-/

namespace SourceEdit.Script

namespace Node

/-- An import declaration is found in itself. -/
theorem holdsImport_of_isImport {n : Node} (h : n.isImport = true) : n.holdsImport = true :=
  holdsLocated_iff.mpr ⟨n, mem_preorder_self n, h⟩

/-- The last import declaration among statements is found, if none stands inside those behind it. -/
theorem insertAfterImports?_append {before after : List Node} {last : Node}
    (hlast : last.isImport = true) (hafter : ∀ n ∈ after, n.holdsImport = false) (new : Node) :
    insertAfterImports? new (before ++ last :: after) = some (before ++ last :: new :: after) := by
  have hreverse : (before ++ last :: after).reverse = after.reverse ++ last :: before.reverse := by
    simp
  have hbehind : ∀ n ∈ after.reverse, (!holdsImport n) = true := by simpa using hafter
  have hheld : (!holdsImport last) = false := by rw [holdsImport_of_isImport hlast]; rfl
  rw [insertAfterImports?, hreverse]
  simp only [List.takeWhile_append_of_pos hbehind, List.dropWhile_append_of_pos hbehind,
    List.takeWhile_cons, List.dropWhile_cons, hheld, Bool.false_eq_true, if_false, hlast, if_true,
    List.append_nil, List.reverse_reverse]

end Node

namespace Program

variable {p : Program} {before after : List Node} {last : Node}

/-! ### The statements of a script -/

/-- A script with statements is a node with its directives and these. -/
theorem root_of_body (h : p.body ≠ []) :
    ∃ head directives list, p.root = .node head [directives, .node list p.body] := by
  obtain ⟨⟨head, parts⟩, comments, dialect⟩ := p
  match parts with
  | [directives, .node list statements] => exact ⟨head, directives, list, rfl⟩
  | [] | [_] | _ :: _ :: _ :: _ => exact (h rfl).elim

theorem root_withBody (h : p.body ≠ []) (statements : List Node) :
    ∃ head directives list, p.root = .node head [directives, .node list p.body] ∧
      p.withBody statements = { p with root := .node head [directives, .node list statements] } := by
  obtain ⟨head, directives, list, hroot⟩ := root_of_body h
  refine ⟨head, directives, list, hroot, ?_⟩
  rw [withBody, hroot]

theorem body_withBody (h : p.body ≠ []) (statements : List Node) :
    (p.withBody statements).body = statements := by
  obtain ⟨head, directives, list, -, hwith⟩ := root_withBody h statements
  rw [hwith]
  rfl

theorem withBody_body (h : p.body ≠ []) : p.withBody p.body = p := by
  obtain ⟨head, directives, list, hroot, hwith⟩ := root_withBody h p.body
  rw [hwith, ← hroot]

theorem withBody_withBody (h : p.body ≠ []) (statements others : List Node) :
    (p.withBody statements).withBody others = p.withBody others := by
  obtain ⟨head, directives, list, hroot, hwith⟩ := root_withBody h statements
  rw [hwith, withBody, withBody, hroot]

theorem dialect_withBody (p : Program) (statements : List Node) :
    (p.withBody statements).dialect = p.dialect := by
  unfold withBody
  split <;> rfl

/-! ### Insertions -/

/-- A modification is the insertion of an import declaration: its value is read as this one
statement. -/
structure InsertsImport (dialect : Dialect) (m : Modification) (new : Node) : Prop where
  operation : m.operation = .insert
  identifier : m.target.identifier.map String.toList = some importIdentifier
  reads : ∃ value q, m.valueText? = some value ∧ parse? dialect value.toList = some q ∧
    q.body = [new]
  isImport : new.isImport = true

/-- An insertion puts the new declaration behind the last one. -/
theorem edit_of_insertsImport (hbody : p.body = before ++ last :: after)
    (hlast : last.isImport = true) (hafter : ∀ n ∈ after, n.holdsImport = false) {m : Modification}
    {new : Node} (hm : InsertsImport p.dialect m new) :
    p.edit m = .done (p.withBody (before ++ last :: new :: after)) 1 := by
  obtain ⟨value, q, hvalue, hread, hfirst⟩ := hm.reads
  obtain ⟨identifier, hid, himport⟩ := Option.map_eq_some_iff.mp hm.identifier
  have hnew : p.statementOfValue value = .ok new := by simp only [statementOfValue, hread, hfirst]
  have hheld : p.root.holdsLocated importIdentifier .importDeclaration = true := by
    obtain ⟨head, directives, list, hroot⟩ := root_of_body (p := p) (by simp [hbody])
    have hlist : Node.holdsLocated importIdentifier .importDeclaration (.node list p.body) = true :=
      Node.holdsLocated_node.mpr
        (.inr ⟨last, by simp [hbody], Node.holdsImport_of_isImport hlast⟩)
    rw [hroot]
    exact Node.holdsLocated_node.mpr (.inr ⟨_, by simp, hlist⟩)
  simp only [edit, hid, editNamed, hm.operation, himport, hheld, if_true, requiredValue_eq hvalue,
    Edited.needing, insertImport, hnew, hm.isImport, Bool.not_true, Bool.false_eq_true, if_false,
    hbody, Node.insertAfterImports?_append hlast hafter]

/-- A run of insertions puts the new declarations behind the last one, each making one edit. -/
theorem runs_of_insertsImport (options : ScriptOptions) {dialect : Dialect} {ms : List Modification}
    {news : List Node} (hms : List.Forall₂ (InsertsImport dialect) ms news)
    (hdialect : p.dialect = dialect) (hbody : p.body = before ++ last :: after)
    (hlast : last.isImport = true) (hafter : ∀ n ∈ after, n.holdsImport = false) :
    options.editor.Runs p ms (p.withBody (before ++ last :: news ++ after))
      (List.replicate ms.length 1) := by
  induction hms generalizing p before last with
  | nil =>
    have hsame : p.withBody (before ++ last :: [] ++ after) = p := by
      rw [List.append_assoc, List.cons_append, List.nil_append, ← hbody]
      exact withBody_body (by simp [hbody])
    rw [hsame]
    exact Editor.Runs.nil (e := options.editor) p
  | @cons m new ms news hm hms ih =>
    have hne : p.body ≠ [] := by simp [hbody]
    have hedit := edit_of_insertsImport hbody hlast hafter (hdialect ▸ hm)
    refine .cons (congrArg Edited.result hedit) ?_
    have htree : (options.editor.edit p m).tree = p.withBody (before ++ last :: new :: after) :=
      congrArg Edited.tree hedit
    -- the declaration that was put in is the last one now
    have hbody' : (p.withBody (before ++ last :: new :: after)).body =
        (before ++ [last]) ++ new :: after := by simp [body_withBody hne]
    have hrest := ih ((dialect_withBody p _).trans hdialect) hbody' hm.isImport
    rw [withBody_withBody hne] at hrest
    rw [htree]
    simpa using hrest

/-- If no import declaration stands inside the statements behind the last one, every insertion of a
run makes one edit, and the new declarations stand right behind the last one, in the order of the
run. -/
theorem body_of_insertions (options : ScriptOptions) (hbody : p.body = before ++ last :: after)
    (hlast : last.isImport = true) (hafter : ∀ n ∈ after, n.holdsImport = false)
    {ms : List Modification} {news : List Node}
    (hms : List.Forall₂ (InsertsImport p.dialect) ms news) :
    ∃ final, options.editor.Runs p ms final (List.replicate ms.length 1) ∧
      final = p.withBody (before ++ last :: news ++ after) ∧
      final.body = before ++ last :: news ++ after :=
  ⟨_, runs_of_insertsImport options hms rfl hbody hlast hafter, rfl,
    body_withBody (by simp [hbody]) _⟩

/-- Putting two declarations behind one that comes after a declared module with a declaration. -/
theorem body_of_insertions_declared :
    let source := "import a from 'a'; declare module 'm' \x7b import b from 'b'; \x7d " ++
      "import c from 'c'; f();"
    let insert (value : String) : Modification :=
      { path := "a.ts", operation := .insert, target := { identifier := some "import" },
        value := some (.text value) }
    ∃ p before last after new new' final, parse? (.ofPath "a.ts") source.toList = some p ∧
      p.body = before ++ last :: after ∧ before.length = 2 ∧ after.length = 1 ∧
      (ScriptOptions.editor {}).Runs p
        [insert "import d from 'd';", insert "import * as e from 'e'"] final [1, 1] ∧
      final.body = before ++ last :: [new, new'] ++ after := by
  intro source insert
  have hreads : ((parse? (.ofPath "a.ts") source.toList).any fun p =>
      p.body.map Node.isImport == [true, false, true, false] &&
        !(p.body.getLast?.any Node.holdsImport) &&
        ["import d from 'd';", "import * as e from 'e'"].all fun value =>
          (parse? p.dialect value.toList).any fun q => q.body.map Node.isImport == [true]) = true := by
    decide +kernel
  obtain ⟨p, hp, hread⟩ := (Option.any_eq_true _ _).mp hreads
  simp only [Bool.and_eq_true, beq_iff_eq, Bool.not_eq_true', List.all_cons, List.all_nil,
    Bool.and_true] at hread
  obtain ⟨⟨himports, hafter⟩, hd, he⟩ := hread
  -- each value is read as a script of one import
  have hinserts {value : String} (h : ((parse? p.dialect value.toList).any fun q =>
      q.body.map Node.isImport == [true]) = true) :
      ∃ new, InsertsImport p.dialect (insert value) new := by
    obtain ⟨q, hq, hone⟩ := (Option.any_eq_true _ _).mp h
    obtain ⟨new, hbody, hnew⟩ := List.map_eq_singleton_iff.mp (eq_of_beq hone)
    exact ⟨new, rfl, rfl, ⟨value, q, rfl, hq, hbody⟩, hnew⟩
  obtain ⟨new, hnew⟩ := hinserts hd
  obtain ⟨new', hnew'⟩ := hinserts he
  simp only [List.map_eq_cons_iff, List.map_eq_nil_iff] at himports
  obtain ⟨a, _, hbody, -, b, _, rfl, -, last, _, rfl, hlast, after, _, rfl, -, rfl⟩ := himports
  have hbody : p.body = [a, b] ++ last :: [after] := hbody
  rw [hbody] at hafter
  obtain ⟨final, hruns, -, hfinal⟩ :=
    body_of_insertions {} hbody hlast (List.forall_mem_singleton.mpr hafter)
      (.cons hnew (.cons hnew' .nil))
  exact ⟨p, [a, b], last, [after], new, new', final, hp, hbody, rfl, rfl, hruns, hfinal⟩

/-- Nothing is put in behind the last declaration of a script if a declared module behind it holds
another one. -/
theorem count_of_insertion_nested :
    let source := "import a from 'a'; declare module 'm' \x7b import b from 'b'; \x7d"
    let insert : Modification :=
      { path := "a.ts", operation := .insert, target := { identifier := some "import" },
        value := some (.text "import c from 'c';") }
    ∃ p new, parse? (.ofPath "a.ts") source.toList = some p ∧
      p.body.map Node.isImport = [true, false] ∧ InsertsImport p.dialect insert new ∧
      (p.edit insert).result.toOption = some 0 := by
  intro source insert
  have hreads : ((parse? (.ofPath "a.ts") source.toList).any fun p =>
      p.body.map Node.isImport == [true, false] && (p.edit insert).result.toOption == some 0 &&
        (parse? p.dialect "import c from 'c';".toList).any fun q =>
          q.body.map Node.isImport == [true]) = true := by
    decide +kernel
  obtain ⟨p, hp, hread⟩ := (Option.any_eq_true _ _).mp hreads
  simp only [Bool.and_eq_true, beq_iff_eq] at hread
  obtain ⟨⟨himports, hcount⟩, hc⟩ := hread
  obtain ⟨q, hq, hone⟩ := (Option.any_eq_true _ _).mp hc
  obtain ⟨new, hbody, hnew⟩ := List.map_eq_singleton_iff.mp (eq_of_beq hone)
  exact ⟨p, new, hp, himports, ⟨rfl, rfl, ⟨_, q, rfl, hq, hbody⟩, hnew⟩, hcount⟩

end Program

end SourceEdit.Script
