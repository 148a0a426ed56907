import SourceEdit.Proofs.Script.Elements.Statements

/-!
# Scripts of elements, read and written

A script whose statements are elements is written as what spells it, and reading that again gives
the same script, up to the places of its parts.
-/

namespace SourceEdit.Script

open Lexer (Gives IsMark)

namespace Parser

open SourceEdit.Script.Markup (SpellsStatements)

variable {c : Surroundings} {ns : List Node} {cs rest : List Char}

/-- What a text that starts with an element gives, at the start of a script or of another line. -/
theorem gives_less_of_line {spot : Spot} (h : Lexer.partsLess cs = true) (hmode : spot.mode = .plain)
    (htext : spot.text = '<' :: cs ∨ spot.text = '\n' :: '<' :: cs) :
    Gives spot.mode spot.text (IsMark .less cs) := by
  have hstarts := Lexer.starts_less_of_partsLess h
  have htoken := Lexer.startsToken_less h
  rw [hmode]
  obtain htext | htext := htext <;> rw [htext]
  · exact hstarts.plain htoken
  · exact hstarts.after_newLine htoken

/-- The step of a list of statements up to the end of the text. -/
def statement? (parse : Goal → Parser Node) : Parser (Option (Option (List Char) × Node)) := do
  let t ← current
  if t.kind == .endOfText then return none
  let n ← parse (.statement .list)
  return some (if t.isString then some t.text else none, n)

theorem statements_reads (helements : c.dialect.elements = true) (h : SpellsStatements ns cs)
    {d k : Nat} (hd : cs.length < d) (hk : cs.length < k) {spot : Spot} (hmode : spot.mode = .plain)
    (htext : spot.text = cs ∨ spot.text = '\n' :: cs) :
    ∃ spot', ReadsTo (collectUpTo (statement? (run (d + 5))) k) c spot spot'
      fun items => items.map (fun i => (i.1, i.2.shapes)) = ns.map fun n => (none, n.shapes) := by
  induction h generalizing k spot with
  | nil =>
    obtain ⟨k, rfl⟩ : ∃ k', k = k' + 1 := ⟨k - 1, by omega⟩
    have hend : Gives spot.mode spot.text fun t => t.kind = .endOfText := by
      rw [hmode]
      obtain htext | htext := htext <;> rw [htext]
      · exact Lexer.starts_end.plain rfl
      · exact Lexer.starts_end.after_newLine rfl
    refine ⟨spot, (ReadsTo.collectUpTo_nil (.bind (.current hend) fun t ht => ?_) k).imp
      fun items hitems => ?_⟩
    · rw [ht]
      exact .pure rfl
    · rw [hitems]
      rfl
  | @cons e a b rest cs ds he _ ih =>
    simp only [List.length_append, List.length_cons] at hd hk
    obtain ⟨k, rfl⟩ : ∃ k', k = k' + 1 := ⟨k - 1, by omega⟩
    have hline : (Spot.mk .plain ('\n' :: ds)).mode = .plain := rfl
    obtain ⟨spot', hrest⟩ := ih (k := k) (by omega) (by omega) hline (.inr rfl)
    have hless := gives_less_of_line (he.partsLess (';' :: '\n' :: ds)) hmode (by simpa using htext)
    have hlength : (cs ++ ';' :: '\n' :: ds).length ≤ spot.text.length := by
      obtain htext | htext := htext <;>
      · simp only [htext, List.length_append, List.length_cons]
        omega
    -- an element before a semicolon is a statement, and no directive
    have hfirst : ReadsTo (statement? (run (d + 5))) c spot ⟨.plain, '\n' :: ds⟩
        fun o => ∃ i, o = some i ∧
          i.1 = none ∧ i.2.shapes = .node .expressionStatement [e.shapes] := by
      refine .bind (.current hless) fun t ht => ?_
      have hstring : t.isString = false := by rw [Token.isString, ht.kind]; rfl
      rw [ht.kind, hstring]
      refine .bind (statement_element helements he hless hlength (by omega)) fun n hn => ?_
      exact .pure ⟨_, rfl, rfl, hn⟩
    refine ⟨spot', (ReadsTo.collectUpTo_cons hfirst hrest).imp fun items hitems => ?_⟩
    obtain ⟨i, is, rfl, ⟨hnone, hshapes⟩, hrest⟩ := hitems
    simp [hnone, hshapes, hrest]

theorem splitDirectives_of_none {items : List (Option (List Char) × Node)}
    (h : ∀ i ∈ items, i.1 = none) : splitDirectives items = ([], items.map (·.2)) := by
  cases items with
  | nil => rfl
  | cons i rest =>
    obtain ⟨raw, n⟩ := i
    obtain rfl : raw = none := (List.forall_mem_cons.mp h).1
    rfl

/-- A script of elements is read up to its end; none of its statements is a directive. -/
theorem statementsUntil_reads (helements : c.dialect.elements = true) (h : SpellsStatements ns cs)
    {d : Nat} (hd : cs.length < d) (hbound : cs.length < c.bound) :
    ∃ spot', ReadsTo (statementsUntil (run (d + 5)) (·.kind == .endOfText)) c ⟨.plain, cs⟩ spot'
      fun r => r.1 = [] ∧ r.2.map Node.shapes = ns.map Node.shapes := by
  have hk : cs.length < c.bound + 1 := by omega
  have hmode : (Spot.mk .plain cs).mode = .plain := rfl
  obtain ⟨spot', hitems⟩ := statements_reads helements h hd hk hmode (.inl rfl)
  refine ⟨spot', .bind (.collect hitems) fun items hitems => .pure ?_⟩
  have hnone : ∀ i ∈ items, i.1 = none := by
    intro i hi
    have hmem : (i.1, i.2.shapes) ∈ ns.map fun n => ((none : Option (List Char)), n.shapes) :=
      hitems ▸ List.mem_map_of_mem hi
    obtain ⟨n, -, hn⟩ := List.mem_map.mp hmem
    exact (Prod.mk.inj hn).1.symm
  have hshapes := congrArg (List.map Prod.snd) hitems
  simp only [List.map_map, Function.comp_def] at hshapes
  rw [splitDirectives_of_none hnone]
  exact ⟨rfl, by rw [List.map_map]; exact hshapes⟩

end Parser

namespace Program

variable {p : Program} {cs : List Char}

/-- A text spells a script of elements without comments. -/
structure IsSpelledBy (p : Program) (cs : List Char) : Prop where
  comments : p.comments = []
  root : ∃ (a b : Nat) (directives statements : Head) (items : List Node), p.root =
    .node ⟨.program none, a, b⟩ [.node directives [], .node statements items] ∧
      directives.shape = .group ∧ statements.shape = .statements ∧
      Markup.SpellsStatements items cs

theorem interpreterLine_of_spells {items : List Node} (h : Markup.SpellsStatements items cs) :
    interpreterLine cs = (none, ⟨cs, 0⟩) := by
  cases h <;> rfl

/-- Every dialect with elements reads a script back from what spells it. -/
theorem IsSpelledBy.parse? (h : p.IsSpelledBy cs) {dialect : Dialect}
    (helements : dialect.elements = true) :
    ∃ q, parse? dialect cs = some q ∧ q.root.shapes = p.root.shapes := by
  obtain ⟨a, b, directives, statements, items, hroot, hdirectives, hstatements, hspells⟩ := h.root
  have hat : Parser.At (Parser.surroundings dialect (cs.length + 1)) ⟨.plain, cs⟩
      (Parser.beginning dialect (cs.length + 1) ⟨cs, 0⟩) :=
    ⟨⟨0, {}, rfl⟩, Nat.lt_succ_self _⟩
  obtain ⟨spot', hreads⟩ := Parser.statementsUntil_reads
    (c := Parser.surroundings dialect (cs.length + 1)) (d := 16 * (cs.length + 1) + 59) helements
    hspells (by omega) (Nat.lt_succ_self _)
  obtain ⟨⟨directives', statements'⟩, s', hrun, -, hfailed, hscript, hnone, hshapes⟩ := hreads _ hat
  obtain rfl : directives' = [] := hnone
  have hstart : Parser.start dialect ⟨cs, 0⟩
      (fun parse => Parser.statementsUntil parse (·.kind == .endOfText)) =
      some (([], statements'), s') := hrun
  have hroot' : (Node.ofShape (.program none) 0 s'.token.stop
      [.group [], .statements statements']).shapes = p.root.shapes := by
    rw [hroot]
    simp [Node.ofShape, Node.group, Node.statements, hdirectives, hstatements, hshapes]
  have hpattern : holdsPatternPart p.root = false := by
    rw [hroot, holdsPatternPart]
    simp [Node.anyShape, Node.anyShapeOf, hdirectives, hstatements, hspells.anyShape]
  -- nothing that has been read speaks against the dialect
  have hfine : (s'.failed || (s'.failedAsScript &&
      (settle dialect s'.isModule).loading == .script) || holdsPatternPart (Node.ofShape
        (.program none) 0 s'.token.stop [.group [], .statements statements'])) = false := by
    rw [hfailed, hscript, holdsPatternPart, Node.anyShape_eq_of_shapes _ hroot']
    exact Bool.or_eq_false_iff.mpr ⟨rfl, hpattern⟩
  refine ⟨⟨_, s'.trivia.comments, settle dialect s'.isModule⟩, ?_, hroot'⟩
  simp only [Program.parse?, interpreterLine_of_spells hspells]
  rw [hstart]
  simp only [Option.bind_eq_bind, Option.bind_some]
  rw [hfine]
  rfl

/-! ### Writing -/

theorem writes_statements {items : List Node} (h : Markup.SpellsStatements items cs) {d : Nat}
    (hd : Tree.sizeAll items ≤ d) :
    Printer.Writes (Printer.statements (Printer.emitTask d) items) cs := by
  induction h with
  | nil => exact .each_nil _
  | @cons e a b rest cs ds he _ ih =>
    simp only [Tree.sizeAll, Tree.size] at hd ih
    obtain ⟨d, rfl⟩ : ∃ d', d = d' + 1 := ⟨d - 1, by omega⟩
    have hexpression := he.isWritten d .lowest {} (by simp only [Tree.sizeAll]; omega) e
      List.mem_cons_self
    have hstatement : Printer.Writes (Printer.emitTask (d + 1) (.statement
        (.node ⟨.expressionStatement, a, b⟩ [e]))) ('<' :: cs ++ [';', '\n']) := by
      have hmark : Printer.Writes (modify fun o => { o with statementStart := o.length }) [] :=
        fun _ _ ho => ⟨⟨ho.comments, ho.depth, ho.noBlank⟩, rfl⟩
      have hrest := hmark.append (hexpression.append (.puts [';', '\n']))
      exact Printer.Writes.none.append ((Printer.Writes.commentsAt a).append
        (Printer.Writes.indent.append hrest))
    exact .of_eq (.each_cons hstatement (ih (by omega))) (by simp)

/-- No element is a string, which would be written between parentheses. -/
theorem writes_directivesAndStatements {emit : Task → Printer Unit} {items : List Node}
    (hspells : Markup.SpellsStatements items cs)
    (h : Printer.Writes (Printer.statements emit items) cs) :
    Printer.Writes (Printer.directivesAndStatements emit [] items) cs := by
  cases hspells with
  | nil => exact Printer.Writes.none.append h
  | cons he _ => cases he <;> exact Printer.Writes.none.append h

/-- A script is written as what spells it. -/
theorem IsSpelledBy.text (h : p.IsSpelledBy cs) (quote : Char) : p.text quote = cs := by
  obtain ⟨a, b, directives, statements, items, hroot, -, -, hspells⟩ := h.root
  have hcomments := h.comments
  obtain ⟨root, comments, dialect⟩ := p
  subst hroot hcomments
  let depth := 2 * Tree.size (.node (Head.mk (.program none) a b)
    [.node directives [], .node statements items]) + 8
  have hdepth : Tree.sizeAll items ≤ depth := by
    simp only [depth, Tree.size, Tree.sizeAll]
    omega
  have hitems := writes_directivesAndStatements hspells (writes_statements hspells hdepth)
  have hscript := (Printer.Writes.commentsAt 0).append
    (Printer.Writes.none.append (hitems.append (Printer.Writes.commentsAt b)))
  have hrun := (hscript { quote, elements := dialect.elements } {} ⟨rfl, rfl, rfl⟩).2
  rw [List.append_nil, List.nil_append, List.nil_append, List.append_nil] at hrun
  exact (congrArg List.reverse hrun).trans (List.reverse_reverse cs)

end Program

end SourceEdit.Script
