import SourceEdit.Proofs.Script.Elements.Reading
import SourceEdit.Proofs.Script.Elements.Writing

/-!
# Scripts of elements

A script whose statements are all elements is written as what spells it, and what spells it is read
as such a script.  An element is an operand of no operator there: what follows it is a semicolon, and
what stands before it shows no arrow function.
-/

namespace SourceEdit.Script

open Lexer (Gives IsMark IsNameStart endsName)

namespace Node

/-- Whether a node is an element or a fragment. -/
def isTagged (n : Node) : Bool :=
  match n.shape with
  | .element .. | .fragment => true
  | _ => false

variable {n : Node}

theorem markPure_of_isTagged (h : n.isTagged = true) : n.markPure = n := by
  obtain ⟨⟨shape, a, b⟩, parts⟩ := n
  cases shape <;> first | rfl | cases h

theorem markNoEffects_of_isTagged (h : n.isTagged = true) : n.markNoEffects = n := by
  obtain ⟨⟨shape, a, b⟩, parts⟩ := n
  cases shape <;> first | rfl | cases h

end Node

/-- The name of an element is a single word. -/
theorem Markup.firstWord_of_isTag {tag : Name} (h : isTag tag = true) :
    Lexer.firstWord tag = tag ∧ Lexer.afterFirstWord tag = [] := by
  obtain ⟨h, -⟩ := Bool.and_eq_true_iff.mp h
  obtain ⟨hname, hdash⟩ := Bool.and_eq_true_iff.mp h
  cases tag with
  | nil => cases hname
  | cons d ds =>
    have hpart : ∀ e ∈ ds, Lexer.isNamePart e = true := by
      intro e he
      have hne : e ≠ '-' := by
        rintro rfl
        simp [he] at hdash
      simpa [hne] using List.all_eq_true.mp (Bool.and_eq_true_iff.mp hname).2 e he
    rw [Lexer.firstWord, Lexer.afterFirstWord, List.takeWhile_eq_self_iff.mpr hpart,
      List.dropWhile_eq_nil_iff.mpr hpart]
    exact ⟨rfl, rfl⟩

theorem Markup.Spells.isTagged {e n : Node} {cs : List Char} (h : Spells .element [e] cs)
    (hn : n.shapes = e.shapes) : n.isTagged = true := by
  have hshape : n.shape = e.shape := by rw [← n.value_shapes, hn, e.value_shapes]
  rw [Node.isTagged, hshape]
  cases h <;> rfl

namespace Parser

variable {c : Surroundings} {spot spot' : Spot} {rest rest' : List Char}
  {parse : Goal → Parser Node} {P : Node → Prop}

/-! ### Operands -/

theorem unary_element (helements : c.dialect.elements = true)
    (hless : Gives spot.mode spot.text (IsMark .less rest)) (hP : ∀ n, P n → n.isTagged = true)
    (h : ReadsTo (parse (.element false)) c spot spot' P) : ReadsTo (unary parse) c spot spot' P := by
  refine .bind (.current hless) fun t ht => ?_
  have hoperand : ReadsTo (unaryOperand parse t) c spot spot' P := by
    unfold unaryOperand
    rw [ht.kind]
    refine .bind .hasElements fun b hb => ?_
    rw [hb, helements]
    exact h
  refine .bind hoperand fun n hn => ?_
  rw [Node.markPure_of_isTagged (hP n hn), ite_self]
  exact .pure hn

/-- No operator is continued by a semicolon. -/
theorem binaryStep_semicolon (hend : Gives spot.mode spot.text (IsMark .semicolon rest))
    (above : Precedence) (start : Nat) (n : Node) :
    ReadsTo (binaryStep parse above start n) c spot spot (· = (false, n)) := by
  refine .bind (.current hend) fun t ht => ?_
  have hgreater := ht.isPunct_of_ne (q := .greater) (by decide)
  simp only [hgreater, ht.kind, Token.isWord, Bool.false_eq_true, if_false]
  exact .pure rfl

theorem binary_element (hless : Gives spot.mode spot.text (IsMark .less rest))
    (hend : Gives spot'.mode spot'.text (IsMark .semicolon rest'))
    (h : ReadsTo (parse .unary) c spot spot' P) (above : Precedence) :
    ReadsTo (binary parse above) c spot spot' P := by
  refine .bind (.current hless) fun t ht => ?_
  rw [ht.kind]
  refine .bind .context fun context _ => .bind h fun n hn => ?_
  refine (ReadsTo.iterate (binaryStep_semicolon hend above _ n)).imp fun m hm => ?_
  exact hm ▸ hn

/-! ### Arrow functions -/

/-- After the name of an element nothing stands that would follow the first type parameter of an arrow
function. -/
theorem afterAngle_tag (helements : c.dialect.elements = true) {tag : Name} {more : List Char}
    (htag : Markup.isTag tag = true) (hmore : endsName more = true)
    (hnext : Gives .plain more fun t => staysInTag t.kind = true) :
    ∃ spot', ReadsTo afterAngle c ⟨.plain, tag ++ more⟩ spot' (· = .no) := by
  obtain ⟨hfirst, hafter⟩ := Markup.firstWord_of_isTag htag
  have hconst := (Bool.and_eq_true_iff.mp htag).2
  -- Whether a type parameter could have the name depends on the name alone.
  obtain ⟨isBound, hname⟩ : ∃ isBound, Gives .plain (tag ++ more) fun t =>
      t.isBindingName = isBound ∧ t.isWord .const_ = false ∧ t.rest = more ∧ t.escaped = false := by
    have hname := Lexer.gives_name (Markup.isDashedName_of_isTag htag) hmore
    cases hword : Word.ofName? tag with
    | none =>
      refine ⟨true, hname.imp fun t ht => ?_⟩
      have hkind := ht.kind
      rw [hfirst, hword] at hkind
      rw [Token.isBindingName, Token.isWord, hkind, ht.rest, hafter]
      exact ⟨rfl, rfl, rfl, ht.escaped⟩
    | some w =>
      refine ⟨!w.isReserved, hname.imp fun t ht => ?_⟩
      have hkind := ht.kind
      rw [hfirst, hword] at hkind
      rw [Token.isBindingName, Token.isWord, hkind, ht.rest, hafter]
      exact ⟨rfl, by simpa [hword] using hconst, rfl, ht.escaped⟩
  cases isBound with
  | false =>
    refine ⟨⟨.plain, tag ++ more⟩, .bind (.current hname) fun t ht => ?_⟩
    rw [ht.1, ht.2.1]
    exact .pure rfl
  | true =>
    refine ⟨⟨.plain, more⟩, .bind (.current hname) fun t ht => ?_⟩
    rw [ht.1, ht.2.1]
    refine .bind .hasElements fun b hb => ?_
    rw [hb, helements]
    refine .bind (.advance (hname.imp fun t ht => ht.2.2) (by simp)) fun _ _ => ?_
    refine .bind (.kind (Q := fun k => staysInTag k = true) hnext) fun k hk => ?_
    split
    · cases hk
    · cases hk
    · cases hk
    · exact .pure rfl

/-- An angle bracket that starts an element starts no arrow function. -/
theorem arrowFunction?_element (helements : c.dialect.elements = true) {ns : List Node}
    {cs : List Char} (hspelled : Markup.Spells .element ns cs)
    (hless : Gives spot.mode spot.text (IsMark .less (cs ++ rest)))
    (hlength : (cs ++ rest).length ≤ spot.text.length) (arrowResult : Bool) :
    ReadsTo (arrowFunction? parse arrowResult) c spot spot (· = none) := by
  have hopening : ∃ spot', ReadsTo afterAngle c ⟨.plain, cs ++ rest⟩ spot' (· = .no) := by
    obtain ⟨more, rfl⟩ | ⟨tag, more, rfl, htag, hends, hnext⟩ := hspelled.head_element rest
    · refine ⟨⟨.plain, '>' :: more ++ rest⟩, .bind (.current gives_greater) fun t ht => ?_⟩
      rw [Token.isBindingName, Token.isWord, ht.kind]
      exact .pure rfl
    · rw [List.append_assoc]
      exact afterAngle_tag helements htag hends hnext
  obtain ⟨spot', hopening⟩ := hopening
  have hlikelihood : ReadsTo arrowLikelihood c spot spot (· = .no) := by
    refine .lookAhead spot' ?_
    refine .bind (.kind (Q := (· = .punct .less)) (hless.imp fun t ht => ht.kind)) fun k hk => ?_
    subst hk
    refine .bind (.kind (Q := (· = .punct .less)) (hless.imp fun t ht => ht.kind)) fun k hk => ?_
    subst hk
    exact .bind (.advance (hless.imp fun t ht => ⟨ht.rest, ht.escaped⟩) hlength) fun _ _ => hopening
  refine .bind hlikelihood fun l hl => ?_
  subst hl
  exact .pure rfl

/-! ### Statements -/

/-- After an operand and before a semicolon an expression ends. -/
theorem plainAssignment_element (hless : Gives spot.mode spot.text (IsMark .less rest))
    (hend : Gives spot'.mode spot'.text (IsMark .semicolon rest'))
    (hP : ∀ n, P n → n.isTagged = true) (h : ReadsTo (parse (.binary .comma)) c spot spot' P)
    (arrowResult : Bool) : ReadsTo (plainAssignment parse arrowResult) c spot spot' P := by
  refine .bind (.current hless) fun first _ => .bind h fun n hn => ?_
  refine .bind (.current hend) fun t ht => ?_
  have hgreater := ht.isPunct_of_ne (q := .greater) (by decide)
  have harrow := ht.isPunct_of_ne (q := .arrow) (by decide)
  simp only [hgreater, harrow, ht.kind, Bool.false_eq_true, if_false, Bool.false_and]
  have hrest : ReadsTo (conditionalRest parse first.start n arrowResult) c spot' spot' (· = n) := by
    refine .bind (.eat_miss (hend.imp fun t ht => ht.isPunct_of_ne (by decide))) fun b hb => ?_
    subst hb
    exact .pure rfl
  refine .bind hrest fun m hm => ?_
  subst hm
  rw [Node.markPure_of_isTagged (hP m hn), ite_self, Node.markNoEffects_of_isTagged (hP m hn),
    ite_self]
  exact .pure hn

theorem assignment_element (hless : Gives spot.mode spot.text (IsMark .less rest))
    {arrowResult : Bool}
    (harrow : ∀ c' : Surroundings, c'.dialect = c.dialect →
      ReadsTo (arrowFunction? parse arrowResult) c' spot spot (· = none))
    (h : ∀ c' : Surroundings, c'.dialect = c.dialect →
      ReadsTo (plainAssignment parse arrowResult) c' spot spot' P) :
    ReadsTo (assignment parse arrowResult) c spot spot' P := by
  have hword (w : Word) : Gives spot.mode spot.text fun t => t.isWord w = false :=
    hless.imp fun t ht => by rw [Token.isWord, ht.kind]; rfl
  have hyield (c' : Surroundings) : ReadsTo startsYield c' spot spot (· = false) := by
    refine .bind (.isAtWord (hword .yield_)) fun b hb => ?_
    subst hb
    exact .pure rfl
  have hasync (c' : Surroundings) : ReadsTo (asyncArrow? parse arrowResult) c' spot spot
      (· = none) := by
    have hname : ReadsTo startsAsyncName c' spot spot (· = false) := by
      refine .bind (.isAtWord (hword .async_)) fun b hb => ?_
      subst hb
      exact .pure rfl
    refine .bind hname fun b hb => ?_
    subst hb
    exact .pure rfl
  refine .within (.bind (hyield _) fun b hb => ?_)
  subst hb
  refine .bind (harrow _ rfl) fun o ho => ?_
  subst ho
  refine .bind (hasync _) fun o ho => ?_
  subst ho
  exact h _ rfl

/-- A statement ends with a semicolon. -/
theorem endStatement_semicolon :
    ReadsTo endStatement c ⟨.plain, ';' :: rest⟩ ⟨.plain, rest⟩ fun _ => True := by
  refine .bind (.eat (Lexer.starts_semicolon.plain rfl) (by simp)) fun b hb => ?_
  subst hb
  exact .pure trivial

/-- An element before a semicolon is read as an expression. -/
theorem expression_element (helements : c.dialect.elements = true) {e : Node} {cs : List Char}
    (hspelled : Markup.Spells .element [e] cs)
    (hless : Gives spot.mode spot.text (IsMark .less (cs ++ rest)))
    (hlength : (cs ++ rest).length ≤ spot.text.length)
    (hend : Gives .plain rest (IsMark .semicolon rest')) {d : Nat} (hd : cs.length < d) :
    ReadsTo (run (d + 4) .expression) c spot ⟨.plain, rest⟩ (·.shapes = e.shapes) := by
  have htagged (n : Node) (hn : n.shapes = e.shapes) : n.isTagged = true := hspelled.isTagged hn
  have helement (c' : Surroundings) : ReadsTo (run d (.element false)) c' spot ⟨.plain, rest⟩
      (·.shapes = e.shapes) :=
    (hspelled.reads d spot rest false hd hless hlength).imp fun n hn => (List.cons.inj hn).1
  have hbinary (c' : Surroundings) (hc : c'.dialect = c.dialect) :
      ReadsTo (run (d + 2) (.binary .comma)) c' spot ⟨.plain, rest⟩ (·.shapes = e.shapes) :=
    binary_element hless hend (unary_element (hc ▸ helements) hless htagged (helement c')) .comma
  have hassignment : ReadsTo (run (d + 3) (.assignment true)) c spot ⟨.plain, rest⟩
      (·.shapes = e.shapes) :=
    assignment_element hless
      (fun c' hc => arrowFunction?_element (hc ▸ helements) hspelled hless hlength true)
      fun c' hc => plainAssignment_element hless hend htagged (hbinary c' hc) true
  refine .bind .here fun start _ => .bind hassignment fun first hfirst => ?_
  have hothers : ReadsTo (collect do
      if ← eat .comma then return some (← run (d + 3) (.assignment true)) else return none) c
      ⟨.plain, rest⟩ ⟨.plain, rest⟩ (· = []) := by
    refine .collect (.collectUpTo_nil ?_ _)
    refine .bind (.eat_miss (hend.imp fun t ht => ht.isPunct_of_ne (by decide))) fun b hb => ?_
    subst hb
    exact .pure rfl
  refine .bind hothers fun others ho => ?_
  subst ho
  exact .pure hfirst

/-- An element with a semicolon after it is read as a statement. -/
theorem statement_element (helements : c.dialect.elements = true) {e : Node} {cs : List Char}
    (hspelled : Markup.Spells .element [e] cs)
    (hless : Gives spot.mode spot.text (IsMark .less (cs ++ ';' :: rest)))
    (hlength : (cs ++ ';' :: rest).length ≤ spot.text.length) {d : Nat} (hd : cs.length < d) :
    ReadsTo (run (d + 5) (.statement .list)) c spot ⟨.plain, rest⟩
      (·.shapes = .node .expressionStatement [e.shapes]) := by
  have hend : Gives .plain (';' :: rest) (IsMark .semicolon rest) := Lexer.starts_semicolon.plain rfl
  -- an element is no label, since it is no name
  have hlabel : ReadsTo (expressionOrLabel (run (d + 4))) c spot ⟨.plain, rest⟩
      (·.shapes = .node .expressionStatement [e.shapes]) := by
    refine .bind .here fun start _ => ?_
    refine .bind (expression_element helements hspelled hless hlength hend hd) fun n hn => ?_
    split
    · next heq =>
      have htagged := hspelled.isTagged hn
      rw [Node.isTagged, Node.shape, heq] at htagged
      cases htagged
    · refine .bind endStatement_semicolon fun _ _ => (ReadsTo.finish _ _ _).imp fun m hm => ?_
      obtain ⟨stop, rfl⟩ := hm
      simp [Node.ofShape, hn]
  have hplain : ReadsTo (plainStatement (run (d + 4)) .list) c spot ⟨.plain, rest⟩
      (·.shapes = .node .expressionStatement [e.shapes]) := by
    refine .bind .here fun start _ => ?_
    refine .bind (.kind (Q := (· = .punct .less)) (hless.imp fun t ht => ht.kind)) fun k hk => ?_
    subst hk
    exact hlabel
  refine .bind (.current hless) fun t _ => .bind hplain fun n hn => ?_
  have hmarked : n.markStatementNoEffects = n := by
    obtain ⟨⟨shape, a, b⟩, parts⟩ := n
    obtain rfl : shape = .expressionStatement := (Tree.node.inj hn).1
    rfl
  rw [hmarked, ite_self]
  exact .pure hn

end Parser

end SourceEdit.Script
