import SourceEdit.Proofs.Script.Elements.Tags

/-!
# Reading elements

What spells an element is read as that element, before any text: by induction on how it is spelled,
with one parser for each kind of markup.
-/

namespace SourceEdit.Script

open Lexer (Gives IsMark IsNameStart isDashedName endsName)

namespace Markup

open SourceEdit.Script.Parser (ReadsTo run collectUpTo child? attribute? modeAfter staysInTag)

variable {c : Surroundings} {ns : List Node} {cs after rest : List Char}

/-- A text starts with the end of a tag. -/
inductive EndsTag : List Char → Prop
  | greater (rest : List Char) : EndsTag ('>' :: rest)
  | slash (rest : List Char) : EndsTag (' ' :: '/' :: '>' :: rest)

theorem EndsTag.endsName (h : EndsTag after) : endsName after = true := by
  cases h <;> rfl

/-- The mark that a tag ends with. -/
theorem EndsTag.gives (h : EndsTag after) : ∃ punct rest, punct ≠ .braceOpen ∧
    (punct = .greater ∨ punct = .slash) ∧ Gives .plain after (IsMark punct rest) := by
  cases h with
  | greater rest => exact ⟨.greater, rest, by decide, .inl rfl, Lexer.starts_greater.plain rfl⟩
  | slash rest =>
    have hslash : Gives .plain (' ' :: '/' :: '>' :: rest) (IsMark .slash ('>' :: rest)) :=
      (Lexer.starts_slash (by simp)).after_blank rfl
    exact ⟨.slash, '>' :: rest, by decide, .inr rfl, hslash⟩

theorem EndsTag.gives_staysInTag (h : EndsTag after) :
    Gives .plain after fun t => staysInTag t.kind = true := by
  obtain ⟨punct, rest, -, hpunct, hgives⟩ := h.gives
  refine hgives.imp fun t ht => ?_
  rw [ht.kind]
  obtain rfl | rfl := hpunct <;> rfl

theorem Spells.endsName_attributes (h : Spells .attributes ns cs) (hafter : EndsTag after) :
    endsName (cs ++ after) = true := by
  cases h with
  | noAttributes => exact hafter.endsName
  | flag | quoted | holding => rfl

theorem staysInTag_of_isAttributeName {name : Name} (hname : isAttributeName name = true) {t : Token}
    (ht : IsNameStart name rest t) : staysInTag t.kind = true := by
  have hextends := (Bool.and_eq_true_iff.mp hname).2
  rw [ht.kind]
  cases hword : Word.ofName? (Lexer.firstWord name) with
  | none => rfl
  | some w => simpa [staysInTag, hword] using hextends

theorem Spells.staysInTag_attributes (h : Spells .attributes ns cs) (hafter : EndsTag after) :
    Gives .plain (cs ++ after) fun t => staysInTag t.kind = true := by
  have hstep {name : Name} {more : List Char} (hname : isAttributeName name = true)
      (hmore : endsName more = true) :
      Gives .plain (' ' :: name ++ more) fun t => staysInTag t.kind = true :=
    (Lexer.gives_name_after_blank (Bool.and_eq_true_iff.mp hname).1 hmore).imp fun t ht =>
      staysInTag_of_isAttributeName hname ht
  cases h with
  | noAttributes => exact hafter.gives_staysInTag
  | flag hname _ hrest =>
    rw [List.append_assoc]
    exact hstep hname (hrest.endsName_attributes hafter)
  | quoted hname _ _ | holding hname _ _ =>
    simp only [List.append_assoc, List.cons_append]
    exact hstep hname rfl

theorem isDashedName_of_isTag {tag : Name} (h : isTag tag = true) : isDashedName tag = true :=
  (Bool.and_eq_true_iff.mp (Bool.and_eq_true_iff.mp h).1).1

theorem isDashedName_of_isAttributeName {name : Name} (h : isAttributeName name = true) :
    isDashedName name = true :=
  (Bool.and_eq_true_iff.mp h).1

/-- What spells an element starts with the end of its tag, or with its name, after which the tag goes
on. -/
theorem Spells.head_element (h : Spells .element ns cs) (rest : List Char) :
    (∃ more, cs = '>' :: more) ∨
    ∃ tag more, cs = tag ++ more ∧ isTag tag = true ∧ endsName (more ++ rest) = true ∧
      Gives .plain (more ++ rest) fun t => staysInTag t.kind = true := by
  cases h with
  | @element tag a b absent group children attributes items cs ds htag _ _ _ hattributes _ =>
    have hends := EndsTag.greater (ds ++ '<' :: '/' :: tag ++ ['>'] ++ rest)
    refine .inr ⟨tag, cs ++ '>' :: ds ++ '<' :: '/' :: tag ++ ['>'], ?_, htag, ?_, ?_⟩
    · simp
    · simpa using hattributes.endsName_attributes hends
    · simpa using hattributes.staysInTag_attributes hends
  | @closed tag a b absent group children attributes cs htag _ _ _ hattributes =>
    have hends := EndsTag.slash rest
    refine .inr ⟨tag, cs ++ [' ', '/', '>'], ?_, htag, ?_, ?_⟩
    · simp
    · simpa using hattributes.endsName_attributes hends
    · simpa using hattributes.staysInTag_attributes hends
  | fragment => exact .inl ⟨_, rfl⟩

/-! ### Whole elements -/

/-- What reads a kind of markup gives the nodes that are spelled, up to their places. -/
def Reads (c : Surroundings) : Kind → List Node → List Char → Prop
  | .element, ns, cs => ∀ d spot rest inContent, cs.length < d →
      Gives spot.mode spot.text (IsMark .less (cs ++ rest)) →
      (cs ++ rest).length ≤ spot.text.length →
      ReadsTo (run d (.element inContent)) c spot ⟨modeAfter inContent, rest⟩
        fun n => [n.shapes] = ns.map Node.shapes
  | .content, ns, cs => ∀ d k rest, cs.length ≤ d → cs.length < k →
      Gives .plain ('/' :: rest) (IsMark .slash rest) →
      ReadsTo (collectUpTo (child? (run d)) k) c ⟨.elementContent, cs ++ '<' :: '/' :: rest⟩
        ⟨.elementContent, '<' :: '/' :: rest⟩ fun items => items.map Node.shapes = ns.map Node.shapes
  | .attributes, ns, cs => ∀ d k after, cs.length ≤ d → cs.length < k → EndsTag after →
      ReadsTo (collectUpTo (attribute? (run d)) k) c ⟨.plain, cs ++ after⟩ ⟨.plain, after⟩
        fun items => items.map Node.shapes = ns.map Node.shapes

/-- One more attribute is read before the others. -/
theorem reads_attribute {n : Node} {ds : List Char} {d k : Nat} (hrest : Reads c .attributes ns ds)
    (hd : (cs ++ ds).length ≤ d) (hk : (cs ++ ds).length < k) (hcs : cs ≠ []) (hafter : EndsTag after)
    (hstep : ReadsTo (attribute? (run d)) c ⟨.plain, cs ++ (ds ++ after)⟩ ⟨.plain, ds ++ after⟩
      fun o => ∃ a, o = some a ∧ a.shapes = n.shapes) :
    ReadsTo (collectUpTo (attribute? (run d)) k) c ⟨.plain, cs ++ ds ++ after⟩ ⟨.plain, after⟩
      fun items => items.map Node.shapes = (n :: ns).map Node.shapes := by
  have hlength : 0 < cs.length := List.length_pos_iff.mpr hcs
  rw [List.length_append] at hd hk
  obtain ⟨k, rfl⟩ : ∃ k', k = k' + 1 := ⟨k - 1, by omega⟩
  rw [List.append_assoc]
  refine (ReadsTo.collectUpTo_cons hstep (hrest d k after (by omega) (by omega) hafter)).imp
    fun items hitems => ?_
  obtain ⟨a, as, rfl, ha, has⟩ := hitems
  simp [ha, has]

/-- What stands between tags and does not start with a text starts with a tag, and the closing tag
follows it. -/
theorem Spells.starts_content (h : Spells .content ns cs)
    (hns : ∀ other n, ns.head? = some n → n.shape ≠ .elementText other) (rest : List Char) :
    ∃ more, cs ++ '<' :: rest = '<' :: more := by
  cases h with
  | noContent => exact ⟨rest, rfl⟩
  | text => exact (hns _ _ rfl rfl).elim
  | child => exact ⟨_, rfl⟩

/-- One more child is read before the others. -/
theorem reads_child {n : Node} {ds : List Char} {d k : Nat} (hrest : Reads c .content ns ds)
    (hd : (cs ++ ds).length ≤ d) (hk : (cs ++ ds).length < k) (hcs : cs ≠ [])
    (hslash : Gives .plain ('/' :: rest) (IsMark .slash rest))
    (hstep : ReadsTo (child? (run d)) c ⟨.elementContent, cs ++ (ds ++ '<' :: '/' :: rest)⟩
      ⟨.elementContent, ds ++ '<' :: '/' :: rest⟩ fun o => ∃ a, o = some a ∧ a.shapes = n.shapes) :
    ReadsTo (collectUpTo (child? (run d)) k) c ⟨.elementContent, cs ++ ds ++ '<' :: '/' :: rest⟩
      ⟨.elementContent, '<' :: '/' :: rest⟩
      fun items => items.map Node.shapes = (n :: ns).map Node.shapes := by
  have hlength : 0 < cs.length := List.length_pos_iff.mpr hcs
  rw [List.length_append] at hd hk
  obtain ⟨k, rfl⟩ : ∃ k', k = k' + 1 := ⟨k - 1, by omega⟩
  rw [List.append_assoc]
  refine (ReadsTo.collectUpTo_cons hstep (hrest d k rest (by omega) (by omega) hslash)).imp
    fun items hitems => ?_
  obtain ⟨a, as, rfl, ha, has⟩ := hitems
  simp [ha, has]

theorem gives_eq_quoted (raw rest : List Char) :
    Gives .plain ('=' :: (quoted raw ++ rest)) (IsMark .eq (quoted raw ++ rest)) := by
  unfold quoted
  refine Lexer.gives_eq ?_
  split <;> decide

theorem Spells.partsLess (h : Spells .element ns cs) (rest : List Char) :
    Lexer.partsLess (cs ++ rest) = true := by
  obtain ⟨more, rfl⟩ | ⟨tag, more, rfl, htag, -⟩ := h.head_element rest
  · rfl
  · rw [List.append_assoc]
    exact Lexer.partsLess_name (isDashedName_of_isTag htag)

/-- The angle bracket of an element, in any mode. -/
theorem Spells.gives_less (h : Spells .element ns cs) (mode : Lexer.Mode) (rest : List Char) :
    Gives mode ('<' :: (cs ++ rest)) (IsMark .less (cs ++ rest)) :=
  Lexer.gives_less (h.partsLess rest) mode

/-- No element starts like a closing tag. -/
theorem Spells.gives_not_slash (h : Spells .element ns cs) (rest : List Char) :
    Gives .plain (cs ++ rest) fun t => t.isPunct .slash = false := by
  obtain ⟨more, rfl⟩ | ⟨tag, more, rfl, htag, hends, -⟩ := h.head_element rest
  · exact Parser.gives_greater.imp fun t ht => ht.isPunct_of_ne (by decide)
  · rw [List.append_assoc]
    exact (Lexer.gives_name (isDashedName_of_isTag htag) hends).imp fun t ht => ht.isPunct _

/-- All that stands between tags is read, up to the closing tag. -/
theorem reads_children {d : Nat} (h : Reads c .content ns cs) (hd : cs.length ≤ d)
    (hslash : Gives .plain ('/' :: rest) (IsMark .slash rest)) :
    ReadsTo (Parser.children (run d)) c ⟨.elementContent, cs ++ '<' :: '/' :: rest⟩
      ⟨.elementContent, '<' :: '/' :: rest⟩
      fun items => items.map Node.shapes = ns.map Node.shapes := by
  rw [Parser.children_eq]
  refine .of_bound fun hbound => .collect (h d _ rest hd ?_ hslash)
  simp only [List.length_append] at hbound
  omega

/-- All attributes of an element are read. -/
theorem reads_attributes {d : Nat} (h : Reads c .attributes ns cs) (hd : cs.length ≤ d)
    (hafter : EndsTag after) :
    ReadsTo (Parser.collect (attribute? (run d))) c ⟨.plain, cs ++ after⟩ ⟨.plain, after⟩
      fun items => items.map Node.shapes = ns.map Node.shapes := by
  refine .of_bound fun hbound => .collect (h d _ after hd ?_ hafter)
  simp only [List.length_append] at hbound
  omega

/-! ### Kinds of markup

Every tag takes characters of the text, so the length of a text is enough for the depth and for the
loops.
-/

section Kinds

variable {a b : Nat} {absent group children : Head} {attributes items : List Node}
  {n : Node} {tag name raw ds : List Char}

theorem reads_element (htag : isTag tag = true) (habsent : absent.shape = .absent)
    (hgroup : group.shape = .group) (hchildren : children.shape = .children)
    (hattributes : Spells .attributes attributes cs) (ihattributes : Reads c .attributes attributes cs)
    (ihitems : Reads c .content items ds) :
    Reads c .element [.node ⟨.element tag false, a, b⟩
        [.node absent [], .node group attributes, .node children items]]
      (tag ++ cs ++ '>' :: ds ++ '<' :: '/' :: tag ++ ['>']) := by
  intro d spot rest inContent hd hless hlength
  simp only [List.length_append, List.length_cons] at hd
  obtain ⟨d, rfl⟩ : ∃ d', d = d' + 1 := ⟨d - 1, by omega⟩
  have hname := isDashedName_of_isTag htag
  have hends := EndsTag.greater (ds ++ ('<' :: '/' :: tag ++ '>' :: rest))
  have hslash : Gives .plain ('/' :: tag ++ '>' :: rest) (IsMark .slash (tag ++ '>' :: rest)) :=
    Lexer.gives_slash_name hname
  have hitems := reads_children (d := d) ihitems (by omega) hslash
  refine Parser.element_tagged hname (hattributes.endsName_attributes hends) (by simpa using hless)
    (by simpa using hlength) (hattributes.staysInTag_attributes hends)
    fun start arguments harguments => ?_
  refine .bind (reads_attributes ihattributes (by omega) hends) fun items hitems' => ?_
  refine (Parser.elementRest_open hname rfl hitems).imp fun n hn => ?_
  simp [hn, harguments, hitems', habsent, hgroup, hchildren]

theorem reads_closed (htag : isTag tag = true) (habsent : absent.shape = .absent)
    (hgroup : group.shape = .group) (hchildren : children.shape = .children)
    (hattributes : Spells .attributes attributes cs) (ih : Reads c .attributes attributes cs) :
    Reads c .element [.node ⟨.element tag true, a, b⟩
        [.node absent [], .node group attributes, .node children []]]
      (tag ++ cs ++ [' ', '/', '>']) := by
  intro d spot rest inContent hd hless hlength
  simp only [List.length_append, List.length_cons] at hd
  obtain ⟨d, rfl⟩ : ∃ d', d = d' + 1 := ⟨d - 1, by omega⟩
  have hends := EndsTag.slash rest
  refine Parser.element_tagged (isDashedName_of_isTag htag) (hattributes.endsName_attributes hends)
    (by simpa using hless) (by simpa using hlength) (hattributes.staysInTag_attributes hends)
    fun start arguments harguments => ?_
  refine .bind (reads_attributes ih (by omega) hends) fun items hitems => ?_
  refine Parser.elementRest_closed.imp fun n hn => ?_
  simp [hn, harguments, hitems, habsent, hgroup, hchildren]

theorem reads_fragment (hchildren : children.shape = .children) (ih : Reads c .content items ds) :
    Reads c .element [.node ⟨.fragment, a, b⟩ [.node children items]]
      ('>' :: ds ++ ['<', '/', '>']) := by
  intro d spot rest inContent hd hless hlength
  simp only [List.length_append, List.length_cons] at hd
  obtain ⟨d, rfl⟩ : ∃ d', d = d' + 1 := ⟨d - 1, by omega⟩
  have hslash : Gives .plain ('/' :: '>' :: rest) (IsMark .slash ('>' :: rest)) :=
    (Lexer.starts_slash (by simp)).plain rfl
  have hitems := reads_children (c := c) (d := d) ih (by omega) hslash
  refine (Parser.element_fragment (by simpa using hless) (by simpa using hlength) hitems
    inContent).imp fun n hn => ?_
  simp [hn, hchildren]

theorem reads_noContent : Reads c .content [] [] := by
  intro d k rest hd hk hslash
  obtain ⟨k, rfl⟩ : ∃ k', k = k' + 1 := ⟨k - 1, by omega⟩
  refine (ReadsTo.collectUpTo_nil (Parser.child?_none rfl rfl hslash) k).imp fun items hitems => ?_
  rw [hitems]

/-- An element among others is read from its angle bracket on. -/
theorem reads_childElement (hn : Spells .element [n] cs) (ihn : Reads c .element [n] cs)
    (ih : Reads c .content ns ds) : Reads c .content (n :: ns) ('<' :: cs ++ ds) := by
  intro d k rest hd hk hslash
  refine reads_child ih hd hk (List.cons_ne_nil _ _) hslash ?_
  have hless := hn.gives_less .elementContent (ds ++ '<' :: '/' :: rest)
  have hshort : cs.length < d := by
    simp only [List.length_append, List.length_cons] at hd
    omega
  have helement := ihn d ⟨.elementContent, '<' :: (cs ++ (ds ++ '<' :: '/' :: rest))⟩
    (ds ++ '<' :: '/' :: rest) true hshort hless (by simp)
  have hchild := Parser.child?_element (hn.gives_not_slash (ds ++ '<' :: '/' :: rest)) helement
  simpa [modeAfter] using hchild

theorem reads_noAttributes : Reads c .attributes [] [] := by
  intro d k after hd hk hafter
  obtain ⟨k, rfl⟩ : ∃ k', k = k' + 1 := ⟨k - 1, by omega⟩
  obtain ⟨punct, rest, hne, -, hgives⟩ := hafter.gives
  refine (ReadsTo.collectUpTo_nil (Parser.attribute?_none hne hgives) k).imp fun items hitems => ?_
  rw [hitems]

/-- An attribute whose value is a string. -/
theorem reads_quoted {a' b' : Nat} (hname : isAttributeName name = true) (hraw : IsQuotable raw)
    (ih : Reads c .attributes ns cs) :
    Reads c .attributes (.node ⟨.attribute name, a, b⟩ [.node ⟨.attributeText raw, a', b'⟩ []] :: ns)
      (' ' :: name ++ '=' :: quoted raw ++ cs) := by
  intro d k after hd hk hafter
  refine reads_attribute ih hd hk (List.cons_ne_nil _ _) hafter ?_
  have hvalue : ReadsTo (Parser.attributeValue (run d)) c
      ⟨.attributeValue, Markup.quoted raw ++ (cs ++ after)⟩ ⟨.plain, cs ++ after⟩
      (·.shapes = .node (.attributeText raw) []) := Parser.attributeValue_quoted hraw
  have hattribute := Parser.attribute?_value (isDashedName_of_isAttributeName hname)
    (gives_eq_quoted raw (cs ++ after)) hvalue
  simpa using hattribute

/-- An attribute whose value is an element. -/
theorem reads_holding (hname : isAttributeName name = true) (hn : Spells .element [n] cs)
    (ihn : Reads c .element [n] cs) (ih : Reads c .attributes ns ds) :
    Reads c .attributes (.node ⟨.attribute name, a, b⟩ [n] :: ns)
      (' ' :: name ++ '=' :: '<' :: cs ++ ds) := by
  intro d k after hd hk hafter
  refine reads_attribute ih hd hk (List.cons_ne_nil _ _) hafter ?_
  have hless := hn.gives_less .attributeValue (ds ++ after)
  have hshort : cs.length < d := by
    simp only [List.length_append, List.length_cons] at hd
    omega
  have helement := ihn d ⟨.attributeValue, '<' :: (cs ++ (ds ++ after))⟩ (ds ++ after) false
    hshort hless (by simp)
  have hvalue := (Parser.attributeValue_element hless helement).imp fun m hm =>
    (show m.shapes = n.shapes by simpa using hm)
  have hattribute := Parser.attribute?_value (isDashedName_of_isAttributeName hname)
    (Lexer.gives_eq (by decide)) hvalue
  simpa [modeAfter] using hattribute

end Kinds

/-- What spells markup is read as that markup. -/
theorem Spells.reads {kind : Kind} (h : Spells kind ns cs) : Reads c kind ns cs := by
  induction h with
  | element htag habsent hgroup hchildren hattributes _ ihattributes ihitems =>
    exact reads_element htag habsent hgroup hchildren hattributes ihattributes ihitems
  | closed htag habsent hgroup hchildren hattributes ih =>
    exact reads_closed htag habsent hgroup hchildren hattributes ih
  | fragment hchildren _ ih => exact reads_fragment hchildren ih
  | noContent => exact reads_noContent
  | text hne hraw halone hrest ih =>
    intro d k rest hd hk hslash
    exact reads_child ih hd hk hne hslash
      (Parser.child?_text hne hraw (hrest.starts_content halone _))
  | child hn _ ihn ih => exact reads_childElement hn ihn ih
  | noAttributes => exact reads_noAttributes
  | flag hname habsent hrest ih =>
    intro d k after hd hk hafter
    refine reads_attribute ih hd hk (List.cons_ne_nil _ _) hafter ?_
    refine (Parser.attribute?_flag (isDashedName_of_isAttributeName hname)
      (hrest.endsName_attributes hafter) (hrest.staysInTag_attributes hafter)).imp fun o ho => ?_
    simpa [habsent] using ho
  | quoted hname hraw _ ih => exact reads_quoted hname hraw ih
  | holding hname hn _ ihn ih => exact reads_holding hname hn ihn ih

end Markup

end SourceEdit.Script
