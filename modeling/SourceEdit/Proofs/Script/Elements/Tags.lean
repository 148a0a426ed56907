import SourceEdit.Proofs.Script.Elements.Spelling
import SourceEdit.Proofs.Script.Parser.Running
import SourceEdit.Script.Parser.Program

/-!
# Reading tags

What the parsers of elements do before a text: which token the marks and names of a tag give, how a
tag, an attribute or a child is read, and an element from its attributes and its children.
-/

namespace SourceEdit.Script

open Lexer (Gives IsMark IsNameStart isDashedName endsName)

namespace Lexer

variable {name rest : List Char} {t : Token}

theorem IsNameStart.isNameOrWord (h : IsNameStart name rest t) : t.isNameOrWord = true := by
  rw [Token.isNameOrWord, h.kind]
  cases Word.ofName? (firstWord name) <;> rfl

/-- The start of a name is no mark. -/
theorem IsNameStart.isPunct (h : IsNameStart name rest t) (punct : Punct) :
    t.isPunct punct = false := by
  rw [Token.isPunct, h.kind]
  cases Word.ofName? (firstWord name) <;> rfl

theorem gives_name (hname : isDashedName name = true) (hrest : endsName rest = true) :
    Gives .plain (name ++ rest) (IsNameStart name rest) :=
  (starts_name hname hrest).plain (startsToken_name hname rest)

/-- A name may be read after a blank. -/
theorem gives_name_after_blank (hname : isDashedName name = true) (hrest : endsName rest = true) :
    Gives .plain (' ' :: name ++ rest) (IsNameStart name rest) :=
  (starts_name hname hrest).after_blank (startsToken_name hname rest)

/-- A name starts with a character that starts names. -/
theorem exists_isNameStart (hname : isDashedName name = true) :
    ∃ d ds, name = d :: ds ∧ isNameStart d = true := by
  cases name with
  | nil => cases hname
  | cons d ds =>
    exact ⟨d, ds, rfl, (Bool.and_eq_true_iff.mp (Bool.and_eq_true_iff.mp hname).1).1⟩

/-- The slash before the name of an element that ends. -/
theorem gives_slash_name (hname : isDashedName name = true) :
    Gives .plain ('/' :: (name ++ rest)) (IsMark .slash (name ++ rest)) := by
  obtain ⟨d, ds, rfl, hd⟩ := exists_isNameStart hname
  have hne {e : Char} (he : isNameStart e = false) : d ≠ e := by
    rintro rfl
    cases hd.symm.trans he
  refine (starts_slash fun r hr => hne (e := '=') (by decide) (List.cons.inj hr).1).plain ?_
  have hslash := hne (e := '/') (by decide)
  have hstar := hne (e := '*') (by decide)
  simp [startsToken, List.isPrefixOf, hslash.symm, hstar.symm, isLineEnd, isSpace]

/-- A token that is no string is the same where the value of an attribute stands. -/
theorem Starts.attributeValue {Q : Token → Prop} {d : Char} {ds : List Char}
    (h : Starts (d :: ds) Q) (hstarts : startsToken (d :: ds) = true)
    (hquote : (d == '"' || d == '\'') = false) : Gives .attributeValue (d :: ds) Q := by
  intro html fuel offset trivia hfuel
  unfold next
  simp only [skip_of_startsToken (p := ⟨_, offset⟩) hstarts, beq_self_eq_true, if_true, hquote,
    Bool.false_eq_true, if_false]
  exact h fuel offset _ hfuel

/-- A text does not go on with what would join an angle bracket before it. -/
def partsLess (cs : List Char) : Bool := cs.head?.all fun d => !(['<', '=', '!'].contains d)

/-- An angle bracket is a token if what follows it does not join it. -/
theorem starts_less_of_partsLess (h : partsLess cs = true) : Starts ('<' :: cs) (IsMark .less cs) := by
  refine starts_less ?_ ?_
  all_goals
    rintro r rfl
    cases h

theorem startsToken_less (h : partsLess cs = true) : startsToken ('<' :: cs) = true := by
  have hopening : ['!', '-', '-'].isPrefixOf cs = false := by
    cases cs with
    | nil => rfl
    | cons d ds =>
      have hd : '!' ≠ d := by
        rintro rfl
        cases h
      simp [List.isPrefixOf, hd]
  simp [startsToken, List.isPrefixOf, hopening, isLineEnd, isSpace]

/-- The angle bracket before an element, in any mode. -/
theorem gives_less (h : partsLess cs = true) (mode : Mode) :
    Gives mode ('<' :: cs) (IsMark .less cs) := by
  cases mode with
  | plain => exact (starts_less_of_partsLess h).plain (startsToken_less h)
  | elementContent => exact gives_less_content
  | attributeValue => exact (starts_less_of_partsLess h).attributeValue (startsToken_less h) rfl

/-- A name does not join the angle bracket before it. -/
theorem partsLess_name (hname : isDashedName name = true) : partsLess (name ++ rest) = true := by
  obtain ⟨d, ds, rfl, hd⟩ := exists_isNameStart hname
  rw [partsLess, List.cons_append, List.head?_cons, Option.all_some, Bool.not_eq_true',
    Bool.eq_false_iff]
  intro hmem
  simp only [List.contains_cons, List.contains_nil, Bool.or_false, Bool.or_eq_true, beq_iff_eq] at hmem
  obtain rfl | rfl | rfl := hmem <;> exact absurd hd (by decide)

/-- The mark between the name and the value of an attribute. -/
theorem gives_eq {d : Char} (hd : d ≠ '=' ∧ d ≠ '>') :
    Gives .plain ('=' :: d :: rest) (IsMark .eq (d :: rest)) := by
  refine (starts_eq (fun r hr => hd.1 (List.cons.inj hr).1)
    fun r hr => hd.2 (List.cons.inj hr).1).plain ?_
  simp [startsToken, List.isPrefixOf, isLineEnd, isSpace]

end Lexer

namespace Parser

variable {c : Surroundings} {mode : Lexer.Mode} {cs rest : List Char} {name : Name}
  {parse : Goal → Parser Node}

/-! ### Names -/

/-- A name with dashes is read as a whole. -/
theorem dashedName_reads (hname : isDashedName name = true) (hrest : endsName rest = true)
    (h : Gives mode cs (IsNameStart name rest)) (hlength : rest.length ≤ cs.length) :
    ReadsTo dashedName c ⟨mode, cs⟩ ⟨.plain, rest⟩ (· = name) := by
  refine .bind (.current h) fun t ht => ?_
  obtain ⟨htext, hmore, hescaped⟩ := ht.asElementName hname hrest
  rw [ht.isNameOrWord]
  exact .bind (.advancePast hmore hescaped hlength) fun _ _ => .pure htext

/-- The name of an attribute is read if no colon follows it. -/
theorem attributeName_reads (hname : isDashedName name = true) (hrest : endsName rest = true)
    (h : Gives mode cs (IsNameStart name rest)) (hlength : rest.length ≤ cs.length)
    (hcolon : Gives .plain rest fun t => t.isPunct .colon = false) :
    ReadsTo attributeName c ⟨mode, cs⟩ ⟨.plain, rest⟩ (· = name) := by
  refine .bind (dashedName_reads hname hrest h hlength) fun first hfirst => ?_
  refine .bind (.eat_miss hcolon) fun more hmore => ?_
  subst hfirst hmore
  exact .pure rfl

/-- The name of an element without colons, dashes and dots. -/
theorem tagName_reads (hname : isDashedName name = true) (hrest : endsName rest = true)
    (h : Gives mode cs (IsNameStart name rest)) (hlength : rest.length ≤ cs.length)
    (hcolon : Gives .plain rest fun t => t.isPunct .colon = false)
    (hdot : Gives .plain rest fun t => t.isPunct .dot = false) :
    ReadsTo tagName c ⟨mode, cs⟩ ⟨.plain, rest⟩ (· = name) := by
  refine .bind (dashedName_reads hname hrest h hlength) fun first hfirst => ?_
  refine .bind (.eat_miss hcolon) fun more hmore => ?_
  subst hfirst hmore
  refine .iterate (.bind (.eat_miss hdot) fun more hmore => ?_)
  subst hmore
  exact .pure rfl

/-! ### Attributes -/

/-- The value of an attribute that is a text. -/
theorem attributeValue_quoted {raw : List Char} (h : IsQuotable raw) :
    ReadsTo (attributeValue parse) c ⟨.attributeValue, Markup.quoted raw ++ rest⟩ ⟨.plain, rest⟩
      fun n => n.shapes = .node (.attributeText raw) [] := by
  obtain ⟨quote, hquote, hraw, htext⟩ : ∃ quote, (quote = '"' ∨ quote = '\'') ∧ quote ∉ raw ∧
      Markup.quoted raw ++ rest = quote :: raw ++ quote :: rest := by
    unfold Markup.quoted
    by_cases hdouble : '"' ∈ raw
    · have hsingle : '\'' ∉ raw := h.resolve_left fun hnone => hnone hdouble
      exact ⟨'\'', .inr rfl, hsingle, by simp [hdouble]⟩
    · exact ⟨'"', .inl rfl, hdouble, by simp [hdouble]⟩
  have hgives : Gives .attributeValue (quote :: raw ++ quote :: rest)
      (Lexer.IsAttributeText raw rest) := Lexer.gives_attributeText hquote hraw
  have hlength : rest.length ≤ (quote :: raw ++ quote :: rest).length := by
    simp only [List.length_append, List.length_cons]
    omega
  rw [htext]
  refine .bind .here fun start _ => .bind (.current hgives) fun t ht => ?_
  rw [ht.kind, ht.text]
  refine .bind (.advance (hgives.imp fun _ ht => ⟨ht.rest, ht.escaped⟩) hlength) fun _ _ => ?_
  refine (ReadsTo.finish _ _ _).imp fun n hn => ?_
  obtain ⟨stop, rfl⟩ := hn
  rfl

/-- The value of an attribute that is an element. -/
theorem attributeValue_element {spot : Spot} {P : Node → Prop}
    (hless : Gives mode cs (IsMark .less rest))
    (h : ReadsTo (parse (.element false)) c ⟨mode, cs⟩ spot P) :
    ReadsTo (attributeValue parse) c ⟨mode, cs⟩ spot P := by
  refine .bind .here fun start _ => .bind (.current hless) fun t ht => ?_
  rw [ht.kind]
  exact h

/-- Whether a token may stand where a tag goes on or ends. -/
def staysInTag : Token.Kind → Bool
  | .name | .punct .greater | .punct .slash => true
  | .word w => w != .extends_
  | _ => false

/-- What stays in a tag is none of the other marks. -/
theorem isPunct_of_staysInTag {t : Token} (h : staysInTag t.kind = true) {q : Punct}
    (hne : q ≠ .greater ∧ q ≠ .slash) : t.isPunct q = false := by
  rw [Token.isPunct, beq_eq_false_iff_ne]
  intro hkind
  rw [hkind] at h
  revert h hne
  cases q <;> decide

/-- An attribute without a value. -/
theorem attribute?_flag (hname : isDashedName name = true) (hrest : endsName rest = true)
    (hnext : Gives .plain rest fun t => staysInTag t.kind = true) :
    ReadsTo (attribute? parse) c ⟨.plain, ' ' :: name ++ rest⟩ ⟨.plain, rest⟩
      fun o => ∃ a, o = some a ∧ a.shapes = .node (.attribute name) [.node .absent []] := by
  have hgives := Lexer.gives_name_after_blank hname hrest
  have hlength : rest.length ≤ (' ' :: name ++ rest).length := by
    simp only [List.length_append, List.length_cons]
    omega
  refine .bind .here fun start _ => .bind (.current hgives) fun t ht => ?_
  rw [ht.isPunct, ht.isNameOrWord]
  have hcolon := hnext.imp fun t ht => isPunct_of_staysInTag ht (q := .colon) (by decide)
  refine .bind (attributeName_reads hname hrest hgives hlength hcolon) fun first hfirst => ?_
  refine .bind (.current hnext) fun mark hmark => ?_
  subst hfirst
  rw [isPunct_of_staysInTag hmark (q := .eq) (by decide)]
  refine .bind (ReadsTo.finish _ _ _) fun a ha => ?_
  obtain ⟨stop, rfl⟩ := ha
  exact .pure ⟨_, rfl, by simp [Node.ofShape, Node.absent]⟩

/-- An attribute with a value. -/
theorem attribute?_value {spot : Spot} {value : Tree Shape} (hname : isDashedName name = true)
    (hmark : Gives .plain ('=' :: cs) (IsMark .eq cs))
    (h : ReadsTo (attributeValue parse) c ⟨.attributeValue, cs⟩ spot (·.shapes = value)) :
    ReadsTo (attribute? parse) c ⟨.plain, ' ' :: name ++ '=' :: cs⟩ spot
      fun o => ∃ a, o = some a ∧ a.shapes = .node (.attribute name) [value] := by
  have hgives : Gives .plain (' ' :: name ++ '=' :: cs) (IsNameStart name ('=' :: cs)) :=
    Lexer.gives_name_after_blank hname rfl
  have hlength : ('=' :: cs).length ≤ (' ' :: name ++ '=' :: cs).length := by
    simp only [List.length_append, List.length_cons]
    omega
  refine .bind .here fun start _ => .bind (.current hgives) fun t ht => ?_
  rw [ht.isPunct, ht.isNameOrWord]
  have hcolon := hmark.imp fun t ht => ht.isPunct_of_ne (q := .colon) (by decide)
  refine .bind (attributeName_reads hname rfl hgives hlength hcolon) fun first hfirst => ?_
  refine .bind (.current hmark) fun mark hmark => ?_
  subst hfirst
  rw [hmark.isPunct]
  refine .bind (.advancePast hmark.rest hmark.escaped (by simp)) fun _ _ => ?_
  refine .bind h fun n hn => .bind (ReadsTo.finish _ _ _) fun a ha => ?_
  obtain ⟨stop, rfl⟩ := ha
  exact .pure ⟨_, rfl, by simp [Node.ofShape, hn]⟩

/-- Where a tag ends there is no attribute. -/
theorem attribute?_none {punct : Punct} {spot : Spot} (hne : punct ≠ .braceOpen)
    (h : Gives spot.mode spot.text (IsMark punct rest)) :
    ReadsTo (attribute? parse) c spot spot (· = none) := by
  refine .bind .here fun start _ => .bind (.current h) fun t ht => ?_
  rw [ht.isPunct_of_ne hne, Token.isNameOrWord, ht.kind]
  exact .pure rfl

/-! ### Tags -/

/-- A tag has no type arguments if what follows its name stays in it. -/
theorem typeArguments?_reads {spot : Spot}
    (hnext : Gives spot.mode spot.text fun t => staysInTag t.kind = true) :
    ReadsTo (typeArguments? parse) c spot spot (·.shapes = .node .absent []) := by
  refine .bind (.isAt (hnext.imp fun t ht => isPunct_of_staysInTag ht (by decide))) fun a ha => ?_
  refine .bind (.isAt (hnext.imp fun t ht => isPunct_of_staysInTag ht (by decide))) fun b hb => ?_
  subst ha hb
  exact .pure rfl

theorem optional_typeArguments?_reads {spot : Spot}
    (hnext : Gives spot.mode spot.text fun t => staysInTag t.kind = true) (b : Bool) :
    ReadsTo (optional b (typeArguments? parse)) c spot spot (·.shapes = .node .absent []) := by
  cases b with
  | false => exact .pure rfl
  | true => exact typeArguments?_reads hnext

/-- How what follows a tag is read. -/
def modeAfter (inContent : Bool) : Lexer.Mode := if inContent then .elementContent else .plain

/-- The end of a tag is read, and what follows it in the mode of its place. -/
theorem endTag_reads (h : Gives mode cs (IsMark .greater rest)) (hlength : rest.length ≤ cs.length)
    (inContent : Bool) :
    ReadsTo (endTag inContent) c ⟨mode, cs⟩ ⟨modeAfter inContent, rest⟩ fun _ => True := by
  refine .bind (.current h) fun t ht => ?_
  rw [ht.isPunct]
  exact .advancePast ht.rest ht.escaped hlength

/-! ### What stands between tags -/

/-- One of the children of an element, if there is one. -/
def child? (parse : Goal → Parser Node) : Parser (Option Node) := do
  let start ← here
  let t ← current
  match t.kind with
  | .elementText =>
    reportIf (t.text.any fun c => c == '>' || c == '\x7d')
    advancePast .elementContent t
    return some (← finish (.elementText t.text) start)
  | .punct .braceOpen => return some (← containerChild parse)
  | .punct .less =>
    if ← nextIs (·.isPunct .slash) then return none
    else return some (← parse (.element true))
  | _ => failure

theorem children_eq (parse : Goal → Parser Node) : children parse = collect (child? parse) := rfl

/-- A text goes up to the next angle bracket. -/
theorem child?_text {raw : List Char} (hne : raw ≠ []) (hraw : raw.all Markup.isTextChar = true)
    (hrest : ∃ r, rest = '<' :: r) :
    ReadsTo (child? parse) c ⟨.elementContent, raw ++ rest⟩ ⟨.elementContent, rest⟩
      fun o => ∃ n, o = some n ∧ n.shapes = .node (.elementText raw) [] := by
  obtain ⟨r, rfl⟩ := hrest
  have hchar : ∀ d ∈ raw, d ≠ '<' ∧ d ≠ '>' ∧ d ≠ '\x7b' ∧ d ≠ '\x7d' := by
    simpa [Markup.isTextChar] using hraw
  have hgives : Gives .elementContent (raw ++ '<' :: r) (Lexer.IsElementText raw ('<' :: r)) :=
    Lexer.gives_elementText hne (fun d hd => ⟨(hchar d hd).1, (hchar d hd).2.2.1⟩)
      fun d hd => .inl (by simpa using hd.symm)
  refine .bind .here fun start _ => .bind (.current hgives) fun t ht => ?_
  have hfine : t.text.any (fun d => d == '>' || d == '\x7d') = false := by
    rw [ht.text, List.any_eq_false]
    intro d hd
    simp [(hchar d hd).2.1, (hchar d hd).2.2.2]
  rw [ht.kind, hfine, ht.text]
  refine .bind (.reportIf rfl) fun _ _ => ?_
  refine .bind (.advancePast ht.rest ht.escaped (by simp)) fun _ _ => ?_
  refine .bind (ReadsTo.finish _ _ _) fun n hn => ?_
  obtain ⟨stop, rfl⟩ := hn
  exact .pure ⟨_, rfl, rfl⟩

/-- Before a closing tag there is no child. -/
theorem child?_none {spot : Spot} (hmode : spot.mode = .elementContent)
    (htext : spot.text = '<' :: '/' :: rest)
    (hslash : Gives .plain ('/' :: rest) (IsMark .slash rest)) :
    ReadsTo (child? parse) c spot spot (· = none) := by
  obtain ⟨mode, text⟩ := spot
  subst hmode htext
  have hless : Gives .elementContent ('<' :: '/' :: rest) (IsMark .less ('/' :: rest)) :=
    Lexer.gives_less_content
  refine .bind .here fun start _ => .bind (.current hless) fun t ht => ?_
  rw [ht.kind]
  refine .bind (.nextIs (hless.imp fun t ht => ⟨ht.rest, ht.escaped⟩) (by simp)
    (hslash.imp fun t ht => ht.isPunct)) fun b hb => ?_
  subst hb
  exact .pure rfl

/-- Before any other tag there is one. -/
theorem child?_element {spot : Spot} {P : Node → Prop}
    (hnext : Gives .plain rest fun t => t.isPunct .slash = false)
    (h : ReadsTo (parse (.element true)) c ⟨.elementContent, '<' :: rest⟩ spot P) :
    ReadsTo (child? parse) c ⟨.elementContent, '<' :: rest⟩ spot
      fun o => ∃ n, o = some n ∧ P n := by
  have hless : Gives .elementContent ('<' :: rest) (IsMark .less rest) := Lexer.gives_less_content
  refine .bind .here fun start _ => .bind (.current hless) fun t ht => ?_
  rw [ht.kind]
  refine .bind (.nextIs (hless.imp fun t ht => ⟨ht.rest, ht.escaped⟩) (by simp) hnext) fun b hb => ?_
  subst hb
  exact .bind h fun n hn => .pure ⟨n, rfl, hn⟩

/-! ### Elements -/

section Element

variable {spot spot' : Spot} {ds after : List Char} {shapes attributeShapes : List (Tree Shape)}

theorem gives_greater : Gives .plain ('>' :: rest) (IsMark .greater rest) :=
  Lexer.starts_greater.plain rfl

/-- A fragment is read from its angle bracket up to that of its end. -/
theorem element_fragment (hless : Gives spot.mode spot.text
      (IsMark .less ('>' :: ds ++ '<' :: '/' :: '>' :: rest)))
    (hlength : ('>' :: ds ++ '<' :: '/' :: '>' :: rest).length ≤ spot.text.length)
    (hchildren : ReadsTo (children parse) c ⟨.elementContent, ds ++ '<' :: '/' :: '>' :: rest⟩
      ⟨.elementContent, '<' :: '/' :: '>' :: rest⟩ (·.map Node.shapes = shapes)) (inContent : Bool) :
    ReadsTo (element parse inContent) c spot ⟨modeAfter inContent, rest⟩
      (·.shapes = .node .fragment [.node .children shapes]) := by
  have hslash : Gives .plain ('/' :: '>' :: rest) (IsMark .slash ('>' :: rest)) :=
    (Lexer.starts_slash (by simp)).plain rfl
  refine .bind .here fun start _ => .bind (.expect hless hlength) fun _ _ => ?_
  refine .bind (.isAt (gives_greater.imp fun t ht => ht.isPunct)) fun b hb => ?_
  subst hb
  refine .bind (endTag_reads gives_greater (by simp) true) fun _ _ => ?_
  refine .bind hchildren fun parts hparts => ?_
  refine .bind (.expect Lexer.gives_less_content (by simp)) fun _ _ => ?_
  refine .bind (.expect hslash (by simp)) fun _ _ => ?_
  refine .bind (endTag_reads gives_greater (by simp) inContent) fun _ _ => ?_
  refine (ReadsTo.finish _ _ _).imp fun n hn => ?_
  obtain ⟨stop, rfl⟩ := hn
  simp [Node.ofShape, hparts]

/-- The rest of an element after its attributes. -/
def elementRest (parse : Goal → Parser Node) (inContent : Bool) (start : Nat) (name : Name)
    (arguments : Node) (attributes : List Node) : Parser Node := do
  if ← eat .slash then
    endTag inContent
    finish (.element name true) start [arguments, .group attributes, .ofShape .children 0 0]
  else
    endTag true
    let parts ← children parse
    expect .less
    expect .slash
    let closing ← tagName
    reportIf (closing != name)
    endTag inContent
    finish (.element name false) start
      [arguments, .group attributes, .ofShape .children 0 0 parts]

/-- An element up to the end of its attributes. -/
theorem element_tagged (hname : isDashedName name = true) (hafter : endsName after = true)
    (hless : Gives spot.mode spot.text (IsMark .less (name ++ after)))
    (hlength : (name ++ after).length ≤ spot.text.length)
    (hnext : Gives .plain after fun t => staysInTag t.kind = true) {inContent : Bool} {P : Node → Prop}
    (h : ∀ (start : Nat) (arguments : Node), arguments.shapes = .node .absent [] →
      ReadsTo (do elementRest parse inContent start name arguments (← collect (attribute? parse))) c
        ⟨.plain, after⟩ spot' P) :
    ReadsTo (element parse inContent) c spot spot' P := by
  have hfirst := Lexer.gives_name hname hafter
  have hshort : after.length ≤ (name ++ after).length := by simp
  refine .bind .here fun start _ => .bind (.expect hless hlength) fun _ _ => ?_
  refine .bind (.isAt (hfirst.imp fun t ht => ht.isPunct .greater)) fun b hb => ?_
  subst hb
  refine .bind (tagName_reads hname hafter hfirst hshort
    (hnext.imp fun t ht => isPunct_of_staysInTag ht (by decide))
    (hnext.imp fun t ht => isPunct_of_staysInTag ht (by decide))) fun tag htag => ?_
  subst htag
  refine .bind .hasTypes fun types _ => ?_
  refine .bind (optional_typeArguments?_reads hnext types) fun arguments harguments => ?_
  exact h start arguments harguments

/-- An element may be closed by its own tag. -/
theorem elementRest_closed {start : Nat} {arguments : Node} {attributes : List Node}
    {inContent : Bool} :
    ReadsTo (elementRest parse inContent start name arguments attributes) c
      ⟨.plain, ' ' :: '/' :: '>' :: rest⟩ ⟨modeAfter inContent, rest⟩
      (·.shapes = .node (.element name true)
        [arguments.shapes, .node .group (attributes.map Node.shapes), .node .children []]) := by
  have hslash : Gives .plain (' ' :: '/' :: '>' :: rest) (IsMark .slash ('>' :: rest)) :=
    (Lexer.starts_slash (by simp)).after_blank rfl
  refine .bind (.eat hslash (by simp)) fun b hb => ?_
  subst hb
  refine .bind (endTag_reads gives_greater (by simp) inContent) fun _ _ => ?_
  refine (ReadsTo.finish _ _ _).imp fun n hn => ?_
  obtain ⟨stop, rfl⟩ := hn
  simp [Node.ofShape, Node.group]

/-- An element goes up to the end tag of its name. -/
theorem elementRest_open {start : Nat} {arguments : Node} {attributes : List Node}
    {inContent : Bool} (hname : isDashedName name = true) {more : List Char}
    (hmore : more = '<' :: '/' :: name ++ '>' :: rest)
    (hchildren : ReadsTo (children parse) c ⟨.elementContent, ds ++ more⟩ ⟨.elementContent, more⟩
      (·.map Node.shapes = shapes)) :
    ReadsTo (elementRest parse inContent start name arguments attributes) c
      ⟨.plain, '>' :: ds ++ more⟩ ⟨modeAfter inContent, rest⟩
      (·.shapes = .node (.element name false)
        [arguments.shapes, .node .group (attributes.map Node.shapes), .node .children shapes]) := by
  subst hmore
  have hfirst : Gives .plain (name ++ '>' :: rest) (IsNameStart name ('>' :: rest)) :=
    Lexer.gives_name hname rfl
  have hslash : Gives .plain ('/' :: (name ++ '>' :: rest)) (IsMark .slash (name ++ '>' :: rest)) :=
    Lexer.gives_slash_name hname
  refine .bind (.eat_miss (gives_greater.imp fun t ht => ht.isPunct_of_ne (by decide)))
    fun b hb => ?_
  subst hb
  refine .bind (endTag_reads gives_greater (by simp) true) fun _ _ => ?_
  refine .bind hchildren fun parts hparts => ?_
  refine .bind (.expect Lexer.gives_less_content (by simp)) fun _ _ => ?_
  refine .bind (.expect hslash (by simp)) fun _ _ => ?_
  refine .bind (tagName_reads hname rfl hfirst (by simp)
    (gives_greater.imp fun t ht => ht.isPunct_of_ne (by decide))
    (gives_greater.imp fun t ht => ht.isPunct_of_ne (by decide))) fun closing hclosing => ?_
  refine .bind (.reportIf (by simp [hclosing])) fun _ _ => ?_
  refine .bind (endTag_reads gives_greater (by simp) inContent) fun _ _ => ?_
  refine (ReadsTo.finish _ _ _).imp fun n hn => ?_
  obtain ⟨stop, rfl⟩ := hn
  simp [Node.ofShape, Node.group, hparts]

end Element

end Parser

end SourceEdit.Script
