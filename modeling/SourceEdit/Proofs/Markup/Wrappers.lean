import SourceEdit.Markup.Reader
import SourceEdit.Proofs.Arena.Graft
import SourceEdit.Proofs.Markup.Content.Rules
import SourceEdit.Proofs.Tree.Placement

/-!
# Fragments gain no wrappers

A text that is read as the content of a body gives no `html`, `head` or `body` of ordinary markup
anywhere, whatever tags it has.  Graphics and formulas may have elements of these names, but only where
the text has such a tag (`wrappers_of_fragment`).  What is read as the content of a body is decided on
the characters and not on the tokens, so a text without such tags may still be read as a whole document
(`wrappers_of_comment`).
-/

namespace SourceEdit.Markup

namespace Builder

/-! ### The tokens of a text -/

/-- The tokens that a text is read as, up to `n` steps. -/
def readTokens : Nat → List Char → Builder → List Token
  | 0, _, _ => []
  | _ + 1, [], _ => [.endOfText]
  | n + 1, cs, b =>
    let (tokens, rest) := Lexer.next (isInForeign b) b.reading cs
    tokens ++ readTokens n rest ((tokens.forM take).run b).2

/-- The tokens that a text is read as. -/
def tokens (text : String) (b : Builder) : List Token :=
  let cs := Lexer.prepare text.toList
  readTokens (cs.length + 1) cs b

theorem run_forM_append (ts us : List Token) (b : Builder) :
    ((ts ++ us).forM take).run b = (us.forM take).run ((ts.forM take).run b).2 := by
  induction ts generalizing b with
  | nil => rfl
  | cons t ts ih => exact ih _

/-- Reading takes the tokens one after the other. -/
theorem run_readText (n : Nat) (cs : List Char) (b : Builder) :
    (readText n cs).run b = ((readTokens n cs b).forM take).run b := by
  induction n generalizing cs b with
  | zero => rfl
  | succ n ih =>
    cases cs with
    | nil => rfl
    | cons c cs =>
      rw [readTokens, run_forM_append, ← ih]
      · rfl
      · exact List.cons_ne_nil c cs

end Builder

/-- Whether a token asks for a wrapper. -/
def Token.asksForWrapper : Token → Bool
  | .doctype _ => true
  | .tag t => !t.isEnd && isDocumentName t.name
  | _ => false

namespace Builder

theorem isDocumentName_respelled (name : String) (h : isDocumentName name = false) :
    isDocumentName (respelled graphicsElements name) = false := by
  have hall : ∀ s ∈ graphicsElements, isDocumentName s = false := by decide
  unfold respelled
  cases hfind : graphicsElements.find? fun s => asciiLower s.toList == name.toList with
  | none => exact h
  | some s => exact hall s (List.mem_of_find?_eq_some hfind)

/-! ### The content of a body -/

variable {F : String → Prop}

theorem isContent_ofFragment : IsContent F ofFragment where
  isFragment := rfl
  mode := rfl
  modeAfterText := rfl
  templateModes := List.forall_mem_nil _
  stack := List.forall_mem_nil _
  formatting := List.forall_mem_nil _
  tree := {
    two_le := Nat.le_refl 2
    children := fun x c hc => by
      -- only the root has a child, the outermost element
      obtain hc | ⟨rfl, rfl⟩ := children_insertChild_subset hc
      · have hc : c ∈ (Arena.withRoot Node.document).children x := by
          rw [← Arena.children_alloc (Node.element { localName := "html" } [])]
          exact hc
        cases x <;> cases hc
      · exact ⟨Nat.le_refl 1, fun hx => absurd rfl hx⟩
    fits := fun id n hid hn => by
      obtain ⟨e, he, -⟩ := Option.map_eq_some_iff.mp hn
      exact absurd (Array.getElem?_eq_some_iff.mp he).1 (Nat.not_lt.mpr hid) }

theorem isContent_read {text : String} (h : ∀ t ∈ ofFragment.tokens text, Token.Fits F t) :
    IsContentTree F (ofFragment.read text) := by
  have hstays : Stays F ((ofFragment.tokens text).forM take) := .forM fun t ht => stays_take (h t ht)
  unfold read
  dsimp only
  rw [run_readText]
  exact (hstays _ isContent_ofFragment).2.tree

end Builder

/-! ### Trees -/

open Builder (IsContentTree)

theorem fits_values_viewTo {F : String → Prop} {tree : Markup} (h : IsContentTree F tree) (n : Nat)
    {id : NodeId} (hid : 2 ≤ id) : ∀ v ∈ (tree.viewTo n id).values, Builder.Node.Fits F v := by
  have hvalue {id : NodeId} (hid : 2 ≤ id) : Builder.Node.Fits F ((tree.get? id).getD default) := by
    cases hget : tree.get? id with
    | none => trivial
    | some v => exact h.fits id v hid hget
  induction n generalizing id with
  | zero => exact List.forall_mem_singleton.mpr (hvalue hid)
  | succ n ih =>
    rw [Arena.viewTo, Tree.values_node]
    refine List.forall_mem_cons.mpr ⟨hvalue hid, fun v hv => ?_⟩
    obtain ⟨t, ht, hv⟩ := List.mem_flatMap.mp hv
    obtain ⟨c, hc, rfl⟩ := List.mem_map.mp ht
    exact ih ((h.children id c hc).2 (Nat.ne_of_gt (Nat.lt_of_lt_of_le Nat.two_pos hid))) v hv

/-- The nodes inside the outermost element fit. -/
theorem fits_values_fragmentOf {F : String → Prop} {text : String}
    (h : IsContentTree F (Builder.ofFragment.read text)) :
    ∀ v ∈ (fragmentOf text).flatMap Tree.values, Builder.Node.Fits F v := by
  obtain ⟨n, hn⟩ := Nat.exists_eq_add_of_le' h.two_le
  have hview (t : Tree Node) (ht : t ∈ fragmentOf text) :
      ∃ c, 2 ≤ c ∧ t = (Builder.ofFragment.read text).viewTo n c := by
    rw [fragmentOf_eq, Arena.view, hn, Arena.viewTo, Tree.children] at ht
    cases hroot : (Builder.ofFragment.read text).children
        (Builder.ofFragment.read text).root with
    | nil =>
      rw [hroot] at ht
      cases ht
    | cons outer others =>
      rw [hroot, List.map_cons, Arena.viewTo] at ht
      obtain ⟨c, hc, rfl⟩ := List.mem_map.mp ht
      have houter : 1 ≤ outer := (h.children _ outer (hroot ▸ List.mem_cons_self)).1
      exact ⟨c, (h.children outer c hc).2 (Nat.ne_of_gt houter), rfl⟩
  intro v hv
  obtain ⟨t, ht, hv⟩ := List.mem_flatMap.mp hv
  obtain ⟨c, hc, rfl⟩ := hview t ht
  exact fits_values_viewTo h n hc v hv

/-- The names of the elements of a tree. -/
def elementNames (tree : Markup) : List ElementName :=
  (tree.view tree.root).values.filterMap Node.name?

theorem fits_elementNames_ofText {options : MarkupOptions} {source : String} {F : String → Prop}
    (hfragment : (options.preserveDocument && isDocument source.toList) = false)
    (h : ∀ t ∈ Builder.ofFragment.tokens source, Builder.Token.Fits F t) :
    ∀ name ∈ elementNames (ofText options source),
      (name.space = .html → isDocumentName name.localName = false) ∧
        (name.space ≠ .html → F name.localName) := by
  intro name hname
  obtain ⟨v, hv, hvalue⟩ := List.mem_filterMap.mp hname
  rw [ofText, hfragment, Arena.view_ofForest, Tree.values_node, List.mem_cons] at hv
  obtain rfl | hv := hv
  · cases hvalue
  · have hfits := fits_values_fragmentOf (Builder.isContent_read h) v hv
    cases v with
    | element e attributes =>
      cases hvalue
      exact hfits
    | _ => cases hvalue

/-- A text that is not read as a whole document gives no wrapper of ordinary markup, and none at all
unless the text has a tag of one. -/
theorem wrappers_of_fragment (options : MarkupOptions) (source : String)
    (h : (options.preserveDocument && isDocument source.toList) = false) :
    (∀ name ∈ elementNames (ofText options source),
        name.space = .html → isDocumentName name.localName = false) ∧
      ((∀ t ∈ Builder.ofFragment.tokens source, t.asksForWrapper = false) →
        ∀ name ∈ elementNames (ofText options source), isDocumentName name.localName = false) := by
  constructor
  · -- nothing is asked of foreign names, so nothing is asked of the tags
    have hall : ∀ t ∈ Builder.ofFragment.tokens source, Builder.Token.Fits (fun _ => True) t := by
      rintro (_ | _ | _ | _ | _ | _ | _) - <;> simp [Builder.Token.Fits]
    exact fun name hname => (fits_elementNames_ofText h hall name hname).1
  · intro htokens
    have hall : ∀ t ∈ Builder.ofFragment.tokens source,
        Builder.Token.Fits (fun name => isDocumentName name = false) t := by
      intro t ht
      have ht := htokens t ht
      cases t with
      | tag t =>
        intro hend
        have hname : isDocumentName t.name = false := by
          simpa [Token.asksForWrapper, hend] using ht
        exact ⟨hname, Builder.isDocumentName_respelled t.name hname⟩
      | _ => trivial
    intro name hname
    obtain ⟨hordinary, hforeign⟩ := fits_elementNames_ofText h hall name hname
    by_cases hspace : name.space = .html
    · exact hordinary hspace
    · exact hforeign hspace

theorem wrappers_of_fragment_header :
    isDocument "<header title='<html'>a</header><svg><desc/></svg>".toList = false ∧
      elementNames (ofText {} "<header title='<html'>a</header><svg><desc/></svg>") =
        [{ localName := "header" }, { space := .svg, localName := "svg" },
          { space := .svg, localName := "desc" }] ∧
      ∀ name ∈ elementNames (ofText {} "<header title='<html'>a</header><svg><desc/></svg>"),
        isDocumentName name.localName = false :=
  ⟨by decide +kernel, by decide +kernel,
    (wrappers_of_fragment {} "<header title='<html'>a</header><svg><desc/></svg>"
      (by decide +kernel)).2 (by decide +kernel)⟩

/-- In a comment, a wrapper's name between angle brackets is no tag, but makes the text a document. -/
theorem wrappers_of_comment :
    (∀ t ∈ Builder.ofFragment.tokens "<!-- <body> --><p>x</p>", t.asksForWrapper = false) ∧
      (∀ t ∈ Builder.ofDocument.tokens "<!-- <body> --><p>x</p>", t.asksForWrapper = false) ∧
      elementNames (ofText {} "<!-- <body> --><p>x</p>") =
        [{ localName := "html" }, { localName := "head" }, { localName := "body" },
          { localName := "p" }] := by
  decide +kernel

end SourceEdit.Markup
