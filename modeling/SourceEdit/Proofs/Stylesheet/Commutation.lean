import SourceEdit.Proofs.Stylesheet.Rewriting

/-!
# Edits of different properties

An update or a deletion with a property changes the children of the rules that match one by one: a
declaration of the property gets another value or goes, and every other child stays
(`Node.changed?`).  `changes_of_edit` says so for every stylesheet, unless the modification is
refused on every stylesheet.

Such changes of two properties do not see each other.  Which rules match does not depend on
declarations, a declaration that is kept keeps its property, and one that goes takes nothing with it,
since declarations have no children.  So the two edits can be made in either order (`edit_comm`).
-/

namespace SourceEdit

/-- A modification that sets the values of a property or takes its declarations out. -/
def Modification.EditsProperty (m : Modification) (property : String) : Prop :=
  m.target.property = some property ∧ (m.operation = .update ∨ m.operation = .delete)

namespace Stylesheet

variable {sheet : Stylesheet} {m : Modification} {property a b : String}

/-! ### What becomes of one node -/

/-- What becomes of a child of a rule: a declaration of the property gets the value, or goes if there
is none. -/
def Node.changed? (property : String) (value? : Option String) (n : Node) : Option Node :=
  if n.declares property then value?.map fun value => n.withValue value else some n

namespace Node

variable {value? value₁ value₂ : Option String} {n n' : Node}

/-- The node is what it was, up to the value of a declaration. -/
theorem exists_of_changed? (h : n.changed? property value? = some n') :
    n' = n ∨ ∃ value, n' = n.withValue value := by
  unfold changed? at h
  split_ifs at h
  · obtain ⟨value, -, rfl⟩ := Option.map_eq_some_iff.mp h
    exact .inr ⟨value, rfl⟩
  · exact .inl (Option.some.inj h).symm

theorem isMatch_of_changed? (h : n.changed? property value? = some n') (p : SelectorPattern) :
    n'.isMatch p = n.isMatch p := by
  obtain rfl | ⟨value, rfl⟩ := exists_of_changed? h
  · rfl
  · exact isMatch_withValue p value n

theorem declares_of_changed? (h : n.changed? property value? = some n') (b : String) :
    n'.declares b = n.declares b := by
  obtain rfl | ⟨value, rfl⟩ := exists_of_changed? h
  · rfl
  · exact declares_withValue b value n

theorem declares_of_changed?_eq_none (h : n.changed? property value? = none) :
    n.declares property = true := by
  unfold changed? at h
  split_ifs at h with hn
  exact hn

/-- No node declares two properties that differ in more than case. -/
theorem declares_eq_false (hab : eqIgnoringCase a.toList b.toList = false) (h : n.declares a = true) :
    n.declares b = false := by
  cases n with
  | declaration property value =>
    refine Bool.eq_false_iff.mpr fun hb => ?_
    have ha : asciiLower property.toList = asciiLower a.toList := eq_of_beq h
    have hb : asciiLower property.toList = asciiLower b.toList := eq_of_beq hb
    simp [eqIgnoringCase, ← ha, ← hb] at hab
  | _ => cases h

/-- At no node do both changes have something to do. -/
theorem changed?_bind_comm (hab : eqIgnoringCase a.toList b.toList = false) (n : Node) :
    (n.changed? a value₁).bind (changed? b value₂) =
      (n.changed? b value₂).bind (changed? a value₁) := by
  have hskip {a b : String} {value₁ value₂ : Option String} (hb : n.declares b = false) :
      (n.changed? a value₁).bind (changed? b value₂) = n.changed? a value₁ := by
    cases hn : n.changed? a value₁ with
    | none => rfl
    | some n' => simp [changed?, declares_of_changed? hn, hb]
  have hkeep {a b : String} {value₁ value₂ : Option String} (hb : n.declares b = false) :
      (n.changed? b value₂).bind (changed? a value₁) = n.changed? a value₁ := by
    simp [changed?, hb]
  by_cases ha : n.declares a = true
  · have hb := declares_eq_false hab ha
    rw [hskip hb, hkeep hb]
  · rw [Bool.not_eq_true] at ha
    rw [hkeep ha, hskip ha]

end Node

/-! ### What becomes of a tree -/

/-- Whether a target can be located does not depend on the stylesheet. -/
theorem locate_eq_error_or_selects (target : Target) :
    (∃ e, ∀ sheet : Stylesheet, sheet.locate target = .error e) ∨ ∃ p, target.SelectsRules p := by
  unfold locate
  cases hselector : target.selector with
  | none => exact .inl ⟨_, fun _ => rfl⟩
  | some selector =>
    cases hp : SelectorPattern.ofText selector with
    | error e => exact .inl ⟨e, fun _ => by simp [hp, bind, Except.bind]⟩
    | ok p => exact .inr ⟨p, selector, hselector, hp⟩

/-- An edit of a property is refused on every stylesheet, or changes the children of the rules that
match one by one and counts the declarations of the property among them. -/
theorem changes_of_edit (hm : m.EditsProperty property) :
    (∃ e, ∀ sheet : Stylesheet, sheet.edit m = .failed sheet e) ∨
      ∃ (p : SelectorPattern) (value? : Option String), ∀ sheet : Stylesheet, sheet.IsSheet →
        let before := sheet.view sheet.root
        Leaves (sheet.edit m)
          (before.links.countP fun (above, n) => above.isMatch p && n.declares property)
          (before.changeChildren (Node.isMatch p) (Node.changed? property value?)) := by
  obtain ⟨hproperty, hm⟩ := hm
  have hedit (sheet : Stylesheet) :
      sheet.edit m = .needing sheet (sheet.locate m.target) (sheet.editRules m) := by
    rw [edit, if_neg (by simp [hproperty])]
  obtain ⟨e, he⟩ | ⟨p, hp⟩ := locate_eq_error_or_selects m.target
  · exact .inl ⟨e, fun sheet => by rw [hedit, he]; rfl⟩
  have hdelete : Node.changed? property none =
      fun n => if n.declares property then none else some n := rfl
  have hupdate (value : String) : Node.changed? property (some value) =
      fun n => some (if n.declares property then n.withValue value else n) := by
    funext n
    rw [Node.changed?, Option.map_some, apply_ite some]
  obtain hm | hm := hm
  · cases hvalue : m.valueText? with
    | none =>
      obtain ⟨selector, hselector, hpattern⟩ := hp
      -- an update without a value fails for every sheet alike
      refine .inl ⟨.missingValue m.operation m.path, fun sheet => ?_⟩
      simp [hedit, locate, hselector, hpattern, bind, Except.bind, pure, Except.pure,
        Edited.needing, editRules, hm, hproperty, Modification.requiredValue, hvalue]
    | some value =>
      refine .inr ⟨p, some value, fun sheet hsheet => ?_⟩
      dsimp only
      rw [hupdate, Tree.changeChildren_some]
      exact leaves_update hsheet hp hm hproperty hvalue
  · refine .inr ⟨p, none, fun sheet hsheet => ?_⟩
    dsimp only
    rw [hdelete, Tree.changeChildren_guard]
    exact leaves_delete hsheet hp hm hproperty

/-- Nothing stands below a declaration. -/
theorem Shaped.isDeclaration_eq_false_of_mem_links (hs : Shaped sheet) :
    ∀ link ∈ (sheet.view sheet.root).links, link.1.isDeclaration = false := by
  have hchildren : ∀ x ∈ sheet.matching Node.isDeclaration, sheet.children x = [] := by
    intro x hx
    by_contra hne
    have hdeclaration := (hs.mem_matching_iff.mp hx).2
    obtain rfl | ⟨n, hn, hblock⟩ := hs.mayHold x hne
    · rw [Arena.valueAt, (hs.get?_eq_root_iff _).mpr rfl] at hdeclaration
      cases hdeclaration
    · rw [Arena.valueAt, hn] at hdeclaration
      cases n with
      | declaration => cases hblock
      | _ => cases hdeclaration
  have hcount := hs.countP_links_view Node.isDeclaration fun _ => true
  rw [List.flatMap_congr fun x hx => by rw [hchildren x hx, List.filter_nil]] at hcount
  simpa using hcount

/-- An edit of one property counts the same before and after an edit of another one. -/
theorem countP_links_changed {p q : SelectorPattern} {value? : Option String}
    (hs : Shaped sheet) (hab : eqIgnoringCase a.toList b.toList = false) :
    let before := sheet.view sheet.root
    (before.changeChildren (Node.isMatch p) (Node.changed? a value?)).links.countP
        (fun link => link.1.isMatch q && link.2.declares b) =
      before.links.countP fun link => link.1.isMatch q && link.2.declares b := by
  refine Tree.countP_links_changeChildren _ (fun n n' hn => ?_) (fun n hn => ?_)
    fun link hlink hnone => ?_
  · exact ⟨Node.isMatch_of_changed? hn q, Node.declares_of_changed? hn b⟩
  · exact Node.declares_eq_false hab (Node.declares_of_changed?_eq_none hn)
  · have hdeclares := Node.declares_of_changed?_eq_none hnone
    have hlink := hs.isDeclaration_eq_false_of_mem_links link hlink
    cases hn : link.1 with
    | declaration => simp [hn, Node.isDeclaration] at hlink
    | _ => simp [hn, Node.declares] at hdeclares

/-! ### Two edits -/

/-- Updates of a property and deletions with a property commute with those of another property, up to
case: whichever is made first, each of them counts the same edits or fails with the same error as it
does alone, and the tree in the end is the same.  Trees that reading and editing lead to have the
shape that is asked for. -/
theorem edit_comm {m₁ m₂ : Modification} (hs : Shaped sheet) (h₁ : m₁.EditsProperty a)
    (h₂ : m₂.EditsProperty b) (hab : eqIgnoringCase a.toList b.toList = false) :
    let first := sheet.edit m₁
    let second := sheet.edit m₂
    (first.tree.edit m₂).result = second.result ∧ (second.tree.edit m₁).result = first.result ∧
      (first.tree.edit m₂).tree.Alike (second.tree.edit m₁).tree := by
  intro first second
  -- an edit that is refused leaves the sheet to the other one
  obtain ⟨e, he⟩ | ⟨p, value₁, hfirst⟩ := changes_of_edit h₁
  · have hfirst : first = .failed sheet e := he sheet
    rw [hfirst, he second.tree]
    exact ⟨rfl, rfl, rfl⟩
  obtain ⟨e, he⟩ | ⟨q, value₂, hsecond⟩ := changes_of_edit h₂
  · have hsecond : second = .failed sheet e := he sheet
    rw [hsecond, he first.tree]
    exact ⟨rfl, rfl, rfl⟩
  have hba : eqIgnoringCase b.toList a.toList = false := by
    rwa [eqIgnoringCase, Bool.beq_comm]
  have hs₁ : Shaped first.tree := hs.leads (leads_edit hs m₁)
  have hs₂ : Shaped second.tree := hs.leads (leads_edit hs m₂)
  obtain ⟨hresult₁, hview₁⟩ := hfirst sheet hs.isSheet
  obtain ⟨hresult₂, hview₂⟩ := hsecond sheet hs.isSheet
  obtain ⟨hresult₁₂, hview₁₂⟩ := hsecond first.tree hs₁.isSheet
  obtain ⟨hresult₂₁, hview₂₁⟩ := hfirst second.tree hs₂.isSheet
  refine ⟨?_, ?_, ?_⟩
  · rw [hresult₁₂, hresult₂, hview₁, countP_links_changed hs hab]
  · rw [hresult₂₁, hresult₁, hview₂, countP_links_changed hs hba]
  · rw [Arena.Alike, hview₂₁, hview₁₂, hview₁, hview₂]
    exact (Tree.changeChildren_comm (Node.changed?_bind_comm hab)
      (fun _ _ hn => Node.isMatch_of_changed? hn p) (fun _ _ hn => Node.isMatch_of_changed? hn q) _).symm

/-- Three nested rules, a regular expression and a selector list, and a property in two spellings. -/
theorem edit_comm_nested :
    let sheet := ofText "a,b{c:1;C:2;d:3;b{c:4;D:5;.a{d:6}}}"
    let delete : Modification :=
      { path := "a", operation := .delete, target := { selector := some "b", property := some "c" } }
    let update : Modification :=
      { path := "a", operation := .update,
        target := { selector := some "/a/", property := some "D" }, value := some (.text "7") }
    let first := sheet.edit delete
    let second := sheet.edit update
    first.result = .ok 3 ∧ second.result = .ok 2 ∧
    (first.tree.edit update).result = second.result ∧
      (second.tree.edit delete).result = first.result ∧
      (first.tree.edit update).tree.Alike (second.tree.edit delete).tree := by
  intro sheet delete update first second
  have hdelete : delete.EditsProperty "c" := ⟨rfl, .inr rfl⟩
  have hupdate : update.EditsProperty "D" := ⟨rfl, .inl rfl⟩
  refine ⟨by decide +kernel, by decide +kernel, ?_⟩
  exact edit_comm (shaped_withRoot.leads (leads_ofText _)) hdelete hupdate (by decide)

end Stylesheet

end SourceEdit
