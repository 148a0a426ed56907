import SourceEdit.Proofs.Arena.Rewriting
import SourceEdit.Proofs.Arena.Steps
import SourceEdit.Proofs.Stylesheet.Shape
import SourceEdit.Proofs.Stylesheet.Update

/-!
# Edits of a stylesheet as rewritings of the tree

The rules that a selector matches are found once, at whatever depth they stand, and then worked on one
after the other.  `rewrites_of_edit` says what comes of it as a tree.  Updates, deletions and
insertions with a property rewrite the list of the children of every rule that matches
(`Tree.mapChildren`), and count declarations or rules.  A deletion without a property takes every
such rule out, as `Tree.placing` does.  Replacements are about one rule only: `replaces_of_edit` says
that the first one that matches gives way to the item of a text.

The declarations that an update or a deletion works on are found rule by rule, in an arena that has
changed meanwhile.  They are the same as at the beginning, since the work on one rule leaves alone the
declarations of the others.
-/

namespace SourceEdit

/-- The selector of a target spells a pattern. -/
def Target.SelectsRules (target : Target) (p : SelectorPattern) : Prop :=
  ∃ selector, target.selector = some selector ∧ SelectorPattern.ofText selector = .ok p

namespace Stylesheet

variable {sheet : Stylesheet} {p : SelectorPattern} {m : Modification} {property value : String}

/-! ### Stylesheets and their rules -/

/-- A well-formed arena with the root of a stylesheet at its root. -/
structure IsSheet (sheet : Stylesheet) : Prop extends sheet.WellFormed where
  get?_root : sheet.get? sheet.root = some .root

theorem isSheet_ofForest (ts : List (Tree Node)) : IsSheet (Arena.ofForest .root ts) :=
  ⟨.ofForest _ ts, Arena.get?_root_ofForest _ ts⟩

theorem isSheet_ofText (text : String) : (ofText text).IsSheet :=
  isSheet_ofForest _

theorem Shaped.isSheet (h : Shaped sheet) : sheet.IsSheet :=
  ⟨h.toWellFormed, (h.get?_eq_root_iff _).mpr rfl⟩

theorem IsSheet.isMatch_root (h : sheet.IsSheet) (p : SelectorPattern) :
    (sheet.valueAt sheet.root).isMatch p = false := by
  rw [Arena.valueAt, h.get?_root]
  rfl

theorem rulesMatching_eq (sheet : Stylesheet) (p : SelectorPattern) :
    sheet.rulesMatching p = sheet.matching (Node.isMatch p) := by
  refine List.filter_congr fun x _ => ?_
  rw [Arena.valueAt]
  cases sheet.get? x <;> rfl

theorem declarationsNamed_eq (sheet : Stylesheet) (rule : NodeId) (property : String) :
    sheet.declarationsNamed rule property =
      (sheet.children rule).filter fun c => (sheet.valueAt c).declares property := by
  refine List.filter_congr fun x _ => ?_
  rw [Arena.valueAt]
  cases sheet.get? x <;> rfl

/-- A rule that matches has a parent. -/
theorem IsSheet.exists_parent (h : sheet.IsSheet) {rule : NodeId}
    (hrule : rule ∈ sheet.matching (Node.isMatch p)) : ∃ parent, sheet.parent? rule = some parent := by
  obtain ⟨hbelow, hmatch⟩ := h.mem_matching_iff.mp hrule
  obtain rfl | ⟨parent, hparent, -⟩ := Arena.below_iff.mp hbelow
  · simp [h.isMatch_root] at hmatch
  · exact ⟨parent, hparent⟩

/-- The rules that are located are those that the pattern of the target matches. -/
theorem locate_eq_ok_iff {target : Target} {rules : List NodeId} :
    sheet.locate target = .ok rules ↔
      ∃ p, target.SelectsRules p ∧ sheet.matching (Node.isMatch p) = rules := by
  unfold locate Target.SelectsRules
  cases target.selector with
  | none => simp
  | some selector =>
    cases hp : SelectorPattern.ofText selector with
    | error e => simp [hp, bind, Except.bind]
    | ok p => simp [hp, bind, Except.bind, pure, Except.pure, rulesMatching_eq]

/-- An edit works on the rules that the selector matches, unless it adds top-level items. -/
theorem edit_eq (hs : m.target.SelectsRules p)
    (hm : ¬ (m.operation = .insert ∧ m.target.property = none)) :
    sheet.edit m = sheet.editRules m (sheet.matching (Node.isMatch p)) := by
  rw [edit, if_neg hm, locate_eq_ok_iff.mpr ⟨p, hs, rfl⟩]
  rfl

/-- An edit has counted so many edits and left this tree. -/
structure Leaves (e : Edited Stylesheet) (count : Nat) (t : Tree Node) : Prop where
  result_eq : e.result = .ok count
  view_eq : e.tree.view e.tree.root = t

/-! ### Declarations -/

/-- The declarations of a property in the rules that match, rule by rule. -/
def declarationsFound (sheet : Stylesheet) (p : SelectorPattern) (property : String) : List NodeId :=
  (sheet.matching (Node.isMatch p)).flatMap fun rule => sheet.declarationsNamed rule property

/-- As many declarations are found as there are links in the tree from a rule that matches to a
declaration of the property. -/
theorem length_declarationsFound (hw : sheet.WellFormed) :
    (sheet.declarationsFound p property).length =
      (sheet.view sheet.root).links.countP fun (above, n) =>
        above.isMatch p && n.declares property := by
  simp only [hw.countP_links_view (Node.isMatch p) (Node.declares property), declarationsFound,
    declarationsNamed_eq]

/-- A child of a node is found if the node is a rule that matches and the child a declaration of the
property. -/
theorem mem_declarationsFound_iff (hw : sheet.WellFormed) {x c : NodeId}
    (hx : sheet.Below x sheet.root) (hc : c ∈ sheet.children x) :
    c ∈ sheet.declarationsFound p property ↔
      (sheet.valueAt x).isMatch p = true ∧ (sheet.valueAt c).declares property = true := by
  simp only [declarationsFound, declarationsNamed_eq, List.mem_flatMap, List.mem_filter,
    hw.mem_matching_iff]
  constructor
  · rintro ⟨y, ⟨-, hy⟩, hcy, hdeclares⟩
    rw [hw.mem_children_iff] at hc hcy
    obtain rfl : y = x := Option.some.inj (hcy.symm.trans hc)
    exact ⟨hy, hdeclares⟩
  · rintro ⟨hmatch, hdeclares⟩
    exact ⟨x, ⟨hx, hmatch⟩, hc, hdeclares⟩

/-- What is found has a parent. -/
theorem root_not_mem_declarationsFound (hw : sheet.WellFormed) :
    sheet.root ∉ sheet.declarationsFound p property := by
  simp only [declarationsFound, declarationsNamed_eq, List.mem_flatMap, List.mem_filter,
    hw.mem_children_iff, hw.parent?_root]
  simp

theorem leaves_updateDeclarations (hw : sheet.WellFormed) (p : SelectorPattern)
    (property value : String) :
    let before := sheet.view sheet.root
    Leaves (sheet.updateDeclarations (sheet.matching (Node.isMatch p)) property value)
      (before.links.countP fun (above, n) => above.isMatch p && n.declares property)
      (before.mapChildren (Node.isMatch p) (List.map (Tree.mapValue fun n =>
        if n.declares property then n.withValue value else n))) := by
  rw [updateDeclarations_eq]
  refine ⟨congrArg Except.ok (length_declarationsFound hw), Eq.symm ?_⟩
  exact hw.mapChildren_foldl_modifyValue (Node.withValue_withValue value)
    (root_not_mem_declarationsFound hw) fun _ hx _ hc => mem_declarationsFound_iff hw hx hc

/-- A deletion goes through the declarations that are there at the beginning. -/
theorem deleteDeclarations_eq (hw : sheet.WellFormed) {rules : List NodeId} (hrules : rules.Nodup)
    (property : String) :
    let ids := rules.flatMap fun rule => sheet.declarationsNamed rule property
    sheet.deleteDeclarations rules property = .done (ids.foldl Arena.detach sheet) ids.length := by
  have hkept : rules.Pairwise fun rule later => ∀ sheet : Stylesheet, sheet.WellFormed →
      declarationsNamed ((sheet.declarationsNamed rule property).foldl Arena.detach sheet) later
        property = sheet.declarationsNamed later property := by
    refine hrules.imp fun {rule later} hne sheet hw => ?_
    simp only [declarationsNamed_eq, hw.children_foldl_detach, Arena.valueAt,
      Arena.get?_foldl_detach]
    -- the children of one rule are not those of another one
    congr 1
    refine List.filter_eq_self.mpr fun c hc => decide_eq_true fun hmem => hne ?_
    have hlater := (hw.mem_children_iff later c).mp hc
    have hrule := (hw.mem_children_iff rule c).mp (List.mem_of_mem_filter hmem)
    exact Option.some.inj (hrule.symm.trans hlater)
  have hloop := foldl_declarations_eq sheet hw (fun _ _ hw => hw.foldl_detach _) hkept 0
  simp only [Nat.zero_add] at hloop
  exact congrArg (fun result => Edited.done result.1 result.2) hloop

theorem leaves_deleteDeclarations (hw : sheet.WellFormed) (p : SelectorPattern) (property : String) :
    let before := sheet.view sheet.root
    Leaves (sheet.deleteDeclarations (sheet.matching (Node.isMatch p)) property)
      (before.links.countP fun (above, n) => above.isMatch p && n.declares property)
      (before.mapChildren (Node.isMatch p) (List.filter fun t => !t.value.declares property)) := by
  rw [deleteDeclarations_eq hw (hw.nodup_matching _)]
  refine ⟨congrArg Except.ok (length_declarationsFound hw), Eq.symm ?_⟩
  exact hw.mapChildren_foldl_detach fun _ hx _ hc => mem_declarationsFound_iff hw hx hc

/-! ### New declarations -/

/-- Whether an insertion puts a declaration before those that are there. -/
def InsertsFirst (position : Option Position) : Prop :=
  position = some .prepend ∨ position = some .before

instance (position : Option Position) : Decidable (InsertsFirst position) :=
  inferInstanceAs (Decidable (_ ∨ _))

theorem placed_insertDeclaration {n : Nat} (h : sheet.Grown n) (declaration : Node)
    (position : Option Position) {rule : NodeId} (hrule : rule < n) :
    Arena.Placed (if InsertsFirst position then .prepend else .inside) [.leaf declaration] n sheet
      [rule] (insertDeclaration declaration position sheet rule) := by
  have hg : Arena.Grafted sheet (.leaf declaration) (sheet.alloc declaration).1
      (sheet.alloc declaration).2 := Arena.graft_spec h.wellFormed (.leaf declaration)
  have hfirst := Arena.placed_insertChild h hg hrule
  have hlast := Arena.placed_appendChildren h hg.graftedAll hrule
  cases position with
  | none => exact hlast
  | some position => cases position with
    | before | prepend => exact hfirst
    | inside | after => exact hlast

theorem leaves_insertDeclarations (h : sheet.IsSheet) (p : SelectorPattern) (property value : String)
    (position : Option Position) :
    let before := sheet.view sheet.root
    let new := Tree.leaf (insertedDeclaration property value)
    Leaves (sheet.insertDeclarations (sheet.matching (Node.isMatch p)) property value position)
      (before.values.countP (Node.isMatch p))
      (before.mapChildren (Node.isMatch p) fun cs =>
        if InsertsFirst position then new :: cs else cs ++ [new]) := by
  intro before new
  refine ⟨congrArg Except.ok (h.length_matching _), ?_⟩
  have hplaced := h.grown.placed_foldl (h.nodup_matching (Node.isMatch p)) fun b hb e he =>
    placed_insertDeclaration hb (insertedDeclaration property value) position
      (h.lt_size_of_mem_matching he)
  have hview := hplaced.view_root (h.isMatch_root p) fun x hx _ => by
    simp [h.mem_matching_iff, hx]
  split at hview
  · next hfirst =>
    rw [Tree.placing_prepend] at hview
    simp only [hfirst, if_true]
    exact (List.singleton_inj.mp hview).symm
  · next hlast =>
    rw [Tree.placing_inside] at hview
    simp only [hlast, if_false]
    exact (List.singleton_inj.mp hview).symm

/-! ### Rules -/

theorem leaves_deleteRules (h : sheet.IsSheet) (p : SelectorPattern) :
    let before := sheet.view sheet.root
    ∃ t, before.placing .instead (Node.isMatch p) [] = [t] ∧
      Leaves (sheet.deleteRules (sheet.matching (Node.isMatch p)))
        (before.values.countP (Node.isMatch p)) t := by
  have hplaced := h.grown.placed_foldl (h.nodup_matching (Node.isMatch p)) fun b hb e he =>
    Arena.placed_detach hb (h.lt_size_of_mem_matching he)
  exact ⟨_, hplaced.view_root (h.isMatch_root p) fun x hx _ => by simp [h.mem_matching_iff, hx],
    congrArg Except.ok (h.length_matching _), rfl⟩

/-! ### Edits -/

theorem leaves_update (h : sheet.IsSheet) (hs : m.target.SelectsRules p)
    (hm : m.operation = .update) (hproperty : m.target.property = some property)
    (hvalue : m.valueText? = some value) :
    let before := sheet.view sheet.root
    Leaves (sheet.edit m)
      (before.links.countP fun (above, n) => above.isMatch p && n.declares property)
      (before.mapChildren (Node.isMatch p) (List.map (Tree.mapValue fun n =>
        if n.declares property then n.withValue value else n))) := by
  have hedit : sheet.edit m =
      sheet.updateDeclarations (sheet.matching (Node.isMatch p)) property value := by
    simp only [edit_eq hs (by simp [hm]), editRules, hm, hproperty, requiredValue_eq hvalue,
      Edited.needing]
  exact hedit ▸ leaves_updateDeclarations h.toWellFormed p property value

theorem leaves_delete (h : sheet.IsSheet) (hs : m.target.SelectsRules p)
    (hm : m.operation = .delete) (hproperty : m.target.property = some property) :
    let before := sheet.view sheet.root
    Leaves (sheet.edit m)
      (before.links.countP fun (above, n) => above.isMatch p && n.declares property)
      (before.mapChildren (Node.isMatch p) (List.filter fun t => !t.value.declares property)) := by
  have hedit : sheet.edit m =
      sheet.deleteDeclarations (sheet.matching (Node.isMatch p)) property := by
    simp only [edit_eq hs (by simp [hm]), editRules, hm, hproperty]
  exact hedit ▸ leaves_deleteDeclarations h.toWellFormed p property

theorem leaves_insert (h : sheet.IsSheet) (hs : m.target.SelectsRules p)
    (hm : m.operation = .insert) (hproperty : m.target.property = some property)
    (hvalue : m.valueText? = some value) :
    let before := sheet.view sheet.root
    let new := Tree.leaf (insertedDeclaration property value)
    Leaves (sheet.edit m) (before.values.countP (Node.isMatch p))
      (before.mapChildren (Node.isMatch p) fun cs =>
        if InsertsFirst m.position then new :: cs else cs ++ [new]) := by
  have hedit : sheet.edit m =
      sheet.insertDeclarations (sheet.matching (Node.isMatch p)) property value m.position := by
    simp only [edit_eq hs (by simp [hproperty]), editRules, hm, hproperty, requiredValue_eq hvalue,
      Edited.needing]
  exact hedit ▸ leaves_insertDeclarations h p property value m.position

/-- An update sets the values of the declarations of the property that are children of rules that
match, and a deletion with a property takes these declarations out; both count them.  An insertion
with a property adds a declaration to every rule that matches, and a deletion without a property
prunes every such rule; both count the rules, nested ones included.  Nothing else changes. -/
theorem rewrites_of_edit (h : sheet.IsSheet) (hs : m.target.SelectsRules p) :
    let before := sheet.view sheet.root
    let rule := Node.isMatch p
    let rules := before.values.countP rule
    let declarations (property : String) :=
      before.links.countP fun (above, n) => rule above && n.declares property
    (∀ property value, m.operation = .update → m.target.property = some property →
      m.valueText? = some value →
      Leaves (sheet.edit m) (declarations property)
        (before.mapChildren rule (List.map (Tree.mapValue fun n =>
          if n.declares property then n.withValue value else n)))) ∧
    (∀ property, m.operation = .delete → m.target.property = some property →
      Leaves (sheet.edit m) (declarations property)
        (before.mapChildren rule (List.filter fun t => !t.value.declares property))) ∧
    (∀ property value, m.operation = .insert → m.target.property = some property →
      m.valueText? = some value →
      let new := Tree.leaf (.declaration (String.ofList (trim property.toList))
        (String.ofList (trim (trimEndBy (· == ';') (trim value.toList)))))
      Leaves (sheet.edit m) rules (before.mapChildren rule fun cs =>
        if m.position = some .prepend ∨ m.position = some .before then new :: cs
        else cs ++ [new])) ∧
    (m.operation = .delete → m.target.property = none →
      ∃ after, before.placing .instead rule [] = [after] ∧ Leaves (sheet.edit m) rules after) := by
  intro before rule rules declarations
  refine ⟨fun property value hm hproperty hvalue => leaves_update h hs hm hproperty hvalue,
    fun property hm hproperty => leaves_delete h hs hm hproperty,
    fun property value hm hproperty hvalue => leaves_insert h hs hm hproperty hvalue,
    fun hm hproperty => ?_⟩
  have hedit : sheet.edit m = sheet.deleteRules (sheet.matching rule) := by
    simp only [edit_eq hs (by simp [hm]), editRules, hm, hproperty, rule]
  exact hedit ▸ leaves_deleteRules h p

/-- A rule that matches in another one, with declarations of one property in different case. -/
theorem rewrites_of_edit_nested :
    let declaration (property value : String) : Tree Node := .leaf (.declaration property value)
    let sheet : Stylesheet := .ofForest .root [.node (.atRule "media" "" true)
      [.node (.rule "a") [declaration "B" "1", declaration "c" "2",
        .node (.rule "a") [declaration "b" "3"]]], .node (.rule "d") [declaration "b" "4"]]
    let delete : Modification :=
      { path := "a", operation := .delete, target := { selector := some "a", property := some "b" } }
    let update : Modification := { delete with operation := .update, value := some (.text "5") }
    let insert : Modification :=
      { update with operation := .insert, value := some (.text " 5; "), position := some .prepend }
    Leaves (sheet.edit update) 2 (.node .root [.node (.atRule "media" "" true)
      [.node (.rule "a") [declaration "B" "5", declaration "c" "2",
        .node (.rule "a") [declaration "b" "5"]]], .node (.rule "d") [declaration "b" "4"]]) ∧
    Leaves (sheet.edit delete) 2 (.node .root [.node (.atRule "media" "" true)
      [.node (.rule "a") [declaration "c" "2", .node (.rule "a") []]],
        .node (.rule "d") [declaration "b" "4"]]) ∧
    Leaves (sheet.edit insert) 2 (.node .root [.node (.atRule "media" "" true)
      [.node (.rule "a") [declaration "b" "5", declaration "B" "1", declaration "c" "2",
        .node (.rule "a") [declaration "b" "5", declaration "b" "3"]]],
        .node (.rule "d") [declaration "b" "4"]]) ∧
    Leaves (sheet.edit { delete with target := { selector := some "a" } }) 2
      (.node .root [.node (.atRule "media" "" true) [], .node (.rule "d") [declaration "b" "4"]]) := by
  intro declaration sheet delete update insert
  have hs : delete.target.SelectsRules (.exact ['a']) := ⟨"a", rfl, rfl⟩
  have h (m : Modification) (hs : m.target.SelectsRules (.exact ['a'])) :=
    rewrites_of_edit (isSheet_ofForest _ : sheet.IsSheet) hs
  simp only [Arena.view_ofForest] at h
  refine ⟨(h update hs).1 "b" "5" rfl rfl rfl, (h delete hs).2.1 "b" rfl rfl,
    (h insert hs).2.2.1 "b" " 5; " rfl rfl rfl, ?_⟩
  obtain ⟨after, hafter, hleaves⟩ := (h { delete with target := { selector := some "a" } }
    ⟨"a", rfl, rfl⟩).2.2.2 rfl rfl
  obtain rfl : _ = after := List.singleton_inj.mp hafter
  exact hleaves

/-! ### Replacements -/

/-- The first item of a text that is not a comment. -/
def firstItem? (items : List (Tree Node)) : Option (Tree Node) :=
  items.find? fun t => !t.value.isComment

/-- The item that a text offers is looked for among its items, and found as the node that it has
become. -/
theorem replacement?_eq (f : NodeId → Tree Node) (nodes : List NodeId) :
    (firstItem? (nodes.map f)).filter (fun t => t.value.hasBlock) =
      (replacement? (nodes.map f) nodes).map f := by
  have hzip : (nodes.map f).zip nodes = nodes.map fun id => (f id, id) := by
    induction nodes with
    | nil => rfl
    | cons id nodes ih => rw [List.map_cons, List.zip_cons_cons, ih, List.map_cons]
  rw [replacement?, hzip, List.find?_map, firstItem?, List.find?_map]
  dsimp only [Function.comp_def]
  cases nodes.find? fun id => !(f id).value.isComment with
  | none => rfl
  | some id => by_cases hblock : (f id).value.hasBlock = true <;> simp [hblock]

/-- A replacement by a text that offers no item fails. One by a text that offers an item puts it, with
all that is below it, in the place of the first rule that matches. -/
theorem replaceRule_eq (h : sheet.IsSheet) {first : NodeId} {rest : List NodeId}
    (hrules : sheet.matching (Node.isMatch p) = first :: rest) (value : String) :
    let before := sheet.view sheet.root
    let edited := sheet.replaceRule (first :: rest) value
    match (firstItem? (itemsOfText value)).filter fun t => t.value.hasBlock with
    | none => edited.result = .error (.noRule value) ∧ edited.tree.view edited.tree.root = before
    | some t => ∃ after, Tree.replaceFirst? (Node.isMatch p) t before = some after ∧
        Leaves edited 1 after := by
  have hfirst : first ∈ sheet.matching (Node.isMatch p) := by simp [hrules]
  obtain ⟨parent, hparent⟩ := h.exists_parent hfirst
  -- the root has no parent, so it is not the rule
  have hne : first ≠ sheet.root := by
    rintro rfl
    simp [h.parent?_root] at hparent
  have hg := Arena.graftAll_spec h.toWellFormed (itemsOfText value)
  simp only [replaceRule]
  generalize sheet.graftAll (itemsOfText value) = grafted at hg ⊢
  obtain ⟨grown, nodes⟩ := grafted
  dsimp only at hg ⊢
  have hitem := replacement?_eq grown.view nodes
  rw [hg.view_eq] at hitem
  rw [hitem]
  cases hid : replacement? (itemsOfText value) nodes with
  | none => exact ⟨rfl, hg.extends_.view_eq h.toWellFormed hg.wellFormed h.root_lt_size⟩
  | some id =>
    obtain ⟨replaced, hreplace, hplaced⟩ := Arena.exists_replace? h.grown hg
      (mem_of_replacement?_eq_some hid) (h.lt_size_of_mem_matching hfirst) hparent
    simp only [Option.map_some, hreplace]
    exact ⟨_, hplaced.replaceFirst?_view (by rw [hrules, List.head?_cons]) hne, rfl, rfl⟩

/-- If no rule matches, a replacement does nothing. Otherwise it fails if the first item of the text
that is not a comment is missing or has no block, and else it puts this item with all that is below
it in the place of the first rule that matches. -/
theorem replaces_of_edit (h : sheet.IsSheet) (hs : m.target.SelectsRules p)
    (hm : m.operation = .replace) (hvalue : m.valueText? = some value) :
    let before := sheet.view sheet.root
    let item := firstItem? (itemsOfText value)
    ((∀ n ∈ before.values, n.isMatch p = false) → Leaves (sheet.edit m) 0 before) ∧
    ((∃ n ∈ before.values, n.isMatch p = true) →
      ((∀ t, item = some t → t.value.hasBlock = false) →
        (sheet.edit m).result = .error (.noRule value) ∧
          (sheet.edit m).tree.view (sheet.edit m).tree.root = before) ∧
      ∀ t, item = some t → t.value.hasBlock = true →
        ∃ after, Tree.replaceFirst? (Node.isMatch p) t before = some after ∧
          Leaves (sheet.edit m) 1 after) := by
  intro before item
  have hedit : sheet.edit m = sheet.replaceRule (sheet.matching (Node.isMatch p)) value := by
    simp only [edit_eq hs (by simp [hm]), editRules, hm, requiredValue_eq hvalue, Edited.needing]
  have hcount := h.length_matching (Node.isMatch p)
  refine ⟨fun hnone => ?_, fun hsome => ?_⟩
  · -- no rule matches
    have hnil : sheet.matching (Node.isMatch p) = [] := by
      rw [← List.length_eq_zero_iff, hcount, List.countP_eq_zero]
      simpa using hnone
    rw [hedit, hnil]
    exact ⟨rfl, rfl⟩
  · obtain ⟨first, rest, hrules⟩ := List.exists_cons_of_length_pos
      (hcount ▸ List.countP_pos_iff.mpr hsome)
    have hreplace := replaceRule_eq h hrules value
    rw [hedit, hrules]
    refine ⟨fun hno => ?_, fun t ht hblock => ?_⟩
    · have hnone : (firstItem? (itemsOfText value)).filter (fun t => t.value.hasBlock) = none :=
        Option.filter_eq_none_iff.mpr fun t ht => by simp [hno t ht]
      rwa [hnone] at hreplace
    · have hsome : (firstItem? (itemsOfText value)).filter (fun t => t.value.hasBlock) = some t :=
        Option.filter_eq_some_iff.mpr ⟨ht, hblock⟩
      rwa [hsome] at hreplace

/-- The first of three rules that match stands in an at-rule and holds the second one. -/
theorem replaces_of_edit_nested :
    let sheet : Stylesheet := .ofForest .root [.node (.atRule "media" "" true)
      [.node (.rule "a") [.node (.rule "a") []]], .node (.rule "a") []]
    let replace (selector value : String) : Modification :=
      { path := "a", operation := .replace, target := { selector := some selector },
        value := some (.text value) }
    Leaves (sheet.edit (replace "a" "/*b*/c\x7bd:e\x7d")) 1 (.node .root
      [.node (.atRule "media" "" true) [.node (.rule "c") [.leaf (.declaration "d" "e")]],
        .node (.rule "a") []]) ∧
    (sheet.edit (replace "a" "d:e;c\x7b\x7d")).result = .error (.noRule "d:e;c\x7b\x7d") ∧
    Leaves (sheet.edit (replace "b" "c\x7b\x7d")) 0 (sheet.view sheet.root) := by
  intro sheet replace
  have h (value : String) := replaces_of_edit (isSheet_ofForest _ : sheet.IsSheet)
    (m := replace "a" value) (p := .exact ['a']) ⟨"a", rfl, rfl⟩ rfl rfl
  have hview : sheet.view sheet.root = .node .root [.node (.atRule "media" "" true)
      [.node (.rule "a") [.node (.rule "a") []]], .node (.rule "a") []] := Arena.view_ofForest ..
  rw [hview] at h
  have hsome : ∃ n ∈ (Tree.node Node.root [.node (.atRule "media" "" true)
      [.node (.rule "a") [.node (.rule "a") []]], .node (.rule "a") []]).values,
      n.isMatch (.exact ['a']) = true := ⟨.rule "a", by decide, by decide⟩
  refine ⟨?_, ?_, ?_⟩
  · obtain ⟨after, hafter, hleaves⟩ := ((h "/*b*/c\x7bd:e\x7d").2 hsome).2
      (.node (.rule "c") [.leaf (.declaration "d" "e")]) rfl rfl
    obtain rfl := Option.some.inj hafter
    exact hleaves
  · refine (((h "d:e;c\x7b\x7d").2 hsome).1 fun t ht => ?_).1
    obtain rfl : Tree.leaf (.declaration "d" "e") = t := Option.some.inj ht
    rfl
  · exact (replaces_of_edit (isSheet_ofForest _ : sheet.IsSheet)
      (m := replace "b" "c\x7b\x7d") (p := .exact ['b']) ⟨"b", rfl, rfl⟩ rfl rfl).1
        (by rw [hview]; decide)

end Stylesheet

end SourceEdit
