import SourceEdit.Proofs.Tree.Placement

/-!
# Rewriting children and single nodes

`Tree.mapChildren` rewrites the list of the children of every node whose value satisfies a predicate,
nodes further down before those above them.  Putting a forest among the children of nodes is a
rewriting of this kind (`placing_prepend`, `placing_inside`).  `Tree.links` is what such rewritings
are counted by: the links of a tree, each as the value at a node and the value at one of its children.

`Tree.changeChildren` is the rewriting that looks at one child after the other, and changes its value
or drops it.  Two of these commute if neither is seen by the other (`changeChildren_comm`), and what
the other one counts stays the same (`countP_links_changeChildren`).

`Tree.replaceFirst?` puts a tree in the place of one node only, the first in document order whose
value satisfies a predicate.
-/

namespace SourceEdit.Tree

variable {α : Type}

/-- Changes the value at the root. -/
def mapValue (g : α → α) : Tree α → Tree α
  | .node v cs => .node (g v) cs

theorem value_node (v : α) (cs : List (Tree α)) : (node v cs).value = v := rfl

/-! ### Links -/

mutual

/-- The links of a tree, from the value at a node to the value at a child of it. -/
def links : Tree α → List (α × α)
  | .node v cs => cs.map (fun c => (v, c.value)) ++ linksAll cs

/-- The links of the trees of a forest. -/
def linksAll : List (Tree α) → List (α × α)
  | [] => []
  | t :: ts => t.links ++ linksAll ts

end

theorem linksAll_eq (ts : List (Tree α)) : linksAll ts = ts.flatMap links := by
  induction ts with
  | nil => rfl
  | cons t ts ih => rw [linksAll, ih, List.flatMap_cons]

theorem links_node (v : α) (cs : List (Tree α)) :
    (node v cs).links = cs.map (fun c => (v, c.value)) ++ cs.flatMap links := by
  rw [links, linksAll_eq]

/-! ### Rewriting the children of nodes -/

mutual

/-- Rewrites the list of the children of every node whose value satisfies a predicate. -/
def mapChildren (p : α → Bool) (f : List (Tree α) → List (Tree α)) : Tree α → Tree α
  | .node v cs =>
    let cs := mapChildrenAll p f cs
    .node v (if p v then f cs else cs)

/-- Rewrites the list of the children of every node of a forest whose value satisfies a predicate. -/
def mapChildrenAll (p : α → Bool) (f : List (Tree α) → List (Tree α)) :
    List (Tree α) → List (Tree α)
  | [] => []
  | t :: ts => t.mapChildren p f :: mapChildrenAll p f ts

end

section MapChildren

variable (p : α → Bool) (f : List (Tree α) → List (Tree α)) (new : List (Tree α))

theorem mapChildrenAll_eq (ts : List (Tree α)) :
    mapChildrenAll p f ts = ts.map (mapChildren p f) := by
  induction ts with
  | nil => rfl
  | cons t ts ih => rw [mapChildrenAll, ih, List.map_cons]

theorem mapChildren_node (v : α) (cs : List (Tree α)) :
    (node v cs).mapChildren p f =
      .node v (if p v then f (cs.map (mapChildren p f)) else cs.map (mapChildren p f)) := by
  rw [mapChildren, mapChildrenAll_eq]

theorem value_mapChildren (t : Tree α) : (t.mapChildren p f).value = t.value := by
  cases t
  rw [mapChildren_node, value_node, value_node]

/-- Nodes that are put in are not gone into. -/
example : (node 1 [leaf 0, node 1 []]).mapChildren (· == 1) (leaf 1 :: ·) =
    .node 1 [leaf 1, leaf 0, .node 1 [leaf 1]] := rfl

/-- A placement that leaves the nodes alone puts a forest among their children. -/
private theorem placing_among {k : Placement}
    (hk : ∀ (new : List (Tree α)) (item : Tree α), k.around new item = [item]) (t : Tree α) :
    t.placing k p new = [t.mapChildren p (k.among new)] := by
  induction t using Tree.induction with
  | node v cs ih =>
    have hcs : cs.flatMap (placing k p new) = cs.map (mapChildren p (k.among new)) := by
      rw [List.flatMap_congr ih, List.map_eq_flatMap]
    rw [placing_node, mapChildren_node, hk, hcs]
    split <;> rfl

theorem placing_prepend (t : Tree α) :
    t.placing .prepend p new = [t.mapChildren p (new ++ ·)] :=
  placing_among p new (fun _ _ => rfl) t

theorem placing_inside (t : Tree α) :
    t.placing .inside p new = [t.mapChildren p (· ++ new)] :=
  placing_among p new (fun _ _ => rfl) t

end MapChildren

/-! ### Changing and dropping children -/

/-- Changes the value at the root, or drops the tree. -/
def changeRoot? (g : α → Option α) : Tree α → Option (Tree α)
  | .node v cs => (g v).map fun w => node w cs

/-- Changes or drops every child of the nodes whose values satisfy a predicate. -/
def changeChildren (p : α → Bool) (g : α → Option α) : Tree α → Tree α :=
  mapChildren p (List.filterMap (changeRoot? g))

section ChangeChildren

variable {p q : α → Bool} {g h : α → Option α}

theorem changeChildren_node (p : α → Bool) (g : α → Option α) (v : α) (cs : List (Tree α)) :
    (node v cs).changeChildren p g =
      .node v (if p v then (cs.map (changeChildren p g)).filterMap (changeRoot? g)
        else cs.map (changeChildren p g)) :=
  mapChildren_node p _ v cs

/-- Dropping no child is changing every one. -/
theorem changeChildren_some (p : α → Bool) (f : α → α) :
    changeChildren p (fun v => some (f v)) = mapChildren p (List.map (mapValue f)) := by
  have hroot : changeRoot? (fun v => some (f v)) = fun t => some (mapValue f t) := by
    funext t
    cases t
    rfl
  rw [changeChildren, hroot, List.filterMap_eq_map']

/-- Dropping children without changing the others. -/
theorem changeChildren_guard (p d : α → Bool) :
    changeChildren p (fun v => if d v then none else some v) =
      mapChildren p (List.filter fun t => !d t.value) := by
  have hroot : changeRoot? (fun v => if d v then none else some v) =
      Option.guard fun t : Tree α => !d t.value := by
    funext t
    cases t with
    | node v cs => by_cases hd : d v = true <;> simp [changeRoot?, Option.guard, value, hd]
  rw [changeChildren, hroot, List.filterMap_eq_filter]

theorem changeRoot?_bind (g h : α → Option α) (t : Tree α) :
    (t.changeRoot? g).bind (changeRoot? h) = t.changeRoot? fun v => (g v).bind h := by
  cases t with
  | node v cs => cases hv : g v <;> simp [changeRoot?, hv]

/-- A change that the predicate does not see can be made at the roots of a forest before or after the
children of its nodes are changed. -/
theorem filterMap_changeRoot?_map (hp : ∀ v w, h v = some w → p w = p v) (ts : List (Tree α)) :
    (ts.map (changeChildren p g)).filterMap (changeRoot? h) =
      (ts.filterMap (changeRoot? h)).map (changeChildren p g) := by
  rw [List.filterMap_map, List.map_filterMap]
  refine List.filterMap_congr fun t _ => ?_
  cases t with
  | node v cs =>
    rw [Function.comp, changeChildren_node, changeRoot?, changeRoot?, Option.map_map]
    cases hv : h v with
    | none => rfl
    | some w => simp [changeChildren_node, hp v w hv]

/-- Changing children twice is changing them once, if the predicate does not see the first change. -/
theorem changeChildren_changeChildren (hp : ∀ v w, g v = some w → p w = p v) (t : Tree α) :
    (t.changeChildren p g).changeChildren p h = t.changeChildren p fun v => (g v).bind h := by
  induction t using Tree.induction with
  | node v cs ih =>
    have hbelow : (cs.map (changeChildren p g)).map (changeChildren p h) =
        cs.map (changeChildren p fun v => (g v).bind h) := by
      rw [List.map_map]
      exact List.map_congr_left ih
    simp only [changeChildren_node]
    split_ifs
    · simp only [← filterMap_changeRoot?_map hp, hbelow, List.filterMap_filterMap, changeRoot?_bind]
    · rw [hbelow]

/-- Two changes of children that commute at every node, and of which neither is seen by the predicate
of the other one, can be made in either order. -/
theorem changeChildren_comm (hgh : ∀ v, (g v).bind h = (h v).bind g)
    (hp : ∀ v w, h v = some w → p w = p v) (hq : ∀ v w, g v = some w → q w = q v) (t : Tree α) :
    (t.changeChildren p g).changeChildren q h = (t.changeChildren q h).changeChildren p g := by
  induction t using Tree.induction with
  | node v cs ih =>
    have hbelow : (cs.map (changeChildren p g)).map (changeChildren q h) =
        (cs.map (changeChildren q h)).map (changeChildren p g) := by
      rw [List.map_map, List.map_map]
      exact List.map_congr_left ih
    have hroots (ts : List (Tree α)) : (ts.filterMap (changeRoot? g)).filterMap (changeRoot? h) =
        (ts.filterMap (changeRoot? h)).filterMap (changeRoot? g) := by
      simp only [List.filterMap_filterMap, changeRoot?_bind, hgh]
    simp only [changeChildren_node]
    -- by which of the two changes work on the children of this node
    split_ifs
    · rw [← filterMap_changeRoot?_map hq, hbelow, hroots, filterMap_changeRoot?_map hp]
    · rw [hbelow, filterMap_changeRoot?_map hp]
    · rw [← filterMap_changeRoot?_map hq, hbelow]
    · rw [hbelow]

/-- The links of a tree, counted child by child. -/
theorem countP_links_node (q : α × α → Bool) (v : α) (cs : List (Tree α)) :
    (node v cs).links.countP q = (cs.flatMap fun c => (v, c.value) :: c.links).countP q := by
  rw [links_node]
  induction cs with
  | nil => rfl
  | cons c cs ih =>
    simp only [List.map_cons, List.flatMap_cons, List.cons_append, List.countP_cons,
      List.countP_append] at ih ⊢
    omega

private theorem countP_flatMap_congr {β γ : Type} {q : γ → Bool} {f g : β → List γ} {l : List β}
    (h : ∀ x ∈ l, (f x).countP q = (g x).countP q) : (l.flatMap f).countP q = (l.flatMap g).countP q := by
  induction l with
  | nil => rfl
  | cons x l ih =>
    obtain ⟨hx, hl⟩ := List.forall_mem_cons.mp h
    rw [List.flatMap_cons, List.flatMap_cons, List.countP_append, List.countP_append, hx, ih hl]

/-- A change of children that is seen by neither predicate, and drops nothing that the second one
holds of and nothing that has children, leaves the number of links between the two as it is. -/
theorem countP_links_changeChildren {p d : α → Bool} (q : α → Bool) {h : α → Option α}
    (hsame : ∀ v w, h v = some w → p w = p v ∧ d w = d v) (hdropped : ∀ v, h v = none → d v = false)
    {t : Tree α} (hkept : ∀ link ∈ t.links, h link.1 ≠ none) :
    (t.changeChildren q h).links.countP (fun link => p link.1 && d link.2) =
      t.links.countP fun link => p link.1 && d link.2 := by
  -- the links from a node count the same after a change of its value
  have hroot {v w : α} (hv : h v = some w) (ts : List (Tree α)) :
      (node w ts).links.countP (fun link => p link.1 && d link.2) =
        (node v ts).links.countP fun link => p link.1 && d link.2 := by
    simp only [links_node, List.countP_append, List.countP_map, Function.comp_def, (hsame v w hv).1]
  induction t using Tree.induction with
  | node v cs ih =>
    have hkept' : ∀ c ∈ cs, ∀ link ∈ c.links, h link.1 ≠ none := by
      refine fun c hc link hlink => hkept link ?_
      rw [links_node]
      exact List.mem_append_right _ (List.mem_flatMap.mpr ⟨c, hc, hlink⟩)
    rw [changeChildren_node, countP_links_node, countP_links_node]
    split_ifs
    · rw [List.filterMap_map, List.filterMap_eq_flatMap_toList, List.flatMap_assoc]
      refine countP_flatMap_congr fun c hc => ?_
      have hbelow := ih c hc (hkept' c hc)
      rw [List.countP_cons, ← hbelow]
      cases c with
      | node w ds =>
        rw [Function.comp, changeChildren_node, changeRoot?]
        cases hw : h w with
        | some w' =>
          rw [Option.map_some, Option.toList_some, List.flatMap_singleton, List.countP_cons, hroot hw,
            value_node, value_node, (hsame w w' hw).2]
        | none =>
          -- what is dropped has no children, since these would make a link
          cases ds with
          | nil => simp [links_node, hdropped w hw, value_node]
          | cons d ds =>
            exact absurd hw (hkept' _ hc (w, d.value) (by simp [links_node]))
    · rw [List.flatMap_map]
      refine countP_flatMap_congr fun c hc => ?_
      rw [List.countP_cons, List.countP_cons, ih c hc (hkept' c hc)]
      cases c with
      | node w ds => rw [changeChildren_node, value_node, value_node]

end ChangeChildren

/-! ### Replacing one node -/

mutual

/-- Puts a tree in the place of the first node, in document order, whose value satisfies a predicate. -/
def replaceFirst? (p : α → Bool) (new : Tree α) : Tree α → Option (Tree α)
  | .node v cs => if p v then some new else (replaceFirstAll? p new cs).map (node v)

/-- Puts a tree in the place of the first node of a forest whose value satisfies a predicate. -/
def replaceFirstAll? (p : α → Bool) (new : Tree α) : List (Tree α) → Option (List (Tree α))
  | [] => none
  | t :: ts =>
    match replaceFirst? p new t with
    | some t => some (t :: ts)
    | none => (replaceFirstAll? p new ts).map (t :: ·)

end

section ReplaceFirst

variable {p : α → Bool} {new : Tree α}

theorem replaceFirstAll?_eq_none_iff {ts : List (Tree α)} :
    replaceFirstAll? p new ts = none ↔ ∀ t ∈ ts, replaceFirst? p new t = none := by
  induction ts with
  | nil => simp [replaceFirstAll?]
  | cons t ts ih =>
    rw [replaceFirstAll?, List.forall_mem_cons]
    cases ht : replaceFirst? p new t <;> simp [ih]

/-- Nothing is replaced exactly if the value of no node satisfies the predicate. -/
theorem replaceFirst?_eq_none_iff {t : Tree α} :
    replaceFirst? p new t = none ↔ ∀ v ∈ t.values, p v = false := by
  induction t using Tree.induction with
  | node v cs ih =>
    rw [replaceFirst?, values_node, List.forall_mem_cons]
    by_cases hv : p v = true
    · simp [hv]
    · simp only [hv, Bool.false_eq_true, if_false, Option.map_eq_none_iff, true_and,
        replaceFirstAll?_eq_none_iff, List.mem_flatMap, forall_exists_index, and_imp]
      constructor
      · exact fun h w c hc => (ih c hc).mp (h c hc) w
      · exact fun h c hc => (ih c hc).mpr fun w hw => h w c hc hw

/-- The trees of a forest before the one that holds the first such node stay, and so do those after
it. -/
theorem replaceFirstAll?_append {before after : List (Tree α)} {t t' : Tree α}
    (hbefore : ∀ u ∈ before, replaceFirst? p new u = none) (ht : replaceFirst? p new t = some t') :
    replaceFirstAll? p new (before ++ t :: after) = some (before ++ t' :: after) := by
  induction before with
  | nil => simp [replaceFirstAll?, ht]
  | cons u before ih =>
    obtain ⟨hu, hbefore⟩ := List.forall_mem_cons.mp hbefore
    simp [replaceFirstAll?, hu, ih hbefore]

end ReplaceFirst

end SourceEdit.Tree
