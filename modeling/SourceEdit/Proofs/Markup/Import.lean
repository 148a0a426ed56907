import Mathlib.Data.List.Nodup
import SourceEdit.Markup.Node
import SourceEdit.Proofs.Arena.Layout

/-!
# Nodes that are taken into a markup document

A node that has been handed over is taken into a document by grafting the tree that it stands for.
`IsCopy` says what a node of the document has to be for this.  It is compared with what was handed over
link by link, and the children of a template are compared with its content.

Whatever is handed over, and whatever the document holds, nothing that was there changes, and the new
nodes are shared out among the copies.  So a node that is taken in several times gets a copy of its own
each time.
-/

namespace SourceEdit.Markup

open Arena (LaidOut LaidOutUnder rootsFrom)

variable {tree : Markup}

/-! ### Copies -/

mutual

/-- A node of a document is a copy of one that has been handed over, with everything below it. -/
inductive IsCopy (tree : Markup) : NodeId → Dom → Prop
  | node {id : NodeId} {value : Node} {children : List Dom} :
    tree.get? id = some value → AreCopies tree id (tree.children id) children →
      IsCopy tree id (.node value children)
  | template {id : NodeId} {name : ElementName} {attributes : List Attribute}
    {content children : List Dom} :
    tree.get? id = some (.element name attributes) →
      AreCopies tree id (tree.children id) content →
        IsCopy tree id (.template name attributes content children)

/-- The children of a node are copies, one after the other, of what has been handed over. -/
inductive AreCopies (tree : Markup) : NodeId → List NodeId → List Dom → Prop
  | nil {p : NodeId} : AreCopies tree p [] []
  | cons {p id : NodeId} {ids : List NodeId} {d : Dom} {ds : List Dom} :
    tree.parent? id = some p → IsCopy tree id d → AreCopies tree p ids ds →
      AreCopies tree p (id :: ids) (d :: ds)

end

mutual

/-- Where the tree that a node stands for is laid out, there is a copy of the node. -/
theorem IsCopy.of_laidOut {n : Nat} : {d : Dom} → tree.LaidOut n d.tree → IsCopy tree n d
  | .node _ _, ⟨hvalue, hchildren, hunder⟩ => by
    have hcopies := AreCopies.of_laidOutUnder hunder
    exact .node hvalue (hchildren ▸ hcopies)
  | .template _ _ _ _, ⟨hvalue, hchildren, hunder⟩ => by
    have hcopies := AreCopies.of_laidOutUnder hunder
    exact .template hvalue (hchildren ▸ hcopies)

theorem AreCopies.of_laidOutUnder {p n : Nat} : {ds : List Dom} →
    tree.LaidOutUnder p n (Dom.trees ds) → AreCopies tree p (rootsFrom n (Dom.trees ds)) ds
  | [], _ => .nil
  | _ :: _, ⟨hparent, htree, hrest⟩ =>
    .cons hparent (.of_laidOut htree) (.of_laidOutUnder hrest)

end

theorem Dom.trees_eq_map (ds : List Dom) : Dom.trees ds = ds.map Dom.tree := by
  induction ds with
  | nil => rfl
  | cons d ds ih => rw [Dom.trees, ih, List.map_cons]

/-! ### Imports -/

/-- Nodes that have been handed over are taken into a document and become the nodes `ids` of it. -/
structure Imported (tree : Markup) (ds : List Dom) (grown : Markup) (ids : List NodeId) : Prop where
  /-- What was there keeps its value, its parent and its children. -/
  extends_ : tree.Extends grown
  bounds : ∀ id ∈ ids, tree.size ≤ id ∧ id < grown.size
  parent?_eq : ∀ id ∈ ids, grown.parent? id = none
  isCopy : List.Forall₂ (IsCopy grown) ids ds
  /-- The nodes of the copies are the new ones, each of them once. -/
  descendants_eq :
    ids.flatMap grown.descendants = List.range' tree.size (grown.size - tree.size)
  /-- No two copies share a node. -/
  disjoint : ids.Pairwise fun x y => (grown.descendants x).Disjoint (grown.descendants y)
  /-- What is read back are the trees that were handed over, and the same one for the same node. -/
  view_eq : ids.map grown.view = ds.map Dom.tree

/-- Taking nodes into a document copies each of them into new nodes and changes no other node. -/
private theorem imported_graftAll (tree : Markup) (ds : List Dom) :
    Imported tree ds (tree.graftAll (Dom.trees ds)).1 (tree.graftAll (Dom.trees ds)).2 := by
  have h := Arena.laid_graftAll tree (Dom.trees ds)
  generalize (tree.graftAll (Dom.trees ds)).1 = grown at h ⊢
  generalize (tree.graftAll (Dom.trees ds)).2 = ids at h ⊢
  have hcount : grown.size - tree.size = Tree.sizeAll (Dom.trees ds) := by
    rw [h.size_eq, Nat.add_sub_cancel_left]
  have hlaid : List.Forall₂ (fun id d => grown.LaidOut id d.tree) ids ds := by
    have hforall := h.laidOut
    rwa [Dom.trees_eq_map, List.forall₂_map_right_iff] at hforall
  refine ⟨h.extends_, h.bounds, h.parent?_eq, hlaid.imp fun _ _ => .of_laidOut, ?_, ?_, ?_⟩
  · rw [hcount, h.descendants_eq]
  · have hnodup : (ids.flatMap grown.descendants).Nodup := h.descendants_eq ▸ List.nodup_range'
    exact (List.nodup_flatMap.mp hnodup).2
  · rw [h.view_eq, Dom.trees_eq_map]

/-- A node that is taken into a document becomes a new node without a parent, and the tree below it is
a copy. The same holds of several nodes, and of a node that is among them more than once. -/
theorem imported_of_graft (tree : Markup) (d : Dom) (ds : List Dom) :
    Imported tree [d] (tree.graft d.tree).1 [(tree.graft d.tree).2] ∧
      Imported tree ds (tree.graftAll (Dom.trees ds)).1 (tree.graftAll (Dom.trees ds)).2 :=
  ⟨imported_graftAll tree [d], imported_graftAll tree ds⟩

/-- What is in the content of a template comes to stand under it, and its children are left out. -/
example :
    let template : Dom :=
      .template { localName := "template" } [] [.node (.text "a") []] [.node (.text "b") []]
    let grown := (Arena.graft (.withRoot .document) template.tree).1
    grown.children 1 = [2] ∧ grown.get? 2 = some (.text "a") := by decide

end SourceEdit.Markup
