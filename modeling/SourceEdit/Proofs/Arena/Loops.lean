import SourceEdit.Proofs.Arena.Runs
import SourceEdit.Proofs.Arena.Traversal

/-!
# The loops that go through an arena

`Arena.isAttached` and `Arena.descendants` go around a loop for which nothing but the shape of the
arena sets a bound: one climbs along parent links, the other one works off a stack of pending nodes.
`climbTurn` and `listTurn` are one turn of these loops, without a bound, and `Ends` says of a loop
that it comes to an end from a state, and with which result.

In a well-formed arena both loops end, from every node, and with what `isAttached` and `descendants`
give (`WellFormed.climb_ends`, `WellFormed.list_ends`).  What is listed is the preorder of the child
lists, `Preorder`.
-/

namespace SourceEdit.Arena

variable {α : Type} {a : Arena α} {x y : NodeId}

/-! ### Loops -/

section Loop

variable {σ β : Type} {turn : σ → σ ⊕ β} {s : σ} {b b' : β}

/-- A loop comes to an end with a result. A turn of it gives the next state or the result. -/
inductive Ends (turn : σ → σ ⊕ β) : σ → β → Prop
  | stop {s : σ} {b : β} : turn s = .inr b → Ends turn s b
  | again {s t : σ} {b : β} : turn s = .inl t → Ends turn t b → Ends turn s b

/-- A loop ends with one result. -/
theorem Ends.unique (h : Ends turn s b) (h' : Ends turn s b') : b = b' := by
  induction h with
  | stop hs =>
    cases h' with
    | stop hs' => exact Sum.inr.inj (hs.symm.trans hs')
    | again hs' _ => cases hs.symm.trans hs'
  | again hs _ ih =>
    cases h' with
    | stop hs' => cases hs.symm.trans hs'
    | again hs' h' => exact ih (Sum.inl.inj (hs.symm.trans hs') ▸ h')

end Loop

/-- One step up, or whether the root has been reached. -/
def climbTurn (a : Arena α) (x : NodeId) : NodeId ⊕ Bool :=
  if x = a.root then .inr true
  else
    match a.parent? x with
    | some p => .inl p
    | none => .inr false

/-- The first pending node is listed, and its children wait before the other ones. -/
def listTurn (a : Arena α) : List NodeId × List NodeId → (List NodeId × List NodeId) ⊕ List NodeId
  | (listed, []) => .inr listed
  | (listed, x :: pending) => .inl (listed ++ [x], a.children x ++ pending)

/-! ### The preorder of the child lists -/

mutual

/-- A node comes first, and then what is listed from its children on. -/
inductive Preorder (a : Arena α) : NodeId → List NodeId → Prop
  | node {x : NodeId} {listed : List NodeId} : PreorderOf a (a.children x) listed →
      Preorder a x (x :: listed)

/-- What is listed from several nodes on, one after the other. -/
inductive PreorderOf (a : Arena α) : List NodeId → List NodeId → Prop
  | nil : PreorderOf a [] []
  | cons {x : NodeId} {xs listed more : List NodeId} : Preorder a x listed →
      PreorderOf a xs more → PreorderOf a (x :: xs) (listed ++ more)

end

/-! ### Both loops end -/

/-- The climb from a node ends, and says whether the node is attached. -/
theorem WellFormed.climb_ends (hw : a.WellFormed) (x : NodeId) :
    Ends a.climbTurn x (a.isAttached x) := by
  induction x using hw.acyclic.induction with
  | _ x ih =>
    by_cases hx : x = a.root
    · have hattached : a.isAttached x = true := hw.isAttached_iff.mpr (hx ▸ .refl a x)
      rw [hattached]
      exact .stop (if_pos hx)
    · cases hp : a.parent? x with
      | none =>
        have hattached : a.isAttached x = false := by
          rw [Bool.eq_false_iff, Ne, hw.isAttached_iff]
          exact fun h => hx (eq_of_below_of_parent?_eq_none hp h)
        rw [hattached]
        exact .stop (by rw [climbTurn, if_neg hx, hp])
      | some p =>
        have hattached : a.isAttached x = a.isAttached p := by
          rw [Bool.eq_iff_iff, hw.isAttached_iff, hw.isAttached_iff, below_iff]
          simp [hx, hp]
        rw [hattached]
        exact .again (by rw [climbTurn, if_neg hx, hp]) (ih p hp)

/-- When a node is pending, its descendants are listed before the loop goes on with the others. -/
private theorem WellFormed.list_ends_of (hw : a.WellFormed) {listed pending result : List NodeId}
    (hx : x < a.size) (h : Ends a.listTurn (listed ++ a.descendants x, pending) result) :
    Ends a.listTurn (listed, x :: pending) result := by
  -- The children are all pending at once, and each of them is done before the next one.
  induction x using hw.induction_children generalizing listed pending with
  | step x ih =>
    have hchildren (cs : List NodeId) (hcs : ∀ c ∈ cs, c ∈ a.children x) (listed : List NodeId)
        (h : Ends a.listTurn (listed ++ cs.flatMap a.descendants, pending) result) :
        Ends a.listTurn (listed, cs ++ pending) result := by
      induction cs generalizing listed with
      | nil => simpa using h
      | cons c cs ihcs =>
        obtain ⟨hc, hcs⟩ := List.forall_mem_cons.mp hcs
        refine ih c hc (lt_size_of_parent? ((hw.mem_children_iff x c).mp hc)) (ihcs hcs _ ?_)
        simpa using h
    refine .again rfl (hchildren _ (fun c hc => hc) _ ?_)
    rw [hw.descendants_eq hx] at h
    simpa using h

/-- The loop that lists the nodes from a node on ends with its descendants. -/
theorem WellFormed.list_ends (hw : a.WellFormed) (hx : x < a.size) :
    Ends a.listTurn ([], [x]) (a.descendants x) :=
  hw.list_ends_of hx (.stop rfl)

/-- The descendants of a node are the preorder of the child lists. -/
theorem WellFormed.preorder_descendants (hw : a.WellFormed) (hx : x < a.size) :
    a.Preorder x (a.descendants x) := by
  induction x using hw.induction_children with
  | step x ih =>
    have hchildren (cs : List NodeId) (hcs : ∀ c ∈ cs, c ∈ a.children x) :
        a.PreorderOf cs (cs.flatMap a.descendants) := by
      induction cs with
      | nil => exact .nil
      | cons c cs ihcs =>
        obtain ⟨hc, hcs⟩ := List.forall_mem_cons.mp hcs
        have hlt := lt_size_of_parent? ((hw.mem_children_iff x c).mp hc)
        exact .cons (ih c hc hlt) (ihcs hcs)
    rw [hw.descendants_eq hx]
    exact .node (hchildren _ fun c hc => hc)

/-- In an arena that an admissible run has made from a single node, the climb from a node and the loop
that lists the nodes from it on come to an end, with what `isAttached` and `descendants` give and with
nothing else. The list holds the node and all nodes below it, each once and in preorder, and a node is
attached exactly if it is listed from the root on. -/
theorem traversals_of_run (v : α) {ops : List (Operation α)} (h : Obeys Admissible (withRoot v) ops)
    (hx : x < ((withRoot v).performAll ops).size) :
    let b := (withRoot v).performAll ops
    (∀ result, Ends b.climbTurn x result ↔ result = b.isAttached x) ∧
      (∀ result, Ends b.listTurn ([], [x]) result ↔ result = b.descendants x) ∧
      (b.descendants x).Nodup ∧ (∀ y, y ∈ b.descendants x ↔ b.Below y x) ∧
      b.Preorder x (b.descendants x) ∧ (b.isAttached x = true ↔ x ∈ b.descendants b.root) := by
  intro b
  have hw : b.WellFormed := wellFormed_performAll (.withRoot v) h
  refine ⟨fun result => ⟨fun hend => hend.unique (hw.climb_ends x), ?_⟩,
    fun result => ⟨fun hend => hend.unique (hw.list_ends hx), ?_⟩,
    nodup_of_pairwise_not_below (hw.pairwise_descendants hx), fun y => hw.mem_descendants_iff hx,
    hw.preorder_descendants hx, ?_⟩
  · rintro rfl
    exact hw.climb_ends x
  · rintro rfl
    exact hw.list_ends hx
  · rw [hw.isAttached_iff, hw.mem_descendants_iff hw.root_lt_size]

/-- A node with one below it is taken out of the tree. Both are listed from it on, and neither of them
is attached. -/
theorem traversals_of_run_detached :
    let ops : List (Operation Unit) := [.alloc (), .alloc (), .appendChild 0 1, .appendChild 1 2,
      .detach 1]
    let b := (withRoot ()).performAll ops
    Obeys Admissible (withRoot ()) ops ∧ 1 < b.size ∧ Ends b.climbTurn 1 false ∧
      Ends b.listTurn ([], [1]) [1, 2] ∧ b.Preorder 1 [1, 2] ∧ 1 ∉ b.descendants b.root := by
  intro ops b
  have hunder {a : Arena Unit} {p c : NodeId} (hlt : p < a.size ∧ c < a.size) (hc : c ≠ a.root)
      (hbelow : ¬a.Below p c) : a.Admissible (.appendChild p c) := by
    refine ⟨by simpa [Operation.nodes] using hlt, fun q d h => ?_, fun q d h => ?_⟩ <;>
    · cases h
      assumption
  have hroot {a : Arena Unit} {p c : NodeId} (h : a.parent? p = none) (hc : p ≠ c) :
      ¬a.Below p c := fun hbelow => hc (eq_of_below_of_parent?_eq_none h hbelow)
  have hfree {a : Arena Unit} {op : Operation Unit} (hnodes : ∀ id ∈ op.nodes, id < a.size)
      (hplaced : op.placed? a = none) : a.Admissible op :=
    ⟨hnodes, by simp [hplaced], by simp [hplaced]⟩
  have hops : Obeys Admissible (withRoot ()) ops := by
    refine ⟨hfree (by decide) rfl, hfree (by decide) rfl, ?_, ?_, hfree (by decide) rfl, trivial⟩
    · exact hunder (by decide) (by decide) (hroot rfl (by decide))
    · refine hunder (by decide) (by decide) fun h => ?_
      obtain h | ⟨p, hp, h⟩ := below_iff.mp h
      · cases h
      · cases hp
        exact hroot rfl (by decide) h
  obtain ⟨hclimb, hlist, -, -, hpreorder, hattached⟩ :=
    traversals_of_run () hops (show 1 < b.size by decide)
  exact ⟨hops, by decide, (hclimb _).mpr rfl, (hlist _).mpr rfl, hpreorder,
    mt hattached.mpr (by decide)⟩

end SourceEdit.Arena
