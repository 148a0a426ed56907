import SourceEdit.Proofs.Arena.Steps

/-!
# Taking the slot of another node

`Arena.replace?` reads the index of the old node and then takes both nodes out of their child lists
before it puts the new one in at that index.  The list may have lost the new node by then, and if it
has lost it from before the index, then the index is one too large: what came after the old node now
comes before the new one.

`children_of_replacement` says so for every new node that may be put there: it takes the slot exactly
unless it stood before the old node in the same child list and the old node was not the last one
there.  In that case it ends up one place too late.
-/

namespace SourceEdit.Arena

variable {α : Type} {a : Arena α} {old new p : NodeId} {before after : List NodeId}

/-! ### Lists of nodes -/

/-- A list from which a node that does not occur is taken out. -/
private theorem filter_bne_of_not_mem {l : List NodeId} {x : NodeId} (hx : x ∉ l) :
    l.filter (· != x) = l := by
  refine List.filter_eq_self.mpr fun y hy => ?_
  exact bne_iff_ne.mpr (ne_of_mem_of_not_mem hy hx)

/-- What is put in at an index that was read before `new` was taken out of the list: if `new` stood
before the index, the index is one too large. -/
theorem insertIdx_of_filter (hbefore : before.Nodup) (hnew : new ∉ after) :
    let rest := before.filter (· != new) ++ after
    rest.insertIdx (min before.length rest.length) new =
      if new ∈ before then before.filter (· != new) ++ after.take 1 ++ new :: after.drop 1
      else before ++ new :: after := by
  intro rest
  split
  · next hmem =>
    -- the part before the index has become shorter by one
    have hlength : before.length = (before.filter (· != new)).length + 1 := by
      have herase : before.erase new = before.filter (· != new) := hbefore.erase_eq_filter new
      rw [← herase, List.length_erase_of_mem hmem]
      have hpos := List.length_pos_of_mem hmem
      omega
    cases after with
    | nil =>
      have hmin : min before.length rest.length = rest.length := by
        simp only [rest, List.append_nil]
        omega
      rw [hmin, List.insertIdx_length_self]
      simp [rest]
    | cons y after =>
      have hsplit : rest = (before.filter (· != new) ++ [y]) ++ after := by simp [rest]
      have hmin : min before.length rest.length = (before.filter (· != new) ++ [y]).length := by
        rw [hsplit]
        simp only [List.length_append, List.length_cons, List.length_nil]
        omega
      rw [hmin, hsplit, insertIdx_length]
      rfl
  · next hmem =>
    have hrest : rest = before ++ after := by rw [← filter_bne_of_not_mem hmem]
    rw [hrest, List.length_append, Nat.min_eq_left (Nat.le_add_right ..), insertIdx_length]

/-- A list in which another node has come before `new` is not the one in which it has not. -/
theorem append_take_drop_ne (hnew : new ∉ after) (hafter : after ≠ []) :
    before ++ after.take 1 ++ new :: after.drop 1 ≠ before ++ new :: after := by
  intro h
  cases after with
  | nil => exact hafter rfl
  | cons y after =>
    rw [List.append_assoc] at h
    have hhead := (List.cons.inj (List.append_cancel_left h)).1
    exact hnew (hhead ▸ List.mem_cons_self)

/-! ### Replacements -/

/-- The children of a node after a replacement of one of them: the index has been read before both
nodes are taken out. -/
theorem WellFormed.children_replace? (hw : a.WellFormed) (hsplit : a.children p = before ++ old :: after)
    (x : NodeId) :
    ((a.detach old).insertChild p before.length new).children x =
      if x = p then
        let rest := before.filter (· != new) ++ after.filter (· != new)
        rest.insertIdx (min before.length rest.length) new
      else (a.children x).filter (· != new) := by
  have hold : a.parent? old = some p := (hw.mem_children_iff p old).mp (by simp [hsplit])
  have hp : p < a.size := lt_size_of_mem_children ((hw.mem_children_iff p old).mpr hold)
  rw [(hw.detach old).children_insertChild (by simpa using hp), hw.children_detach]
  split
  · next hx =>
    have hnodup := hw.nodup_children p
    rw [hsplit, List.nodup_middle, List.nodup_cons, List.mem_append, not_or] at hnodup
    obtain ⟨⟨hbefore, hafter⟩, -⟩ := hnodup
    have hout : (before ++ old :: after).filter (· != old) = before ++ after := by
      rw [List.filter_append, List.filter_cons_of_neg (by simp), filter_bne_of_not_mem hbefore,
        filter_bne_of_not_mem hafter]
    rw [hx, hsplit, hout, List.filter_append]
  · next hx =>
    rw [hw.filter_children_of_ne (by simpa [hold] using Ne.symm hx)]

/-- A node that is put in the place of another one takes its slot, unless it stood before it in the
same list and the other one was not the last there; then it comes one place too late. The other node
is detached, and every other child list only loses the node that has moved. -/
theorem children_of_replacement (hw : a.WellFormed) (hold : a.parent? old = some p)
    (hnew : new < a.size) (hroot : new ≠ a.root) (habove : a.Below old new → new = old) :
    ∃ b before after, a.replace? old new = some b ∧ b.WellFormed ∧
      a.children p = before ++ old :: after ∧
      (b.children p = before.filter (· != new) ++ new :: after.filter (· != new) ↔
        ¬(new ∈ before ∧ after ≠ [])) ∧
      (new ∈ before → b.children p =
        before.filter (· != new) ++ after.take 1 ++ new :: after.drop 1) ∧
      b.parent? new = some p ∧ (new ≠ old → b.parent? old = none) ∧
      ∀ q, q ≠ p → b.children q = (a.children q).filter (· != new) := by
  obtain ⟨before, after, hsplit, -⟩ :=
    List.eq_append_cons_of_mem ((hw.mem_children_iff p old).mpr hold)
  have hp : p < a.size := lt_size_of_mem_children ((hw.mem_children_iff p old).mpr hold)
  have hreplace : a.replace? old new = some ((a.detach old).insertChild p before.length new) := by
    simp [replace?, hold, hw.indexInParent?_eq hsplit]
  -- the parent is above the old node, so the new one is not above the parent
  have hbelow : ¬(a.detach old).Below p new := by
    intro h
    have hpnew : a.Below p new := h.mono fun c q hq => by
      rw [parent?_detach] at hq
      split at hq
      · cases hq
      · exact hq
    obtain rfl := habove ((Below.of_parent? hold).trans hpnew)
    exact hw.not_below_child hold hpnew
  have hnodup := hw.nodup_children p
  rw [hsplit] at hnodup
  have hslot : ((a.detach old).insertChild p before.length new).children p =
      if new ∈ before then
        before.filter (· != new) ++ (after.filter (· != new)).take 1 ++
          new :: (after.filter (· != new)).drop 1
      else before ++ new :: after.filter (· != new) := by
    rw [hw.children_replace? hsplit, if_pos rfl]
    exact insertIdx_of_filter hnodup.of_append_left (by simp)
  -- a node that stood before the old one did not stand after it
  have hafter (hmem : new ∈ before) : after.filter (· != new) = after :=
    filter_bne_of_not_mem fun h =>
      List.disjoint_of_nodup_append hnodup hmem (List.mem_cons_of_mem old h)
  refine ⟨_, before, after, hreplace, (hw.detach old).insertChild (by simpa using hp) _
    (by simpa using hnew) hroot hbelow, hsplit, ?_, fun hmem => ?_, ?_, fun hne => ?_, fun q hq => ?_⟩
  · rw [hslot]
    by_cases hmem : new ∈ before
    · rw [if_pos hmem, hafter hmem]
      by_cases hlast : after = []
      · simp [hlast]
      · have hnot : new ∉ after := fun h =>
          List.disjoint_of_nodup_append hnodup hmem (List.mem_cons_of_mem old h)
        exact iff_of_false (append_take_drop_ne hnot hlast) fun h => h ⟨hmem, hlast⟩
    · rw [if_neg hmem, filter_bne_of_not_mem hmem]
      exact iff_of_true rfl fun h => hmem h.1
  · rw [hslot, if_pos hmem, hafter hmem]
  · rw [parent?_insertChild p _ (by simpa using hnew), if_pos rfl]
  · rw [parent?_insertChild p _ (by simpa using hnew), if_neg hne.symm, parent?_detach, if_pos rfl]
  · rw [hw.children_replace? hsplit, if_neg hq]

/-- The last of three children takes the slot of the first one. -/
theorem children_of_replacement_later :
    let a := ofForest () [.leaf (), .leaf (), .leaf ()]
    a.WellFormed ∧ a.parent? 1 = some 0 ∧ a.children 0 = [1, 2, 3] ∧
      ∃ b, a.replace? 1 3 = some b ∧ b.children 0 = [3, 2] ∧ b.parent? 1 = none := by
  intro a
  have hw : a.WellFormed := .ofForest () _
  have hone : a.parent? 1 = some 0 := by decide
  have hnot : ¬a.Below 1 3 := by
    intro h
    obtain h | ⟨q, hq, h⟩ := below_iff.mp h
    · cases h
    · obtain rfl : 0 = q := Option.some.inj (hone.symm.trans hq)
      exact absurd (hw.eq_root_of_below h) (by decide)
  have hthree : 3 < a.size := by decide
  obtain ⟨b, before, after, hreplace, -, hsplit, hslot, -, -, hdetached, -⟩ :=
    children_of_replacement hw hone hthree (by decide) fun h => absurd h hnot
  have hchildren : a.children 0 = [1, 2, 3] := by decide
  obtain ⟨rfl, rfl⟩ : before = [] ∧ after = [2, 3] := by
    rw [hchildren] at hsplit
    cases before with
    | nil => exact ⟨rfl, (List.cons.inj hsplit).2.symm⟩
    | cons x before =>
      have hmem : 1 ∈ [2, 3] := by
        rw [(List.cons.inj hsplit).2]
        simp
      exact absurd hmem (by decide)
  exact ⟨hw, hone, hchildren, b, hreplace, hslot.mpr (by simp), hdetached (by decide)⟩

/-- The first of three children does not take the slot of the second one: the third one has come
before it. -/
theorem children_of_replacement_earlier :
    let a := ofForest () [.leaf (), .leaf (), .leaf ()]
    a.WellFormed ∧ a.parent? 2 = some 0 ∧ 1 < a.size ∧ 1 ≠ a.root ∧ (a.Below 2 1 → 1 = 2) ∧
      a.children 0 = [1] ++ 2 :: [3] ∧ ∃ b, a.replace? 2 1 = some b ∧ b.children 0 = [3, 1] ∧
      b.children 0 ≠ [1].filter (· != 1) ++ 1 :: [3].filter (· != 1) := by
  intro a
  have hw : a.WellFormed := .ofForest () _
  have hnot : ¬a.Below 2 1 := by
    intro h
    obtain h | ⟨q, hq, h⟩ := below_iff.mp h
    · cases h
    · obtain rfl : 0 = q := Option.some.inj hq
      exact absurd (hw.eq_root_of_below h) (by decide)
  exact ⟨hw, by decide, by decide, by decide, fun h => absurd h hnot, by decide, _, rfl, by decide,
    by decide⟩

end SourceEdit.Arena
