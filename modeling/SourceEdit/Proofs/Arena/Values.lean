import SourceEdit.Proofs.Arena.WellFormed

/-!
# Changing the values of nodes

A loop that changes the values of nodes leaves all links as they are, and so the order in which
nodes are met.  If the change is one that done twice is the same as done once, then it does not
matter how often a node occurs in the list, and a second loop over some of the nodes changes nothing
(`foldl_modifyValue_of_subset`).
-/

namespace SourceEdit.Arena

variable {α : Type} {a b : Arena α} {f : α → α} {ids : List NodeId}

/-- Nodes are met in an order that depends on the links alone. -/
theorem descendants_congr (hsize : b.size = a.size) (h : ∀ x, b.children x = a.children x)
    (x : NodeId) : b.descendants x = a.descendants x := by
  have hdrain (n : Nat) (pending : List NodeId) : b.drain n pending = a.drain n pending := by
    induction n generalizing pending with
    | zero => rfl
    | succ n ih =>
      cases pending with
      | nil => rfl
      | cons y pending => rw [drain, drain, h, ih]
  rw [descendants, descendants, hsize, hdrain]

@[simp]
theorem size_foldl_modifyValue (f : α → α) (ids : List NodeId) (a : Arena α) :
    (ids.foldl (fun a id => a.modifyValue id f) a).size = a.size := by
  induction ids generalizing a with
  | nil => rfl
  | cons id ids ih => simp [ih]

@[simp]
theorem children_foldl_modifyValue (f : α → α) (ids : List NodeId) (a : Arena α) (x : NodeId) :
    (ids.foldl (fun a id => a.modifyValue id f) a).children x = a.children x := by
  induction ids generalizing a with
  | nil => rfl
  | cons id ids ih => simp [ih]

@[simp]
theorem parent?_foldl_modifyValue (f : α → α) (ids : List NodeId) (a : Arena α) (x : NodeId) :
    (ids.foldl (fun a id => a.modifyValue id f) a).parent? x = a.parent? x := by
  induction ids generalizing a with
  | nil => rfl
  | cons id ids ih => simp [ih]

theorem WellFormed.foldl_modifyValue (hw : a.WellFormed) (f : α → α) (ids : List NodeId) :
    (ids.foldl (fun a id => a.modifyValue id f) a).WellFormed := by
  induction ids generalizing a with
  | nil => exact hw
  | cons id ids ih => exact ih (hw.modifyValue id f)

theorem descendants_foldl_modifyValue (f : α → α) (ids : List NodeId) (a : Arena α) (x : NodeId) :
    (ids.foldl (fun a id => a.modifyValue id f) a).descendants x = a.descendants x :=
  descendants_congr (by simp) (by simp) x

/-- A change that does nothing to the values at hand changes nothing. -/
theorem foldl_modifyValue_eq_self (h : ∀ id ∈ ids, ∀ v, a.get? id = some v → f v = v) :
    ids.foldl (fun a id => a.modifyValue id f) a = a := by
  induction ids with
  | nil => rfl
  | cons id ids ih =>
    obtain ⟨hid, hids⟩ := List.forall_mem_cons.mp h
    rw [List.foldl_cons, modifyValue_eq_self hid, ih hids]

section Idempotent

variable (hf : ∀ v, f (f v) = f v)

include hf

theorem get?_foldl_modifyValue (ids : List NodeId) (a : Arena α) (x : NodeId) :
    (ids.foldl (fun a id => a.modifyValue id f) a).get? x =
      if x ∈ ids then (a.get? x).map f else a.get? x := by
  induction ids generalizing a with
  | nil => simp
  | cons id ids ih =>
    rw [List.foldl_cons, ih, get?_modifyValue]
    by_cases hx : x = id <;> by_cases hids : x ∈ ids <;>
      simp [hx, hids, Function.comp_def, hf]

/-- Some of the nodes of a list have nothing left to change when all of them have been changed. -/
theorem foldl_modifyValue_of_subset {fewer : List NodeId} (hsub : fewer ⊆ ids) :
    fewer.foldl (fun a id => a.modifyValue id f) (ids.foldl (fun a id => a.modifyValue id f) a) =
      ids.foldl (fun a id => a.modifyValue id f) a := by
  refine foldl_modifyValue_eq_self fun id hid v hv => ?_
  rw [get?_foldl_modifyValue hf, if_pos (hsub hid)] at hv
  obtain ⟨w, -, rfl⟩ := Option.map_eq_some_iff.mp hv
  exact hf w

end Idempotent

end SourceEdit.Arena
