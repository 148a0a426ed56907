import SourceEdit.Proofs.Arena.WellFormed

/-!
# Runs of operations

An `Operation` is one call on an arena, with the nodes that it is given.  It is `Admissible` if these
nodes exist and if it neither moves the root nor puts a node under itself or under a node below it.
`wellFormed_perform` is the step: an admissible operation keeps an arena well-formed.
`linksAgree_of_run` is what follows for runs of any length that begin with an arena of a single node.

A run may obey a stricter rule than that of being admissible; `Obeys` takes the rule as a parameter,
so that what every step keeps is kept by a run whatever the rule is.
-/

namespace SourceEdit.Arena

variable {α : Type} {a : Arena α}

/-! ### Operations -/

/-- A call of one of the operations that change an arena. -/
inductive Operation (α : Type) where
  | alloc (value : α)
  | modifyValue (id : NodeId) (f : α → α)
  | insertChild (parent : NodeId) (index : Nat) (child : NodeId)
  | appendChild (parent child : NodeId)
  | detach (id : NodeId)
  | clearChildren (id : NodeId)
  | replace (old new : NodeId)

/-- Carries out an operation. A replacement of a detached node does nothing. -/
def perform (a : Arena α) : Operation α → Arena α
  | .alloc value => (a.alloc value).1
  | .modifyValue id f => a.modifyValue id f
  | .insertChild parent index child => a.insertChild parent index child
  | .appendChild parent child => a.appendChild parent child
  | .detach id => a.detach id
  | .clearChildren id => a.clearChildren id
  | .replace old new => (a.replace? old new).getD a

/-- The nodes that an operation is given. -/
def Operation.nodes : Operation α → List NodeId
  | .alloc _ => []
  | .modifyValue id _ | .detach id | .clearChildren id => [id]
  | .insertChild parent _ child | .appendChild parent child => [parent, child]
  | .replace old new => [old, new]

/-- The parent that an operation puts a node under, and that node. -/
def Operation.placed? (a : Arena α) : Operation α → Option (NodeId × NodeId)
  | .insertChild parent _ child | .appendChild parent child => some (parent, child)
  | .replace old new => (a.parent? old).map (·, new)
  | _ => none

/-- An operation is given nodes of the arena, does not move the root, and puts no node under itself
or under a node below it. -/
structure Admissible (a : Arena α) (op : Operation α) : Prop where
  lt_size : ∀ id ∈ op.nodes, id < a.size
  ne_root : ∀ p c, op.placed? a = some (p, c) → c ≠ a.root
  not_below : ∀ p c, op.placed? a = some (p, c) → ¬ a.Below p c

/-- Carries out operations one after the other. -/
def performAll (a : Arena α) (ops : List (Operation α)) : Arena α := ops.foldl perform a

/-- Every operation of a run satisfies a rule in the arena that it is carried out in. -/
def Obeys (rule : Arena α → Operation α → Prop) : Arena α → List (Operation α) → Prop
  | _, [] => True
  | a, op :: ops => rule a op ∧ Obeys rule (a.perform op) ops

/-! ### Runs -/

section Runs

variable {rule : Arena α → Operation α → Prop} {ops : List (Operation α)}

@[simp]
theorem performAll_nil (a : Arena α) : a.performAll [] = a := rfl

@[simp]
theorem performAll_cons (a : Arena α) (op : Operation α) (ops : List (Operation α)) :
    a.performAll (op :: ops) = (a.perform op).performAll ops := rfl

theorem performAll_append (a : Arena α) (ops more : List (Operation α)) :
    a.performAll (ops ++ more) = (a.performAll ops).performAll more :=
  List.foldl_append

theorem obeys_append {more : List (Operation α)} :
    Obeys rule a (ops ++ more) ↔ Obeys rule a ops ∧ Obeys rule (a.performAll ops) more := by
  induction ops generalizing a with
  | nil => simp [Obeys]
  | cons op ops ih => simp [Obeys, ih, and_assoc]

theorem Obeys.mono {rule' : Arena α → Operation α → Prop} (h : Obeys rule a ops)
    (himp : ∀ a op, rule a op → rule' a op) : Obeys rule' a ops := by
  induction ops generalizing a with
  | nil => trivial
  | cons op ops ih => exact ⟨himp a op h.1, ih h.2⟩

/-- What every step that satisfies the rule keeps, a run that obeys it keeps. -/
theorem Obeys.invariant {I : Arena α → Prop} (hstep : ∀ a op, I a → rule a op → I (a.perform op))
    (ha : I a) (h : Obeys rule a ops) : I (a.performAll ops) := by
  induction ops generalizing a with
  | nil => exact ha
  | cons op ops ih => exact ih (hstep a op ha h.1) h.2

end Runs

/-! ### What one operation changes -/

/-- An operation leaves the value of a node as it is, unless it makes the node or sets its value. -/
theorem get?_perform (op : Operation α) (id : NodeId) :
    (a.perform op).get? id = a.get? id ∨
      (∃ v, op = .alloc v ∧ a.get? id = none ∧ (a.perform op).get? id = some v) ∨
      ∃ f, op = .modifyValue id f ∧ (a.perform op).get? id = (a.get? id).map f := by
  cases op with
  | alloc v =>
    simp only [perform, get?_alloc]
    split
    · next h => exact .inr (.inl ⟨v, rfl, by simp [h, get?, size], rfl⟩)
    · exact .inl rfl
  | modifyValue id' f =>
    simp only [perform, get?_modifyValue]
    split
    · next h => exact .inr (.inr ⟨f, by rw [h], rfl⟩)
    · exact .inl rfl
  | insertChild p i c => exact .inl (get?_insertChild p i c id)
  | appendChild p c => exact .inl (get?_appendChild p c id)
  | detach c => exact .inl (get?_detach c id)
  | clearChildren c => exact .inl (get?_clearChildren c id)
  | replace old new =>
    cases hreplace : a.replace? old new with
    | none => exact .inl (by simp [perform, hreplace])
    | some b =>
      obtain ⟨p, i, -, -, rfl⟩ := replace?_eq_some hreplace
      exact .inl (by simp [perform, hreplace])

/-- A node has children after an operation only if it had some before or one is put under it. -/
theorem WellFormed.children_perform_ne_nil (hw : a.WellFormed) {op : Operation α}
    (hlt : ∀ id ∈ op.nodes, id < a.size) {p : NodeId} (h : (a.perform op).children p ≠ []) :
    a.children p ≠ [] ∨ ∃ c, op.placed? a = some (p, c) := by
  have hfilter {c : NodeId} (h : (a.children p).filter (· != c) ≠ []) : a.children p ≠ [] :=
    fun hnil => h (by rw [hnil, List.filter_nil])
  -- the new parent has a child, and nobody else has more children than before
  have hinsert {b : Arena α} (hb : b.WellFormed) {q : NodeId} (hq : q < b.size) {i : Nat}
      {c : NodeId} (h : (b.insertChild q i c).children p ≠ []) :
      p = q ∨ (b.children p).filter (· != c) ≠ [] := by
    rw [hb.children_insertChild hq] at h
    split at h
    · next hpq => exact .inl hpq
    · exact .inr h
  cases op with
  | alloc v => exact .inl (by simpa [perform] using h)
  | modifyValue id f => exact .inl (by simpa [perform] using h)
  | insertChild q i c =>
    obtain rfl | h := hinsert hw (hlt q (by simp [Operation.nodes])) h
    · exact .inr ⟨c, rfl⟩
    · exact .inl (hfilter h)
  | appendChild q c =>
    obtain rfl | h := hinsert hw (hlt q (by simp [Operation.nodes])) h
    · exact .inr ⟨c, rfl⟩
    · exact .inl (hfilter h)
  | detach c =>
    rw [perform, hw.children_detach] at h
    exact .inl (hfilter h)
  | clearChildren id =>
    rw [perform, children_clearChildren] at h
    split at h
    · exact absurd rfl h
    · exact .inl h
  | replace old new =>
    cases hreplace : a.replace? old new with
    | none => exact .inl (by simpa [perform, hreplace] using h)
    | some b =>
      obtain ⟨q, i, hq, -, rfl⟩ := replace?_eq_some hreplace
      have hlt : q < a.size := lt_size_of_mem_children ((hw.mem_children_iff q old).mpr hq)
      simp only [perform, hreplace, Option.getD_some] at h
      obtain rfl | h := hinsert (hw.detach old) (by simpa using hlt) h
      · exact .inr ⟨new, by simp [Operation.placed?, hq]⟩
      · rw [hw.children_detach] at h
        exact .inl fun hnil => h (by simp [hnil])

/-! ### The invariant along runs -/

/-- A replacement of an attached node puts the other one under the same parent. -/
theorem WellFormed.replace? (hw : a.WellFormed) {old new : NodeId}
    (hnew : new < a.size) (hroot : ∀ p, a.parent? old = some p → new ≠ a.root)
    (hbelow : ∀ p, a.parent? old = some p → ¬ a.Below p new) :
    ((a.replace? old new).getD a).WellFormed := by
  cases hreplace : a.replace? old new with
  | none => exact hw
  | some b =>
    obtain ⟨p, i, hp, -, rfl⟩ := replace?_eq_some hreplace
    have hlt : p < a.size := lt_size_of_mem_children ((hw.mem_children_iff p old).mpr hp)
    refine (hw.detach old).insertChild (by simpa using hlt) i (by simpa using hnew)
      (hroot p hp) fun h => hbelow p hp ?_
    refine h.mono fun c q hq => ?_
    rw [parent?_detach] at hq
    split at hq
    · cases hq
    · exact hq

/-- An admissible operation keeps an arena well-formed. -/
theorem wellFormed_perform (hw : a.WellFormed) {op : Operation α} (hop : a.Admissible op) :
    (a.perform op).WellFormed := by
  obtain ⟨hlt, hroot, hbelow⟩ := hop
  cases op with
  | alloc value => exact hw.alloc value
  | modifyValue id f => exact hw.modifyValue id f
  | insertChild p i c =>
    exact hw.insertChild (hlt p (by simp [Operation.nodes])) i (hlt c (by simp [Operation.nodes]))
      (hroot p c rfl) (hbelow p c rfl)
  | appendChild p c =>
    exact hw.appendChild (hlt p (by simp [Operation.nodes])) (hlt c (by simp [Operation.nodes]))
      (hroot p c rfl) (hbelow p c rfl)
  | detach id => exact hw.detach id
  | clearChildren id => exact hw.clearChildren id
  | replace old new =>
    refine hw.replace? (hlt new (by simp [Operation.nodes])) (fun p hp => ?_) fun p hp => ?_
    · exact hroot p new (by simp [Operation.placed?, hp])
    · exact hbelow p new (by simp [Operation.placed?, hp])

theorem wellFormed_performAll (hw : a.WellFormed) {ops : List (Operation α)}
    (h : Obeys Admissible a ops) : (a.performAll ops).WellFormed :=
  h.invariant (fun _ _ hw hop => wellFormed_perform hw hop) hw

/-- After every operation of an admissible run from a single node, child lists and parent links say
the same, no child list holds a node twice, the root has no parent, all links lead to nodes that
exist, and no node is above itself. -/
theorem linksAgree_of_run (v : α) {ops done : List (Operation α)}
    (h : Obeys Admissible (withRoot v) ops) (hdone : done <+: ops) :
    let b := (withRoot v).performAll done
    (∀ p c, c ∈ b.children p ↔ b.parent? c = some p) ∧
      (∀ p, (b.children p).Nodup) ∧
      b.parent? b.root = none ∧
      (∀ p c, b.parent? c = some p ∨ c ∈ b.children p → p < b.size ∧ c < b.size) ∧
      ∀ c, ¬ Relation.TransGen (fun c p => b.parent? c = some p) c c := by
  intro b
  obtain ⟨rest, rfl⟩ := hdone
  have hw : b.WellFormed := wellFormed_performAll (.withRoot v) (obeys_append.mp h).1
  refine ⟨hw.mem_children_iff, hw.nodup_children, hw.parent?_root, fun p c hlink => ?_,
    fun c hc => ?_⟩
  · have hparent : b.parent? c = some p := hlink.elim id (hw.mem_children_iff p c).mp
    exact ⟨lt_size_of_mem_children ((hw.mem_children_iff p c).mpr hparent),
      lt_size_of_parent? hparent⟩
  · obtain ⟨p, hp, hpc⟩ := Relation.TransGen.head'_iff.mp hc
    exact hw.not_below_child hp hpc

/-- A node is moved from under another one to before it, and then takes its place. -/
theorem linksAgree_of_run_moves :
    let ops : List (Operation Unit) := [.alloc (), .alloc (), .appendChild 0 1, .appendChild 1 2,
      .insertChild 0 0 2, .replace 1 2, .clearChildren 0]
    let b := (withRoot ()).performAll ops
    Obeys Admissible (withRoot ()) ops ∧ ops <+: ops ∧
      (∀ p c, c ∈ b.children p ↔ b.parent? c = some p) ∧ b.parent? b.root = none ∧
      ∀ c, ¬ Relation.TransGen (fun c p => b.parent? c = some p) c c := by
  intro ops b
  have hunder {a : Arena Unit} {op : Operation Unit} {p c : NodeId}
      (hplaced : op.placed? a = some (p, c)) (hlt : ∀ id ∈ op.nodes, id < a.size)
      (hc : c ≠ a.root) (hbelow : ¬ a.Below p c) : a.Admissible op := by
    refine ⟨hlt, fun q d h => ?_, fun q d h => ?_⟩ <;>
    · rw [hplaced] at h
      cases h
      assumption
  have hroot {a : Arena Unit} {c : NodeId} (h : a.parent? 0 = none) (hc : c ≠ 0) :
      ¬ a.Below 0 c := fun hbelow => hc (eq_of_below_of_parent?_eq_none h hbelow).symm
  have hops : Obeys Admissible (withRoot ()) ops := by
    refine ⟨⟨nofun, nofun, nofun⟩, ⟨nofun, nofun, nofun⟩, ?_, ?_, ?_, ?_, ?_, trivial⟩
    · exact hunder rfl (by decide) (by decide) (hroot rfl (by decide))
    · refine hunder rfl (by decide) (by decide) fun h => ?_
      obtain h | ⟨p, hp, h⟩ := below_iff.mp h
      · cases h
      · cases hp
        exact hroot rfl (by decide) h
    · exact hunder rfl (by decide) (by decide) (hroot rfl (by decide))
    · exact hunder rfl (by decide) (by decide) (hroot rfl (by decide))
    · exact ⟨by decide, nofun, nofun⟩
  obtain ⟨hlinks, -, hparent, -, hacyclic⟩ := linksAgree_of_run () hops List.prefix_rfl
  exact ⟨hops, List.prefix_rfl, hlinks, hparent, hacyclic⟩

end SourceEdit.Arena
