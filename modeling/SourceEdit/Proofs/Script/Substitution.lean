import Mathlib.Data.List.Induction
import Mathlib.Data.List.Nodup
import SourceEdit.Proofs.Script.Parts
import SourceEdit.Proofs.Tree.Path

/-!
# One node for another, place by place

A substitution puts one node in the place of each part that it finds, and leaves every other node
where it was.  `Node.Substituted` says this of the paths of a tree, without going through it: where a
part is found that does not stand inside another one, its substitute stands afterwards; at every path
that does not lead into such a part, the node is what it was up to what was substituted inside it; and
the number of edits is the number of those parts.  `Node.substituted_substitute` is the one place
where the recursion of a substitution is followed.

What the edited tree holds at a path can be traced back (`Node.Substituted.origin`).
-/

namespace SourceEdit.Script.Node

variable {p : Node → Nat → Bool} {n m : Node}

/-! ### Parts that are found -/

/-- A part that a predicate finds stands at a path, as the part of a number of a node. -/
def IsFoundAt (p : Node → Nat → Bool) (n : Node) (path : List Nat) : Prop :=
  ∃ (outer : List Nat) (i : Nat) (parent part : Node), path = outer ++ [i] ∧
    n.at? outer = some parent ∧ parent.children[i]? = some part ∧ p parent i = true

/-- A part that is found, and does not stand inside another one, stands at a path. -/
def IsOutermostAt (p : Node → Nat → Bool) (n : Node) (path : List Nat) : Prop :=
  IsFoundAt p n path ∧ ∀ outer, outer <+: path → IsFoundAt p n outer → outer = path

/-- No part that is found stands at a path, and the path leads through none. -/
def IsClearAt (p : Node → Nat → Bool) (n : Node) (path : List Nat) : Prop :=
  ∀ outer, outer <+: path → ¬IsFoundAt p n outer

/-- `m` is `n` with a substitute in the place of every part that is found and does not stand inside
another one; `count` is the number of these parts. -/
structure Substituted (p : Node → Nat → Bool) (Follows : Node → Node → Prop) (n m : Node)
    (count : Nat) : Prop where
  exchanged : ∀ path part, IsOutermostAt p n path → n.at? path = some part →
    ∃ new, m.at? path = some new ∧ Follows part new
  kept : ∀ path part, IsClearAt p n path → n.at? path = some part →
    ∃ new, m.at? path = some new ∧ new.value = part.value ∧
      new.children.length = part.children.length
  counted : ∃ paths : List (List Nat), paths.Nodup ∧
    (∀ path, path ∈ paths ↔ IsOutermostAt p n path) ∧ count = paths.length

theorem not_isFoundAt_nil : ¬IsFoundAt p n [] := by
  rintro ⟨outer, i, parent, part, hpath, -⟩
  simp at hpath

theorem isFoundAt_cons {i : Nat} {path : List Nat} :
    IsFoundAt p n (i :: path) ↔ ∃ part, n.children[i]? = some part ∧
      (path = [] ∧ p n i = true ∨ IsFoundAt p part path) := by
  constructor
  · rintro ⟨outer, j, parent, part, hpath, hparent, hpart, hp⟩
    cases outer with
    | nil =>
      obtain ⟨rfl, rfl⟩ := List.cons.inj hpath
      obtain rfl := Option.some.inj hparent
      exact ⟨part, hpart, .inl ⟨rfl, hp⟩⟩
    | cons i' outer =>
      obtain ⟨rfl, rfl⟩ := List.cons.inj hpath
      obtain ⟨child, hchild, hparent⟩ := Tree.at?_cons_eq_some.mp hparent
      exact ⟨child, hchild, .inr ⟨outer, j, parent, part, rfl, hparent, hpart, hp⟩⟩
  · rintro ⟨part, hpart, ⟨rfl, hp⟩ | ⟨outer, j, parent, inner, rfl, hparent, hinner, hp⟩⟩
    · exact ⟨[], i, n, part, rfl, rfl, hpart, hp⟩
    · exact ⟨i :: outer, j, parent, inner, rfl, Tree.at?_cons_eq_some.mpr ⟨part, hpart, hparent⟩,
        hinner, hp⟩

/-- What is found in a part is outermost unless the part is found itself. -/
theorem isOutermostAt_cons {i : Nat} {path : List Nat} :
    IsOutermostAt p n (i :: path) ↔ ∃ part, n.children[i]? = some part ∧
      (p n i = true ∧ path = [] ∨ p n i = false ∧ IsOutermostAt p part path) := by
  constructor
  · rintro ⟨hfound, houtermost⟩
    obtain ⟨part, hpart, hcases⟩ := isFoundAt_cons.mp hfound
    refine ⟨part, hpart, ?_⟩
    cases hp : p n i with
    | true =>
      -- the part itself is found, so nothing inside it is outermost
      have hfirst : IsFoundAt p n [i] := isFoundAt_cons.mpr ⟨part, hpart, .inl ⟨rfl, hp⟩⟩
      have heq := houtermost [i] ⟨path, rfl⟩ hfirst
      exact .inl ⟨rfl, (List.cons.inj heq).2.symm⟩
    | false =>
      refine .inr ⟨rfl, hcases.resolve_left (by simp [hp]), fun outer hprefix houter => ?_⟩
      have hlonger : i :: outer <+: i :: path := List.cons_prefix_cons.mpr ⟨rfl, hprefix⟩
      exact (List.cons.inj (houtermost _ hlonger
        (isFoundAt_cons.mpr ⟨part, hpart, .inr houter⟩))).2
  · rintro ⟨part, hpart, ⟨hp, rfl⟩ | ⟨hp, hfound, houtermost⟩⟩
    · refine ⟨isFoundAt_cons.mpr ⟨part, hpart, .inl ⟨rfl, hp⟩⟩, fun outer hprefix houter => ?_⟩
      cases outer with
      | nil => exact (not_isFoundAt_nil houter).elim
      | cons j outer =>
        obtain ⟨rfl, hnil⟩ := List.cons_prefix_cons.mp hprefix
        rw [List.prefix_nil.mp hnil]
    · refine ⟨isFoundAt_cons.mpr ⟨part, hpart, .inr hfound⟩, fun outer hprefix houter => ?_⟩
      cases outer with
      | nil => exact (not_isFoundAt_nil houter).elim
      | cons j outer =>
        obtain ⟨rfl, hinner⟩ := List.cons_prefix_cons.mp hprefix
        obtain ⟨part', hpart', hcases⟩ := isFoundAt_cons.mp houter
        obtain rfl := Option.some.inj (hpart.symm.trans hpart')
        rw [houtermost outer hinner (hcases.resolve_left (by simp [hp]))]

theorem isClearAt_nil : IsClearAt p n [] := by
  intro outer hprefix
  rw [List.prefix_nil.mp hprefix]
  exact not_isFoundAt_nil

theorem IsClearAt.concat {path : List Nat} (h : IsClearAt p n path) {i : Nat}
    (hi : ¬IsFoundAt p n (path ++ [i])) : IsClearAt p n (path ++ [i]) := by
  intro outer hprefix
  obtain rfl | hshorter := List.prefix_concat_iff.mp hprefix
  · exact hi
  · exact h outer hshorter

/-- What is found one step behind a clear path is outermost. -/
theorem IsClearAt.isOutermostAt {path : List Nat} (h : IsClearAt p n path) {i : Nat}
    (hi : IsFoundAt p n (path ++ [i])) : IsOutermostAt p n (path ++ [i]) :=
  ⟨hi, fun outer hprefix houter =>
    (List.prefix_concat_iff.mp hprefix).resolve_right fun hshorter => h outer hshorter houter⟩

/-! ### What the edited tree holds -/

section Substituted

variable {Follows : Node → Node → Prop} {count : Nat}

/-- What stands at a path of the edited tree stands inside a substitute, or a path to it was there
before that leads into no part that was found. -/
theorem Substituted.origin (h : Substituted p Follows n m count) {path : List Nat} {new : Node}
    (hnew : m.at? path = some new) :
    (∃ (outer rest : List Nat) (part substitute : Node), path = outer ++ rest ∧
      IsOutermostAt p n outer ∧ n.at? outer = some part ∧ Follows part substitute ∧
      substitute.at? rest = some new) ∨
    IsClearAt p n path ∧ ∃ old, n.at? path = some old := by
  induction path using List.reverseRecOn generalizing new with
  | nil => exact .inr ⟨isClearAt_nil, n, rfl⟩
  | append_singleton path i ih =>
    obtain ⟨parent, hparent, hchild⟩ := Tree.at?_concat_eq_some.mp hnew
    obtain ⟨outer, rest, part, substitute, rfl, houtermost, hpart, hfollows, hrest⟩ |
      ⟨hpath, old, hold⟩ := ih hparent
    · exact .inl ⟨outer, rest ++ [i], part, substitute, List.append_assoc .., houtermost, hpart,
        hfollows, Tree.at?_concat_eq_some.mpr ⟨parent, hrest, hchild⟩⟩
    · obtain ⟨parent', hparent', -, hlength⟩ := h.kept path old hpath hold
      obtain rfl := Option.some.inj (hparent.symm.trans hparent')
      have hlt : i < old.children.length := hlength ▸ (List.getElem?_eq_some_iff.mp hchild).1
      have hpart : n.at? (path ++ [i]) = some old.children[i] :=
        Tree.at?_concat_eq_some.mpr ⟨old, hold, List.getElem?_eq_getElem hlt⟩
      by_cases hfound : IsFoundAt p n (path ++ [i])
      · have houtermost := hpath.isOutermostAt hfound
        obtain ⟨substitute, hsubstitute, hfollows⟩ := h.exchanged _ _ houtermost hpart
        obtain rfl := Option.some.inj (hnew.symm.trans hsubstitute)
        exact .inl ⟨_, [], _, new, (List.append_nil _).symm, houtermost, hpart, hfollows, rfl⟩
      · exact .inr ⟨hpath.concat hfound, _, hpart⟩

/-- A part that is not found, of a node whose path leads into no part that was found, keeps its value.
-/
theorem Substituted.value_children (h : Substituted p Follows n m count) {path : List Nat}
    {old new : Node} (hpath : IsClearAt p n path) (hold : n.at? path = some old)
    (hnew : m.at? path = some new) {i : Nat} (hi : p old i = false) :
    new.children[i]?.map Tree.value = old.children[i]?.map Tree.value := by
  obtain ⟨new', hnew', -, hlength⟩ := h.kept path old hpath hold
  obtain rfl := Option.some.inj (hnew.symm.trans hnew')
  cases hpart : old.children[i]? with
  | none =>
    rw [List.getElem?_eq_none_iff] at hpart
    rw [List.getElem?_eq_none_iff.mpr (hlength ▸ hpart)]
  | some part =>
    have hat : n.at? (path ++ [i]) = some part := Tree.at?_concat_eq_some.mpr ⟨old, hold, hpart⟩
    have hclear : IsClearAt p n (path ++ [i]) := by
      refine hpath.concat ?_
      rintro ⟨outer, j, parent, part', heq, hparent, -, hfound⟩
      obtain ⟨rfl, hij⟩ := List.append_inj' heq rfl
      obtain rfl := List.singleton_inj.mp hij
      obtain rfl := Option.some.inj (hparent.symm.trans hold)
      exact Bool.false_ne_true (hi.symm.trans hfound)
    obtain ⟨child, hchild, hvalue, -⟩ := h.kept _ _ hclear hat
    obtain ⟨parent, hparent, hchild⟩ := Tree.at?_concat_eq_some.mp hchild
    obtain rfl := Option.some.inj (hparent.symm.trans hnew)
    rw [hchild, Option.map_some, Option.map_some, hvalue]

/-- A part that is found, of such a node, gives way to its substitute. -/
theorem Substituted.children_of_found (h : Substituted p Follows n m count) {path : List Nat}
    {old new part : Node} (hpath : IsClearAt p n path) (hold : n.at? path = some old)
    (hnew : m.at? path = some new) {i : Nat} (hpart : old.children[i]? = some part)
    (hi : p old i = true) : ∃ substitute, new.children[i]? = some substitute ∧
      Follows part substitute := by
  have hat : n.at? (path ++ [i]) = some part := Tree.at?_concat_eq_some.mpr ⟨old, hold, hpart⟩
  obtain ⟨substitute, hsubstitute, hfollows⟩ :=
    h.exchanged _ _ (hpath.isOutermostAt ⟨path, i, old, part, rfl, hold, hpart, hi⟩) hat
  obtain ⟨parent, hparent, hchild⟩ := Tree.at?_concat_eq_some.mp hsubstitute
  obtain rfl := Option.some.inj (hparent.symm.trans hnew)
  exact ⟨substitute, hchild, hfollows⟩

end Substituted

/-! ### Counting what is found -/

mutual

/-- The paths of the parts that are found and do not stand inside another one. -/
def outermostPaths (p : Node → Nat → Bool) : Node → List (List Nat)
  | .node head parts => outermostPathsOf p (.node head parts) 0 parts

/-- The paths of such parts among the parts of a node, the first of which has a number. -/
def outermostPathsOf (p : Node → Nat → Bool) (parent : Node) (i : Nat) :
    List Node → List (List Nat)
  | [] => []
  | n :: rest =>
    (if p parent i then [[]] else outermostPaths p n).map (i :: ·) ++
      outermostPathsOf p parent (i + 1) rest

end

theorem mem_outermostPathsOf {parent : Node} {i : Nat} {parts : List Node} {path : List Nat} :
    path ∈ outermostPathsOf p parent i parts ↔ ∃ j part inner, parts[j]? = some part ∧
      path = (i + j) :: inner ∧
        inner ∈ if p parent (i + j) then [[]] else outermostPaths p part := by
  induction parts generalizing i with
  | nil => simp [outermostPathsOf]
  | cons n rest ih =>
    rw [outermostPathsOf, List.mem_append, List.mem_map, ih]
    constructor
    · rintro (⟨inner, hinner, rfl⟩ | ⟨j, part, inner, hpart, rfl, hinner⟩)
      · exact ⟨0, n, inner, rfl, rfl, hinner⟩
      · rw [Nat.add_right_comm, Nat.add_assoc] at hinner ⊢
        exact ⟨j + 1, part, inner, hpart, rfl, hinner⟩
    · rintro ⟨j, part, inner, hpart, rfl, hinner⟩
      cases j with
      | zero =>
        obtain rfl := Option.some.inj hpart
        exact .inl ⟨inner, hinner, rfl⟩
      | succ j =>
        rw [← Nat.add_assoc, Nat.add_right_comm] at hinner ⊢
        exact .inr ⟨j, part, inner, hpart, rfl, hinner⟩

theorem mem_outermostPaths {path : List Nat} :
    path ∈ outermostPaths p n ↔ IsOutermostAt p n path := by
  induction n using Node.induction generalizing path with
  | node head parts ih =>
    rw [outermostPaths, mem_outermostPathsOf]
    cases path with
    | nil => simpa using fun h : IsOutermostAt p (.node head parts) [] => not_isFoundAt_nil h.1
    | cons i path =>
      rw [isOutermostAt_cons]
      constructor
      · rintro ⟨j, part, inner, hpart, heq, hinner⟩
        rw [Nat.zero_add] at heq hinner
        obtain ⟨rfl, rfl⟩ := List.cons.inj heq
        refine ⟨part, hpart, ?_⟩
        split at hinner
        · next hp => exact .inl ⟨hp, List.mem_singleton.mp hinner⟩
        · next hp =>
          exact .inr ⟨Bool.eq_false_iff.mpr hp, (ih part (List.mem_of_getElem? hpart)).mp hinner⟩
      · rintro ⟨part, hpart, hcases⟩
        refine ⟨i, part, path, hpart, by rw [Nat.zero_add], ?_⟩
        rw [Nat.zero_add]
        obtain ⟨hp, rfl⟩ | ⟨hp, houtermost⟩ := hcases
        · rw [if_pos hp]
          exact List.mem_singleton_self _
        · rw [if_neg (Bool.eq_false_iff.mp hp)]
          exact (ih part (List.mem_of_getElem? hpart)).mpr houtermost

theorem nodup_outermostPaths : (outermostPaths p n).Nodup := by
  induction n using Node.induction with
  | node head parts ih =>
    rw [outermostPaths]
    generalize Tree.node head parts = parent
    generalize 0 = i
    induction parts generalizing i with
    | nil => exact List.nodup_nil
    | cons n rest ihrest =>
      obtain ⟨hn, hrest⟩ := List.forall_mem_cons.mp ih
      rw [outermostPathsOf, List.nodup_append]
      refine ⟨List.Nodup.map (fun _ _ h => (List.cons.inj h).2) ?_, ihrest hrest (i + 1), ?_⟩
      · split
        · exact List.nodup_singleton _
        · exact hn
      · rintro path hpath other hother rfl
        obtain ⟨inner, -, rfl⟩ := List.mem_map.mp hpath
        obtain ⟨j, part, inner', -, heq, -⟩ := mem_outermostPathsOf.mp hother
        have := (List.cons.inj heq).1
        omega

/-! ### Following a substitution -/

section Substitute

variable {g : Node → Node}

theorem snd_substitute (n : Node) : (substitute p g n).2 = (outermostPaths p n).length := by
  induction n using Node.induction with
  | node head parts ih =>
    rw [substitute, outermostPaths]
    dsimp only
    generalize Tree.node head parts = parent
    generalize 0 = i
    induction parts generalizing i with
    | nil => rfl
    | cons n rest ihrest =>
      obtain ⟨hn, hrest⟩ := List.forall_mem_cons.mp ih
      rw [substituteParts, outermostPathsOf, List.length_append, List.length_map,
        ← ihrest hrest (i + 1)]
      cases p parent i with
      | true => exact Nat.add_comm _ _
      | false => exact congrArg (· + _) hn

theorem at?_substitute_cons (n : Node) (i : Nat) (path : List Nat) :
    (substitute p g n).1.at? (i :: path) = n.children[i]?.bind fun part =>
      (if p n i then g part else (substitute p g part).1).at? path := by
  rw [Tree.at?_cons, children_substitute, List.getElem?_mapIdx]
  cases n.children[i]? <;> rfl

/-- What stands where a part was found is its substitute. -/
theorem at?_substitute_of_outermost {path : List Nat} {part : Node}
    (hpath : IsOutermostAt p n path) (hpart : n.at? path = some part) :
    (substitute p g n).1.at? path = some (g part) := by
  induction path generalizing n with
  | nil => exact (not_isFoundAt_nil hpath.1).elim
  | cons i path ih =>
    obtain ⟨child, hchild, hcases⟩ := isOutermostAt_cons.mp hpath
    rw [at?_substitute_cons, hchild, Option.bind_some]
    rw [Tree.at?_cons, hchild, Option.bind_some] at hpart
    obtain ⟨hp, rfl⟩ | ⟨hp, houtermost⟩ := hcases
    · obtain rfl := Option.some.inj hpart
      rw [if_pos hp, Tree.at?_nil]
    · rw [if_neg (Bool.eq_false_iff.mp hp)]
      exact ih houtermost hpart

/-- What stands at a path that leads into no part that was found is what stood there, gone into. -/
theorem at?_substitute_of_clear {path : List Nat} {part : Node} (hpath : IsClearAt p n path)
    (hpart : n.at? path = some part) :
    (substitute p g n).1.at? path = some (substitute p g part).1 := by
  induction path generalizing n with
  | nil =>
    obtain rfl := Option.some.inj hpart
    rfl
  | cons i path ih =>
    obtain ⟨child, hchild, hpart⟩ := Tree.at?_cons_eq_some.mp hpart
    rw [at?_substitute_cons, hchild, Option.bind_some]
    have hp : ¬p n i = true := fun hp =>
      hpath [i] ⟨path, rfl⟩ (isFoundAt_cons.mpr ⟨child, hchild, .inl ⟨rfl, hp⟩⟩)
    rw [if_neg hp]
    refine ih (fun outer hprefix houter => ?_) hpart
    exact hpath (i :: outer) (List.cons_prefix_cons.mpr ⟨rfl, hprefix⟩)
      (isFoundAt_cons.mpr ⟨child, hchild, .inr houter⟩)

theorem substituted_substitute {Follows : Node → Node → Prop} (hg : ∀ n, Follows n (g n))
    (n : Node) : Substituted p Follows n (substitute p g n).1 (substitute p g n).2 where
  exchanged _ part hpath hpart := ⟨g part, at?_substitute_of_outermost hpath hpart, hg part⟩
  kept path part hpath hpart := by
    refine ⟨_, at?_substitute_of_clear hpath hpart, value_substitute part, ?_⟩
    rw [children_substitute, List.length_mapIdx]
  counted := ⟨outermostPaths p n, nodup_outermostPaths, fun _ => mem_outermostPaths,
    snd_substitute n⟩

end Substitute

end SourceEdit.Script.Node
