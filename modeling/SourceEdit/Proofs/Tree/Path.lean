import Mathlib.Data.List.Basic
import SourceEdit.Tree

/-!
# Paths in a tree

A path goes down from the root of a tree by the numbers of the children that it takes.  It says where
a subtree stands, which the subtree itself does not: the same subtree may stand at several paths.
-/

namespace SourceEdit.Tree

variable {α : Type}

/-- The subtree at a path. -/
def at? (t : Tree α) : List Nat → Option (Tree α)
  | [] => some t
  | i :: path => t.children[i]?.bind fun c => c.at? path

theorem at?_nil (t : Tree α) : t.at? [] = some t := rfl

theorem at?_cons (t : Tree α) (i : Nat) (path : List Nat) :
    t.at? (i :: path) = t.children[i]?.bind fun c => c.at? path := rfl

/-- A path leads on from where another one leads to. -/
theorem at?_append (t : Tree α) (outer path : List Nat) :
    t.at? (outer ++ path) = (t.at? outer).bind fun c => c.at? path := by
  induction outer generalizing t with
  | nil => rfl
  | cons i outer ih =>
    rw [List.cons_append, at?_cons, at?_cons]
    cases t.children[i]? with
    | none => rfl
    | some c => exact ih c

theorem at?_append_of_eq {t c : Tree α} {outer : List Nat} (h : t.at? outer = some c)
    (path : List Nat) : t.at? (outer ++ path) = c.at? path := by
  rw [at?_append, h, Option.bind_some]

/-- One step leads to a child. -/
theorem at?_singleton (t : Tree α) (i : Nat) : t.at? [i] = t.children[i]? := by
  rw [at?_cons]
  cases t.children[i]? <;> rfl

theorem at?_cons_eq_some {t c : Tree α} {i : Nat} {path : List Nat} :
    t.at? (i :: path) = some c ↔ ∃ child, t.children[i]? = some child ∧ child.at? path = some c :=
  Option.bind_eq_some_iff

/-- What stands at a path that goes one step further is a child of what stands at the path. -/
theorem at?_concat_eq_some {t c : Tree α} {outer : List Nat} {i : Nat} :
    t.at? (outer ++ [i]) = some c ↔
      ∃ parent, t.at? outer = some parent ∧ parent.children[i]? = some c := by
  simp only [at?_append, Option.bind_eq_some_iff, at?_singleton]

end SourceEdit.Tree
