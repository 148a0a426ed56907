import SourceEdit.EditError
import SourceEdit.Proofs.Arena.Graft

/-!
# What an edit may leave behind

An edit `Keeps` a tree if an invariant holds of what it leaves whatever happens, and if it leaves the
tree as it was whenever it is stopped by an error or makes no edit.  For an arena this is being
`Sound`: the arena stays well-formed and an idle edit leaves the tree below the root as it was.  The
arena itself may have grown in that case, since texts are read into it before they are looked at.

`IdempotentAt` is said of an edit that may be done twice: when it has succeeded, it succeeds again and
changes nothing more.

Edits go through a list of nodes and count.  `foldl_counted` reduces what is to be shown of such a
loop to one step of it.
-/

namespace SourceEdit

namespace Edited

variable {σ : Type} {I : σ → Prop} {R : σ → σ → Prop} {s : σ}

/-- No edit was made: there was an error, or nothing to work on. -/
def Idle (e : Edited σ) : Prop := ∀ n, e.result = .ok n → n = 0

@[simp]
theorem idle_done (tree : σ) (n : Nat) : (done tree n).Idle ↔ n = 0 := by
  simp [Idle, done]

/-- An edit leaves a tree of which an invariant holds, and one like the tree before if it is idle. -/
structure Keeps (I : σ → Prop) (R : σ → σ → Prop) (s : σ) (e : Edited σ) : Prop where
  invariant : I e.tree
  unchanged : e.Idle → R s e.tree

/-- An edit that made something of it has nothing to answer for but the invariant. -/
theorem Keeps.done {t : σ} (ht : I t) {n : Nat} (h : n = 0 → R s t) : Keeps I R s (.done t n) :=
  ⟨ht, fun hidle => h ((idle_done t n).mp hidle)⟩

theorem Keeps.failed [Std.Refl R] (hs : I s) (err : EditError) : Keeps I R s (.failed s err) :=
  ⟨hs, fun _ => refl_of R s⟩

theorem Keeps.needing [Std.Refl R] {β : Type} (hs : I s) {needed : Except EditError β}
    {next : β → Edited σ} (h : ∀ x, needed = .ok x → Keeps I R s (next x)) :
    Keeps I R s (.needing s needed next) := by
  cases needed with
  | ok x => exact h x rfl
  | error err => exact failed hs err

/-- An edit that succeeds had what it needs. -/
theorem exists_of_needing {β : Type} {needed : Except EditError β} {next : β → Edited σ} {n : Nat}
    (h : (needing s needed next).result = .ok n) :
    ∃ x, needed = .ok x ∧ (next x).result = .ok n := by
  cases needed with
  | ok x => exact ⟨x, rfl, h⟩
  | error err => cases h

end Edited

theorem requiredValue_eq {m : Modification} {value : String} (h : m.valueText? = some value) :
    m.requiredValue = .ok value := by
  rw [Modification.requiredValue, h]

theorem valueText?_eq {m : Modification} {value : String} (h : m.requiredValue = .ok value) :
    m.valueText? = some value := by
  unfold Modification.requiredValue at h
  split at h
  · next heq => rw [heq, Except.ok.inj h]
  · cases h

/-- If an edit succeeds, it succeeds once more on the tree that it leaves, and leaves one like that. -/
def IdempotentAt {σ : Type} (edit : σ → Edited σ) (R : σ → σ → Prop) (s : σ) : Prop :=
  ∀ n, (edit s).result = .ok n →
    ∃ n', (edit (edit s).tree).result = .ok n' ∧ R (edit s).tree (edit (edit s).tree).tree

/-! ### Edits of arenas -/

variable {α : Type} [Inhabited α] {a : Arena α}

/-- The tree below the root is the same in two arenas. -/
def Arena.Alike (a b : Arena α) : Prop := b.view b.root = a.view a.root

instance : Std.Refl (@Arena.Alike α _) := ⟨fun _ => rfl⟩

/-- An edit of an arena keeps it well-formed, and keeps the tree below the root if it is idle. -/
def Edited.Sound (a : Arena α) (e : Edited (Arena α)) : Prop :=
  e.Keeps Arena.WellFormed Arena.Alike a

theorem Edited.Sound.done {b : Arena α} (hb : b.WellFormed) {n : Nat} (h : n = 0 → b = a) :
    Sound a (.done b n) :=
  Keeps.done hb fun hn => h hn ▸ refl_of Arena.Alike b

/-- An arena that only got new nodes shows the same tree. -/
theorem Edited.Sound.of_extends (ha : a.WellFormed) {e : Edited (Arena α)} (hb : e.tree.WellFormed)
    (hab : e.Idle → a.Extends e.tree) : Sound a e :=
  ⟨hb, fun hidle => (hab hidle).view_eq ha hb ha.root_lt_size⟩

/-! ### Loops that count -/

section Loop

variable {σ ι : Type} {f : σ × Nat → ι → σ × Nat}

/-- If a step of a counting loop keeps an invariant, does not lower the count, and leaves the state
related to the one before if it does not raise the count, then so does the loop. -/
theorem foldl_counted {P : σ → Prop} {R : σ → σ → Prop} (hrefl : ∀ s, R s s)
    (htrans : ∀ {s t u}, R s t → R t u → R s u) {l : List ι}
    (hstep : ∀ s n, ∀ i ∈ l, P s → P (f (s, n) i).1 ∧ n ≤ (f (s, n) i).2 ∧
      ((f (s, n) i).2 = n → R s (f (s, n) i).1)) {s : σ} (n : Nat) (hs : P s) :
    P (l.foldl f (s, n)).1 ∧ n ≤ (l.foldl f (s, n)).2 ∧
      ((l.foldl f (s, n)).2 = n → R s (l.foldl f (s, n)).1) := by
  induction l generalizing s n with
  | nil => exact ⟨hs, Nat.le_refl n, fun _ => hrefl s⟩
  | cons i l ih =>
    obtain ⟨hs', hle', hR'⟩ := hstep s n i List.mem_cons_self hs
    obtain ⟨hend, hle, hR⟩ := ih (fun s n j hj => hstep s n j (List.mem_cons_of_mem _ hj))
      (f (s, n) i).2 hs'
    refine ⟨hend, hle'.trans hle, fun h => ?_⟩
    have hcount : (f (s, n) i).2 = n := Nat.le_antisymm (hle.trans h.le) hle'
    exact htrans (hR' hcount) (hR (h.trans hcount.symm))

end Loop

end SourceEdit
