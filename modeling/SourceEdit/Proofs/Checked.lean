/-!
# Sound results

What reading gives may hold trees in lists, options and pairs.  `Checked` says of a type of results
when they are sound; a type that holds no trees has nothing to show, and `IsPlain` marks such types.
The rules here are tagged for `grind`, so that soundness is followed through the definitions of
readers.
-/

namespace SourceEdit

/-- Results of reading, and when they are sound. -/
class Checked (α : Type) where
  IsSound : α → Prop

export Checked (IsSound)

instance (priority := low) Checked.plain {α : Type} : Checked α := ⟨fun _ => True⟩

instance Checked.list {α : Type} [Checked α] : Checked (List α) := ⟨fun l => ∀ a ∈ l, IsSound a⟩

instance Checked.option {α : Type} [Checked α] : Checked (Option α) :=
  ⟨fun o => ∀ a, o = some a → IsSound a⟩

instance Checked.prod {α β : Type} [Checked α] [Checked β] : Checked (α × β) :=
  ⟨fun p => IsSound p.1 ∧ IsSound p.2⟩

/-- Results without nodes in them. -/
class IsPlain (α : Type) [Checked α] : Prop where
  isSound (a : α) : IsSound a

instance {α : Type} : @IsPlain α .plain := @IsPlain.mk α .plain fun _ => trivial

instance {α : Type} [Checked α] [IsPlain α] : IsPlain (List α) := ⟨fun _ _ _ => IsPlain.isSound _⟩

instance {α : Type} [Checked α] [IsPlain α] : IsPlain (Option α) := ⟨fun _ _ _ => IsPlain.isSound _⟩

instance {α β : Type} [Checked α] [Checked β] [IsPlain α] [IsPlain β] : IsPlain (α × β) :=
  ⟨fun _ => ⟨IsPlain.isSound _, IsPlain.isSound _⟩⟩

section Results

variable {α β : Type} [Checked α] [Checked β]

@[grind ←]
theorem isSound_plain [IsPlain α] (a : α) : IsSound a := IsPlain.isSound a

@[simp, grind norm]
theorem isSound_nil : IsSound ([] : List α) ↔ True := by simp [IsSound]

@[simp, grind norm]
theorem isSound_cons {a : α} {l : List α} : IsSound (a :: l) ↔ IsSound a ∧ IsSound l := by
  simp [IsSound]

@[simp, grind norm]
theorem isSound_append {l m : List α} : IsSound (l ++ m) ↔ IsSound l ∧ IsSound m := by
  simp [IsSound, or_imp, forall_and]

@[simp, grind =]
theorem isSound_none : IsSound (none : Option α) ↔ True := by simp [IsSound]

@[simp, grind =]
theorem isSound_some {a : α} : IsSound (some a) ↔ IsSound a := by simp [IsSound]

@[simp, grind =]
theorem isSound_pure {a : α} : IsSound (pure a : Option α) ↔ IsSound a := isSound_some

@[grind ←]
theorem isSound_bind {o : Option α} {f : α → Option β} (ho : IsSound o)
    (hf : ∀ a, IsSound a → IsSound (f a)) : IsSound (o >>= f) := by
  cases o with
  | none => exact isSound_none.mpr trivial
  | some a => exact hf a (isSound_some.mp ho)

@[simp, grind =]
theorem isSound_prod {p : α × β} : IsSound p ↔ IsSound p.1 ∧ IsSound p.2 := .rfl

@[grind ←]
theorem isSound_filter {l : List α} (h : IsSound l) (p : α → Bool) : IsSound (l.filter p) :=
  fun a ha => h a (List.mem_filter.mp ha).1

@[grind ←]
theorem isSound_map {l : List α} (h : IsSound l) {f : α → β} (hf : ∀ a, IsSound a → IsSound (f a)) :
    IsSound (l.map f) := by
  simp only [IsSound, List.forall_mem_map]
  exact fun a ha => hf a (h a ha)

@[grind ←]
theorem isSound_find? {l : List α} (h : IsSound l) (p : α → Bool) : IsSound (l.find? p) :=
  fun a ha => h a (List.mem_of_find?_eq_some ha)

end Results

end SourceEdit
