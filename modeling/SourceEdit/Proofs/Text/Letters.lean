import Mathlib.Tactic.SplitIfs
import SourceEdit.Text.Characters

/-!
# Letter case

Lowering the case of a text changes its ASCII letters only, and once is enough.  What does not tell
letters apart does not see case (`toLower_congr`).
-/

namespace SourceEdit

/-! ### Characters -/

/-- Lowering the case of a letter gives a letter, and leaves every other character as it is. -/
theorem toLower_eq_or_isAsciiLetter (c : Char) :
    c.toLower = c ∨ (isAsciiLetter c = true ∧ isAsciiLetter c.toLower = true) := by
  unfold Char.toLower
  split_ifs with h
  · right
    simp only [isAsciiLetter, Bool.or_eq_true, Bool.and_eq_true, decide_eq_true_eq, Char.le_def,
      UInt32.le_iff_toNat_le, ge_iff_le] at h ⊢
    simp at h ⊢
    omega
  · exact .inl rfl

/-- What does not tell letters apart does not see case. -/
theorem toLower_congr {β : Type} {f : Char → β} {b : β} (hf : ∀ c, isAsciiLetter c = true → f c = b)
    (c : Char) : f c.toLower = f c := by
  obtain h | ⟨hc, hlower⟩ := toLower_eq_or_isAsciiLetter c
  · rw [h]
  · rw [hf c hc, hf _ hlower]

@[simp]
theorem toLower_toLower (c : Char) : c.toLower.toLower = c.toLower := by
  unfold Char.toLower
  split_ifs with h h'
  · simp only [UInt32.le_iff_toNat_le, ge_iff_le] at h h'
    simp at h h'
    omega
  · rfl
  · rfl

@[simp]
theorem isAsciiLetter_toLower (c : Char) : isAsciiLetter c.toLower = isAsciiLetter c :=
  toLower_congr (b := true) (fun _ h => h) c

theorem isBlank_eq_false_of_isAsciiLetter {c : Char} (h : isAsciiLetter c = true) :
    isBlank c = false := by
  simp only [isAsciiLetter, Bool.or_eq_true, Bool.and_eq_true, decide_eq_true_eq, Char.le_def,
    UInt32.le_iff_toNat_le] at h
  simp at h
  rw [Bool.eq_false_iff]
  simp [isBlank]
  omega

/-! ### Texts -/

@[simp]
theorem asciiLower_nil : asciiLower [] = [] := rfl

@[simp]
theorem asciiLower_cons (c : Char) (cs : List Char) :
    asciiLower (c :: cs) = c.toLower :: asciiLower cs := rfl

@[simp]
theorem asciiLower_asciiLower (cs : List Char) : asciiLower (asciiLower cs) = asciiLower cs := by
  simp [asciiLower]

theorem eqIgnoringCase_iff {cs ds : List Char} :
    eqIgnoringCase cs ds = true ↔ asciiLower cs = asciiLower ds := beq_iff_eq

end SourceEdit
