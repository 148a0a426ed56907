import SourceEdit.Json.Reader
import SourceEdit.Proofs.Modification.Record

/-!
# Integers of 64 bits

The integers of a value that has been read from a text fit in 64 bits, signed or unsigned
(`fits_of_ofText?`): digits are gathered below `2 ^ 64`, and what does not fit becomes a binary64
number.  Of a record that is read from such a value, the number of a modification and the count of
modifications fit as well, and a record in which they do is written as such a value
(`fits_toJson_iff`).
-/

namespace SourceEdit.Json

/-- An integer fits in 64 bits, signed or unsigned. -/
def Number.Fits : Number → Prop
  | .integer i => Int64.minValue.toInt ≤ i ∧ i < UInt64.size
  | .float _ => True

/-- Every integer in a value fits in 64 bits. -/
inductive Fits : Json → Prop where
  | null : Fits .null
  | bool (b : Bool) : Fits (.bool b)
  | number {x : Number} (h : x.Fits) : Fits (.number x)
  | string (s : String) : Fits (.string s)
  | array {items : List Json} (h : ∀ j ∈ items, Fits j) : Fits (.array items)
  | object {fields : List (String × Json)} (h : ∀ f ∈ fields, Fits f.2) : Fits (.object fields)

variable {negative : Bool} {r r' : Rest} {j : Json} {x : Number}

/-! ### Numbers -/

/-- A significand stays below `2 ^ 64`, however many digits there are. -/
theorem gather_lt {acc : Nat} (h : acc < UInt64.size) (cs : List Char) :
    (gather acc cs).1 < UInt64.size := by
  induction cs generalizing acc with
  | nil => exact h
  | cons c cs ih =>
    rw [gather]
    split
    · next hnext => exact ih hnext
    · exact h

theorem significand_lt (whole fraction : List Char) :
    (significand whole fraction).1 < UInt64.size := by
  have hfirst : (gather 0 whole).1 < UInt64.size := gather_lt (by decide) whole
  unfold significand
  dsimp only
  split
  · exact gather_lt hfirst fraction
  · exact hfirst

theorem fits_of_scaled? {digits : Nat} {exponent : Int}
    (h : scaled? negative digits exponent = some x) : x.Fits := by
  obtain ⟨y, -, rfl⟩ := Option.map_eq_some_iff.mp h
  trivial

/-- A significand with a sign is kept as an integer if it fits. -/
theorem fits_of_integer? {digits : Nat} (hdigits : digits < UInt64.size)
    (h : integer? negative digits = some x) : x.Fits := by
  have hsize : UInt64.size = 18446744073709551616 := rfl
  have hleast : Int64.minValue.toInt = -9223372036854775808 := rfl
  rw [integer?] at h
  split at h
  · cases h
    exact ⟨by omega, by omega⟩
  · split at h
    · exact fits_of_scaled? h
    · next hsmall =>
      cases h
      simp only [Bool.or_eq_true, decide_eq_true_eq, not_or] at hsmall
      exact ⟨by omega, by omega⟩

theorem fits_of_number? {whole fraction : List Char} {hasPoint : Bool} {power : Option Int}
    (h : number? negative whole fraction hasPoint power = some x) : x.Fits := by
  rw [number?] at h
  split at h
  · exact fits_of_integer? (significand_lt whole fraction) h
  · exact fits_of_scaled? h

theorem fits_of_unsigned? (h : unsigned? negative r = some (x, r')) : x.Fits := by
  unfold unsigned? at h
  obtain ⟨-, -, h⟩ := Option.bind_eq_some_iff.mp h
  obtain ⟨⟨⟨fraction, hasPoint⟩, r₁⟩, -, h⟩ := Option.bind_eq_some_iff.mp h
  obtain ⟨⟨power, r₂⟩, -, h⟩ := Option.bind_eq_some_iff.mp h
  obtain ⟨y, hy, hx⟩ := Option.map_eq_some_iff.mp h
  cases hx
  exact fits_of_number? hy

/-! ### Values -/

theorem fits_of_keyword? {word : String} {value : Json} (hvalue : value.Fits)
    (h : keyword? word value r = some (j, r')) : j.Fits := by
  rw [keyword?] at h
  split at h
  · cases h
    exact hvalue
  · cases h

mutual

/-- By induction on the fuel, with the items and the fields that are read before a value is done. -/
theorem fits_of_value? : (n : Nat) → {r r' : Rest} → {j : Json} → value? n r = some (j, r') → j.Fits
  | 0, _, _, _, h => by cases h
  | n + 1, r, r', j, h => by
    rw [value?] at h
    split at h
    · obtain ⟨⟨s, r₁⟩, -, hj⟩ := Option.map_eq_some_iff.mp h
      cases hj
      exact .string s
    · split at h
      · cases h
        exact .array (List.forall_mem_nil _)
      · obtain ⟨⟨js, r₁⟩, hjs, hj⟩ := Option.map_eq_some_iff.mp h
        cases hj
        exact .array (fits_of_items? n (List.forall_mem_nil _) hjs)
    · split at h
      · cases h
        exact .object (List.forall_mem_nil _)
      · obtain ⟨⟨fs, r₁⟩, hfs, hj⟩ := Option.map_eq_some_iff.mp h
        cases hj
        exact .object (fits_of_fields? n (List.forall_mem_nil _) hfs)
    · obtain ⟨⟨x, r₁⟩, hx, hj⟩ := Option.map_eq_some_iff.mp h
      cases hj
      exact .number (fits_of_unsigned? hx)
    · exact fits_of_keyword? .null h
    · exact fits_of_keyword? (.bool true) h
    · exact fits_of_keyword? (.bool false) h
    · obtain ⟨⟨x, r₁⟩, hx, hj⟩ := Option.map_eq_some_iff.mp h
      cases hj
      exact .number (fits_of_unsigned? hx)
    · cases h

theorem fits_of_items? : (n : Nat) → {r r' : Rest} → {acc js : List Json} →
    (∀ j ∈ acc, j.Fits) → items? n acc r = some (js, r') → ∀ j ∈ js, j.Fits
  | 0, _, _, _, _, _, h => by cases h
  | n + 1, r, r', acc, js, hacc, h => by
    simp only [items?, Option.bind_eq_bind, Option.bind_eq_some_iff] at h
    obtain ⟨⟨j, r₁⟩, hj, h⟩ := h
    have hmore : ∀ i ∈ j :: acc, i.Fits := List.forall_mem_cons.mpr ⟨fits_of_value? n hj, hacc⟩
    split at h
    · exact fits_of_items? n hmore h
    · cases h
      exact fun i hi => hmore i (List.mem_reverse.mp hi)
    · cases h

theorem fits_of_fields? : (n : Nat) → {r r' : Rest} → {acc fs : List (String × Json)} →
    (∀ f ∈ acc, f.2.Fits) → fields? n acc r = some (fs, r') → ∀ f ∈ fs, f.2.Fits
  | 0, _, _, _, _, _, h => by cases h
  | n + 1, r, r', acc, fs, hacc, h => by
    rw [fields?] at h
    split at h
    · simp only [Option.bind_eq_bind, Option.bind_eq_some_iff] at h
      obtain ⟨⟨name, r₁⟩, -, h⟩ := h
      split at h
      · simp only [Option.bind_eq_some_iff] at h
        obtain ⟨⟨j, r₂⟩, hj, h⟩ := h
        have hmore : ∀ f ∈ (name, j) :: acc, f.2.Fits :=
          List.forall_mem_cons.mpr ⟨fits_of_value? n hj, hacc⟩
        split at h
        · exact fits_of_fields? n hmore h
        · cases h
          exact fun f hf => hmore f (List.mem_reverse.mp hf)
        · cases h
      · cases h
    · cases h

end

/-- What is read from a text has integers of 64 bits. -/
theorem fits_of_ofText? {s : String} (h : ofText? s = some j) : j.Fits := by
  rw [ofText?] at h
  split at h
  · next hvalue =>
    split at h
    · cases h
      exact fits_of_value? _ hvalue
    · cases h
  · cases h

end Json

/-! ### Records -/

namespace Record

/-- The fields of a record are values inside it, whether they are named or listed. -/
theorem fits_field? {arity : Nat} {j j' : Json} {s : Source} {name : String} {index : Nat}
    (hj : j.Fits) (hs : source? arity j = some s) (h : s.field? name index = some j') : j'.Fits := by
  cases hj with
  | @array items hitems =>
    rw [source?] at hs
    split at hs
    · cases hs
      exact hitems j' (List.mem_of_getElem? h)
    · cases hs
  | @object fields hfields =>
    cases hs
    obtain ⟨before, after, rfl, -⟩ := List.lookup_eq_some_iff.mp h
    exact hfields (name, j') (by simp)
  | _ => cases hs

/-- An optional field adds its value to an object, if it has one. -/
theorem fits_optionField_iff {name : String} {value : Option Json} :
    (∀ f ∈ optionField name value, f.2.Fits) ↔ ∀ j ∈ value, j.Fits := by
  cases value <;> simp [optionField]

end Record

namespace Json

@[simp]
theorem fits_object_iff {fields : List (String × Json)} :
    (object fields).Fits ↔ ∀ f ∈ fields, f.2.Fits :=
  ⟨fun h => by cases h; assumption, .object⟩

@[simp]
theorem fits_number_iff {x : Number} : (number x).Fits ↔ x.Fits :=
  ⟨fun h => by cases h; assumption, .number⟩

@[simp]
theorem fits_string (s : String) : (string s).Fits := .string s

@[simp]
theorem fits_bool (b : Bool) : (bool b).Fits := .bool b

/-- A count is read from the value that it is written as. -/
theorem nat?_eq_some_iff {j : Json} {n : Nat} : j.nat? = some n ↔ j = ofNat n := by
  constructor
  · intro h
    unfold nat? at h
    split at h
    · cases h
      rfl
    · cases h
  · rintro rfl
    rfl

theorem fits_ofNat_iff {n : Nat} : (ofNat n).Fits ↔ n < UInt64.size := by
  have hleast : Int64.minValue.toInt = -9223372036854775808 := rfl
  rw [ofNat, ofInt, fits_number_iff, Number.Fits]
  omega

end Json

open Json Record

/-- A modification is written with integers of 64 bits if its number is one, or not an integer. -/
theorem Modification.fits_toJson_iff {m : Modification} :
    m.toJson.Fits ↔ ∀ x, m.value = some (.number x) → x.Fits := by
  have htarget : m.target.toJson.Fits := by
    rw [Target.toJson, fits_object_iff]
    simp only [List.forall_mem_append, fits_optionField_iff]
    simp
  have hvalue : (∀ j ∈ m.value.map Payload.toJson, j.Fits) ↔
      ∀ x, m.value = some (.number x) → x.Fits := by
    cases m.value with
    | none => simp
    | some p => cases p <;> simp [Payload.toJson]
  simp only [toJson, fits_object_iff, List.forall_mem_append, List.forall_mem_cons,
    fits_optionField_iff, hvalue, htarget]
  simp [Grammar.toJson, Operation.toJson, Position.toJson]

/-- The number of a modification that is read is no integer of more than 64 bits. -/
theorem Modification.fits_of_ofJson? {j : Json} {m : Modification} (hj : j.Fits)
    (h : ofJson? j = some m) : ∀ x, m.value = some (.number x) → x.Fits := by
  simp only [ofJson?, Option.bind_eq_bind, Option.bind_eq_some_iff, Option.some.injEq] at h
  obtain ⟨s, hs, -, -, -, -, -, -, -, -, -, -, value, hvalue, -, -, rfl⟩ := h
  rintro x rfl
  -- the field is there, and is the number
  cases hfield : s.field? "value" 4 with
  | none =>
    rw [hfield] at hvalue
    cases hvalue
  | some j' =>
    have hnumber : j' = .number x := by
      rw [hfield] at hvalue
      cases j' <;> cases hvalue
      rfl
    exact fits_number_iff.mp (hnumber ▸ fits_field? hj hs hfield)

/-- An outcome is written with integers of 64 bits if its count is one. -/
theorem FileResult.fits_toJson_iff {r : FileResult} :
    r.toJson.Fits ↔ r.modificationsApplied < UInt64.size := by
  simp only [toJson, fits_object_iff, List.forall_mem_append, List.forall_mem_cons,
    fits_optionField_iff, fits_ofNat_iff]
  simp

/-- The count of an outcome that is read fits in 64 bits. -/
theorem FileResult.lt_of_ofJson? {j : Json} {r : FileResult} (hj : j.Fits)
    (h : ofJson? j = some r) : r.modificationsApplied < UInt64.size := by
  simp only [ofJson?, Option.bind_eq_bind, Option.bind_eq_some_iff, Option.some.injEq] at h
  obtain ⟨s, hs, -, -, -, -, n, hn, -, -, rfl⟩ := h
  cases hfield : s.field? "modificationsApplied" 2 with
  | none =>
    rw [hfield] at hn
    cases hn
  | some j' =>
    rw [hfield] at hn
    have hcount : j' = .ofNat n := nat?_eq_some_iff.mp hn
    exact fits_ofNat_iff.mp (hcount ▸ fits_field? hj hs hfield)

end SourceEdit
