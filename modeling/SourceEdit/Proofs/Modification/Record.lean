import Mathlib.Logic.Relation
import SourceEdit.Modification.Record

/-!
# Records read back what is written, however it is spelt

Reading undoes writing for every record.  A reader takes an object only by the first value of each
name it knows, so the proofs follow one field at a time: what a field reads after writing
(`lookup_optionField`, `optional_map`), and what is left of it after a respelling.

A modification has many spellings (`Modification.Respells`): its grammar goes by two names,
grammars and positions have aliases, an optional field may be null as well as absent, and an object
may hold more than the fields of the record.  They are all read as the same modification.
-/

namespace SourceEdit

namespace Record

variable {α : Type} {read : Json → Option α} {write : α → Json}
variable {name key : String} {j j' : Json} {before after fields fields' : List (String × Json)}

/-! ### One field -/

@[simp]
theorem string_string (s : String) : string (.string s) = some s := rfl

@[simp]
theorem bool_bool (b : Bool) : bool (.bool b) = some b := rfl

@[simp]
theorem count_ofNat (n : Nat) : count (Json.ofNat n) = some n := rfl

/-- An optional field is found under its own name if it has a value. -/
theorem lookup_optionField (value : Option Json) :
    (optionField name value).lookup key = if key = name then value else none := by
  cases value <;> grind [optionField]

/-- A written optional field is read back. -/
theorem optional_map (hread : ∀ a, read (write a) = some a) (hnull : read .null = none)
    (value : Option α) : optional read (value.map write) = some value := by
  cases value with
  | none => rfl
  | some a =>
    have hne : write a ≠ .null := by
      intro h
      simp [← h, hread] at hnull
    simp [optional, hread]

/-- An optional field that is given is read as a value, not as null. -/
theorem optional_some {a : α} (hread : read j = some a) (hnull : read .null = none) :
    optional read (some j) = some (some a) := by
  have hne : j ≠ .null := by
    intro h
    simp [h, hnull] at hread
  simp [optional, hread]

/-- An entry is not seen by the name of another field. -/
theorem lookup_append_cons_of_ne (h : name ≠ key) :
    (before ++ (key, j) :: after).lookup name = (before ++ after).lookup name := by
  have hname : (name == key) = false := beq_false_of_ne h
  simp [List.lookup_append, List.lookup_cons, hname]

/-- The value of an entry is not seen by the name of another field. -/
theorem lookup_append_cons_eq (h : name ≠ key) :
    (before ++ (key, j) :: after).lookup name = (before ++ (key, j') :: after).lookup name := by
  rw [lookup_append_cons_of_ne h, lookup_append_cons_of_ne h]

/-- Two values of an entry make no difference to a field that reads them alike. -/
theorem lookup_append_cons_congr {β : Type} (f : Option Json → β) (h : f (some j) = f (some j')) :
    f ((before ++ (key, j) :: after).lookup key) =
      f ((before ++ (key, j') :: after).lookup key) := by
  cases hbefore : before.lookup key <;> simp [List.lookup_append, hbefore, h]

/-! ### Additions -/

/-- The names of the fields of a record, and the fields that may be left out, each with all of its
names. -/
structure Schema where
  names : List String
  optionals : List (List String)

/-- What may be put into an object without a change to the record that is read: entries of other
names, and null for a field that is left out. -/
inductive Schema.Adds (schema : Schema) : List (String × Json) → List (String × Json) → Prop
  | unknown {key : String} {j : Json} {before after : List (String × Json)} :
      key ∉ schema.names → Adds schema (before ++ after) (before ++ (key, j) :: after)
  | null {key : String} {before after : List (String × Json)} {field : List String} :
      field ∈ schema.optionals → key ∈ field →
      (∀ name ∈ field, (before ++ after).lookup name = none) →
      Adds schema (before ++ after) (before ++ (key, .null) :: after)

namespace Schema.Adds

variable {schema : Schema}

/-- All fields read the same, or one of them was left out and is null now. -/
theorem lookup_cases (h : schema.Adds fields fields') :
    (∀ name ∈ schema.names, fields'.lookup name = fields.lookup name) ∨
      ∃ field ∈ schema.optionals, ∃ key ∈ field, (∀ name ∈ field, fields.lookup name = none) ∧
        fields'.lookup key = some .null ∧
        ∀ name ≠ key, fields'.lookup name = fields.lookup name := by
  cases h with
  | unknown hkey =>
    exact .inl fun name hname => lookup_append_cons_of_ne fun h => hkey (h ▸ hname)
  | @null key before after field hfield hkey habsent =>
    have hbefore : before.lookup key = none := by
      have hnone := habsent key hkey
      rw [List.lookup_append] at hnone
      exact (Option.or_eq_none_iff.mp hnone).1
    refine .inr ⟨field, hfield, key, hkey, habsent, ?_, fun _ => lookup_append_cons_of_ne⟩
    simp [List.lookup_append, hbefore]

/-- A field that may not be left out reads the same. -/
theorem lookup_eq (h : schema.Adds fields fields') (hname : name ∈ schema.names)
    (hrequired : ∀ field ∈ schema.optionals, name ∉ field) :
    fields'.lookup name = fields.lookup name := by
  obtain h | ⟨field, hfield, key, hkey, -, -, h⟩ := h.lookup_cases
  · exact h name hname
  · exact h name fun heq => hrequired field hfield (heq ▸ hkey)

/-- A field that may be left out is read as before, though it may be null now. -/
theorem optional_lookup_eq (h : schema.Adds fields fields') (hname : name ∈ schema.names) :
    optional read (fields'.lookup name) = optional read (fields.lookup name) := by
  obtain h | ⟨field, -, key, hkey, habsent, hnull, h⟩ := h.lookup_cases
  · rw [h name hname]
  · by_cases heq : name = key
    · subst heq
      rw [hnull, habsent name hkey]
      rfl
    · rw [h name heq]

end Schema.Adds

end Record

open Record

/-! ### Names of cases -/

/-- All names under which a grammar is read. -/
def Grammar.names : Grammar → List String
  | .stylesheet => ["stylesheet", "css"]
  | .markup => ["markup", "html"]
  | .script => ["script", "js", "jsx", "ts", "tsx"]

/-- All names under which a position is read. -/
def Position.names : Position → List String
  | .before => ["before"]
  | .after => ["after"]
  | .inside => ["inside", "append"]
  | .prepend => ["prepend"]

/-- Every name of a grammar is read as that grammar. -/
theorem Grammar.ofName?_of_mem_names (g : Grammar) : ∀ name ∈ g.names, ofName? name = some g := by
  cases g <;> decide

/-- Every name of a position is read as that position. -/
theorem Position.ofName?_of_mem_names (p : Position) :
    ∀ name ∈ p.names, ofName? name = some p := by
  cases p <;> decide

/-- Two names of a case, both given as strings or both as objects. -/
inductive Record.Alias (names : List String) : Json → Json → Prop
  | string {a b : String} : a ∈ names → b ∈ names → Alias names (.string a) (.string b)
  | object {a b : String} : a ∈ names → b ∈ names →
      Alias names (.object [(a, .null)]) (.object [(b, .null)])

namespace Record.Alias

variable {names : List String} {j j' : Json}

/-- A name of a case is found in either form. -/
theorem caseName?_left (h : Alias names j j') : ∃ name ∈ names, caseName? j = some name := by
  cases h with
  | string ha _ => exact ⟨_, ha, rfl⟩
  | object ha _ => exact ⟨_, ha, rfl⟩

/-- Two names of a case may be exchanged for each other both ways. -/
theorem symm (h : Alias names j j') : Alias names j' j := by
  cases h with
  | string ha hb => exact .string hb ha
  | object ha hb => exact .object hb ha

/-- Every name of a grammar is read as that grammar, in either form. -/
theorem grammar {g : Grammar} (h : Alias g.names j j') : Grammar.ofJson? j = some g := by
  obtain ⟨name, hname, hj⟩ := h.caseName?_left
  simp [Grammar.ofJson?, hj, g.ofName?_of_mem_names name hname]

/-- Every name of a position is read as that position, in either form. -/
theorem position {p : Position} (h : Alias p.names j j') : Position.ofJson? j = some p := by
  obtain ⟨name, hname, hj⟩ := h.caseName?_left
  simp [Position.ofJson?, hj, p.ofName?_of_mem_names name hname]

end Record.Alias

/-! ### Targets -/

/-- The fields of a target. -/
def Target.schema : Schema where
  names := ["selector", "property", "attribute", "identifier"]
  optionals := [["selector"], ["property"], ["attribute"], ["identifier"]]

/-- A target is read back. -/
theorem Target.ofJson?_toJson (t : Target) : ofJson? t.toJson = some t := by
  simp [ofJson?, toJson, source?, Source.field?, List.lookup_append, lookup_optionField,
    optional_map string_string rfl]

/-- A target is read the same when more is put into its object. -/
theorem Target.ofJson?_eq_of_adds {fields fields' : List (String × Json)}
    (h : schema.Adds fields fields') : ofJson? (.object fields') = ofJson? (.object fields) := by
  have hfield (name : String) (hname : name ∈ schema.names) :
      optional string (fields'.lookup name) = optional string (fields.lookup name) :=
    h.optional_lookup_eq hname
  simp [ofJson?, source?, Source.field?, hfield "selector" (by decide),
    hfield "property" (by decide), hfield "attribute" (by decide), hfield "identifier" (by decide)]

/-! ### Modifications -/

/-- A scalar is read from the JSON value of its own kind alone. -/
theorem Payload.ofJson?_eq_some_iff {j : Json} {p : Payload} :
    ofJson? j = some p ↔ j = p.toJson := by
  constructor
  · intro h
    cases j <;> cases h <;> rfl
  · rintro rfl
    cases p <;> rfl

theorem Payload.ofJson?_toJson (p : Payload) : ofJson? p.toJson = some p :=
  Payload.ofJson?_eq_some_iff.mpr rfl

theorem Grammar.ofJson?_toJson (g : Grammar) : ofJson? g.toJson = some g := by
  cases g <;> rfl

theorem Operation.ofJson?_toJson (o : Operation) : ofJson? o.toJson = some o := by
  cases o <;> rfl

theorem Position.ofJson?_toJson (p : Position) : ofJson? p.toJson = some p := by
  cases p <;> rfl

namespace Modification

variable {fields fields' before after : List (String × Json)} {j j' : Json} {m : Modification}

/-- What is read as the grammar from the values of its two names, of which only one may be given. -/
def grammarOf (byGrammar byType : Option Json) : Option (Option Grammar) :=
  if byGrammar.isSome && byType.isSome then none
  else optional Grammar.ofJson? (byGrammar.or byType)

/-- The fields of an object on which a modification depends. -/
theorem ofJson?_object (fields : List (String × Json)) :
    ofJson? (.object fields) = (do
      let path ← required string (fields.lookup "path")
      let grammar ← grammarOf (fields.lookup "grammar") (fields.lookup "type")
      let operation ← required Operation.ofJson? (fields.lookup "operation")
      let target ← defaulted {} Target.ofJson? (fields.lookup "target")
      let value ← optional Payload.ofJson? (fields.lookup "value")
      let position ← optional Position.ofJson? (fields.lookup "position")
      some { path, grammar, operation, target, value, position }) := by
  have hgrammar : grammarField? (.named fields) >>= optional Grammar.ofJson? =
      grammarOf (fields.lookup "grammar") (fields.lookup "type") := by
    cases hg : fields.lookup "grammar" <;> cases ht : fields.lookup "type" <;>
      simp [grammarField?, grammarOf, hg, ht, Record.optional]
  rw [← hgrammar]
  simp [ofJson?, source?, Source.field?, Option.bind_assoc]

/-- A modification is read back. -/
theorem ofJson?_toJson (m : Modification) : ofJson? m.toJson = some m := by
  have hgrammar : grammarOf (m.grammar.map Grammar.toJson) none = some m.grammar := by
    simp [grammarOf, optional_map Grammar.ofJson?_toJson rfl]
  simp [toJson, ofJson?_object, List.lookup_append, lookup_optionField, List.lookup_cons,
    hgrammar, required, defaulted, Operation.ofJson?_toJson,
    Target.ofJson?_toJson, optional_map Payload.ofJson?_toJson rfl,
    optional_map Position.ofJson?_toJson rfl]

/-! ### Spellings -/

/-- The fields of a modification. -/
def schema : Schema where
  names := ["path", "grammar", "type", "operation", "target", "value", "position"]
  optionals := [["grammar", "type"], ["value"], ["position"]]

/-- An object with the entries of one name under another one. -/
def renamed (old new : String) (fields : List (String × Json)) : List (String × Json) :=
  fields.map fun (name, j) => (if name = old then new else name, j)

/-- One step from a spelling of a modification to another one. -/
inductive Respells : List (String × Json) → List (String × Json) → Prop
  /-- The grammar is given as `grammar`. -/
  | asGrammar {fields : List (String × Json)} : Respells fields (renamed "type" "grammar" fields)
  /-- The grammar is given as `type`. -/
  | asType {fields : List (String × Json)} : Respells fields (renamed "grammar" "type" fields)
  | grammarAlias {key : String} {g : Grammar} {j j' : Json} {before after : List (String × Json)} :
      key ∈ ["grammar", "type"] → Alias g.names j j' →
      Respells (before ++ (key, j) :: after) (before ++ (key, j') :: after)
  | positionAlias {p : Position} {j j' : Json} {before after : List (String × Json)} :
      Alias p.names j j' →
      Respells (before ++ ("position", j) :: after) (before ++ ("position", j') :: after)
  /-- More entries in the object of the modification. -/
  | adds {fields fields' : List (String × Json)} : schema.Adds fields fields' →
      Respells fields fields'
  /-- More entries in the object of the target. -/
  | addsToTarget {inner inner' before after : List (String × Json)} :
      Target.schema.Adds inner inner' →
      Respells (before ++ ("target", .object inner) :: after)
        (before ++ ("target", .object inner') :: after)

/-! ### Two names of one field -/

section Renamed

variable {old new name : String}

/-- An object without entries of a name is left as it is when that name is changed. -/
theorem renamed_eq_self (h : fields.lookup old = none) : renamed old new fields = fields := by
  induction fields with
  | nil => rfl
  | cons entry fields ih => grind [renamed]

/-- Other names are not concerned. -/
theorem lookup_renamed_of_ne (hold : name ≠ old) (hnew : name ≠ new) :
    (renamed old new fields).lookup name = fields.lookup name := by
  induction fields with
  | nil => rfl
  | cons entry fields ih => grind [renamed]

/-- The old name is gone. -/
theorem lookup_renamed_old (h : old ≠ new) : (renamed old new fields).lookup old = none := by
  induction fields with
  | nil => rfl
  | cons entry fields ih => grind [renamed]

/-- What had the old name is found under the new one, unless something has it already. -/
theorem lookup_renamed_new (h : fields.lookup new = none) :
    (renamed old new fields).lookup new = fields.lookup old := by
  induction fields with
  | nil => rfl
  | cons entry fields ih => grind [renamed]

end Renamed

/-- What is read from an object depends on what its fields are read as. -/
theorem ofJson?_object_congr
    (hpath : fields.lookup "path" = fields'.lookup "path")
    (hgrammar : grammarOf (fields.lookup "grammar") (fields.lookup "type") =
      grammarOf (fields'.lookup "grammar") (fields'.lookup "type"))
    (hoperation : fields.lookup "operation" = fields'.lookup "operation")
    (htarget : defaulted {} Target.ofJson? (fields.lookup "target") =
      defaulted {} Target.ofJson? (fields'.lookup "target"))
    (hvalue : optional Payload.ofJson? (fields.lookup "value") =
      optional Payload.ofJson? (fields'.lookup "value"))
    (hposition : optional Position.ofJson? (fields.lookup "position") =
      optional Position.ofJson? (fields'.lookup "position")) :
    ofJson? (.object fields) = ofJson? (.object fields') := by
  simp only [ofJson?_object, hpath, hgrammar, hoperation, htarget, hvalue, hposition]

/-- It makes no difference which of the two names the grammar is given under. -/
theorem grammarOf_comm (byGrammar byType : Option Json) :
    grammarOf byGrammar byType = grammarOf byType byGrammar := by
  cases byGrammar <;> cases byType <;> simp [grammarOf]

/-- Of a modification that is read, at most one name of the grammar is given. -/
theorem lookup_eq_none_of_ofJson? (hm : ofJson? (.object fields) = some m) :
    fields.lookup "grammar" = none ∨ fields.lookup "type" = none := by
  rw [ofJson?_object] at hm
  obtain ⟨path, -, hm⟩ := Option.bind_eq_some_iff.mp hm
  obtain ⟨grammar, hgrammar, -⟩ := Option.bind_eq_some_iff.mp hm
  cases hg : fields.lookup "grammar" with
  | none => exact .inl rfl
  | some j =>
    cases ht : fields.lookup "type" with
    | none => exact .inr rfl
    | some j' => simp [grammarOf, hg, ht] at hgrammar

/-- Naming the grammar in the other way changes nothing, if it is not given twice. -/
theorem ofJson?_renamed {old new : String}
    (hnames : old = "type" ∧ new = "grammar" ∨ old = "grammar" ∧ new = "type")
    (h : fields.lookup old = none ∨ fields.lookup new = none) :
    ofJson? (.object (renamed old new fields)) = ofJson? (.object fields) := by
  obtain h | h := h
  · rw [renamed_eq_self h]
  · have hgrammar : grammarOf ((renamed old new fields).lookup "grammar")
        ((renamed old new fields).lookup "type") =
        grammarOf (fields.lookup "grammar") (fields.lookup "type") := by
      obtain ⟨rfl, rfl⟩ | ⟨rfl, rfl⟩ := hnames
      all_goals
        rw [lookup_renamed_old (by decide), lookup_renamed_new h, h, grammarOf_comm]
    have hother (name : String) (hname : name ∉ ["grammar", "type"]) :
        (renamed old new fields).lookup name = fields.lookup name := by
      refine lookup_renamed_of_ne ?_ ?_ <;> rintro rfl <;>
        obtain ⟨rfl, rfl⟩ | ⟨rfl, rfl⟩ := hnames <;> simp at hname
    refine ofJson?_object_congr (hother _ (by decide)) hgrammar (hother _ (by decide)) ?_ ?_ ?_
    all_goals rw [hother _ (by decide)]

/-- The grammar reads the same with two values that are read as one grammar. -/
theorem grammarOf_congr {g : Grammar} (h : Grammar.ofJson? j = some g)
    (h' : Grammar.ofJson? j' = some g) (other : Option Json) :
    grammarOf (some j) other = grammarOf (some j') other := by
  cases other <;> simp [grammarOf, optional_some h rfl, optional_some h' rfl]

/-- A modification is read the same when more is put into its object. -/
theorem ofJson?_of_adds (h : schema.Adds fields fields') :
    ofJson? (.object fields') = ofJson? (.object fields) := by
  have hrequired (name : String) (hname : name ∈ ["path", "operation", "target"]) :
      fields'.lookup name = fields.lookup name := by
    refine h.lookup_eq ?_ ?_ <;> revert name <;> decide
  have hgrammar : grammarOf (fields'.lookup "grammar") (fields'.lookup "type") =
      grammarOf (fields.lookup "grammar") (fields.lookup "type") := by
    obtain h | ⟨field, hfield, key, hkey, habsent, hnull, h⟩ := h.lookup_cases
    · rw [h "grammar" (by decide), h "type" (by decide)]
    · simp only [schema, List.mem_cons, List.not_mem_nil, or_false] at hfield
      obtain rfl | hfield := hfield
      -- The grammar was given under neither name, and is null under one of them now.
      · simp only [List.mem_cons, List.not_mem_nil, or_false] at hkey
        rw [habsent "grammar" (by decide), habsent "type" (by decide)]
        obtain rfl | rfl := hkey
        · rw [hnull, h "type" (by decide), habsent "type" (by decide)]
          rfl
        · rw [hnull, h "grammar" (by decide), habsent "grammar" (by decide)]
          rfl
      · have hne (name : String) (hname : name ∈ ["grammar", "type"]) : name ≠ key := by
          rintro rfl
          obtain rfl | rfl := hfield <;> simp_all
        rw [h _ (hne "grammar" (by decide)), h _ (hne "type" (by decide))]
  refine ofJson?_object_congr (hrequired _ (by decide)) hgrammar (hrequired _ (by decide)) ?_
    (h.optional_lookup_eq (by decide)) (h.optional_lookup_eq (by decide))
  rw [hrequired _ (by decide)]

/-- One step from a spelling to another one does not change what is read. -/
theorem ofJson?_of_respells (h : Respells fields fields')
    (hm : ofJson? (.object fields) = some m) : ofJson? (.object fields') = some m := by
  have hnone := lookup_eq_none_of_ofJson? hm
  rw [← hm]
  cases h with
  | asGrammar => exact ofJson?_renamed (.inl ⟨rfl, rfl⟩) hnone.symm
  | asType => exact ofJson?_renamed (.inr ⟨rfl, rfl⟩) hnone
  | @grammarAlias key g j j' before after hkey h =>
    -- no other field is concerned
    have hother (name : String) (hname : name ∉ ["grammar", "type"]) :
        (before ++ (key, j') :: after).lookup name = (before ++ (key, j) :: after).lookup name :=
      lookup_append_cons_eq fun h => hname (h ▸ hkey)
    have hpart (name : String) (hname : name ≠ key) :
        (before ++ (key, j) :: after).lookup name = (before ++ (key, j') :: after).lookup name :=
      lookup_append_cons_eq hname
    have hgrammar (other : Option Json) : grammarOf (some j') other = grammarOf (some j) other :=
      grammarOf_congr h.symm.grammar h.grammar other
    refine ofJson?_object_congr (hother _ (by decide)) ?_ (hother _ (by decide)) ?_ ?_ ?_
    · simp only [List.mem_cons, List.not_mem_nil, or_false] at hkey
      obtain rfl | rfl := hkey
      · rw [hpart "type" (by decide)]
        exact lookup_append_cons_congr (grammarOf · _) (hgrammar _)
      · rw [hpart "grammar" (by decide)]
        refine lookup_append_cons_congr (grammarOf _) ?_
        rw [grammarOf_comm, hgrammar, grammarOf_comm]
    all_goals rw [hother _ (by decide)]
  | @positionAlias p j j' before after h =>
    have hother (name : String) (hname : name ≠ "position") :
        (before ++ ("position", j') :: after).lookup name =
          (before ++ ("position", j) :: after).lookup name := lookup_append_cons_eq hname
    refine ofJson?_object_congr (hother _ (by decide)) ?_ (hother _ (by decide)) ?_ ?_ ?_
    rotate_right
    · refine lookup_append_cons_congr _ ?_
      rw [optional_some h.position rfl, optional_some h.symm.position rfl]
    · rw [hother _ (by decide), hother _ (by decide)]
    all_goals rw [hother _ (by decide)]
  | adds h => exact ofJson?_of_adds h
  | @addsToTarget inner inner' before after h =>
    have hother (name : String) (hname : name ≠ "target") :
        (before ++ ("target", .object inner') :: after).lookup name =
          (before ++ ("target", .object inner) :: after).lookup name := lookup_append_cons_eq hname
    refine ofJson?_object_congr (hother _ (by decide)) ?_ (hother _ (by decide)) ?_ ?_ ?_
    · rw [hother _ (by decide), hother _ (by decide)]
    · exact lookup_append_cons_congr _ (Target.ofJson?_eq_of_adds h)
    all_goals rw [hother _ (by decide)]

end Modification

/-! ### Options and results -/

theorem StylesheetOptions.ofJson?_toJson (o : StylesheetOptions) : ofJson? o.toJson = some o := by
  simp [ofJson?, toJson, source?, Source.field?, List.lookup_cons, defaulted]

theorem MarkupOptions.ofJson?_toJson (o : MarkupOptions) : ofJson? o.toJson = some o := by
  simp [ofJson?, toJson, source?, Source.field?, defaulted]

theorem ScriptOptions.ofJson?_toJson (o : ScriptOptions) : ofJson? o.toJson = some o := by
  simp [ofJson?, toJson, source?, Source.field?, defaulted]

/-- Options are read back. -/
theorem Options.ofJson?_toJson (o : Options) : ofJson? o.toJson = some o := by
  simp [ofJson?, toJson, source?, Source.field?, List.lookup_cons, defaulted,
    StylesheetOptions.ofJson?_toJson, MarkupOptions.ofJson?_toJson, ScriptOptions.ofJson?_toJson]

/-- The outcome of a file is read back. -/
theorem FileResult.ofJson?_toJson (r : FileResult) : ofJson? r.toJson = some r := by
  simp [ofJson?, toJson, source?, Source.field?, List.lookup_append, lookup_optionField,
    List.lookup_cons, required, optional_map string_string rfl]

/-- Items that are each read back are read back as a list. -/
theorem Record.mapM_map {α β : Type} {read : β → Option α} {write : α → β}
    (h : ∀ a, read (write a) = some a) (items : List α) :
    (items.map write).mapM read = some items := by
  induction items with
  | nil => rfl
  | cons a items ih => rw [List.map_cons, List.mapM_cons, h, ih]; rfl

/-- The outcome of a batch is read back, with its files in their order. -/
theorem BatchResult.ofJson?_toJson (r : BatchResult) : ofJson? r.toJson = some r := by
  have hfiles : stringMap (.object (r.updatedFiles.map fun e => (e.1, .string e.2))) =
      some r.updatedFiles :=
    mapM_map (fun _ => by simp) r.updatedFiles
  have herrors : strings (.array (r.errors.map .string)) = some r.errors :=
    mapM_map string_string _
  simp [ofJson?, toJson, source?, Source.field?, List.lookup_cons, required, hfiles, herrors]

/-! ### All records -/

/-- Every record that is written is read back as it was, the scalar of a modification with its kind,
and all spellings of a modification that is read are read as that modification. -/
theorem Record.reads_written_and_respelled :
    (∀ m : Modification, Modification.ofJson? m.toJson = some m) ∧
    (∀ t : Target, Target.ofJson? t.toJson = some t) ∧
    (∀ o : Options, Options.ofJson? o.toJson = some o) ∧
    (∀ r : FileResult, FileResult.ofJson? r.toJson = some r) ∧
    (∀ r : BatchResult, BatchResult.ofJson? r.toJson = some r) ∧
    (∀ (j : Json) (p : Payload), Payload.ofJson? j = some p ↔ j = p.toJson) ∧
    ∀ (m : Modification) (fields fields' : List (String × Json)),
      Modification.ofJson? (.object fields) = some m →
      Relation.ReflTransGen Modification.Respells fields fields' →
      Modification.ofJson? (.object fields') = some m := by
  refine ⟨Modification.ofJson?_toJson, Target.ofJson?_toJson, Options.ofJson?_toJson,
    FileResult.ofJson?_toJson, BatchResult.ofJson?_toJson,
    fun _ _ => Payload.ofJson?_eq_some_iff, ?_⟩
  intro m fields fields' hm hrespells
  -- Each step is taken from a spelling that is read.
  induction hrespells with
  | refl => exact hm
  | tail _ hstep ih => exact Modification.ofJson?_of_respells hstep ih

/-- An insertion with the grammar under its other name, aliases of the grammar and the position,
null for what is left out, and an entry that is not known. -/
theorem Record.reads_written_and_respelled_insert :
    Modification.ofJson? (.object [("path", .string "a.js"), ("grammar", .string "script"),
      ("operation", .string "insert"), ("target", .object []), ("position", .string "inside")]) =
        some ⟨"a.js", some .script, .insert, {}, none, some .inside⟩ ∧
    Modification.ofJson? (.object [("note", .bool true), ("path", .string "a.js"),
      ("type", .string "tsx"), ("value", .null), ("operation", .string "insert"),
      ("target", .object [("selector", .null)]), ("position", .string "append")]) =
        some ⟨"a.js", some .script, .insert, {}, none, some .inside⟩ := by
  refine ⟨rfl, reads_written_and_respelled.2.2.2.2.2.2 _ [("path", .string "a.js"),
    ("grammar", .string "script"), ("operation", .string "insert"), ("target", .object []),
    ("position", .string "inside")] _ rfl (.head .asType ?_)⟩
  have hgrammar : Record.Alias Grammar.script.names (.string "script") (.string "tsx") :=
    .string (by decide) (by decide)
  refine .head (@Modification.Respells.grammarAlias "type" .script _ _ [("path", .string "a.js")] _
    (by decide) hgrammar) ?_
  have hposition : Record.Alias Position.inside.names (.string "inside") (.string "append") :=
    .string (by decide) (by decide)
  refine .head (@Modification.Respells.positionAlias .inside _ _ [("path", .string "a.js"),
    ("type", .string "tsx"), ("operation", .string "insert"), ("target", .object [])] [] hposition) ?_
  have hselector : Target.schema.Adds [] [("selector", .null)] :=
    @Record.Schema.Adds.null _ "selector" [] [] ["selector"] (by decide) (by decide) fun _ _ => rfl
  refine .head (@Modification.Respells.addsToTarget _ _ [("path", .string "a.js"),
    ("type", .string "tsx"), ("operation", .string "insert")] _ hselector) ?_
  refine .head (.adds (@Record.Schema.Adds.null _ "value" [("path", .string "a.js"),
    ("type", .string "tsx")] _ ["value"] (by decide) (by decide) ?_)) ?_
  · intro name hname
    obtain rfl : name = "value" := List.mem_singleton.mp hname
    rfl
  · exact .single (.adds (@Record.Schema.Adds.unknown _ "note" _ [] _ (by decide)))

end SourceEdit
