import SourceEdit.Proofs.Arena.Values
import SourceEdit.Proofs.EditOutcome
import SourceEdit.Stylesheet.Edit

/-!
# Edits of a stylesheet keep it in shape

Every operation on a stylesheet is shown to be `Edited.Sound`, and `edit_sound` puts them together:
an edit keeps the arena well-formed, and one that fails or edits nothing leaves the tree as it was.
-/

namespace SourceEdit.Stylesheet

variable {sheet : Stylesheet}

/-- What is located in any stylesheet are the rules that a pattern matches. -/
theorem exists_pattern_of_locate {target : Target} {rules : List NodeId}
    (h : sheet.locate target = .ok rules) :
    ∃ p, ∀ sheet : Stylesheet, sheet.locate target = .ok (sheet.rulesMatching p) := by
  unfold locate at h ⊢
  split at h
  · cases h
  · next selector _ =>
    cases hp : SelectorPattern.ofText selector with
    | error e => simp [hp, bind, Except.bind] at h
    | ok p => exact ⟨p, fun _ => rfl⟩

theorem exists_rulesMatching_of_locate {target : Target} {rules : List NodeId}
    (h : sheet.locate target = .ok rules) : ∃ p, sheet.rulesMatching p = rules := by
  obtain ⟨p, hp⟩ := exists_pattern_of_locate h
  exact ⟨p, Except.ok.inj ((hp sheet).symm.trans h)⟩

/-- The rules that are located are nodes of the arena. -/
theorem lt_size_of_mem_locate (hw : sheet.WellFormed) {target : Target} {rules : List NodeId}
    (h : sheet.locate target = .ok rules) : ∀ rule ∈ rules, rule < sheet.size := by
  obtain ⟨p, rfl⟩ := exists_rulesMatching_of_locate h
  intro rule hrule
  exact hw.lt_size_of_mem_descendants (List.mem_of_mem_filter hrule)

/-! ### Operations on declarations -/

/-- A loop over rules that works on the declarations of a property and counts them. -/
private theorem foldl_declarations_sound (hw : sheet.WellFormed) {property : String}
    {work : Stylesheet → NodeId → Stylesheet}
    (hwork : ∀ (sheet : Stylesheet) (ids : List NodeId), sheet.WellFormed →
      (ids.foldl work sheet).WellFormed) (rules : List NodeId) :
    let (edited, count) := rules.foldl (fun (sheet, count) rule =>
      let ids := declarationsNamed sheet rule property
      (ids.foldl work sheet, count + ids.length)) (sheet, 0)
    Edited.Sound sheet (.done edited count) := by
  obtain ⟨hend, -, hsame⟩ := foldl_counted (P := Arena.WellFormed) (R := Eq)
    (f := fun (sheet, count) rule =>
      ((declarationsNamed sheet rule property).foldl work sheet,
        count + (declarationsNamed sheet rule property).length))
    (fun _ => rfl) Eq.trans (l := rules) (fun s n rule _ hs => by
      refine ⟨hwork s _ hs, Nat.le_add_right .., fun hcount => ?_⟩
      have hnil : declarationsNamed s rule property = [] := by
        simpa using (Nat.add_eq_left.mp hcount)
      simp [hnil]) 0 hw
  exact .done hend fun hcount => (hsame hcount).symm

theorem updateDeclarations_sound (hw : sheet.WellFormed) (rules : List NodeId)
    (property value : String) :
    Edited.Sound sheet (sheet.updateDeclarations rules property value) :=
  foldl_declarations_sound hw
    (fun _ ids hs => hs.foldl_modifyValue (.withValue value) ids) rules

theorem deleteDeclarations_sound (hw : sheet.WellFormed) (rules : List NodeId)
    (property : String) : Edited.Sound sheet (sheet.deleteDeclarations rules property) :=
  foldl_declarations_sound hw (fun _ ids hs => hs.foldl_detach ids) rules

theorem insertDeclaration_grown {k : Nat} (h : sheet.Grown k) (declaration : Node)
    (position : Option Position) {rule : NodeId} (hrule : rule < k) :
    (insertDeclaration declaration position sheet rule).Grown k := by
  have hnew : sheet.size < (sheet.alloc declaration).1.size := by simp
  have hgrown := h.alloc declaration
  simp only [insertDeclaration]
  split
  · exact hgrown.insertChild hrule 0 h.le_size hnew
  · exact hgrown.insertChild hrule 0 h.le_size hnew
  · exact hgrown.appendChild hrule h.le_size hnew

theorem insertDeclarations_sound (hw : sheet.WellFormed) {rules : List NodeId}
    (hrules : ∀ rule ∈ rules, rule < sheet.size) (property value : String)
    (position : Option Position) :
    Edited.Sound sheet (sheet.insertDeclarations rules property value position) := by
  have hgrown : (rules.foldl
      (insertDeclaration (insertedDeclaration property value) position) sheet).Grown sheet.size :=
    List.foldlRecOn (motive := fun s : Stylesheet => s.Grown sheet.size) rules _ hw.grown
      fun s hs rule hrule => insertDeclaration_grown hs _ position (hrules rule hrule)
  refine .done hgrown.wellFormed fun hcount => ?_
  rw [List.eq_nil_of_length_eq_zero hcount]
  rfl

/-! ### Operations on rules -/

theorem deleteRules_sound (hw : sheet.WellFormed) (rules : List NodeId) :
    Edited.Sound sheet (sheet.deleteRules rules) := by
  refine .done (hw.foldl_detach rules) fun hcount => ?_
  rw [List.eq_nil_of_length_eq_zero hcount]
  rfl

/-- An insertion of items that is refused has read them into the arena and nothing more. -/
theorem insertItems_sound (hw : sheet.WellFormed) (value : String) :
    Edited.Sound sheet (sheet.insertItems value) := by
  obtain ⟨hgrown, hextends, hnew⟩ := hw.grown.graftAll (itemsOfText value)
  simp only [insertItems]
  split
  · exact .of_extends hw hgrown.wellFormed fun _ => hextends
  · refine .of_extends hw (hgrown.appendChildren hw.root_lt_size hnew).wellFormed fun hidle => ?_
    have hnil := List.eq_nil_of_length_eq_zero ((Edited.idle_done _ _).mp hidle)
    rw [hnil]
    exact hextends

theorem mem_of_replacement?_eq_some {items : List (Tree Node)} {nodes : List NodeId} {id : NodeId}
    (h : replacement? items nodes = some id) : id ∈ nodes := by
  unfold replacement? at h
  split at h
  · next item id' hfind =>
    split at h
    · cases h
      exact (List.of_mem_zip (List.mem_of_find?_eq_some hfind)).2
    · cases h
  · cases h

theorem replaceRule_sound (hw : sheet.WellFormed) {rules : List NodeId}
    (hrules : ∀ rule ∈ rules, rule < sheet.size) (value : String) :
    Edited.Sound sheet (sheet.replaceRule rules value) := by
  obtain ⟨hgrown, hextends, hnew⟩ := hw.grown.graftAll (itemsOfText value)
  cases rules with
  | nil => exact .done hw fun _ => rfl
  | cons first rest =>
    simp only [replaceRule]
    split
    · exact .of_extends hw hgrown.wellFormed fun _ => hextends
    · next id hid =>
      obtain ⟨hk, hlt⟩ := hnew id (mem_of_replacement?_eq_some hid)
      split
      · next replaced hreplace =>
        have hfirst : first < sheet.size := hrules first List.mem_cons_self
        exact .of_extends hw (hgrown.replace? hfirst hk hlt hreplace).wellFormed fun hidle =>
          absurd ((Edited.idle_done _ _).mp hidle) Nat.one_ne_zero
      · exact .of_extends hw hgrown.wellFormed fun _ => hextends

/-! ### Modifications -/

/-- Every edit of a stylesheet keeps the arena well-formed, and one that is idle leaves the tree as
it was. -/
theorem edit_sound (hw : sheet.WellFormed) (m : Modification) :
    Edited.Sound sheet (sheet.edit m) := by
  unfold edit
  split
  · exact .needing hw fun value _ => insertItems_sound hw value
  · refine .needing hw fun rules hlocate => ?_
    have hrules := lt_size_of_mem_locate hw hlocate
    unfold editRules
    split
    · exact .failed hw _
    · exact .needing hw fun value _ => updateDeclarations_sound hw rules _ value
    · exact .done hw fun _ => rfl
    · exact .needing hw fun value _ => insertDeclarations_sound hw hrules _ value m.position
    · exact deleteRules_sound hw rules
    · exact deleteDeclarations_sound hw rules _
    · exact .needing hw fun value _ => replaceRule_sound hw hrules value

end SourceEdit.Stylesheet
