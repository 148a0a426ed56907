import SourceEdit.Proofs.Stylesheet.Edit

/-!
# Updates of stylesheets done twice

An update changes the values of declarations and nothing else.  Which rules match and which
declarations have the name of the property does not depend on values, so an update finds the same
declarations again when it is done once more (`idempotentAt_update`).
-/

namespace SourceEdit.Stylesheet

variable {sheet : Stylesheet} {value property : String} {ids rules : List NodeId}

namespace Node

theorem withValue_withValue (value : String) (n : Node) :
    withValue value (withValue value n) = withValue value n := by
  cases n <;> rfl

theorem declares_withValue (property value : String) (n : Node) :
    (withValue value n).declares property = n.declares property := by
  cases n <;> rfl

theorem isMatch_withValue (p : SelectorPattern) (value : String) (n : Node) :
    (withValue value n).isMatch p = n.isMatch p := by
  cases n <;> rfl

end Node

/-- Whether a node is of a kind does not change if the kind does not depend on the values of
declarations. -/
private theorem satisfies_foldl_withValue {q : Node → Bool}
    (hq : ∀ n, q (Node.withValue value n) = q n) (ids : List NodeId) (id : NodeId) :
    (match Arena.get? (ids.foldl (fun sheet id => Arena.modifyValue sheet id (.withValue value)) sheet)
        id with
      | some n => q n
      | none => false) =
      match sheet.get? id with
      | some n => q n
      | none => false := by
  rw [Arena.get?_foldl_modifyValue (Node.withValue_withValue value)]
  split_ifs
  · cases Arena.get? sheet id <;> simp [hq]
  · rfl

theorem rulesMatching_foldl_withValue (p : SelectorPattern) :
    rulesMatching (ids.foldl (fun sheet id => Arena.modifyValue sheet id (.withValue value)) sheet) p =
      sheet.rulesMatching p := by
  rw [rulesMatching, rulesMatching]
  refine (List.filter_congr fun id _ =>
    satisfies_foldl_withValue (Node.isMatch_withValue p value) ids id).trans ?_
  exact congrArg (List.filter _) (Arena.descendants_foldl_modifyValue ..)

theorem declarationsNamed_foldl_withValue (rule : NodeId) :
    declarationsNamed (ids.foldl (fun sheet id => Arena.modifyValue sheet id (.withValue value)) sheet)
        rule property = sheet.declarationsNamed rule property := by
  rw [declarationsNamed, declarationsNamed]
  refine (List.filter_congr fun id _ =>
    satisfies_foldl_withValue (Node.declares_withValue property value) ids id).trans ?_
  exact congrArg (List.filter _) (Arena.children_foldl_modifyValue ..)

/-- A loop over rules that works on the declarations of a property and counts them goes through the
declarations that are there at the beginning, if the work on those of a rule leaves alone those of the
rules that follow. -/
theorem foldl_declarations_eq (sheet : Stylesheet) {work : Stylesheet → NodeId → Stylesheet}
    {P : Stylesheet → Prop} (hsheet : P sheet)
    (hwork : ∀ (sheet : Stylesheet) rule, P sheet →
      P ((sheet.declarationsNamed rule property).foldl work sheet))
    (hkept : rules.Pairwise fun rule later => ∀ sheet : Stylesheet, P sheet →
      declarationsNamed ((sheet.declarationsNamed rule property).foldl work sheet) later property =
        sheet.declarationsNamed later property) (count : Nat) :
    let ids := rules.flatMap fun rule => sheet.declarationsNamed rule property
    rules.foldl (fun (sheet, count) rule =>
        let ids := declarationsNamed sheet rule property
        (ids.foldl work sheet, count + ids.length)) (sheet, count) =
      (ids.foldl work sheet, count + ids.length) := by
  induction rules generalizing sheet count with
  | nil => rfl
  | cons rule rules ih =>
    obtain ⟨hrule, hkept⟩ := List.pairwise_cons.mp hkept
    have hids : (rules.flatMap fun later =>
        declarationsNamed ((sheet.declarationsNamed rule property).foldl work sheet) later property) =
        rules.flatMap fun later => sheet.declarationsNamed later property :=
      List.flatMap_congr fun later hlater => hrule later hlater sheet hsheet
    refine (ih _ (hwork sheet rule hsheet) hkept _).trans ?_
    rw [hids, List.flatMap_cons, List.foldl_append, List.length_append, Nat.add_assoc]

/-- An update goes through the declarations that are there at the beginning. -/
theorem updateDeclarations_eq (sheet : Stylesheet) (rules : List NodeId) (property value : String) :
    let ids := rules.flatMap fun rule => sheet.declarationsNamed rule property
    sheet.updateDeclarations rules property value =
      .done (ids.foldl (fun sheet id => Arena.modifyValue sheet id (.withValue value)) sheet)
        ids.length := by
  have hkept : rules.Pairwise fun rule later => ∀ sheet : Stylesheet, True →
      declarationsNamed ((sheet.declarationsNamed rule property).foldl
        (fun sheet id => Arena.modifyValue sheet id (.withValue value)) sheet) later property =
        sheet.declarationsNamed later property :=
    List.pairwise_of_forall fun _ later _ _ => declarationsNamed_foldl_withValue later
  have hloop := foldl_declarations_eq sheet trivial (fun _ _ _ => trivial) hkept 0
  simp only [Nat.zero_add] at hloop
  exact congrArg (fun result => Edited.done result.1 result.2) hloop

/-- An update that succeeds on one stylesheet updates every one alike. -/
theorem exists_of_update {m : Modification} (hm : m.operation = .update) {n : Nat}
    (h : (sheet.edit m).result = .ok n) :
    ∃ pattern property value, ∀ sheet : Stylesheet,
      sheet.edit m = sheet.updateDeclarations (sheet.rulesMatching pattern) property value := by
  have hedit (sheet : Stylesheet) :
      sheet.edit m = .needing sheet (sheet.locate m.target) (sheet.editRules m) := by
    rw [edit, if_neg (by simp [hm])]
  rw [hedit] at h
  obtain ⟨rules, hrules, h⟩ := Edited.exists_of_needing h
  obtain ⟨pattern, hlocate⟩ := exists_pattern_of_locate hrules
  cases hproperty : m.target.property with
  | none =>
    simp only [editRules, hm, hproperty] at h
    cases h
  | some property =>
    simp only [editRules, hm, hproperty] at h
    obtain ⟨value, hvalue, -⟩ := Edited.exists_of_needing h
    refine ⟨pattern, property, value, fun sheet => ?_⟩
    simp only [hedit, hlocate, Edited.needing, editRules, hm, hproperty, hvalue]

theorem idempotentAt_update {m : Modification} (hm : m.operation = .update) (sheet : Stylesheet) :
    IdempotentAt (edit · m) Arena.Alike sheet := by
  intro n hn
  obtain ⟨pattern, property, value, hedit⟩ := exists_of_update hm hn
  simp only [hedit, updateDeclarations_eq, Edited.done, rulesMatching_foldl_withValue,
    declarationsNamed_foldl_withValue,
    Arena.foldl_modifyValue_of_subset (Node.withValue_withValue value) (List.Subset.refl _)]
  exact ⟨_, rfl, refl_of Arena.Alike _⟩

end SourceEdit.Stylesheet
