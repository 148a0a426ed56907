import Mathlib.Algebra.Ring.Nat
import SourceEdit.Editor

/-!
# One file is edited wholly or not at all

`Editor.Runs` carries out modifications one after the other, none of which fails, and collects their
counts; `Editor.Fails` names the first step of a file that fails, be it the reading of the text or
one of the modifications.  `Runs.modify_eq` and `Fails.modify_eq` say what comes of a file in these
cases, and `exists_runs_or_fails` that there is no other.

`apply_allOrNothing` is what follows for the outcome of a file in any of the grammars.  That a failing
step is told apart from a run that edited nothing rests on `Edited.Reports`: reading and editing only
fail with errors of two families, and neither family shares its message with the third end.
-/

namespace SourceEdit

/-! ### Runs without a failure -/

namespace Editor

variable {e : Editor} {tree final final' : e.Tree} {ms : List Modification} {counts counts' : List Nat}
  {err : EditError} {path source : String} {diagnostics : Option Diagnostics}

/-- Modifications are carried out in order, each without an error and on the tree that the ones
before it left. The numbers of edits that they made are collected. -/
inductive Runs (e : Editor) : e.Tree → List Modification → e.Tree → List Nat → Prop
  | nil (tree : e.Tree) : Runs e tree [] tree []
  | cons {tree final : e.Tree} {m : Modification} {ms : List Modification} {n : Nat}
      {counts : List Nat} (hedit : (e.edit tree m).result = .ok n)
      (hrest : Runs e (e.edit tree m).tree ms final counts) :
      Runs e tree (m :: ms) final (n :: counts)

/-- The first modification that fails is carried out on the tree that those before it left. -/
def Stops (e : Editor) (tree : e.Tree) (ms : List Modification) (err : EditError) : Prop :=
  ∃ done m rest reached counts, ms = done ++ m :: rest ∧ e.Runs tree done reached counts ∧
    (e.edit reached m).result = .error err

/-- The first step that fails: the text is not read, or a modification is not carried out. -/
def Fails (e : Editor) (path source : String) (ms : List Modification) (err : EditError) : Prop :=
  e.parse path source = .error err ∨ ∃ tree, e.parse path source = .ok tree ∧ e.Stops tree ms err

/-- A step that succeeds adds its count. -/
private theorem editAll_cons_ok {m : Modification} {n : Nat} (hedit : (e.edit tree m).result = .ok n)
    (count : Nat) : e.editAll tree count (m :: ms) = e.editAll (e.edit tree m).tree (count + n) ms := by
  rw [editAll]
  grind

/-- A step that fails ends the run. -/
private theorem editAll_cons_error {m : Modification} (hedit : (e.edit tree m).result = .error err)
    (count : Nat) : e.editAll tree count (m :: ms) = .error err := by
  rw [editAll]
  grind

/-- A run without a failure adds up its counts. -/
theorem Runs.editAll_eq (h : e.Runs tree ms final counts) (count : Nat) :
    e.editAll tree count ms = .ok (final, count + counts.sum) := by
  induction h generalizing count with
  | nil => rfl
  | cons hedit _ ih => rw [editAll_cons_ok hedit, ih, List.sum_cons, Nat.add_assoc]

/-- The first modification that fails stops the run. -/
theorem Stops.editAll_eq (h : e.Stops tree ms err) (count : Nat) :
    e.editAll tree count ms = .error err := by
  obtain ⟨done, m, rest, reached, counts, rfl, hruns, hstop⟩ := h
  induction hruns generalizing count with
  | nil => exact editAll_cons_error hstop count
  | cons hedit _ ih => exact (editAll_cons_ok hedit count).trans (ih _ hstop)

/-- Modifications are all carried out, or there is a first one that fails. -/
theorem exists_runs_or_stops (e : Editor) (tree : e.Tree) (ms : List Modification) :
    (∃ final counts, e.Runs tree ms final counts) ∨ ∃ err, e.Stops tree ms err := by
  induction ms generalizing tree with
  | nil => exact .inl ⟨tree, [], .nil tree⟩
  | cons m ms ih =>
    cases hedit : (e.edit tree m).result with
    | error err => exact .inr ⟨err, [], m, ms, tree, [], rfl, .nil tree, hedit⟩
    | ok n =>
      obtain ⟨final, counts, hruns⟩ | ⟨err, done, m', rest, reached, counts, rfl, hruns, hstop⟩ :=
        ih (e.edit tree m).tree
      · exact .inl ⟨final, n :: counts, .cons hedit hruns⟩
      · exact .inr ⟨err, m :: done, m', rest, reached, n :: counts, rfl, .cons hedit hruns, hstop⟩

/-- A run without a failure gives its text, unless nothing was edited in it. -/
theorem Runs.modify_eq (h : e.Runs tree ms final counts) (hparse : e.parse path source = .ok tree) :
    e.modify path source ms =
      if counts.sum = 0 then .error .nothingApplied else .ok (e.write final, counts.sum) := by
  simp [modify, hparse, h.editAll_eq, bind, Except.bind]

/-- A run with a failure gives the error of its first failure. -/
theorem Fails.modify_eq (h : e.Fails path source ms err) : e.modify path source ms = .error err := by
  obtain hparse | ⟨tree, hparse, hstops⟩ := h
  · simp [modify, hparse, bind, Except.bind]
  · simp [modify, hparse, hstops.editAll_eq, bind, Except.bind]

/-- A file is read and all its modifications are carried out, or there is a first step that fails. -/
theorem exists_runs_or_fails (e : Editor) (path source : String) (ms : List Modification) :
    (∃ tree final counts, e.parse path source = .ok tree ∧ e.Runs tree ms final counts) ∨
      ∃ err, e.Fails path source ms err := by
  cases hparse : e.parse path source with
  | error err => exact .inr ⟨err, .inl hparse⟩
  | ok tree =>
    obtain ⟨final, counts, hruns⟩ | ⟨err, hstops⟩ := e.exists_runs_or_stops tree ms
    · exact .inl ⟨tree, final, counts, rfl, hruns⟩
    · exact .inr ⟨err, .inr ⟨tree, hparse, hstops⟩⟩

/-! ### What comes of a file -/

/-- A file in which something was edited. -/
theorem Runs.apply_eq (h : e.Runs tree ms final counts) (hparse : e.parse path source = .ok tree)
    (hne : counts.sum ≠ 0) :
    e.apply path source ms diagnostics =
      { success := true, modifiedContent := some (e.write final),
        modificationsApplied := counts.sum, error := none } := by
  rw [apply, h.modify_eq hparse, if_neg hne]

/-- A file in which nothing was edited. -/
theorem Runs.apply_eq_of_idle (h : e.Runs tree ms final counts)
    (hparse : e.parse path source = .ok tree) (hidle : counts.sum = 0) :
    e.apply path source ms diagnostics =
      { success := false, modificationsApplied := 0,
        error := some (EditError.nothingApplied.message diagnostics) } := by
  rw [apply, h.modify_eq hparse, if_pos hidle]

/-- A file in which a step failed. -/
theorem Fails.apply_eq (h : e.Fails path source ms err) :
    e.apply path source ms diagnostics =
      { success := false, modificationsApplied := 0, error := some (err.message diagnostics) } := by
  rw [apply, h.modify_eq]

/-- What has not succeeded holds no text and counts no edit. -/
theorem apply_of_failure (h : (e.apply path source ms diagnostics).success = false) :
    (e.apply path source ms diagnostics).modificationsApplied = 0 ∧
      (e.apply path source ms diagnostics).modifiedContent = none := by
  unfold apply at h ⊢
  split at h
  · cases h
  · exact ⟨rfl, rfl⟩

end Editor

/-! ### The errors of a step -/

/-- An error of reading or editing: something was not well formed, or did not make sense. -/
def EditError.IsOfStep (err : EditError) : Prop := err.kind = .parse ∨ err.kind = .invalid

/-- What the readers of scripts and of regular expressions say stands at the end of a message. -/
theorem EditError.exists_message_append (err : EditError) (diagnostics : Option Diagnostics) :
    ∃ words, err.message diagnostics = err.message ++ words := by
  obtain ⟨words, hdetail⟩ : ∃ words, err.detail diagnostics = err.detail none ++ words := by
    cases err with
    | scriptSyntax input =>
      refine ⟨behind (diagnostics.map fun d => "; ".intercalate (d.script input)), ?_⟩
      change "script" ++ behind _ = "script" ++ "" ++ behind _
      rw [String.append_empty]
    | badPattern descriptor source =>
      refine ⟨behind (diagnostics.map (·.regex source)), ?_⟩
      change "Bad selector pattern '" ++ descriptor ++ "'" ++ behind _ =
        "Bad selector pattern '" ++ descriptor ++ "'" ++ "" ++ behind _
      rw [String.append_empty]
    | _ => exact ⟨"", String.append_empty.symm⟩
  unfold message
  cases err.kind with
  | nothingApplied => exact ⟨"", String.append_empty.symm⟩
  | _ => exact ⟨words, by rw [hdetail, String.append_assoc]⟩

/-- The message of a failing step is not that of a run that edited nothing. -/
theorem EditError.IsOfStep.message_ne {err : EditError} (h : err.IsOfStep)
    (diagnostics : Option Diagnostics) :
    err.message diagnostics ≠ EditError.nothingApplied.message diagnostics := by
  intro heq
  have hidle : EditError.nothingApplied.message diagnostics = "No modifications were applied" := rfl
  have hhead : (err.message diagnostics).toList.head? = some 'N' := by
    rw [heq, hidle]
    rfl
  obtain h | h := h
  · have hmessage : err.message diagnostics = "Failed to parse " ++ err.detail diagnostics := by
      rw [EditError.message, h]
    simp [hmessage] at hhead
  · have hmessage : err.message diagnostics = "Invalid modification: " ++ err.detail diagnostics := by
      rw [EditError.message, h]
    simp [hmessage] at hhead

namespace Edited

variable {σ α : Type} {tree : σ}

/-- An edit only fails with the error of a step. -/
def Reports (e : Edited σ) : Prop := ∀ err, e.result = .error err → err.IsOfStep

theorem reports_done (tree : σ) (n : Nat) : (done tree n).Reports := nofun

/-- A step reports what it has failed with. -/
theorem reports_failed {err : EditError} (h : err.IsOfStep) : (failed tree err).Reports := by
  intro err' herr
  cases herr
  exact h

/-- A step that needs something reports what keeps it from being there. -/
theorem Reports.needing {needed : Except EditError α} {next : α → Edited σ}
    (hneeded : ∀ err, needed = .error err → err.IsOfStep) (hnext : ∀ a, (next a).Reports) :
    (needing tree needed next).Reports := by
  cases needed with
  | ok a => exact hnext a
  | error err => exact reports_failed (hneeded err rfl)

end Edited

/-- A missing value is the fault of a step. -/
theorem Modification.isOfStep_requiredValue (m : Modification) (err : EditError)
    (h : m.requiredValue = .error err) : err.IsOfStep := by
  unfold Modification.requiredValue at h
  split at h
  · cases h
  · cases h
    exact .inr rfl

/-! ### The errors of the grammars -/

/-- A missing selector is the fault of a step. -/
theorem Stylesheet.isOfStep_locate (sheet : Stylesheet) (target : Target) (err : EditError)
    (h : sheet.locate target = .error err) : err.IsOfStep := by
  unfold Stylesheet.locate at h
  split at h
  · cases h
    exact .inr rfl
  · next selector _ =>
    cases hpattern : SelectorPattern.ofText selector with
    | ok p => simp [hpattern, bind, Except.bind, pure, Except.pure] at h
    | error err' =>
      obtain rfl : err' = err := by simpa [hpattern, bind, Except.bind] using h
      unfold SelectorPattern.ofText at hpattern
      grind [EditError.IsOfStep, EditError.kind]

/-- Every failure of an edit in a stylesheet is the fault of a step. -/
theorem Stylesheet.reports_edit (sheet : Stylesheet) (m : Modification) :
    (sheet.edit m).Reports := by
  have hvalue := m.isOfStep_requiredValue
  unfold edit
  split
  · refine .needing hvalue fun value => ?_
    simp only [insertItems]
    split
    · exact Edited.reports_failed (.inl rfl)
    · exact Edited.reports_done _ _
  · refine .needing (sheet.isOfStep_locate _) fun rules => ?_
    unfold editRules
    split
    · exact Edited.reports_failed (.inr rfl)
    · exact .needing hvalue fun value => Edited.reports_done _ _
    · exact Edited.reports_done _ _
    · exact .needing hvalue fun value => Edited.reports_done _ _
    · exact Edited.reports_done _ _
    · exact Edited.reports_done _ _
    · refine .needing hvalue fun value => ?_
      unfold replaceRule
      split
      · exact Edited.reports_done _ _
      · dsimp only
        split
        · exact Edited.reports_failed (.inl rfl)
        · split <;> exact Edited.reports_done _ _

/-- A missing or unsupported selector is the fault of a step. -/
theorem Markup.isOfStep_locate (tree : Markup) (target : Target) (err : EditError)
    (h : locate tree target = .error err) : err.IsOfStep := by
  unfold locate at h
  split at h
  · cases h
    exact .inr rfl
  · next selector _ =>
    cases hselector : SimpleSelector.ofText selector with
    | ok s => simp [hselector, bind, Except.bind, pure, Except.pure] at h
    | error err' =>
      obtain rfl : err' = err := by simpa [hselector, bind, Except.bind] using h
      unfold SimpleSelector.ofText at hselector
      grind [EditError.IsOfStep, EditError.kind]

/-- Every failure of an edit in markup is the fault of a step. -/
theorem Markup.reports_edit (tree : Markup) (m : Modification) : (edit tree m).Reports := by
  have hvalue := m.isOfStep_requiredValue
  refine .needing (isOfStep_locate tree _) fun elements => ?_
  unfold editElements
  split
  · exact .needing hvalue fun value => Edited.reports_done _ _
  · exact .needing hvalue fun value => Edited.reports_done _ _
  · exact Edited.reports_done _ _
  · exact Edited.reports_done _ _
  · refine .needing hvalue fun value => ?_
    dsimp only
    split
    · exact Edited.reports_failed (.inl rfl)
    · exact Edited.reports_done _ _
  · exact .needing hvalue fun value => Edited.reports_done _ _

namespace Script.Program

/-- A value that is no statement is the fault of a step. -/
theorem isOfStep_statementOfValue (p : Program) (value : String) (err : EditError)
    (h : p.statementOfValue value = .error err) : err.IsOfStep := by
  unfold statementOfValue at h
  grind [EditError.IsOfStep, EditError.kind]

/-- A value that is no expression is the fault of a step. -/
theorem isOfStep_expressionOfValue (p : Program) (value : String) (err : EditError)
    (h : p.expressionOfValue value = .error err) : err.IsOfStep := by
  unfold expressionOfValue at h
  grind [EditError.IsOfStep, EditError.kind]

theorem reports_insertImport (p : Program) (value : String) : (p.insertImport value).Reports := by
  refine .needing (p.isOfStep_statementOfValue value) fun new => ?_
  split
  · exact Edited.reports_failed (.inr rfl)
  · split <;> exact Edited.reports_done _ _

theorem reports_update (p : Program) (identifier : Name) (m : Modification) :
    (p.update identifier m).Reports := by
  have hvalue := m.isOfStep_requiredValue
  unfold update
  dsimp only
  split
  · exact .needing hvalue fun value => Edited.reports_done _ _
  · split
    · exact .needing hvalue fun value =>
        .needing (p.isOfStep_expressionOfValue value) fun _ => Edited.reports_done _ _
    · exact Edited.reports_done _ _

/-- Every failure of an edit in a script is the fault of a step. -/
theorem reports_edit (p : Program) (m : Modification) : (p.edit m).Reports := by
  have hvalue := m.isOfStep_requiredValue
  unfold edit
  split
  · exact Edited.reports_failed (.inr rfl)
  unfold editNamed
  split
  · split
    · exact .needing hvalue p.reports_insertImport
    · exact Edited.reports_done _ _
  · exact Edited.reports_done _ _
  · split
    · exact .needing hvalue fun value =>
        .needing (p.isOfStep_statementOfValue value) fun _ => Edited.reports_done _ _
    · exact Edited.reports_done _ _
  · exact p.reports_update _ m

end Script.Program

/-- Reading a file and editing it only fail with the errors of a step. -/
theorem Options.isOfStep_of_fails {options : Options} {grammar : Grammar} {path source : String}
    {ms : List Modification} {err : EditError}
    (h : (options.editor grammar).Fails path source ms err) : err.IsOfStep := by
  obtain hparse | ⟨-, -, -, m, -, reached, -, -, -, hstop⟩ := h
  · cases grammar with
    | stylesheet => cases hparse
    | markup => cases hparse
    | script =>
      simp only [editor, ScriptOptions.editor] at hparse
      split at hparse
      · cases hparse
      · cases hparse
        exact .inl rfl
  · cases grammar with
    | stylesheet => exact Stylesheet.reports_edit reached m err hstop
    | markup => exact Markup.reports_edit reached m err hstop
    | script => exact Script.Program.reports_edit reached m err hstop

/-! ### The outcome of a file -/

/-- **One file is edited wholly or not at all.** It is edited exactly when its text is read, every
modification is carried out on the tree that those before it left, and they made edits at all.  Then
the result holds what is written of the last tree and the number of all edits, and no error.
Otherwise it holds no text and no edits, and its error is that of the first step that failed, or that
of a file in which nothing was edited exactly when no step failed. -/
theorem apply_allOrNothing (options : Options) (grammar : Grammar) (path source : String)
    (ms : List Modification) (diagnostics : Option Diagnostics) :
    let e := options.editor grammar
    let result := e.apply path source ms diagnostics
    (result.success = true ↔ ∃ tree final counts, e.parse path source = .ok tree ∧
      e.Runs tree ms final counts ∧ counts.sum ≠ 0) ∧
    (∀ tree final counts, e.parse path source = .ok tree → e.Runs tree ms final counts →
      counts.sum ≠ 0 →
        result = { success := true, modifiedContent := some (e.write final),
                   modificationsApplied := counts.sum, error := none }) ∧
    (result.success = false → result.modificationsApplied = 0 ∧ result.modifiedContent = none ∧
      (∀ err, e.Fails path source ms err → result.error = some (err.message diagnostics)) ∧
      (result.error = some (EditError.nothingApplied.message diagnostics) ↔
        ∀ err, ¬ e.Fails path source ms err)) := by
  intro e result
  -- Either all steps succeed, or one of them is the first that fails.
  have hends := e.exists_runs_or_fails path source ms
  refine ⟨⟨fun hsuccess => ?_, ?_⟩, fun tree final counts hparse hruns hne =>
    hruns.apply_eq hparse hne, fun hfailure => ?_⟩
  · obtain ⟨tree, final, counts, hparse, hruns⟩ | ⟨err, hfails⟩ := hends
    · refine ⟨tree, final, counts, hparse, hruns, fun hidle => ?_⟩
      simp [result, hruns.apply_eq_of_idle hparse hidle] at hsuccess
    · simp [result, hfails.apply_eq] at hsuccess
  · rintro ⟨tree, final, counts, hparse, hruns, hne⟩
    simp only [result, hruns.apply_eq hparse hne]
  · obtain ⟨hcount, hcontent⟩ := Editor.apply_of_failure hfailure
    refine ⟨hcount, hcontent, fun err hfails => ?_, fun herror err hfails => ?_, fun hnone => ?_⟩
    · simp only [result, hfails.apply_eq]
    · simp only [result, hfails.apply_eq] at herror
      exact (Options.isOfStep_of_fails hfails).message_ne diagnostics (Option.some.inj herror)
    · obtain ⟨tree, final, counts, hparse, hruns⟩ | ⟨err, hfails⟩ := hends
      · by_cases hidle : counts.sum = 0
        · simp only [result, hruns.apply_eq_of_idle hparse hidle]
        · simp [result, hruns.apply_eq hparse hidle] at hfailure
      · exact absurd hfails (hnone err)

/-- The second of two modifications fails for want of a value: the first one, which did edit
something, is lost with it. -/
theorem apply_allOrNothing_partial :
    let update (value : Option Payload) : Modification :=
      { path := "x.css", operation := .update, value,
        target := { selector := some "a", property := some "b" } }
    let result := (Options.editor {} .stylesheet).apply "x.css" "a\x7bb:c\x7d"
      [update (some (.text "d")), update none]
    result.success = false ∧ result.modificationsApplied = 0 ∧ result.modifiedContent = none ∧
      result.error = some "Invalid modification: 'update' on x.css requires a value" := by
  intro update result
  have hfails : (Options.editor {} .stylesheet).Fails "x.css" "a\x7bb:c\x7d"
      [update (some (.text "d")), update none] (.missingValue .update "x.css") := by
    refine .inr ⟨_, rfl, [update (some (.text "d"))], update none, [], _, [1], rfl, .cons ?_ (.nil _), ?_⟩
    · rfl
    · rfl
  have hfailure : result.success = false := by decide +kernel
  obtain ⟨hcount, hcontent, herror, -⟩ := (apply_allOrNothing {} .stylesheet "x.css" "a\x7bb:c\x7d"
    [update (some (.text "d")), update none] none).2.2 hfailure
  exact ⟨hfailure, hcount, hcontent, herror _ hfails⟩

end SourceEdit
