import Mathlib.Data.List.Perm.Basic
import SourceEdit.Proofs.Batch.Grouping

/-!
# What a batch does to each file

`PathOutcome` lists the five ways in which a path can end, from the text that was given for it and
the modifications that name it: untouched, not given, of no known grammar, refused by its editor, or
edited.  The main statements are

* `applyBatch_outcome`: every path of a batch ends in one of these ways, no key is added or lost, and
  the errors are those of the failing paths, in the order in which the paths first occur;
* `applyBatch_noninterference`: how a path ends depends on nothing but its own text and its own
  modifications, so that shuffling the modifications of different paths changes only the order of
  the errors.

Both rest on closed forms of the run over the groups: `updatedFiles_applyBatch` for the texts and
`errors_applyBatch` for the messages.
-/

namespace SourceEdit

/-! ### Association lists -/

/-- Looking a key up after the values were changed key by key. -/
private theorem lookup_map_value {α β γ : Type} [BEq α] [LawfulBEq α] (f : α → β → γ) (key : α) :
    ∀ l : List (α × β), (l.map fun e => (e.1, f e.1 e.2)).lookup key = (l.lookup key).map (f key)
  | [] => rfl
  | (k, v) :: l => by
    by_cases h : key = k
    · subst h
      simp
    · have hk : (key == k) = false := by simpa using h
      simp [List.lookup_cons, hk, lookup_map_value f key l]

private theorem lookup_eq_none_of_not_mem {α β : Type} [BEq α] [LawfulBEq α] {key : α}
    {l : List (α × β)} (h : key ∉ l.map Prod.fst) : l.lookup key = none := by
  refine List.lookup_eq_none_iff.mpr fun e he => ?_
  rw [bne_iff_ne]
  rintro rfl
  exact h (List.mem_map_of_mem he)

/-- Looking a key up among keys that may have a value each. -/
private theorem lookup_filterMap_key {α β : Type} [BEq α] [LawfulBEq α] [DecidableEq α]
    (f : α → Option β) (key : α) : ∀ keys : List α,
      (keys.filterMap fun k => (f k).map (k, ·)).lookup key = if key ∈ keys then f key else none
  | [] => rfl
  | k :: keys => by
    have ih := lookup_filterMap_key f key keys
    by_cases h : key = k
    · subst h
      cases hf : f key <;> simp [hf, ih]
    · have hk : (key == k) = false := by simpa using h
      cases hf : f k <;> simp [hf, ih, List.lookup_cons, hk, h]

/-! ### Running the groups -/

section Run

variable (options : Options) (diagnostics : Option Diagnostics) (files : List (String × String))

/-- A text after a group has been run on it: a group that fails leaves it as it was. -/
def textOf (group : PathGroup) (text : String) : String :=
  match editFile options diagnostics files group.1 group.2 with
  | .ok new => new
  | .error _ => text

/-- The text of a path after all groups have been run. -/
def textAfter (groups : List PathGroup) (path text : String) : String :=
  match groups.lookup path with
  | none => text
  | some members => textOf options diagnostics files (path, members) text

/-- The message of a group that fails. -/
def message? (group : PathGroup) : Option String :=
  match editFile options diagnostics files group.1 group.2 with
  | .ok _ => none
  | .error message => some message

/-- The failures of a batch: the paths that fail, each with its message. -/
def batchFailures (ms : List Modification) : List (String × String) :=
  (groupByPath ms).filterMap fun group => (message? options diagnostics files group).map (group.1, ·)

/-- A group changes the text of its own path and no other. -/
private theorem updatedFiles_runGroup (result : BatchResult) (group : PathGroup) :
    (runGroup options diagnostics files result group).updatedFiles =
      result.updatedFiles.map fun e =>
        (e.1, if e.1 = group.1 then textOf options diagnostics files group e.2 else e.2) := by
  unfold runGroup textOf
  cases editFile options diagnostics files group.1 group.2 with
  | error message => simp [BatchResult.fail]
  | ok text =>
    refine List.map_congr_left fun e _ => ?_
    by_cases he : e.1 = group.1 <;> simp [he]

/-- The texts after a run over groups of different paths. -/
private theorem updatedFiles_foldl {groups : List PathGroup}
    (hnodup : (groups.map Prod.fst).Nodup) (result : BatchResult) :
    (groups.foldl (runGroup options diagnostics files) result).updatedFiles =
      result.updatedFiles.map fun e => (e.1, textAfter options diagnostics files groups e.1 e.2) := by
  induction groups generalizing result with
  | nil => simp [textAfter]
  | cons group rest ih =>
    obtain ⟨hnew, hrest⟩ := List.nodup_cons.mp hnodup
    rw [List.foldl_cons, ih hrest, updatedFiles_runGroup, List.map_map]
    refine List.map_congr_left fun e _ => Prod.ext rfl ?_
    obtain ⟨path, members⟩ := group
    by_cases he : e.1 = path
    · -- the group of this path has just been run, and no later one names the path again
      have hlater : rest.lookup path = none := lookup_eq_none_of_not_mem hnew
      simp [textAfter, he, hlater]
    · have hbeq : (e.1 == path) = false := by simpa using he
      simp [textAfter, List.lookup_cons, he, hbeq]

/-- The messages after a run over groups. -/
private theorem errors_foldl (groups : List PathGroup) (result : BatchResult) :
    (groups.foldl (runGroup options diagnostics files) result).errors =
      result.errors ++ groups.filterMap (message? options diagnostics files) := by
  induction groups generalizing result with
  | nil => simp
  | cons group rest ih =>
    rw [List.foldl_cons, ih, List.filterMap_cons, runGroup, message?]
    cases editFile options diagnostics files group.1 group.2 <;>
      simp [BatchResult.fail, BatchResult.setFile]

/-- A run succeeds as long as nothing is noted. -/
private theorem success_foldl (groups : List PathGroup) (result : BatchResult)
    (h : result.success = true ↔ result.errors = []) :
    (groups.foldl (runGroup options diagnostics files) result).success = true ↔
      (groups.foldl (runGroup options diagnostics files) result).errors = [] := by
  induction groups generalizing result with
  | nil => exact h
  | cons group rest ih =>
    refine ih _ ?_
    unfold runGroup
    cases editFile options diagnostics files group.1 group.2 <;>
      simp [BatchResult.fail, BatchResult.setFile, h]

variable (ms : List Modification)

private theorem nodup_groupByPath : ((groupByPath ms).map Prod.fst).Nodup := by
  rw [groupByPath_eq, List.map_map]
  simpa [Function.comp_def] using nodup_pathsOf ms

/-- The group of a path, if some modification names the path. -/
theorem lookup_groupByPath (path : String) :
    (groupByPath ms).lookup path = if path ∈ pathsOf ms then some (naming path ms) else none := by
  rw [groupByPath_eq]
  simpa using lookup_filterMap_key (fun p => some (naming p ms)) path (pathsOf ms)

/-! ### Closed forms of a run -/

/-- The texts of a batch: those of the paths that are named are the texts after their groups, all
others stay. -/
theorem updatedFiles_applyBatch :
    (applyBatch options files ms diagnostics).updatedFiles =
      files.map fun e => (e.1, textAfter options diagnostics files (groupByPath ms) e.1 e.2) :=
  updatedFiles_foldl options diagnostics files (nodup_groupByPath ms) _

/-- The messages of a batch are those of its failures. -/
theorem errors_applyBatch :
    (applyBatch options files ms diagnostics).errors =
      (batchFailures options diagnostics files ms).map Prod.snd := by
  rw [applyBatch, errors_foldl, batchFailures, List.map_filterMap]
  simp [BatchResult.ofFiles, Function.comp_def]

/-- A batch succeeds exactly when no message was noted. -/
theorem success_applyBatch :
    (applyBatch options files ms diagnostics).success = true ↔
      (applyBatch options files ms diagnostics).errors = [] :=
  success_foldl options diagnostics files _ _ (by simp [BatchResult.ofFiles])

/-- The failures in terms of the paths that are named. -/
private theorem batchFailures_eq :
    batchFailures options diagnostics files ms = (pathsOf ms).filterMap fun path =>
      (message? options diagnostics files (path, naming path ms)).map (path, ·) := by
  rw [batchFailures, groupByPath_eq, List.filterMap_map]
  rfl

/-- The message that is noted for a path. -/
private theorem lookup_batchFailures (path : String) :
    (batchFailures options diagnostics files ms).lookup path =
      if path ∈ pathsOf ms then message? options diagnostics files (path, naming path ms)
      else none := by
  rw [batchFailures_eq, lookup_filterMap_key]

/-- No path is noted twice. -/
private theorem nodup_batchFailures :
    ((batchFailures options diagnostics files ms).map Prod.fst).Nodup := by
  rw [batchFailures_eq, List.map_filterMap]
  refine (nodup_pathsOf ms).filterMap fun p q path hp hq => ?_
  simp only [Option.map_map, Option.mem_def, Option.map_eq_some_iff] at hp hq
  obtain ⟨_, _, rfl⟩ := hp
  obtain ⟨_, _, hq⟩ := hq
  exact hq.symm

end Run

/-! ### The five ways in which a path ends -/

/-- An editor that succeeds gives a text, and one that fails gives an error. -/
theorem Editor.apply_cases (e : Editor) (path source : String) (ms : List Modification)
    (diagnostics : Option Diagnostics) :
    let result := e.apply path source ms diagnostics
    (∃ content, result.success = true ∧ result.modifiedContent = some content) ∨
    (∃ error, result.success = false ∧ result.error = some error) := by
  intro result
  unfold result Editor.apply
  cases e.modify path source ms with
  | ok edited => exact .inl ⟨edited.1, rfl, rfl⟩
  | error err => exact .inr ⟨err.message diagnostics, rfl, rfl⟩

/-- How a path of a batch ends: `PathOutcome options diagnostics path source? group text? message?`
says that from the text `source?` of the path and the modifications `group` that name it the batch
makes the text `text?` and notes the message `message?`. -/
inductive PathOutcome (options : Options) (diagnostics : Option Diagnostics) (path : String) :
    Option String → List Modification → Option String → Option String → Prop where
  /-- No modification names the path: its text stays. -/
  | untouched (source? : Option String) : PathOutcome options diagnostics path source? [] source? none
  /-- The path is named, but no text was given for it. -/
  | notGiven (m : Modification) (ms : List Modification) :
      PathOutcome options diagnostics path none (m :: ms) none (some ("File not found: " ++ path))
  /-- Neither the first modification nor the extension of the path tells the grammar. -/
  | unresolved (source : String) (m : Modification) (ms : List Modification)
      (hgrammar : m.grammar.or (Grammar.ofPath? path) = none) :
      PathOutcome options diagnostics path (some source) (m :: ms) (some source)
        (some ("Could not determine file type for: " ++ path))
  /-- The editor of the grammar fails on the group: the text stays. -/
  | refused (source : String) (m : Modification) (ms : List Modification) (grammar : Grammar)
      (error : String) (hgrammar : m.grammar.or (Grammar.ofPath? path) = some grammar)
      (hfails : ((options.editor grammar).apply path source (m :: ms) diagnostics).success = false)
      (herror : ((options.editor grammar).apply path source (m :: ms) diagnostics).error = some error) :
      PathOutcome options diagnostics path (some source) (m :: ms) (some source)
        (some ("Failed to modify " ++ path ++ ": " ++ error))
  /-- The editor of the grammar makes a new text. -/
  | edited (source : String) (m : Modification) (ms : List Modification) (grammar : Grammar)
      (content : String) (hgrammar : m.grammar.or (Grammar.ofPath? path) = some grammar)
      (hsucceeds : ((options.editor grammar).apply path source (m :: ms) diagnostics).success = true)
      (hcontent :
        ((options.editor grammar).apply path source (m :: ms) diagnostics).modifiedContent =
          some content) :
      PathOutcome options diagnostics path (some source) (m :: ms) (some content) none

section Outcome

variable (options : Options) (diagnostics : Option Diagnostics) (files : List (String × String))

/-- A group that is run ends its path in one of the five ways. -/
private theorem pathOutcome_of_group (path : String) (m : Modification) (ms : List Modification) :
    PathOutcome options diagnostics path (files.lookup path) (m :: ms)
      ((files.lookup path).map (textOf options diagnostics files (path, m :: ms)))
      (message? options diagnostics files (path, m :: ms)) := by
  unfold textOf message? editFile
  cases hsource : files.lookup path with
  | none => exact .notGiven m ms
  | some source =>
    have hhead : groupGrammar? path (m :: ms) = m.grammar.or (Grammar.ofPath? path) := rfl
    cases hgrammar : m.grammar.or (Grammar.ofPath? path) with
    | none =>
      simp only [hhead, hgrammar]
      exact .unresolved source m ms hgrammar
    | some grammar =>
      simp only [hhead, hgrammar, Option.map_some]
      obtain ⟨content, hsucceeds, hcontent⟩ | ⟨error, hfails, herror⟩ :=
        (options.editor grammar).apply_cases path source (m :: ms) diagnostics
      · simp only [hsucceeds, hcontent]
        exact .edited source m ms grammar content hgrammar hsucceeds hcontent
      · simp only [hfails, herror, Option.getD_some]
        exact .refused source m ms grammar error hgrammar hfails herror

/-- Every path of a batch ends in one of the five ways. -/
private theorem pathOutcome_applyBatch (ms : List Modification) (path : String) :
    PathOutcome options diagnostics path (files.lookup path) (naming path ms)
      ((applyBatch options files ms diagnostics).updatedFiles.lookup path)
      ((batchFailures options diagnostics files ms).lookup path) := by
  rw [updatedFiles_applyBatch, lookup_map_value, lookup_batchFailures]
  have hgroup := lookup_groupByPath ms path
  -- a path that no modification names is left alone
  cases hnaming : naming path ms with
  | nil =>
    have hmem : path ∉ pathsOf ms := naming_eq_nil_iff.mp hnaming
    have hstay : textAfter options diagnostics files (groupByPath ms) path = id := by
      funext text
      simp [textAfter, hgroup, hmem]
    simp only [hstay, hmem, if_false, Option.map_id_fun, id]
    exact .untouched _
  | cons m rest =>
    have hmem : path ∈ pathsOf ms := by
      by_contra h
      simp [naming_eq_nil_iff.mpr h] at hnaming
    have hrun : textAfter options diagnostics files (groupByPath ms) path
        = textOf options diagnostics files (path, m :: rest) := by
      funext text
      simp [textAfter, hgroup, hmem, hnaming]
    simp only [hrun, hmem, if_true]
    exact pathOutcome_of_group options diagnostics files path m rest

/-- **What a batch does.** The result has exactly the paths that texts were given for.  Each path
ends in one of the five ways, by its own text and the modifications that name it.  The errors are
the messages of the failing paths, one for each, in the order in which the paths first occur, and
the batch succeeds exactly when there are none. -/
theorem applyBatch_outcome (ms : List Modification) :
    (applyBatch options files ms diagnostics).updatedFiles.map Prod.fst = files.map Prod.fst ∧
    (∃ (paths : List String) (noted : String → Option String),
      FirstSeen ms paths ∧
      (∀ path, PathOutcome options diagnostics path (files.lookup path) (naming path ms)
        ((applyBatch options files ms diagnostics).updatedFiles.lookup path) (noted path)) ∧
      (applyBatch options files ms diagnostics).errors = paths.filterMap noted) ∧
    ((applyBatch options files ms diagnostics).success = true ↔
      (applyBatch options files ms diagnostics).errors = []) := by
  refine ⟨?_, ⟨pathsOf ms, fun path => (batchFailures options diagnostics files ms).lookup path,
    pathsOf_firstSeen ms, pathOutcome_applyBatch options diagnostics files ms, ?_⟩,
    success_applyBatch options diagnostics files ms⟩
  · simp [updatedFiles_applyBatch, Function.comp_def]
  · rw [errors_applyBatch, batchFailures_eq, List.map_filterMap]
    refine List.filterMap_congr fun path hpath => ?_
    rw [← batchFailures_eq, lookup_batchFailures, if_pos hpath]
    simp [Function.comp_def]

end Outcome

/-! ### Independence of files -/

/-- A path ends in one way only: its text and its modifications decide on it. -/
theorem PathOutcome.unique {options : Options} {diagnostics : Option Diagnostics} {path : String}
    {source? : Option String} {group : List Modification}
    {text? text?' message? message?' : Option String}
    (h : PathOutcome options diagnostics path source? group text? message?)
    (h' : PathOutcome options diagnostics path source? group text?' message?') :
    text? = text?' ∧ message? = message?' := by
  cases h <;> cases h' <;> simp_all

/-- Lists that name each path in the same way name the same paths. -/
private theorem pathsOf_perm {ms₁ ms₂ : List Modification}
    (h : ∀ path, naming path ms₁ = naming path ms₂) : (pathsOf ms₁).Perm (pathsOf ms₂) := by
  refine (List.perm_ext_iff_of_nodup (nodup_pathsOf ms₁) (nodup_pathsOf ms₂)).mpr fun path => ?_
  rw [← not_iff_not, ← naming_eq_nil_iff, ← naming_eq_nil_iff, h path]

/-- **Files do not interfere.** Two runs that agree on the text of a path and on the modifications
that name it agree on its new text and on the message that is noted for it, whatever else the runs
hold; the errors of a run are the messages noted for its paths, one for each path that fails.
Shuffling the modifications without changing the order of those of any one path keeps all texts and
the success of the batch, and only permutes the errors. -/
theorem applyBatch_noninterference (options : Options) (diagnostics : Option Diagnostics) :
    (∀ (files₁ files₂ : List (String × String)) (ms₁ ms₂ : List Modification) (path : String),
      files₁.lookup path = files₂.lookup path → naming path ms₁ = naming path ms₂ →
        (applyBatch options files₁ ms₁ diagnostics).updatedFiles.lookup path =
          (applyBatch options files₂ ms₂ diagnostics).updatedFiles.lookup path ∧
        (batchFailures options diagnostics files₁ ms₁).lookup path =
          (batchFailures options diagnostics files₂ ms₂).lookup path) ∧
    (∀ (files : List (String × String)) (ms : List Modification),
      (applyBatch options files ms diagnostics).errors =
          (batchFailures options diagnostics files ms).map Prod.snd ∧
        ((batchFailures options diagnostics files ms).map Prod.fst).Nodup) ∧
    ∀ (files : List (String × String)) (ms₁ ms₂ : List Modification),
      (∀ path, naming path ms₁ = naming path ms₂) →
        (applyBatch options files ms₁ diagnostics).updatedFiles =
          (applyBatch options files ms₂ diagnostics).updatedFiles ∧
        (applyBatch options files ms₁ diagnostics).success =
          (applyBatch options files ms₂ diagnostics).success ∧
        (applyBatch options files ms₁ diagnostics).errors.Perm
          (applyBatch options files ms₂ diagnostics).errors := by
  refine ⟨fun files₁ files₂ ms₁ ms₂ path hfiles hms => ?_, fun files ms =>
    ⟨errors_applyBatch options diagnostics files ms, nodup_batchFailures options diagnostics files ms⟩,
    fun files ms₁ ms₂ hms => ?_⟩
  · -- both runs are described by the same outcome, and a path has one only
    have h₁ := pathOutcome_applyBatch options diagnostics files₁ ms₁ path
    have h₂ := pathOutcome_applyBatch options diagnostics files₂ ms₂ path
    rw [hfiles, hms] at h₁
    exact h₁.unique h₂
  · -- the order of the first modifications of the paths may differ, and nothing else
    have hperm := pathsOf_perm hms
    have herrors : (applyBatch options files ms₁ diagnostics).errors.Perm
        (applyBatch options files ms₂ diagnostics).errors := by
      rw [errors_applyBatch, errors_applyBatch, batchFailures_eq, batchFailures_eq]
      simp only [hms]
      exact (hperm.filterMap _).map _
    refine ⟨?_, ?_, herrors⟩
    · have hgroups : ∀ path, (groupByPath ms₁).lookup path = (groupByPath ms₂).lookup path := by
        intro path
        rw [lookup_groupByPath, lookup_groupByPath, hms path]
        simp [hperm.mem_iff]
      rw [updatedFiles_applyBatch, updatedFiles_applyBatch]
      simp only [textAfter, hgroups]
    · rw [Bool.eq_iff_iff, success_applyBatch, success_applyBatch]
      exact ⟨fun h => (h ▸ herrors).symm.eq_nil, fun h => (h ▸ herrors).eq_nil⟩

/-- The rules `a` are deleted from two files, one of which also holds something else and is named
in between. -/
theorem applyBatch_noninterference_deletions :
    let delete (path : String) : Modification :=
      { path, operation := .delete, target := { selector := some "a" } }
    let files₁ := [("x.css", "a { b: c }"), ("y.css", "d { e: f }")]
    let files₂ := [("x.css", "a { b: c }")]
    (files₁.lookup "x.css" = files₂.lookup "x.css" ∧
      naming "x.css" [delete "y.css", delete "x.css"] = naming "x.css" [delete "x.css"] ∧
      (applyBatch {} files₁ [delete "y.css", delete "x.css"]).updatedFiles.lookup "x.css" =
        (applyBatch {} files₂ [delete "x.css"]).updatedFiles.lookup "x.css") ∧
    (∀ path, naming path [delete "y.css", delete "x.css"]
        = naming path [delete "x.css", delete "y.css"]) ∧
      (applyBatch {} files₁ [delete "y.css", delete "x.css"]).updatedFiles =
        (applyBatch {} files₁ [delete "x.css", delete "y.css"]).updatedFiles := by
  intro delete files₁ files₂
  have hshuffled : ∀ path, naming path [delete "y.css", delete "x.css"]
      = naming path [delete "x.css", delete "y.css"] := by
    intro path
    by_cases hx : "x.css" = path
    · subst hx
      rfl
    · simp [naming, delete, List.filter_cons, hx]
  have hown : naming "x.css" [delete "y.css", delete "x.css"] = naming "x.css" [delete "x.css"] :=
    rfl
  exact ⟨⟨rfl, hown, ((applyBatch_noninterference {} none).1 files₁ files₂ _ _ "x.css" rfl hown).1⟩,
    hshuffled, ((applyBatch_noninterference {} none).2.2 files₁ _ _ hshuffled).1⟩

end SourceEdit
