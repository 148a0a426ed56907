import Mathlib.Data.List.Induction
import Mathlib.Data.List.Nodup
import SourceEdit.Batch

/-!
# The groups of a batch

`Grouping.add` keeps two things in step: the list of groups, which grows at its end, and the index
that says where the group of a path stands.  `Grouping.Tracks` is what they have in common after any
list of modifications has been read, `Grouping.Tracks.add` says that one more modification keeps it,
and `groupByPath_eq` reads the result off: one group per path, in the order in which the paths first
occur, and in each group all modifications that name its path, in order.

`pathsOf` is that order; `pathsOf_firstSeen` pins it down without the loop.
-/

namespace SourceEdit

/-! ### The two views of a list of modifications -/

/-- The paths of a list of modifications, each at its first occurrence. -/
def pathsOf (ms : List Modification) : List String := (ms.map (·.path)).eraseDups

/-- The modifications that name a path, in order. -/
def naming (path : String) (ms : List Modification) : List Modification :=
  ms.filter (·.path == path)

theorem mem_pathsOf {path : String} {ms : List Modification} :
    path ∈ pathsOf ms ↔ ∃ m ∈ ms, m.path = path := by
  simp [pathsOf]

/-- A path is among the paths exactly when some modification names it. -/
theorem naming_eq_nil_iff {path : String} {ms : List Modification} :
    naming path ms = [] ↔ path ∉ pathsOf ms := by
  simp [naming, mem_pathsOf, List.filter_eq_nil_iff]

/-- One more modification adds its path at the end, unless it is there already. -/
theorem pathsOf_concat (ms : List Modification) (m : Modification) :
    pathsOf (ms ++ [m]) =
      if m.path ∈ pathsOf ms then pathsOf ms else pathsOf ms ++ [m.path] := by
  have hmem : m.path ∈ pathsOf ms ↔ m.path ∈ ms.map (·.path) := by simp [pathsOf]
  simp only [hmem]
  rw [pathsOf, List.map_append, List.eraseDups_append]
  split
  · next h => simp [List.removeAll, pathsOf, List.mem_map.mp h]
  · next h =>
    have hkept : [m.path].removeAll (ms.map (·.path)) = [m.path] := by
      simpa [List.removeAll, List.filter_cons] using h
    rw [List.map_singleton, hkept]
    rfl

theorem naming_concat (path : String) (ms : List Modification) (m : Modification) :
    naming path (ms ++ [m]) =
      if m.path = path then naming path ms ++ [m] else naming path ms := by
  by_cases h : m.path = path <;> simp [naming, h]

theorem nodup_pathsOf (ms : List Modification) : (pathsOf ms).Nodup := by
  induction ms using List.reverseRecOn with
  | nil => simp [pathsOf]
  | append_singleton ms m ih =>
    rw [pathsOf_concat]
    split
    · exact ih
    · next h => exact ih.append (List.nodup_singleton _) (by simpa using h)

/-! ### The order of the paths -/

/-- The place of the first modification that names a path. -/
def firstPlace (ms : List Modification) (path : String) : Nat := ms.findIdx (·.path == path)

/-- `paths` lists the paths that modifications name, each once, in the order in which they first
occur. -/
structure FirstSeen (ms : List Modification) (paths : List String) : Prop where
  nodup : paths.Nodup
  mem_iff : ∀ path, path ∈ paths ↔ ∃ m ∈ ms, m.path = path
  ordered : paths.Pairwise fun p q => firstPlace ms p < firstPlace ms q

theorem firstPlace_lt_length {ms : List Modification} {path : String} :
    firstPlace ms path < ms.length ↔ path ∈ pathsOf ms := by
  simp [firstPlace, mem_pathsOf, List.findIdx_lt_length]

private theorem firstPlace_concat_of_mem {ms : List Modification} {path : String}
    (h : path ∈ pathsOf ms) (m : Modification) :
    firstPlace (ms ++ [m]) path = firstPlace ms path := by
  have hlt : ms.findIdx (·.path == path) < ms.length := firstPlace_lt_length.mpr h
  simp [firstPlace, List.findIdx_append, hlt]

private theorem firstPlace_concat_self {ms : List Modification} {m : Modification}
    (h : m.path ∉ pathsOf ms) : firstPlace (ms ++ [m]) m.path = ms.length := by
  have hlt : ¬ ms.findIdx (·.path == m.path) < ms.length := mt firstPlace_lt_length.mp h
  simp [firstPlace, List.findIdx_append, hlt, List.findIdx_cons]

private theorem pathsOf_ordered (ms : List Modification) :
    (pathsOf ms).Pairwise fun p q => firstPlace ms p < firstPlace ms q := by
  induction ms using List.reverseRecOn with
  | nil => simp [pathsOf]
  | append_singleton ms m ih =>
    have hold : (pathsOf ms).Pairwise fun p q =>
        firstPlace (ms ++ [m]) p < firstPlace (ms ++ [m]) q := by
      refine List.Pairwise.imp_of_mem (fun {p q} hp hq hlt => ?_) ih
      rwa [firstPlace_concat_of_mem hp, firstPlace_concat_of_mem hq]
    rw [pathsOf_concat]
    split
    · exact hold
    · next h =>
      refine List.pairwise_append.mpr ⟨hold, List.pairwise_singleton _ _, fun p hp q hq => ?_⟩
      obtain rfl := List.mem_singleton.mp hq
      rw [firstPlace_concat_of_mem hp, firstPlace_concat_self h]
      exact firstPlace_lt_length.mpr hp

/-- The paths are listed in the order in which they first occur. -/
theorem pathsOf_firstSeen (ms : List Modification) : FirstSeen ms (pathsOf ms) :=
  ⟨nodup_pathsOf ms, fun _ => mem_pathsOf, pathsOf_ordered ms⟩

/-! ### The grouping loop -/

/-- What the groups and the index are after `ms` has been read: the groups are those of the paths
seen so far, and the index knows the place of each of these paths and of no other. -/
structure Grouping.Tracks (g : Grouping) (ms : List Modification) : Prop where
  groups_eq : g.groups = (pathsOf ms).map fun path => (path, naming path ms)
  lookup_iff : ∀ path i, g.index.lookup path = some i ↔ (pathsOf ms)[i]? = some path

theorem Grouping.tracks_nil : ({} : Grouping).Tracks [] where
  groups_eq := rfl
  lookup_iff := by simp [pathsOf]

/-- A path that the index knows is one that was seen. -/
theorem Grouping.Tracks.lookup_eq_none {g : Grouping} {ms : List Modification} (h : g.Tracks ms)
    {path : String} : g.index.lookup path = none ↔ path ∉ pathsOf ms := by
  rw [Option.eq_none_iff_forall_not_mem, List.mem_iff_getElem?]
  simp [h.lookup_iff]

/-- **One step of the loop.** Whether the path was seen before or not, the groups and the index
still fit together after one more modification. -/
theorem Grouping.Tracks.add {g : Grouping} {ms : List Modification} (h : g.Tracks ms)
    (m : Modification) : (g.add m).Tracks (ms ++ [m]) := by
  unfold Grouping.add
  split
  · next i hi =>
    have hget : (pathsOf ms)[i]? = some m.path := (h.lookup_iff _ _).mp hi
    have hmem : m.path ∈ pathsOf ms := List.mem_of_getElem? hget
    have hpaths : pathsOf (ms ++ [m]) = pathsOf ms := by simp [pathsOf_concat, hmem]
    refine ⟨?_, by simpa [hpaths] using h.lookup_iff⟩
    refine List.ext_getElem? fun j => ?_
    simp only [hpaths, List.getElem?_modify, h.groups_eq, List.getElem?_map]
    -- the path at `j` is the path of `m` exactly when `j` is the place that the index gives
    cases hj : (pathsOf ms)[j]? with
    | none => rfl
    | some path =>
      have hij : i = j ↔ m.path = path := by
        constructor
        · rintro rfl
          simpa [hget] using hj
        · rintro rfl
          have hlt : i < (pathsOf ms).length := (List.getElem?_eq_some_iff.mp hget).1
          exact (List.getElem?_inj hlt (nodup_pathsOf ms)).mp (hget.trans hj.symm)
      by_cases hp : m.path = path <;> simp [naming_concat, hij, hp]
  · next hnone =>
    have hmem : m.path ∉ pathsOf ms := h.lookup_eq_none.mp hnone
    have hpaths : pathsOf (ms ++ [m]) = pathsOf ms ++ [m.path] := by simp [pathsOf_concat, hmem]
    refine ⟨?_, fun path i => ?_⟩
    · have hold : ∀ path ∈ pathsOf ms, naming path (ms ++ [m]) = naming path ms := by
        intro path hpath
        have hne : m.path ≠ path := fun he => hmem (he ▸ hpath)
        simp [naming_concat, hne]
      have hnew : naming m.path (ms ++ [m]) = [m] := by
        simp [naming_concat, naming_eq_nil_iff.mpr hmem]
      simp only [hpaths, List.map_append, List.map_singleton, hnew, h.groups_eq]
      congr 1
      exact List.map_congr_left fun path hpath => by rw [hold path hpath]
    · have hlen : g.groups.length = (pathsOf ms).length := by simp [h.groups_eq]
      rw [hpaths, List.lookup_cons, hlen]
      by_cases hp : path = m.path
      · subst hp
        have hbefore : ∀ j : Nat, (pathsOf ms)[j]? ≠ some m.path := fun j hj =>
          hmem (List.mem_of_getElem? hj)
        rcases Nat.lt_trichotomy i (pathsOf ms).length with hi | rfl | hi
        · simp [List.getElem?_append_left hi, hbefore, Nat.ne_of_gt hi]
        · simp
        · simp [List.getElem?_append_right (Nat.le_of_lt hi), Nat.ne_of_lt hi,
            Nat.sub_ne_zero_of_lt hi]
      · have hbeq : (path == m.path) = false := by simpa using hp
        rw [hbeq, h.lookup_iff]
        rcases Nat.lt_or_ge i (pathsOf ms).length with hi | hi
        · rw [List.getElem?_append_left hi]
        · rw [List.getElem?_append_right hi, List.getElem?_eq_none hi, List.getElem?_singleton]
          split <;> simp [Ne.symm hp]

/-- **The loop as a whole.** After any list of modifications the groups and the index fit
together. -/
theorem Grouping.tracks_foldl (ms : List Modification) :
    (ms.foldl Grouping.add {}).Tracks ms := by
  induction ms using List.reverseRecOn with
  | nil => exact Grouping.tracks_nil
  | append_singleton ms m ih =>
    rw [List.foldl_append]
    exact ih.add m

/-- There is one group per path, in the order in which the paths first occur, and it holds all
modifications that name the path, in order. -/
theorem groupByPath_eq (ms : List Modification) :
    groupByPath ms = (pathsOf ms).map fun path => (path, naming path ms) :=
  (Grouping.tracks_foldl ms).groups_eq

end SourceEdit
