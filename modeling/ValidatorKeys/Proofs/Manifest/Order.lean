import ValidatorKeys.Manifest.Sorting
import ValidatorKeys.Proofs.Toml.WellFormed

/-!
# The order of dependencies

Sorting names is a permutation of them, and sorting them again changes nothing.  A table whose keys
were sorted holds the same fields.
-/

namespace ValidatorKeys.Manifest

def sortedTable (deps : Toml.Table) : Toml.Table :=
  (sortedNames deps.keys).filterMap fun name => (deps.get? name).map fun v => (name, v)

theorem sortedNames_perm (names : List String) : (sortedNames names).Perm names :=
  List.mergeSort_perm names mayPrecede

theorem mayPrecede_trans (a b c : String) (hab : mayPrecede a b = true)
    (hbc : mayPrecede b c = true) : mayPrecede a c = true := by
  simp only [mayPrecede, decide_eq_true_eq] at *
  omega

theorem mayPrecede_total (a b : String) : (mayPrecede a b || mayPrecede b a) = true := by
  simp only [mayPrecede, Bool.or_eq_true, decide_eq_true_eq]
  omega

theorem pairwise_sortedNames (names : List String) :
    (sortedNames names).Pairwise fun a b => mayPrecede a b = true :=
  List.pairwise_mergeSort mayPrecede_trans mayPrecede_total names

/-- **Sorting is idempotent.** -/
theorem sortedNames_sortedNames (names : List String) :
    sortedNames (sortedNames names) = sortedNames names :=
  List.mergeSort_of_pairwise (pairwise_sortedNames names)

theorem entryLines_eq_map (deps : Toml.Table) :
    entryLines deps = (sortedTable deps).map fun f => entryLine f.1 f.2 := by
  rw [entryLines, sortedTable, List.map_filterMap]
  congr 1
  funext name
  cases deps.get? name with
  | none => rfl
  | some v => rfl

section

variable {deps : Toml.Table} (hnodup : (deps.map Prod.fst).Nodup)

/-- Looking up the keys of fields in their own table gives the fields. -/
theorem filterMap_get?_keys {fs : List (String × Toml.Value)}
    (h : ∀ f ∈ fs, deps.get? f.1 = some f.2) :
    ((fs.map Prod.fst).filterMap fun name => (deps.get? name).map fun v => (name, v)) = fs := by
  induction fs with
  | nil => rfl
  | cons f fs ih =>
    rw [List.map_cons, List.filterMap_cons, h f List.mem_cons_self]
    simp only [Option.map_some, ih fun g hg => h g (List.mem_cons_of_mem _ hg)]

include hnodup in
theorem get?_of_mem {f : String × Toml.Value} (hf : f ∈ deps) : deps.get? f.1 = some f.2 := by
  induction deps with
  | nil => cases hf
  | cons g deps ih =>
    rw [List.map_cons, List.nodup_cons] at hnodup
    rw [Toml.Table.get?_cons]
    rcases List.mem_cons.mp hf with rfl | hf
    · rw [if_pos rfl]
    · have hne : g.1 ≠ f.1 := by
        intro heq
        exact hnodup.1 (heq ▸ List.mem_map_of_mem hf)
      rw [if_neg hne]
      exact ih hnodup.2 hf

include hnodup in
/-- **A sorted table holds the same fields.** -/
theorem sortedTable_perm : (sortedTable deps).Perm deps := by
  have hperm := (sortedNames_perm deps.keys).filterMap fun name =>
    (deps.get? name).map fun v => (name, v)
  have hself : (deps.keys.filterMap fun name => (deps.get? name).map fun v => (name, v)) = deps :=
    filterMap_get?_keys fun f hf => get?_of_mem hnodup hf
  rw [hself] at hperm
  exact hperm

theorem map_fst_filterMap_get? {names : List String}
    (h : ∀ name ∈ names, name ∈ deps.map Prod.fst) (hget : ∀ f ∈ deps, deps.get? f.1 = some f.2) :
    (names.filterMap fun name => (deps.get? name).map fun v => (name, v)).map Prod.fst = names := by
  induction names with
  | nil => rfl
  | cons name names ih =>
    obtain ⟨f, hf, rfl⟩ := List.mem_map.mp (h name List.mem_cons_self)
    rw [List.filterMap_cons, hget f hf]
    exact congrArg (f.1 :: ·) (ih fun n hn => h n (List.mem_cons_of_mem _ hn))

include hnodup in
/-- The keys of a sorted table are the sorted keys. -/
theorem keys_sortedTable : (sortedTable deps).keys = sortedNames deps.keys :=
  map_fst_filterMap_get? (fun _ hname => (sortedNames_perm deps.keys).mem_iff.mp hname)
    fun _ hf => get?_of_mem hnodup hf

end

end ValidatorKeys.Manifest
