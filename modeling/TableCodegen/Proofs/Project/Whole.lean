import TableCodegen.Proofs.Project.Table

/-!
# Whole project runs

Behind all tables a project run writes the document that imports their route documents, and one file of gists for
each kind. With every table passed over there is nothing to write.

Results:

* `ProjectRun.returns_generateAll`: what a run makes of its tables and behind them.
* `ProjectRun.returns_generateProject`: what a whole run has done when it gives a report.
-/

namespace TableCodegen

open Run

/-! ## Specification -/

namespace ProjectRun

variable (run : ProjectRun)

/-- The path of the service document. -/
def servicePath : String :=
  run.pathTo (serviceFile run.config.tablePrefix)

/-- The paths of the gists. -/
def gistPaths : List String :=
  GistKind.all.map fun kind => run.pathTo kind.fileName

/-- The file of the service document. -/
def serviceOutput (text : String) : GeneratedFile :=
  ⟨"aggregate route file", run.servicePath, text⟩

@[simp] theorem written_serviceOutput (text : String) :
    (run.serviceOutput text).written = ⟨run.servicePath, text⟩ := by
  rw [serviceOutput, GeneratedFile.written]

/-- The file of the gists of a kind: one gist for each table, with a blank line between neighbours. -/
def gistOutput (gists : List Gists) (kind : GistKind) : GeneratedFile :=
  ⟨"gist", run.pathTo kind.fileName, "\n\n".intercalate (gists.map (·.get kind))⟩

/-- The files behind all tables. -/
inductive TotalFiles (kept : List KeptTable) : List GeneratedFile → Prop
  | nothing (hkept : kept = []) : TotalFiles kept []
  | service {text : String} (hkept : kept ≠ [])
      (hservice : renderService run.config.api (kept.map fun one => run.routeFile one.table.name) run.validator
        run.formatter = .ok text) :
      TotalFiles kept (run.serviceOutput text :: GistKind.all.map (run.gistOutput (kept.map (·.gists))))

/-- What a run has made of its tables, and behind them. -/
structure Makes (before : RunState) (tables : List Table) (kept : List KeptTable) (totals : List GeneratedFile)
    (after : RunState) : Prop where
  read : run.ReadsTables before.calls run.config.tables tables
  keptTables : kept.map (·.table) = tables.filter fun table => !run.leavesOut table
  keeps : ∀ one ∈ kept, run.Keeps one
  behind : run.TotalFiles kept totals
  effect : before.Effect (run.config.tables.flatMap readerCalls) (kept.flatMap (·.files) ++ totals) after

/-! ## Runs -/

/-- A loop over names that gives each result with its name. -/
theorem mapM_named {α β : Type} (names : List α) (f : α → Run β) :
    (names.mapM fun name => do return (name, ← f name)) = (do return names.zip (← names.mapM f)) := by
  induction names with
  | nil => simp
  | cons name names ih =>
    simp only [List.mapM_cons, ih]
    simp

variable {run} {before after : RunState}

/-- The files of a loop that writes files. -/
theorem effect_of_forIn {label : String} {files : List (String × String)} {path : String → String}
    (h : Returns (forIn files PUnit.unit fun file _ => do
      writeFile label (path file.1) file.2
      return ForInStep.yield PUnit.unit) before PUnit.unit after) :
    before.Effect [] (files.map fun file => ⟨label, path file.1, file.2⟩) after := by
  induction files generalizing before with
  | nil =>
    obtain rfl := returns_forIn_nil.mp h
    exact .nil _
  | cons file files ih =>
    obtain ⟨middle, hwrite, hrest⟩ := returns_forIn_cons.mp h
    exact (RunState.Effect.writeFile hwrite).append (ih hrest)

theorem returns_writeTotals {kept : List KeptTable}
    (h : Returns (run.writeTotals (kept.map (·.passedOn run))) before () after) :
    ∃ totals, run.TotalFiles kept totals ∧ before.Effect [] totals after := by
  unfold writeTotals at h
  dsimp only at h
  rcases kept with _ | ⟨one, kept⟩
  · rw [if_neg (by simp)] at h
    obtain ⟨-, rfl⟩ := returns_pure.mp h
    exact ⟨[], .nothing rfl, .nil _⟩
  · rw [if_pos (by simp)] at h
    simp only [returns_bind, returns_ofExcept, returns_pure] at h
    obtain ⟨text, _, ⟨hservice, rfl⟩, _, _, hwrite, _, _, hgists, -, rfl⟩ := h
    have himports : ((one :: kept).map (·.passedOn run)).map (·.routeFile) =
        (one :: kept).map fun one => run.routeFile one.table.name := by
      rw [List.map_map]
      rfl
    have hentries : ((one :: kept).map (·.passedOn run)).map (·.gists) = (one :: kept).map (·.gists) := by
      rw [List.map_map]
      rfl
    have hfiles : (⟨(one :: kept).map (·.gists)⟩ : GistSet).files.map
        (fun file => (⟨"gist", run.pathTo file.1, file.2⟩ : GeneratedFile)) =
        GistKind.all.map (run.gistOutput ((one :: kept).map (·.gists))) := rfl
    rw [himports] at hservice
    have heffect := effect_of_forIn hgists
    rw [hentries, hfiles] at heffect
    exact ⟨_, .service (List.cons_ne_nil _ _) hservice, (RunState.Effect.writeFile hwrite).append heffect⟩

theorem returns_generateAll {skipped : List String} (h : Returns run.generateAll before skipped after) :
    ∃ tables kept totals, run.Makes before tables kept totals after ∧
      skipped = (tables.filter run.leavesOut).map (·.name) := by
  unfold generateAll at h
  rw [mapM_named] at h
  simp only [returns_bind, returns_pure] at h
  obtain ⟨_, middle, ⟨results, _, hresults, rfl, rfl⟩, _, _, htotals, rfl, rfl⟩ := h
  obtain ⟨tables, kept, hreads, hkept, hkeeps, hpassed, hskipped, heffect⟩ := returns_mapM_generateTable hresults
  rw [hpassed] at htotals
  obtain ⟨totals, hbehind, hrest⟩ := returns_writeTotals htotals
  have hall := heffect.append hrest
  rw [List.append_nil] at hall
  exact ⟨tables, kept, totals, ⟨hreads, hkept, hkeeps, hbehind, hall⟩, hskipped⟩

/-- Making directories is no call to the catalog and writes no file. -/
structure SameLog (before after : RunState) : Prop where
  calls : after.calls = before.calls
  written : after.written = before.written
  printed : after.printed = before.printed

theorem sameLog_of_prepare (h : Returns run.prepare before () after) : SameLog before after := by
  have hmake : ∀ {path : String} {before after : RunState}, Returns (makeDirectories path) before () after →
      SameLog before after := by
    intro path before after h
    obtain ⟨files, -, rfl⟩ := returns_makeDirectories.mp h
    exact ⟨rfl, rfl, rfl⟩
  unfold prepare at h
  dsimp only at h
  split at h
  · simp only [returns_bind, returns_inStep] at h
    obtain ⟨_, middle, hdir, hmodels⟩ := h
    have hfirst := hmake hdir
    have hsecond := hmake hmodels
    exact ⟨hsecond.calls.trans hfirst.calls, hsecond.written.trans hfirst.written,
      hsecond.printed.trans hfirst.printed⟩
  · simp only [returns_bind, returns_inStep, returns_pure] at h
    obtain ⟨_, middle, hdir, -, rfl⟩ := h
    exact hmake hdir

/-- What a whole run has done when it gives a report. -/
theorem returns_generateProject {report : ProjectReport}
    (h : Returns (generateProject run) before report after) :
    ∃ prepared tables kept totals finished, Returns run.prepare before () prepared ∧
      run.Makes prepared tables kept totals finished ∧
      report.skipped = (tables.filter run.leavesOut).map (·.name) ∧
      report.written = finished.written.map (·.path) ∧
      { finished with calls := finished.calls ++ [.close] } = after := by
  unfold generateProject at h
  simp only [returns_bind, returns_ofExcept, returns_pure, returns_get] at h
  obtain ⟨_, _, ⟨-, rfl⟩, _, prepared, hprepare, skipped, _, hclosing, _, _, ⟨rfl, rfl⟩, rfl, rfl⟩ := h
  obtain ⟨finished, hall, -, rfl⟩ := returns_closing.mp hclosing
  obtain ⟨tables, kept, totals, hmakes, hskipped⟩ := returns_generateAll hall
  exact ⟨prepared, tables, kept, totals, finished, hprepare, hmakes, hskipped, rfl, rfl⟩

end ProjectRun

end TableCodegen
