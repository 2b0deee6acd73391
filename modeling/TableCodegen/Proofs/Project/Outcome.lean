import Mathlib.Data.List.Forall2
import Mathlib.Data.List.Nodup
import TableCodegen.Proofs.Project.Whole

/-!
# Outcomes of project runs

A project run goes through its tables. What it has of a table is the table as the catalog gave it and the files
that were written for it; a table without fields is passed over. Behind all tables come the service document
and the gists, if there was anything to write.

Results:

* `ProjectRun.exists_outcomes`: what a run has of its tables.
* `ProjectRun.finished_of_generateProject`: what a whole run has written.
-/

namespace TableCodegen

open Run

/-! ## Specification -/

/-- What a run has of a table: what the catalog says about it, and the files written for it. -/
structure TableOutcome where
  table : Table
  files : List WrittenFile

namespace ProjectRun

variable (run : ProjectRun)

/-- The table is not passed over. -/
def generates (outcome : TableOutcome) : Bool :=
  !(run.entity outcome.table).fields.isEmpty

/-- The outcome of a table: a table without fields has no files; the first file of any other table is its route
document. -/
structure Outcome (outcome : TableOutcome) : Prop where
  read : ∃ calls, run.reader.Answers run.config.api.enableInitialism outcome.table.name calls outcome.table
  skipped : run.generates outcome = false → outcome.files = []
  generated : run.generates outcome = true → ∃ text models,
    renderRoutes (run.entity outcome.table) run.config.api run.validator run.formatter = .ok text ∧
      outcome.files = ⟨run.routePath outcome.table.name, text⟩ :: models ∧
      outcome.files.map (·.path) = run.tablePaths outcome.table.name

/-- What is written behind the tables: nothing, or the document that imports the route documents of the
generated tables, and the gists. -/
inductive Totals (names : List String) : List WrittenFile → Prop
  | nothing (h : names = []) : Totals names []
  | service {text : String} {gists : List WrittenFile} (h : names ≠ [])
      (hrender : renderService run.config.api (names.map run.routeFile) run.validator run.formatter = .ok text)
      (hgists : gists.map (·.path) = run.gistPaths) : Totals names (⟨run.servicePath, text⟩ :: gists)

/-- A run that is done: its outcomes, and the names of the tables that were passed over. -/
structure Finished (before after : RunState) (skipped : List String) (outcomes : List TableOutcome)
    (totals : List WrittenFile) : Prop where
  each : ∀ outcome ∈ outcomes, run.Outcome outcome
  names : outcomes.map (·.table.name) = run.config.tables
  passedOver : (outcomes.filter fun outcome => !run.generates outcome).map (·.table.name) = skipped
  behind : run.Totals ((outcomes.filter run.generates).map (·.table.name)) totals
  wrote : before.Wrote (outcomes.flatMap (·.files) ++ totals) after

/-! ## Tables -/

/-- What a run has of a table that it keeps. -/
def KeptTable.outcome (kept : KeptTable) : TableOutcome :=
  ⟨kept.table, kept.files.map (·.written)⟩

/-- What a run has of its tables, in order: nothing but the table of those that are passed over. -/
inductive Outcomes : List Table → List KeptTable → List TableOutcome → Prop
  | nil : Outcomes [] [] []
  | nothing {table : Table} {tables : List Table} {kept : List KeptTable} {outcomes : List TableOutcome}
      (hleft : run.leavesOut table = true) (rest : Outcomes tables kept outcomes) :
      Outcomes (table :: tables) kept (⟨table, []⟩ :: outcomes)
  | kept {one : KeptTable} {tables : List Table} {kept : List KeptTable} {outcomes : List TableOutcome}
      (hleft : run.leavesOut one.table = false) (rest : Outcomes tables kept outcomes) :
      Outcomes (one.table :: tables) (one :: kept) (one.outcome :: outcomes)

variable {run} {before after : RunState} {calls : List ReaderCall} {names : List String} {tables : List Table}
  {kept : List KeptTable} {outcomes : List TableOutcome}

theorem exists_outcomes (hkept : kept.map (·.table) = tables.filter fun table => !run.leavesOut table) :
    ∃ outcomes, run.Outcomes tables kept outcomes := by
  induction tables generalizing kept with
  | nil =>
    obtain rfl := List.map_eq_nil_iff.mp hkept
    exact ⟨[], .nil⟩
  | cons table tables ih =>
    cases hleft : run.leavesOut table with
    | true =>
      rw [List.filter_cons, hleft, if_neg (by decide)] at hkept
      obtain ⟨outcomes, h⟩ := ih hkept
      exact ⟨_, .nothing hleft h⟩
    | false =>
      rw [List.filter_cons, hleft, if_pos (by decide)] at hkept
      obtain ⟨one, kept, rfl, rfl, hrest⟩ := List.map_eq_cons_iff.mp hkept
      obtain ⟨outcomes, h⟩ := ih hrest
      exact ⟨_, .kept hleft h⟩

theorem generates_eq (outcome : TableOutcome) : run.generates outcome = !run.leavesOut outcome.table := by
  rw [generates, isEmpty_fields_entity]

theorem ReadsTables.exists_answers (h : run.ReadsTables calls names tables) : ∀ table ∈ tables,
    ∃ calls, run.reader.Answers run.config.api.enableInitialism table.name calls table := by
  induction h with
  | nil calls => exact List.forall_mem_nil _
  | @cons calls name names table tables hread _ ih =>
    obtain rfl := name_of_answers hread
    exact List.forall_mem_cons.mpr ⟨⟨calls, hread⟩, ih⟩

/-- The paths of the files of a table. -/
theorem TableFiles.paths_eq {table : Table} {files : List GeneratedFile} (h : run.TableFiles table files) :
    files.map (·.path) = run.tablePaths table.name := by
  cases h with
  | routes hmodel _ => simp [tablePaths, hmodel, routeOutput]
  | storage hmodel _ _ => simp [tablePaths, hmodel, routeOutput, modelOutput]

theorem TableFiles.exists_routes {table : Table} {files : List GeneratedFile} (h : run.TableFiles table files) :
    ∃ text models, renderRoutes (run.entity table) run.config.api run.validator run.formatter = .ok text ∧
      files = run.routeOutput table text :: models := by
  cases h with
  | routes _ hroutes => exact ⟨_, _, hroutes, rfl⟩
  | storage _ hroutes _ => exact ⟨_, _, hroutes, rfl⟩

theorem Keeps.outcome {one : KeptTable} (h : run.Keeps one) {calls : List ReaderCall}
    (hread : run.reader.Answers run.config.api.enableInitialism one.table.name calls one.table)
    (hleft : run.leavesOut one.table = false) : run.Outcome one.outcome := by
  refine ⟨⟨calls, hread⟩, fun hskip => ?_, fun _ => ?_⟩
  · rw [generates_eq] at hskip
    simp [KeptTable.outcome, hleft] at hskip
  · obtain ⟨text, models, hroutes, hfiles⟩ := h.files.exists_routes
    refine ⟨text, models.map (·.written), hroutes, ?_, ?_⟩
    · show one.files.map (·.written) = ⟨run.routePath one.table.name, text⟩ :: models.map (·.written)
      rw [hfiles, List.map_cons, written_routeOutput]
    · show (one.files.map (·.written)).map (·.path) = run.tablePaths one.table.name
      rw [← h.files.paths_eq, List.map_map]
      rfl

namespace Outcomes

variable (h : run.Outcomes tables kept outcomes)

include h

theorem tables_eq : outcomes.map (·.table) = tables := by
  induction h with
  | nil => rfl
  | nothing _ _ ih => rw [List.map_cons, ih]
  | kept _ _ ih => rw [List.map_cons, ih, KeptTable.outcome]

theorem files_eq : outcomes.flatMap (·.files) = (kept.flatMap (·.files)).map (·.written) := by
  induction h with
  | nil => rfl
  | nothing _ _ ih => rw [List.flatMap_cons, ih, List.nil_append]
  | kept _ _ ih => rw [List.flatMap_cons, List.flatMap_cons, List.map_append, ih, KeptTable.outcome]

/-- The tables that are not passed over are those that are kept. -/
theorem kept_eq : (outcomes.filter run.generates).map (·.table) = kept.map (·.table) := by
  induction h with
  | nil => rfl
  | nothing hleft _ ih => simp [generates_eq, hleft, ih]
  | kept hleft _ ih => simp [generates_eq, KeptTable.outcome, hleft, ih]

theorem skipped_eq :
    (outcomes.filter fun outcome => !run.generates outcome).map (·.table) = tables.filter run.leavesOut := by
  induction h with
  | nil => rfl
  | nothing hleft _ ih =>
    simp only [generates_eq, Bool.not_not] at ih
    simp [generates_eq, hleft, ih]
  | kept hleft _ ih =>
    simp only [generates_eq, Bool.not_not] at ih
    simp [generates_eq, KeptTable.outcome, hleft, ih]

theorem each (hread : ∀ table ∈ tables,
      ∃ calls, run.reader.Answers run.config.api.enableInitialism table.name calls table)
    (hkeeps : ∀ one ∈ kept, run.Keeps one) : ∀ outcome ∈ outcomes, run.Outcome outcome := by
  induction h with
  | nil => exact List.forall_mem_nil _
  | nothing hleft _ ih =>
    obtain ⟨⟨calls, hfirst⟩, hrest⟩ := List.forall_mem_cons.mp hread
    refine List.forall_mem_cons.mpr ⟨⟨⟨calls, hfirst⟩, fun _ => rfl, fun hgenerates => ?_⟩, ih hrest hkeeps⟩
    rw [generates_eq] at hgenerates
    simp [hleft] at hgenerates
  | kept hleft _ ih =>
    obtain ⟨⟨calls, hfirst⟩, hrest⟩ := List.forall_mem_cons.mp hread
    obtain ⟨hone, hkeeps⟩ := List.forall_mem_cons.mp hkeeps
    exact List.forall_mem_cons.mpr ⟨hone.outcome hfirst hleft, ih hrest hkeeps⟩

end Outcomes

/-! ## Whole runs -/

theorem TotalFiles.totals {totals : List GeneratedFile} (h : run.TotalFiles kept totals) :
    run.Totals (kept.map (·.table.name)) (totals.map (·.written)) := by
  cases h with
  | nothing hkept =>
    rw [hkept]
    exact .nothing rfl
  | service hkept hservice =>
    have himports : (kept.map (·.table.name)).map run.routeFile =
        kept.map fun one => run.routeFile one.table.name := List.map_map
    have hgists : ((GistKind.all.map (run.gistOutput (kept.map (·.gists)))).map (·.written)).map (·.path) =
        run.gistPaths := by
      rw [List.map_map, List.map_map]
      rfl
    rw [← himports] at hservice
    rw [List.map_cons, written_serviceOutput]
    exact .service (by simpa using hkept) hservice hgists

theorem Makes.finished {totals : List GeneratedFile} (h : run.Makes before tables kept totals after) :
    ∃ outcomes, run.Finished before after ((tables.filter run.leavesOut).map (·.name)) outcomes
      (totals.map (·.written)) := by
  obtain ⟨outcomes, houtcomes⟩ := exists_outcomes h.keptTables
  have hnames := congrArg (List.map (·.name)) houtcomes.kept_eq
  have hskipped := congrArg (List.map (·.name)) houtcomes.skipped_eq
  rw [List.map_map, List.map_map] at hnames
  rw [List.map_map] at hskipped
  refine ⟨outcomes, houtcomes.each h.read.exists_answers h.keeps, ?_, hskipped, ?_, ?_⟩
  · rw [← h.read.names_eq, ← houtcomes.tables_eq, List.map_map]
    rfl
  · exact hnames ▸ h.behind.totals
  · rw [houtcomes.files_eq, ← List.map_append]
    exact h.effect.wrote

/-- What a whole run has written. -/
theorem finished_of_generateProject {report : ProjectReport}
    (h : Returns (generateProject run) before report after) :
    ∃ prepared outcomes totals, prepared.written = before.written ∧
      run.Finished prepared after report.skipped outcomes totals ∧
      report.written = after.written.map (·.path) := by
  obtain ⟨prepared, tables, kept, totals, finished, hprepare, hmakes, hskipped, hwritten, rfl⟩ :=
    returns_generateProject h
  obtain ⟨outcomes, hfinished⟩ := hmakes.finished
  have hclosed : finished.Wrote [] { finished with calls := finished.calls ++ [.close] } := .nil rfl rfl
  have hwrote := hfinished.wrote.append hclosed
  rw [List.append_nil] at hwrote
  rw [hskipped]
  exact ⟨prepared, outcomes, _, (sameLog_of_prepare hprepare).written,
    ⟨hfinished.each, hfinished.names, hfinished.passedOver, hfinished.behind, hwrote⟩, hwritten⟩

namespace Finished

variable {skipped : List String} {outcomes : List TableOutcome} {totals : List WrittenFile}
  (h : run.Finished before after skipped outcomes totals)

include h

/-- The tables that were not passed over, told by the report. -/
theorem names_generated (htables : run.config.tables.Nodup) :
    (outcomes.filter run.generates).map (·.table.name) = run.config.tables.filter (· ∉ skipped) := by
  rw [← h.names] at htables ⊢
  rw [List.filter_map]
  refine congrArg _ (List.filter_congr fun outcome houtcome => ?_)
  have hmem : outcome.table.name ∈ skipped ↔ run.generates outcome = false := by
    rw [← h.passedOver, List.mem_map]
    constructor
    · rintro ⟨other, hother, hname⟩
      obtain ⟨hmem, hskip⟩ := List.mem_filter.mp hother
      have hsame : other = outcome := List.inj_on_of_nodup_map htables hmem houtcome hname
      rw [hsame] at hskip
      simpa using hskip
    · intro hskip
      exact ⟨outcome, List.mem_filter.mpr ⟨houtcome, by simp [hskip]⟩, rfl⟩
  simp [hmem]

/-- The paths of all files of the tables. -/
theorem paths_outcomes : (outcomes.flatMap (·.files)).map (·.path) =
    ((outcomes.filter run.generates).map (·.table.name)).flatMap run.tablePaths := by
  have hpaths : ∀ outcome ∈ outcomes, outcome.files.map (·.path) =
      if run.generates outcome then run.tablePaths outcome.table.name else [] := by
    intro outcome houtcome
    cases hgenerates : run.generates outcome with
    | true =>
      obtain ⟨-, -, -, -, hpaths⟩ := (h.each outcome houtcome).generated hgenerates
      exact hpaths
    | false =>
      rw [(h.each outcome houtcome).skipped hgenerates]
      rfl
  clear h
  induction outcomes with
  | nil => rfl
  | cons outcome outcomes ih =>
    obtain ⟨hfirst, hrest⟩ := List.forall_mem_cons.mp hpaths
    rw [List.flatMap_cons, List.map_append, hfirst, ih hrest]
    cases hgenerates : run.generates outcome <;> simp [hgenerates]

/-- The paths of all files of a run that had written nothing before. -/
theorem paths_eq (hbefore : before.written = []) : after.written.map (·.path) =
    ((outcomes.filter run.generates).map (·.table.name)).flatMap run.tablePaths ++ totals.map (·.path) := by
  rw [h.wrote.written, hbefore, List.nil_append, List.map_append, h.paths_outcomes]

end Finished

end ProjectRun

end TableCodegen
