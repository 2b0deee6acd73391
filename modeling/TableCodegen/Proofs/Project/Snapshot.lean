import TableCodegen.Proofs.Project.Progress

/-!
# Project runs over snapshots

A snapshot answers the same whenever it is asked. With it as the catalog, with no check of documents and with
the formatter that changes nothing, the outcome of a project run is known beforehand.

Results:

* `Snapshot.answers_iff`: the table that a snapshot gives.
* `tables_of_finished`: the tables of a run over a snapshot.
* `exists_sampleRun`: a run over a sample snapshot gives a report.
-/

namespace TableCodegen

open Run

/-! ## Specification -/

/-- The table that a snapshot holds. -/
def Snapshot.table (snapshot : Snapshot) (enableInitialism : Bool) (name : String) : Table :=
  let rows := (snapshot.find? name).getD {}
  Table.ofRows enableInitialism name rows.comment rows.indexes rows.columns

/-- The run over a snapshot that checks nothing and formats nothing. -/
def snapshotRun (snapshot : Snapshot) (config : ProjectConfig) : ProjectRun where
  reader := snapshot.reader
  config := config
  formatter := .verbatim
  validator := fun _ => .ok ()

/-! ## Tables -/

theorem Snapshot.answers_iff {snapshot : Snapshot} {enableInitialism : Bool} {name : String}
    {calls : List ReaderCall} {table : Table} :
    snapshot.reader.Answers enableInitialism name calls table ↔ table = snapshot.table enableInitialism name := by
  constructor
  · rintro ⟨hcomment, hindexes, hcolumns⟩
    cases hcomment
    cases hindexes
    cases hcolumns
    rfl
  · rintro rfl
    exact .intro rfl rfl rfl

/-- The tables that a run gets from a snapshot. -/
theorem tables_of_readsTables {snapshot : Snapshot} {config : ProjectConfig} {calls : List ReaderCall}
    {names : List String} {tables : List Table}
    (h : (snapshotRun snapshot config).ReadsTables calls names tables) :
    tables = names.map (snapshot.table config.api.enableInitialism) := by
  induction h with
  | nil calls => rfl
  | cons hread _ ih =>
    rw [List.map_cons, ← ih, Snapshot.answers_iff.mp hread]
    rfl

theorem served_snapshotRun (snapshot : Snapshot) (config : ProjectConfig) :
    (snapshotRun snapshot config).Served where
  comment := fun _ _ => ⟨_, rfl⟩
  indexes := fun _ _ => ⟨_, rfl⟩
  columns := fun _ _ => ⟨_, rfl⟩
  close := fun _ => rfl
  formatter := fun _ => ⟨_, rfl⟩
  validator := fun _ => rfl

section

variable {snapshot : Snapshot} {config : ProjectConfig} {before after : RunState} {skipped : List String}
  {outcomes : List TableOutcome} {totals : List WrittenFile}
  (h : (snapshotRun snapshot config).Finished before after skipped outcomes totals)

include h

/-- The tables of a run over a snapshot. -/
theorem tables_of_finished :
    outcomes.map (·.table) = config.tables.map (snapshot.table config.api.enableInitialism) := by
  have htable : ∀ outcome ∈ outcomes,
      outcome.table = snapshot.table config.api.enableInitialism outcome.table.name := by
    intro outcome houtcome
    obtain ⟨calls, hanswers⟩ := (h.each outcome houtcome).read
    exact Snapshot.answers_iff.mp hanswers
  have hnames : config.tables = outcomes.map (·.table.name) := h.names.symm
  rw [hnames, List.map_map]
  exact List.map_congr_left htable

/-- No table of a run is passed over if the snapshot has fields for all of them. -/
theorem generates_of_finished (hfields : ∀ name ∈ config.tables,
    ((snapshotRun snapshot config).entity (snapshot.table config.api.enableInitialism name)).fields.isEmpty = false) :
    outcomes.filter (snapshotRun snapshot config).generates = outcomes ∧ skipped = [] := by
  have hall : ∀ outcome ∈ outcomes, (snapshotRun snapshot config).generates outcome = true := by
    intro outcome houtcome
    have hmem : outcome.table ∈ config.tables.map (snapshot.table config.api.enableInitialism) :=
      tables_of_finished h ▸ List.mem_map_of_mem houtcome
    obtain ⟨name, hname, htable⟩ := List.mem_map.mp hmem
    rw [ProjectRun.generates, ← htable, hfields name hname]
    rfl
  refine ⟨List.filter_eq_self.mpr hall, ?_⟩
  have hnone : (outcomes.filter fun outcome => !(snapshotRun snapshot config).generates outcome) = [] := by
    rw [List.filter_eq_nil_iff]
    intro outcome houtcome
    simp [hall outcome houtcome]
  rw [← h.passedOver, hnone]
  rfl

end

/-! ## Directories -/

/-- The empty tree with one directory. -/
def oneDirectory (name : String) : FileTree :=
  ⟨[([name], .directory)]⟩

theorem flat_oneDirectory {name : String} (h : FileTree.isGiven [name] = false) :
    (oneDirectory name).Flat name := by
  have hne : name ≠ ".." := by
    rintro rfl
    cases h
  refine ⟨?_, fun other => ?_⟩
  · unfold FileTree.entry?
    rw [if_neg (by simp [h]), oneDirectory, List.lookup_cons]
    simp
  · have hgiven : FileTree.isGiven [name, other] = false := by simp [FileTree.isGiven, hne]
    unfold FileTree.entry?
    rw [if_neg (by simp [hgiven]), oneDirectory, List.lookup_cons]
    simp

/-! ## Sample projects -/

/-- The snapshot of some tables. -/
def sampleSnapshot (entries : List (String × SnapshotTable)) : Snapshot :=
  entries.foldl (fun snapshot entry => snapshot.insert entry.1 entry.2) Snapshot.empty

/-- The run over some tables, with a table prefix. -/
def sampleRun (entries : List (String × SnapshotTable)) : ProjectRun :=
  snapshotRun (sampleSnapshot entries)
    { api := { serviceName := "s" }, dir := "out", tablePrefix := "t_", tables := entries.map (·.1) }

theorem exists_sampleRun (entries : List (String × SnapshotTable))
    (hlayout : (sampleRun entries).config.checkLayout = .ok ())
    (hroutes : ∀ name ∈ entries.map (·.1), Path.Below "out" ((sampleRun entries).routePath name)) :
    ∃ report after, Returns (generateProject (sampleRun entries)) {} report after := by
  have hserved : (sampleRun entries).Served := served_snapshotRun _ _
  have hmodel : (sampleRun entries).config.api.enableModel = false := rfl
  have hdir : (sampleRun entries).config.dir = "out" := rfl
  have hprefix : (sampleRun entries).config.tablePrefix = "t_" := rfl
  have hmade : ({} : RunState).files.makeDirectories (sampleRun entries).config.dir = .ok (oneDirectory "out") := by
    rw [hdir]
    decide
  have hflat : (oneDirectory "out").Flat "out" := flat_oneDirectory (by decide)
  have hservice : Path.Below "out" (sampleRun entries).servicePath := by
    rw [ProjectRun.servicePath, ProjectRun.pathTo, hdir, hprefix]
    decide +kernel
  have hgists : ∀ path ∈ (sampleRun entries).gistPaths, Path.Below "out" path := by
    simp only [ProjectRun.gistPaths, ProjectRun.pathTo, hdir]
    decide +kernel
  exact ProjectRun.exists_generateProject hserved hlayout hmodel (by decide) hmade hflat hroutes hservice hgists

theorem skipped_sampleRun {entries : List (String × SnapshotTable)} {before after : RunState}
    {report : ProjectReport} (hrun : Returns (generateProject (sampleRun entries)) before report after)
    (hfields : ∀ name ∈ entries.map (·.1),
      ((sampleRun entries).entity ((sampleSnapshot entries).table false name)).fields.isEmpty = false) :
    report.skipped = [] := by
  obtain ⟨prepared, outcomes, totals, -, hfinished, -⟩ := ProjectRun.finished_of_generateProject hrun
  exact (generates_of_finished hfinished hfields).2

end TableCodegen
