import TableCodegen.Proofs.Project.Calls
import TableCodegen.Proofs.Project.Paths
import TableCodegen.Proofs.Run.Leads

/-!
# Project runs that stop at a table

A project run writes as it goes, so that a run that stops at a table leaves files behind: those of the tables before
it and, at most, the first ones of the table itself. Nothing behind the tables is written. A run over the same
tables that is refused less goes through the same states up to there, and goes on.

Results:

* `ProjectRun.leads_generateAll`: runs that are refused less.
* `stopped_run_written`: what a run has written that stops at a table.
-/

namespace TableCodegen

open Run

/-! ## Specification -/

namespace ProjectRun

/-- The second run has the same settings, and its catalog, validator and formatter take what those of the first one
take, and may take more. -/
structure AnsweredBy (run other : ProjectRun) : Prop where
  config : other.config = run.config
  reader : run.reader.AnsweredBy other.reader
  validator : ∀ document, UpheldBy (run.validator document) (other.validator document)
  formatter : ∀ source, UpheldBy (run.formatter source) (other.formatter source)

/-- The run works off some tables and fails at the next one. -/
structure StopsAt (run : ProjectRun) (prepared : RunState) (done : List String) (name : String) (reached : RunState)
    (failure : Failure) (after : RunState) : Prop where
  tables : ∃ rest, run.config.tables = done ++ name :: rest
  passed : ∃ results, Returns (done.mapM run.generateTable) prepared results reached
  stopped : Fails (run.generateTable name) reached failure after

/-- What there is of a table at which a run stops: nothing, if the catalog refuses it. -/
inductive StoppedFiles (run : ProjectRun) (name : String) (calls : List ReaderCall) : List GeneratedFile → Prop
  | refused {made : List ReaderCall} {failure : Failure} (h : run.reader.Refuses name calls made failure) :
      StoppedFiles run name calls []
  | broken {table : Table} {files : List GeneratedFile}
      (hanswers : run.reader.Answers run.config.api.enableInitialism name calls table)
      (hfiles : run.BrokenFiles table files) : StoppedFiles run name calls files

/-- The file is one of those that come behind all tables. -/
def IsTotal (run : ProjectRun) (file : GeneratedFile) : Prop :=
  file.label = "aggregate route file" ∨ file.label = "gist" ∨ file.path ∈ run.gistPaths

end ProjectRun

/-! ## Documents -/

section

variable {validator other : RouteValidator} {formatter second : SourceFormatter}

theorem upheldBy_layOut (hformatter : ∀ source, UpheldBy (formatter source) (second source)) (document : String) :
    UpheldBy (layOut formatter document) (layOut second document) := by
  have hpiece : ∀ piece : Piece, UpheldBy (piece.text formatter) (piece.text second) := by
    intro piece text htext
    cases piece with
    | blank => exact htext
    | line depth line => exact htext
    | block source =>
      simp only [Piece.text, formatBlock] at htext ⊢
      cases hformat : formatter (String.ofList source) with
      | error failure =>
        rw [hformat] at htext
        cases htext
      | ok formatted =>
        rw [hformat] at htext
        rw [hformatter _ _ hformat]
        exact htext
  exact .bind (.mapM hpiece) fun _ => .refl _

theorem upheldBy_formatRoutes (hvalidator : ∀ document, UpheldBy (validator document) (other document))
    (hformatter : ∀ source, UpheldBy (formatter source) (second source)) (document : String) :
    UpheldBy (formatRoutes validator formatter document) (formatRoutes other second document) :=
  .bind (hvalidator document) fun _ => upheldBy_layOut hformatter document

theorem upheldBy_render (hformatter : ∀ source, UpheldBy (formatter source) (second source))
    (document : ModelDocument) : UpheldBy (document.render formatter) (document.render second) :=
  .bind (.inStep (hformatter _) _) fun _ => .refl _

theorem upheldBy_renderGists (hformatter : ∀ source, UpheldBy (formatter source) (second source)) (entity : Entity)
    (storage : List Field) :
    UpheldBy (renderGists entity storage formatter) (renderGists entity storage second) := by
  have hgist : ∀ kind, UpheldBy (entity.renderGist storage formatter kind) (entity.renderGist storage second kind) :=
    fun kind => .bind (.inStep (.inStep (hformatter _) _) _) fun _ => .refl _
  unfold renderGists
  split
  · exact .refl _
  · exact .bind (hgist _) fun _ => .bind (hgist _) fun _ => .bind (hgist _) fun _ => .bind (hgist _) fun _ => .refl _

end

/-! ## Runs side by side -/

namespace ProjectRun

theorem grows_writeRoutes (run : ProjectRun) (routeFile : String) (entity : Entity) :
    Grows (run.writeRoutes routeFile entity) :=
  .bind (.ofExcept _) fun _ => grows_writeFile _ _ _

theorem grows_writeModel (run : ProjectRun) (table : Table) (entity : Entity) (storage : List Field)
    (config : GenerationConfig) : Grows (run.writeModel table entity storage config) :=
  .bind (.ofExcept _) fun _ => grows_writeFile _ _ _

/-- What a run passes on of an entity, of which the files are written. -/
def passOn (run : ProjectRun) (name : String) (entity : Entity) (storage : List Field) :
    Run (Option GeneratedTable) := do
  return some ⟨run.routeFile name, ← Run.ofExcept (renderGists entity storage run.formatter)⟩

/-- What a run does with a table that it has read. -/
def workOff (run : ProjectRun) (name : String) (table : Table) : Run (Option GeneratedTable) := do
  let config := run.tableConfig name
  let entity := buildEntity table config run.config.api
  if entity.fields.isEmpty then return none
  run.writeRoutes (run.routeFile name) entity
  let storage := storageFields (buildFields config table.columns)
  if run.config.api.enableModel then
    run.writeModel table entity storage config
  run.passOn name entity storage

theorem generateTable_eq (run : ProjectRun) (name : String) :
    run.generateTable name = (do
      let table ← readTable run.reader run.config.api.enableInitialism name
      run.workOff name table) :=
  rfl

theorem grows_passOn (run : ProjectRun) (name : String) (entity : Entity) (storage : List Field) :
    Grows (run.passOn name entity storage) :=
  .bind (.ofExcept _) fun _ => .pure _

theorem grows_workOff (run : ProjectRun) (name : String) (table : Table) : Grows (run.workOff name table) := by
  unfold workOff
  dsimp only
  split
  · exact .pure none
  · refine .bind (run.grows_writeRoutes _ _) fun _ => ?_
    split
    · exact .bind (run.grows_writeModel _ _ _ _) fun _ => run.grows_passOn _ _ _
    · exact run.grows_passOn _ _ _

theorem grows_generateTable (run : ProjectRun) (name : String) : Grows (run.generateTable name) :=
  .bind (grows_readTable _ _ _) (run.grows_workOff name)

theorem grows_writeGists (run : ProjectRun) (files : List (String × String)) :
    Grows (forIn files PUnit.unit fun file _ => do
      writeFile "gist" (run.pathTo file.1) file.2
      return ForInStep.yield PUnit.unit) :=
  .forIn fun _ => grows_writeFile _ _ _

theorem grows_writeTotals (run : ProjectRun) (tables : List GeneratedTable) : Grows (run.writeTotals tables) := by
  unfold writeTotals
  dsimp only
  split
  · exact .bind (.ofExcept _) fun _ => .bind (grows_writeFile _ _ _) fun _ =>
      .bind (run.grows_writeGists _) fun _ => .pure _
  · exact .bind (run.grows_writeGists _) fun _ => .pure _

section

variable {run other : ProjectRun} (h : run.AnsweredBy other)

include h

theorem AnsweredBy.pathTo_eq : other.pathTo = run.pathTo := by
  funext name
  rw [pathTo, pathTo, h.config]

theorem AnsweredBy.routeFile_eq : other.routeFile = run.routeFile := by
  funext name
  rw [routeFile, routeFile, h.config]

theorem AnsweredBy.tableConfig_eq : other.tableConfig = run.tableConfig := by
  funext name
  rw [tableConfig, tableConfig, h.config]

theorem leads_writeRoutes (routeFile : String) (entity : Entity) :
    Leads (run.writeRoutes routeFile entity) (other.writeRoutes routeFile entity) := by
  unfold writeRoutes
  rw [h.config, h.pathTo_eq]
  exact .bind (.ofExcept (.inStep (upheldBy_formatRoutes h.validator h.formatter _) _)) (fun _ => .refl _) fun _ =>
    grows_writeFile _ _ _

theorem leads_writeModel (table : Table) (entity : Entity) (storage : List Field) (config : GenerationConfig) :
    Leads (run.writeModel table entity storage config) (other.writeModel table entity storage config) := by
  unfold writeModel
  rw [h.pathTo_eq]
  exact .bind (.ofExcept (upheldBy_render h.formatter _)) (fun _ => .refl _) fun _ => grows_writeFile _ _ _

theorem leads_passOn (name : String) (entity : Entity) (storage : List Field) :
    Leads (run.passOn name entity storage) (other.passOn name entity storage) := by
  unfold passOn
  rw [h.routeFile_eq]
  exact .bind (.ofExcept (upheldBy_renderGists h.formatter _ _)) (fun _ => .refl _) fun _ => .pure _

theorem leads_workOff (name : String) (table : Table) : Leads (run.workOff name table) (other.workOff name table) := by
  unfold workOff
  rw [h.config, h.tableConfig_eq, h.routeFile_eq]
  dsimp only
  split
  · exact .refl _
  · refine .bind (leads_writeRoutes h _ _) (fun _ => ?_) fun _ => ?_
    · split
      · exact .bind (leads_writeModel h _ _ _ _) (fun _ => leads_passOn h _ _ _) fun _ => other.grows_passOn _ _ _
      · exact leads_passOn h _ _ _
    · split
      · exact .bind (other.grows_writeModel _ _ _ _) fun _ => other.grows_passOn _ _ _
      · exact other.grows_passOn _ _ _

theorem leads_generateTable (name : String) : Leads (run.generateTable name) (other.generateTable name) := by
  rw [generateTable_eq, generateTable_eq, h.config]
  exact .bind (leads_readTable h.reader _ _) (leads_workOff h name) (other.grows_workOff name)

theorem leads_writeTotals (tables : List GeneratedTable) :
    Leads (run.writeTotals tables) (other.writeTotals tables) := by
  unfold writeTotals
  rw [h.config, h.pathTo_eq]
  dsimp only
  split
  · refine .bind (.ofExcept (.inStep (upheldBy_formatRoutes h.validator h.formatter _) _)) (fun _ => .refl _) ?_
    exact fun _ => .bind (grows_writeFile _ _ _) fun _ => .bind (run.grows_writeGists _) fun _ => .pure _
  · exact .refl _

theorem leads_generateAll : Leads run.generateAll other.generateAll := by
  unfold generateAll
  rw [h.config]
  refine .bind (.mapM (fun name => ?_) fun name => ?_) (fun results => ?_) fun results => ?_
  · exact .bind (leads_generateTable h name) (fun _ => .refl _) fun _ => .pure _
  · exact .bind (other.grows_generateTable name) fun _ => .pure _
  · exact .bind (leads_writeTotals h _) (fun _ => .refl _) fun _ => .pure _
  · exact .bind (other.grows_writeTotals _) fun _ => .pure _

end

/-! ## Runs that stop -/

variable {run : ProjectRun} {before prepared reached after : RunState} {done : List String} {name : String}
  {failure : Failure}

/-- What a run has written when it has failed. -/
theorem fails_generateProject (hlayout : run.config.checkLayout = .ok ())
    (hprepare : Returns run.prepare before () prepared) (hfails : Fails run.generateAll prepared failure after) :
    Fails (generateProject run) before failure { after with calls := after.calls ++ [.close] } := by
  unfold Fails
  rw [run_generateProject hlayout hprepare, run_closing, hfails]
  rfl

/-- A run that fails at its tables stops at the first table at which a step fails. -/
theorem exists_stopsAt (h : Fails (run.config.tables.mapM run.generateTable) prepared failure after) :
    ∃ done name reached, run.StopsAt prepared done name reached failure after := by
  obtain ⟨done, name, rest, results, reached, htables, hresults, hfails⟩ := fails_mapM.mp h
  exact ⟨done, name, reached, ⟨rest, htables⟩, ⟨results, hresults⟩, hfails⟩

theorem fails_generateAll (h : Fails (run.config.tables.mapM run.generateTable) prepared failure after) :
    Fails run.generateAll prepared failure after := by
  unfold generateAll
  rw [mapM_named]
  exact fails_bind.mpr (Or.inl (fails_bind.mpr (Or.inl h)))

theorem stoppedFiles_of_fails (h : Fails (run.generateTable name) reached failure after) :
    ∃ made partly, run.StoppedFiles name reached.calls partly ∧ reached.Effect made partly after := by
  rcases fails_generateTable h with ⟨made, hrefuses, rfl⟩ | ⟨table, files, hanswers, hbroken, heffect⟩
  · exact ⟨made, [], .refused hrefuses, .of_calls _ _⟩
  · exact ⟨_, files, .broken hanswers hbroken, heffect⟩

theorem not_isTotal {label path text : String} (hlabel : label = "route file" ∨ label = "model") {c : Char}
    (hend : Path.LastEnds c path) (hdot : c ≠ '.') (hc : c ≠ 't') : ¬ run.IsTotal ⟨label, path, text⟩ := by
  rintro (hservice | hgist | hpath)
  · dsimp only at hservice
    rw [hservice] at hlabel
    exact absurd hlabel (by decide)
  · dsimp only at hgist
    rw [hgist] at hlabel
    exact absurd hlabel (by decide)
  · exact Path.tellsLast_id.ne hdot (by decide) hc hend (run.lastEnds_gistPaths _ hpath) rfl

theorem not_isTotal_routeOutput (table : Table) (text : String) : ¬ run.IsTotal (run.routeOutput table text) := by
  rw [routeOutput]
  exact not_isTotal (Or.inl rfl) (run.lastEnds_routePath table.name) (by decide) (by decide)

theorem not_isTotal_modelOutput (table : Table) (text : String) : ¬ run.IsTotal (run.modelOutput table text) := by
  rw [modelOutput]
  exact not_isTotal (Or.inr rfl) (run.lastEnds_modelPath table.name) (by decide) (by decide)

theorem TableFiles.not_isTotal {table : Table} {files : List GeneratedFile} (h : run.TableFiles table files) :
    ∀ file ∈ files, ¬ run.IsTotal file := by
  cases h with
  | routes _ _ => simp [not_isTotal_routeOutput]
  | storage _ _ _ => simp [not_isTotal_routeOutput, not_isTotal_modelOutput]

theorem StoppedFiles.not_isTotal {calls : List ReaderCall} {files : List GeneratedFile}
    (h : run.StoppedFiles name calls files) : ∀ file ∈ files, ¬ run.IsTotal file := by
  cases h with
  | refused _ => exact List.forall_mem_nil _
  | broken _ hfiles =>
    cases hfiles with
    | nothing => exact List.forall_mem_nil _
    | routes _ => simp [not_isTotal_routeOutput]
    | storage _ _ _ => simp [not_isTotal_routeOutput, not_isTotal_modelOutput]

theorem AnsweredBy.prepare_eq {other : ProjectRun} (h : run.AnsweredBy other) : other.prepare = run.prepare := by
  unfold prepare
  rw [h.config, h.pathTo_eq]

end ProjectRun

/-- **Runs that stop at a table.** When a project run fails at its tables, it fails as a whole, whatever comes of
closing the catalog. What it has generated by then are all files of the tables before the first one that fails, in
order and without those that are passed over, and at most the first files of the one that fails; nothing that comes
behind all tables is among them. Any run over the same tables that is refused less writes the same files with the
same texts first, and perhaps more behind them. -/
theorem stopped_run_written (run : ProjectRun) (before prepared stopped : RunState) (failure : Failure)
    (hlayout : run.config.checkLayout = .ok ()) (hprepare : Returns run.prepare before () prepared)
    (hfails : Fails (run.config.tables.mapM run.generateTable) prepared failure stopped) :
    ∃ (done : List String) (name : String) (reached final : RunState) (tables : List Table)
      (kept : List ProjectRun.KeptTable) (partly : List GeneratedFile) (made : List ReaderCall),
      run.StopsAt prepared done name reached failure stopped ∧
      Fails (generateProject run) before failure final ∧
      run.ReadsTables prepared.calls done tables ∧
      kept.map (·.table) = tables.filter (fun table => !run.leavesOut table) ∧ (∀ one ∈ kept, run.Keeps one) ∧
      run.StoppedFiles name reached.calls partly ∧
      prepared.written = before.written ∧ prepared.Effect made (kept.flatMap (·.files) ++ partly) final ∧
      (∀ file ∈ kept.flatMap (·.files) ++ partly, ¬ run.IsTotal file) ∧
      ∀ other, run.AnsweredBy other → final.written <+: ((generateProject other).run before).2.written := by
  have hall := ProjectRun.fails_generateAll hfails
  obtain ⟨done, name, reached, hstops⟩ := ProjectRun.exists_stopsAt hfails
  obtain ⟨results, hresults⟩ := hstops.passed
  obtain ⟨tables, kept, hreads, hkept, hkeeps, -, -, hbefore⟩ := ProjectRun.returns_mapM_generateTable hresults
  obtain ⟨made, partly, hpartly, hlast⟩ := ProjectRun.stoppedFiles_of_fails hstops.stopped
  have hclosed := RunState.Effect.of_calls stopped [.close]
  have heffect := (hbefore.append hlast).append hclosed
  rw [List.append_nil] at heffect
  refine ⟨done, name, reached, _, tables, kept, partly, _, hstops,
    ProjectRun.fails_generateProject hlayout hprepare hall, hreads, hkept, hkeeps, hpartly,
    (ProjectRun.sameLog_of_prepare hprepare).written, heffect, ?_, fun other hother => ?_⟩
  · intro file hfile
    rcases List.mem_append.mp hfile with hfile | hfile
    · obtain ⟨one, hone, hfile⟩ := List.mem_flatMap.mp hfile
      exact (hkeeps one hone).files.not_isTotal file hfile
    · exact hpartly.not_isTotal file hfile
  · have hlayout : other.config.checkLayout = .ok () := hother.config ▸ hlayout
    have hprepare : Returns other.prepare before () prepared := hother.prepare_eq ▸ hprepare
    rw [ProjectRun.run_generateProject hlayout hprepare, run_closing]
    have hprefix := (ProjectRun.leads_generateAll hother).fails hall
    exact hprefix

/-- The sample run over two tables. -/
def rolesRun : ProjectRun :=
  sampleRun [("user", numberTable), ("t_role", numberTable)]

/-- The same run with a catalog that refuses the columns of the second table. -/
def deniedRun : ProjectRun where
  reader.comment := rolesRun.reader.comment
  reader.indexes := rolesRun.reader.indexes
  reader.columns calls name :=
    if name = "t_role" then .error (.ofText "denied") else rolesRun.reader.columns calls name
  reader.close := rolesRun.reader.close
  config := rolesRun.config
  formatter := rolesRun.formatter
  validator := rolesRun.validator

theorem answeredBy_rolesRun : deniedRun.AnsweredBy rolesRun where
  config := rfl
  reader.comment _ _ := .refl _
  reader.indexes _ _ := .refl _
  reader.columns calls name := by
    intro rows hrows
    simp only [deniedRun] at hrows
    split at hrows
    · cases hrows
    · exact hrows
  validator _ := .refl _
  formatter _ := .refl _

/-- What a run does with a table that it has read does not depend on its catalog. -/
theorem ProjectRun.workOff_congr {run other : ProjectRun} (hconfig : run.config = other.config)
    (hformatter : run.formatter = other.formatter) (hvalidator : run.validator = other.validator) :
    run.workOff = other.workOff := by
  obtain ⟨reader, config, formatter, validator⟩ := run
  obtain ⟨reader', config', formatter', validator'⟩ := other
  obtain rfl : config = config' := hconfig
  obtain rfl : formatter = formatter' := hformatter
  obtain rfl : validator = validator' := hvalidator
  rfl

theorem returns_user_deniedRun {before : RunState} (hflat : RunState.Flat "out" before) :
    ∃ result after, Returns (deniedRun.generateTable "user") before result after := by
  have hserved : rolesRun.Served := served_snapshotRun _ _
  have hroute : Path.Below "out" (rolesRun.routePath "user") := by decide +kernel
  obtain ⟨result, after, hreturns, -⟩ :=
    ProjectRun.succeeds_generateTable hserved (by decide) rfl hroute before hflat
  rw [ProjectRun.generateTable_eq] at hreturns ⊢
  obtain ⟨table, middle, hread, hrest⟩ := returns_bind.mp hreturns
  obtain ⟨⟨hcomment, hindexes, hcolumns⟩, hmiddle⟩ := returns_readTable.mp hread
  have hanswers : deniedRun.reader.Answers false "user" before.calls _ := .intro hcomment hindexes hcolumns
  have hsame : deniedRun.workOff = rolesRun.workOff := ProjectRun.workOff_congr rfl rfl rfl
  rw [hsame]
  exact ⟨result, after, returns_bind.mpr ⟨_, middle, returns_readTable.mpr ⟨hanswers, hmiddle⟩, hrest⟩⟩

theorem fails_role_deniedRun (before : RunState) :
    ∃ failure after, Fails (deniedRun.generateTable "t_role") before failure after :=
  ⟨_, _, fails_bind.mpr (Or.inl (fails_readTable.mpr ⟨_, .columns rfl rfl rfl, rfl⟩))⟩

theorem answers_user_deniedRun {calls : List ReaderCall} {table : Table}
    (h : deniedRun.reader.Answers false "user" calls table) :
    table.name = "user" ∧ deniedRun.leavesOut table = false := by
  obtain ⟨hcomment, hindexes, hcolumns⟩ := h
  have hanswers : rolesRun.reader.Answers false "user" calls _ := .intro hcomment hindexes hcolumns
  rw [Snapshot.answers_iff.mp hanswers]
  exact ⟨rfl, by decide +kernel⟩

/-- What the run has written when it stops. -/
theorem paths_deniedRun {calls made : List ReaderCall} {before final : RunState} {tables : List Table}
    {kept : List ProjectRun.KeptTable} {partly : List GeneratedFile}
    (hreads : deniedRun.ReadsTables before.calls ["user"] tables)
    (hkept : kept.map (·.table) = tables.filter fun table => !deniedRun.leavesOut table)
    (hkeeps : ∀ one ∈ kept, deniedRun.Keeps one) (hpartly : deniedRun.StoppedFiles "t_role" calls partly)
    (heffect : before.Effect made (kept.flatMap (·.files) ++ partly) final) (hbefore : before.written = []) :
    final.written.map (·.path) = [deniedRun.routePath "user"] := by
  have hnothing : partly = [] := by
    cases hpartly with
    | refused _ => rfl
    | broken hanswers _ =>
      obtain ⟨-, -, hcolumns⟩ := hanswers
      cases hcolumns
  cases hreads with
  | cons hread hrest =>
    obtain ⟨hname, hleft⟩ := answers_user_deniedRun hread
    cases hrest
    rw [List.filter_cons, hleft, if_pos (by decide), List.filter_nil, List.map_eq_singleton_iff] at hkept
    obtain ⟨one, rfl, rfl⟩ := hkept
    have hpaths := (hkeeps one List.mem_cons_self).files.paths_eq
    rw [hname] at hpaths
    rw [heffect.wrote.written, hbefore, hnothing, List.nil_append, List.append_nil, List.map_map]
    exact (congrArg _ (List.append_nil _)).trans hpaths

theorem second_table_denied :
    deniedRun.config.checkLayout = .ok () ∧
    ∃ prepared failure stopped final, Returns deniedRun.prepare {} () prepared ∧
      Fails (deniedRun.config.tables.mapM deniedRun.generateTable) prepared failure stopped ∧
      Fails (generateProject deniedRun) {} failure final ∧
      final.written.map (·.path) = [deniedRun.routePath "user"] ∧
      final.written <+: ((generateProject rolesRun).run {}).2.written := by
  have hlayout : deniedRun.config.checkLayout = .ok () := by decide
  have hprepare : Returns deniedRun.prepare {} () { files := oneDirectory "out" } := rfl
  have hflat : RunState.Flat "out" { files := oneDirectory "out" } := flat_oneDirectory (by decide)
  obtain ⟨result, reached, huser⟩ := returns_user_deniedRun hflat
  obtain ⟨failure, stopped, hrole⟩ := fails_role_deniedRun reached
  have hfirst : Returns (["user"].mapM deniedRun.generateTable) { files := oneDirectory "out" } [result] reached :=
    returns_mapM_cons.mpr ⟨result, reached, [], huser, returns_mapM_nil.mpr ⟨rfl, rfl⟩, rfl⟩
  have hfails : Fails (deniedRun.config.tables.mapM deniedRun.generateTable) { files := oneDirectory "out" } failure
      stopped := fails_mapM.mpr ⟨["user"], "t_role", [], [result], reached, rfl, hfirst, hrole⟩
  obtain ⟨done, name, there, final, tables, kept, partly, made, hstops, hfinal, hreads, hkept, hkeeps, hpartly,
    hprepared, heffect, -, hother⟩ := stopped_run_written deniedRun {} _ _ _ hlayout hprepare hfails
  refine ⟨hlayout, _, failure, stopped, final, hprepare, hfails, hfinal, ?_, hother rolesRun answeredBy_rolesRun⟩
  obtain ⟨rest, htables⟩ := hstops.tables
  have htables : ["user", "t_role"] = done ++ name :: rest := htables
  rcases done with _ | ⟨first, _ | ⟨second, done⟩⟩
  · obtain ⟨rfl, -⟩ := List.cons.inj htables
    obtain ⟨results, hpassed⟩ := hstops.passed
    obtain ⟨-, rfl⟩ := returns_mapM_nil.mp hpassed
    have hnot := hstops.stopped
    rw [Fails, huser] at hnot
    cases hnot
  · cases htables
    exact paths_deniedRun hreads hkept hkeeps hpartly heffect rfl
  · have hlength := congrArg List.length htables
    simp at hlength

end TableCodegen
