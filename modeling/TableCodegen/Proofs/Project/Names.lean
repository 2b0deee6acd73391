import TableCodegen.Proofs.Document.DeclaredNames
import TableCodegen.Proofs.Project.Paths

/-!
# Names in the route files of a project

The service document of a project imports the route files of all tables that were not passed over, so that all
types and handlers that they declare stand side by side. They are named by the models alone: by the structures of
the tables, or all by the route name if settings give one.

Results:

* `ProjectRun.exists_imports`: the route documents of a run, and the document that imports them.
* `ProjectRun.modelName_entity`: what names the model of a table.
* `project_names_apart_iff`: when the route documents of a run declare no name twice.
-/

namespace TableCodegen

open Run

/-! ## Specification -/

/-- The entities are those of tables that the catalog gave; their route documents were written, and the document
that imports all of these. -/
structure ProjectRun.Imports (run : ProjectRun) (entities : List Entity) (written : List WrittenFile) : Prop where
  read : ∀ entity ∈ entities, ∃ table calls,
    run.reader.Answers run.config.api.enableInitialism entity.table calls table ∧ entity = run.entity table
  routes : ∀ entity ∈ entities, ∃ text,
    renderRoutes entity run.config.api run.validator run.formatter = .ok text ∧
      ⟨run.routePath entity.table, text⟩ ∈ written
  service : entities ≠ [] → ∃ text,
    renderService run.config.api (entities.map fun entity => run.routeFile entity.table) run.validator
        run.formatter = .ok text ∧
      ⟨run.servicePath, text⟩ ∈ written

/-- The handlers that the route documents of entities declare. -/
def declaredHandlers (api : ApiConfig) (entities : List Entity) : List String :=
  entities.flatMap fun entity => (RouteDocument.ofEntity entity api).routes.map (·.handler)

/-- The types that the route documents of entities declare. -/
def declaredTypes (api : ApiConfig) (entities : List Entity) : List String :=
  entities.flatMap fun entity => (RouteDocument.ofEntity entity api).declarations.map (·.name)

/-! ## Models -/

namespace ProjectRun

/-- The model of a table is named by its structure, unless settings name the route. -/
theorem modelName_entity (run : ProjectRun) (table : Table) : (run.entity table).modelName =
    if run.config.api.routeName = "" then (run.entity table).structName
    else Naming.camelName run.config.api.routeName := by
  unfold entity buildEntity
  by_cases hroute : run.config.api.routeName = ""
  · simp [hroute]
  · simp [hroute]

/-! ## Documents -/

variable {run : ProjectRun} {before after : RunState} {skipped : List String} {outcomes : List TableOutcome}
  {totals : List WrittenFile}

/-- The route documents of a run, and the document that imports them. -/
theorem Finished.imports (h : run.Finished before after skipped outcomes totals) :
    run.Imports ((outcomes.filter run.generates).map fun outcome => run.entity outcome.table) after.written := by
  have hwritten : after.written = before.written ++ (outcomes.flatMap (·.files) ++ totals) := h.wrote.written
  refine ⟨?_, ?_, fun hentities => ?_⟩
  · rw [List.forall_mem_map]
    intro outcome houtcome
    obtain ⟨calls, hanswers⟩ := (h.each outcome (List.mem_filter.mp houtcome).1).read
    exact ⟨outcome.table, calls, hanswers, rfl⟩
  · rw [List.forall_mem_map]
    intro outcome houtcome
    obtain ⟨hmem, hgenerates⟩ := List.mem_filter.mp houtcome
    obtain ⟨text, models, hrender, hfiles, -⟩ := (h.each outcome hmem).generated hgenerates
    have hfile : ⟨run.routePath outcome.table.name, text⟩ ∈ outcomes.flatMap (·.files) :=
      List.mem_flatMap.mpr ⟨outcome, hmem, by rw [hfiles]; exact List.mem_cons_self⟩
    refine ⟨text, hrender, ?_⟩
    rw [hwritten]
    exact List.mem_append_right _ (List.mem_append_left _ hfile)
  · have hnames : (outcomes.filter run.generates).map (·.table.name) ≠ [] := by
      simpa using hentities
    have hbehind := h.behind
    cases hbehind with
    | nothing hnone => exact absurd hnone hnames
    | @service text gists _ hrender _ =>
      refine ⟨text, ?_, ?_⟩
      · rw [List.map_map] at hrender ⊢
        exact hrender
      · rw [hwritten]
        exact List.mem_append_right _ (List.mem_append_right _ List.mem_cons_self)

/-- Every run has route documents, for the tables that its report does not pass over. -/
theorem exists_imports {report : ProjectReport} (hrun : Returns (generateProject run) before report after)
    (htables : run.config.tables.Nodup) : ∃ entities : List Entity,
      entities.map (·.table) = run.config.tables.filter (· ∉ report.skipped) ∧
        run.Imports entities after.written := by
  obtain ⟨prepared, outcomes, totals, -, hfinished, -⟩ := finished_of_generateProject hrun
  refine ⟨_, ?_, hfinished.imports⟩
  rw [List.map_map]
  exact hfinished.names_generated htables

/-- What a snapshot holds decides the entities of a run over it. -/
theorem Imports.entities_eq {snapshot : Snapshot} {config : ProjectConfig} {entities : List Entity}
    {written : List WrittenFile} (h : (snapshotRun snapshot config).Imports entities written) :
    entities = (entities.map (·.table)).map fun name =>
      (snapshotRun snapshot config).entity (snapshot.table config.api.enableInitialism name) := by
  rw [List.map_map]
  refine (List.map_id entities).symm.trans (List.map_congr_left fun entity hentity => ?_)
  obtain ⟨table, calls, hanswers, hentity⟩ := h.read entity hentity
  rw [Snapshot.answers_iff.mp hanswers] at hentity
  exact hentity

end ProjectRun

/-! ## Declared names -/

theorem declaredHandlers_eq (api : ApiConfig) (entities : List Entity) :
    declaredHandlers api entities = handlerNames entities :=
  List.flatMap_congr fun entity _ => entity.handlers_routes

theorem declaredTypes_eq (api : ApiConfig) (entities : List Entity) :
    declaredTypes api entities = typeNames entities :=
  List.flatMap_congr fun entity _ => RouteDocument.names_declarations entity api

/-! ## Runs -/

/-- **Declared names of a run.** The route files that the service document imports are those of the tables that
were not passed over. Their handlers have different names exactly when their models have, and no model of a
keyed table is another one with `List` behind it. Their types have different names exactly when, besides, no model
is named like a request or a response. No name at all comes twice exactly when, besides, no model is named
like a handler, and none is another one with the ending of a type behind it. -/
theorem project_names_apart_iff (run : ProjectRun) (before after : RunState) (report : ProjectReport)
    (hrun : Returns (generateProject run) before report after) (htables : run.config.tables.Nodup) :
    ∃ entities : List Entity, entities.map (·.table) = run.config.tables.filter (· ∉ report.skipped) ∧
      run.Imports entities after.written ∧
      (∀ entity ∈ entities, entity.modelName =
        if run.config.api.routeName = "" then entity.structName
        else Naming.camelName run.config.api.routeName) ∧
      ((declaredHandlers run.config.api entities).Nodup ↔ HandlersApart entities) ∧
      ((declaredTypes run.config.api entities).Nodup ↔ TypesApart entities) ∧
      ((declaredTypes run.config.api entities ++ declaredHandlers run.config.api entities).Nodup ↔
        NamesApart entities) := by
  obtain ⟨entities, hnames, himports⟩ := ProjectRun.exists_imports hrun htables
  refine ⟨entities, hnames, himports, fun entity hentity => ?_, ?_, ?_, ?_⟩
  · obtain ⟨table, -, -, rfl⟩ := himports.read entity hentity
    exact run.modelName_entity table
  · rw [declaredHandlers_eq, nodup_handlerNames_iff]
  · rw [declaredTypes_eq, nodup_typeNames_iff]
  · rw [declaredTypes_eq, declaredHandlers_eq, nodup_names_iff]

theorem two_documents_apart :
    (sampleRun [("user", numberTable), ("t_role", numberTable)]).config.tables.Nodup ∧
    ∃ report after entities, Returns (generateProject (sampleRun [("user", numberTable), ("t_role", numberTable)]))
        {} report after ∧ entities.map (·.table) = ["user", "t_role"] ∧
      (declaredTypes { serviceName := "s" } entities ++ declaredHandlers { serviceName := "s" } entities).Nodup := by
  have htables : (sampleRun [("user", numberTable), ("t_role", numberTable)]).config.tables.Nodup := by decide
  obtain ⟨report, after, hrun⟩ := exists_sampleRun [("user", numberTable), ("t_role", numberTable)]
    (by decide +kernel) (by decide +kernel)
  have hskipped := skipped_sampleRun hrun (by decide +kernel)
  obtain ⟨entities, hnames, himports, -, -, -, hnodup⟩ := project_names_apart_iff _ _ _ _ hrun htables
  rw [hskipped] at hnames
  refine ⟨htables, report, after, entities, hrun, hnames, hnodup.mpr ?_⟩
  rw [himports.entities_eq, hnames]
  decide +kernel

/-- A table with a key. -/
def keyTable : SnapshotTable where
  columns := [{ name := "n", ordinal := 1, dataType := "int", columnKey := "PRI" }]

/-- A row of the second model is read under the name under which rows of the first are listed. -/
theorem user_list_declared_twice :
    (sampleRun [("user", numberTable), ("user_list", keyTable)]).config.tables.Nodup ∧
    ∃ report after entities, Returns (generateProject (sampleRun [("user", numberTable), ("user_list", keyTable)]))
        {} report after ∧ entities.map (·.table) = ["user", "user_list"] ∧
      (sampleRun [("user", numberTable), ("user_list", keyTable)]).Imports entities after.written ∧
      (entities.map (·.structName)).Nodup ∧ ¬ (declaredTypes { serviceName := "s" } entities).Nodup ∧
      ¬ (declaredHandlers { serviceName := "s" } entities).Nodup := by
  obtain ⟨report, after, hrun⟩ := exists_sampleRun [("user", numberTable), ("user_list", keyTable)]
    (by decide +kernel) (by decide +kernel)
  have hskipped := skipped_sampleRun hrun (by decide +kernel)
  obtain ⟨entities, hnames, himports⟩ := ProjectRun.exists_imports hrun (by decide)
  rw [hskipped] at hnames
  have hentities := himports.entities_eq
  rw [hnames] at hentities
  refine ⟨by decide, report, after, entities, hrun, hnames, himports, ?_, ?_, ?_⟩
  · rw [hentities]
    decide +kernel
  · rw [hentities]
    decide +kernel
  · rw [hentities]
    decide +kernel

end TableCodegen
