import TableCodegen.Project
import TableCodegen.Proofs.Run.Fails
import TableCodegen.Proofs.Run.Written

/-!
# Tables of a project run

For each table a project run reads the catalog, renders and writes the route document, renders and writes the
storage model if settings ask for one, and renders the gists. It can be stopped at any of these steps; what it
has written by then stays. A table of which settings leave out all columns is read and passed over.

Results:

* `ProjectRun.returns_generateTable`: what a run has made of a table.
* `ProjectRun.fails_generateTable`: where a run can be stopped at a table, and what it has written by then.
* `ProjectRun.returns_mapM_generateTable`: what a run has made of many tables.
-/

namespace TableCodegen

open Run

/-! ## Specification -/

namespace ProjectRun

variable (run : ProjectRun)

/-- The name of the route file of a table. -/
def routeFile (name : String) : String :=
  (TableNames.ofTable run.config name).routeFile

/-- The path of the route file of a table. -/
def routePath (name : String) : String :=
  run.pathTo (run.routeFile name)

/-- The path of the storage model of a table. -/
def modelPath (name : String) : String :=
  Path.join (run.pathTo modelDirectory) (name ++ ".go")

/-- The paths of all files of a table. -/
def tablePaths (name : String) : List String :=
  run.routePath name :: if run.config.api.enableModel then [run.modelPath name] else []

/-- The entity of a table. -/
def entity (table : Table) : Entity :=
  buildEntity table (run.tableConfig table.name) run.config.api

/-- The storage view of a table. -/
def storage (table : Table) : List Field :=
  storageFields (buildFields (run.tableConfig table.name) table.columns)

/-- The storage model of a table. -/
def storageModel (table : Table) : ModelDocument :=
  ModelDocument.ofTable table (Naming.replaceInitialisms (run.entity table).structName) (run.storage table)
    (run.tableConfig table.name)

/-- Settings leave out all columns of the table, or it has none. -/
def leavesOut (table : Table) : Bool :=
  table.columns.all fun column => run.config.api.ignoreFields.contains column.name

/-- The route file of a table. -/
def routeOutput (table : Table) (text : String) : GeneratedFile :=
  ⟨"route file", run.routePath table.name, text⟩

/-- The file of the storage model of a table. -/
def modelOutput (table : Table) (text : String) : GeneratedFile :=
  ⟨"model", run.modelPath table.name, text⟩

@[simp] theorem written_routeOutput (table : Table) (text : String) :
    (run.routeOutput table text).written = ⟨run.routePath table.name, text⟩ := by
  rw [routeOutput, GeneratedFile.written]

/-- The gists of a table. -/
def TableGists (table : Table) (gists : Gists) : Prop :=
  renderGists (run.entity table) (run.storage table) run.formatter = .ok gists

/-- All files of a table: its route document and, where settings ask for it, its storage model. -/
inductive TableFiles (table : Table) : List GeneratedFile → Prop
  | routes {text : String} (hmodel : run.config.api.enableModel = false)
      (hroutes : renderRoutes (run.entity table) run.config.api run.validator run.formatter = .ok text) :
      TableFiles table [run.routeOutput table text]
  | storage {text model : String} (hmodel : run.config.api.enableModel = true)
      (hroutes : renderRoutes (run.entity table) run.config.api run.validator run.formatter = .ok text)
      (hstorage : (run.storageModel table).render run.formatter = .ok model) :
      TableFiles table [run.routeOutput table text, run.modelOutput table model]

/-- The files of a table at which a run was stopped. -/
inductive BrokenFiles (table : Table) : List GeneratedFile → Prop
  | nothing : BrokenFiles table []
  | routes {text : String}
      (hroutes : renderRoutes (run.entity table) run.config.api run.validator run.formatter = .ok text) :
      BrokenFiles table [run.routeOutput table text]
  | storage {text model : String} (hmodel : run.config.api.enableModel = true)
      (hroutes : renderRoutes (run.entity table) run.config.api run.validator run.formatter = .ok text)
      (hstorage : (run.storageModel table).render run.formatter = .ok model) :
      BrokenFiles table [run.routeOutput table text, run.modelOutput table model]

/-- A table that is not passed over, with its files and its gists. -/
structure KeptTable where
  table : Table
  files : List GeneratedFile
  gists : Gists

/-- The files and the gists are those of the table. -/
structure Keeps (kept : KeptTable) : Prop where
  files : run.TableFiles kept.table kept.files
  gists : run.TableGists kept.table kept.gists

/-- What is passed on of a table. -/
def KeptTable.passedOn (kept : KeptTable) : GeneratedTable :=
  ⟨run.routeFile kept.table.name, kept.gists⟩

/-- What a run passes on of a table, and its files. -/
inductive Made : Table → Option GeneratedTable → List GeneratedFile → Prop
  | nothing {table : Table} (hleft : run.leavesOut table = true) : Made table none []
  | kept {kept : KeptTable} (hleft : run.leavesOut kept.table = false) (hkeeps : run.Keeps kept) :
      Made kept.table (some (kept.passedOn run)) kept.files

/-- The tables as the catalog gives them one after the other, behind some other calls. -/
inductive ReadsTables : List ReaderCall → List String → List Table → Prop
  | nil (calls : List ReaderCall) : ReadsTables calls [] []
  | cons {calls : List ReaderCall} {name : String} {names : List String} {table : Table} {tables : List Table}
      (hread : run.reader.Answers run.config.api.enableInitialism name calls table)
      (rest : ReadsTables (calls ++ readerCalls name) names tables) :
      ReadsTables calls (name :: names) (table :: tables)

/-! ## Tables -/

theorem name_of_answers {reader : CatalogReader} {enableInitialism : Bool} {name : String}
    {calls : List ReaderCall} {table : Table} (h : reader.Answers enableInitialism name calls table) :
    table.name = name := by
  obtain ⟨-, -, -⟩ := h
  rfl

theorem ReadsTables.names_eq {run : ProjectRun} {calls : List ReaderCall} {names : List String}
    {tables : List Table} (h : run.ReadsTables calls names tables) : tables.map (·.name) = names := by
  induction h with
  | nil calls => rfl
  | cons hread _ ih => rw [List.map_cons, ih, name_of_answers hread]

/-- An entity has no fields exactly if settings leave out all columns. -/
theorem isEmpty_fields_entity (table : Table) : (run.entity table).fields.isEmpty = run.leavesOut table := by
  have hignored : ∀ name, (run.tableConfig table.name).isIgnored name = run.config.api.ignoreFields.contains name :=
    fun _ => rfl
  have hfields : (run.entity table).fields =
      (buildFields (run.tableConfig table.name) table.columns).map (Field.toApi (run.tableConfig table.name)) := rfl
  rw [hfields, buildFields, List.isEmpty_map, List.isEmpty_map, leavesOut]
  simp only [hignored]
  rw [Bool.eq_iff_iff, List.isEmpty_iff, List.filter_eq_nil_iff, List.all_eq_true]
  simp

variable {run} {before after : RunState} {failure : Failure}

theorem returns_writeRoutes {table : Table}
    (h : Returns (run.writeRoutes (run.routeFile table.name) (run.entity table)) before () after) :
    ∃ text, renderRoutes (run.entity table) run.config.api run.validator run.formatter = .ok text ∧
      before.Effect [] [run.routeOutput table text] after := by
  simp only [writeRoutes, returns_bind, returns_ofExcept] at h
  obtain ⟨text, _, ⟨hrender, rfl⟩, hwrite⟩ := h
  exact ⟨text, hrender, .writeFile hwrite⟩

theorem eq_of_fails_writeRoutes {routeFile : String} {entity : Entity}
    (h : Fails (run.writeRoutes routeFile entity) before failure after) : after = before := by
  simp only [writeRoutes, fails_bind, fails_ofExcept, returns_ofExcept] at h
  obtain ⟨-, rfl⟩ | ⟨text, _, ⟨-, rfl⟩, hwrite⟩ := h
  · rfl
  · exact eq_of_fails_writeFile hwrite

theorem returns_writeModel {table : Table}
    (h : Returns (run.writeModel table (run.entity table) (run.storage table) (run.tableConfig table.name))
      before () after) :
    ∃ model, (run.storageModel table).render run.formatter = .ok model ∧
      before.Effect [] [run.modelOutput table model] after := by
  simp only [writeModel, returns_bind, returns_ofExcept] at h
  obtain ⟨model, _, ⟨hrender, rfl⟩, hwrite⟩ := h
  exact ⟨model, hrender, .writeFile hwrite⟩

theorem eq_of_fails_writeModel {table : Table} {entity : Entity} {storage : List Field} {config : GenerationConfig}
    (h : Fails (run.writeModel table entity storage config) before failure after) : after = before := by
  simp only [writeModel, fails_bind, fails_ofExcept, returns_ofExcept] at h
  obtain ⟨-, rfl⟩ | ⟨text, _, ⟨-, rfl⟩, hwrite⟩ := h
  · rfl
  · exact eq_of_fails_writeFile hwrite

/-- What a run has made of a table. -/
theorem returns_generateTable {name : String} {result : Option GeneratedTable}
    (h : Returns (run.generateTable name) before result after) :
    ∃ table files, run.reader.Answers run.config.api.enableInitialism name before.calls table ∧
      run.Made table result files ∧ before.Effect (readerCalls name) files after := by
  unfold generateTable at h
  dsimp only at h
  rw [returns_bind] at h
  obtain ⟨table, middle, hread, h⟩ := h
  obtain ⟨hanswers, rfl⟩ := returns_readTable.mp hread
  obtain rfl := name_of_answers hanswers
  have hcalls := RunState.Effect.of_calls before (readerCalls table.name)
  have hentity : buildEntity table (run.tableConfig table.name) run.config.api = run.entity table := rfl
  rw [hentity, run.isEmpty_fields_entity] at h
  refine ⟨table, ?_⟩
  cases hleft : run.leavesOut table with
  | true =>
    rw [hleft, if_pos rfl] at h
    obtain ⟨rfl, rfl⟩ := returns_pure.mp h
    exact ⟨[], hanswers, .nothing hleft, hcalls⟩
  | false =>
    rw [hleft, if_neg (by decide), returns_bind] at h
    obtain ⟨_, routed, hroutes, h⟩ := h
    obtain ⟨text, hrender, hrouted⟩ := returns_writeRoutes hroutes
    cases hmodel : run.config.api.enableModel with
    | true =>
      rw [hmodel, if_pos rfl] at h
      simp only [returns_bind, returns_ofExcept, returns_pure] at h
      obtain ⟨_, modeled, hwrite, gists, _, ⟨hgists, rfl⟩, rfl, rfl⟩ := h
      obtain ⟨model, hstorage, hmodeled⟩ := returns_writeModel hwrite
      have hkeeps : run.Keeps ⟨table, _, gists⟩ := ⟨.storage hmodel hrender hstorage, hgists⟩
      exact ⟨_, hanswers, .kept hleft hkeeps, hcalls.append (hrouted.append hmodeled)⟩
    | false =>
      rw [hmodel, if_neg (by decide)] at h
      simp only [returns_bind, returns_ofExcept, returns_pure] at h
      obtain ⟨gists, _, ⟨hgists, rfl⟩, rfl, rfl⟩ := h
      have hkeeps : run.Keeps ⟨table, _, gists⟩ := ⟨.routes hmodel hrender, hgists⟩
      exact ⟨_, hanswers, .kept hleft hkeeps, hcalls.append hrouted⟩

/-- Where a run can be stopped at a table: at a call to the catalog, or at a step after the table was read. -/
theorem fails_generateTable {name : String} (h : Fails (run.generateTable name) before failure after) :
    (∃ made, run.reader.Refuses name before.calls made failure ∧
      { before with calls := before.calls ++ made } = after) ∨
    ∃ table files, run.reader.Answers run.config.api.enableInitialism name before.calls table ∧
      run.BrokenFiles table files ∧
      before.Effect (readerCalls name) files after := by
  unfold generateTable at h
  dsimp only at h
  rcases fails_bind.mp h with h | ⟨table, middle, hread, h⟩
  · exact Or.inl (fails_readTable.mp h)
  · right
    obtain ⟨hanswers, rfl⟩ := returns_readTable.mp hread
    obtain rfl := name_of_answers hanswers
    have hcalls := RunState.Effect.of_calls before (readerCalls table.name)
    refine ⟨table, ?_⟩
    have hentity : buildEntity table (run.tableConfig table.name) run.config.api = run.entity table := rfl
    rw [hentity] at h
    split at h
    · exact absurd h not_fails_pure
    · rcases fails_bind.mp h with h | ⟨_, routed, hroutes, h⟩
      · rw [eq_of_fails_writeRoutes h]
        exact ⟨[], hanswers, .nothing, hcalls⟩
      · obtain ⟨text, hrender, hrouted⟩ := returns_writeRoutes hroutes
        split at h
        · rename_i hmodel
          rcases fails_bind.mp h with h | ⟨_, modeled, hwrite, h⟩
          · rw [eq_of_fails_writeModel h]
            exact ⟨_, hanswers, .routes hrender, hcalls.append hrouted⟩
          · obtain ⟨model, hstorage, hmodeled⟩ := returns_writeModel hwrite
            rcases fails_bind.mp h with h | ⟨gists, _, -, h⟩
            · obtain ⟨-, rfl⟩ := fails_ofExcept.mp h
              exact ⟨_, hanswers, .storage hmodel hrender hstorage, hcalls.append (hrouted.append hmodeled)⟩
            · exact absurd h not_fails_pure
        · rcases fails_bind.mp h with h | ⟨gists, _, -, h⟩
          · obtain ⟨-, rfl⟩ := fails_ofExcept.mp h
            exact ⟨_, hanswers, .routes hrender, hcalls.append hrouted⟩
          · exact absurd h not_fails_pure

/-- What a run has made of many tables, one after the other. -/
theorem returns_mapM_generateTable {names : List String} {results : List (Option GeneratedTable)}
    (h : Returns (names.mapM run.generateTable) before results after) :
    ∃ (tables : List Table) (kept : List KeptTable), run.ReadsTables before.calls names tables ∧
      kept.map (·.table) = tables.filter (fun table => !run.leavesOut table) ∧ (∀ one ∈ kept, run.Keeps one) ∧
      (names.zip results).filterMap (·.2) = kept.map (·.passedOn run) ∧
      ((names.zip results).filter (·.2.isNone)).map (·.1) = (tables.filter run.leavesOut).map (·.name) ∧
      before.Effect (names.flatMap readerCalls) (kept.flatMap (·.files)) after := by
  induction names generalizing before results with
  | nil =>
    obtain ⟨rfl, rfl⟩ := returns_mapM_nil.mp h
    exact ⟨[], [], .nil _, rfl, List.forall_mem_nil _, rfl, rfl, .nil _⟩
  | cons name names ih =>
    obtain ⟨result, middle, rest, hfirst, hrest, rfl⟩ := returns_mapM_cons.mp h
    obtain ⟨table, files, hread, hmade, heffect⟩ := returns_generateTable hfirst
    obtain ⟨tables, kept, hreads, hkept, hkeeps, hpassed, hskipped, heffects⟩ := ih hrest
    rw [heffect.calls] at hreads
    have hname := name_of_answers hread
    cases hmade with
    | nothing hleft =>
      refine ⟨table :: tables, kept, .cons hread hreads, ?_, hkeeps, ?_, ?_, heffect.append heffects⟩
      · simp [hleft, hkept]
      · simp [hpassed]
      · simp [hleft, hskipped, hname]
    | @kept one hleft hone =>
      refine ⟨one.table :: tables, one :: kept, .cons hread hreads, ?_, List.forall_mem_cons.mpr ⟨hone, hkeeps⟩,
        ?_, ?_, heffect.append heffects⟩
      · simp [hleft, hkept]
      · simp [hpassed]
      · simp [hleft, hskipped]

end ProjectRun

end TableCodegen
