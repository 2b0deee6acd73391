import TableCodegen.Proofs.Document.Comments
import TableCodegen.Proofs.Layout.NestedOutline
import TableCodegen.Proofs.Project.Outcome

/-!
# Project runs that succeed

A project run fails only when something outside refuses: the catalog, the validator, the formatter or the files.
Here nothing does, and the directory of the project is one name.

Results:

* `exists_formatRoutes`, `exists_renderGists`: documents are rendered.
* `FileTree.Flat.exists_write`: a file in a directory of files is written.
* `ProjectRun.exists_generateProject`: the run gives a report.
-/

namespace TableCodegen

open Run

/-! ## Specification -/

/-- A catalog, a formatter and a validator that refuse nothing. -/
structure ProjectRun.Served (run : ProjectRun) : Prop where
  comment : ∀ calls name, ∃ text, run.reader.comment calls name = .ok text
  indexes : ∀ calls name, ∃ rows, run.reader.indexes calls name = .ok rows
  columns : ∀ calls name, ∃ rows, run.reader.columns calls name = .ok rows
  close : ∀ calls, run.reader.close calls = .ok ()
  formatter : ∀ source, ∃ text, run.formatter source = .ok text
  validator : ∀ document, run.validator document = .ok ()

/-- A directory that holds files only. -/
structure FileTree.Flat (tree : FileTree) (directory : String) : Prop where
  there : tree.entry? [directory] = some .directory
  files : ∀ name, tree.entry? [directory, name] ≠ some .directory

/-- The path of a file in a directory. -/
structure Path.Below (directory path : String) : Prop where
  segments : ∃ name ∈ (Path.segments path).getLast?, name ≠ ".." ∧ Path.segments path = [directory, name]
  closed : Path.endsOpen path = false
  nonempty : path.isEmpty = false

instance (directory path : String) : Decidable (Path.Below directory path) :=
  decidable_of_iff ((∃ name ∈ (Path.segments path).getLast?, name ≠ ".." ∧ Path.segments path = [directory, name]) ∧
      Path.endsOpen path = false ∧ path.isEmpty = false)
    ⟨fun h => ⟨h.1, h.2.1, h.2.2⟩, fun h => ⟨h.segments, h.closed, h.nonempty⟩⟩

/-- From every state of a kind, the run gives a value and ends in a state of this kind. -/
def Run.Succeeds {α : Type} (kind : RunState → Prop) (run : Run α) : Prop :=
  ∀ before, kind before → ∃ value after, Returns run before value after ∧ kind after

/-! ## Steps -/

namespace Run.Succeeds

variable {α β : Type} {kind : RunState → Prop}

theorem pure (a : α) : Succeeds kind (pure a) :=
  fun before h => ⟨a, before, returns_pure.mpr ⟨rfl, rfl⟩, h⟩

theorem bind {x : Run α} {f : α → Run β} (hx : Succeeds kind x) (hf : ∀ a, Succeeds kind (f a)) :
    Succeeds kind (x >>= f) := by
  intro before h
  obtain ⟨a, middle, ha, hmiddle⟩ := hx before h
  obtain ⟨b, after, hb, hafter⟩ := hf a middle hmiddle
  exact ⟨b, after, returns_bind.mpr ⟨a, middle, ha, hb⟩, hafter⟩

theorem ofExcept {result : Except Failure α} (h : ∃ a, result = .ok a) : Succeeds kind (ofExcept result) := by
  obtain ⟨a, ha⟩ := h
  exact fun before hbefore => ⟨a, before, returns_ofExcept.mpr ⟨ha, rfl⟩, hbefore⟩

theorem mapM {list : List α} {f : α → Run β} (h : ∀ a ∈ list, Succeeds kind (f a)) :
    Succeeds kind (list.mapM f) := by
  induction list with
  | nil => exact pure []
  | cons a list ih =>
    obtain ⟨ha, hlist⟩ := List.forall_mem_cons.mp h
    intro before hbefore
    obtain ⟨result, middle, hresult, hmiddle⟩ := ha before hbefore
    obtain ⟨rest, after, hrest, hafter⟩ := ih hlist middle hmiddle
    exact ⟨_, after, returns_mapM_cons.mpr ⟨result, middle, rest, hresult, hrest, rfl⟩, hafter⟩

theorem forIn {list : List α} {f : α → Run Unit} (h : ∀ a ∈ list, Succeeds kind (f a)) :
    Succeeds kind (forIn list PUnit.unit fun a _ => do
      f a
      return ForInStep.yield PUnit.unit) := by
  induction list with
  | nil => exact fun before hbefore => ⟨PUnit.unit, before, returns_forIn_nil.mpr rfl, hbefore⟩
  | cons a list ih =>
    obtain ⟨ha, hlist⟩ := List.forall_mem_cons.mp h
    intro before hbefore
    obtain ⟨_, middle, hstep, hmiddle⟩ := ha before hbefore
    obtain ⟨_, after, hrest, hafter⟩ := ih hlist middle hmiddle
    exact ⟨_, after, returns_forIn_cons.mpr ⟨middle, hstep, hrest⟩, hafter⟩

end Run.Succeeds

/-! ## Documents -/

theorem exists_formatRoutes {validator : RouteValidator} {formatter : SourceFormatter}
    (hvalidator : ∀ document, validator document = .ok ())
    (hformatter : ∀ source, ∃ text, formatter source = .ok text) (document : String) :
    ∃ text, formatRoutes validator formatter document = .ok text := by
  obtain ⟨texts, htexts⟩ := exists_mapM_text (pieces document.toList) fun source _ => hformatter source
  rw [formatRoutes_of_ok (hvalidator document), layOut, htexts]
  exact ⟨_, rfl⟩

theorem exists_inStep {α : Type} {result : Except Failure α} (h : ∃ a, result = .ok a) (step : String) :
    ∃ a, inStep step result = .ok a := by
  obtain ⟨a, rfl⟩ := h
  exact ⟨a, rfl⟩

/-- The gists of an entity whose two views have the same number of fields. -/
theorem exists_renderGists {entity : Entity} {storage : List Field} {formatter : SourceFormatter}
    (hlength : entity.fields.length = storage.length)
    (hformatter : ∀ source, ∃ text, formatter source = .ok text) :
    ∃ gists, renderGists entity storage formatter = .ok gists := by
  have hgist : ∀ kind, ∃ text, entity.renderGist storage formatter kind = .ok text := by
    intro kind
    obtain ⟨text, htext⟩ := hformatter (entity.gistText storage kind)
    refine ⟨String.ofList (Text.trimEnd text.toList), ?_⟩
    unfold Entity.renderGist
    dsimp only
    rw [htext]
    rfl
  obtain ⟨api, hapi⟩ := hgist .convertApi
  obtain ⟨rpc, hrpc⟩ := hgist .convertRpc
  obtain ⟨update, hupdate⟩ := hgist .updateMap
  obtain ⟨filter, hfilter⟩ := hgist .filter
  refine ⟨⟨api, rpc, update, filter⟩, ?_⟩
  unfold renderGists
  rw [if_neg (by simp [hlength]), hapi, hrpc, hupdate, hfilter]
  rfl

/-! ## Files -/

namespace FileTree.Flat

variable {tree : FileTree} {directory : String} (h : tree.Flat directory)

include h

theorem set {name : String} (text : String) : (tree.set [directory, name] (.file (some text))).Flat directory := by
  have hplace : ∀ other, [directory, other] = [directory, name] ∨ [directory, other] ≠ [directory, name] :=
    fun other => em _
  refine ⟨?_, fun other => ?_⟩
  · rw [entry?_set_of_ne (by simp)]
    exact h.there
  · rcases hplace other with hsame | hother
    · rw [hsame, entry?_set_self (h.files name)]
      simp
    · rw [entry?_set_of_ne hother]
      exact h.files other

/-- A text is written to a path below the directory. -/
theorem exists_write {path : String} (hpath : Path.Below directory path) (hup : directory ≠ "..")
    (text : String) : ∃ files, tree.write path text = .ok files ∧ files.Flat directory := by
  obtain ⟨name, -, hname, hsegments⟩ := hpath.segments
  have hfound : tree.locate (Path.segments path) = .ok ([directory], some name) := by
    have hdrop : [directory, name].dropLast = [directory] := rfl
    have hlast : [directory, name].getLast? = some name := rfl
    have henter : tree.enter [] [directory] = .ok [directory] := by
      rw [enter, if_neg hup, List.nil_append, h.there]
      rfl
    rw [hsegments, locate, hdrop, hlast, henter]
    show Except.ok ([directory], if name = ".." then none else some name) = _
    rw [if_neg hname]
  refine ⟨_, (write_of_locate hpath.nonempty hfound text _).mpr ⟨?_, rfl⟩, h.set text⟩
  rw [settable, hpath.closed]
  simpa using h.files name

end FileTree.Flat

/-! ## Runs -/

section

variable {directory : String}

/-- States in which the directory of a project holds files only. -/
def RunState.Flat (directory : String) (state : RunState) : Prop :=
  state.files.Flat directory

theorem succeeds_writeFile (hup : directory ≠ "..") {path : String} (hpath : Path.Below directory path)
    (label text : String) : Succeeds (RunState.Flat directory) (writeFile label path text) := by
  intro before hbefore
  obtain ⟨files, hwrite, hflat⟩ := hbefore.exists_write hpath hup text
  exact ⟨(), _, returns_writeFile.mpr ⟨files, hwrite, rfl⟩, hflat⟩

namespace ProjectRun

variable {run : ProjectRun} (hserved : run.Served)

include hserved

theorem succeeds_readTable (name : String) : Succeeds (RunState.Flat directory)
    (readTable run.reader run.config.api.enableInitialism name) := by
  intro before hbefore
  obtain ⟨comment, hcomment⟩ := hserved.comment before.calls name
  obtain ⟨indexRows, hindexes⟩ := hserved.indexes (before.calls ++ [.comment name]) name
  obtain ⟨columnRows, hcolumns⟩ := hserved.columns (before.calls ++ [.comment name] ++ [.indexes name]) name
  exact ⟨_, _, returns_readTable.mpr ⟨.intro hcomment hindexes hcolumns, rfl⟩, hbefore⟩

theorem succeeds_generateTable (hup : directory ≠ "..") (hmodel : run.config.api.enableModel = false)
    {name : String} (hroute : Path.Below directory (run.routePath name)) :
    Succeeds (RunState.Flat directory) (run.generateTable name) := by
  have hroutes : ∀ entity, Succeeds (RunState.Flat directory) (run.writeRoutes (run.routeFile name) entity) :=
    fun entity => .bind (.ofExcept (exists_inStep (exists_formatRoutes hserved.validator hserved.formatter _) _))
      fun text => succeeds_writeFile hup hroute _ text
  refine .bind (succeeds_readTable hserved name) fun table => ?_
  have hlength : (buildEntity table (run.tableConfig name) run.config.api).fields.length =
      (storageFields (buildFields (run.tableConfig name) table.columns)).length := by
    rw [storageFields, List.length_map]
    exact List.length_map _
  dsimp only
  split
  · exact .pure none
  · refine .bind (hroutes _) fun _ => ?_
    rw [if_neg (by simp [hmodel])]
    exact .bind (.ofExcept (exists_renderGists hlength hserved.formatter)) fun gists => .pure _

theorem succeeds_writeTotals (hup : directory ≠ "..") (hservice : Path.Below directory run.servicePath)
    (hgists : ∀ path ∈ run.gistPaths, Path.Below directory path) (tables : List GeneratedTable) :
    Succeeds (RunState.Flat directory) (run.writeTotals tables) := by
  have hfile : ∀ file ∈ (⟨tables.map (·.gists)⟩ : GistSet).files, Path.Below directory (run.pathTo file.1) := by
    intro file hfile
    unfold GistSet.files at hfile
    split at hfile
    · cases hfile
    · obtain ⟨kind, hkind, rfl⟩ := List.mem_map.mp hfile
      exact hgists _ (List.mem_map_of_mem hkind)
  have hloop := Succeeds.forIn fun file hmem => succeeds_writeFile hup (hfile file hmem) "gist" file.2
  unfold writeTotals
  dsimp only
  split
  · refine .bind (.ofExcept (exists_inStep (exists_formatRoutes hserved.validator hserved.formatter _) _))
      fun text => ?_
    refine .bind (succeeds_writeFile hup hservice _ text) fun _ => ?_
    exact .bind hloop fun _ => .pure _
  · exact .bind hloop fun _ => .pure _

/-- A run that nothing refuses gives a report. -/
theorem exists_generateProject (hlayout : run.config.checkLayout = .ok ())
    (hmodel : run.config.api.enableModel = false) {before : RunState} {files : FileTree} (hup : directory ≠ "..")
    (hmade : before.files.makeDirectories run.config.dir = .ok files) (hflat : files.Flat directory)
    (hroutes : ∀ name ∈ run.config.tables, Path.Below directory (run.routePath name))
    (hservice : Path.Below directory run.servicePath)
    (hgists : ∀ path ∈ run.gistPaths, Path.Below directory path) :
    ∃ report after, Returns (generateProject run) before report after := by
  have hprepare : Returns run.prepare before () { before with files := files } := by
    unfold prepare
    dsimp only
    rw [if_neg (by simp [hmodel])]
    exact returns_bind.mpr ⟨(), _, returns_inStep.mpr (returns_makeDirectories.mpr ⟨files, hmade, rfl⟩),
      returns_pure.mpr ⟨rfl, rfl⟩⟩
  have hall : Succeeds (RunState.Flat directory) run.generateAll := by
    refine .bind (.mapM fun name hname => ?_) fun results => ?_
    · exact .bind (succeeds_generateTable hserved hup hmodel (hroutes name hname)) fun _ => .pure _
    · exact .bind (succeeds_writeTotals hserved hup hservice hgists _) fun _ => .pure _
  obtain ⟨skipped, middle, hreturns, -⟩ := hall { before with files := files } hflat
  have hclosing := returns_closing.mpr ⟨middle, hreturns, hserved.close middle.calls, rfl⟩
  refine ⟨⟨middle.written.map (·.path), skipped⟩, { middle with calls := middle.calls ++ [.close] }, ?_⟩
  unfold generateProject
  simp only [returns_bind, returns_ofExcept, returns_pure, returns_get]
  exact ⟨(), before, ⟨by rw [hlayout]; rfl, rfl⟩, (), _, hprepare, skipped, _, hclosing, _, _, ⟨rfl, rfl⟩, rfl,
    rfl⟩

end ProjectRun

end

end TableCodegen
