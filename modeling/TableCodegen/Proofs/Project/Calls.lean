import TableCodegen.Proofs.Project.Whole
import TableCodegen.Proofs.Run.Moves

/-!
# Calls to the catalog

A run asks the catalog about one table after the other, for the comment, the indexes and the columns of each. It
stops asking at the first refusal, or behind the first table that it cannot work off, and then closes the
catalog, once and as its last call. What went wrong before counts more than a failure to close.

Results:

* `ProjectRun.exists_readsInTurn`: the calls of a project run up to the end of its tables.
* `ProjectRun.quiet_writeTotals`: there are none behind the tables.
* `catalog_calls`: the calls of conversions and project runs, and what they give in the end.
-/

namespace TableCodegen

open Run

/-! ## Specification -/

/-- The calls for a table behind some other calls, up to the first refusal, and what comes of the reading. -/
inductive CatalogReader.Reads (reader : CatalogReader) (enableInitialism : Bool) (name : String)
    (calls : List ReaderCall) : List ReaderCall → Except Failure Table → Prop
  | refused {made : List ReaderCall} {failure : Failure} (h : reader.Refuses name calls made failure) :
      reader.Reads enableInitialism name calls made (.error failure)
  | answered {table : Table} (h : reader.Answers enableInitialism name calls table) :
      reader.Reads enableInitialism name calls (readerCalls name) (.ok table)

/-- What a conversion makes of a table that it has read. -/
def conversion (config : GenerationConfig) (formatter : SourceFormatter) (table : Table) : Except Failure String :=
  if (buildFields config table.columns).isEmpty then
    .error (.ofText ("table \x60" ++ Text.trimmed config.db.table ++ "\x60 has no columns to convert"))
  else
    (ModelDocument.ofTable table (structName config table.name) (buildFields config table.columns) config).render
      formatter

namespace ProjectRun

/-- The calls for tables one after the other, from one state to another, and the failure that ends them. The last
table asked for is the first one that is refused or that the run cannot work off. -/
inductive ReadsInTurn (run : ProjectRun) :
    RunState → List String → List ReaderCall → Option Failure → RunState → Prop
  | done (state : RunState) : ReadsInTurn run state [] [] none state
  | refused {before after : RunState} {name : String} {names : List String} {made : List ReaderCall}
      {failure : Failure} (hrefuses : run.reader.Refuses name before.calls made failure)
      (hfails : Fails (run.generateTable name) before failure after) :
      ReadsInTurn run before (name :: names) made (some failure) after
  | broken {before after : RunState} {name : String} {names : List String} {table : Table} {failure : Failure}
      (hanswers : run.reader.Answers run.config.api.enableInitialism name before.calls table)
      (hfails : Fails (run.generateTable name) before failure after) :
      ReadsInTurn run before (name :: names) (readerCalls name) (some failure) after
  | next {before middle after : RunState} {name : String} {names : List String} {table : Table}
      {result : Option GeneratedTable} {made : List ReaderCall} {failure : Option Failure}
      (hanswers : run.reader.Answers run.config.api.enableInitialism name before.calls table)
      (hreturns : Returns (run.generateTable name) before result middle)
      (rest : ReadsInTurn run middle names made failure after) :
      ReadsInTurn run before (name :: names) (readerCalls name ++ made) failure after

end ProjectRun

/-- What a run gives that closes the catalog behind its body: the failure of the body, or else that of closing, or
else the value of the body, which `view` finds in the run's own. -/
structure ClosesOver {α β : Type} (view : β → α) (body : Except Failure α) (closed : Except Failure Unit)
    (result : Except Failure β) : Prop where
  ofBody : ∀ failure, body = .error failure → result = .error failure
  ofClosing : ∀ value cause, body = .ok value → closed = .error cause → result = .error (cause.within closeStep)
  ofValue : ∀ value, body = .ok value → closed = .ok () → ∃ final, result = .ok final ∧ view final = value

/-! ## Conversions -/

theorem ClosesOver.of_bind {α β : Type} {view : β → α} {body : Except Failure α} {closed : Except Failure Unit}
    {result : Except Failure β} (report : α → β) (hview : ∀ value, view (report value) = value)
    (h : result = (body.bind fun value => (inStep closeStep closed).map fun _ => value).map report) :
    ClosesOver view body closed result := by
  subst h
  refine ⟨?_, ?_, ?_⟩
  · rintro failure rfl
    rfl
  · rintro value cause rfl rfl
    rfl
  · rintro value rfl rfl
    exact ⟨report value, rfl, hview value⟩

theorem exists_reads (reader : CatalogReader) (enableInitialism : Bool) (name : String) (before : RunState) :
    ∃ made read, reader.Reads enableInitialism name before.calls made read ∧
      (readTable reader enableInitialism name).run before =
        (read, { before with calls := before.calls ++ made }) := by
  rcases returns_or_fails (readTable reader enableInitialism name) before with ⟨table, after, h⟩ |
    ⟨failure, after, h⟩
  · obtain ⟨hanswers, rfl⟩ := returns_readTable.mp h
    exact ⟨_, _, .answered hanswers, h⟩
  · obtain ⟨made, hrefuses, rfl⟩ := fails_readTable.mp h
    exact ⟨made, _, .refused hrefuses, h⟩

/-- What a conversion does behind the reading of its table is no step of the run. -/
theorem convertTable_eq (reader : CatalogReader) (config : GenerationConfig) (formatter : SourceFormatter) :
    convertTable reader config formatter = (do
      Run.ofExcept (config.check.mapError fun fault => .ofCause (.config fault))
      closing reader do
        let table ← readTable reader config.enableInitialism (Text.trimmed config.db.table)
        Run.ofExcept (conversion config formatter table)) := by
  have hrest : ∀ table : Table, (if (buildFields config table.columns).isEmpty then do
        throw (.ofText ("table \x60" ++ Text.trimmed config.db.table ++ "\x60 has no columns to convert"))
        Run.ofExcept ((ModelDocument.ofTable table (structName config table.name) (buildFields config table.columns)
          config).render formatter)
      else
        Run.ofExcept ((ModelDocument.ofTable table (structName config table.name) (buildFields config table.columns)
          config).render formatter)) = Run.ofExcept (conversion config formatter table) := by
    intro table
    unfold conversion
    split <;> rfl
  simp only [← hrest]
  rfl

/-- A conversion reads its table, works it off without the catalog, and closes the catalog. -/
theorem run_convertTable {reader : CatalogReader} {config : GenerationConfig} (formatter : SourceFormatter)
    {before : RunState} (hcheck : config.check = .ok ()) {made : List ReaderCall} {read : Except Failure Table}
    (hread : (readTable reader config.enableInitialism (Text.trimmed config.db.table)).run before =
      (read, { before with calls := before.calls ++ made })) :
    (convertTable reader config formatter).run before =
      ((read.bind (conversion config formatter)).bind fun value =>
        (inStep closeStep (reader.close (before.calls ++ made))).map fun _ => value,
      { before with calls := before.calls ++ made ++ [.close] }) := by
  have hchecked : Returns (Run.ofExcept (config.check.mapError fun fault => .ofCause (.config fault))) before ()
      before := returns_ofExcept.mpr ⟨by rw [hcheck]; rfl, rfl⟩
  rw [convertTable_eq, hchecked.run_bind, run_closing]
  cases read with
  | error failure =>
    rw [Fails.run_bind hread]
    rfl
  | ok table =>
    rw [Returns.run_bind hread]
    rfl

/-! ## Projects -/

namespace ProjectRun

variable {run : ProjectRun}

/-- What a list of tables has asked the catalog for, and the failure that it stops with. -/
theorem exists_readsInTurn (run : ProjectRun) (names : List String) (before : RunState) :
    ∃ made failure after, run.ReadsInTurn before names made failure after ∧ after.calls = before.calls ++ made ∧
      (failure = none → ∃ results, Returns (names.mapM run.generateTable) before results after) ∧
      ∀ cause, failure = some cause → Fails (names.mapM run.generateTable) before cause after := by
  induction names generalizing before with
  | nil =>
    refine ⟨[], none, before, .done before, (List.append_nil _).symm, fun _ => ?_, nofun⟩
    exact ⟨[], returns_mapM_nil.mpr ⟨rfl, rfl⟩⟩
  | cons name names ih =>
    have hstop : ∀ {failure after}, Fails (run.generateTable name) before failure after →
        Fails ((name :: names).mapM run.generateTable) before failure after := fun hfails =>
      fails_mapM.mpr ⟨[], name, names, [], before, rfl, returns_mapM_nil.mpr ⟨rfl, rfl⟩, hfails⟩
    rcases returns_or_fails (run.generateTable name) before with ⟨result, middle, hfirst⟩ |
      ⟨failure, after, hfirst⟩
    · obtain ⟨table, files, hanswers, -, heffect⟩ := returns_generateTable hfirst
      obtain ⟨made, failure, after, hreads, hcalls, hdone, hstopped⟩ := ih middle
      refine ⟨_, failure, after, .next hanswers hfirst hreads, ?_, fun hnone => ?_, fun cause hcause => ?_⟩
      · rw [hcalls, heffect.calls, List.append_assoc]
      · obtain ⟨results, hrest⟩ := hdone hnone
        exact ⟨_, returns_mapM_cons.mpr ⟨result, middle, results, hfirst, hrest, rfl⟩⟩
      · obtain ⟨done, a, rest, results, state, rfl, hresults, ha⟩ := fails_mapM.mp (hstopped cause hcause)
        exact fails_mapM.mpr ⟨name :: done, a, rest, _, state, rfl,
          returns_mapM_cons.mpr ⟨result, middle, results, hfirst, hresults, rfl⟩, ha⟩
    · have hcause : ∀ cause, some failure = some cause →
          Fails ((name :: names).mapM run.generateTable) before cause after := by
        rintro _ ⟨⟩
        exact hstop hfirst
      rcases fails_generateTable hfirst with ⟨made, hrefuses, rfl⟩ | ⟨table, files, hanswers, -, heffect⟩
      · exact ⟨made, _, _, .refused hrefuses hfirst, rfl, nofun, hcause⟩
      · exact ⟨_, _, _, .broken hanswers hfirst, heffect.calls, nofun, hcause⟩

/-- Behind the tables the catalog is not asked for anything. -/
theorem quiet_writeTotals (run : ProjectRun) (tables : List GeneratedTable) : Quiet (run.writeTotals tables) := by
  have hgists : Quiet (forIn (⟨tables.map (·.gists)⟩ : GistSet).files PUnit.unit fun file _ => do
      writeFile "gist" (run.pathTo file.1) file.2
      return ForInStep.yield PUnit.unit) := .forIn fun file => quiet_writeFile _ _ _
  unfold writeTotals
  dsimp only
  split
  · exact .bind (.ofExcept _) fun text => .bind (quiet_writeFile _ _ _) fun _ => .bind hgists fun _ => .pure _
  · exact .bind hgists fun _ => .pure _

/-- The calls of a run up to its end, before the catalog is closed. -/
theorem exists_calls_generateAll (run : ProjectRun) (before : RunState) :
    ∃ made failure after, run.ReadsInTurn before run.config.tables made failure after ∧
      (run.generateAll.run before).2.calls = before.calls ++ made ∧
      ∀ cause, failure = some cause → (run.generateAll.run before).1 = .error cause := by
  obtain ⟨made, failure, after, hreads, hcalls, hdone, hstopped⟩ := run.exists_readsInTurn run.config.tables before
  refine ⟨made, failure, after, hreads, ?_⟩
  unfold generateAll
  rw [mapM_named]
  cases failure with
  | none =>
    obtain ⟨results, hresults⟩ := hdone rfl
    have hnamed : Returns (do return run.config.tables.zip (← run.config.tables.mapM run.generateTable)) before
        (run.config.tables.zip results) after :=
      returns_bind.mpr ⟨results, after, hresults, returns_pure.mpr ⟨rfl, rfl⟩⟩
    have hquiet := Moves.bind (run.quiet_writeTotals ((run.config.tables.zip results).filterMap (·.2)))
      (fun _ => .pure (((run.config.tables.zip results).filter (·.2.isNone)).map (·.1))) after
    rw [hnamed.run_bind]
    exact ⟨hquiet.trans hcalls, nofun⟩
  | some failure =>
    have hfails := (hstopped failure rfl).run_bind (f := fun results =>
      (pure (run.config.tables.zip results) : Run (List (String × Option GeneratedTable))))
    rw [Fails.run_bind hfails]
    refine ⟨hcalls, ?_⟩
    rintro _ ⟨⟩
    rfl

/-- A project run makes its directories, works off its tables, and closes the catalog. -/
theorem run_generateProject {before prepared : RunState} (hlayout : run.config.checkLayout = .ok ())
    (hprepare : Returns run.prepare before () prepared) :
    (generateProject run).run before =
      (((closing run.reader run.generateAll).run prepared).1.map fun skipped =>
        ⟨((closing run.reader run.generateAll).run prepared).2.written.map (·.path), skipped⟩,
      ((closing run.reader run.generateAll).run prepared).2) := by
  have hchecked : Returns (Run.ofExcept (run.config.checkLayout.mapError fun fault => .ofCause (.config fault)))
      before () before := returns_ofExcept.mpr ⟨by rw [hlayout]; rfl, rfl⟩
  unfold generateProject
  rw [hchecked.run_bind, hprepare.run_bind]
  rcases returns_or_fails (closing run.reader run.generateAll) prepared with ⟨skipped, after, h⟩ |
    ⟨failure, after, h⟩
  · rw [h.run_bind, h]
    rfl
  · rw [h.run_bind, h]
    rfl

end ProjectRun

/-! ## Main result -/

/-- **Calls to the catalog.** A conversion with sound settings asks for the comment, the indexes and the columns of
its table, up to the first refusal; a project run that has its directories does so for one table after the other,
up to the first refusal or to the end of the first table that it cannot work off. Both then close the catalog,
once and as their last call. A failure before that is what they fail with, whatever comes of closing; otherwise
they fail exactly if the catalog cannot be closed. -/
theorem catalog_calls :
    (∀ (reader : CatalogReader) (config : GenerationConfig) (formatter : SourceFormatter) (before : RunState),
      config.check = .ok () → ∃ made read,
        reader.Reads config.enableInitialism (Text.trimmed config.db.table) before.calls made read ∧
        ((convertTable reader config formatter).run before).2.calls = before.calls ++ made ++ [.close] ∧
        ClosesOver id (read.bind (conversion config formatter)) (reader.close (before.calls ++ made))
          ((convertTable reader config formatter).run before).1) ∧
    ∀ (run : ProjectRun) (before prepared : RunState), run.config.checkLayout = .ok () →
      Returns run.prepare before () prepared → ∃ made failure after,
        run.ReadsInTurn prepared run.config.tables made failure after ∧
        (∀ cause, failure = some cause → (run.generateAll.run prepared).1 = .error cause) ∧
        ((generateProject run).run before).2.calls = before.calls ++ made ++ [.close] ∧
        ClosesOver (·.skipped) (run.generateAll.run prepared).1 (run.reader.close (before.calls ++ made))
          ((generateProject run).run before).1 := by
  constructor
  · intro reader config formatter before hcheck
    obtain ⟨made, read, hreads, hread⟩ :=
      exists_reads reader config.enableInitialism (Text.trimmed config.db.table) before
    have hrun := run_convertTable formatter hcheck hread
    refine ⟨made, read, hreads, ?_⟩
    rw [hrun]
    refine ⟨rfl, .of_bind id (fun _ => rfl) ?_⟩
    rw [Except.map_id, id]
  · intro run before prepared hlayout hprepare
    obtain ⟨made, failure, after, hreads, hcalls, hfailure⟩ := run.exists_calls_generateAll prepared
    have hrun := ProjectRun.run_generateProject hlayout hprepare
    rw [run_closing, hcalls, (ProjectRun.sameLog_of_prepare hprepare).calls] at hrun
    refine ⟨made, failure, after, hreads, hfailure, ?_⟩
    rw [hrun]
    exact ⟨rfl, .of_bind _ (fun _ => rfl) rfl⟩

/-- A catalog that has no columns for one table, refuses the columns of all others, and refuses to be closed. -/
def ghostReader : CatalogReader where
  comment _ _ := .ok ""
  indexes _ _ := .ok []
  columns _ name := if name = "ghost" then .ok [] else .error (.ofText "denied")
  close _ := .error (.ofText "gone")

/-- The run over a table without columns and one that is refused. -/
def ghostRun : ProjectRun where
  reader := ghostReader
  config := { api := { serviceName := "s" }, dir := "out", tables := ["ghost", "user"] }
  formatter := .verbatim
  validator _ := .ok ()

theorem eq_of_refuses_ghostReader {name : String} {calls made : List ReaderCall} {failure : Failure}
    (h : ghostReader.Refuses name calls made failure) :
    name ≠ "ghost" ∧ made = readerCalls name ∧
      failure = (Failure.ofText "denied").within (readingStep "columns" name) := by
  rcases h with hcomment | ⟨-, hindexes⟩ | ⟨-, -, hcolumns⟩
  · cases hcomment
  · cases hindexes
  · simp only [ghostReader] at hcolumns
    split at hcolumns
    · cases hcolumns
    · rename_i hname
      cases hcolumns
      exact ⟨hname, rfl, rfl⟩

theorem eq_of_answers_ghostReader {enableInitialism : Bool} {name : String} {calls : List ReaderCall} {table : Table}
    (h : ghostReader.Answers enableInitialism name calls table) : name = "ghost" := by
  obtain ⟨-, -, hcolumns⟩ := h
  simp only [ghostReader] at hcolumns
  split at hcolumns
  · assumption
  · cases hcolumns

theorem returns_ghost (before : RunState) : Returns (ghostRun.generateTable "ghost") before none
    { before with calls := before.calls ++ readerCalls "ghost" } := by
  have hanswers : ghostReader.Answers false "ghost" before.calls (Table.ofRows false "ghost" "" [] []) :=
    .intro rfl rfl rfl
  unfold ProjectRun.generateTable
  refine returns_bind.mpr ⟨_, _, returns_readTable.mpr ⟨hanswers, rfl⟩, ?_⟩
  dsimp only
  rw [if_pos (by decide +kernel)]
  exact returns_pure.mpr ⟨rfl, rfl⟩

theorem columns_refused_and_close_refused :
    GenerationConfig.sample.check = .ok () ∧ ghostRun.config.checkLayout = .ok () ∧
    ((convertTable ghostReader GenerationConfig.sample .verbatim).run {}).2.calls =
      readerCalls "table" ++ [.close] ∧
    ((generateProject ghostRun).run {}).2.calls = readerCalls "ghost" ++ readerCalls "user" ++ [.close] ∧
    ((generateProject ghostRun).run {}).1 =
      .error ((Failure.ofText "denied").within (readingStep "columns" "user")) := by
  have hcheck : GenerationConfig.sample.check = .ok () := by decide
  have hlayout : ghostRun.config.checkLayout = .ok () := by decide
  obtain ⟨prepared, hprepare⟩ : ∃ prepared, Returns ghostRun.prepare {} () prepared := ⟨_, rfl⟩
  refine ⟨hcheck, hlayout, ?_, ?_⟩
  · obtain ⟨made, read, hreads, hcalls, -⟩ := catalog_calls.1 ghostReader .sample .verbatim {} hcheck
    have hname : Text.trimmed GenerationConfig.sample.db.table = "table" := by decide
    rw [hname] at hreads
    cases hreads with
    | refused hrefuses =>
      rw [hcalls, (eq_of_refuses_ghostReader hrefuses).2.1]
      rfl
    | answered hanswers => exact absurd (eq_of_answers_ghostReader hanswers) (by decide)
  · obtain ⟨made, failure, after, hreads, hfailure, hcalls, hcloses⟩ :=
      catalog_calls.2 ghostRun {} prepared hlayout hprepare
    have hreads : ghostRun.ReadsInTurn prepared ["ghost", "user"] made failure after := hreads
    cases hreads with
    | refused hrefuses _ => exact absurd rfl (eq_of_refuses_ghostReader hrefuses).1
    | broken _ hfails =>
      rw [Fails, returns_ghost prepared] at hfails
      cases hfails
    | next hanswers hreturns rest =>
      cases rest with
      | refused hrefuses _ =>
        obtain ⟨-, rfl, rfl⟩ := eq_of_refuses_ghostReader hrefuses
        refine ⟨?_, hcloses.ofBody _ (hfailure _ rfl)⟩
        rw [hcalls]
        rfl
      | broken hanswers _ => exact absurd (eq_of_answers_ghostReader hanswers) (by decide)
      | next hanswers _ _ => exact absurd (eq_of_answers_ghostReader hanswers) (by decide)

end TableCodegen
