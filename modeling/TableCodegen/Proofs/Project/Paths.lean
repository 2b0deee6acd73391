import Mathlib.Data.List.Perm.Basic
import TableCodegen.Proofs.Project.Snapshot

/-!
# Paths of project files

Route files, storage models and gists end differently, so that files of two kinds never meet. What can meet are
two route files, or a route file and the service document: the names of these come from the names of tables
and from the table prefix by rules that lose letters.

Results:

* `Path.lastEnds_join`: how the last segment of a path below a directory ends.
* `ProjectRun.nodup_paths_iff`: when all paths of a run are different.
* `project_files_kept_iff`: when no file of a run is written over by a later one.
-/

namespace TableCodegen

open Run

/-! ## Specification -/

/-- A view of paths that tells their last segments, if these do not go back. -/
def Path.TellsLast {β : Type} (key : String → β) : Prop :=
  ∀ p q a b, (segments p).getLast? = some a → (segments q).getLast? = some b → a ≠ ".." → b ≠ ".." →
    key p = key q → a = b

namespace ProjectRun

/-- The paths of the route files, of the service document and of the storage models of tables are kept apart. -/
structure KeepsApart {β : Type} (run : ProjectRun) (key : String → β) (names : List String) : Prop where
  routes : (names.map fun name => key (run.routePath name)).Nodup
  service : ∀ name ∈ names, key (run.routePath name) ≠ key run.servicePath
  models : run.config.api.enableModel = true → (names.map fun name => key (run.modelPath name)).Nodup

instance {β : Type} [DecidableEq β] (run : ProjectRun) (key : String → β) (names : List String) :
    Decidable (run.KeepsApart key names) :=
  decidable_of_iff ((names.map fun name => key (run.routePath name)).Nodup ∧
      (∀ name ∈ names, key (run.routePath name) ≠ key run.servicePath) ∧
      (run.config.api.enableModel = true → (names.map fun name => key (run.modelPath name)).Nodup))
    ⟨fun h => ⟨h.1, h.2.1, h.2.2⟩, fun h => ⟨h.routes, h.service, h.models⟩⟩

end ProjectRun

/-! ## Last segments -/

namespace Path

theorem tellsLast_id : TellsLast (id : String → String) := by
  intro p q a b ha hb _ _ h
  rw [show p = q from h, hb] at ha
  exact (Option.some.inj ha).symm

theorem tellsLast_segments : TellsLast segments := by
  intro p q a b ha hb _ _ h
  rw [h, hb] at ha
  exact (Option.some.inj ha).symm

theorem tellsLast_target : TellsLast target := by
  intro p q a b ha hb hupa hupb h
  have hlast : ∀ {path last}, (segments path).getLast? = some last → last ≠ ".." →
      (target path).getLast? = some last := by
    intro path last hlast hup
    rw [target, ← List.dropLast_append_getLast? _ hlast, FileTree.reach_concat hup, List.getLast?_concat]
  have hq := hlast hb hupb
  rw [← h, hlast ha hupa] at hq
  exact Option.some.inj hq

/-- The last segment of the path ends with a character. -/
def LastEnds (c : Char) (path : String) : Prop :=
  ∃ last, (segments path).getLast? = some last ∧ last.toList.getLast? = some c

theorem lastEnds_join (directory name ending : String) {c : Char} (hslash : '/' ∉ ending.toList)
    (hend : ending.toList.getLast? = some c) (hdot : c ≠ '.') : LastEnds c (join directory (name ++ ending)) := by
  obtain ⟨middle, hlast, -⟩ := exists_last_join directory (String.toList_append) hslash hend hdot
  refine ⟨_, hlast, ?_⟩
  rw [String.toList_ofList, List.getLast?_append, hend]
  rfl

theorem ne_up_of_getLast? {last : String} {c : Char} (h : last.toList.getLast? = some c) (hdot : c ≠ '.') :
    last ≠ ".." := by
  rintro rfl
  exact hdot (Option.some.inj h).symm

/-- Paths that end differently are seen as different. -/
theorem TellsLast.ne {β : Type} {key : String → β} (h : TellsLast key) {c d : Char} (hc : c ≠ '.') (hd : d ≠ '.')
    (hcd : c ≠ d) {p q : String} (hp : LastEnds c p) (hq : LastEnds d q) : key p ≠ key q := by
  obtain ⟨a, ha, hend⟩ := hp
  obtain ⟨b, hb, hother⟩ := hq
  intro hkey
  rw [h p q a b ha hb (ne_up_of_getLast? hend hc) (ne_up_of_getLast? hother hd) hkey, hother] at hend
  exact hcd (Option.some.inj hend).symm

/-- Names without slashes are told by the paths below a directory. -/
theorem TellsLast.eq_of_join {β : Type} {key : String → β} (h : TellsLast key) {directory a b : String} {c : Char}
    (ha : '/' ∉ a.toList) (hb : '/' ∉ b.toList) (hendA : a.toList.getLast? = some c)
    (hendB : b.toList.getLast? = some c) (hdot : c ≠ '.')
    (hkey : key (join directory a) = key (join directory b)) : a = b := by
  have hlast : ∀ name : String, '/' ∉ name.toList → name.toList.getLast? = some c →
      (segments (join directory name)).getLast? = some name := by
    intro name hslash hend
    obtain ⟨middle, hlast, hnil⟩ := exists_last_join directory (List.nil_append _).symm hslash hend hdot
    rw [hnil rfl, List.nil_append, String.ofList_toList] at hlast
    exact hlast
  exact h _ _ a b (hlast a ha hendA) (hlast b hb hendB) (ne_up_of_getLast? hendA hdot)
    (ne_up_of_getLast? hendB hdot) hkey

end Path

/-! ## Kinds of files -/

namespace ProjectRun

open TableCodegen.Path

variable (run : ProjectRun)

theorem lastEnds_routePath (name : String) : LastEnds 'i' (run.routePath name) := by
  unfold routePath routeFile pathTo TableNames.ofTable
  exact lastEnds_join run.config.dir _ routeFileSuffix (by decide) (by decide) (by decide)

theorem lastEnds_servicePath : LastEnds 'i' run.servicePath := by
  unfold servicePath pathTo serviceFile
  exact lastEnds_join run.config.dir _ routeFileSuffix (by decide) (by decide) (by decide)

theorem lastEnds_modelPath (name : String) : LastEnds 'o' (run.modelPath name) :=
  lastEnds_join _ name ".go" (by decide) (by decide) (by decide)

theorem lastEnds_gistPaths : ∀ path ∈ run.gistPaths, LastEnds 't' path := by
  intro path hpath
  obtain ⟨kind, -, rfl⟩ := List.mem_map.mp hpath
  exact lastEnds_join _ kind.name ".txt" (by decide) (by decide) (by decide)

/-- The paths of the storage models of tables. -/
def modelPaths (names : List String) : List String :=
  if run.config.api.enableModel then names.map run.modelPath else []

theorem lastEnds_modelPaths (names : List String) : ∀ path ∈ run.modelPaths names, LastEnds 'o' path := by
  unfold modelPaths
  split
  · rw [List.forall_mem_map]
    exact fun name _ => run.lastEnds_modelPath name
  · exact List.forall_mem_nil _

theorem nodup_map_modelPaths {β : Type} (key : String → β) (names : List String) :
    ((run.modelPaths names).map key).Nodup ↔
      (run.config.api.enableModel = true → (names.map fun name => key (run.modelPath name)).Nodup) := by
  unfold modelPaths
  split
  · rename_i henabled
    rw [List.map_map]
    exact ⟨fun h _ => h, fun h => h henabled⟩
  · rename_i hdisabled
    exact ⟨fun _ henabled => absurd henabled hdisabled, fun _ => List.nodup_nil⟩

/-- The paths of all tables, sorted by kind. -/
theorem perm_tablePaths (names : List String) :
    (names.flatMap run.tablePaths).Perm (names.map run.routePath ++ run.modelPaths names) := by
  have hmodels : (names.flatMap fun name => if run.config.api.enableModel then [run.modelPath name] else []) =
      run.modelPaths names := by
    unfold modelPaths
    cases run.config.api.enableModel with
    | true => exact List.flatMap_pure_eq_map _ names
    | false => simp
  rw [← hmodels]
  exact (List.map_append_flatMap_perm names run.routePath _).symm

variable {run} {β : Type} {key : String → β} (hkey : TellsLast key)

include hkey

theorem nodup_gistPaths : (run.gistPaths.map key).Nodup := by
  have hslash : ∀ kind ∈ GistKind.all, '/' ∉ kind.fileName.toList := by decide
  have hend : ∀ kind ∈ GistKind.all, kind.fileName.toList.getLast? = some 't' := by decide
  have hnames : ∀ kind ∈ GistKind.all, ∀ other ∈ GistKind.all, kind.fileName = other.fileName → kind = other := by
    decide
  rw [gistPaths, List.map_map]
  refine List.Nodup.map_on (fun kind hkind other hother h => ?_) (by decide)
  exact hnames kind hkind other hother (hkey.eq_of_join (hslash kind hkind) (hslash other hother)
    (hend kind hkind) (hend other hother) (by decide) h)

/-- The storage models of different tables are different files, if no name of a table holds a slash. -/
theorem nodup_modelPaths {names : List String} (hnames : names.Nodup)
    (hslash : ∀ name ∈ names, '/' ∉ name.toList) :
    (names.map fun name => key (run.modelPath name)).Nodup := by
  have hfile : ∀ name ∈ names, '/' ∉ (name ++ ".go").toList := by
    intro name hname
    rw [String.toList_append, List.mem_append, not_or]
    exact ⟨hslash name hname, by decide⟩
  have hend : ∀ name : String, (name ++ ".go").toList.getLast? = some 'o' := by
    intro name
    rw [String.toList_append, List.getLast?_append]
    rfl
  refine List.Nodup.map_on (fun name hname other hother h => ?_) hnames
  have hsame := hkey.eq_of_join (hfile name hname) (hfile other hother) (hend name) (hend other) (by decide) h
  have hlist := congrArg String.toList hsame
  rw [String.toList_append, String.toList_append, List.append_cancel_right_eq] at hlist
  exact String.toList_inj.mp hlist

/-- Paths of two kinds are never seen as one. -/
theorem ne_of_lastEnds {us vs : List String} {c d : Char} (hc : c ≠ '.') (hd : d ≠ '.') (hcd : c ≠ d)
    (hu : ∀ p ∈ us, LastEnds c p) (hv : ∀ q ∈ vs, LastEnds d q) :
    ∀ a ∈ us.map key, ∀ b ∈ vs.map key, a ≠ b := by
  rw [List.forall_mem_map]
  intro p hp
  rw [List.forall_mem_map]
  intro q hq
  exact hkey.ne hc hd hcd (hu p hp) (hv q hq)

omit hkey in
/-- Items of three kinds, and one that can only be among the first kind. -/
theorem nodup_kinds_iff {as ms gs : List β} {s : β} (ham : ∀ a ∈ as, ∀ m ∈ ms, a ≠ m)
    (hag : ∀ a ∈ as, ∀ g ∈ gs, a ≠ g) (hmg : ∀ m ∈ ms, ∀ g ∈ gs, m ≠ g) (hms : ∀ m ∈ ms, m ≠ s)
    (hsg : ∀ g ∈ gs, s ≠ g) (hgs : gs.Nodup) :
    (as ++ ms ++ s :: gs).Nodup ↔ as.Nodup ∧ (∀ a ∈ as, a ≠ s) ∧ ms.Nodup := by
  have hs : s ∉ gs := fun hmem => hsg s hmem rfl
  rw [List.nodup_append, List.nodup_append, List.nodup_cons]
  simp only [List.forall_mem_append, List.forall_mem_cons]
  constructor
  · rintro ⟨⟨has, hmodels, -⟩, -, happart, -⟩
    exact ⟨has, fun a ha => (happart a ha).1, hmodels⟩
  · rintro ⟨has, hservice, hmodels⟩
    exact ⟨⟨has, hmodels, ham⟩, ⟨hs, hgs⟩, fun a ha => ⟨hservice a ha, hag a ha⟩,
      fun m hm => ⟨hms m hm, hmg m hm⟩⟩

/-- All paths of a run are seen as different when the paths of route files, service document and storage models
are kept apart. -/
theorem nodup_paths_iff {names : List String} {totals : List WrittenFile} (htotals : run.Totals names totals) :
    ((names.flatMap run.tablePaths ++ totals.map (·.path)).map key).Nodup ↔ run.KeepsApart key names := by
  obtain ⟨rfl⟩ | ⟨hnames, -, hgists⟩ := htotals
  · exact ⟨fun _ => ⟨List.nodup_nil, List.forall_mem_nil _, fun _ => List.nodup_nil⟩, fun _ => List.nodup_nil⟩
  have hroute : ∀ path ∈ names.map run.routePath, LastEnds 'i' path := by
    rw [List.forall_mem_map]
    exact fun name _ => run.lastEnds_routePath name
  have hservice : ∀ path ∈ [run.servicePath], LastEnds 'i' path :=
    List.forall_mem_singleton.mpr run.lastEnds_servicePath
  have hmodel := run.lastEnds_modelPaths names
  have hgist := run.lastEnds_gistPaths
  have hperm := ((run.perm_tablePaths names).append_right (run.servicePath :: run.gistPaths)).map key
  rw [List.map_cons, hgists, hperm.nodup_iff, List.map_append, List.map_append, List.map_cons,
    nodup_kinds_iff (ne_of_lastEnds hkey (by decide) (by decide) (by decide) hroute hmodel)
      (ne_of_lastEnds hkey (by decide) (by decide) (by decide) hroute hgist)
      (ne_of_lastEnds hkey (by decide) (by decide) (by decide) hmodel hgist)
      (fun m hm => ne_of_lastEnds hkey (by decide) (by decide) (by decide) hmodel hservice m hm _ List.mem_cons_self)
      (ne_of_lastEnds hkey (by decide) (by decide) (by decide) hservice hgist _ List.mem_cons_self)
      (nodup_gistPaths hkey),
    nodup_map_modelPaths, List.map_map, List.forall_mem_map]
  exact ⟨fun h => ⟨h.1, h.2.1, h.2.2⟩, fun h => ⟨h.routes, h.service, h.models⟩⟩

end ProjectRun

/-! ## Runs -/

/-- **Files of a run.** No path of a run comes twice, exactly when the route files of the tables that were not
passed over are different paths, none of them that of the service document, and the storage models are different
paths. This holds of the paths as texts, of their segments, and of the places that they lead to; when these are
different, each file has at the end the text that was written to it. The storage models are always kept apart when
no name of a table holds a slash. -/
theorem project_files_kept_iff (run : ProjectRun) (before after : RunState) (report : ProjectReport)
    (hrun : Returns (generateProject run) before report after) (hbefore : before.written = [])
    (htables : run.config.tables.Nodup) :
    let names := run.config.tables.filter (· ∉ report.skipped)
    (report.written.Nodup ↔ run.KeepsApart id names) ∧
      ((report.written.map Path.segments).Nodup ↔ run.KeepsApart Path.segments names) ∧
      ((report.written.map Path.target).Nodup ↔ run.KeepsApart Path.target names) ∧
      ((report.written.map Path.target).Nodup → ∀ file ∈ after.written,
        after.files.entry? (Path.target file.path) = some (.file (some file.text))) ∧
      ((∀ name ∈ names, '/' ∉ name.toList) → (names.map fun name => Path.segments (run.modelPath name)).Nodup ∧
        (names.map fun name => Path.target (run.modelPath name)).Nodup) := by
  intro names
  obtain ⟨prepared, outcomes, totals, hprepared, hfinished, hreport⟩ := ProjectRun.finished_of_generateProject hrun
  have hstart : prepared.written = [] := hprepared.trans hbefore
  have hwritten : after.written = outcomes.flatMap (·.files) ++ totals := by
    rw [hfinished.wrote.written, hstart, List.nil_append]
  have hnames : (outcomes.filter run.generates).map (·.table.name) = names := hfinished.names_generated htables
  have htotals : run.Totals names totals := hnames ▸ hfinished.behind
  have hpaths : report.written = names.flatMap run.tablePaths ++ totals.map (·.path) := by
    rw [hreport, hfinished.paths_eq hstart, hnames]
  have hdistinct : names.Nodup := htables.filter _
  refine ⟨?_, ?_, ?_, fun hnodup => ?_, fun hslash => ⟨?_, ?_⟩⟩
  · rw [← List.map_id report.written, hpaths]
    exact ProjectRun.nodup_paths_iff Path.tellsLast_id htotals
  · rw [hpaths]
    exact ProjectRun.nodup_paths_iff Path.tellsLast_segments htotals
  · rw [hpaths]
    exact ProjectRun.nodup_paths_iff Path.tellsLast_target htotals
  · rw [hreport, hwritten, List.map_map] at hnodup
    rw [hwritten]
    exact hfinished.wrote.tree.entry?_eq hnodup
  · exact ProjectRun.nodup_modelPaths Path.tellsLast_segments hdistinct hslash
  · exact ProjectRun.nodup_modelPaths Path.tellsLast_target hdistinct hslash

/-- A table with one column. -/
def numberTable : SnapshotTable where
  columns := [{ name := "n", ordinal := 1, dataType := "int" }]

theorem two_files_kept :
    (sampleRun [("user", numberTable), ("t_role", numberTable)]).config.tables.Nodup ∧
    ∃ report after, Returns (generateProject (sampleRun [("user", numberTable), ("t_role", numberTable)])) {}
        report after ∧ report.skipped = [] ∧
      ∀ file ∈ after.written, after.files.entry? (Path.target file.path) = some (.file (some file.text)) := by
  have htables : (sampleRun [("user", numberTable), ("t_role", numberTable)]).config.tables.Nodup := by decide
  obtain ⟨report, after, hrun⟩ := exists_sampleRun [("user", numberTable), ("t_role", numberTable)]
    (by decide +kernel) (by decide +kernel)
  obtain ⟨-, -, htarget, hkept, -⟩ := project_files_kept_iff _ _ _ _ hrun rfl htables
  have hskipped := skipped_sampleRun hrun (by decide +kernel)
  refine ⟨htables, report, after, hrun, hskipped, hkept (htarget.mpr ?_)⟩
  rw [hskipped]
  decide +kernel

/-- The table prefix is taken from the name of a route file, so that two tables get one file. -/
theorem user_file_written_twice :
    (sampleRun [("user", numberTable), ("t_user", numberTable)]).config.tables.Nodup ∧
    ∃ report after, Returns (generateProject (sampleRun [("user", numberTable), ("t_user", numberTable)])) {}
        report after ∧ ¬ report.written.Nodup := by
  obtain ⟨report, after, hrun⟩ := exists_sampleRun [("user", numberTable), ("t_user", numberTable)]
    (by decide +kernel) (by decide +kernel)
  have hskipped := skipped_sampleRun hrun (by decide +kernel)
  refine ⟨by decide, report, after, hrun, fun hnodup => ?_⟩
  obtain ⟨prepared, outcomes, totals, hprepared, hfinished, hreport⟩ := ProjectRun.finished_of_generateProject hrun
  have hnames := hfinished.names_generated (by decide)
  rw [hreport, hfinished.paths_eq hprepared, hnames, hskipped, ← List.map_id (List.flatMap _ _ ++ _),
    ProjectRun.nodup_paths_iff Path.tellsLast_id (by rw [← hskipped, ← hnames]; exact hfinished.behind)] at hnodup
  exact absurd hnodup.routes (by decide +kernel)

end TableCodegen
