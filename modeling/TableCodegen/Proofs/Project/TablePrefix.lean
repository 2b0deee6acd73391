import TableCodegen.Project
import TableCodegen.Proofs.Naming.ExportedName
import TableCodegen.Proofs.Text.Search

/-!
# Table names and their prefix

The tables of a project often share a prefix that ends with an underscore. Names are exported segment by segment, so
that the exported form of such a table starts with the exported prefix, and the two can be taken apart before or after
they are exported. Initialisms only matter for capitals: a route file, whose name is in small letters, has the same
name with and without them.

Results:

* `exportedName_join`: what an underscore joins is exported part by part.
* `lowerCase_exportedName`: an exported ASCII name in small letters.
* `routeFile_eq`: the route file of a table.
* `withoutTablePrefix_append`, `withoutTablePrefix_exportedName`: the prefix of a table, and its exported prefix.
* `joined_table_names`: the names of a table with a prefix.
-/

namespace TableCodegen

open TableCodegen.Text TableCodegen.Text.Unicode TableCodegen.Naming

/-! ## Specification -/

/-- A text without its underscores. -/
def withoutUnderscores (text : String) : String :=
  String.ofList (text.toList.filter fun c => !(c == '_'))

/-- The settings with initialisms turned on or off. -/
def ProjectConfig.withInitialisms (config : ProjectConfig) (enableInitialism : Bool) : ProjectConfig :=
  { config with api := { config.api with enableInitialism } }

/-- The settings with the table prefix as it is exported. -/
def ProjectConfig.withExportedPrefix (config : ProjectConfig) (enableInitialism : Bool) : ProjectConfig :=
  { config with tablePrefix := exportedName enableInitialism config.tablePrefix }

/-! ## Joined names -/

theorem segments_append_cons (u v : List Char) : segments (u ++ '_' :: v) = segments u ++ segments v :=
  runs_append_cons (p := fun c => c == '_') rfl u v

theorem exportedName_join (enableInitialism : Bool) (a b : String) :
    exportedName enableInitialism (a ++ "_" ++ b) =
      exportedName enableInitialism a ++ exportedName enableInitialism b := by
  have hjoin : (a ++ "_" ++ b).toList = a.toList ++ '_' :: b.toList := by simp
  rw [exportedName, exportedName, exportedName, ← String.ofList_append, hjoin, exportedChars, segments_append_cons,
    List.flatMap_append]
  rfl

/-- An underscore at the end is not exported. -/
theorem exportedName_append_underscore (enableInitialism : Bool) (a : String) :
    exportedName enableInitialism (a ++ "_") = exportedName enableInitialism a := by
  have hjoin := exportedName_join enableInitialism a ""
  have hempty : exportedName enableInitialism "" = "" := rfl
  rwa [String.append_empty, hempty, String.append_empty] at hjoin

/-! ## Small letters -/

theorem toLower_eq_underscore_iff (c : Char) : c.toLower = '_' ↔ c = '_' := by
  refine ⟨fun h => ?_, fun h => by rw [h]; rfl⟩
  by_cases hcapital : c.val ≥ 'A'.val ∧ c.val ≤ 'Z'.val
  · obtain ⟨hrange, hlower⟩ := toNat_toLower hcapital
    rw [h] at hlower
    have hunderscore : '_'.toNat = 95 := rfl
    omega
  · have hsame : c.toLower = c := dif_neg hcapital
    rwa [hsame] at h

theorem filter_map_toLower (cs : List Char) :
    (cs.map Char.toLower).filter (fun c => !(c == '_')) = (cs.filter fun c => !(c == '_')).map Char.toLower := by
  rw [List.filter_map]
  refine congrArg _ (List.filter_congr fun c _ => ?_)
  rw [Function.comp_apply, Bool.eq_iff_iff]
  simp [toLower_eq_underscore_iff]

/-- An exported ASCII name in small letters is the name in small letters without its underscores. -/
theorem lowerCase_exportedName {a : String} (ha : IsAscii a.toList) (enableInitialism : Bool) :
    lowerCase (exportedName enableInitialism a) = withoutUnderscores (lowerCase a) := by
  rw [lowerCase, exportedName, String.toList_ofList, (isAscii_exportedChars ha enableInitialism).lowerText_eq_map,
    ha.map_toLower_exportedChars, flatten_segments, ← filter_map_toLower, ← ha.lowerText_eq_map, withoutUnderscores,
    lowerCase, String.toList_ofList]

/-! ## Route files -/

theorem isAscii_withoutTablePrefix (config : ProjectConfig) {table : String} (h : IsAscii table.toList) :
    IsAscii (withoutTablePrefix config table).toList := by
  unfold withoutTablePrefix
  split
  · rename_i rest hrest
    rw [dropHead?_eq_some_iff.mp hrest] at h
    rw [String.toList_ofList]
    exact (List.forall_mem_append.mp h).2
  · exact h

/-- The route file of a table with an ASCII name. -/
theorem routeFile_eq (config : ProjectConfig) {table : String} (h : IsAscii table.toList) :
    (TableNames.ofTable config table).routeFile =
      withoutUnderscores (lowerCase (withoutTablePrefix config table)) ++ routeFileSuffix :=
  congrArg (· ++ routeFileSuffix) (lowerCase_exportedName (isAscii_withoutTablePrefix config h) _)

/-! ## Prefixes -/

theorem withoutTablePrefix_append {config : ProjectConfig} {tablePrefix : String}
    (h : config.tablePrefix = tablePrefix) (rest : String) :
    withoutTablePrefix config (tablePrefix ++ rest) = rest := by
  have hdrop : dropHead? config.tablePrefix.toList (tablePrefix ++ rest).toList = some rest.toList := by
    rw [dropHead?_eq_some_iff, h, String.toList_append]
  rw [withoutTablePrefix, hdrop]
  exact String.ofList_toList

section Prefixed

variable {config : ProjectConfig} {a : String} (hshared : config.tablePrefix = a ++ "_")
include hshared

/-- A prefix that ends with an underscore can be taken away before or after a name is exported. -/
theorem withoutTablePrefix_exportedName (enableInitialism : Bool) (b : String) :
    withoutTablePrefix (config.withExportedPrefix enableInitialism) (exportedName enableInitialism (a ++ "_" ++ b)) =
      exportedName enableInitialism (withoutTablePrefix config (a ++ "_" ++ b)) := by
  have hexported : (config.withExportedPrefix enableInitialism).tablePrefix = exportedName enableInitialism a := by
    rw [← exportedName_append_underscore, ← hshared]
    rfl
  rw [exportedName_join, withoutTablePrefix_append hexported, withoutTablePrefix_append hshared]

/-- Without a structure name in the settings a table has its exported name, with the prefix or without it. -/
theorem structName_ofTable (hname : config.api.structName = "") (b : String) :
    (TableNames.ofTable config (a ++ "_" ++ b)).structName =
      if config.enableTrimTablePrefix then exportedName config.api.enableInitialism b
      else exportedName config.api.enableInitialism a ++ exportedName config.api.enableInitialism b := by
  rw [TableNames.ofTable, hname, withoutTablePrefix_append hshared, exportedName_join]
  simp

end Prefixed

/-! ## Result -/

/-- Names are exported part by part, and in small letters an exported ASCII name is the name without its underscores,
whatever becomes of initialisms. So the route file of a table does not depend on initialisms, and a table prefix that
ends with an underscore can be taken away before or after its tables are exported. -/
theorem joined_table_names (a b : String) (ha : IsAscii a.toList) :
    (∀ enableInitialism,
      exportedName enableInitialism (a ++ "_" ++ b) =
          exportedName enableInitialism a ++ exportedName enableInitialism b ∧
        lowerCase (exportedName enableInitialism a) = withoutUnderscores (lowerCase a)) ∧
    (∀ (config : ProjectConfig) (enableInitialism : Bool),
      (TableNames.ofTable (config.withInitialisms enableInitialism) a).routeFile =
          (TableNames.ofTable config a).routeFile ∧
        (TableNames.ofTable config a).routeFile =
          withoutUnderscores (lowerCase (withoutTablePrefix config a)) ++ routeFileSuffix) ∧
    ∀ config : ProjectConfig, config.tablePrefix = a ++ "_" →
      withoutTablePrefix config (a ++ "_" ++ b) = b ∧
      (∀ enableInitialism,
        withoutTablePrefix (config.withExportedPrefix enableInitialism)
            (exportedName enableInitialism (a ++ "_" ++ b)) =
          exportedName enableInitialism (withoutTablePrefix config (a ++ "_" ++ b))) ∧
      (config.api.structName = "" →
        (TableNames.ofTable config (a ++ "_" ++ b)).structName =
          if config.enableTrimTablePrefix then exportedName config.api.enableInitialism b
          else exportedName config.api.enableInitialism a ++ exportedName config.api.enableInitialism b) := by
  refine ⟨fun on => ⟨exportedName_join on a b, lowerCase_exportedName ha on⟩, fun config on => ?_,
    fun config hshared => ⟨withoutTablePrefix_append hshared b, fun on => ?_, fun hname => ?_⟩⟩
  · have hfile := routeFile_eq config ha
    refine ⟨?_, hfile⟩
    rw [hfile, routeFile_eq (config.withInitialisms on) ha]
    rfl
  · exact withoutTablePrefix_exportedName hshared on b
  · exact structName_ofTable hshared hname b

/-- Settings of a project whose tables share a prefix, an initialism among its segments. -/
def prefixedConfig : ProjectConfig where
  api := { enableInitialism := true }
  tablePrefix := "_APP__url_"

theorem app_url_user_id_exported :
    IsAscii "_APP__url".toList ∧
      exportedName true "_APP__url_user_id" = exportedName true "_APP__url" ++ exportedName true "user_id" ∧
      lowerCase (exportedName true "_APP__url") = withoutUnderscores (lowerCase "_APP__url") ∧
      (TableNames.ofTable (prefixedConfig.withInitialisms false) "_APP__url").routeFile =
        (TableNames.ofTable prefixedConfig "_APP__url").routeFile ∧
      prefixedConfig.tablePrefix = "_APP__url" ++ "_" ∧
      withoutTablePrefix (prefixedConfig.withExportedPrefix true) (exportedName true "_APP__url_user_id") =
        exportedName true (withoutTablePrefix prefixedConfig "_APP__url_user_id") ∧
      prefixedConfig.api.structName = "" ∧
      (TableNames.ofTable prefixedConfig "_APP__url_user_id").structName =
        exportedName true "_APP__url" ++ exportedName true "user_id" := by
  have hascii : IsAscii "_APP__url".toList := by decide +kernel
  obtain ⟨hnames, hfiles, htables⟩ := joined_table_names "_APP__url" "user_id" hascii
  obtain ⟨-, htrimmed, hstruct⟩ := htables prefixedConfig rfl
  exact ⟨hascii, (hnames true).1, (hnames true).2, (hfiles prefixedConfig false).1, rfl, htrimmed true, rfl,
    hstruct rfl⟩

/-- The exported names of the prefix and of the table. -/
example : exportedName true "_APP__url" = "AppURL" ∧ exportedName true "user_id" = "UserID" := by decide +kernel

end TableCodegen
