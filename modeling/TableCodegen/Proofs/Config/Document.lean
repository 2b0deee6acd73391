import Mathlib.Data.List.Forall2
import TableCodegen.Config.Document
import TableCodegen.Proofs.Data.Shown

/-!
# Settings that come back from a document

Settings are written as one map. The settings of the database, and in a project those of the routes, stand
in it beside the others; a reader finds them in what is left of the map when it takes its own names away,
and reads this rest through first. Here every kind of settings is read from whatever shows the tree that
it was written as.

Results:

* `IsSetting.resolve?`: a value of settings is resolved to itself.
* `exists_otherEntries?`: the rest of a map shows the rest of the map that was written.
* `DbConfig.isPlain_toTree`, `GenerationConfig.isPlain_toTree`, `ApiConfig.isPlain_toTree`,
  `ProjectConfig.isPlain_toTree`: settings are written as plain values.
* `DbConfig.reads_toTree`, `GenerationConfig.reads_toTree`, `ApiConfig.reads_toTree`,
  `ProjectConfig.reads_toTree`: settings come back.
-/

namespace TableCodegen

/-! ## Values of settings -/

/-- The trees that settings are made of. -/
inductive IsSetting : Tree → Prop
  | text (s : String) : IsSetting (.text s)
  | bool (b : Bool) : IsSetting (.bool b)
  | port (n : UInt16) : IsSetting (.int n.toNat)
  | texts (texts : List String) : IsSetting (Tree.ofTexts texts)

namespace Tree

theorem reads_ofTexts (texts : List String) : Reads (asList asText) (ofTexts texts) texts :=
  reads_asList fun text _ => reads_asText text

/-- A loose scalar that is a text to everybody is resolved to the text. -/
theorem resolve?_of_shows_text {s : String} {read : Tree} (h : (Tree.text s).shows read = true)
    (depth lookups : Nat) : read.resolve? depth lookups = some (.text s, lookups) := by
  obtain rfl | ⟨scalar, rfl, hscalar⟩ := eq_or_loose_of_isScalar h
  · rfl
  · simp [resolve?, (LooseScalar.isTree_text hscalar).1]

theorem resolveItems?_of_shows {texts : List String} {items : List Tree}
    (h : itemsShow (texts.map .text) items = true) (depth lookups : Nat) :
    resolveItems? depth lookups items = some (texts.map .text, lookups) := by
  induction texts generalizing items with
  | nil =>
    cases items with
    | nil => rfl
    | cons => cases h
  | cons text texts ih =>
    cases items with
    | nil => cases h
    | cons item items =>
      obtain ⟨hitem, hrest⟩ := Bool.and_eq_true_iff.mp h
      simp [resolveItems?, resolve?_of_shows_text hitem, ih hrest]

end Tree

theorem fitsWord_port (n : UInt16) : fitsWord n.toNat = true := by
  have hlt : n.toNat < 65536 := n.toNat_lt
  simp only [fitsWord, Bool.and_eq_true, decide_eq_true_eq]
  omega

namespace IsSetting

variable {value read : Tree}

/-- What shows a value of settings is resolved to the value, one level down from the top. -/
theorem resolve? (hvalue : IsSetting value) (h : value.shows read = true) (depth lookups : Nat) :
    read.resolve? (depth + 1) lookups = some (value, lookups) := by
  cases hvalue with
  | text s => exact Tree.resolve?_of_shows_text h (depth + 1) lookups
  | bool b =>
    obtain rfl | ⟨scalar, rfl, hscalar⟩ := Tree.eq_or_loose_of_isScalar h
    · rfl
    · simp [Tree.resolve?, (LooseScalar.isTree_bool hscalar).1]
  | port n =>
    have hfits : fitsWord n.toNat = true := fitsWord_port n
    obtain rfl | ⟨scalar, rfl, hscalar⟩ := Tree.eq_or_loose_of_isScalar h
    · simp [Tree.resolve?, hfits]
    · simp [Tree.resolve?, (LooseScalar.isTree_int hscalar).1, hfits]
  | texts texts =>
    rw [Tree.ofTexts, Tree.shows] at h
    split at h
    case h_2 => cases h
    case h_1 items hitems =>
      have hresolved : Tree.resolveItems? depth lookups items = some (texts.map .text, lookups) :=
        Tree.resolveItems?_of_shows h depth lookups
      unfold Tree.plainItems? at hitems
      split at hitems
      · cases hitems
        simp [Tree.resolve?, inside?, hresolved, Tree.ofTexts]
      · cases hitems
        simp [Tree.resolve?, inside?, hresolved, Tree.ofTexts]
      · cases hitems

theorem isPlain (hvalue : IsSetting value) : value.IsPlain := by
  cases hvalue with
  | text s => exact .text s
  | bool b => exact .bool b
  | port n => exact .int n.toNat (fitsWord_port n)
  | texts texts =>
    refine .list _ fun item hitem => ?_
    obtain ⟨text, -, rfl⟩ := List.mem_map.mp hitem
    exact .text text

end IsSetting

/-! ## The rest of a map -/

/-- A resolved entry: its value is every value of settings that the entry showed. -/
structure ResolvedEntry (entry resolved : String × Tree) : Prop where
  key : resolved.1 = entry.1
  value : ∀ value, IsSetting value → value.shows entry.2 = true → resolved.2 = value

theorem resolveEntriesAt?_of_settings {entries : List (String × Tree)}
    (h : ∀ entry ∈ entries, ∃ value, IsSetting value ∧ value.shows entry.2 = true)
    (depth lookups : Nat) :
    ∃ resolved, Tree.resolveEntriesAt? (depth + 1) lookups entries = some (resolved, lookups) ∧
      List.Forall₂ ResolvedEntry entries resolved := by
  induction entries with
  | nil => exact ⟨[], rfl, .nil⟩
  | cons entry entries ih =>
    obtain ⟨key, read⟩ := entry
    obtain ⟨⟨value, hvalue, hshows⟩, hrest⟩ := List.forall_mem_cons.mp h
    obtain ⟨resolved, hresolved, hall⟩ := ih hrest
    have hread := hvalue.resolve? hshows depth lookups
    refine ⟨(key, value) :: resolved, by simp [Tree.resolveEntriesAt?, hread, hresolved], ?_⟩
    refine .cons ⟨rfl, fun other hother hshown => ?_⟩ hall
    -- resolution has one result
    have hsame := hread.symm.trans (hother.resolve? hshown depth lookups)
    exact congrArg Prod.fst (Option.some.inj hsame)

namespace EntriesShow

variable {written read : List (String × Tree)} (h : EntriesShow written read)
include h

/-- What shows the entries of a map shows those with some keys. -/
theorem filter (p : String → Bool) :
    EntriesShow (written.filter fun entry => p entry.1) (read.filter fun entry => p entry.1) where
  known entry hentry := by
    obtain ⟨hread, hp⟩ := List.mem_filter.mp hentry
    obtain ⟨source, hsource, hkey⟩ := List.mem_map.mp (h.known entry hread)
    exact List.mem_map.mpr ⟨source, List.mem_filter.mpr ⟨hsource, hkey ▸ hp⟩, hkey⟩
  shown entry hmem := by
    obtain ⟨hwritten, hp⟩ := List.mem_filter.mp hmem
    have hfilter : (read.filter fun found => p found.1).filter (·.1 == entry.1) =
        read.filter (·.1 == entry.1) := by
      rw [List.filter_filter]
      refine List.filter_congr fun found _ => ?_
      by_cases hkey : found.1 = entry.1
      · rw [hkey]
        simpa using hp
      · simp [hkey]
    rw [ShownIn, hfilter]
    exact h.shown entry hwritten

/-- Resolved entries show what the entries showed, if that is all settings. -/
theorem resolved (hsettings : ∀ entry ∈ written, IsSetting entry.2)
    {resolved : List (String × Tree)} (hresolved : List.Forall₂ ResolvedEntry read resolved) :
    EntriesShow written resolved where
  known entry hentry := by
    have hkeys : List.Forall₂ (· = ·) (resolved.map (·.1)) (read.map (·.1)) := by
      rw [List.forall₂_map_left_iff, List.forall₂_map_right_iff]
      exact (hresolved.imp fun _ _ hsame => hsame.key).flip
    rw [List.forall₂_eq_eq_eq] at hkeys
    have hkey : entry.1 ∈ read.map (·.1) := hkeys ▸ List.mem_map_of_mem hentry
    obtain ⟨source, hsource, hsame⟩ := List.mem_map.mp hkey
    exact hsame ▸ h.known source hsource
  shown entry hmem := by
    have hfilter : List.Forall₂ ResolvedEntry (read.filter (·.1 == entry.1))
        (resolved.filter (·.1 == entry.1)) := by
      refine List.rel_filter (fun found found' hsame => ?_) hresolved
      show (found.1 == entry.1) = true ↔ (found'.1 == entry.1) = true
      rw [hsame.key]
    obtain ⟨hnone, habsent⟩ | ⟨tree, hone, hshows⟩ := h.shown entry hmem
    · rw [hnone, List.forall₂_nil_left_iff] at hfilter
      exact Or.inl ⟨hfilter, habsent⟩
    · rw [hone, List.forall₂_cons_left_iff] at hfilter
      obtain ⟨found, rest, hsame, hrest, hfilter⟩ := hfilter
      rw [List.forall₂_nil_left_iff] at hrest
      have hsetting : IsSetting entry.2 := hsettings entry hmem
      have hfound : found = entry := Prod.ext hsame.key (hsame.value entry.2 hsetting hshows)
      exact Or.inr ⟨entry.2, by rw [hfilter, hrest, hfound], hsetting.isPlain.shows_self⟩

end EntriesShow

/-- A map has settings in common with other records beside its own. What is left of it without its own
    names shows the common ones, if anything may be read through at all. -/
theorem exists_otherEntries? {common own read : List (String × Tree)} {limits : Limits}
    {names : List String} (h : EntriesShow (common ++ own) read) (hdepth : 1 ≤ limits.depth)
    (hcommon : ∀ entry ∈ common, names.contains entry.1 = false)
    (hown : ∀ entry ∈ own, names.contains entry.1 = true)
    (hsettings : ∀ entry ∈ common, IsSetting entry.2) :
    ∃ others, Tree.otherEntries? limits names read = some others ∧ EntriesShow common others := by
  have hrest : EntriesShow common (read.filter fun entry => !names.contains entry.1) := by
    have hfilter : ((common ++ own).filter fun entry => !names.contains entry.1) = common := by
      rw [List.filter_append, List.filter_eq_self.mpr fun entry hentry => by rw [hcommon entry hentry]; rfl,
        List.filter_eq_nil_iff.mpr fun entry hentry => by rw [hown entry hentry]; exact Bool.false_ne_true,
        List.append_nil]
    exact hfilter ▸ h.filter fun key => !names.contains key
  obtain ⟨depth, hdepth⟩ : ∃ depth, limits.depth = depth + 1 := ⟨limits.depth - 1, by omega⟩
  obtain ⟨others, hothers, hall⟩ := resolveEntriesAt?_of_settings (fun entry hentry => by
    obtain ⟨value, hvalue, hshows⟩ := hrest.exists_value hentry
    exact ⟨value, hsettings _ hvalue, hshows⟩) depth limits.lookups
  refine ⟨others, ?_, hrest.resolved hsettings hall⟩
  rw [Tree.otherEntries?, Tree.resolveEntries?, hdepth, hothers]
  rfl

/-! ## Settings -/

theorem isPlain_map_of_settings {entries : List (String × Tree)} (hkeys : (entries.map (·.1)).Nodup)
    (h : ∀ entry ∈ entries, IsSetting entry.2) : (Tree.map entries).IsPlain :=
  .map entries hkeys fun entry hentry => (h entry hentry).isPlain

theorem ShownIn.textsField {read : List (String × Tree)} {name : String} {texts : List String}
    (h : ShownIn read (name, Tree.ofTexts texts)) (default : List String) :
    Tree.field read [name] default (Tree.asList Tree.asText) = some texts :=
  h.field (Tree.reads_ofTexts texts) nofun

theorem reads_routeStyle (style : Naming.RouteStyle) :
    Tree.Reads (fun tree => tree.asText.map Naming.RouteStyle.ofText) (.text style.toText) style := by
  intro tree hshows
  show tree.asText.map Naming.RouteStyle.ofText = some style
  rw [Tree.reads_asText style.toText tree hshows]
  cases style <;> decide +kernel

namespace DbConfig

variable (config : DbConfig)

theorem isSetting_of_mem : ∀ entry ∈ config.toEntries, IsSetting entry.2 := by
  simp only [toEntries, List.forall_mem_cons]
  exact ⟨.text _, .port _, .text _, .text _, .text _, .text _, nofun⟩

/-- Database settings come back from any map that shows them. -/
theorem ofEntries?_of_shown {read : List (String × Tree)}
    (h : ∀ entry ∈ config.toEntries, ShownIn read entry) : ofEntries? read = some config := by
  simp only [toEntries, List.forall_mem_cons] at h
  obtain ⟨hhost, hport, huser, hpassword, hdatabase, htable, -⟩ := h
  have hport : Tree.field read ["port"] 0 Tree.asUInt16 = some config.port :=
    hport.field (Tree.reads_asUInt16 config.port) nofun
  rw [ofEntries?, hhost.textField, hport, huser.textField, hpassword.textField, hdatabase.textField,
    htable.textField]
  rfl

theorem reads_toTree : Tree.Reads ofTree? config.toTree config := by
  intro tree hshows
  obtain ⟨read, -, hrecord, h⟩ := Tree.entries_of_shows hshows
  rw [ofTree?, hrecord]
  exact config.ofEntries?_of_shown h.shown

theorem isPlain_toTree : config.toTree.IsPlain :=
  isPlain_map_of_settings (by simp [toEntries]) config.isSetting_of_mem

end DbConfig

namespace ApiConfig

variable (config : ApiConfig)

theorem isSetting_of_mem : ∀ entry ∈ config.toEntries, IsSetting entry.2 := by
  simp only [toEntries, List.forall_mem_cons]
  exact ⟨.text _, .text _, .bool _, .texts _, .text _, .text _, .text _, .text _, .text _, .text _,
    .text _, .text _, .text _, .bool _, .bool _, .bool _, nofun⟩

/-- Route settings come back from any map that shows them. -/
theorem ofEntries?_of_shown {read : List (String × Tree)}
    (h : ∀ entry ∈ config.toEntries, ShownIn read entry) : ofEntries? read = some config := by
  simp only [toEntries, List.forall_mem_cons] at h
  obtain ⟨hstruct, hroute, hinitialism, hignore, htitle, hdesc, hauthor, hemail, hversion, hservice,
    hroutePrefix, hgroupPrefix, hstyle, hplural, hmodel, hunsigned, -⟩ := h
  have hstyle : Tree.field read ["route_style"] .kebab
      (fun tree => tree.asText.map Naming.RouteStyle.ofText) = some config.routeStyle :=
    hstyle.field (reads_routeStyle config.routeStyle) nofun
  rw [ofEntries?, hstruct.textField, hroute.textField, hinitialism.boolField, hignore.textsField,
    htitle.textField, hdesc.textField, hauthor.textField, hemail.textField, hversion.textField,
    hservice.textField, hroutePrefix.textField, hgroupPrefix.textField, hstyle, hplural.boolField,
    hmodel.boolField, hunsigned.boolField]
  rfl

theorem reads_toTree : Tree.Reads ofTree? config.toTree config := by
  intro tree hshows
  obtain ⟨read, -, hrecord, h⟩ := Tree.entries_of_shows hshows
  rw [ofTree?, hrecord]
  exact config.ofEntries?_of_shown h.shown

theorem isPlain_toTree : config.toTree.IsPlain :=
  isPlain_map_of_settings (by simp [toEntries]) config.isSetting_of_mem

end ApiConfig

theorem GenerationConfig.isPlain_toTree (config : GenerationConfig) : config.toTree.IsPlain := by
  refine isPlain_map_of_settings (by simp [DbConfig.toEntries])
    (List.forall_mem_append.mpr ⟨config.db.isSetting_of_mem, ?_⟩)
  simp only [List.forall_mem_cons]
  exact ⟨.text _, .text _, .bool _, .bool _, .bool _, .bool _, .bool _, .bool _, .bool _, .bool _, .bool _,
    .bool _, .bool _, .bool _, .bool _, .texts _, nofun⟩

theorem ProjectConfig.isPlain_toTree (config : ProjectConfig) : config.toTree.IsPlain := by
  refine isPlain_map_of_settings (by simp [DbConfig.toEntries, ApiConfig.toEntries])
    (List.forall_mem_append.mpr ⟨List.forall_mem_append.mpr
      ⟨config.db.isSetting_of_mem, config.api.isSetting_of_mem⟩, ?_⟩)
  simp only [List.forall_mem_cons]
  exact ⟨.text _, .text _, .texts _, .bool _, nofun⟩

section Limited

variable {limits : Limits} (hdepth : 1 ≤ limits.depth)
include hdepth

/-- Model settings come back, those of the database from the rest of the map. -/
theorem GenerationConfig.reads_toTree (config : GenerationConfig) :
    Tree.Reads (ofTree? limits) config.toTree config := by
  intro tree hshows
  obtain ⟨read, hentries, -, h⟩ := Tree.entries_of_shows hshows
  obtain ⟨others, hothers, hrest⟩ : ∃ others, Tree.otherEntries? limits names read = some others ∧
      EntriesShow config.db.toEntries others :=
    exists_otherEntries? h hdepth (by simp [DbConfig.toEntries, names]) (by simp [names])
      config.db.isSetting_of_mem
  obtain ⟨-, hown⟩ := List.forall_mem_append.mp h.shown
  simp only [List.forall_mem_cons] at hown
  obtain ⟨hpackage, hstruct, hinitialism, hcomment, hsql, hguregu, hjson, hxml, hgorm, hgormV2, hxorm,
    hbeego, hgorose, hunsigned, hbool, hignore, -⟩ := hown
  -- two names of settings have older spellings, which are not written
  have hsql : Tree.field read ["enable_sql_null", "enable_sql_null_wrapper"] false Tree.asBool =
      some config.enableSqlNull := by
    rw [h.field_eq "enable_sql_null" (by simp [DbConfig.toEntries]), hsql.boolField]
  have hguregu : Tree.field read ["enable_guregu_null", "enable_guregu_null_wrapper"] false
      Tree.asBool = some config.enableGureguNull := by
    rw [h.field_eq "enable_guregu_null" (by simp [DbConfig.toEntries]), hguregu.boolField]
  rw [ofTree?, hentries, Option.bind_eq_bind, Option.bind_some]
  rw [hothers, Option.bind_eq_bind, Option.bind_some]
  rw [config.db.ofEntries?_of_shown hrest.shown, hpackage.textField, hstruct.textField,
    hinitialism.boolField, hcomment.boolField, hsql, hguregu, hjson.boolField, hxml.boolField,
    hgorm.boolField, hgormV2.boolField, hxorm.boolField, hbeego.boolField, hgorose.boolField,
    hunsigned.boolField, hbool.boolField, hignore.textsField]
  rfl

/-- Project settings come back, those of the database and of the routes from the rest of the map. -/
theorem ProjectConfig.reads_toTree (config : ProjectConfig) :
    Tree.Reads (ofTree? limits) config.toTree config := by
  intro tree hshows
  obtain ⟨read, hentries, -, h⟩ := Tree.entries_of_shows hshows
  obtain ⟨others, hothers, hrest⟩ : ∃ others, Tree.otherEntries? limits names read = some others ∧
      EntriesShow (config.db.toEntries ++ config.api.toEntries) others :=
    exists_otherEntries? h hdepth (by simp [DbConfig.toEntries, ApiConfig.toEntries, names])
      (by simp [names])
      (List.forall_mem_append.mpr ⟨config.db.isSetting_of_mem, config.api.isSetting_of_mem⟩)
  obtain ⟨hdb, hapi⟩ := List.forall_mem_append.mp hrest.shown
  obtain ⟨-, hown⟩ := List.forall_mem_append.mp h.shown
  simp only [List.forall_mem_cons] at hown
  obtain ⟨hdir, htablePrefix, htables, htrim, -⟩ := hown
  rw [ofTree?, hentries, Option.bind_eq_bind, Option.bind_some]
  rw [hothers, Option.bind_eq_bind, Option.bind_some]
  rw [config.db.ofEntries?_of_shown hdb, config.api.ofEntries?_of_shown hapi, hdir.textField,
    htablePrefix.textField, htables.textsField, htrim.boolField]
  rfl

end Limited

end TableCodegen
