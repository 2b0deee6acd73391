import TableCodegen.CommandLine.Command
import TableCodegen.Proofs.Text.Blank

/-!
# Arguments over settings

A conversion puts its arguments over the settings of a file. Values that are given replace those of the file, and
switches that are named are turned on one after the other, until a name is none. The names are listed in one place,
are looked up in another and turn on fields in a third.

Results:

* `Service.ofText_eq_ok_iff`, `Service.mem_serviceNames_iff`: the switch of a name, and the names that have one.
* `GenerationConfig.turnOn_eq`: a switch is turned on and all else stays.
* `GenerationConfig.run_switchOn_of_not_mem`: a refused name leaves the settings as they are.
* `GenerationConfig.foldlM_enable_of_forall`, `GenerationConfig.foldlM_enable_of_first`: names in turn.
* `CommandLine.merge_outcome`: what comes out of a merge, and when.
-/

namespace TableCodegen

open TableCodegen.Text

/-! ## Names of switches -/

namespace Service

theorem mem_all (service : Service) : service ∈ all := by
  cases service <;> decide

theorem name_inj {service other : Service} (h : service.name = other.name) : service = other := by
  have hall : ∀ service ∈ all, ∀ other ∈ all, service.name = other.name → service = other := by decide
  exact hall service (mem_all service) other (mem_all other) h

/-- The list of names agrees with the switches. -/
theorem mem_serviceNames_iff {name : String} : name ∈ serviceNames ↔ ∃ service : Service, service.name = name := by
  have hnames : serviceNames = all.map Service.name := rfl
  simp [hnames, mem_all]

theorem ofText_eq_ok_iff {text : String} {service : Service} :
    ofText text = .ok service ↔ normalName text = service.name := by
  rw [ofText]
  cases hfind : all.find? fun service => service.name == normalName text with
  | none =>
    have hnone := List.find?_eq_none.mp hfind service (mem_all service)
    exact ⟨nofun, fun h => absurd (by simp [h]) hnone⟩
  | some found =>
    have hfound : found.name = normalName text := by simpa using List.find?_some hfind
    refine ⟨fun h => ?_, fun h => ?_⟩
    · rw [← Except.ok.inj h, hfound]
    · rw [name_inj (hfound.trans h)]

theorem ofText_of_not_mem {text : String} (h : normalName text ∉ serviceNames) :
    ofText text = .error (.invalidService (normalName text)) := by
  have hfind : (all.find? fun service => service.name == normalName text) = none := by
    rw [List.find?_eq_none]
    intro service _ hname
    exact h (mem_serviceNames_iff.mpr ⟨service, by simpa using hname⟩)
  rw [ofText, hfind]

/-- A blank name is none. -/
theorem isBlankText_of_normalName {text : String} {service : Service} (h : normalName text = service.name) :
    isBlankText text = false := by
  by_contra hblank
  rw [Bool.not_eq_false, isBlankText, List.all_eq_true] at hblank
  have htrim : trim text.toList = [] := trim_eq_nil_iff.mpr hblank
  rw [normalName, htrim] at h
  have hall : ∀ service ∈ all, String.ofList (Unicode.upperText []) ≠ service.name := by decide
  exact hall service (mem_all service) h

end Service

/-! ## Switches -/

namespace GenerationConfig

/-- The switch is on. -/
def isOn (config : GenerationConfig) : Service → Bool
  | .initialism => config.enableInitialism
  | .fieldComment => config.enableFieldComment
  | .sqlNull => config.enableSqlNull
  | .gureguNull => config.enableGureguNull
  | .jsonTag => config.enableJsonTag
  | .xmlTag => config.enableXmlTag
  | .gormTag => config.enableGormTag
  | .xormTag => config.enableXormTag
  | .beegoTag => config.enableBeegoTag
  | .goroseTag => config.enableGoroseTag
  | .gormV2Tag => config.enableGormV2Tag
  | .disableUnsigned => config.disableUnsigned

/-- The settings with all switches set anew. -/
def withSwitches (config : GenerationConfig) (on : Service → Bool) : GenerationConfig :=
  { config with
    enableInitialism := on .initialism
    enableFieldComment := on .fieldComment
    enableSqlNull := on .sqlNull
    enableGureguNull := on .gureguNull
    enableJsonTag := on .jsonTag
    enableXmlTag := on .xmlTag
    enableGormTag := on .gormTag
    enableXormTag := on .xormTag
    enableBeegoTag := on .beegoTag
    enableGoroseTag := on .goroseTag
    enableGormV2Tag := on .gormV2Tag
    disableUnsigned := on .disableUnsigned }

@[simp] theorem withSwitches_isOn (config : GenerationConfig) : config.withSwitches config.isOn = config := rfl

@[simp] theorem isOn_withSwitches (config : GenerationConfig) (on : Service → Bool) :
    (config.withSwitches on).isOn = on := by
  funext service
  cases service <;> rfl

@[simp] theorem withSwitches_withSwitches (config : GenerationConfig) (on other : Service → Bool) :
    (config.withSwitches on).withSwitches other = config.withSwitches other := rfl

/-- Of all settings, only the switch changes. -/
theorem turnOn_eq (config : GenerationConfig) (service : Service) :
    config.turnOn service = config.withSwitches fun other => config.isOn other || service == other := by
  cases service <;> simp [turnOn, withSwitches, isOn]

/-- A refused name leaves the settings as they are. -/
theorem run_switchOn_of_not_mem {text : String} (h : Service.normalName text ∉ serviceNames)
    (config : GenerationConfig) :
    (switchOn text).run config = .error (.invalidService (Service.normalName text)) config := by
  rw [switchOn, Service.ofText_of_not_mem h]
  rfl

theorem run_switchOn_of_name {text : String} {service : Service} (h : Service.normalName text = service.name)
    (config : GenerationConfig) : (switchOn text).run config = .ok () (config.turnOn service) := by
  rw [switchOn, Service.ofText_eq_ok_iff.mpr h]
  rfl

/-- A name is refused before anything changes. -/
theorem of_run_switchOn_error {text : String} {config after : GenerationConfig} {fault : ConfigFault}
    (h : (switchOn text).run config = .error fault after) :
    fault = .invalidService (Service.normalName text) ∧ after = config := by
  by_cases hname : Service.normalName text ∈ serviceNames
  · obtain ⟨service, hservice⟩ := Service.mem_serviceNames_iff.mp hname
    rw [run_switchOn_of_name hservice.symm] at h
    cases h
  · rw [run_switchOn_of_not_mem hname] at h
    cases h
    exact ⟨rfl, rfl⟩

/-! ## Names in turn -/

/-- The switches that are on once those of the names are turned on. -/
def isOnAfter (config : GenerationConfig) (names : List String) (service : Service) : Bool :=
  config.isOn service || names.any fun name => Service.normalName name == service.name

theorem enable_of_not_mem {name : String} (h : Service.normalName name ∉ serviceNames) (config : GenerationConfig) :
    config.enable name = .error (.invalidService (Service.normalName name)) := by
  rw [enable, run_switchOn_of_not_mem h]

theorem enable_of_mem {name : String} (h : Service.normalName name ∈ serviceNames) (config : GenerationConfig) :
    config.enable name = .ok (config.withSwitches (config.isOnAfter [name])) := by
  obtain ⟨service, hservice⟩ := Service.mem_serviceNames_iff.mp h
  have hon : (fun other => config.isOn other || service == other) = config.isOnAfter [name] := by
    funext other
    have hname : (service == other) = (Service.normalName name == other.name) := by
      rw [Bool.eq_iff_iff, beq_iff_eq, beq_iff_eq, ← hservice]
      exact ⟨congrArg Service.name, Service.name_inj⟩
    simp [isOnAfter, hname]
  rw [enable, run_switchOn_of_name hservice.symm, turnOn_eq, hon]

theorem foldlM_enable_of_forall {names : List String} (h : ∀ name ∈ names, Service.normalName name ∈ serviceNames)
    (config : GenerationConfig) :
    names.foldlM enable config = .ok (config.withSwitches (config.isOnAfter names)) := by
  induction names generalizing config with
  | nil =>
    have hon : config.isOnAfter [] = config.isOn := by
      funext service
      simp [isOnAfter]
    rw [hon, withSwitches_isOn]
    rfl
  | cons name names ih =>
    rw [List.forall_mem_cons] at h
    have hon : (config.withSwitches (config.isOnAfter [name])).isOnAfter names = config.isOnAfter (name :: names) := by
      funext service
      simp [isOnAfter, Bool.or_assoc]
    rw [List.foldlM_cons, enable_of_mem h.1]
    simp only [bind, Except.bind]
    rw [ih h.2, withSwitches_withSwitches, hon]

/-- The first name that is none is the one that is refused. -/
theorem foldlM_enable_of_first {before : List String} {name : String}
    (hbefore : ∀ name ∈ before, Service.normalName name ∈ serviceNames)
    (hname : Service.normalName name ∉ serviceNames) (after : List String) (config : GenerationConfig) :
    (before ++ name :: after).foldlM enable config = .error (.invalidService (Service.normalName name)) := by
  rw [List.foldlM_append, foldlM_enable_of_forall hbefore]
  simp only [bind, Except.bind, List.foldlM_cons]
  rw [enable_of_not_mem hname]

end GenerationConfig

/-! ## Merging -/

namespace CommandLine

/-- An entry that names a switch, or that does not count. -/
def IsAccepted (entry : String) : Prop :=
  isBlankText entry = true ∨ Service.normalName entry ∈ serviceNames

instance (entry : String) : Decidable (IsAccepted entry) :=
  inferInstanceAs (Decidable (_ ∨ _))

/-- The entry is the first in the list that is not accepted. -/
def IsFirstRefused (entries : List String) (entry : String) : Prop :=
  ¬ IsAccepted entry ∧ ∃ before after, entries = before ++ entry :: after ∧ ∀ other ∈ before, IsAccepted other

theorem forall_accepted_or_exists_first (entries : List String) :
    (∀ entry ∈ entries, IsAccepted entry) ∨ ∃ entry, IsFirstRefused entries entry := by
  cases hfind : entries.find? fun entry => decide ¬ IsAccepted entry with
  | none => exact Or.inl (by simpa using List.find?_eq_none.mp hfind)
  | some entry =>
    obtain ⟨hentry, before, after, hentries, hbefore⟩ := List.find?_eq_some_iff_append.mp hfind
    exact Or.inr ⟨entry, by simpa using hentry, before, after, hentries, by simpa using hbefore⟩

namespace ConvertArguments

/-- An entry of the arguments names the switch. -/
def Names (arguments : ConvertArguments) (service : Service) : Prop :=
  ∃ entry ∈ arguments.enable, Service.normalName entry = service.name

/-- The settings that the arguments make of others: what is given replaces what was there, what is named is turned
    on, and all else stays. -/
structure Merges (arguments : ConvertArguments) (config result : GenerationConfig) : Prop where
  host : result.db.host = arguments.host.getD config.db.host
  port : result.db.port = arguments.port.getD config.db.port
  user : result.db.user = arguments.user.getD config.db.user
  password : result.db.password = arguments.password.getD config.db.password
  database : result.db.database = arguments.database.getD config.db.database
  table : result.db.table = arguments.table.getD config.db.table
  packageName : result.packageName = arguments.packageName.getD config.packageName
  structName : result.structName = arguments.structName.getD config.structName
  isOn : ∀ service, result.isOn service = true ↔ config.isOn service = true ∨ arguments.Names service
  enableBoolDetection : result.enableBoolDetection = config.enableBoolDetection
  ignoreFields : result.ignoreFields = config.ignoreFields

section Merge

variable {arguments : ConvertArguments} {config : GenerationConfig}

/-- There is at most one such result. -/
theorem Merges.unique {result other : GenerationConfig} (h : arguments.Merges config result)
    (hother : arguments.Merges config other) : result = other := by
  have hdb : result.db = other.db := by
    obtain ⟨⟨host, port, user, password, database, table⟩, _⟩ := result
    obtain ⟨⟨host', port', user', password', database', table'⟩, _⟩ := other
    rw [DbConfig.mk.injEq]
    exact ⟨h.host.trans hother.host.symm, h.port.trans hother.port.symm, h.user.trans hother.user.symm,
      h.password.trans hother.password.symm, h.database.trans hother.database.symm, h.table.trans hother.table.symm⟩
  have hon : result.isOn = other.isOn := by
    funext service
    rw [Bool.eq_iff_iff, h.isOn, hother.isOn]
  rw [← result.withSwitches_isOn, ← other.withSwitches_isOn, hon]
  simp only [GenerationConfig.withSwitches, hdb, h.packageName, hother.packageName, h.structName, hother.structName,
    h.enableBoolDetection, hother.enableBoolDetection, h.ignoreFields, hother.ignoreFields]

theorem isOnAfter_filter_enable (service : Service) :
    config.isOnAfter (arguments.enable.filter (!isBlankText ·)) service = true ↔
      config.isOn service = true ∨ arguments.Names service := by
  simp only [GenerationConfig.isOnAfter, Bool.or_eq_true, List.any_eq_true, List.mem_filter, Bool.not_eq_true',
    beq_iff_eq]
  refine or_congr_right ⟨?_, ?_⟩
  · rintro ⟨entry, ⟨hentry, -⟩, hname⟩
    exact ⟨entry, hentry, hname⟩
  · rintro ⟨entry, hentry, hname⟩
    exact ⟨entry, ⟨hentry, Service.isBlankText_of_normalName hname⟩, hname⟩

theorem exists_merge (h : ∀ entry ∈ arguments.enable, IsAccepted entry) (config : GenerationConfig) :
    ∃ result, arguments.merge config = .ok result ∧ arguments.Merges config result := by
  have hnames : ∀ name ∈ arguments.enable.filter (!isBlankText ·), Service.normalName name ∈ serviceNames := by
    intro name hname
    rw [List.mem_filter] at hname
    exact (h name hname.1).resolve_left (by simpa using hname.2)
  refine ⟨_, GenerationConfig.foldlM_enable_of_forall hnames _, ?_⟩
  constructor
  case isOn =>
    intro service
    rw [GenerationConfig.isOn_withSwitches, isOnAfter_filter_enable]
    rfl
  all_goals rfl

theorem merge_of_isFirstRefused {entry : String} (h : IsFirstRefused arguments.enable entry)
    (config : GenerationConfig) :
    arguments.merge config = .error (.invalidService (Service.normalName entry)) := by
  obtain ⟨hrefused, before, after, hentries, hbefore⟩ := h
  rw [IsAccepted, not_or, Bool.not_eq_true] at hrefused
  have hnames : ∀ name ∈ before.filter (!isBlankText ·), Service.normalName name ∈ serviceNames := by
    intro name hname
    rw [List.mem_filter] at hname
    exact (hbefore name hname.1).resolve_left (by simpa using hname.2)
  rw [merge, hentries, List.filter_append, List.filter_cons_of_pos (by simp [hrefused.1])]
  exact GenerationConfig.foldlM_enable_of_first hnames hrefused.2 _ _

theorem of_merge_eq_ok {result : GenerationConfig} (hresult : arguments.merge config = .ok result) :
    (∀ entry ∈ arguments.enable, IsAccepted entry) ∧ arguments.Merges config result := by
  rcases forall_accepted_or_exists_first arguments.enable with h | ⟨entry, h⟩
  · obtain ⟨merged, hmerged, hmerges⟩ := exists_merge h config
    cases hmerged.symm.trans hresult
    exact ⟨h, hmerges⟩
  · cases (merge_of_isFirstRefused h config).symm.trans hresult

theorem exists_isFirstRefused {fault : ConfigFault} (hfault : arguments.merge config = .error fault) :
    ∃ entry, IsFirstRefused arguments.enable entry ∧ fault = .invalidService (Service.normalName entry) := by
  rcases forall_accepted_or_exists_first arguments.enable with h | ⟨entry, h⟩
  · obtain ⟨merged, hmerged, -⟩ := exists_merge h config
    cases hmerged.symm.trans hfault
  · cases (merge_of_isFirstRefused h config).symm.trans hfault
    exact ⟨entry, h, rfl⟩

/-- Entries in another order, or more than once, give the same settings. -/
theorem merge_reordered {entries : List String} (hentries : ∀ entry, entry ∈ entries ↔ entry ∈ arguments.enable)
    {result : GenerationConfig} (hresult : arguments.merge config = .ok result) :
    { arguments with enable := entries }.merge config = .ok result := by
  obtain ⟨haccepted, hmerges⟩ := of_merge_eq_ok hresult
  have haccepted' : ∀ entry ∈ { arguments with enable := entries }.enable, IsAccepted entry :=
    fun entry hentry => haccepted entry ((hentries entry).mp hentry)
  obtain ⟨other, hother, hmerges'⟩ := exists_merge haccepted' config
  have hnames (service : Service) :
      { arguments with enable := entries }.Names service ↔ arguments.Names service :=
    exists_congr fun entry => and_congr_left fun _ => hentries entry
  have hsame : arguments.Merges config other :=
    { hmerges' with isOn := fun service => (hmerges'.isOn service).trans (or_congr_right (hnames service)) }
  rw [hother, hsame.unique hmerges]

end Merge

end ConvertArguments

/-- A merge comes out just if every entry names a switch or is blank; otherwise it fails with the first entry that
    does not. What comes out depends neither on the order of the entries nor on repetitions. A name that is refused
    leaves the settings as they are. -/
theorem merge_outcome (arguments : ConvertArguments) (config : GenerationConfig) :
    ((∃ result, arguments.merge config = .ok result) ↔ ∀ entry ∈ arguments.enable, IsAccepted entry) ∧
    (∀ fault, arguments.merge config = .error fault ↔
      ∃ entry, IsFirstRefused arguments.enable entry ∧ fault = .invalidService (Service.normalName entry)) ∧
    (∀ result, arguments.merge config = .ok result → arguments.Merges config result) ∧
    (∀ entries : List String, (∀ entry, entry ∈ entries ↔ entry ∈ arguments.enable) →
      ∀ result, arguments.merge config = .ok result →
        { arguments with enable := entries }.merge config = .ok result) ∧
    ∀ service fault after, (GenerationConfig.switchOn service).run config = .error fault after → after = config := by
  refine ⟨⟨?_, fun h => ?_⟩, fun fault => ⟨ConvertArguments.exists_isFirstRefused, ?_⟩,
    fun result hresult => (ConvertArguments.of_merge_eq_ok hresult).2,
    fun entries hentries result => ConvertArguments.merge_reordered hentries, fun service fault after h => ?_⟩
  · rintro ⟨result, hresult⟩
    exact (ConvertArguments.of_merge_eq_ok hresult).1
  · obtain ⟨result, hresult, -⟩ := ConvertArguments.exists_merge h config
    exact ⟨result, hresult⟩
  · rintro ⟨entry, hentry, rfl⟩
    exact ConvertArguments.merge_of_isFirstRefused hentry config
  · exact (GenerationConfig.of_run_switchOn_error h).2

/-- A switch and a blank entry are passed over; the name that is refused is shown in capitals. -/
example :
    ({ enable := [" json_tag", "", "yaml_tag "] } : ConvertArguments).merge {} =
      .error (.invalidService "YAML_TAG") := by
  rfl

end CommandLine

end TableCodegen
