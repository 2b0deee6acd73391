import TableCodegen.Proofs.Document.Comments
import TableCodegen.Proofs.Document.RouteSource
import TableCodegen.Proofs.Layout.NestedOutline

/-!
# The layout of route documents

The layout finds two blocks in a route document, the model and the group with all other types, whatever the
fields are and whatever their comments say. All lines around them are indented by the brackets that are open.

Results:

* `RouteDocument.Plain.lays_outline`: the outline of a route document.
* `RouteDocument.Plain.exists_layOut`: the layout of a route document.
* `route_document_laid_out`: what the formatter gets of an entity, and how its document comes out.
-/

namespace TableCodegen

open TableCodegen.Text

/-! ## Specification -/

/-- All names of an entity that go into its route document. -/
def Entity.names (entity : Entity) : List String :=
  [entity.modelName, entity.objectName, entity.groupName, entity.routeName, entity.listRouteName] ++
    entity.id.toList.flatMap (fun id => [id.name, id.namePlural, id.rawName, id.rawNamePlural]) ++
    entity.fields.flatMap fun field => [field.name, field.rawName]

/-- An entity as tables and settings give it: with names, a model name that starts with a capital letter, and
comments without backticks. The allowed values of a field are words of a tag. -/
structure Entity.Proper (entity : Entity) : Prop where
  names : ∀ name ∈ entity.names, IsName name
  capital : ∃ c ∈ entity.modelName.toList.head?, Unicode.isUpper c = true
  labels : ∀ label ∈ entity.labels, tagMark ∉ label.toList
  enums : ∀ field ∈ entity.fields, TagText field.enums.toList

/-- The names in the settings. -/
def ApiConfig.names (api : ApiConfig) : List String :=
  [api.serviceName, api.routePrefix, api.groupPrefix]

/-! ## Outlines -/

namespace RouteDocument

namespace Plain

variable {document : RouteDocument} (h : document.Plain)

include h

/-- The first line of the model starts a block. -/
theorem word_model :
    "type".toList <+: codePart (indented 0 ("type " ++ document.model.name ++ " \x7b")).toList := by
  have hnamed := h.model.regular.named_opening 0 isOpening_type
  have hline : (indented 0 ("type " ++ document.model.name ++ " \x7b")).toList =
      List.replicate 0 '\t' ++ ("type ".toList ++ (document.model.name.toList ++ [' '])) ++ ['\x7b'] := by
    rw [toList_indented]
    simp
  have hstart : trimStart (List.replicate 0 '\t' ++ ("type ".toList ++ (document.model.name.toList ++ [' ']))) =
      "type".toList ++ (' ' :: (document.model.name.toList ++ [' '])) :=
    trimStart_cons rfl _
  rw [hline, codePart_declaration hnamed (Or.inl rfl), hstart, List.append_assoc]
  exact List.prefix_append _ _

omit h in
theorem opensBlock_service (hregular : document.Regular) :
    opensBlock (codePart ("service " ++ document.service ++ " \x7b").toList) = false := by
  have hname : Named (document.service.toList ++ [' ']) := hregular.service.append (by decide) (by decide)
  have hfront : Named ("service ".toList ++ (document.service.toList ++ [' '])) :=
    hname.prepend (by decide) (by decide)
  have hline : ("service " ++ document.service ++ " \x7b").toList =
      "service ".toList ++ (document.service.toList ++ [' ']) ++ ['\x7b'] := by
    simp
  rw [hline, codePart_declaration hfront (Or.inl rfl)]
  rfl

/-- No line of the service starts a block. -/
theorem opensBlock_serviceLines :
    ∀ line ∈ document.serviceLines.map String.toList, opensBlock (codePart line) = false := by
  have hquiet : ∀ line, QuietLine line → opensBlock (codePart line) = false :=
    fun line hline => Lays.opensBlock_eq_false hline.code.opens
  have hround : opensBlock (codePart ")".toList) = false := by decide
  have hcurly : opensBlock (codePart "\x7d".toList) = false := by decide
  have hserver : opensBlock (codePart "@server (".toList) = false := by decide
  have hservice := opensBlock_service h.regular
  have hsettings := h.regular.quietLine_settings
  have hroutes := h.regular.quietLine_routes
  rw [serviceLines_eq, List.map_append, List.map_cons, List.map_cons, List.map_append, List.map_append,
    List.forall_mem_append,
    List.forall_mem_cons, List.forall_mem_cons, List.forall_mem_append, List.forall_mem_append]
  exact ⟨⟨hserver, fun line hline => hquiet line (hsettings line hline), List.forall_mem_singleton.mpr hround⟩,
    hservice, fun line hline => hquiet line (hroutes line hline), List.forall_mem_singleton.mpr hcurly⟩

/-- The outline of a route document: the model and the group are its blocks. -/
theorem lays_outline : Lays {} document.outline := by
  have hround : ClosingLine .round ")".toList := closingLine 0 rfl
  have hcurly : ClosingLine .curly (indented 0 "\x7d").toList := closingLine_indented 0 rfl rfl
  have hblank : ∀ line ∈ [([] : List Char)], QuietLine line := List.forall_mem_singleton.mpr quietLine_nil
  have hempty : Part.ofLine "" = .line [] := rfl
  obtain ⟨list, hbody, hmodel⟩ := h.exists_model_lines
  have hmembers := h.model.regular.quietLine_members 0
  rw [hbody] at hmembers
  have hservice : ∀ around, Lays around (document.serviceLines.map Part.ofLine) := by
    intro around
    have hlines := Lays.lines h.opensBlock_serviceLines around
    rwa [List.map_map] at hlines
  have hgroup : ∀ around : Surroundings, around.indent = 0 → Lays around
      (.ofLines ("type (" :: (document.exchangeLines ++ [")"])) ::
        .ofLine "" :: document.serviceLines.map Part.ofLine) := by
    intro around hindent
    have hbehind : ∀ behind : Surroundings, behind.indent = 0 →
        Lays behind (.ofLine "" :: document.serviceLines.map Part.ofLine) :=
      fun behind _ => Lays.quiet hblank fun more _ => hservice more
    have hblock := Lays.block hindent (by decide) openingLine_group h.regular.wellNested_exchanges hround hbehind
    simpa [Part.ofLines] using hblock
  have hall : ∀ around : Surroundings, around.indent = 0 → Lays around
      (.ofLines (document.model.lines 0 "type ") :: .ofLine "" ::
        .ofLines ("type (" :: (document.exchangeLines ++ [")"])) ::
          .ofLine "" :: document.serviceLines.map Part.ofLine) := by
    intro around hindent
    have hblock := Lays.block hindent h.word_model (h.model.regular.openingLine 0 isOpening_type)
      (.of_quiet hmembers) hcurly fun behind hbehind =>
        Lays.quiet hblank fun more hmore => hgroup more (hmore.trans hbehind)
    rw [hmodel]
    simpa [Part.ofLines, TypeBody.toList, hempty] using hblock
  have hhead : Lays {} _ := Lays.quiet h.regular.quietLine_head fun behind hbehind => hall behind hbehind
  rw [List.map_map] at hhead
  rw [outline, List.append_assoc]
  exact hhead

theorem lines_outline : document.outline.flatMap Part.lines = document.lines.map String.toList := by
  obtain ⟨list, -, hmodel⟩ := h.exists_model_lines
  have hlines : ∀ ls : List String, (ls.map Part.ofLine).flatMap Part.lines = ls.map String.toList := by
    intro ls
    rw [List.flatMap_map]
    exact List.flatMap_pure_eq_map _ ls
  have hblock : ∀ first : String, ∀ rest : List String,
      (Part.ofLines (first :: rest)).lines = (first :: rest).map String.toList := fun _ _ => rfl
  have hempty : (Part.ofLine "").lines = [[]] := rfl
  rw [lines_eq, hmodel]
  simp [outline, hmodel, hlines, hblock, hempty]

/-- The layout of a plain route document, if the formatter takes its two sources. -/
theorem exists_layOut {formatter : SourceFormatter} (hmodel : ∃ out, formatter document.modelSource = .ok out)
    (hgroup : ∃ out, formatter document.groupSource = .ok out) :
    ∃ out text, layOut formatter document.toText = .ok out ∧
      submitted formatter (blocks document.toText) = [document.modelSource, document.groupSource] ∧
      NestedLayout formatter document.toText out document.outline text := by
  have hlast : ∃ front, document.lines.map String.toList = front ++ [['\x7d']] := by
    have hline : ("\x7d" : String).toList = ['\x7d'] := rfl
    refine ⟨(document.headLines ++ (document.model.lines 0 "type " ++ ([""] ++
      ("type (" :: (document.exchangeLines ++ [")"]) ++ ([""] ++
        ("@server (" :: (document.settingLines ++ [")"]) ++
          ("service " ++ document.service ++ " \x7b") :: document.routeLines)))))).map String.toList, ?_⟩
    rw [lines_eq, serviceLines_eq]
    simp [hline]
  have hnested := h.regular.wellNested
  have hlines : Text.lines document.toText.toList = document.lines.map String.toList :=
    lines_textOfLines hnested.oneLine hlast
  have hformat : ∀ source ∈ document.outline.filterMap Part.source?,
      ∃ formatted, formatter source = .ok formatted := by
    rw [h.source?_outline, List.forall_mem_cons, List.forall_mem_singleton]
    exact ⟨hmodel, hgroup⟩
  obtain ⟨out, text, hout, hlayout⟩ :=
    TableCodegen.exists_layOut h.lays_outline (h.lines_outline.trans hlines.symm)
    (by rw [hlines]; exact hnested.shaped) h.regular.delimiter hformat
  exact ⟨out, text, hout, hlayout.sources.trans h.source?_outline, hlayout⟩

end Plain

end RouteDocument

/-! ## Route documents of entities -/

namespace RouteAction

/-- The first letter of a handler. -/
def initial : RouteAction → Char
  | create => 'C'
  | update => 'U'
  | batchUpdate | batchDelete => 'B'
  | delete => 'D'
  | get | list => 'G'
  | filter => 'F'

theorem head?_handler (action : RouteAction) (model suffix : String) :
    (action.handler model ++ suffix).toList.head? = some action.initial := by
  cases action <;> simp [handler, initial]

theorem solid_handler {model : String} (h : ∀ c ∈ model.toList, isBlank c = false) (action : RouteAction) :
    ∀ c ∈ (action.handler model).toList, isBlank c = false := by
  have hword : ∀ word : String, (∀ c ∈ word.toList, isBlank c = false) →
      ∀ c ∈ (word ++ model).toList, isBlank c = false := by
    intro word hword
    rw [String.toList_append, List.forall_mem_append]
    exact ⟨hword, h⟩
  cases action with
  | list =>
    have hend : ∀ c ∈ "List".toList, isBlank c = false := by decide
    rw [handler, String.toList_append, List.forall_mem_append]
    exact ⟨hword "Get" (by decide), hend⟩
  | _ => exact hword _ (by decide)

/-- The names of the types of a route. -/
theorem plainName_handler {model suffix : String} (hmodel : ∀ c ∈ model.toList, isBlank c = false)
    (hsuffix : ∀ c ∈ suffix.toList, isBlank c = false) (action : RouteAction) :
    PlainName (action.handler model ++ suffix).toList := by
  have hhead := head?_handler action model suffix
  refine ⟨?_, fun hnil => ?_, ?_⟩
  · rw [String.toList_append, List.forall_mem_append]
    exact ⟨solid_handler hmodel action, hsuffix⟩
  · rw [hnil] at hhead
    cases hhead
  · rw [hhead]
    cases action <;> decide

end RouteAction

namespace Entity.Proper

variable {entity : Entity} (h : entity.Proper)

include h

theorem isName {name : String} (hmem : name ∈ entity.names) : IsName name :=
  h.names name hmem

theorem isName_model : IsName entity.modelName :=
  h.isName (by simp [Entity.names])

theorem isName_id {id : IdInfo} (hid : id ∈ entity.id) :
    IsName id.name ∧ IsName id.namePlural ∧ IsName id.rawName ∧ IsName id.rawNamePlural := by
  have hmem : ∀ name ∈ [id.name, id.namePlural, id.rawName, id.rawNamePlural], IsName name := by
    intro name hname
    have hids : name ∈ entity.id.toList.flatMap
        fun id => [id.name, id.namePlural, id.rawName, id.rawNamePlural] :=
      List.mem_flatMap.mpr ⟨id, Option.mem_toList.mpr hid, hname⟩
    exact h.isName (List.mem_append_left _ (List.mem_append_right _ hids))
  simpa using hmem

theorem isName_field {field : Field} (hfield : field ∈ entity.fields) :
    IsName field.name ∧ IsName field.rawName := by
  have hmem : ∀ name ∈ [field.name, field.rawName], IsName name := by
    intro name hname
    have hfields : name ∈ entity.fields.flatMap fun field => [field.name, field.rawName] :=
      List.mem_flatMap.mpr ⟨field, hfield, hname⟩
    exact h.isName (List.mem_append_right _ hfields)
  simpa using hmem

theorem regular : entity.Regular := by
  obtain ⟨hfields, hid⟩ : (∀ field ∈ entity.fields, tagMark ∉ field.label.toList) ∧
      ∀ id ∈ entity.id.toList, tagMark ∉ id.label.toList := by
    have hlabels := h.labels
    rwa [Entity.labels, List.forall_mem_append, List.forall_mem_map, List.forall_mem_map] at hlabels
  exact {
    modelName := h.isName_model.named
    objectName := (h.isName (by simp [Entity.names])).tame.tagText
    groupName := (h.isName (by simp [Entity.names])).tame
    routeName := (h.isName (by simp [Entity.names])).tame
    listRouteName := (h.isName (by simp [Entity.names])).tame
    id := fun id hmem => by
      obtain ⟨hname, hplural, hraw, hrawPlural⟩ := h.isName_id hmem
      exact ⟨hname.tame, hplural.tame, hraw.tame, hrawPlural.tame.tagText, hid id (Option.mem_toList.mpr hmem)⟩
    fields := fun field hmem => by
      obtain ⟨hname, hraw⟩ := h.isName_field hmem
      exact ⟨hname.tame, hraw.tame.tagText, h.enums field hmem, hfields field hmem⟩ }

/-- All members of all types have names. -/
theorem named_members : entity.AllMembers fun member => Named member.name.toList := by
  have hpage : Named "Page".toList := named_of_not_mem (by decide) (by decide)
  have hpageSize : Named "PageSize".toList := named_of_not_mem (by decide) (by decide)
  have htotal : Named "Total".toList := named_of_not_mem (by decide) (by decide)
  have hlist : Named "List".toList := named_of_not_mem (by decide) (by decide)
  refine ⟨fun mode member hmember => ?_, fun id hid => ?_, h.isName_model.named, fun _ => hpage,
    fun _ => hpageSize, htotal, hlist⟩
  · obtain ⟨field, hfield, rfl⟩ := List.mem_map.mp hmember
    exact (h.isName_field (List.mem_of_mem_filter hfield)).1.named
  · obtain ⟨hname, hplural, -, -⟩ := h.isName_id hid
    exact ⟨hname.named, hname.named, hplural.named⟩

theorem plainName_model : PlainName entity.modelName.toList := by
  obtain ⟨c, hc, hupper⟩ := h.capital
  refine ⟨h.isName_model.solid, fun hnil => ?_, fun hhead => ?_⟩
  · rw [hnil] at hc
    cases hc
  · rw [hhead] at hc
    obtain rfl : 's' = c := Option.some.inj hc
    revert hupper
    decide

/-- The route document of a proper entity is plain. -/
theorem plain {api : ApiConfig} (hapi : ∀ name ∈ api.names, IsName name) :
    (RouteDocument.ofEntity entity api).Plain := by
  have hregular : api.Regular := by
    obtain ⟨hservice, hroute, hgroup⟩ :
        IsName api.serviceName ∧ IsName api.routePrefix ∧ IsName api.groupPrefix := by
      simpa [ApiConfig.names] using hapi
    exact ⟨hservice.named, hroute.tame, hgroup.tame⟩
  have hdocument := RouteDocument.regular_ofEntity h.regular hregular
  refine ⟨hdocument, ⟨hdocument.model, h.plainName_model, h.named_members.fields .model⟩, ⟨_, rfl⟩, ?_⟩
  intro exchange hexchange
  obtain ⟨hrequest, hresponse⟩ := hdocument.exchanges exchange hexchange
  obtain ⟨hin, hout⟩ := h.named_members.exchanges exchange hexchange
  obtain ⟨action, -, hrequestName, hresponseName⟩ := Entity.exists_action hexchange
  have hsolid := h.isName_model.solid
  refine ⟨⟨hrequest, ?_, hin⟩, hresponse, ?_, hout⟩
  · rw [hrequestName]
    exact action.plainName_handler hsolid (by decide)
  · rw [hresponseName]
    exact action.plainName_handler hsolid (by decide)

end Entity.Proper

/-- **The layout of a route document.** The formatter is given two sources, the model and the group of all other
types, each with the keyword in front of the brace of every type and with all members in order; every line
outside these two blocks stands behind a tab for every bracket that is open around it. -/
theorem route_document_laid_out (entity : Entity) (api : ApiConfig) (formatter : SourceFormatter)
    (hentity : entity.Proper) (hapi : ∀ name ∈ api.names, IsName name)
    (hmodel : ∃ out, formatter (RouteDocument.ofEntity entity api).modelSource = .ok out)
    (hgroup : ∃ out, formatter (RouteDocument.ofEntity entity api).groupSource = .ok out) :
    ∃ out text, renderRoutes entity api .delimiter formatter = .ok out ∧
      submitted formatter (blocks (RouteDocument.ofEntity entity api).toText) =
        [(RouteDocument.ofEntity entity api).modelSource, (RouteDocument.ofEntity entity api).groupSource] ∧
      NestedLayout formatter (RouteDocument.ofEntity entity api).toText out
        (RouteDocument.ofEntity entity api).outline text := by
  have hplain := hentity.plain hapi
  obtain ⟨out, text, hout, hsources, hlayout⟩ := hplain.exists_layOut hmodel hgroup
  refine ⟨out, text, ?_, hsources, hlayout⟩
  unfold renderRoutes
  rw [formatRoutes_of_ok hplain.regular.delimiter, hout]
  rfl

theorem noisy_document_laid_out :
    (noisyEntity.Proper ∧ ∀ name ∈ noisyApi.names, IsName name) ∧
    ∃ out text, renderRoutes noisyEntity noisyApi .delimiter .verbatim = .ok out ∧
      NestedLayout .verbatim (RouteDocument.ofEntity noisyEntity noisyApi).toText out
        (RouteDocument.ofEntity noisyEntity noisyApi).outline text := by
  have hentity : noisyEntity.Proper :=
    ⟨by decide +kernel, ⟨'U', by decide +kernel, by decide⟩, by decide +kernel, by decide +kernel⟩
  have hapi : ∀ name ∈ noisyApi.names, IsName name := by decide +kernel
  obtain ⟨out, text, hout, -, hlayout⟩ :=
    route_document_laid_out noisyEntity noisyApi .verbatim hentity hapi ⟨_, rfl⟩ ⟨_, rfl⟩
  exact ⟨⟨hentity, hapi⟩, out, text, hout, hlayout⟩

end TableCodegen
