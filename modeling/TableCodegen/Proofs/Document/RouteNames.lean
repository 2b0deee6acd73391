import TableCodegen.Proofs.Document.Exchange
import TableCodegen.Proofs.Document.RouteLines

/-!
# Regular entities

What has to hold of the names and the labels of an entity so that its route document is regular. Comments are
not among them: a comment goes to the end of a line, and takes one line.

Results:

* `RouteMember.regular_ofField`: the member of a field in every mode.
* `RouteDocument.regular_ofEntity`: the route document of a regular entity is regular.
-/

namespace TableCodegen

open TableCodegen.Text

/-! ## Specification -/

/-- A field whose name is a name, and whose tags can be written between backticks. -/
structure Field.Regular (field : Field) : Prop where
  name : Tame field.name.toList
  rawName : TagText field.rawName.toList
  enums : TagText field.enums.toList
  label : tagMark ∉ field.label.toList

structure IdInfo.Regular (id : IdInfo) : Prop where
  name : Tame id.name.toList
  namePlural : Tame id.namePlural.toList
  rawName : Tame id.rawName.toList
  rawNamePlural : TagText id.rawNamePlural.toList
  label : tagMark ∉ id.label.toList

/-- An entity whose names are names, and whose labels hold no backtick. -/
structure Entity.Regular (entity : Entity) : Prop where
  modelName : Named entity.modelName.toList
  objectName : TagText entity.objectName.toList
  groupName : Tame entity.groupName.toList
  routeName : Tame entity.routeName.toList
  listRouteName : Tame entity.listRouteName.toList
  id : ∀ id ∈ entity.id, id.Regular
  fields : ∀ field ∈ entity.fields, field.Regular

/-- Settings whose names are names. -/
structure ApiConfig.Regular (api : ApiConfig) : Prop where
  serviceName : Named api.serviceName.toList
  routePrefix : Tame api.routePrefix.toList
  groupPrefix : Tame api.groupPrefix.toList

/-! ## Tags -/

theorem tagText_append {u v : String} (hu : TagText u.toList) (hv : TagText v.toList) :
    TagText (u ++ v).toList := by
  rw [String.toList_append]
  exact hu.append hv

theorem tagText_intercalate {sep : String} {texts : List String} (hsep : TagText sep.toList)
    (h : ∀ text ∈ texts, TagText text.toList) : TagText (sep.intercalate texts).toList := by
  intro c hc
  rw [String.toList_intercalate] at hc
  rcases mem_intercalate hc with hc | ⟨piece, hpiece, hc⟩
  · exact hsep c hc
  · obtain ⟨text, htext, rfl⟩ := List.mem_map.mp hpiece
    exact h text htext c hc

theorem tagText_toText {key value : String} (hkey : TagText key.toList) (hvalue : TagText value.toList) :
    TagText (Tag.toText ⟨key, value⟩).toList :=
  tagText_append (tagText_append (tagText_append hkey (by decide)) hvalue) (by decide)

/-- A label without a backtick stays without one when it is made to fit between quotes. -/
theorem tagText_quotable {label : String} (h : tagMark ∉ label.toList) : TagText (quotable label).toList := by
  refine tagText_of_oneLine (oneLine_quotable label) fun hmem => ?_
  rcases (mem_of_mem_quotable hmem).2 with hquote | hmem
  · exact absurd hquote (by decide)
  · rcases mem_of_mem_singleLine hmem with hspace | hmem
    · exact absurd hspace (by decide)
    · exact h hmem.1

namespace MemberTag

theorem tagText_response {key : String} (h : TagText key.toList) : TagText (response key).body.toList := by
  refine tagText_intercalate (by decide) ?_
  rw [List.forall_mem_map]
  simp only [toTags, List.forall_mem_singleton]
  exact tagText_toText (by decide) h

theorem tagText_path {key : String} (h : TagText key.toList) : TagText (path key).body.toList := by
  refine tagText_intercalate (by decide) ?_
  rw [List.forall_mem_map]
  simp only [toTags, List.forall_mem_cons]
  exact ⟨tagText_toText (by decide) h, by decide, List.forall_mem_nil _⟩

theorem tagText_request {place : RequestPlace} {key : String} {presence : Presence} {rules : List Rule}
    {label : Option String} (hkey : TagText key.toList) (hpresence : TagText presence.toText.toList)
    (hrules : ∀ rule ∈ rules, TagText rule.toText.toList) (hlabel : ∀ text ∈ label, TagText text.toList) :
    TagText (request place key presence rules label).body.toList := by
  have hplace : TagText place.key.toList := by
    cases place <;> decide
  refine tagText_intercalate (by decide) ?_
  rw [List.forall_mem_map, toTags, List.forall_mem_append, List.forall_mem_append, List.forall_mem_singleton]
  refine ⟨⟨tagText_toText hplace (tagText_append hkey hpresence), forall_mem_clauseIf ?_⟩, ?_⟩
  · refine tagText_toText (by decide) (tagText_intercalate (by decide) ?_)
    rwa [List.forall_mem_map]
  · intro tag htag
    cases label with
    | none => cases htag
    | some text =>
      rw [List.mem_singleton.mp htag]
      exact tagText_toText (by decide) (hlabel text rfl)

end MemberTag

/-! ## Types -/

/-- The only brackets of a plain type are the empty braces of decoded JSON. -/
theorem Scalar.exists_sealed (s : Scalar) :
    OneLine s.toText.toList ∧ ∃ word, Balanced word ∧ Sealed s.toText.toList word := by
  cases s with
  | jsonMap =>
    refine ⟨by decide, [] ++ ([(.curly, true)] ++ [(.curly, false)]), .enclosed .curly .nil, ?_⟩
    have hword : Sealed "map[string]interface".toList [] := sealed_of_not_mem (by decide)
    have hopen : Sealed ['\x7b'] [(.curly, true)] := sealed_bracket rfl
    have hclose : Sealed ['\x7d'] [(.curly, false)] := sealed_bracket rfl
    exact hword.append (hopen.append hclose)
  | _ => exact ⟨by decide, [], .nil, sealed_of_not_mem (by decide)⟩

theorem MemberType.exists_sealed (type : MemberType) :
    OneLine type.toText.toList ∧ ∃ word, Balanced word ∧ Sealed type.toText.toList word := by
  cases type with
  | scalar s => exact s.exists_sealed
  | pointer s =>
    obtain ⟨hone, word, hword, hsealed⟩ := s.exists_sealed
    have hstar : OneLine "*".toList := by decide
    have hpointer : Sealed "*".toList [] := sealed_of_not_mem (by decide)
    rw [toText, String.toList_append]
    exact ⟨hstar.append hone, word, hword, hpointer.append hsealed⟩
  | sqlNull w => cases w <;> exact ⟨by decide, [], .nil, sealed_of_not_mem (by decide)⟩
  | gureguNull w => cases w <;> exact ⟨by decide, [], .nil, sealed_of_not_mem (by decide)⟩
  | unknown => exact ⟨by decide, [], .nil, sealed_of_not_mem (by decide)⟩

/-- The model that a type names, if any. -/
def RouteType.model? : RouteType → Option String
  | declared name | listOfDeclared name => some name
  | _ => none

theorem RouteType.exists_fragment {type : RouteType} (h : ∀ name ∈ type.model?, Named name.toList) :
    OneLine type.toText.toList ∧ ∃ word, Balanced word ∧ Fragment type.toText.toList word := by
  have hlist : OneLine "[]".toList := by decide
  have hbrackets : Sealed "[]".toList [] := sealed_of_not_mem (by decide)
  cases type with
  | plain type =>
    obtain ⟨hone, word, hword, hsealed⟩ := type.exists_sealed
    exact ⟨hone, word, hword, hsealed.fragment⟩
  | listOf type =>
    obtain ⟨hone, word, hword, hsealed⟩ := type.exists_sealed
    rw [toText, String.toList_append]
    exact ⟨hlist.append hone, word, hword, (hbrackets.append hsealed).fragment⟩
  | declared name =>
    have hname := h name rfl
    exact ⟨hname.tame.oneLine, [], .nil, hname.fragment⟩
  | listOfDeclared name =>
    have hname := h name rfl
    rw [toText, String.toList_append]
    exact ⟨hlist.append hname.tame.oneLine, [], .nil, hbrackets.append_fragment hname.fragment⟩

/-! ## Members -/

theorem RouteMember.regular {member : RouteMember} (hname : Tame member.name.toList)
    (htype : ∀ name ∈ member.type.model?, Named name.toList) (htag : TagText member.tag.body.toList)
    (hcomment : OneLine member.comment.toList) : member.Regular :=
  ⟨hname, (RouteType.exists_fragment htype).2, (RouteType.exists_fragment htype).1, htag, hcomment⟩

theorem tagText_rulesOf {enums : String} (h : TagText enums.toList) (required : Bool) :
    ∀ rule ∈ RouteMember.rulesOf required enums, TagText rule.toText.toList := by
  have hone : TagText (Rule.oneOf enums).toText.toList := tagText_append (by decide) h
  unfold RouteMember.rulesOf
  split
  · rw [List.forall_mem_append, List.forall_mem_singleton]
    exact ⟨by decide, forall_mem_clauseIf hone⟩
  · split
    · exact List.forall_mem_nil _
    · rw [List.forall_mem_cons, List.forall_mem_singleton]
      exact ⟨by decide, hone⟩

theorem RouteMember.regular_ofField {field : Field} (h : field.Regular) (mode : Mode) :
    (RouteMember.ofField mode field).Regular := by
  refine RouteMember.regular h.name (fun name hname => by cases hname) ?_ (oneLine_singleLine _)
  show TagText (tagOf mode field).body.toList
  unfold tagOf
  split
  · exact MemberTag.tagText_response h.rawName
  · split
    · exact MemberTag.tagText_path h.rawName
    · have hpresence : ∀ required : Bool,
          TagText (if required then Presence.mandatory else Presence.optional).toText.toList := by decide
      refine MemberTag.tagText_request h.rawName (hpresence _) (tagText_rulesOf h.enums _) fun text htext => ?_
      by_cases hempty : field.label.isEmpty = true
      · rw [if_pos hempty] at htext
        cases htext
      · rw [if_neg hempty, Option.mem_some_iff] at htext
        rw [← htext]
        exact tagText_quotable h.label

/-! ## Members that every document has -/

theorem not_declared {type : MemberType} {name : String} (h : name ∈ (RouteType.plain type).model?) :
    Named name.toList := by
  cases h

theorem regular_pageMember (place : RequestPlace) : (pageMember place).Regular := by
  cases place <;> exact RouteMember.regular (by decide) (fun _ => not_declared) (by decide) (by decide)

theorem regular_pageSizeMember (place : RequestPlace) : (pageSizeMember place).Regular := by
  cases place <;> exact RouteMember.regular (by decide) (fun _ => not_declared) (by decide) (by decide)

theorem regular_totalMember : totalMember.Regular :=
  RouteMember.regular (by decide) (fun _ => not_declared) (by decide) (by decide)

theorem regular_listMember {model : String} (h : Named model.toList) : (listMember model).Regular := by
  have hname : Tame "List".toList := by decide
  have htag : TagText (MemberTag.response "list").body.toList := by decide
  have hcomment : OneLine "列表".toList := by decide
  exact RouteMember.regular hname (fun name hmem => Option.some.inj hmem ▸ h) htag hcomment

namespace IdInfo.Regular

variable {id : IdInfo} (h : id.Regular)

include h

theorem responseMember : id.responseMember.Regular :=
  RouteMember.regular h.name (fun _ => not_declared) (MemberTag.tagText_response h.rawName.tagText)
    (oneLine_singleLine _)

theorem pathMember : id.pathMember.Regular :=
  RouteMember.regular h.name (fun _ => not_declared) (MemberTag.tagText_path h.rawName.tagText)
    (oneLine_singleLine _)

theorem batchMember : id.batchMember.Regular := by
  have htype : ∀ name ∈ (RouteType.listOf id.type).model?, Named name.toList := fun name hname => by cases hname
  refine RouteMember.regular h.namePlural htype ?_ (oneLine_singleLine _)
  refine MemberTag.tagText_request h.rawNamePlural (by decide) (by decide) fun text htext => ?_
  rw [← Option.some.inj htext]
  exact tagText_quotable h.label

end IdInfo.Regular

/-! ## Handlers -/

/-- A model name between fixed words. -/
theorem named_handler {model : String} (h : Named model.toList) (action : RouteAction) :
    Named (action.handler model).toList := by
  have hword : ∀ word : String, Tame word.toList → '/' ∉ word.toList → Named (word ++ model).toList := by
    intro word htame hslash
    rw [String.toList_append]
    exact h.prepend htame hslash
  cases action with
  | list =>
    rw [RouteAction.handler, String.toList_append]
    exact (hword "Get" (by decide) (by decide)).append (by decide) (by decide)
  | _ => exact hword _ (by decide) (by decide)

theorem named_request {model : String} (h : Named model.toList) (action : RouteAction) :
    Named (action.request model).toList := by
  rw [RouteAction.request, String.toList_append]
  exact (named_handler h action).append (by decide) (by decide)

theorem named_response {model : String} (h : Named model.toList) (action : RouteAction) :
    Named (action.response model).toList := by
  rw [RouteAction.response, String.toList_append]
  exact (named_handler h action).append (by decide) (by decide)

/-! ## Documents of entities -/

theorem tame_fixed {text : String} (h : Tame text.toList) : Tame (Segment.fixed text).toText.toList :=
  tame_append_text (by decide) h

theorem tame_parameter {name : String} (h : Tame name.toList) : Tame (Segment.parameter name).toText.toList :=
  tame_append_text (by decide) h

namespace Entity.Regular

variable {entity : Entity} (h : entity.Regular)

include h

theorem regular_membersIn (mode : Mode) : ∀ member ∈ entity.membersIn mode, member.Regular := by
  intro member hmember
  obtain ⟨field, hfield, rfl⟩ := List.mem_map.mp hmember
  exact RouteMember.regular_ofField (h.fields field (List.mem_of_mem_filter hfield)) mode

theorem regular_modelMember : entity.modelMember.Regular := by
  have hcomment : OneLine "".toList := by decide
  exact RouteMember.regular h.modelName.tame (fun name hmem => Option.some.inj hmem ▸ h.modelName)
    (MemberTag.tagText_response h.objectName) hcomment

theorem allMembers : entity.AllMembers RouteMember.Regular where
  fields := h.regular_membersIn
  id := fun id hid => ⟨(h.id id hid).responseMember, (h.id id hid).pathMember, (h.id id hid).batchMember⟩
  model := h.regular_modelMember
  page := regular_pageMember
  pageSize := regular_pageSizeMember
  total := regular_totalMember
  list := regular_listMember h.modelName

theorem regular_exchanges :
    ∀ exchange ∈ entity.exchanges, exchange.request.Regular ∧ exchange.response.Regular := by
  intro exchange hexchange
  obtain ⟨hrequest, hresponse⟩ := h.allMembers.exchanges exchange hexchange
  obtain ⟨action, -, hin, hout⟩ := exists_action hexchange
  refine ⟨⟨?_, hrequest⟩, ?_, hresponse⟩
  · rw [hin]
    exact named_request h.modelName action
  · rw [hout]
    exact named_response h.modelName action

/-- What a route does is told by the label of the table, or by the name of the model. -/
theorem oneLine_docLabel : '"' ∉ entity.docLabel.toList ∧ OneLine entity.docLabel.toList := by
  unfold docLabel
  dsimp only
  split
  · exact ⟨fun hmem => h.modelName.tame '"' hmem (by decide), h.modelName.tame.oneLine⟩
  · exact ⟨fun hmem => (mem_of_mem_quotable hmem).1 rfl, oneLine_quotable _⟩

theorem oneLine_doc (action : RouteAction) :
    '"' ∉ (action.doc entity.docLabel).toList ∧ OneLine (action.doc entity.docLabel).toList := by
  obtain ⟨hquote, hone⟩ := h.oneLine_docLabel
  have hverb : '"' ∉ action.docVerb.toList ∧ OneLine action.docVerb.toList := by cases action <;> decide
  have hnoun : '"' ∉ action.docNoun.toList ∧ OneLine action.docNoun.toList := by cases action <;> decide
  rw [action.doc_eq, String.toList_append, String.toList_append, List.mem_append, List.mem_append, not_or, not_or]
  exact ⟨⟨⟨hverb.1, hquote⟩, hnoun.1⟩, (hverb.2.append hone).append hnoun.2⟩

theorem regular_route (action : RouteAction) (method : HttpMethod) {path : List Segment}
    (hpath : ∀ segment ∈ path, Tame segment.toText.toList) : (entity.route action method path).Regular where
  doc := (h.oneLine_doc action).1
  docLine := (h.oneLine_doc action).2
  handler := (named_handler h.modelName action).tame
  path := hpath
  request := named_request h.modelName action
  response := named_response h.modelName action

theorem regular_keyedRoutes {id : IdInfo} (hid : id.Regular) : ∀ route ∈ entity.keyedRoutes id, route.Regular := by
  have hone : ∀ segment ∈ [Segment.fixed entity.routeName, .parameter id.rawName],
      Tame segment.toText.toList := by
    rw [List.forall_mem_cons, List.forall_mem_singleton]
    exact ⟨tame_fixed h.routeName, tame_parameter hid.rawName⟩
  have hbatch : ∀ segment ∈ [Segment.fixed entity.listRouteName, .fixed "batch"],
      Tame segment.toText.toList := by
    rw [List.forall_mem_cons, List.forall_mem_singleton]
    exact ⟨tame_fixed h.listRouteName, by decide⟩
  simp only [keyedRoutes, List.forall_mem_cons]
  exact ⟨h.regular_route _ _ hone, h.regular_route _ _ hbatch, h.regular_route _ _ hone,
    h.regular_route _ _ hbatch, h.regular_route _ _ hone, List.forall_mem_nil _⟩

theorem regular_routes : ∀ route ∈ entity.routes, route.Regular := by
  rw [routes, List.forall_mem_append, List.forall_mem_append, List.forall_mem_singleton, List.forall_mem_cons,
    List.forall_mem_singleton]
  refine ⟨⟨h.regular_route _ _ ?_, fun route hmem => ?_⟩, h.regular_route _ _ ?_, h.regular_route _ _ ?_⟩
  · rw [List.forall_mem_singleton]
    exact tame_fixed h.routeName
  · obtain ⟨id, hid, hmem⟩ := List.mem_flatMap.mp hmem
    exact h.regular_keyedRoutes (h.id id (Option.mem_toList.mp hid)) route hmem
  · rw [List.forall_mem_singleton]
    exact tame_fixed h.listRouteName
  · rw [List.forall_mem_cons, List.forall_mem_singleton]
    exact ⟨tame_fixed h.listRouteName, by decide⟩

end Entity.Regular

/-- The path of a service holds the characters of the two prefixes. -/
theorem ApiConfig.Regular.tame_serverPath {api : ApiConfig} (h : api.Regular) : Tame api.serverPath.toList := by
  have hpart : ∀ part : String, Tame part.toList → Tame (dropAroundWhile (· == '/') part.toList) := by
    intro part htame c hc
    have hmem : c ∈ part.toList.dropWhile (· == '/') := by
      have hrest := List.dropWhile_suffix (· == '/') (l := (part.toList.dropWhile (· == '/')).reverse)
      exact List.mem_reverse.mp (hrest.subset (List.mem_reverse.mp hc))
    exact htame c ((List.dropWhile_suffix _).subset hmem)
  intro c hc
  rw [ApiConfig.serverPath, String.toList_join] at hc
  obtain ⟨text, htext, hmem⟩ := List.mem_flatMap.mp hc
  obtain ⟨part, hpart', rfl⟩ := List.mem_map.mp htext
  obtain ⟨raw, hraw, rfl⟩ := List.mem_map.mp (List.mem_of_mem_filter hpart')
  have htame : Tame raw.toList := by
    simp only [List.mem_cons, List.not_mem_nil, or_false] at hraw
    rcases hraw with rfl | rfl
    · exact h.routePrefix
    · exact h.groupPrefix
  rw [String.toList_append] at hmem
  rcases List.mem_append.mp hmem with hmem | hmem
  · have hslash : Tame "/".toList := by decide
    exact hslash c hmem
  · rw [String.toList_ofList] at hmem
    exact hpart raw htame c hmem

/-- The route document of a regular entity is regular. -/
theorem RouteDocument.regular_ofEntity {entity : Entity} {api : ApiConfig} (h : entity.Regular)
    (hapi : api.Regular) : (RouteDocument.ofEntity entity api).Regular where
  comment := oneLine_singleLine entity.tableComment
  model := ⟨h.modelName, h.regular_membersIn .model⟩
  exchanges := h.regular_exchanges
  serverPath := hapi.tame_serverPath
  group := h.groupName
  service := hapi.serviceName
  routes := h.regular_routes

end TableCodegen
