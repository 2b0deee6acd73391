import Mathlib.Algebra.GroupWithZero.Nat
import TableCodegen.Proofs.Document.CommentTexts
import TableCodegen.Proofs.Document.Exchange
import TableCodegen.Proofs.Document.RouteLines

/-!
# Line breaks in route documents

Comments go into route documents as comments, labels and words for routes, each on one line. So it does not depend on
their texts how many line breaks, tabs and other blanks but spaces a document has, with one exception: where a table
has no label, the words for its routes name the model, and that is written as it is.

Results:

* `countOf_textOfLines`: the blanks of a document, line by line.
* `RouteDocument.countOf_toText`: what the texts of comments bring into a document.
* `RouteDocument.uncommented_ofEntity`: nothing else depends on them.
* `comment_texts_keep_lines`: two tables that differ in comments.
* `label_changes_lines`: two tables that differ in the number of lines.
-/

namespace TableCodegen

open TableCodegen.Text

/-! ## Specification -/

/-- How often a character comes up in a text. -/
def countOf (c : Char) (text : String) : Nat :=
  text.toList.count c

/-- A text whose only blanks are spaces. -/
def Spaced (text : String) : Prop :=
  ∀ c ∈ text.toList, isBlank c = true → c = ' '

instance (text : String) : Decidable (Spaced text) :=
  inferInstanceAs (Decidable (∀ c ∈ text.toList, isBlank c = true → c = ' '))

/-- The route document of a table, before it is laid out. -/
def Table.routeText (table : Table) (config : GenerationConfig) (api : ApiConfig) : String :=
  (RouteDocument.ofEntity (buildEntity table config api) api).toText

/-- The label of a table. -/
def Table.label (table : Table) : String :=
  labelOf (singleLine table.comment)

/-! ## Counting -/

theorem countOf_append (c : Char) (u v : String) : countOf c (u ++ v) = countOf c u + countOf c v := by
  rw [countOf, String.toList_append, List.count_append]
  rfl

theorem spaced_singleLine (text : String) : Spaced (singleLine text) := by
  intro c hmem hblank
  by_contra hspace
  exact not_mem_singleLine hblank hspace text hmem

theorem spaced_quotable (text : String) : Spaced (quotable text) := by
  intro c hmem hblank
  obtain ⟨-, rfl | hmem⟩ := mem_of_mem_quotable hmem
  · exact absurd hblank (by decide)
  · exact spaced_singleLine text c hmem hblank

/-- The characters of lines, each with the line feed behind it. -/
def lineCounts (c : Char) (ls : List String) : List Nat :=
  ls.map fun line => countOf c (line ++ "\n")

theorem lineCounts_cons (c : Char) (line : String) (ls : List String) :
    lineCounts c (line :: ls) = countOf c (line ++ "\n") :: lineCounts c ls :=
  rfl

theorem lineCounts_append (c : Char) (u v : List String) : lineCounts c (u ++ v) = lineCounts c u ++ lineCounts c v :=
  List.map_append

/-- The blanks of a document, line by line. -/
theorem countOf_textOfLines (c : Char) {ls : List String} {front : List String} (h : ls = front ++ ["\x7d"]) :
    countOf c (textOfLines ls) = (lineCounts c ls).sum := by
  have hlast : ls.map String.toList = front.map String.toList ++ [['\x7d']] := by rw [h, List.map_append]; rfl
  rw [countOf, toList_textOfLines_of_closer hlast, blockText, List.count_flatMap, List.map_map, lineCounts]
  refine congrArg _ (List.map_congr_left fun line _ => ?_)
  rw [countOf, String.toList_append]
  rfl

/-- A text that ends with a line feed has as many lines as line feeds. -/
theorem length_lines_concat (cs : List Char) :
    (lines (cs ++ ['\n'])).length = (cs ++ ['\n']).count '\n' := by
  induction cs using lines_induction with
  | last line h =>
    rw [lines_feed h, List.count_append, List.count_eq_zero.mpr h]
    rfl
  | feed line rest h ih =>
    have hcount : (line ++ '\n' :: (rest ++ ['\n'])).count '\n' = (rest ++ ['\n']).count '\n' + 1 := by
      rw [List.count_append, List.count_cons_self, List.count_eq_zero.mpr h, Nat.zero_add]
    rw [List.append_assoc, List.cons_append, lines_feed h, List.length_cons, ih, hcount]

section Blank

variable {c : Char} (hc : isBlank c = true) (hspace : c ≠ ' ')
include hc hspace

theorem countOf_of_spaced {text : String} (h : Spaced text) : countOf c text = 0 :=
  List.count_eq_zero.mpr fun hmem => hspace (h c hmem hc)

theorem countOf_joined (texts : List String) :
    countOf c (" ".intercalate texts) = (texts.map (countOf c)).sum := by
  have hzero : countOf c " " = 0 := countOf_of_spaced hc hspace (by decide)
  induction texts with
  | nil => rfl
  | cons text texts ih =>
    cases texts with
    | nil => simp [String.intercalate_singleton]
    | cons next texts =>
      rw [String.intercalate_cons_cons, countOf_append, countOf_append, ih, hzero]
      simp

end Blank

/-! ## Members -/

/-- The label of a tag. -/
def MemberTag.label? : MemberTag → Option String
  | request _ _ _ _ label => label
  | response _ | path _ => none

/-- The tag without its label. -/
def MemberTag.unlabeled : MemberTag → MemberTag
  | request place key presence rules _ => request place key presence rules none
  | tag => tag

/-- The member without its comment and its label. -/
def RouteMember.uncommented (member : RouteMember) : RouteMember :=
  { member with tag := member.tag.unlabeled, comment := "" }

/-- The texts of comments in a member stand on one line. -/
structure RouteMember.TextsSpaced (member : RouteMember) : Prop where
  comment : Spaced member.comment
  label : ∀ label ∈ member.tag.label?, Spaced label

/-- The declaration without the comments and labels of its members. -/
def TypeDecl.uncommented (decl : TypeDecl) : TypeDecl where
  name := decl.name
  body := match decl.body with
    | .empty => .empty
    | .members list => .members (list.map RouteMember.uncommented)

/-- The texts of comments in a declaration stand on one line. -/
def TypeDecl.TextsSpaced (decl : TypeDecl) : Prop :=
  ∀ member ∈ decl.body.toList, member.TextsSpaced

/-- The types of a route without the comments and labels of their members. -/
def Exchange.uncommented (exchange : Exchange) : Exchange :=
  ⟨exchange.request.uncommented, exchange.response.uncommented⟩

section Member

variable {c : Char} (hc : isBlank c = true) (hspace : c ≠ ' ')
include hc hspace

theorem countOf_unlabeled {tag : MemberTag} (h : ∀ label ∈ tag.label?, Spaced label) :
    countOf c tag.unlabeled.toText = countOf c tag.toText := by
  cases tag with
  | response key => rfl
  | path key => rfl
  | request place key presence rules label =>
    cases label with
    | none => rfl
    | some text =>
      have htext := countOf_of_spaced hc hspace (h text rfl)
      have hkey : countOf c ("label" ++ ":\"") = 0 := countOf_of_spaced hc hspace (by decide)
      have hquote : countOf c "\"" = 0 := countOf_of_spaced hc hspace (by decide)
      have hclause : countOf c (Tag.toText ⟨"label", text⟩) = 0 := by
        rw [Tag.toText, countOf_append, countOf_append, hkey, htext, hquote]
      simp only [MemberTag.unlabeled, MemberTag.toText, MemberTag.toTags, countOf_append,
        countOf_joined hc hspace, List.map_append, List.sum_append, Option.map_some, Option.map_none,
        Option.toList_some, Option.toList_none, List.map_cons, List.map_nil, List.sum_cons, List.sum_nil, hclause,
        Nat.add_zero]

theorem countOf_uncommented {member : RouteMember} (h : member.TextsSpaced) :
    countOf c member.uncommented.toText = countOf c member.toText := by
  have hline : ∀ line comment : String, Spaced comment → countOf c (withComment line comment) = countOf c line := by
    intro line comment hcomment
    have hslashes : countOf c " // " = 0 := countOf_of_spaced hc hspace (by decide)
    unfold withComment
    split
    · rfl
    · rw [countOf_append, countOf_append, hslashes, countOf_of_spaced hc hspace hcomment, Nat.add_zero]
  have hempty : Spaced member.uncommented.comment := by
    show Spaced ""
    decide
  rw [RouteMember.toText, RouteMember.toText, hline _ _ h.comment, hline _ _ hempty]
  simp only [RouteMember.uncommented, countOf_append, countOf_unlabeled hc hspace h.label]

theorem lineCounts_typeDecl {decl : TypeDecl} (h : decl.TextsSpaced) (depth : Nat) (opening : String) :
    lineCounts c (decl.uncommented.lines depth opening) = lineCounts c (decl.lines depth opening) := by
  obtain ⟨name, body⟩ := decl
  cases body with
  | empty => rfl
  | members list =>
    have hmembers : lineCounts c ((list.map RouteMember.uncommented).map fun member =>
        indented (depth + 1) member.toText) =
        lineCounts c (list.map fun member => indented (depth + 1) member.toText) := by
      rw [lineCounts, lineCounts, List.map_map, List.map_map, List.map_map]
      refine List.map_congr_left fun member hmember => ?_
      simp only [Function.comp_apply, indented, countOf_append, countOf_uncommented hc hspace (h member hmember)]
    simp only [TypeDecl.uncommented, TypeDecl.lines, lineCounts_append, hmembers]

theorem lineCounts_exchange {exchange : Exchange} (hrequest : exchange.request.TextsSpaced)
    (hresponse : exchange.response.TextsSpaced) :
    lineCounts c exchange.uncommented.lines = lineCounts c exchange.lines := by
  rw [Exchange.lines, Exchange.lines, lineCounts_append, lineCounts_append]
  exact congrArg₂ _ (lineCounts_typeDecl hc hspace hrequest 1 "") (lineCounts_typeDecl hc hspace hresponse 1 "")

end Member

/-! ## Documents -/

/-- The route without its words. -/
def Route.wordless (route : Route) : Route :=
  { route with doc := "" }

namespace RouteDocument

/-- The document without the texts of comments. -/
def uncommented (document : RouteDocument) : RouteDocument :=
  { document with
    comment := ""
    model := document.model.uncommented
    exchanges := document.exchanges.map Exchange.uncommented
    routes := document.routes.map Route.wordless }

/-- The texts of comments in a document stand on one line. -/
structure TextsSpaced (document : RouteDocument) : Prop where
  comment : Spaced document.comment
  model : document.model.TextsSpaced
  exchanges : ∀ exchange ∈ document.exchanges, exchange.request.TextsSpaced ∧ exchange.response.TextsSpaced

/-- The blanks of the line that comments the model. -/
def commentCount (c : Char) (document : RouteDocument) : Nat :=
  if document.comment.isEmpty then 0 else countOf c ("// " ++ document.model.name ++ " " ++ "\n")

end RouteDocument

theorem lineCounts_intercalate (c : Char) (blocks : List (List String)) :
    lineCounts c (List.intercalate [""] blocks) =
      List.intercalate [countOf c ("" ++ "\n")] (blocks.map (lineCounts c)) :=
  map_intercalate _ _ _

theorem lineCounts_routes (c : Char) (routes : List Route) :
    (lineCounts c (List.intercalate [""] (routes.map Route.lines))).sum =
      (lineCounts c (List.intercalate [""] ((routes.map Route.wordless).map Route.lines))).sum +
        (routes.map fun route => countOf c route.doc).sum := by
  have hroute : ∀ route : Route, (lineCounts c route.lines).sum =
      (lineCounts c route.wordless.lines).sum + countOf c route.doc := by
    intro route
    have hnone : countOf c "" = 0 := rfl
    simp only [lineCounts, Route.lines, Route.wordless, Route.bindingLine, List.map_cons, List.map_nil, List.sum_cons,
      List.sum_nil, indented, inQuotes, countOf_append, hnone]
    omega
  induction routes with
  | nil => rfl
  | cons route routes ih =>
    cases routes with
    | nil => simpa [List.intercalate] using hroute route
    | cons next routes =>
      simp only [List.map_cons, List.intercalate_cons_cons, lineCounts_append, List.sum_append, List.sum_cons]
        at ih ⊢
      rw [ih, hroute route]
      omega

namespace RouteDocument

/-- What the texts of comments bring into a document: a line in front of the model if there is a comment, and what is
in the words for the routes. -/
theorem countOf_toText {c : Char} (hc : isBlank c = true) (hspace : c ≠ ' ') {document : RouteDocument}
    (h : document.TextsSpaced) :
    countOf c document.toText =
      countOf c document.uncommented.toText + document.commentCount c +
        (document.routes.map fun route => countOf c route.doc).sum := by
  have hlines : ∀ document : RouteDocument, ∃ front, document.lines = front ++ ["\x7d"] := fun document =>
    ⟨_, by rw [lines, serviceLines, ← List.append_assoc]⟩
  have hcomment : (lineCounts c (clauseIf (!document.comment.isEmpty)
      ("// " ++ document.model.name ++ " " ++ document.comment))).sum = document.commentCount c := by
    rw [commentCount]
    cases document.comment.isEmpty with
    | true => rfl
    | false =>
      have hzero := countOf_of_spaced hc hspace h.comment
      simp [clauseIf, lineCounts, countOf_append, hzero]
  have hexchanges : lineCounts c (List.intercalate [""] (document.exchanges.map Exchange.lines)) =
      lineCounts c (List.intercalate [""] ((document.exchanges.map Exchange.uncommented).map Exchange.lines)) := by
    rw [lineCounts_intercalate, lineCounts_intercalate, List.map_map, List.map_map, List.map_map]
    refine congrArg _ ?_
    refine List.map_congr_left fun exchange hexchange => ?_
    obtain ⟨hrequest, hresponse⟩ := h.exchanges exchange hexchange
    exact (lineCounts_exchange hc hspace hrequest hresponse).symm
  have hmodel := lineCounts_typeDecl hc hspace h.model 0 "type "
  have hroutes := lineCounts_routes c document.routes
  obtain ⟨front, hfront⟩ := hlines document
  obtain ⟨rest, hrest⟩ := hlines document.uncommented
  rw [toText, toText, countOf_textOfLines c hfront, countOf_textOfLines c hrest, lines_eq, lines_eq]
  have hnone : clauseIf (!document.uncommented.comment.isEmpty)
      ("// " ++ document.uncommented.model.name ++ " " ++ document.uncommented.comment) = [] := rfl
  simp only [headLines, exchangeLines, serviceLines_eq, settingLines, routeLines, hnone, lineCounts_append,
    lineCounts_cons, List.sum_append, List.sum_cons, hcomment, hexchanges, hroutes, ← hmodel]
  simp only [uncommented, lineCounts, List.map_nil, List.sum_nil]
  omega

end RouteDocument

/-! ## Entities -/

theorem uncommented_ofField (mode : Mode) (field : Field) :
    (RouteMember.ofField mode field.uncommented).uncommented = (RouteMember.ofField mode field).uncommented := by
  have htag : (RouteMember.tagOf mode field.uncommented).unlabeled = (RouteMember.tagOf mode field).unlabeled := by
    simp only [RouteMember.tagOf, apply_ite MemberTag.unlabeled]
    rfl
  simp only [RouteMember.uncommented, RouteMember.ofField, htag]
  rfl

section

variable (entity : Entity)

theorem map_uncommented_membersIn (mode : Mode) :
    (entity.uncommented.membersIn mode).map RouteMember.uncommented =
      (entity.membersIn mode).map RouteMember.uncommented := by
  rw [Entity.membersIn, fieldsIn_uncommented, Entity.membersIn, List.map_map, List.map_map, List.map_map]
  exact List.map_congr_left fun field _ => uncommented_ofField mode field

theorem uncommented_exchange (action : RouteAction) (request : List RouteMember) (response : TypeBody) :
    (entity.exchange action request response).uncommented =
      ⟨⟨action.request entity.modelName, .members (request.map RouteMember.uncommented)⟩,
        TypeDecl.uncommented ⟨action.response entity.modelName, response⟩⟩ :=
  rfl

theorem map_uncommented_keyedExchanges (id : IdInfo) :
    (entity.uncommented.keyedExchanges id.uncommented).map Exchange.uncommented =
      (entity.keyedExchanges id).map Exchange.uncommented := by
  have hpath : id.uncommented.pathMember.uncommented = id.pathMember.uncommented := by
    simp only [IdInfo.pathMember, RouteMember.uncommented, IdInfo.uncommented]
  have hbatch : id.uncommented.batchMember.uncommented = id.batchMember.uncommented := by
    simp only [IdInfo.batchMember, RouteMember.uncommented, MemberTag.unlabeled, IdInfo.uncommented]
  have hname : entity.uncommented.modelName = entity.modelName := rfl
  have hmodel : entity.uncommented.modelMember = entity.modelMember := rfl
  simp only [Entity.keyedExchanges, List.map_cons, List.map_nil, uncommented_exchange, map_uncommented_membersIn,
    hpath, hbatch, hname, hmodel]

theorem map_uncommented_exchanges :
    entity.uncommented.exchanges.map Exchange.uncommented = entity.exchanges.map Exchange.uncommented := by
  have hid : entity.uncommented.id = entity.id.map IdInfo.uncommented := rfl
  have hpage : ∀ action place mode, (entity.uncommented.pageExchange action place mode).uncommented =
      (entity.pageExchange action place mode).uncommented := by
    intro action place mode
    simp only [Entity.pageExchange, uncommented_exchange, List.map_append, map_uncommented_membersIn]
    rfl
  have hname : entity.uncommented.modelName = entity.modelName := rfl
  have hresponse : ∀ id : IdInfo, id.uncommented.responseMember.uncommented = id.responseMember.uncommented := by
    intro id
    simp only [IdInfo.responseMember, RouteMember.uncommented, IdInfo.uncommented]
  rw [Entity.exchanges, Entity.exchanges, hid]
  cases entity.id with
  | none =>
    simp only [List.map_append, List.map_cons, List.map_nil, Option.map_none, Option.toList_none, List.flatMap_nil,
      uncommented_exchange, map_uncommented_membersIn, hpage, hname]
  | some id =>
    simp only [List.map_append, List.map_cons, List.map_nil, Option.map_some, Option.toList_some, List.flatMap_cons,
      List.flatMap_nil, uncommented_exchange, map_uncommented_membersIn, map_uncommented_keyedExchanges, hpage,
      hname, TypeDecl.uncommented, hresponse]

theorem map_wordless_routes :
    entity.uncommented.untitled.routes.map Route.wordless = entity.routes.map Route.wordless := by
  have hid : entity.uncommented.untitled.id = entity.id.map IdInfo.uncommented := rfl
  have hname : entity.uncommented.untitled.modelName = entity.modelName := rfl
  have hroute : entity.uncommented.untitled.routeName = entity.routeName := rfl
  have hlist : entity.uncommented.untitled.listRouteName = entity.listRouteName := rfl
  have hraw : ∀ id : IdInfo, id.uncommented.rawName = id.rawName := fun _ => rfl
  rw [Entity.routes, Entity.routes, hid]
  cases entity.id with
  | none =>
    simp only [List.map_append, List.map_cons, List.map_nil, Option.map_none, Option.toList_none, List.flatMap_nil,
      Entity.route, Route.wordless, hname, hroute, hlist]
  | some id =>
    simp only [List.map_append, List.map_cons, List.map_nil, Option.map_some, Option.toList_some, List.flatMap_cons,
      List.flatMap_nil, Entity.keyedRoutes, Entity.route, Route.wordless, hname, hroute, hlist, hraw]

/-- But for the texts of comments the document of an entity does not depend on them. -/
theorem RouteDocument.uncommented_ofEntity (api : ApiConfig) :
    (ofEntity entity.uncommented.untitled api).uncommented = (ofEntity entity api).uncommented := by
  have hmodel : (TypeDecl.mk entity.modelName (.members (entity.uncommented.membersIn .model))).uncommented =
      (TypeDecl.mk entity.modelName (.members (entity.membersIn .model))).uncommented := by
    simp only [TypeDecl.uncommented, map_uncommented_membersIn]
  have hexchanges := map_uncommented_exchanges entity
  have hroutes := map_wordless_routes entity
  simp only [uncommented, ofEntity, hroutes, ← hexchanges, ← hmodel]
  rfl

end

/-! ## Texts on one line -/

theorem spaced_label_tagOf (mode : Mode) (field : Field) :
    ∀ label ∈ (RouteMember.tagOf mode field).label?, Spaced label := by
  intro label hlabel
  unfold RouteMember.tagOf at hlabel
  split at hlabel
  · cases hlabel
  · split at hlabel
    · cases hlabel
    · simp only [MemberTag.label?] at hlabel
      split at hlabel
      · cases hlabel
      · rw [← Option.some.inj hlabel]
        exact spaced_quotable field.label

theorem textsSpaced_members (entity : Entity) : entity.AllMembers RouteMember.TextsSpaced where
  fields mode member hmember := by
    obtain ⟨field, -, rfl⟩ := List.mem_map.mp hmember
    exact ⟨spaced_singleLine _, spaced_label_tagOf mode field⟩
  id id _ := by
    refine ⟨⟨spaced_singleLine _, fun label h => nomatch h⟩, ⟨spaced_singleLine _, fun label h => nomatch h⟩,
      spaced_singleLine _, fun label h => ?_⟩
    rw [← Option.some.inj h]
    exact spaced_quotable id.label
  model := by
    refine ⟨?_, fun label h => nomatch h⟩
    show Spaced ""
    decide
  page place := by cases place <;> exact ⟨by decide, by decide⟩
  pageSize place := by cases place <;> exact ⟨by decide, by decide⟩
  total := ⟨by decide, fun label h => nomatch h⟩
  list := by
    refine ⟨?_, fun label h => nomatch h⟩
    show Spaced "列表"
    decide

theorem textsSpaced_ofEntity (entity : Entity) (api : ApiConfig) :
    (RouteDocument.ofEntity entity api).TextsSpaced where
  comment := spaced_singleLine entity.tableComment
  model := (textsSpaced_members entity).fields .model
  exchanges := (textsSpaced_members entity).exchanges

section Words

variable {c : Char} (hc : isBlank c = true) (hspace : c ≠ ' ')
include hc hspace

/-- The words around a label have no blanks. -/
theorem countOf_doc (action : RouteAction) (label : String) : countOf c (action.doc label) = countOf c label := by
  have hverb : Spaced action.docVerb := by cases action <;> decide
  have hnoun : Spaced action.docNoun := by cases action <;> decide
  rw [action.doc_eq, countOf_append, countOf_append, countOf_of_spaced hc hspace hverb,
    countOf_of_spaced hc hspace hnoun, Nat.zero_add, Nat.add_zero]

theorem sum_countOf_doc (entity : Entity) :
    (entity.routes.map fun route => countOf c route.doc).sum = entity.routes.length * countOf c entity.docLabel := by
  have hroute : ∀ route ∈ entity.routes, countOf c route.doc = countOf c entity.docLabel := by
    intro route hroute
    obtain ⟨action, method, path, rfl⟩ := Entity.exists_route_of_mem_routes hroute
    exact countOf_doc hc hspace action entity.docLabel
  rw [List.map_congr_left hroute, List.map_const', List.sum_replicate_nat]

/-- Only the name of a model can bring blanks other than spaces into the words for routes. -/
theorem countOf_docLabel (entity : Entity) :
    countOf c entity.docLabel =
      if labelOf (singleLine entity.tableComment) = "" then countOf c entity.modelName else 0 := by
  unfold Entity.docLabel
  dsimp only
  by_cases h : labelOf (singleLine entity.tableComment) = ""
  · rw [if_pos h, if_pos (String.isEmpty_iff.mpr h)]
  · rw [if_neg h, if_neg (mt String.isEmpty_iff.mp h), countOf_of_spaced hc hspace (spaced_quotable _)]

end Words

/-! ## Results -/

section

variable {table other : Table} (h : SameButComments table other)
  (hblank : AllBlank table.comment.toList ↔ AllBlank other.comment.toList) (config : GenerationConfig)
  (api : ApiConfig)
include h hblank

theorem countOf_routeText_iff {c : Char} (hc : isBlank c = true) (hspace : c ≠ ' ') :
    countOf c (table.routeText config api) = countOf c (other.routeText config api) ↔
      c ∉ (buildEntity table config api).modelName.toList ∨ (table.label = "" ↔ other.label = "") := by
  have hentity := uncommented_buildEntity h config api
  have hname : (buildEntity table config api).modelName = (buildEntity other config api).modelName :=
    (congrArg Entity.modelName hentity :)
  have hdocument : (RouteDocument.ofEntity (buildEntity table config api) api).uncommented =
      (RouteDocument.ofEntity (buildEntity other config api) api).uncommented := by
    rw [← RouteDocument.uncommented_ofEntity, hentity, RouteDocument.uncommented_ofEntity]
  have hcomment : (RouteDocument.ofEntity (buildEntity table config api) api).commentCount c =
      (RouteDocument.ofEntity (buildEntity other config api) api).commentCount c := by
    have hempty : (singleLine table.comment).isEmpty = (singleLine other.comment).isEmpty := by
      rw [Bool.eq_iff_iff, String.isEmpty_iff, String.isEmpty_iff, singleLine_eq_empty_iff, singleLine_eq_empty_iff,
        hblank]
    simp only [RouteDocument.commentCount, RouteDocument.ofEntity, hname]
    exact congrArg (fun empty : Bool => if empty then 0 else _) hempty
  have hroutes : (buildEntity table config api).routes.length = (buildEntity other config api).routes.length := by
    have hlength := congrArg List.length (congrArg RouteDocument.routes hdocument)
    rwa [RouteDocument.uncommented, RouteDocument.uncommented, List.length_map, List.length_map] at hlength
  have hsome : 0 < (buildEntity other config api).routes.length := by
    rw [Entity.routes, List.length_append, List.length_cons]
    omega
  have hnone : countOf c (buildEntity other config api).modelName = 0 ↔
      c ∉ (buildEntity other config api).modelName.toList := List.count_eq_zero
  rw [Table.routeText, Table.routeText, RouteDocument.countOf_toText hc hspace (textsSpaced_ofEntity _ api),
    RouteDocument.countOf_toText hc hspace (textsSpaced_ofEntity _ api), hdocument, hcomment, Nat.add_left_cancel_iff]
  show (((buildEntity table config api).routes.map fun route => countOf c route.doc).sum =
    ((buildEntity other config api).routes.map fun route => countOf c route.doc).sum) ↔ _
  rw [sum_countOf_doc hc hspace, sum_countOf_doc hc hspace, hroutes, Nat.mul_right_inj hsome.ne',
    countOf_docLabel hc hspace, countOf_docLabel hc hspace, hname, ← hnone]
  show (if table.label = "" then _ else 0) = (if other.label = "" then _ else 0) ↔ _
  by_cases htable : table.label = "" <;> by_cases hother : other.label = "" <;> simp [htable, hother, eq_comm]

omit h hblank in
/-- A route document has as many lines as line feeds. -/
theorem length_lines_routeText (table : Table) :
    (lines (table.routeText config api).toList).length = countOf '\n' (table.routeText config api) := by
  rw [countOf, Table.routeText, RouteDocument.toText, toList_textOfLines, length_lines_concat]

/-- Of two tables that differ in nothing but comments, with the same listed values in each column and comments that
are both blank or both not, the route documents have the same number of lines, and of every blank but the space, unless
the name of the model brings one into the words for routes where just one of the tables has no label. With the same
comment the tables have the same gists. -/
theorem comment_texts_keep_lines :
    ((lines (table.routeText config api).toList).length = (lines (other.routeText config api).toList).length ↔
      '\n' ∉ (buildEntity table config api).modelName.toList ∨ (table.label = "" ↔ other.label = "")) ∧
    (∀ c, isBlank c = true → c ≠ ' ' →
      (countOf c (table.routeText config api) = countOf c (other.routeText config api) ↔
        c ∉ (buildEntity table config api).modelName.toList ∨ (table.label = "" ↔ other.label = ""))) ∧
    (table.comment = other.comment →
      (∀ kind, (buildEntity table config api).gistText (storageFields (buildFields config table.columns)) kind =
        (buildEntity other config api).gistText (storageFields (buildFields config other.columns)) kind) ∧
      ∀ formatter,
        renderGists (buildEntity table config api) (storageFields (buildFields config table.columns)) formatter =
          renderGists (buildEntity other config api) (storageFields (buildFields config other.columns)) formatter) := by
  refine ⟨?_, fun c hc hspace => countOf_routeText_iff h hblank config api hc hspace,
    fun hcomment => gists_of_sameComment h hcomment config api⟩
  rw [length_lines_routeText, length_lines_routeText]
  exact countOf_routeText_iff h hblank config api rfl (by decide)

end

/-- A table with a comment, and with one for its column. -/
def notedTable (name comment columnComment : String) : Table where
  name := name
  comment := comment
  columns := [Column.ofRow
    { name := "n", ordinal := 1, dataType := "bigint", columnType := "bigint", nullable := "NO"
      comment := columnComment } []]
  indexes := ⟨[], []⟩

/-- A column comment with line breaks, against one without. -/
theorem breaks_in_comment_kept_out :
    let table := notedTable "user" "x" "n"
    let other := notedTable "user" "x" "a\nb\r\nc"
    (lines (table.routeText {} {}).toList).length = (lines (other.routeText {} {}).toList).length ∧
      countOf '\r' (table.routeText {} {}) = countOf '\r' (other.routeText {} {}) ∧
      (buildEntity table {} {}).gistText (storageFields (buildFields {} table.columns)) .filter =
        (buildEntity other {} {}).gistText (storageFields (buildFields {} other.columns)) .filter := by
  intro table other
  have h : SameButComments table other := by decide +kernel
  have hname : (buildEntity table {} {}).modelName.toList = "User".toList := by decide +kernel
  obtain ⟨hlines, hblanks, hgists⟩ := comment_texts_keep_lines h Iff.rfl {} {}
  rw [hname] at hlines
  exact ⟨hlines.mpr (.inl (by decide)), (hblanks '\r' rfl (by decide)).mpr (.inr Iff.rfl), (hgists rfl).1 .filter⟩

/-- The words for the routes of a table without a label name its model, with the line feed in it. -/
theorem label_changes_lines :
    let table := notedTable "a\nb" "x" ""
    let other := notedTable "a\nb" "（0）" ""
    SameButComments table other ∧ ¬ AllBlank table.comment.toList ∧ ¬ AllBlank other.comment.toList ∧
      (lines (table.routeText {} {}).toList).length ≠ (lines (other.routeText {} {}).toList).length := by
  intro table other
  have h : SameButComments table other := by decide +kernel
  have htable : ¬ AllBlank table.comment.toList := fun hall => absurd (hall 'x' (by decide)) (by decide)
  have hother : ¬ AllBlank other.comment.toList := fun hall => absurd (hall '0' (by decide)) (by decide)
  have hname : '\n' ∈ (buildEntity table {} {}).modelName.toList := by decide +kernel
  have hlabels : ¬ (table.label = "" ↔ other.label = "") := by decide +kernel
  refine ⟨h, htable, hother, fun heq => ?_⟩
  rw [length_lines_routeText, length_lines_routeText,
    countOf_routeText_iff h (iff_of_false htable hother) {} {} rfl (by decide)] at heq
  exact heq.elim (not_not_intro hname) hlabels

end TableCodegen
