import TableCodegen.Document.Route.Text
import TableCodegen.Proofs.Layout.WellNested

/-!
# Lines of route documents

What has to hold of the texts of a route document so that its lines are well nested: a name holds no bracket,
no quotation mark and no two slashes in a row, a tag holds no backtick, and nothing holds a line break.

Results:

* `RouteMember.Regular.quietLine`: the line of a member.
* `TypeDecl.Regular.wellNested`, `Route.Regular.quietLine`: the lines of a type and of a route.
* `RouteDocument.Regular.wellNested`, `RouteDocument.Regular.delimiter`: a regular document is accepted.
-/

namespace TableCodegen

open TableCodegen.Text

/-! ## Specification -/

/-- A name: it is read as code, whatever stands around it but a slash. -/
structure Named (cs : List Char) : Prop where
  tame : Tame cs
  slashes : ¬ ['/', '/'] <:+: cs

/-- A text that a tag can hold. -/
def TagText (cs : List Char) : Prop :=
  ∀ c ∈ cs, c ∉ ['\x60', '\n', '\r']

instance (cs : List Char) : Decidable (TagText cs) :=
  inferInstanceAs (Decidable (∀ c ∈ cs, c ∉ ['\x60', '\n', '\r']))

/-- The keys and values between the backticks of a tag. -/
def MemberTag.body (tag : MemberTag) : String :=
  " ".intercalate (tag.toTags.map Tag.toText)

/-- A member that takes one line and leaves no bracket open. -/
structure RouteMember.Regular (member : RouteMember) : Prop where
  name : Tame member.name.toList
  type : ∃ word, Balanced word ∧ Fragment member.type.toText.toList word
  typeLine : OneLine member.type.toText.toList
  tag : TagText member.tag.body.toList
  comment : OneLine member.comment.toList

structure TypeDecl.Regular (decl : TypeDecl) : Prop where
  name : Named decl.name.toList
  members : ∀ member ∈ decl.body.toList, member.Regular

structure Route.Regular (route : Route) : Prop where
  doc : '"' ∉ route.doc.toList
  docLine : OneLine route.doc.toList
  handler : Tame route.handler.toList
  path : ∀ segment ∈ route.path, Tame segment.toText.toList
  request : Named route.request.toList
  response : Named route.response.toList

/-- A document whose texts fit their places. -/
structure RouteDocument.Regular (document : RouteDocument) : Prop where
  comment : OneLine document.comment.toList
  model : document.model.Regular
  exchanges : ∀ exchange ∈ document.exchanges, exchange.request.Regular ∧ exchange.response.Regular
  serverPath : Tame document.serverPath.toList
  group : Tame document.group.toList
  service : Named document.service.toList
  routes : ∀ route ∈ document.routes, route.Regular

/-! ## Names -/

namespace Named

/-- A word in front of a name. -/
theorem prepend {u v : List Char} (hv : Named v) (hu : Tame u) (hslash : '/' ∉ u) : Named (u ++ v) :=
  ⟨hu.append hv.tame, fun h => hv.slashes (infix_of_infix_append_right h hslash)⟩

/-- A word behind a name. -/
theorem append {u v : List Char} (hu : Named u) (hv : Tame v) (hslash : '/' ∉ v) : Named (u ++ v) := by
  refine ⟨hu.tame.append hv, fun h => hu.slashes ?_⟩
  have hsplit : ['/'] ++ ['/'] <:+: u ++ v := h
  exact infix_of_infix_append_left hsplit hslash

theorem fragment {cs : List Char} (h : Named cs) : Fragment cs [] :=
  fragment_of_tame h.tame h.slashes

end Named

theorem named_of_not_mem {cs : List Char} (h : Tame cs) (hslash : '/' ∉ cs) : Named cs :=
  ⟨h, not_infix_of_not_mem hslash⟩

/-! ## Texts of tags -/

theorem TagText.append {u v : List Char} (hu : TagText u) (hv : TagText v) : TagText (u ++ v) :=
  List.forall_mem_append.mpr ⟨hu, hv⟩

theorem TagText.oneLine {cs : List Char} (h : TagText cs) : OneLine cs :=
  ⟨fun hmem => h '\n' hmem (by decide), fun hmem => h '\r' hmem (by decide)⟩

theorem TagText.not_mem {cs : List Char} (h : TagText cs) : tagMark ∉ cs :=
  fun hmem => h tagMark hmem (by decide)

theorem Tame.tagText {cs : List Char} (h : Tame cs) : TagText cs := by
  intro c hc hmem
  have hmarks : ∀ d ∈ ['\x60', '\n', '\r'], d ∈ lineMarks := by decide
  exact h c hc (hmarks c hmem)

theorem tagText_of_oneLine {cs : List Char} (h : OneLine cs) (hmark : tagMark ∉ cs) : TagText cs := by
  intro c hc hmem
  simp only [List.mem_cons, List.not_mem_nil, or_false] at hmem
  rcases hmem with rfl | rfl | rfl
  · exact hmark hc
  · exact h.feed hc
  · exact h.carriage hc

/-! ## Lines -/

theorem toList_indented (depth : Nat) (line : String) :
    (indented depth line).toList = List.replicate depth '\t' ++ line.toList := by
  rw [indented, String.toList_append, String.toList_ofList]

/-- What a member line holds behind the name. -/
def RouteMember.typed (member : RouteMember) : List Char :=
  [' '] ++ member.type.toText.toList ++ ([' '] ++ (tagMark :: member.tag.body.toList ++ [tagMark]))

theorem RouteMember.toList_toText (member : RouteMember) :
    member.toText.toList = member.name.toList ++ (member.typed ++
      if member.comment.isEmpty then [] else ' ' :: '/' :: '/' :: ' ' :: member.comment.toList) := by
  have htag : member.tag.toText.toList = tagMark :: member.tag.body.toList ++ [tagMark] := by
    simp [MemberTag.toText, MemberTag.body, backtick, tagMark]
  have hspace : " ".toList = [' '] := rfl
  have hcomment : " // ".toList = [' ', '/', '/', ' '] := rfl
  unfold toText withComment typed
  split
  · simp [htag, hspace]
  · simp [htag, hspace, hcomment]

theorem RouteMember.quietCode_typed (member : RouteMember) : QuietCode member.typed := by
  have hsplit : member.typed =
      [' '] ++ member.type.toText.toList ++ [' '] ++ (tagMark :: member.tag.body.toList) ++ [tagMark] := by
    simp [typed]
  rw [hsplit]
  exact quietCode_concat _ rfl rfl

namespace RouteMember.Regular

variable {member : RouteMember} (h : member.Regular)

include h

theorem sealed_typed : ∃ word, Balanced word ∧ Sealed member.typed word := by
  obtain ⟨word, hword, htype⟩ := h.type
  have hspace : Sealed [' '] [] := sealed_of_allInert allInert_space
  have htag := hspace.append (sealed_tag h.tag.not_mem)
  have htyped := (hspace.append_fragment htype).append_sealed htag (c := ' ') rfl (by decide)
  refine ⟨word, hword, ?_⟩
  simpa [typed] using htyped

theorem oneLine_typed : OneLine member.typed := by
  have hspace : OneLine [' '] := by decide
  have hmark : OneLine [tagMark] := by decide
  have htag : OneLine (tagMark :: member.tag.body.toList ++ [tagMark]) :=
    (hmark.append h.tag.oneLine).append hmark
  exact (hspace.append h.typeLine).append (hspace.append htag)

/-- The line of a member leaves no bracket open; a comment may start in the name. -/
theorem quietLine (depth : Nat) : QuietLine (indented depth member.toText).toList := by
  obtain ⟨word, hword, htyped⟩ := h.sealed_typed
  rw [toList_indented, RouteMember.toList_toText, ← List.append_assoc]
  refine QuietLine.tame_append ((tame_replicate_tab depth).append h.name) ?_ ?_
  · simp [typed]
  · split
    · rw [List.append_nil]
      exact quietLine_of_mark h.oneLine_typed htyped.fragment hword member.quietCode_typed
    · have hspace : OneLine [' '] := by decide
      exact quietLine_comment h.oneLine_typed (hspace.append h.comment) htyped.fragment hword
        member.quietCode_typed

end RouteMember.Regular

/-! ## Types -/

theorem openingLine_named {line : String} {front : List Char} {c : Char} {b : Bracket}
    (hline : line.toList = front ++ [c]) (hc : bracketOf? c = some (b, true)) (hfront : Named front) :
    OpeningLine b line.toList := by
  rw [hline]
  exact openingLine hc hfront.tame.oneLine hfront.fragment

theorem closingLine_indented (depth : Nat) {line : String} {c : Char} {b : Bracket} (hline : line.toList = [c])
    (hc : bracketOf? c = some (b, false)) : ClosingLine b (indented depth line).toList := by
  rw [toList_indented, hline]
  exact closingLine depth hc

/-- The words in front of the name of a type. -/
structure IsOpening (opening : String) : Prop where
  tame : Tame opening.toList
  slash : '/' ∉ opening.toList

namespace TypeDecl.Regular

variable {decl : TypeDecl} (h : decl.Regular) (depth : Nat) {opening : String} (hopening : IsOpening opening)

include h hopening

theorem named_opening : Named (List.replicate depth '\t' ++ (opening.toList ++ (decl.name.toList ++ [' ']))) := by
  have hname : Named (decl.name.toList ++ [' ']) := h.name.append (by decide) (by decide)
  exact (hname.prepend hopening.tame hopening.slash).prepend (tame_replicate_tab depth) (by simp)

theorem openingLine : OpeningLine .curly (indented depth (opening ++ decl.name ++ " \x7b")).toList := by
  refine openingLine_named (c := '\x7b') ?_ rfl (h.named_opening depth hopening)
  rw [toList_indented]
  simp

/-- A type without members opens its brace and closes it at once. -/
theorem quietLine_empty : QuietLine (indented depth (opening ++ decl.name ++ " \x7b\x7d")).toList := by
  have hnamed := h.named_opening depth hopening
  have hline : (indented depth (opening ++ decl.name ++ " \x7b\x7d")).toList =
      List.replicate depth '\t' ++ (opening.toList ++ (decl.name.toList ++ [' '])) ++ (['\x7b'] ++ ['\x7d']) := by
    rw [toList_indented]
    simp
  have hopen : Sealed ['\x7b'] [(.curly, true)] := sealed_bracket rfl
  have hclose : Sealed ['\x7d'] [(.curly, false)] := sealed_bracket rfl
  have hbrackets := hnamed.fragment.append_sealed (hopen.append hclose) (c := '\x7b') rfl (by decide)
  have hone : OneLine (['\x7b'] ++ ['\x7d']) := by decide
  rw [hline]
  refine quietLine_of_mark (hnamed.tame.oneLine.append hone) hbrackets.fragment (.enclosed .curly .nil) ?_
  rw [← List.append_assoc]
  exact quietCode_closed ⟨'\x7b', by simp, rfl⟩ (Or.inl rfl)

omit hopening in
theorem quietLine_members : ∀ line ∈ (decl.body.toList.map fun member =>
    indented (depth + 1) member.toText).map String.toList, QuietLine line := by
  rw [List.forall_mem_map, List.forall_mem_map]
  exact fun member hmember => (h.members member hmember).quietLine (depth + 1)

theorem wellNested : WellNested ((decl.lines depth opening).map String.toList) := by
  have hmembers := h.quietLine_members depth
  unfold TypeDecl.lines
  cases hbody : decl.body with
  | empty => exact .quiet (h.quietLine_empty depth hopening) .nil
  | members list =>
    rw [hbody] at hmembers
    have hclose : ClosingLine .curly (indented depth "\x7d").toList := closingLine_indented depth rfl rfl
    have hblock := WellNested.block (h.openingLine depth hopening) (.of_quiet hmembers) hclose
    simpa [TypeBody.toList] using hblock

end TypeDecl.Regular

/-- Well-nested lines with blank lines between them. -/
theorem wellNested_intercalate {lists : List (List String)}
    (h : ∀ list ∈ lists, WellNested (list.map String.toList)) :
    WellNested ((List.intercalate [""] lists).map String.toList) := by
  induction lists with
  | nil => exact .nil
  | cons list lists ih =>
    obtain ⟨hlist, hlists⟩ := List.forall_mem_cons.mp h
    cases lists with
    | nil =>
      rw [List.intercalate_singleton]
      exact hlist
    | cons next lists =>
      rw [List.intercalate_cons_cons, List.map_append, List.map_append]
      exact (hlist.append (.quiet quietLine_nil .nil)).append (ih hlists)

theorem isOpening_empty : IsOpening "" := ⟨by decide, by decide⟩

theorem isOpening_type : IsOpening "type " := ⟨by decide, by decide⟩

theorem Exchange.wellNested {exchange : Exchange} (hrequest : exchange.request.Regular)
    (hresponse : exchange.response.Regular) : WellNested (exchange.lines.map String.toList) := by
  rw [Exchange.lines, List.map_append]
  exact (hrequest.wellNested 1 isOpening_empty).append (hresponse.wellNested 1 isOpening_empty)

/-! ## Routes -/

theorem quietLine_indented {line : String} (depth : Nat) (h : Tame line.toList) :
    QuietLine (indented depth line).toList := by
  rw [toList_indented]
  exact quietLine_of_tame ((tame_replicate_tab depth).append h)

/-- A line that ends with a string. -/
theorem quietLine_string {front content : List Char} (hfront : Sealed front []) (hone : OneLine front)
    (hcontent : OneLine content) (hquote : '"' ∉ content) : QuietLine (front ++ '"' :: (content ++ ['"'])) := by
  have hpass := hfront ('"' :: (content ++ ['"']))
  obtain ⟨hsides, hnext⟩ := lineSides_string hquote false
  have hmark : OneLine ['"'] := by decide
  refine ⟨hone.append ((hmark.append hcontent).append hmark), ?_, ?_, ?_⟩
  · rw [hpass.sides]
    show Balanced (lineSides (.string false) (content ++ ['"']))
    rw [hsides]
    exact .nil
  · rw [nextLine, hpass.stop]
    exact hnext
  · have hstring : codeFrom none ('"' :: (content ++ ['"'])) = '"' :: content ++ ['"'] := by
      show '"' :: codeFrom (some '"') (content ++ ['"']) = _
      rw [codeFrom_string hquote]
      rfl
    rw [hpass.code, hstring, ← List.append_assoc]
    exact quietCode_concat _ rfl rfl

/-- A type of a route between round brackets. -/
theorem sealed_typeName {name : List Char} (h : Named name) :
    Sealed (['('] ++ name ++ [')']) [(.round, true), (.round, false)] := by
  have hopen : Sealed ['('] [(.round, true)] := sealed_bracket rfl
  have hclose : Sealed [')'] [(.round, false)] := sealed_bracket rfl
  exact (hopen.append_fragment h.fragment).append_sealed hclose (c := ')') rfl (by decide)

namespace Route.Regular

variable {route : Route} (h : route.Regular)

include h

theorem quietLine_doc : QuietLine (indented 1 ("@doc " ++ inQuotes route.doc)).toList := by
  have hline : (indented 1 ("@doc " ++ inQuotes route.doc)).toList =
      "\t@doc ".toList ++ '"' :: (route.doc.toList ++ ['"']) := by
    rw [toList_indented]
    simp [inQuotes]
  rw [hline]
  exact quietLine_string (sealed_of_not_mem (by decide)) (by decide) h.docLine h.doc

theorem tame_path : Tame (String.join (route.path.map Segment.toText)).toList := by
  intro c hc
  rw [String.toList_join] at hc
  obtain ⟨text, htext, hmem⟩ := List.mem_flatMap.mp hc
  obtain ⟨segment, hsegment, rfl⟩ := List.mem_map.mp htext
  exact h.path segment hsegment c hmem

/-- The path may start a comment; the types stand between brackets. -/
theorem quietLine_binding : QuietLine (indented 1 route.bindingLine).toList := by
  have hspace : Sealed [' '] [] := sealed_of_allInert allInert_space
  have hreturns : Sealed " returns ".toList [] := sealed_of_not_mem (by decide)
  have htypes := hspace.append ((sealed_typeName h.request).append (hreturns.append (sealed_typeName h.response)))
  have hline : (indented 1 route.bindingLine).toList =
      List.replicate 1 '\t' ++ (route.method.toText.toList ++ ([' '] ++
        (String.join (route.path.map Segment.toText)).toList)) ++
        ([' '] ++ (['('] ++ route.request.toList ++ [')'] ++ (" returns ".toList ++
          (['('] ++ route.response.toList ++ [')'])))) := by
    rw [toList_indented]
    simp [bindingLine]
  have hmethod : Tame route.method.toText.toList := by
    cases route.method <;> decide
  rw [hline]
  refine QuietLine.tame_append ?_ (by simp) ?_
  · have hblank : Tame [' '] := by decide
    exact (tame_replicate_tab 1).append (hmethod.append (hblank.append h.tame_path))
  · refine quietLine_of_mark ?_ htypes.fragment ?_ ?_
    · have hround : OneLine ['('] ∧ OneLine [')'] ∧ OneLine [' '] ∧ OneLine " returns ".toList := by decide
      obtain ⟨hopen, hclose, hblank, hword⟩ := hround
      have hrequest := (hopen.append h.request.tame.oneLine).append hclose
      have hresponse := (hopen.append h.response.tame.oneLine).append hclose
      exact hblank.append (hrequest.append (hword.append hresponse))
    · have hpair : Balanced [(.round, true), (.round, false)] := .enclosed .round .nil
      exact hpair.append hpair
    · have hsplit : [' '] ++ (['('] ++ route.request.toList ++ [')'] ++ (" returns ".toList ++
          (['('] ++ route.response.toList ++ [')']))) =
          ([' ', '('] ++ (route.request.toList ++ [')'] ++ " returns ".toList ++ ['('] ++
            route.response.toList)) ++ [')'] := by
        simp
      rw [hsplit]
      exact quietCode_closed ⟨'(', by simp, rfl⟩ (Or.inr rfl)

theorem quietLine : ∀ line ∈ route.lines.map String.toList, QuietLine line := by
  have hhandler : Tame ("@handler " ++ route.handler).toList := by
    have hword : Tame "@handler ".toList := by decide
    rw [String.toList_append]
    exact hword.append h.handler
  intro line hline
  simp only [Route.lines, List.map_cons, List.map_nil, List.mem_cons, List.not_mem_nil, or_false] at hline
  rcases hline with rfl | rfl | rfl
  · exact h.quietLine_doc
  · exact quietLine_indented 1 hhandler
  · exact h.quietLine_binding

end Route.Regular

/-! ## Documents -/

theorem quietLine_versionLine : QuietLine versionLine.toList := by
  have hsides : lineSides .code versionLine.toList = [] := by decide
  refine ⟨by decide, ?_, by decide, ⟨by decide, by decide⟩⟩
  rw [hsides]
  exact .nil

/-- A line that is a comment as a whole. -/
theorem quietLine_slashes {comment : List Char} (h : OneLine comment) : QuietLine ('/' :: '/' :: comment) := by
  have hslashes : OneLine ['/', '/'] := by decide
  refine ⟨hslashes.append h, .nil, rfl, ?_⟩
  rw [codeFrom_comment rfl]
  exact quietCode_of_tame (by decide)

theorem tame_append_text {word text : String} (hword : Tame word.toList) (htext : Tame text.toList) :
    Tame (word ++ text).toList := by
  rw [String.toList_append]
  exact hword.append htext

/-- What holds of a line that stands in a document on a condition. -/
theorem forall_mem_clauseIf {α : Type} {P : α → Prop} {condition : Bool} {clause : α} (h : P clause) :
    ∀ a ∈ clauseIf condition clause, P a := by
  intro a ha
  unfold clauseIf at ha
  split at ha
  · rwa [List.mem_singleton.mp ha]
  · cases ha

namespace RouteDocument

/-- The lines before the declaration of the model. -/
def headLines (document : RouteDocument) : List String :=
  [versionLine, ""] ++
    clauseIf (!document.comment.isEmpty) ("// " ++ document.model.name ++ " " ++ document.comment)

/-- The lines between the brackets of the settings of the service. -/
def settingLines (document : RouteDocument) : List String :=
  clauseIf (!document.serverPath.isEmpty) (indented 1 ("prefix: " ++ document.serverPath)) ++
    [indented 1 ("group: " ++ document.group)]

/-- The lines of the types of the routes. -/
def exchangeLines (document : RouteDocument) : List String :=
  List.intercalate [""] (document.exchanges.map Exchange.lines)

/-- The lines between the brackets of the service. -/
def routeLines (document : RouteDocument) : List String :=
  List.intercalate [""] (document.routes.map Route.lines)

theorem serviceLines_eq (document : RouteDocument) :
    document.serviceLines = "@server (" :: (document.settingLines ++ [")"]) ++
      ("service " ++ document.service ++ " \x7b") :: (document.routeLines ++ ["\x7d"]) := by
  simp [serviceLines, settingLines, routeLines]

theorem lines_eq (document : RouteDocument) :
    document.lines = document.headLines ++ (document.model.lines 0 "type " ++ ([""] ++
      ("type (" :: (document.exchangeLines ++ [")"]) ++ ([""] ++ document.serviceLines)))) := by
  simp [lines, headLines, exchangeLines]

end RouteDocument

theorem openingLine_group : OpeningLine .round "type (".toList := by
  have hfront : Named "type ".toList := named_of_not_mem (by decide) (by decide)
  exact openingLine_named rfl rfl hfront

theorem openingLine_server : OpeningLine .round "@server (".toList := by
  have hfront : Named "@server ".toList := named_of_not_mem (by decide) (by decide)
  exact openingLine_named rfl rfl hfront

namespace RouteDocument.Regular

variable {document : RouteDocument} (h : document.Regular)

include h

theorem quietLine_head : ∀ line ∈ document.headLines.map String.toList, QuietLine line := by
  have hcomment : QuietLine ("// " ++ document.model.name ++ " " ++ document.comment).toList := by
    have hline : ("// " ++ document.model.name ++ " " ++ document.comment).toList =
        '/' :: '/' :: ([' '] ++ (document.model.name.toList ++ ([' '] ++ document.comment.toList))) := by
      simp
    have hspace : OneLine [' '] := by decide
    rw [hline]
    exact quietLine_slashes (hspace.append (h.model.name.tame.oneLine.append (hspace.append h.comment)))
  rw [List.forall_mem_map, headLines, List.forall_mem_append]
  refine ⟨?_, forall_mem_clauseIf hcomment⟩
  rw [List.forall_mem_cons, List.forall_mem_singleton]
  exact ⟨quietLine_versionLine, quietLine_nil⟩

theorem wellNested_exchanges : WellNested (document.exchangeLines.map String.toList) := by
  refine wellNested_intercalate fun list hlist => ?_
  obtain ⟨exchange, hexchange, rfl⟩ := List.mem_map.mp hlist
  obtain ⟨hrequest, hresponse⟩ := h.exchanges exchange hexchange
  exact Exchange.wellNested hrequest hresponse

theorem quietLine_routes : ∀ line ∈ document.routeLines.map String.toList, QuietLine line := by
  rw [List.forall_mem_map]
  intro line hline
  rcases mem_intercalate hline with hblank | ⟨piece, hpiece, hmem⟩
  · rw [List.mem_singleton.mp hblank]
    exact quietLine_nil
  · obtain ⟨route, hroute, rfl⟩ := List.mem_map.mp hpiece
    exact (h.routes route hroute).quietLine _ (List.mem_map_of_mem hmem)

theorem quietLine_settings : ∀ line ∈ document.settingLines.map String.toList, QuietLine line := by
  have hpath : Tame ("prefix: " ++ document.serverPath).toList := tame_append_text (by decide) h.serverPath
  have hgroup : Tame ("group: " ++ document.group).toList := tame_append_text (by decide) h.group
  rw [List.forall_mem_map, settingLines, List.forall_mem_append]
  refine ⟨forall_mem_clauseIf (quietLine_indented 1 hpath), ?_⟩
  rw [List.forall_mem_singleton]
  exact quietLine_indented 1 hgroup

theorem openingLine_service : OpeningLine .curly ("service " ++ document.service ++ " \x7b").toList := by
  have hname : Named (document.service.toList ++ [' ']) := h.service.append (by decide) (by decide)
  have hfront : Named ("service ".toList ++ (document.service.toList ++ [' '])) :=
    hname.prepend (by decide) (by decide)
  refine openingLine_named (c := '\x7b') ?_ rfl hfront
  simp

theorem wellNested_service : WellNested (document.serviceLines.map String.toList) := by
  have hround : ClosingLine .round ")".toList := closingLine 0 rfl
  have hcurly : ClosingLine .curly "\x7d".toList := closingLine 0 rfl
  have hall := (WellNested.block openingLine_server (.of_quiet h.quietLine_settings) hround).append
    (WellNested.block h.openingLine_service (.of_quiet h.quietLine_routes) hcurly)
  rw [serviceLines_eq]
  simpa using hall

/-- The lines of a regular document are well nested. -/
theorem wellNested : WellNested (document.lines.map String.toList) := by
  have hround : ClosingLine .round ")".toList := closingLine 0 rfl
  have hblank : WellNested [[]] := .quiet quietLine_nil .nil
  have hgroup := WellNested.block openingLine_group h.wellNested_exchanges hround
  have hall := (WellNested.of_quiet h.quietLine_head).append ((h.model.wellNested 0 isOpening_type).append
    (hblank.append (hgroup.append (hblank.append h.wellNested_service))))
  rw [lines_eq]
  simpa using hall

/-- The validator accepts a regular document. -/
theorem delimiter : RouteValidator.delimiter document.toText = .ok () :=
  h.wellNested.delimiter (by simp [lines])

end RouteDocument.Regular

end TableCodegen
