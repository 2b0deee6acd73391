import TableCodegen.Proofs.Document.RouteLines
import TableCodegen.Proofs.Layout.Nesting

/-!
# Sources of route documents

The formatter is given two parts of a route document, the model and the group with all other types, with the
keyword in front of the brace of every type and with every member on a line of its own.

Results:

* `RouteMember.blockLine_toText`, `blockLine_declaration`: the lines of types as the formatter gets them.
* `TypeDecl.Plain.map_blockLine`: a declaration as the formatter gets it.
* `RouteDocument.Plain.source?_outline`: the two sources of a route document.
-/

namespace TableCodegen

open TableCodegen.Text

/-! ## Specification -/

/-- The line of a member as the formatter gets it. -/
def RouteMember.sourceLine (member : RouteMember) : String :=
  String.ofList (capitalized (trim member.toText.toList))

/-- The lines of a type as the formatter gets them: with the keyword in front of the brace. -/
def TypeDecl.sourceLines (depth : Nat) (opening : String) (decl : TypeDecl) : List String :=
  match decl.body with
  | .empty => [indented depth (opening ++ decl.name ++ " struct \x7b\x7d")]
  | .members list =>
    [indented depth (opening ++ decl.name ++ " struct \x7b")] ++ list.map RouteMember.sourceLine ++
      [indented depth "\x7d"]

/-- The two types of a route as the formatter gets them. -/
def Exchange.sourceLines (exchange : Exchange) : List String :=
  exchange.request.sourceLines 1 "" ++ exchange.response.sourceLines 1 ""

/-- Lines, each with a line feed behind it. -/
def sourceText (ls : List String) : String :=
  String.join (ls.map (· ++ "\n"))

namespace RouteDocument

/-- The first source that the formatter gets: the declaration of the model. -/
def modelSource (document : RouteDocument) : String :=
  sourceText (document.model.sourceLines 0 "type ")

/-- The second source: the group with the types of all routes. -/
def groupSource (document : RouteDocument) : String :=
  sourceText (["type ("] ++ List.intercalate [""] (document.exchanges.map Exchange.sourceLines) ++ [")"])

end RouteDocument

/-- The lines of a block as a part of a document. -/
def Part.ofLines (ls : List String) : Part :=
  .block (ls.headD "").toList (ls.tail.map String.toList)

/-- A line as a part of a document. -/
def Part.ofLine (text : String) : Part :=
  .line text.toList

/-- The parts of a route document: two blocks, and lines around them. -/
def RouteDocument.outline (document : RouteDocument) : List Part :=
  document.headLines.map .ofLine ++
    [.ofLines (document.model.lines 0 "type "), .ofLine "",
      .ofLines ("type (" :: (document.exchangeLines ++ [")"])), .ofLine ""] ++
    document.serviceLines.map .ofLine

/-- A name without blanks that does not start like the keyword. -/
structure PlainName (cs : List Char) : Prop where
  solid : ∀ c ∈ cs, isBlank c = false
  nonempty : cs ≠ []
  head : cs.head? ≠ some 's'

/-- A declaration whose lines the layout reads as what they are. -/
structure TypeDecl.Plain (decl : TypeDecl) : Prop where
  regular : decl.Regular
  name : PlainName decl.name.toList
  members : ∀ member ∈ decl.body.toList, Named member.name.toList

/-! ## Members -/

/-- A code that ends with the mark of a tag opens no structure. -/
theorem opensBody_concat_tagMark (code : List Char) : opensBody (code ++ [tagMark]) = false := by
  have hcurly : endsWithChar '\x7b' (code ++ [tagMark]) = false := by simp [endsWithChar, tagMark]
  have hclose : endsWithChar '\x7d' (code ++ [tagMark]) = false := by simp [endsWithChar, tagMark]
  rw [opensBody, hcurly, isEmptyBody, hclose]
  rfl

/-- The code of a member line ends with its tag. -/
theorem RouteMember.exists_codePart {member : RouteMember} (h : member.Regular) (hname : Named member.name.toList)
    (depth : Nat) : ∃ front, codePart (indented depth member.toText).toList = front ++ [tagMark] := by
  obtain ⟨word, -, htyped⟩ := h.sealed_typed
  have hnamed : Named (List.replicate depth '\t' ++ member.name.toList) :=
    hname.prepend (tame_replicate_tab depth) (by simp)
  have hcode : ∀ rest, codeFrom none
      (List.replicate depth '\t' ++ member.name.toList ++ (member.typed ++ rest)) =
        List.replicate depth '\t' ++ member.name.toList ++ (member.typed ++ codeFrom none rest) := by
    intro rest
    rw [(hnamed.fragment (member.typed ++ rest) (by simp [typed])).code, (htyped rest).code]
  have hsplit : ∃ front, member.typed = front ++ [tagMark] :=
    ⟨[' '] ++ member.type.toText.toList ++ [' '] ++ tagMark :: member.tag.body.toList, by simp [typed]⟩
  obtain ⟨front, hfront⟩ := hsplit
  have hend : ∀ {rest}, AllBlank (codeFrom none rest) →
      codePart (List.replicate depth '\t' ++ member.name.toList ++ (member.typed ++ rest)) =
        trimStart (List.replicate depth '\t' ++ member.name.toList ++ front) ++ [tagMark] := by
    intro rest hblank
    rw [codePart, hcode, hfront, List.append_assoc front, ← List.append_assoc]
    exact trim_last_mark _ rfl hblank
  rw [toList_indented, RouteMember.toList_toText, ← List.append_assoc]
  split
  · exact ⟨_, hend AllBlank.nil⟩
  · refine ⟨_, hend ?_⟩
    have hspace : PassesOver [' '] [] ('/' :: '/' :: ' ' :: member.comment.toList) :=
      (inert_of_isBlank rfl).passesOver _
    have hrest : codeFrom none (' ' :: '/' :: '/' :: ' ' :: member.comment.toList) = [' '] := by
      have hwhole := hspace.code
      rwa [codeFrom_comment rfl] at hwhole
    rw [hrest]
    simp [AllBlank, isBlank]

theorem RouteMember.blockLine_toText {member : RouteMember} (h : member.Regular)
    (hname : Named member.name.toList) (depth : Nat) :
    blockLine (indented depth member.toText).toList = member.sourceLine.toList := by
  obtain ⟨front, hcode⟩ := RouteMember.exists_codePart h hname depth
  have htrim : trim (indented depth member.toText).toList = trim member.toText.toList := by
    rw [toList_indented, trim_blank_append (allBlank_replicate_tab depth)]
  rw [blockLine_member, htrim, sourceLine, String.toList_ofList]
  · rw [hcode]
    exact opensBody_concat_tagMark front
  · rw [hcode]
    exact List.mem_append_right front List.mem_cons_self

/-! ## The keyword -/

/-- A text without a blank in front of a text without the keyword. -/
theorem not_keyword_append {u v : List Char} (hu : ' ' ∉ u) (hv : ¬ spacedKeyword <:+: v) :
    ¬ spacedKeyword <:+: u ++ v :=
  fun h => hv (infix_of_infix_append_right h hu)

/-- A blank in front of another letter than that of the keyword. -/
theorem not_keyword_cons {v : List Char} (hhead : v.head? ≠ some 's') (hv : ¬ spacedKeyword <:+: v) :
    ¬ spacedKeyword <:+: ' ' :: v := by
  rw [List.infix_cons_iff, not_or]
  refine ⟨fun h => hhead ?_, hv⟩
  obtain ⟨rest, hrest⟩ := (List.cons_prefix_cons.mp h).2
  rw [← hrest]
  rfl

/-- The opening words of a declaration: none, or `type`. -/
theorem not_keyword_opening {opening : String} (hopening : opening = "" ∨ opening = "type ") {name : List Char}
    (hname : PlainName name) (depth : Nat) {post : List Char} (hpost : ' ' ∉ post) :
    ¬ spacedKeyword <:+: List.replicate depth '\t' ++ (opening.toList ++ (name ++ ' ' :: '\x7b' :: post)) := by
  have hblank : ' ' ∉ name := fun hmem => by
    have := hname.solid ' ' hmem
    cases this
  have hrest : ¬ spacedKeyword <:+: ' ' :: '\x7b' :: post := by
    refine not_keyword_cons (by simp) fun h => ?_
    have hmem := h.subset (show ' ' ∈ spacedKeyword by decide)
    simp [hpost] at hmem
  have hnamed : ¬ spacedKeyword <:+: name ++ ' ' :: '\x7b' :: post := not_keyword_append hblank hrest
  refine not_keyword_append (by simp) ?_
  rcases hopening with rfl | rfl
  · exact hnamed
  · have hhead : (name ++ ' ' :: '\x7b' :: post).head? ≠ some 's' := by
      rw [List.head?_append_of_ne_nil _ hname.nonempty]
      exact hname.head
    exact not_keyword_append (u := "type".toList) (by decide) (not_keyword_cons hhead hnamed)

/-- The code of a line that declares a type. -/
theorem codePart_declaration {front post : List Char} (h : Named front) (hpost : post = [] ∨ post = ['\x7d']) :
    codePart (front ++ '\x7b' :: post) = trimStart front ++ '\x7b' :: post := by
  have hopen : Sealed ['\x7b'] [(.curly, true)] := sealed_bracket rfl
  have hclose : Sealed ['\x7d'] [(.curly, false)] := sealed_bracket rfl
  have hbody := h.fragment.append_sealed hopen (c := '\x7b') rfl (by decide)
  have hcode : codeFrom none (front ++ '\x7b' :: post) = front ++ '\x7b' :: post := by
    rcases hpost with rfl | rfl
    · exact hbody.fragment.line.2.2
    · have hwhole := (hbody.append hclose).fragment.line.2.2
      simpa using hwhole
  have hend : trimEnd post = post := by
    rcases hpost with rfl | rfl
    · exact trimEnd_eq_nil_iff.mpr AllBlank.nil
    · decide
  rw [codePart, hcode, trim_append_cons rfl, hend]

/-- A declaration opens a body, with members or without. -/
theorem opensBody_declaration {front post : List Char} (h : Named front) (hpost : post = [] ∨ post = ['\x7d']) :
    opensBody (codePart (front ++ '\x7b' :: post)) = true := by
  rw [codePart_declaration h hpost]
  rcases hpost with rfl | rfl
  · simp [opensBody, endsWithChar]
  · have hdrop : (trimStart front ++ ['\x7b', '\x7d']).dropLast = trimStart front ++ ['\x7b'] := by
      simp [List.dropLast_append_of_ne_nil]
    have htrim : trimEnd (trimStart front ++ ['\x7b']) = trimStart front ++ ['\x7b'] :=
      trimEnd_eq_self (by simp [isBlank])
    rw [opensBody, isEmptyBody, hdrop, htrim]
    simp [endsWithChar]

/-- A line that declares a type gets the keyword in front of its brace. -/
theorem blockLine_declaration {opening : String} (hopening : opening = "" ∨ opening = "type ") {name : List Char}
    (hname : PlainName name) (hnamed : Named name) (depth : Nat) {post : List Char}
    (hpost : post = [] ∨ post = ['\x7d']) :
    blockLine (List.replicate depth '\t' ++ (opening.toList ++ (name ++ ' ' :: '\x7b' :: post))) =
      List.replicate depth '\t' ++ (opening.toList ++ (name ++ (spacedKeyword ++ [' '] ++ '\x7b' :: post))) := by
  have hfront : Named (List.replicate depth '\t' ++ (opening.toList ++ (name ++ [' ']))) := by
    have hblank : Named (name ++ [' ']) := hnamed.append (by decide) (by decide)
    have hword : Tame opening.toList ∧ '/' ∉ opening.toList := by
      rcases hopening with rfl | rfl <;> decide
    exact (hblank.prepend hword.1 hword.2).prepend (tame_replicate_tab depth) (by simp)
  have hspace : ' ' ∉ post := by
    rcases hpost with rfl | rfl <;> decide
  have hkeyword := not_keyword_opening hopening hname depth hspace
  have hsplit : List.replicate depth '\t' ++ (opening.toList ++ (name ++ ' ' :: '\x7b' :: post)) =
      List.replicate depth '\t' ++ (opening.toList ++ (name ++ [' '])) ++ '\x7b' :: post := by
    simp
  have hlast : ∀ c ∈ (List.replicate depth '\t' ++ (opening.toList ++ name)).getLast?, isBlank c = false := by
    intro c hc
    rw [← List.append_assoc, List.getLast?_append_of_ne_nil _ hname.nonempty] at hc
    exact hname.solid c (List.mem_of_getLast? hc)
  have htrim : trimEnd (List.replicate depth '\t' ++ (opening.toList ++ (name ++ [' ']))) =
      List.replicate depth '\t' ++ (opening.toList ++ name) := by
    have hblank : AllBlank [' '] := by simp [AllBlank, isBlank]
    have hcut := trimEnd_append_blank hblank (List.replicate depth '\t' ++ (opening.toList ++ name))
    rw [trimEnd_eq_self hlast] at hcut
    simpa using hcut
  rw [hsplit] at hkeyword ⊢
  have hbrace : '\x7b' ∉ List.replicate depth '\t' ++ (opening.toList ++ (name ++ [' '])) :=
    fun hmem => hfront.tame '\x7b' hmem (by decide)
  rw [blockLine_body (opensBody_declaration hfront hpost), withKeyword_append hbrace hkeyword, htrim]
  simp

theorem blockLine_closing (depth : Nat) :
    blockLine (indented depth "\x7d").toList = (indented depth "\x7d").toList := by
  have hcode : codePart (indented depth "\x7d").toList = ['\x7d'] := by
    rw [toList_indented, codePart_blank_append (allBlank_replicate_tab depth)]
    decide
  rw [blockLine_other]
  · rw [hcode]
    decide
  · rw [hcode]
    decide

/-! ## Declarations -/

theorem map_blockLine_members {members : List RouteMember} (h : ∀ member ∈ members, member.Regular)
    (hnames : ∀ member ∈ members, Named member.name.toList) (depth : Nat) :
    ((members.map fun member => indented depth member.toText).map String.toList).map blockLine =
      (members.map RouteMember.sourceLine).map String.toList := by
  rw [List.map_map, List.map_map, List.map_map]
  exact List.map_congr_left fun member hmember =>
    RouteMember.blockLine_toText (h member hmember) (hnames member hmember) depth

/-- A declaration as the formatter gets it. -/
theorem TypeDecl.Plain.map_blockLine {decl : TypeDecl} (h : decl.Plain) (depth : Nat) {opening : String}
    (hopening : opening = "" ∨ opening = "type ") :
    ((decl.lines depth opening).map String.toList).map blockLine =
      (decl.sourceLines depth opening).map String.toList := by
  have hmembers := map_blockLine_members h.regular.members h.members (depth + 1)
  unfold TypeDecl.lines TypeDecl.sourceLines
  cases hbody : decl.body with
  | empty =>
    have hline := blockLine_declaration hopening h.name h.regular.name depth (Or.inr rfl)
    simpa [toList_indented, spacedKeyword] using hline
  | members list =>
    rw [hbody] at hmembers
    have hline := blockLine_declaration hopening h.name h.regular.name depth (Or.inl rfl)
    have hclose := blockLine_closing depth
    simp only [List.map_append, List.map_cons, List.map_nil, hclose]
    rw [show list = (TypeBody.members list).toList from rfl, hmembers]
    simpa [toList_indented, spacedKeyword] using hline

/-! ## Sources -/

theorem toList_sourceText (ls : List String) : (sourceText ls).toList = blockText (ls.map String.toList) := by
  rw [sourceText, String.toList_join, blockText, List.flatMap_map, List.flatMap_map]
  simp

/-- What the formatter gets of a block whose first line has no blanks at its ends. -/
theorem Part.source?_ofLines {first : String} {rest sources : List String}
    (htrim : trim first.toList = first.toList)
    (hlines : ((first :: rest).map String.toList).map blockLine = sources.map String.toList) :
    (Part.ofLines (first :: rest)).source? = some (sourceText sources) := by
  have hblock : (blockLines first.toList (rest.map String.toList)).map blockLine = sources.map String.toList := by
    rw [blockLines, htrim]
    exact hlines
  show some (String.ofList (blockText ((blockLines first.toList (rest.map String.toList)).map blockLine))) = _
  rw [hblock, ← toList_sourceText, String.ofList_toList]

namespace RouteDocument

/-- A regular document whose declarations are read as what they are. -/
structure Plain (document : RouteDocument) : Prop where
  regular : document.Regular
  model : document.model.Plain
  modelBody : ∃ list, document.model.body = .members list
  exchanges : ∀ exchange ∈ document.exchanges, exchange.request.Plain ∧ exchange.response.Plain

namespace Plain

variable {document : RouteDocument} (h : document.Plain)

include h

theorem exists_model_lines : ∃ list : List RouteMember, document.model.body = .members list ∧
    document.model.lines 0 "type " = indented 0 ("type " ++ document.model.name ++ " \x7b") ::
      (list.map (fun member => indented 1 member.toText) ++ [indented 0 "\x7d"]) := by
  obtain ⟨list, hbody⟩ := h.modelBody
  exact ⟨list, hbody, by simp [TypeDecl.lines, hbody]⟩

theorem source?_model :
    (Part.ofLines (document.model.lines 0 "type ")).source? = some document.modelSource := by
  have hlines := h.model.map_blockLine 0 (Or.inr rfl)
  obtain ⟨list, -, hmodel⟩ := h.exists_model_lines
  have hfirst : (indented 0 ("type " ++ document.model.name ++ " \x7b")).toList =
      't' :: ("ype ".toList ++ document.model.name.toList ++ [' ']) ++ ['\x7b'] := by
    rw [toList_indented]
    simp
  rw [hmodel] at hlines ⊢
  refine Part.source?_ofLines ?_ hlines
  rw [hfirst]
  refine trim_eq_self (fun c hc => ?_) fun c hc => ?_
  · obtain rfl : 't' = c := Option.some.inj hc
    rfl
  · rw [List.getLast?_concat] at hc
    obtain rfl : '\x7b' = c := Option.some.inj hc
    rfl

theorem map_blockLine_exchanges : (document.exchangeLines.map String.toList).map blockLine =
    (List.intercalate [""] (document.exchanges.map Exchange.sourceLines)).map String.toList := by
  have hblank : [""].map (blockLine ∘ String.toList) = [""].map String.toList := by decide
  rw [exchangeLines, map_intercalate, map_intercalate, map_intercalate, List.map_map, List.map_map, List.map_map,
    List.map_map, hblank]
  have hlists : document.exchanges.map (List.map blockLine ∘ List.map String.toList ∘ Exchange.lines) =
      document.exchanges.map (List.map String.toList ∘ Exchange.sourceLines) := by
    refine List.map_congr_left fun exchange hexchange => ?_
    obtain ⟨hrequest, hresponse⟩ := h.exchanges exchange hexchange
    show ((exchange.request.lines 1 "" ++ exchange.response.lines 1 "").map String.toList).map blockLine =
      (exchange.request.sourceLines 1 "" ++ exchange.response.sourceLines 1 "").map String.toList
    rw [List.map_append, List.map_append, List.map_append, hrequest.map_blockLine 1 (Or.inl rfl),
      hresponse.map_blockLine 1 (Or.inl rfl)]
  rw [Function.comp_assoc, hlists]

theorem source?_group : (Part.ofLines ("type (" :: (document.exchangeLines ++ [")"]))).source? =
    some document.groupSource := by
  have hfirst : blockLine "type (".toList = "type (".toList := by decide
  have hlast : blockLine ")".toList = ")".toList := by decide
  refine Part.source?_ofLines (by decide) ?_
  simp only [List.map_cons, List.map_append, List.map_nil, List.cons_append, List.nil_append,
    h.map_blockLine_exchanges, hfirst, hlast]

theorem source?_outline :
    document.outline.filterMap Part.source? = [document.modelSource, document.groupSource] := by
  have hlines : ∀ ls : List String, (ls.map Part.ofLine).filterMap Part.source? = [] := by
    intro ls
    rw [List.filterMap_map, List.filterMap_eq_nil_iff]
    exact fun _ _ => rfl
  have hblank : (Part.ofLine "").source? = none := rfl
  simp [outline, List.filterMap_append, hlines, h.source?_model, h.source?_group, hblank]

end Plain

end RouteDocument

end TableCodegen
