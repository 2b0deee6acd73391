import TableCodegen.Document.Render
import TableCodegen.Proofs.Layout.Contents

/-!
# Imports of service documents

A service document says what the service is, and has one line for each route document that belongs to it. Nothing
that settings say about the service can be taken for such a line, and the layout keeps all of them.

Results:

* `importLines_renderService`: the lines of a service document that import something.
-/

namespace TableCodegen

open TableCodegen.Text

/-! ## Specification -/

/-- The word that imports a route document. -/
def importWord : List Char :=
  "import ".toList

/-- The lines of a text that start with this word. -/
def importLines (cs : List Char) : List (List Char) :=
  (contents cs).filter fun line => importWord.isPrefixOf line

/-- The line that imports a route document. -/
def importLine (file : String) : String :=
  "import " ++ inQuotes file

/-- A line that neither opens a block of types nor imports anything. -/
structure HeaderLine (line : List Char) : Prop where
  feed : '\n' ∉ line
  block : opensBlock (codePart line) = false
  word : ¬ importWord <+: trim line

instance (line : List Char) : Decidable (HeaderLine line) :=
  decidable_of_iff ('\n' ∉ line ∧ opensBlock (codePart line) = false ∧ ¬ importWord <+: trim line)
    ⟨fun h => ⟨h.1, h.2.1, h.2.2⟩, fun h => ⟨h.feed, h.block, h.word⟩⟩

/-! ## Lines of the document -/

/-- A line that starts with two letters of its own. -/
theorem headerLine_of_letters {lead : List Char} (hlead : AllBlank lead) {c d : Char} {rest : List Char}
    (hfeed : '\n' ∉ lead ++ c :: d :: rest) (hc : isBlank c = false) (htype : [c, d] ≠ ['t', 'y']) (himport : c ≠ 'i') :
    HeaderLine (lead ++ c :: d :: rest) where
  feed := hfeed
  block := by
    refine opensBlock_of_not_isPrefix hlead hc fun hprefix => htype ?_
    have hkeyword : "type".toList = ['t', 'y', 'p', 'e'] := rfl
    rw [hkeyword, List.cons_prefix_cons, List.cons_prefix_cons] at hprefix
    obtain ⟨rfl, rfl, -⟩ := hprefix
    rfl
  word := by
    have hkeyword : importWord = ['i', 'm', 'p', 'o', 'r', 't', ' '] := rfl
    rw [trim_blank_append hlead, trim_eq, trimStart_cons hc, trimEnd_cons hc, hkeyword, List.cons_prefix_cons]
    rintro ⟨rfl, -⟩
    exact himport rfl

namespace ServiceDocument

/-- What settings say about a service. -/
def entries (document : ServiceDocument) : List (String × String) :=
  [("title", document.title), ("desc", document.desc), ("author", document.author), ("email", document.email),
    ("version", document.version)]

/-- The lines in front of those that import. -/
def header (document : ServiceDocument) : List String :=
  [versionLine, "", "info ("] ++
    document.entries.map (fun entry => indented 1 (entry.1 ++ ": " ++ inQuotes entry.2)) ++ [")", ""]

theorem lines_eq (document : ServiceDocument) :
    document.lines = document.header ++ document.imports.map importLine :=
  rfl

theorem headerLine_of_mem_header (document : ServiceDocument)
    (hfeed : ∀ entry ∈ document.entries, '\n' ∉ entry.2.toList) :
    ∀ line ∈ document.header, HeaderLine line.toList := by
  have htab : AllBlank ['\t'] := by simp [AllBlank, isBlank]
  have hentry : ∀ (key value : String) (c d : Char) (rest : List Char), key.toList = c :: d :: rest →
      '\n' ∉ key.toList → '\n' ∉ value.toList → isBlank c = false → [c, d] ≠ ['t', 'y'] → c ≠ 'i' →
      HeaderLine (indented 1 (key ++ ": " ++ inQuotes value)).toList := by
    intro key value c d rest hkey hplain hvalue hc htype himport
    have hline : (indented 1 (key ++ ": " ++ inQuotes value)).toList =
        ['\t'] ++ c :: d :: (rest ++ ": \"".toList ++ value.toList ++ ['"']) := by
      simp [indented, inQuotes, hkey]
    rw [hline]
    rw [hkey] at hplain
    refine headerLine_of_letters htab ?_ hc htype himport
    simp_all
  simp only [entries, List.forall_mem_cons] at hfeed
  obtain ⟨htitle, hdesc, hauthor, hemail, hversion, -⟩ := hfeed
  unfold header
  rw [List.forall_mem_append, List.forall_mem_append, List.forall_mem_map]
  refine ⟨⟨by decide, ?_⟩, by decide⟩
  simp only [entries, List.forall_mem_cons]
  exact ⟨hentry _ _ 't' 'i' _ rfl (by decide) htitle rfl (by decide) (by decide),
    hentry _ _ 'd' 'e' _ rfl (by decide) hdesc rfl (by decide) (by decide),
    hentry _ _ 'a' 'u' _ rfl (by decide) hauthor rfl (by decide) (by decide),
    hentry _ _ 'e' 'm' _ rfl (by decide) hemail rfl (by decide) (by decide),
    hentry _ _ 'v' 'e' _ rfl (by decide) hversion rfl (by decide) (by decide), List.forall_mem_nil _⟩

end ServiceDocument

theorem filter_content_headerLine {line : List Char} (h : HeaderLine line) :
    (content line).filter (fun line => importWord.isPrefixOf line) = [] := by
  have hword : importWord.isPrefixOf (trim line) = false := by
    simpa [← Bool.not_eq_true] using h.word
  unfold content
  split
  · rfl
  · simp [hword]

theorem toList_importLine (file : String) :
    (importLine file).toList = importWord ++ ('"' :: file.toList ++ ['"']) := by
  simp [importLine, inQuotes, importWord]

theorem trim_importLine (file : String) : trim (importLine file).toList = (importLine file).toList := by
  rw [toList_importLine]
  refine trim_eq_self (fun c hc => ?_) fun c hc => ?_
  · cases hc
    rfl
  · rw [← List.append_assoc, List.getLast?_concat] at hc
    cases hc
    rfl

theorem filter_content_importLine (file : String) :
    (content (importLine file).toList).filter (fun line => importWord.isPrefixOf line) = [(importLine file).toList] := by
  have hne : (importLine file).toList ≠ [] := by simp [toList_importLine]
  have hword : importWord.isPrefixOf (importLine file).toList = true := by
    rw [toList_importLine, List.isPrefixOf_iff_prefix]
    exact List.prefix_append _ _
  rw [content, trim_importLine, if_neg hne]
  simp [hword]

theorem exists_layOut_of_formatRoutes {validator : RouteValidator} {formatter : SourceFormatter} {document text : String}
    (h : formatRoutes validator formatter document = .ok text) : layOut formatter document = .ok text := by
  unfold formatRoutes at h
  cases hvalid : validator document with
  | error failure =>
    rw [hvalid] at h
    cases h
  | ok _ =>
    rw [hvalid] at h
    exact h

theorem layOut_of_renderService {api : ApiConfig} {imports : List String} {validator : RouteValidator}
    {formatter : SourceFormatter} {text : String} (h : renderService api imports validator formatter = .ok text) :
    layOut formatter (ServiceDocument.ofConfig api imports).toText = .ok text := by
  unfold renderService at h
  cases hformat : formatRoutes validator formatter (ServiceDocument.ofConfig api imports).toText with
  | error failure =>
    rw [hformat] at h
    cases h
  | ok out =>
    rw [hformat] at h
    cases h
    exact exists_layOut_of_formatRoutes hformat

/-- The lines of a service document that import something. -/
theorem importLines_renderService {api : ApiConfig} {imports : List String} {validator : RouteValidator}
    {formatter : SourceFormatter} {text : String} (hrender : renderService api imports validator formatter = .ok text)
    (hfeed : ∀ file ∈ imports, '\n' ∉ file.toList) :
    importLines text.toList = imports.map fun file => (importLine file).toList := by
  have hheader := ServiceDocument.headerLine_of_mem_header (.ofConfig api imports) (by
    simp [ServiceDocument.entries, ServiceDocument.ofConfig, (oneLine_quotable _).feed])
  have himport : ∀ file ∈ imports, '\n' ∉ (importLine file).toList ∧
      opensBlock (codePart (importLine file).toList) = false := by
    intro file hfile
    have hplain := hfeed file hfile
    refine ⟨by simp [toList_importLine, importWord, hplain], ?_⟩
    rw [toList_importLine]
    exact opensBlock_of_not_isPrefix .nil (by rfl) (by rintro ⟨rest, h⟩; cases h)
  have hlines : ∀ line ∈ (ServiceDocument.ofConfig api imports).lines, '\n' ∉ line.toList ∧
      opensBlock (codePart line.toList) = false := by
    rw [ServiceDocument.lines_eq, List.forall_mem_append, List.forall_mem_map]
    exact ⟨fun line hline => ⟨(hheader line hline).feed, (hheader line hline).block⟩, himport⟩
  have hplain := fun line hline => (hlines line hline).1
  have hblockless := blockless_textOfLines hplain fun line hline => (hlines line hline).2
  have hnone : (ServiceDocument.ofConfig api imports).header.flatMap (fun line =>
      (content line.toList).filter fun line => importWord.isPrefixOf line) = [] :=
    List.flatMap_eq_nil_iff.mpr fun line hline => filter_content_headerLine (hheader line hline)
  rw [importLines, contents_layOut hblockless (layOut_of_renderService hrender),
    contents_textOfLines hplain, List.filter_flatMap, ServiceDocument.lines_eq, List.flatMap_append, hnone,
    List.nil_append, List.flatMap_map]
  simp only [filter_content_importLine]
  exact List.flatMap_pure_eq_map _ imports

end TableCodegen
