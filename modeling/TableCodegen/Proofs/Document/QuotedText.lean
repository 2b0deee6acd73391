import TableCodegen.Document.Route.Text
import TableCodegen.Proofs.Document.Exchange
import TableCodegen.Proofs.Layout.CommentStart
import TableCodegen.Proofs.Layout.WellNested

/-!
# Texts between double quotes

Documents put texts from settings and from a database between double quotes: what settings say about a service, what
a route does, and the labels of members. The texts are made fit for it by `quotable`, and the validator reads them
again, with a string that ends at the first double quote behind no backslash.

Results:

* `readAsString_iff`: a body without double quotes is read as one string if it does not end in a backslash.
* `quoted_text_read_iff`: the texts that are read as one string, place by place.

**Deviation.** A text that ends in a backslash turns the closing quote into a part of the string, and what follows on
the line is never read as code. Only the words behind the label of a list keep its last character from the quote.
-/

namespace TableCodegen

open TableCodegen.Text

/-! ## Specification -/

/-- Behind `front` on a line the validator reads `text` as one string: it starts in code with a double quote, and the
first place where it is in code again is the end of the text. -/
structure ReadAsString (front text : String) : Prop where
  code : lineEnd .code front.toList = .code
  quote : text.toList.head? = some '"'
  feed : '\n' ∉ text.toList
  ends : ∀ u v, text.toList = u ++ v → u ≠ [] → (lineEnd .code (front.toList ++ u) = .code ↔ v = [])

/-- The last character that is no blank is a backslash. -/
def EndsInBackslash (text : String) : Prop :=
  (trim text.toList).getLast? = some '\\'

instance (text : String) : Decidable (EndsInBackslash text) :=
  inferInstanceAs (Decidable (_ = _))

/-- What settings say about a service. -/
inductive InfoKey where
  | title
  | desc
  | author
  | email
  | version
  deriving Repr, DecidableEq

namespace InfoKey

/-- The name of an entry. -/
def name : InfoKey → String
  | title => "title"
  | desc => "desc"
  | author => "author"
  | email => "email"
  | version => "version"

/-- What settings say. -/
def value (api : ApiConfig) : InfoKey → String
  | title => api.title
  | desc => api.desc
  | author => api.author
  | email => api.email
  | version => api.version

end InfoKey

/-- The places of texts between double quotes. -/
inductive QuotedPlace where
  | info (key : InfoKey)
  | doc (action : RouteAction)
  | label
  deriving Repr, DecidableEq

namespace QuotedPlace

/-- What stands on the line in front of the text; a label is read without the rest of its tag. -/
def front : QuotedPlace → String
  | info key => indented 1 (key.name ++ ": ")
  | doc _ => indented 1 "@doc "
  | label => "label:"

/-- What stands between the double quotes. -/
def body (t : String) : QuotedPlace → String
  | info _ | label => quotable t
  | doc action => action.doc (quotable t)

/-- The text with its double quotes. -/
def literal (t : String) (place : QuotedPlace) : String :=
  inQuotes (place.body t)

end QuotedPlace

/-! ## Texts on one line -/

theorem getLast?_quotable_iff (t : String) : (quotable t).toList.getLast? = some '\\' ↔ EndsInBackslash t := by
  rw [quotable, String.toList_ofList, List.getLast?_map, singleLine, String.toList_ofList, getLast?_joinWords,
    EndsInBackslash, Option.map_eq_some_iff]
  constructor
  · rintro ⟨c, hc, heq⟩
    by_cases hquote : c = '"'
    · rw [if_pos hquote] at heq
      exact absurd heq (by decide)
    · rw [if_neg hquote] at heq
      rw [hc, heq]
  · intro h
    exact ⟨'\\', h, by decide⟩

/-! ## Reading a string -/

theorem lineEnd_string_append {body : List Char} (h : '"' ∉ body) (escaped : Bool) (rest : List Char) :
    lineEnd (.string escaped) (body ++ rest) = lineEnd (.string (endsEscaped escaped body)) rest := by
  induction body generalizing escaped with
  | nil => rfl
  | cons c body ih =>
    obtain ⟨hc, hbody⟩ := not_or.mp (mt List.mem_cons.mpr h)
    have hnext : ScanState.next c (.string escaped) = .string (c == '\\') := by
      simp [ScanState.next, Ne.symm hc, beq_eq_decide]
    rw [List.cons_append, lineEnd_cons (startsComment_of_ne_code ScanState.noConfusion c _), hnext, ih hbody,
      endsEscaped_cons]

theorem lineEnd_allInert_append {front : List Char} (h : AllInert front) (line : List Char) :
    lineEnd .code (front ++ line) = lineEnd .code line := by
  induction front with
  | nil => rfl
  | cons c front ih =>
    obtain ⟨hc, hfront⟩ := List.forall_mem_cons.mp h
    rw [List.cons_append, lineEnd_inert_cons hc]
    exact ih hfront

section Body

variable {front : String} (hfront : AllInert front.toList)
include hfront

/-- Behind the quote that opens it a body is inside the string. -/
theorem lineEnd_body {body : List Char} (h : '"' ∉ body) (rest : List Char) :
    lineEnd .code (front.toList ++ '"' :: (body ++ rest)) = lineEnd (.string (endsEscaped false body)) rest := by
  rw [lineEnd_allInert_append hfront, ← lineEnd_string_append h]
  exact lineEnd_cons rfl

/-- Behind a body that ends in a backslash the closing quote is a part of the string, and so is what follows. -/
theorem lineEnd_of_backslash {body : String} (h : '"' ∉ body.toList) (hlast : body.toList.getLast? = some '\\')
    {rest : List Char} (hrest : '"' ∉ rest) :
    lineEnd .code (front.toList ++ ((inQuotes body).toList ++ rest)) = .string (endsEscaped false rest) := by
  have hbody : (inQuotes body).toList ++ rest = '"' :: (body.toList ++ '"' :: rest) := by simp [inQuotes]
  have hcode : (ScanState.string true).startsComment '"' rest = false :=
    startsComment_of_ne_code ScanState.noConfusion '"' rest
  have hstep := lineEnd_cons hcode
  rw [hbody, lineEnd_body hfront h, (endsEscaped_false_iff _).mpr hlast, hstep]
  simpa [lineEnd, ScanState.next] using lineEnd_string_append hrest false []

/-- A body without double quotes is read as one string exactly if it does not end in a backslash. -/
theorem readAsString_iff {body : String} (h : '"' ∉ body.toList) (hfeed : '\n' ∉ body.toList) :
    ReadAsString front (inQuotes body) ↔ body.toList.getLast? ≠ some '\\' := by
  have hbody : (inQuotes body).toList = '"' :: (body.toList ++ ['"']) := by simp [inQuotes]
  constructor
  · intro hread hlast
    have hend := (hread.ends _ [] (List.append_nil _).symm (by rw [hbody]; exact List.cons_ne_nil _ _)).mpr rfl
    have hopen := lineEnd_of_backslash hfront h hlast (List.not_mem_nil (a := '"'))
    rw [List.append_nil] at hopen
    rw [hopen] at hend
    cases hend
  · intro hlast
    refine ⟨?_, by rw [hbody]; rfl, by simp [hbody, hfeed], fun u v huv hne => ?_⟩
    · have hcode := lineEnd_allInert_append hfront []
      rwa [List.append_nil] at hcode
    · obtain ⟨c, u, rfl⟩ := List.exists_cons_of_ne_nil hne
      rw [hbody, List.cons_append] at huv
      obtain ⟨rfl, htail⟩ := List.cons.inj huv
      obtain rfl | ⟨v, d, rfl⟩ := List.eq_nil_or_concat v
      · -- the whole text: the closing quote stands behind no backslash
        have hescaped : endsEscaped false body.toList = false := by
          rwa [← Bool.not_eq_true, endsEscaped_false_iff]
        rw [List.append_nil] at htail
        rw [← htail, lineEnd_body hfront h, hescaped]
        exact iff_of_true rfl rfl
      · -- a part of it: the closing quote is still to come
        rw [List.concat_eq_append, ← List.append_assoc] at htail
        have hu : '"' ∉ u := fun hmem => h ((List.append_inj_left' htail rfl) ▸ List.mem_append_left v hmem)
        have hopen := lineEnd_body hfront hu []
        rw [List.append_nil] at hopen
        rw [hopen]
        exact iff_of_false (fun heq => nomatch heq) (by simp)

end Body

/-! ## Places -/

namespace QuotedPlace

theorem allInert_front (place : QuotedPlace) : AllInert place.front.toList := by
  refine allInert_of_not_mem ?_
  cases place with
  | info key => cases key <;> decide +kernel
  | doc action =>
    show ∀ c ∈ (indented 1 "@doc ").toList, c ∉ layoutMarks
    decide +kernel
  | label => decide +kernel

/-- Words around a text do not bring in double quotes or line feeds. -/
theorem not_mem_body (place : QuotedPlace) (t : String) :
    '"' ∉ (place.body t).toList ∧ '\n' ∉ (place.body t).toList := by
  have hquote : '"' ∉ (quotable t).toList := fun hmem => (mem_of_mem_quotable hmem).1 rfl
  have hfeed : '\n' ∉ (quotable t).toList := (oneLine_quotable t).feed
  cases place with
  | info key => exact ⟨hquote, hfeed⟩
  | label => exact ⟨hquote, hfeed⟩
  | doc action => cases action <;> simp [body, RouteAction.doc, hquote, hfeed]

theorem getLast?_append_iff {u v : List Char} (hu : u.getLast? ≠ some '\\') :
    (u ++ v).getLast? = some '\\' ↔ v.getLast? = some '\\' := by
  rw [List.getLast?_append]
  cases v.getLast? with
  | none => simpa using hu
  | some c => rfl

/-- Only behind the label of a list stand words. -/
theorem getLast?_doc_iff (action : RouteAction) (label : String) :
    (action.doc label).toList.getLast? = some '\\' ↔ action ≠ .list ∧ label.toList.getLast? = some '\\' := by
  have hverb : action.docVerb.toList.getLast? ≠ some '\\' := by cases action <;> decide
  rw [action.doc_eq, String.toList_append, String.toList_append]
  by_cases hlist : action = .list
  · have hnoun : action.docNoun.toList.getLast? = some '表' := by rw [hlist]; decide
    rw [List.getLast?_append, hnoun]
    exact iff_of_false (by simp) fun h => h.1 hlist
  · have hnoun : action.docNoun = "" := by cases action <;> first | rfl | exact absurd rfl hlist
    rw [hnoun, String.toList_empty, List.append_nil, getLast?_append_iff hverb]
    exact (and_iff_right hlist).symm

theorem getLast?_body_iff (place : QuotedPlace) (t : String) :
    (place.body t).toList.getLast? = some '\\' ↔ place ≠ .doc .list ∧ EndsInBackslash t := by
  rw [← getLast?_quotable_iff]
  cases place with
  | info key => exact (and_iff_right (by simp)).symm
  | label => exact (and_iff_right (by simp)).symm
  | doc action =>
    rw [body, getLast?_doc_iff]
    exact and_congr_left fun _ => (not_congr (by simp))

end QuotedPlace

/-! ## Texts in documents -/

theorem indented_append (depth : Nat) (u v : String) : indented depth (u ++ v) = indented depth u ++ v :=
  String.append_assoc.symm

/-- The label of a tag stands in it as it is given. -/
theorem toText_of_mem_toTags {place : RequestPlace} {key : String} {presence : Presence} {rules : List Rule}
    {label : Option String} {tag : Tag} (h : tag ∈ (MemberTag.request place key presence rules label).toTags)
    (hkey : tag.key = "label") : ∃ text, label = some text ∧ tag.toText = "label:" ++ inQuotes text := by
  rw [MemberTag.toTags, List.mem_append, List.mem_append, List.mem_singleton] at h
  obtain (rfl | hvalidate) | hlabel := h
  · have hplace : place.key ≠ "label" := by cases place <;> decide
    exact absurd hkey hplace
  · unfold clauseIf at hvalidate
    split at hvalidate
    · rw [List.mem_singleton.mp hvalidate] at hkey
      exact absurd hkey (by simp)
    · cases hvalidate
  · cases label with
    | none => cases hlabel
    | some text =>
      rw [List.mem_singleton.mp hlabel]
      refine ⟨text, rfl, ?_⟩
      rw [Tag.toText, inQuotes, ← String.append_assoc, ← String.append_assoc]
      rfl

theorem toText_of_mem_tagOf {mode : Mode} {field : Field} {tag : Tag}
    (h : tag ∈ (RouteMember.tagOf mode field).toTags) (hkey : tag.key = "label") :
    tag.toText = "label:" ++ inQuotes (quotable field.label) := by
  unfold RouteMember.tagOf at h
  split at h
  · simp only [MemberTag.toTags, List.mem_singleton] at h
    rw [h] at hkey
    exact absurd hkey (by simp)
  · split at h
    · simp only [MemberTag.toTags, List.mem_cons, List.not_mem_nil, or_false] at h
      obtain rfl | rfl := h <;> exact absurd hkey (by simp)
    · obtain ⟨text, htext, htag⟩ := toText_of_mem_toTags h hkey
      split at htext
      · cases htext
      · rw [htag, ← Option.some.inj htext]

theorem infoLine_mem_lines (key : InfoKey) (api : ApiConfig) (imports : List String) :
    indented 1 (key.name ++ ": ") ++ inQuotes (quotable (key.value api)) ∈
      (ServiceDocument.ofConfig api imports).lines := by
  rw [← indented_append]
  cases key <;> simp [ServiceDocument.lines, ServiceDocument.ofConfig, InfoKey.name, InfoKey.value]

theorem docLine_mem_lines (route : Route) : indented 1 "@doc " ++ inQuotes route.doc ∈ route.lines := by
  rw [← indented_append]
  exact List.mem_cons_self

theorem docLabel_of_label {entity : Entity} (h : labelOf (singleLine entity.tableComment) ≠ "") :
    entity.docLabel = quotable (labelOf (singleLine entity.tableComment)) := by
  have hfull : ¬ (labelOf (singleLine entity.tableComment)).isEmpty = true := by
    rwa [String.isEmpty_iff]
  unfold Entity.docLabel
  dsimp only
  rw [if_neg hfull]

/-! ## Results -/

/-- A text between double quotes is read as one string exactly if it does not end in a backslash; only the words for a
list may have a label that does. Otherwise the line goes on inside the string up to the next double quote. The places
are those of the entries that settings make, of the words for the routes of an entity and of the labels of members. -/
theorem quoted_text_read_iff (t : String) :
    (∀ place : QuotedPlace,
      ReadAsString place.front (place.literal t) ↔ place = .doc .list ∨ ¬ EndsInBackslash t) ∧
    (∀ place : QuotedPlace, place ≠ .doc .list → EndsInBackslash t → ∀ rest, '"' ∉ rest →
      lineEnd .code (place.front.toList ++ ((place.literal t).toList ++ rest)) =
        .string (endsEscaped false rest)) ∧
    (∀ (key : InfoKey) (api : ApiConfig) (imports : List String), key.value api = t →
      (QuotedPlace.info key).front ++ (QuotedPlace.info key).literal t ∈
        (ServiceDocument.ofConfig api imports).lines) ∧
    (∀ entity : Entity, labelOf (singleLine entity.tableComment) = t → t ≠ "" → ∀ route ∈ entity.routes,
      ∃ action, (QuotedPlace.doc action).front ++ (QuotedPlace.doc action).literal t ∈ route.lines) ∧
    (∀ (mode : Mode) (field : Field), field.label = t → ∀ tag ∈ (RouteMember.tagOf mode field).toTags,
      tag.key = "label" → tag.toText = QuotedPlace.label.front ++ QuotedPlace.label.literal t) ∧
    ∀ id : IdInfo, id.label = t → ∀ tag ∈ id.batchMember.tag.toTags,
      tag.key = "label" → tag.toText = QuotedPlace.label.front ++ QuotedPlace.label.literal t := by
  refine ⟨fun place => ?read, fun place hplace hlast rest hrest => ?hidden, ?info, ?doc, ?field, ?key⟩
  case read =>
    obtain ⟨hquote, hfeed⟩ := place.not_mem_body t
    rw [QuotedPlace.literal, readAsString_iff place.allInert_front hquote hfeed, ne_eq, place.getLast?_body_iff,
      not_and_or, not_not]
  case hidden =>
    exact lineEnd_of_backslash place.allInert_front (place.not_mem_body t).1
      ((place.getLast?_body_iff t).mpr ⟨hplace, hlast⟩) hrest
  case info =>
    rintro key api imports rfl
    exact infoLine_mem_lines key api imports
  case doc =>
    rintro entity rfl hlabel route hroute
    obtain ⟨action, method, path, rfl⟩ := Entity.exists_route_of_mem_routes hroute
    have hline := docLine_mem_lines (entity.route action method path)
    rw [Entity.route, docLabel_of_label hlabel] at hline
    rw [Entity.route, docLabel_of_label hlabel]
    exact ⟨action, hline⟩
  case field =>
    rintro mode field rfl tag htag hkey
    exact toText_of_mem_tagOf htag hkey
  case key =>
    rintro id rfl tag htag hkey
    obtain ⟨text, htext, htag⟩ := toText_of_mem_toTags htag hkey
    rw [htag, ← Option.some.inj htext]
    rfl

/-- Settings with a title that ends in a backslash. -/
def backslashApi : ApiConfig where
  title := "a\\"

/-- A table whose comment is that title. -/
def backslashTable : Table where
  name := "user"
  comment := "a\\"
  columns := []
  indexes := ⟨[], []⟩

/-- The title leaves the rest of its line in a string, and so do the words of all routes but the list. -/
theorem title_left_open :
    "\ttitle: \"a\\\"" ∈ (ServiceDocument.ofConfig backslashApi []).lines ∧
      ¬ ReadAsString "\ttitle: " "\"a\\\"" ∧ lineEnd .code "\ttitle: \"a\\\" (".toList = .string false ∧
      (∀ route ∈ (buildEntity backslashTable {} {}).routes, ∃ action, (QuotedPlace.doc action).front ++
        (QuotedPlace.doc action).literal "a\\" ∈ route.lines) ∧
      ¬ ReadAsString "\t@doc " "\"创建a\\\"" ∧ ReadAsString "\t@doc " "\"获取a\\列表\"" := by
  have hlast : EndsInBackslash "a\\" := by decide +kernel
  obtain ⟨hread, hhidden, hinfo, hdoc, -, -⟩ := quoted_text_read_iff "a\\"
  have hopen : ∀ place : QuotedPlace, place ≠ .doc .list → ¬ ReadAsString place.front (place.literal "a\\") :=
    fun place hplace h => ((hread place).mp h).elim hplace (not_not_intro hlast)
  exact ⟨hinfo .title backslashApi [] rfl, hopen (.info .title) (by decide),
    hhidden (.info .title) (by decide) hlast [' ', '('] (by decide),
    hdoc (buildEntity backslashTable {} {}) (by decide +kernel) (by decide),
    hopen (.doc .create) (by decide), (hread (.doc .list)).mpr (.inl rfl)⟩

end TableCodegen
