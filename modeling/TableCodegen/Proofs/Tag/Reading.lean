import TableCodegen.Proofs.Tag.Literal

/-!
# Reading of tags

A tag is read from left to right as pairs of a key and a literal, with blanks between the pairs. What is written
from tags is read as the same tags when their values are literals. When a value is none, the reading may still go
on, with the double quotes in other roles; then it does not find as many pairs as were written. The measure is the
number of double quotes that were read as such: it never falls, every written tag adds two to it, and a pair that
was read accounts for two.

Results:

* `readTag_of_isLiteral`: the tags that are read from written ones.
* `reads_iff`: as many pairs are read as were written exactly when all values fit their tags.
-/

namespace TableCodegen

/-! ## Specification -/

/-- A character of a key. -/
def isKeyChar (c : Char) : Bool :=
  ' ' < c && !(['"', ':', '\x7f'].contains c)

/-- A text that is read as a key. -/
def IsKey (cs : List Char) : Prop :=
  cs ≠ [] ∧ ∀ c ∈ cs, isKeyChar c = true

instance (cs : List Char) : Decidable (IsKey cs) :=
  inferInstanceAs (Decidable (_ ∧ _))

/-- Where the reading of a tag is. -/
inductive TagPlace where
  /-- At the start, or behind the blank after a pair. -/
  | gap
  /-- In a key. -/
  | key (word : List Char)
  /-- Behind the colon of a key. -/
  | colon (word : List Char)
  /-- In the literal of a key. -/
  | value (word text : List Char) (state : LiteralState)
  /-- Right behind a literal. -/
  | closed
  deriving Repr, DecidableEq

/-- The pairs that have been read, and the place behind them. -/
structure TagReading where
  tags : List Tag
  place : TagPlace
  deriving Repr, DecidableEq

namespace TagReading

/-- The start of a tag. -/
def start : TagReading := ⟨[], .gap⟩

/-- One more character, unless no tag goes on with it. -/
def step (reading : TagReading) (c : Char) : Option TagReading :=
  match reading.place with
  | .gap =>
    if c = ' ' then some reading
    else if isKeyChar c then some { reading with place := .key [c] }
    else none
  | .key word =>
    if c = ':' then some { reading with place := .colon word }
    else if isKeyChar c then some { reading with place := .key (word ++ [c]) }
    else none
  | .colon word =>
    if c = '"' then some { reading with place := .value word [] .plain } else none
  | .value word text state =>
    if c = '"' ∧ state = .plain then
      some ⟨reading.tags ++ [⟨String.ofList word, String.ofList text⟩], .closed⟩
    else (state.step c).map fun next => { reading with place := .value word (text ++ [c]) next }
  | .closed => if c = ' ' then some { reading with place := .gap } else none

/-- The reading behind a text. -/
def run (reading : TagReading) (cs : List Char) : Option TagReading :=
  cs.foldlM step reading

/-- The tag may end here. -/
def isComplete (reading : TagReading) : Bool :=
  match reading.place with
  | .gap | .closed => true
  | _ => false

end TagReading

/-- The tags that a text is read as. -/
def readTag (cs : List Char) : Option (List Tag) := do
  let reading ← TagReading.start.run cs
  if reading.isComplete then some reading.tags else none

/-- Tags as one text. -/
def tagTexts (tags : List Tag) : List Char :=
  [' '].intercalate (tags.map fun tag => tag.toText.toList)

example : readTag "json:\"id\"  gorm:\"comment:'\\\"'\" ".toList =
    some [⟨"json", "id"⟩, ⟨"gorm", "comment:'\\\"'"⟩] := by decide
example : readTag "json:\"id\"gorm:\"id\"".toList = none := by decide

namespace TagReading

/-- The double quotes around literals that have been read. -/
def quotes (reading : TagReading) : Nat :=
  2 * reading.tags.length +
    match reading.place with
    | .value .. => 1
    | _ => 0

/-- The next character belongs to an escape that has just started. -/
def Escaped (reading : TagReading) : Prop :=
  ∃ word text, reading.place = .value word text .escape

/-! ## Steps -/

variable {r r' : TagReading} {c : Char} {cs u v : List Char} {tags : List Tag} {word text : List Char}
  {state state' : LiteralState}

theorem step_value (h : state.step c = some state') :
    step ⟨tags, .value word text state⟩ c = some ⟨tags, .value word (text ++ [c]) state'⟩ := by
  have hopen : ¬ (c = '"' ∧ state = .plain) := by
    rintro ⟨rfl, rfl⟩
    simp [LiteralState.step_plain_quote] at h
  simp [step, hopen, h]

/-- In a literal, a character either closes it or goes on with it. -/
theorem step_value_cases (h : step ⟨tags, .value word text state⟩ c = some r') :
    (c = '"' ∧ state = .plain ∧ r' = ⟨tags ++ [⟨String.ofList word, String.ofList text⟩], .closed⟩) ∨
      ∃ state', state.step c = some state' ∧ r' = ⟨tags, .value word (text ++ [c]) state'⟩ := by
  simp only [step] at h
  split at h
  case isTrue hclose => exact .inl ⟨hclose.1, hclose.2, (Option.some.inj h).symm⟩
  case isFalse =>
    obtain ⟨state', hstate, rfl⟩ := Option.map_eq_some_iff.mp h
    exact .inr ⟨state', hstate, rfl⟩

theorem quotes_le_of_step (h : r.step c = some r') : r.quotes ≤ r'.quotes := by
  obtain ⟨tags, place⟩ := r
  cases place with
  | value word text state =>
    obtain ⟨-, -, rfl⟩ | ⟨state', -, rfl⟩ := step_value_cases h
    · simp only [quotes, List.length_append, List.length_singleton]
      omega
    · exact le_rfl
  | gap | key | colon | closed =>
    simp only [step] at h
    split_ifs at h <;> cases h <;> simp [quotes]

/-- A double quote opens or closes a literal, unless it is escaped. -/
theorem quotes_of_step_quote (h : r.step '"' = some r') :
    r'.quotes = r.quotes + 1 ∨ r.Escaped ∧ r'.isComplete = false := by
  obtain ⟨tags, place⟩ := r
  cases place with
  | value word text state =>
    obtain ⟨-, -, rfl⟩ | ⟨state', hstate, rfl⟩ := step_value_cases h
    · left
      simp only [quotes, List.length_append, List.length_singleton]
      omega
    · right
      cases state with
      | plain => simp [LiteralState.step_plain_quote] at hstate
      | escape => exact ⟨⟨word, text, rfl⟩, rfl⟩
      | code kind missing number => simp [LiteralState.step_code_quote] at hstate
  | colon word =>
    left
    obtain rfl : _ = r' := Option.some.inj h
    rfl
  | gap | key | closed =>
    simp [step, isKeyChar] at h

theorem not_escaped_of_step (hc : c ≠ '\\') (h : r.step c = some r') : ¬ r'.Escaped := by
  obtain ⟨tags, place⟩ := r
  rintro ⟨word', text', hescape⟩
  cases place with
  | value word text state =>
    obtain ⟨-, -, rfl⟩ | ⟨state', hstate, rfl⟩ := step_value_cases h
    · simp at hescape
    · obtain ⟨-, -, rfl⟩ := TagPlace.value.inj hescape
      exact hc (LiteralState.eq_of_step_eq_escape hstate)
  | gap | key | colon | closed =>
    simp only [step] at h
    split_ifs at h <;> cases h <;> simp at hescape

/-! ## Runs -/

@[simp] theorem run_nil : r.run [] = some r := rfl

theorem run_cons_iff : r.run (c :: cs) = some r' ↔ ∃ next, r.step c = some next ∧ next.run cs = some r' := by
  rw [run, List.foldlM_cons]
  exact Option.bind_eq_some_iff

theorem run_append_iff : r.run (u ++ v) = some r' ↔ ∃ next, r.run u = some next ∧ next.run v = some r' := by
  rw [run, List.foldlM_append]
  exact Option.bind_eq_some_iff

theorem run_singleton : r.run [c] = r.step c := by
  rw [run, List.foldlM_cons]
  exact bind_pure _

theorem quotes_le_of_run (h : r.run cs = some r') : r.quotes ≤ r'.quotes := by
  induction cs generalizing r with
  | nil => rw [Option.some.inj h]
  | cons c cs ih =>
    obtain ⟨next, hstep, hrun⟩ := run_cons_iff.mp h
    exact (quotes_le_of_step hstep).trans (ih hrun)

theorem not_escaped_of_run (hr : ¬ r.Escaped) (hlast : cs.getLast? ≠ some '\\') (h : r.run cs = some r') :
    ¬ r'.Escaped := by
  obtain rfl | ⟨init, c, rfl⟩ := List.eq_nil_or_concat cs
  · rwa [← Option.some.inj h]
  · rw [List.concat_eq_append, run_append_iff] at h
    obtain ⟨before, -, hstep⟩ := h
    rw [run_singleton] at hstep
    refine not_escaped_of_step (fun hc => hlast ?_) hstep
    simp [hc]

/-- The characters of a literal are read as its text. -/
theorem run_value (h : cs.foldlM LiteralState.step state = some state') :
    run ⟨tags, .value word text state⟩ cs = some ⟨tags, .value word (text ++ cs) state'⟩ := by
  induction cs generalizing text state with
  | nil => simp [Option.some.inj h]
  | cons c cs ih =>
    rw [List.foldlM_cons] at h
    obtain ⟨next, hstep, hrest⟩ := Option.bind_eq_some_iff.mp h
    rw [run_cons_iff]
    refine ⟨_, step_value hstep, ?_⟩
    rw [ih hrest, List.append_assoc, List.singleton_append]

/-- When no double quote counts, the reading stays in its literal. -/
theorem eq_of_run_value (h : run ⟨tags, .value word text state⟩ cs = some r')
    (hquotes : r'.quotes ≤ 2 * tags.length + 1) :
    ∃ state', cs.foldlM LiteralState.step state = some state' ∧
      r' = ⟨tags, .value word (text ++ cs) state'⟩ := by
  induction cs generalizing text state with
  | nil => exact ⟨state, rfl, by simpa using h.symm⟩
  | cons c cs ih =>
    obtain ⟨next, hstep, hrun⟩ := run_cons_iff.mp h
    obtain ⟨-, -, rfl⟩ | ⟨state', hstate, rfl⟩ := step_value_cases hstep
    · have hle := quotes_le_of_run hrun
      simp only [quotes, List.length_append, List.length_singleton] at hle hquotes
      omega
    · obtain ⟨last, hlast, rfl⟩ := ih hrun
      refine ⟨last, ?_, by simp⟩
      rw [List.foldlM_cons, hstate]
      exact hlast

theorem run_key_rest (hcs : ∀ c ∈ cs, isKeyChar c = true) :
    run ⟨tags, .key word⟩ cs = some ⟨tags, .key (word ++ cs)⟩ := by
  induction cs generalizing word with
  | nil => simp
  | cons c cs ih =>
    obtain ⟨hc, hcs⟩ := List.forall_mem_cons.mp hcs
    have hcolon : c ≠ ':' := by
      rintro rfl
      exact absurd hc (by decide)
    rw [run_cons_iff]
    refine ⟨⟨tags, .key (word ++ [c])⟩, by simp [step, hcolon, hc], ?_⟩
    rw [ih hcs, List.append_assoc, List.singleton_append]

/-- A key and the double quote that opens its literal. -/
theorem run_key (hkey : IsKey cs) :
    run ⟨tags, .gap⟩ (cs ++ [':', '"']) = some ⟨tags, .value cs [] .plain⟩ := by
  obtain ⟨hne, hchars⟩ := hkey
  obtain ⟨c, cs, rfl⟩ := List.exists_cons_of_ne_nil hne
  obtain ⟨hc, hcs⟩ := List.forall_mem_cons.mp hchars
  have hspace : c ≠ ' ' := by
    rintro rfl
    exact absurd hc (by decide)
  rw [List.cons_append, run_cons_iff]
  refine ⟨⟨tags, .key [c]⟩, by simp [step, hspace, hc], ?_⟩
  rw [run_append_iff]
  refine ⟨_, run_key_rest hcs, ?_⟩
  simp [run_cons_iff, step]

/-! ## Tags -/

variable {tag : Tag}

theorem toList_toText (tag : Tag) :
    tag.toText.toList = tag.key.toList ++ [':', '"'] ++ (tag.value.toList ++ ['"']) := by
  simp [Tag.toText]

/-- A tag whose value is a literal is read as it is. -/
theorem run_tag (hkey : IsKey tag.key.toList) (hvalue : IsLiteral tag.value.toList) :
    run ⟨tags, .gap⟩ tag.toText.toList = some ⟨tags ++ [tag], .closed⟩ := by
  rw [toList_toText, run_append_iff]
  refine ⟨_, run_key hkey, ?_⟩
  rw [run_append_iff]
  refine ⟨_, run_value hvalue, ?_⟩
  simp [run_cons_iff, step]

/-- The reading right before the double quote that ends a tag counts one less. -/
theorem quotes_of_run_quote (hend : ¬ r.Escaped ∨ r'.isComplete = true) (h : r.run ['"'] = some r') :
    r'.quotes = r.quotes + 1 := by
  rw [run_singleton] at h
  obtain hcount | ⟨hescaped, hopen⟩ := quotes_of_step_quote h
  · exact hcount
  · simp [hescaped, hopen] at hend

/-- A tag adds two double quotes, whatever stands before it, unless its value escapes the second. -/
theorem quotes_of_run_tag (hend : tag.value.toList.getLast? ≠ some '\\' ∨ r'.isComplete = true)
    (h : r.run tag.toText.toList = some r') : r.quotes + 2 ≤ r'.quotes := by
  have hsplit : tag.toText.toList = (tag.key.toList ++ [':']) ++ (['"'] ++ (tag.value.toList ++ ['"'])) := by
    simp [toList_toText]
  rw [hsplit, run_append_iff] at h
  obtain ⟨behindKey, hkey, h⟩ := h
  obtain ⟨behindOpening, hopening, h⟩ := run_append_iff.mp h
  obtain ⟨behindValue, hvalue, hclosing⟩ := run_append_iff.mp h
  have hkeyEnd : ¬ behindKey.Escaped := by
    obtain ⟨inKey, -, hcolon⟩ := run_append_iff.mp hkey
    rw [run_singleton] at hcolon
    exact not_escaped_of_step (by decide) hcolon
  have hopeningEnd : ¬ behindOpening.Escaped := by
    rw [run_singleton] at hopening
    exact not_escaped_of_step (by decide) hopening
  have hopeningCount := quotes_of_run_quote (.inl hkeyEnd) hopening
  have hclosingCount := quotes_of_run_quote (hend.imp_left (not_escaped_of_run hopeningEnd · hvalue)) hclosing
  have hkeyCount := quotes_le_of_run hkey
  have hvalueCount := quotes_le_of_run hvalue
  omega

/-- A tag that adds no more than its two double quotes is read as it is. -/
theorem isLiteral_of_run_tag (hkey : IsKey tag.key.toList)
    (hend : tag.value.toList.getLast? ≠ some '\\' ∨ r'.isComplete = true)
    (h : run ⟨tags, .gap⟩ tag.toText.toList = some r') (hcount : r'.quotes ≤ 2 * tags.length + 2) :
    IsLiteral tag.value.toList ∧ r' = ⟨tags ++ [tag], .closed⟩ := by
  rw [toList_toText, run_append_iff] at h
  obtain ⟨opened, hopened, h⟩ := h
  rw [run_key hkey] at hopened
  obtain rfl := Option.some.inj hopened
  obtain ⟨behindValue, hvalue, hclosing⟩ := run_append_iff.mp h
  have hopenedEnd : ¬ Escaped ⟨tags, .value tag.key.toList [] .plain⟩ := by
    rintro ⟨word, text, hescape⟩
    simp at hescape
  have hclosingCount := quotes_of_run_quote (hend.imp_left (not_escaped_of_run hopenedEnd · hvalue)) hclosing
  obtain ⟨state, hstate, rfl⟩ := eq_of_run_value hvalue (by omega)
  rw [run_singleton] at hclosing
  obtain ⟨-, rfl, rfl⟩ | ⟨state', -, rfl⟩ := step_value_cases hclosing
  · exact ⟨hstate, by simp⟩
  · simp [quotes] at hclosingCount

end TagReading

/-! ## Several tags -/

theorem tagTexts_cons_cons (tag next : Tag) (rest : List Tag) :
    tagTexts (tag :: next :: rest) = tag.toText.toList ++ ' ' :: tagTexts (next :: rest) := by
  simp [tagTexts]

namespace TagReading

variable {r r' : TagReading} {read tags : List Tag}

/-- Behind tags whose values are literals, these have been read. -/
theorem run_tagTexts (hne : tags ≠ []) (hkeys : ∀ tag ∈ tags, IsKey tag.key.toList)
    (hvalues : ∀ tag ∈ tags, IsLiteral tag.value.toList) :
    run ⟨read, .gap⟩ (tagTexts tags) = some ⟨read ++ tags, .closed⟩ := by
  induction tags generalizing read with
  | nil => exact absurd rfl hne
  | cons tag rest ih =>
    obtain ⟨hkey, hkeys⟩ := List.forall_mem_cons.mp hkeys
    obtain ⟨hvalue, hvalues⟩ := List.forall_mem_cons.mp hvalues
    cases rest with
    | nil => simpa [tagTexts] using run_tag hkey hvalue
    | cons next rest =>
      rw [tagTexts_cons_cons, run_append_iff]
      refine ⟨_, run_tag hkey hvalue, run_cons_iff.mpr ⟨⟨read ++ [tag], .gap⟩, by simp [step], ?_⟩⟩
      rw [ih (by simp) hkeys hvalues, List.append_assoc, List.singleton_append]

/-- Tags add two double quotes each, whatever stands before them. -/
theorem quotes_of_run_tagTexts (hends : ∀ tag ∈ tags.dropLast, tag.value.toList.getLast? ≠ some '\\')
    (hcomplete : r'.isComplete = true) (h : r.run (tagTexts tags) = some r') :
    r.quotes + 2 * tags.length ≤ r'.quotes := by
  induction tags generalizing r with
  | nil => simpa [tagTexts] using quotes_le_of_run h
  | cons tag rest ih =>
    cases rest with
    | nil => exact quotes_of_run_tag (.inr hcomplete) (by simpa [tagTexts] using h)
    | cons next rest =>
      rw [List.dropLast_cons_cons, List.forall_mem_cons] at hends
      rw [tagTexts_cons_cons, run_append_iff] at h
      obtain ⟨behindTag, htag, h⟩ := h
      obtain ⟨behindBlank, hblank, hrest⟩ := run_cons_iff.mp h
      have htagCount := quotes_of_run_tag (.inl hends.1) htag
      have hblankCount := quotes_le_of_step hblank
      have hrestCount := ih hends.2 hrest
      simp only [List.length_cons] at hrestCount ⊢
      omega

/-- When no more pairs are read than were written, all values are literals: a double quote that counted within
    a value would be one too many in the end. -/
theorem isLiteral_of_run_tagTexts (hkeys : ∀ tag ∈ tags, IsKey tag.key.toList)
    (hends : ∀ tag ∈ tags.dropLast, tag.value.toList.getLast? ≠ some '\\')
    (hcomplete : r'.isComplete = true) (h : run ⟨read, .gap⟩ (tagTexts tags) = some r')
    (hcount : r'.quotes ≤ 2 * (read.length + tags.length)) :
    ∀ tag ∈ tags, IsLiteral tag.value.toList := by
  induction tags generalizing read with
  | nil => simp
  | cons tag rest ih =>
    obtain ⟨hkey, hkeys⟩ := List.forall_mem_cons.mp hkeys
    cases rest with
    | nil =>
      rw [List.forall_mem_singleton]
      exact (isLiteral_of_run_tag hkey (.inr hcomplete) (by simpa [tagTexts] using h) hcount).1
    | cons next rest =>
      rw [List.dropLast_cons_cons, List.forall_mem_cons] at hends
      rw [tagTexts_cons_cons, run_append_iff] at h
      obtain ⟨behindTag, htag, h⟩ := h
      obtain ⟨behindBlank, hblank, hrest⟩ := run_cons_iff.mp h
      have hblankCount := quotes_le_of_step hblank
      have hrestCount := quotes_of_run_tagTexts hends.2 hcomplete hrest
      simp only [List.length_cons] at hcount hrestCount
      obtain ⟨hvalue, rfl⟩ := isLiteral_of_run_tag hkey (.inl hends.1) htag (by omega)
      obtain rfl : _ = behindBlank := Option.some.inj (by simpa [step] using hblank)
      refine List.forall_mem_cons.mpr ⟨hvalue, ih hkeys hends.2 hrest ?_⟩
      simp only [List.length_append, List.length_cons, List.length_nil]
      omega

end TagReading

variable {tags read : List Tag}

theorem readTag_eq_some_iff {cs : List Char} :
    readTag cs = some read ↔ ∃ reading, TagReading.start.run cs = some reading ∧
      reading.isComplete = true ∧ reading.tags = read := by
  simp [readTag, Option.bind_eq_some_iff]

/-- Tags whose values are literals are read as they are. -/
theorem readTag_of_isLiteral (hkeys : ∀ tag ∈ tags, IsKey tag.key.toList)
    (hvalues : ∀ tag ∈ tags, IsLiteral tag.value.toList) : readTag (tagTexts tags) = some tags := by
  obtain rfl | hne := eq_or_ne tags []
  · rfl
  · exact readTag_eq_some_iff.mpr ⟨_, TagReading.run_tagTexts hne hkeys hvalues, rfl, rfl⟩

/-- When as many tags are read as were written, all values are literals. Only the last value may end with a
    backslash. -/
theorem isLiteral_of_readTag (hkeys : ∀ tag ∈ tags, IsKey tag.key.toList)
    (hends : ∀ tag ∈ tags.dropLast, tag.value.toList.getLast? ≠ some '\\')
    (hread : readTag (tagTexts tags) = some read) (hlength : read.length = tags.length) :
    ∀ tag ∈ tags, IsLiteral tag.value.toList := by
  obtain ⟨⟨read', place⟩, hrun, hcomplete, rfl⟩ := readTag_eq_some_iff.mp hread
  refine TagReading.isLiteral_of_run_tagTexts hkeys hends hcomplete hrun ?_
  cases place <;> simp_all [TagReading.quotes, TagReading.isComplete]

theorem tagText_tagTexts_iff (hkeys : ∀ tag ∈ tags, TagText tag.key.toList) :
    TagText (tagTexts tags) ↔ ∀ tag ∈ tags, TagText tag.value.toList := by
  have hcons (u v : List Char) : TagText (u ++ ' ' :: v) ↔ TagText u ∧ TagText v := by
    rw [TagText, List.forall_mem_append, List.forall_mem_cons]
    exact and_congr_right fun _ => and_iff_right (by decide)
  rw [tagTexts, intercalate_iff (List.forall_mem_nil _) hcons, List.forall_mem_map]
  refine forall₂_congr fun tag htag => ?_
  rw [TagReading.toList_toText]
  simp only [TagText, List.forall_mem_append]
  exact (and_iff_right ⟨hkeys tag htag, by decide⟩).trans (and_iff_left (by decide))

/-- Written tags are one tag from which as many pairs are read exactly when all values fit. -/
theorem reads_iff (hkeys : ∀ tag ∈ tags, IsKey tag.key.toList ∧ TagText tag.key.toList)
    (hends : ∀ tag ∈ tags.dropLast, tag.value.toList.getLast? ≠ some '\\') :
    (TagText (tagTexts tags) ∧
        ∃ read, readTag (tagTexts tags) = some read ∧ read.map Tag.key = tags.map Tag.key) ↔
      ∀ tag ∈ tags, FitsTag tag.value.toList := by
  have hkey : ∀ tag ∈ tags, IsKey tag.key.toList := fun tag htag => (hkeys tag htag).1
  rw [tagText_tagTexts_iff fun tag htag => (hkeys tag htag).2]
  constructor
  · rintro ⟨htexts, read, hread, hmap⟩ tag htag
    have hlength : read.length = tags.length := by simpa using congrArg List.length hmap
    exact ⟨htexts tag htag, isLiteral_of_readTag hkey hends hread hlength tag htag⟩
  · intro hfits
    have hread := readTag_of_isLiteral hkey fun tag htag => (hfits tag htag).2
    exact ⟨fun tag htag => (hfits tag htag).1, tags, hread, rfl⟩

end TableCodegen
