import TableCodegen.Proofs.Text.Blank
import TableCodegen.Proofs.Text.Word
import TableCodegen.Remark

/-!
# What comments say

A comment with allowed values is cut at two brackets: its label ends at the first opening bracket, and its
values are the runs of digits between that one and the last closing bracket. The cuts can be made by places
that are counted in bytes, with the width of an opening bracket added to its place. None of these places is
inside a character or beyond the end, whatever brackets a comment has and in whatever order.

Results:

* `byteSlice?_append`: a part of a text is cut out at the bytes before it and up to its end.
* `firstOffset?_append`, `lastOffset?_append`: the places of the first and the last occurrence.
* `Remark.ofSlices?_eq`: a comment that is cut by bytes reads as one that is cut by characters.
* `Remark.words_enums`: the allowed values are the words of the text that joins them.
* `Remark.reads_brackets`: the label and the values of every comment.
-/

namespace TableCodegen

namespace Text

/-! ## Places in bytes -/

/-- The text between two places that are counted in bytes; nothing if a place is beyond the end or inside a
    character, or if they are in the wrong order. -/
def byteSlice? (text : String) (start stop : Nat) : Option String :=
  if h : String.Pos.Raw.IsValid text ⟨start⟩ ∧ String.Pos.Raw.IsValid text ⟨stop⟩ ∧ start ≤ stop then
    some (text.extract (text.pos ⟨start⟩ h.1) (text.pos ⟨stop⟩ h.2.1))
  else none

/-- The number of bytes before the first `c`. -/
def firstOffset? (c : Char) : List Char → Option Nat
  | [] => none
  | d :: rest => if d = c then some 0 else (firstOffset? c rest).map (d.utf8Size + ·)

/-- The number of bytes before the last `c`. -/
def lastOffset? (c : Char) : List Char → Option Nat
  | [] => none
  | d :: rest =>
    match lastOffset? c rest with
    | some offset => some (d.utf8Size + offset)
    | none => if d = c then some 0 else none

theorem byteSlice?_append (before text after : String) :
    byteSlice? (before ++ text ++ after) before.utf8ByteSize (before.utf8ByteSize + text.utf8ByteSize) =
      some text := by
  have hstart : String.Pos.Raw.IsValid (before ++ text ++ after) ⟨before.utf8ByteSize⟩ :=
    (String.Pos.Raw.isValid_rawEndPos.append_right text).append_right after
  have hstop : String.Pos.Raw.IsValid (before ++ text ++ after)
      ⟨before.utf8ByteSize + text.utf8ByteSize⟩ := by
    rw [← String.utf8ByteSize_append]
    exact String.Pos.Raw.isValid_rawEndPos.append_right after
  have hbefore : before.toByteArray.extract before.toByteArray.size
      (before.toByteArray.size + text.toByteArray.size) = .empty :=
    ByteArray.extract_eq_empty_iff.mpr (Nat.min_le_right _ _)
  rw [byteSlice?, dif_pos ⟨hstart, hstop, Nat.le_add_right _ _⟩, Option.some_inj,
    ← String.toByteArray_inj, String.toByteArray_extract]
  simp only [String.offset_pos, String.toByteArray_append, ← String.size_toByteArray]
  rw [ByteArray.append_assoc, ByteArray.extract_append, hbefore, Nat.sub_self, Nat.add_sub_cancel_left,
    ByteArray.extract_append_eq_left rfl, ByteArray.empty_append]

theorem utf8ByteSize_ofList_cons (c : Char) (cs : List Char) :
    (String.ofList (c :: cs)).utf8ByteSize = c.utf8Size + (String.ofList cs).utf8ByteSize := by
  rw [String.ofList_cons, String.utf8ByteSize_append, String.utf8ByteSize_singleton]

section Offset

variable {c : Char} {before after : List Char}

theorem firstOffset?_of_not_mem (h : c ∉ before) : firstOffset? c before = none := by
  induction before with
  | nil => rfl
  | cons d before ih =>
    rw [List.mem_cons, not_or] at h
    rw [firstOffset?, if_neg (Ne.symm h.1), ih h.2, Option.map_none]

theorem firstOffset?_append (h : c ∉ before) (after : List Char) :
    firstOffset? c (before ++ c :: after) = some (String.ofList before).utf8ByteSize := by
  induction before with
  | nil => simp [firstOffset?]
  | cons d before ih =>
    rw [List.mem_cons, not_or] at h
    rw [List.cons_append, firstOffset?, if_neg (Ne.symm h.1), ih h.2, Option.map_some,
      utf8ByteSize_ofList_cons]

theorem lastOffset?_of_not_mem (h : c ∉ after) : lastOffset? c after = none := by
  induction after with
  | nil => rfl
  | cons d after ih =>
    rw [List.mem_cons, not_or] at h
    simp [lastOffset?, ih h.2, Ne.symm h.1]

theorem lastOffset?_append (before : List Char) (h : c ∉ after) :
    lastOffset? c (before ++ c :: after) = some (String.ofList before).utf8ByteSize := by
  induction before with
  | nil => simp [lastOffset?, lastOffset?_of_not_mem h]
  | cons d before ih => simp [lastOffset?, ih]

/-- A character that does not occur behind a place is found before it. -/
theorem lt_of_lastOffset?_append (before : List Char) (h : c ∉ after) {offset : Nat}
    (hoffset : lastOffset? c (before ++ after) = some offset) :
    offset < (String.ofList before).utf8ByteSize := by
  induction before generalizing offset with
  | nil =>
    rw [List.nil_append, lastOffset?_of_not_mem h] at hoffset
    cases hoffset
  | cons d before ih =>
    have hsize := d.utf8Size_pos
    rw [utf8ByteSize_ofList_cons]
    rw [List.cons_append, lastOffset?] at hoffset
    cases hrest : lastOffset? c (before ++ after) with
    | none =>
      rw [hrest] at hoffset
      have : offset = 0 := by simp at hoffset; omega
      omega
    | some rest =>
      rw [hrest] at hoffset
      have := ih hrest
      have := Option.some.inj hoffset
      omega

end Offset

/-- The last occurrence of a character. -/
theorem exists_append_cons_of_mem {c : Char} {cs : List Char} (h : c ∈ cs) :
    ∃ before after, cs = before ++ c :: after ∧ c ∉ after := by
  obtain ⟨tail, front, hcs, htail⟩ := List.eq_append_cons_of_mem (List.mem_reverse.mpr h)
  refine ⟨front.reverse, tail.reverse, ?_, by simpa using htail⟩
  rw [← List.reverse_reverse cs, hcs]
  simp

end Text

open TableCodegen.Text TableCodegen.Text.Unicode

namespace Remark

/-! ## Brackets -/

/-- A closing bracket stands behind the first opening one. -/
def ClosesBracket (comment : List Char) : Prop :=
  ∃ before after, comment = before ++ openBracket :: after ∧ openBracket ∉ before ∧ closeBracket ∈ after

/-- The parts of a comment around its first opening and its last closing bracket. -/
structure Bracketed (comment before body after : List Char) : Prop where
  text : comment = before ++ openBracket :: (body ++ closeBracket :: after)
  first : openBracket ∉ before
  last : closeBracket ∉ after

theorem ClosesBracket.exists_bracketed {comment : List Char} (h : ClosesBracket comment) :
    ∃ before body after, Bracketed comment before body after := by
  obtain ⟨before, tail, rfl, hfirst, hclose⟩ := h
  obtain ⟨body, after, rfl, hlast⟩ := exists_append_cons_of_mem hclose
  exact ⟨before, body, after, rfl, hfirst, hlast⟩

/-- A comment without such a pair has no opening bracket, or no closing one behind the first. -/
theorem opens_of_not_closesBracket {comment : List Char} (h : ¬ ClosesBracket comment) :
    openBracket ∉ comment ∨
      ∃ before after, comment = before ++ openBracket :: after ∧ openBracket ∉ before ∧
        closeBracket ∉ after := by
  by_cases hopen : openBracket ∈ comment
  · obtain ⟨before, after, rfl, hfirst⟩ := List.eq_append_cons_of_mem hopen
    exact Or.inr ⟨before, after, rfl, hfirst, fun hclose => h ⟨before, after, rfl, hfirst, hclose⟩⟩
  · exact Or.inl hopen

/-! ## Reading by characters -/

theorem bne_of_not_mem {c : Char} {cs : List Char} (h : c ∉ cs) : ∀ d ∈ cs, (d != c) = true := by
  intro d hd
  rw [bne_iff_ne]
  rintro rfl
  exact h hd

theorem beforeLast?_append {c : Char} {after : List Char} (before : List Char) (h : c ∉ after) :
    beforeLast? c (before ++ c :: after) = some before := by
  have hskip := bne_of_not_mem (mt List.mem_reverse.mp h)
  rw [beforeLast?, List.reverse_append, List.reverse_cons, List.append_assoc,
    List.dropWhile_append_of_pos hskip]
  simp

theorem beforeLast?_of_not_mem {c : Char} {cs : List Char} (h : c ∉ cs) : beforeLast? c cs = none := by
  have hskip : cs.reverse.dropWhile (· != c) = [] :=
    List.dropWhile_eq_nil_iff.mpr (bne_of_not_mem (mt List.mem_reverse.mp h))
  rw [beforeLast?, hskip]

theorem bracketBody?_append {before : List Char} (h : openBracket ∉ before) (after : List Char) :
    bracketBody? (before ++ openBracket :: after) =
      (beforeLast? closeBracket after).map fun body => (before, body) := by
  have hskip := bne_of_not_mem h
  rw [bracketBody?, List.dropWhile_append_of_pos hskip, List.takeWhile_append_of_pos hskip]
  simp

theorem Bracketed.bracketBody?_eq {comment before body after : List Char}
    (h : Bracketed comment before body after) : bracketBody? comment = some (before, body) := by
  rw [h.text, bracketBody?_append h.first, beforeLast?_append body h.last, Option.map_some]

theorem bracketBody?_of_not_closesBracket {comment : List Char} (h : ¬ ClosesBracket comment) :
    bracketBody? comment = none := by
  rcases opens_of_not_closesBracket h with hopen | ⟨before, after, rfl, hfirst, hclose⟩
  · have hskip : comment.dropWhile (· != openBracket) = [] :=
      List.dropWhile_eq_nil_iff.mpr (bne_of_not_mem hopen)
    rw [bracketBody?, hskip]
  · rw [bracketBody?_append hfirst, beforeLast?_of_not_mem hclose, Option.map_none]

/-! ## Reading by bytes -/

/-- The width of the opening bracket in bytes. -/
def bodyOffset : Nat := 3

/-- The places of the first opening bracket and the last closing one, if the second is behind the first. -/
def bracketOffsets? (comment : String) : Option (Nat × Nat) := do
  let start ← firstOffset? openBracket comment.toList
  let stop ← lastOffset? closeBracket comment.toList
  if stop < start + bodyOffset then none else some (start, stop)

/-- Reads a comment by cutting it at the places of its brackets; nothing if a cut cannot be made. -/
def ofSlices? (comment : String) : Option Remark :=
  match bracketOffsets? comment with
  | none => some ⟨trimmed comment, []⟩
  | some (start, stop) => do
    let label ← byteSlice? comment 0 start
    let body ← byteSlice? comment (start + bodyOffset) stop
    return ⟨trimmed label, (digitRuns body.toList).map String.ofList⟩

theorem utf8Size_openBracket : openBracket.utf8Size = bodyOffset := rfl

theorem bracketOffsets?_of_not_closesBracket {comment : String} (h : ¬ ClosesBracket comment.toList) :
    bracketOffsets? comment = none := by
  rcases opens_of_not_closesBracket h with hopen | ⟨before, after, htext, hfirst, hclose⟩
  · rw [bracketOffsets?, firstOffset?_of_not_mem hopen]
    rfl
  · rw [bracketOffsets?, htext, firstOffset?_append hfirst]
    cases hlast : lastOffset? closeBracket (before ++ openBracket :: after) with
    | none => rfl
    | some stop =>
      have hbehind : closeBracket ∉ openBracket :: after := List.not_mem_cons_of_ne_of_not_mem (by decide) hclose
      have := lt_of_lastOffset?_append before hbehind hlast
      exact if_pos (by omega)

/-- The places of the brackets are where the label ends and around the body. -/
theorem Bracketed.slices {comment : String} {before body after : List Char}
    (h : Bracketed comment.toList before body after) :
    ∃ start stop, bracketOffsets? comment = some (start, stop) ∧
      byteSlice? comment 0 start = some (String.ofList before) ∧
      byteSlice? comment (start + bodyOffset) stop = some (String.ofList body) := by
  have hlabel : comment = "" ++ String.ofList before ++
      String.ofList (openBracket :: (body ++ closeBracket :: after)) := by
    rw [← String.toList_inj, h.text]
    simp
  have hbody : comment = String.ofList (before ++ [openBracket]) ++ String.ofList body ++
      String.ofList (closeBracket :: after) := by
    rw [← String.toList_inj, h.text]
    simp
  have hwidth : (String.ofList (before ++ [openBracket])).utf8ByteSize =
      (String.ofList before).utf8ByteSize + bodyOffset := by
    rw [String.ofList_append, String.utf8ByteSize_append, ← String.singleton_eq_ofList,
      String.utf8ByteSize_singleton, utf8Size_openBracket]
  have hstop : lastOffset? closeBracket comment.toList =
      some ((String.ofList (before ++ [openBracket])).utf8ByteSize + (String.ofList body).utf8ByteSize) := by
    rw [← String.utf8ByteSize_append, ← String.ofList_append, ← lastOffset?_append _ h.last, h.text]
    simp
  refine ⟨(String.ofList before).utf8ByteSize, _, ?_, ?_, hwidth ▸ hbody ▸ byteSlice?_append _ _ _⟩
  · rw [bracketOffsets?, hstop, h.text, firstOffset?_append h.first, hwidth]
    exact if_neg (by omega)
  · rw [hlabel]
    simpa using byteSlice?_append "" (String.ofList before) _

theorem Bracketed.ofComment_eq {comment : String} {before body after : List Char}
    (h : Bracketed comment.toList before body after) :
    ofComment comment = ⟨trimmed (String.ofList before), (digitRuns body).map String.ofList⟩ := by
  rw [ofComment, h.bracketBody?_eq, trimmed, String.toList_ofList]

theorem ofComment_of_not_closesBracket {comment : String} (h : ¬ ClosesBracket comment.toList) :
    ofComment comment = ⟨trimmed comment, []⟩ := by
  rw [ofComment, bracketBody?_of_not_closesBracket h, trimmed]

/-- Cutting by bytes never fails, and reads what the comment says. -/
theorem ofSlices?_eq (comment : String) : ofSlices? comment = some (ofComment comment) := by
  by_cases hclosed : ClosesBracket comment.toList
  · obtain ⟨before, body, after, h⟩ := hclosed.exists_bracketed
    obtain ⟨start, stop, hoffsets, hlabel, hbody⟩ := h.slices
    rw [ofSlices?, hoffsets, h.ofComment_eq]
    simp [hlabel, hbody]
  · rw [ofSlices?, bracketOffsets?_of_not_closesBracket hclosed, ofComment_of_not_closesBracket hclosed]

/-! ## Digits -/

theorem isBlank_of_isDecimalDigit {c : Char} (h : isDecimalDigit c = true) : isBlank c = false := by
  have hcodes : ∀ n ∈ blankCodes, isDecimalDigit (Char.ofNat n) = false := by decide +kernel
  rw [← Bool.not_eq_true]
  intro hblank
  have hnone := hcodes c.toNat (mem_blankCodes hblank)
  rw [Char.ofNat_toNat, h] at hnone
  cases hnone

/-- The allowed values of a comment are runs of digits. -/
theorem values_digits {comment value : String} (h : value ∈ (ofComment comment).values) :
    value.toList ≠ [] ∧ ∀ c ∈ value.toList, isDecimalDigit c = true := by
  by_cases hclosed : ClosesBracket comment.toList
  · obtain ⟨before, body, after, hbody⟩ := hclosed.exists_bracketed
    rw [hbody.ofComment_eq] at h
    obtain ⟨run, hrun, rfl⟩ := List.mem_map.mp h
    rw [String.toList_ofList]
    exact (maximalRuns_iff.mpr rfl).of_mem run hrun
  · rw [ofComment_of_not_closesBracket hclosed] at h
    cases h

/-- The allowed values can be read back from the text that joins them. -/
theorem words_enums (comment : String) :
    words (ofComment comment).enums.toList = (ofComment comment).values.map String.toList := by
  have htext : (ofComment comment).enums.toList =
      List.intercalate [' '] ((ofComment comment).values.map String.toList) := by
    rw [enums, String.toList_intercalate]
    rfl
  rw [htext]
  refine words_intercalate fun w hw => ?_
  obtain ⟨value, hvalue, rfl⟩ := List.mem_map.mp hw
  have hdigits := values_digits hvalue
  exact ⟨hdigits.1, fun c hc => isBlank_of_isDecimalDigit (hdigits.2 c hc)⟩

/-- A comment with a closing bracket behind its first opening one has the label before that bracket, and as
    values the runs of digits between it and the last closing one; any other comment is a label as a whole.
    No cut that is made at the places of the brackets fails. -/
theorem reads_brackets (comment : String) :
    (ClosesBracket comment.toList → ∃ before body after, Bracketed comment.toList before body after ∧
      (ofComment comment).label = trimmed (String.ofList before) ∧
      MaximalRuns isDecimalDigit body ((ofComment comment).values.map String.toList) ∧
      ∃ start stop, bracketOffsets? comment = some (start, stop) ∧
        byteSlice? comment 0 start = some (String.ofList before) ∧
        byteSlice? comment (start + bodyOffset) stop = some (String.ofList body)) ∧
    (¬ ClosesBracket comment.toList →
      (ofComment comment).label = trimmed comment ∧ (ofComment comment).enums = "" ∧
        bracketOffsets? comment = none) ∧
    (ofComment comment).enums = " ".intercalate (ofComment comment).values ∧
    words (ofComment comment).enums.toList = (ofComment comment).values.map String.toList ∧
    ofSlices? comment = some (ofComment comment) := by
  refine ⟨fun hclosed => ?_, fun hopen => ?_, rfl, words_enums comment, ofSlices?_eq comment⟩
  · obtain ⟨before, body, after, h⟩ := hclosed.exists_bracketed
    refine ⟨before, body, after, h, ?_, ?_, h.slices⟩
    · rw [h.ofComment_eq]
    · rw [h.ofComment_eq]
      simp [maximalRuns_iff, digitRuns]
  · rw [ofComment_of_not_closesBracket hopen]
    exact ⟨rfl, rfl, bracketOffsets?_of_not_closesBracket hopen⟩

-- Only the first opening bracket and the last closing one count.
example : ofComment " 类型（1 个人（2 企业）10 机构）: 3 " = ⟨"类型", ["1", "2", "10"]⟩ := by decide +kernel

example : ofComment "状态）0 1（" = ⟨"状态）0 1（", []⟩ := by decide +kernel

end Remark

end TableCodegen
