import Mathlib.Data.List.DropRight
import TableCodegen.Text.Blank

/-!
# Blanks at the ends of a text

What `trimStart`, `trimEnd` and `trim` cut off is blank, and what they leave has no blank at its ends.

Results:

* `mem_blankCodes`: the code points of blanks.
* `exists_trimStart`, `exists_trimEnd`, `exists_trim`: a text is what is left of it between blanks.
* `mem_trim`: only blanks are cut.
* `trim_blank_append`, `trim_append_blank`: blanks at the ends do not matter.
* `trimEnd_append_of_exists`: behind a mark, only what follows the mark is cut.
* `exists_last_mark`: a text that is not blank has a last mark.
-/

namespace TableCodegen.Text

/-- A text of blanks only. -/
def AllBlank (cs : List Char) : Prop :=
  ∀ c ∈ cs, isBlank c = true

theorem AllBlank.nil : AllBlank [] := List.forall_mem_nil _

theorem AllBlank.append {u v : List Char} (hu : AllBlank u) (hv : AllBlank v) : AllBlank (u ++ v) := by
  intro c hc
  rcases List.mem_append.mp hc with hc | hc
  · exact hu c hc
  · exact hv c hc

theorem AllBlank.of_cons {c : Char} {cs : List Char} (h : AllBlank (c :: cs)) :
    isBlank c = true ∧ AllBlank cs :=
  List.forall_mem_cons.mp h

theorem allBlank_replicate_tab (n : Nat) : AllBlank (List.replicate n '\t') := by
  intro c hc
  rw [List.eq_of_mem_replicate hc]
  rfl

/-- The blanks, as code points. -/
def blankCodes : List Nat :=
  [0x9, 0xA, 0xB, 0xC, 0xD, 0x20, 0x85, 0xA0, 0x1680, 0x2000, 0x2001, 0x2002, 0x2003, 0x2004, 0x2005, 0x2006,
    0x2007, 0x2008, 0x2009, 0x200A, 0x2028, 0x2029, 0x202F, 0x205F, 0x3000]

theorem mem_blankCodes {c : Char} (h : isBlank c = true) : c.toNat ∈ blankCodes := by
  simp only [isBlank, Bool.or_eq_true, Bool.and_eq_true, decide_eq_true_eq, beq_iff_eq] at h
  simp only [blankCodes, List.mem_cons, List.not_mem_nil, or_false]
  omega

theorem trimEnd_eq (cs : List Char) : trimEnd cs = cs.rdropWhile isBlank := rfl

theorem trim_eq (cs : List Char) : trim cs = trimEnd (trimStart cs) := rfl

/-! ## What is cut off -/

theorem exists_trimStart (cs : List Char) : ∃ lead, AllBlank lead ∧ cs = lead ++ trimStart cs := by
  refine ⟨cs.takeWhile isBlank, fun c hc => ?_, List.takeWhile_append_dropWhile.symm⟩
  exact List.mem_takeWhile_imp hc

theorem exists_trimEnd (cs : List Char) : ∃ tail, AllBlank tail ∧ cs = trimEnd cs ++ tail := by
  refine ⟨cs.rtakeWhile isBlank, fun c hc => List.mem_rtakeWhile_imp hc, ?_⟩
  exact List.rdropWhile_append_rtakeWhile.symm

theorem exists_trim (cs : List Char) :
    ∃ lead tail, AllBlank lead ∧ AllBlank tail ∧ cs = lead ++ trim cs ++ tail := by
  obtain ⟨lead, hlead, h⟩ := exists_trimStart cs
  obtain ⟨tail, htail, h'⟩ := exists_trimEnd (trimStart cs)
  refine ⟨lead, tail, hlead, htail, ?_⟩
  rw [trim_eq, List.append_assoc, ← h', ← h]

theorem trimEnd_isPrefix (cs : List Char) : trimEnd cs <+: cs :=
  List.rdropWhile_prefix isBlank cs

theorem mem_trim {c : Char} {cs : List Char} (hc : isBlank c = false) (h : c ∈ cs) : c ∈ trim cs := by
  obtain ⟨lead, tail, hlead, htail, hcs⟩ := exists_trim cs
  rw [hcs, List.mem_append, List.mem_append] at h
  rcases h with (h | h) | h
  · exact absurd (hlead c h) (by simp [hc])
  · exact h
  · exact absurd (htail c h) (by simp [hc])

theorem trim_isInfix (cs : List Char) : trim cs <:+: cs := by
  obtain ⟨lead, tail, -, -, h⟩ := exists_trim cs
  exact ⟨lead, tail, h.symm⟩

/-! ## What is left -/

theorem trimStart_blank_append {lead : List Char} (h : AllBlank lead) (cs : List Char) :
    trimStart (lead ++ cs) = trimStart cs := by
  induction lead with
  | nil => rfl
  | cons c lead ih =>
    have hc := h.of_cons
    rw [List.cons_append, trimStart, List.dropWhile_cons_of_pos hc.1]
    exact ih hc.2

theorem trimEnd_append_blank {tail : List Char} (h : AllBlank tail) (cs : List Char) :
    trimEnd (cs ++ tail) = trimEnd cs := by
  induction tail generalizing cs with
  | nil => rw [List.append_nil]
  | cons c tail ih =>
    have hc := h.of_cons
    rw [← List.singleton_append, ← List.append_assoc, ih hc.2, trimEnd_eq,
      List.rdropWhile_concat_pos isBlank cs c hc.1]
    rfl

theorem trimStart_cons {c : Char} (h : isBlank c = false) (cs : List Char) :
    trimStart (c :: cs) = c :: cs :=
  List.dropWhile_cons_of_neg (by rw [h]; simp)

theorem trimEnd_eq_self {cs : List Char} (h : ∀ c ∈ cs.getLast?, isBlank c = false) : trimEnd cs = cs := by
  rcases List.eq_nil_or_concat cs with rfl | ⟨front, c, rfl⟩
  · rfl
  · rw [List.concat_eq_append] at h ⊢
    have hc : isBlank c = false := h c (by simp)
    exact List.rdropWhile_concat_neg isBlank front c (by rw [hc]; simp)

/-- A text has a mark, or it is blank. -/
theorem allBlank_or_exists (cs : List Char) : AllBlank cs ∨ ∃ c ∈ cs, isBlank c = false := by
  by_cases h : AllBlank cs
  · exact Or.inl h
  · unfold AllBlank at h
    push Not at h
    obtain ⟨c, hc, hblank⟩ := h
    exact Or.inr ⟨c, hc, by rwa [← Bool.not_eq_true]⟩

/-- Only what follows a mark can be cut off. -/
theorem trimEnd_append_of_exists {v : List Char} (h : ∃ c ∈ v, isBlank c = false) (u : List Char) :
    trimEnd (u ++ v) = u ++ trimEnd v := by
  have hne : (v.reverse.dropWhile isBlank).isEmpty = false := by
    obtain ⟨c, hc, hblank⟩ := h
    rw [← Bool.not_eq_true, List.isEmpty_iff, List.dropWhile_eq_nil_iff]
    intro hall
    rw [hall c (List.mem_reverse.mpr hc)] at hblank
    cases hblank
  unfold trimEnd dropEndWhile
  rw [List.reverse_append, List.dropWhile_append, hne, if_neg Bool.false_ne_true,
    List.reverse_append, List.reverse_reverse]

/-- Only what stands before a mark can be cut off. -/
theorem trimStart_append_of_exists {u : List Char} (h : ∃ c ∈ u, isBlank c = false) (v : List Char) :
    trimStart (u ++ v) = trimStart u ++ v := by
  have hne : (u.dropWhile isBlank).isEmpty = false := by
    obtain ⟨c, hc, hblank⟩ := h
    rw [← Bool.not_eq_true, List.isEmpty_iff, List.dropWhile_eq_nil_iff]
    intro hall
    rw [hall c hc] at hblank
    cases hblank
  unfold trimStart
  rw [List.dropWhile_append, hne, if_neg Bool.false_ne_true]

/-- A text is not cut before its last character, if that is no blank. -/
theorem trimEnd_append_of_getLast? {u : List Char} (h : ∀ c ∈ u.getLast?, isBlank c = false) (v : List Char) :
    trimEnd (u ++ v) = u ++ trimEnd v := by
  rcases allBlank_or_exists v with hblank | hv
  · have hrest : trimEnd ([] ++ v) = [] := trimEnd_append_blank hblank []
    rw [List.nil_append] at hrest
    rw [trimEnd_append_blank hblank, hrest, trimEnd_eq_self h, List.append_nil]
  · exact trimEnd_append_of_exists hv u

theorem trimEnd_cons {c : Char} (h : isBlank c = false) (cs : List Char) :
    trimEnd (c :: cs) = c :: trimEnd cs := by
  have hlast : ∀ d ∈ [c].getLast?, isBlank d = false := by simpa using h
  exact trimEnd_append_of_getLast? hlast cs

theorem trimEnd_eq_nil_iff {cs : List Char} : trimEnd cs = [] ↔ AllBlank cs :=
  List.rdropWhile_eq_nil_iff

theorem trim_eq_nil_iff {cs : List Char} : trim cs = [] ↔ AllBlank cs := by
  obtain ⟨lead, hlead, h⟩ := exists_trimStart cs
  rw [trim_eq, trimEnd_eq_nil_iff]
  constructor
  · intro hrest
    rw [h]
    exact hlead.append hrest
  · intro hcs c hc
    exact hcs c (by rw [h]; exact List.mem_append_right _ hc)

theorem exists_of_trim_ne_nil {cs : List Char} (h : trim cs ≠ []) : ∃ c ∈ cs, isBlank c = false := by
  rw [ne_eq, trim_eq_nil_iff] at h
  exact (allBlank_or_exists cs).resolve_left h

theorem trim_ne_nil_of_exists {cs : List Char} (h : ∃ c ∈ cs, isBlank c = false) : trim cs ≠ [] := by
  obtain ⟨c, hc, hmark⟩ := h
  rw [ne_eq, trim_eq_nil_iff]
  intro hblank
  rw [hblank c hc] at hmark
  cases hmark

theorem trim_blank_append {lead : List Char} (h : AllBlank lead) (cs : List Char) :
    trim (lead ++ cs) = trim cs := by
  rw [trim_eq, trim_eq, trimStart_blank_append h]

theorem trim_append_blank {tail : List Char} (h : AllBlank tail) (cs : List Char) :
    trim (cs ++ tail) = trim cs := by
  by_cases hcs : trim cs = []
  · rw [hcs, trim_eq_nil_iff]
    exact (trim_eq_nil_iff.mp hcs).append h
  · rw [trim_eq, trim_eq, trimStart_append_of_exists (exists_of_trim_ne_nil hcs),
      trimEnd_append_blank h]

/-- Blanks are cut off on both sides of a mark. -/
theorem trim_append_cons {m : Char} (h : isBlank m = false) (u v : List Char) :
    trim (u ++ m :: v) = trimStart u ++ m :: trimEnd v := by
  have hstart : trimStart (u ++ m :: v) = trimStart u ++ m :: v := by
    rcases allBlank_or_exists u with hblank | hu
    · have hnil : trimStart (u ++ []) = [] := trimStart_blank_append hblank []
      rw [List.append_nil] at hnil
      rw [trimStart_blank_append hblank, trimStart_cons h, hnil, List.nil_append]
    · exact trimStart_append_of_exists hu _
  rw [trim_eq, hstart, trimEnd_append_of_exists ⟨m, List.mem_cons_self, h⟩, trimEnd_cons h]

/-- A text with marks at both ends has nothing to cut off. -/
theorem trim_eq_self {cs : List Char} (hhead : ∀ c ∈ cs.head?, isBlank c = false)
    (hlast : ∀ c ∈ cs.getLast?, isBlank c = false) : trim cs = cs := by
  have hstart : trimStart cs = cs := by
    cases cs with
    | nil => rfl
    | cons c cs => exact trimStart_cons (hhead c rfl) cs
  rw [trim_eq, hstart, trimEnd_eq_self hlast]

theorem isBlank_head_trimStart {u : List Char} : ∀ c ∈ (trimStart u).head?, isBlank c = false := by
  intro c hc
  have h := List.head?_dropWhile_not isBlank u
  rw [trimStart, Option.mem_def] at hc
  rw [hc] at h
  simpa using h

theorem isBlank_getLast_trimEnd {u : List Char} : ∀ c ∈ (trimEnd u).getLast?, isBlank c = false := by
  intro c hc
  have h := List.head?_dropWhile_not isBlank u.reverse
  rw [trimEnd, dropEndWhile, List.getLast?_reverse, Option.mem_def] at hc
  rw [hc] at h
  simpa using h

theorem isBlank_getLast_trim {u : List Char} : ∀ c ∈ (trim u).getLast?, isBlank c = false :=
  isBlank_getLast_trimEnd

theorem isBlank_head_trim {u : List Char} : ∀ c ∈ (trim u).head?, isBlank c = false := by
  intro c hc
  obtain ⟨tail, -, h⟩ := exists_trimEnd (trimStart u)
  refine isBlank_head_trimStart (u := u) c ?_
  rw [h, List.head?_append_of_ne_nil]
  · exact hc
  · rintro hnil
    rw [trim_eq, hnil] at hc
    simp at hc

@[simp] theorem trim_trim (cs : List Char) : trim (trim cs) = trim cs :=
  trim_eq_self isBlank_head_trim isBlank_getLast_trim

/-- The last mark of a text, and the blanks behind it. -/
theorem exists_last_mark {cs : List Char} (h : ∃ c ∈ cs, isBlank c = false) :
    ∃ front m tail, cs = front ++ m :: tail ∧ isBlank m = false ∧ AllBlank tail := by
  obtain ⟨tail, htail, heq⟩ := exists_trimEnd cs
  rcases List.eq_nil_or_concat (trimEnd cs) with hnil | ⟨front, m, hm⟩
  · obtain ⟨c, hc, hmark⟩ := h
    rw [trimEnd_eq_nil_iff.mp hnil c hc] at hmark
    cases hmark
  · rw [List.concat_eq_append] at hm
    refine ⟨front, m, tail, ?_, ?_, htail⟩
    · rw [heq, hm, List.append_assoc]
      rfl
    · exact isBlank_getLast_trimEnd (u := cs) m (by rw [hm]; simp)

theorem trim_last_mark (front : List Char) {tail : List Char} {m : Char} (hm : isBlank m = false)
    (htail : AllBlank tail) : trim (front ++ m :: tail) = trimStart front ++ [m] := by
  rw [trim_append_cons hm, trimEnd_eq_nil_iff.mpr htail]

end TableCodegen.Text
