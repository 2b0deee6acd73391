import Mathlib.Tactic.MkIffOfInductiveProp
import TableCodegen.Naming.Camel
import TableCodegen.Naming.Initialism
import TableCodegen.Proofs.MemberType
import TableCodegen.Proofs.Text.Mark
import TableCodegen.Proofs.Text.Word

/-!
# Exported names of ASCII names

Most catalog names are made of ASCII letters, digits and underscores. The exported form of such a name has the letters
of its segments in a row, each with a capital first or in capitals throughout.

Results:

* `caseForms`: how letters and digits change case.
* `IsAscii.upperText_eq_map`, `IsAscii.lowerText_eq_map`: the case maps of ASCII texts.
* `IsAscii.map_toLower_exportedSegment`: but for case, an exported segment is the segment.
* `flatten_segments`: the segments of a name make up all but its underscores.
* `ne_nil_of_mem_segments`, `isWord_of_mem_segments`: the segments of an ASCII name.
* `IsAscii.map_toLower_exportedChars`: but for case, an exported name is the name without its underscores.
-/

namespace TableCodegen.Naming

open TableCodegen.Text TableCodegen.Text.Unicode

/-! ## Letters and digits -/

/-- A text of ASCII letters and digits. -/
def IsWord (cs : List Char) : Prop :=
  ∀ c ∈ cs, c.isAlphanum = true

instance (cs : List Char) : Decidable (IsWord cs) :=
  inferInstanceAs (Decidable (∀ c ∈ cs, c.isAlphanum = true))

/-- A name of ASCII letters, digits and underscores. -/
def IsAsciiName (name : String) : Prop :=
  ∀ c ∈ name.toList, c.isAlphanum = true ∨ c = '_'

instance (name : String) : Decidable (IsAsciiName name) :=
  inferInstanceAs (Decidable (∀ c ∈ name.toList, c.isAlphanum = true ∨ c = '_'))

theorem IsWord.append {u v : List Char} (hu : IsWord u) (hv : IsWord v) : IsWord (u ++ v) :=
  List.forall_mem_append.mpr ⟨hu, hv⟩

theorem IsWord.of_cons {c : Char} {cs : List Char} (h : IsWord (c :: cs)) : c.isAlphanum = true ∧ IsWord cs :=
  List.forall_mem_cons.mp h

theorem isWord_flatten {words : List (List Char)} (h : ∀ w ∈ words, IsWord w) : IsWord words.flatten := by
  intro c hc
  obtain ⟨w, hw, hmem⟩ := List.mem_flatten.mp hc
  exact h w hw c hmem

theorem isAlpha_eq (c : Char) : c.isAlpha = (c.isUpper || c.isLower) := rfl

theorem isUpper_iff {c : Char} : c.isUpper = true ↔ 'A'.val ≤ c.val ∧ c.val ≤ 'Z'.val :=
  decide_eq_true_iff

theorem isLower_iff {c : Char} : c.isLower = true ↔ 'a'.val ≤ c.val ∧ c.val ≤ 'z'.val := by
  have hdef : c.isLower = (decide (c.val ≥ 'a'.val) && decide (c.val ≤ 'z'.val)) := rfl
  rw [hdef, Bool.and_eq_true, decide_eq_true_iff, decide_eq_true_iff]

theorem toNat_of_isAlphanum {c : Char} (h : c.isAlphanum = true) : c.toNat < 128 := by
  simp only [Char.isAlphanum, isAlpha_eq, Bool.or_eq_true, isUpper_iff, isLower_iff, Char.isDigit_iff_toNat,
    UInt32.le_iff_toNat_le] at h
  have hbounds : 'Z'.val.toNat = 90 ∧ 'z'.val.toNat = 122 ∧ '9'.toNat = 57 := ⟨rfl, rfl, rfl⟩
  unfold Char.toNat at *
  omega

/-- How a letter or digit changes case. -/
@[mk_iff]
structure CaseForms (c : Char) : Prop where
  isAlphanum_toUpper : c.toUpper.isAlphanum = true
  isAlphanum_toLower : c.toLower.isAlphanum = true
  /-- The capital form of a letter is a capital; a digit is its own. -/
  isUpper_toUpper : c.toUpper.isUpper = !c.isDigit
  isUpper_toLower : c.toLower.isUpper = false
  isLower_toUpper : c.toUpper.isLower = false
  isDigit_toUpper : c.toUpper.isDigit = c.isDigit
  toUpper_toLower : c.toLower.toUpper = c.toUpper
  toUpper_toUpper : c.toUpper.toUpper = c.toUpper
  toUpper_of_isDigit : c.isDigit = true → c.toUpper = c
  toLower_of_small : (c.isLower || c.isDigit) = true → c.toLower = c

instance (c : Char) : Decidable (CaseForms c) :=
  decidable_of_iff' _ (caseForms_iff c)

section Letter

variable {c : Char} (h : c.isAlphanum = true)
include h

-- one look at the first 128 code points for all of the facts
theorem caseForms : CaseForms c :=
  forall_ascii (P := fun c => c.isAlphanum = true → CaseForms c) (by decide +kernel) c (toNat_of_isAlphanum h) h

theorem isUpper_eq : Unicode.isUpper c = c.isUpper :=
  if_pos (toNat_of_isAlphanum h)

end Letter

/-! ## Case forms of ASCII texts -/

/-- A text of ASCII characters. -/
def IsAscii (cs : List Char) : Prop :=
  ∀ c ∈ cs, c.toNat < 128

instance (cs : List Char) : Decidable (IsAscii cs) :=
  inferInstanceAs (Decidable (∀ c ∈ cs, c.toNat < 128))

theorem IsWord.isAscii {cs : List Char} (h : IsWord cs) : IsAscii cs :=
  fun c hc => toNat_of_isAlphanum (h c hc)

theorem toNat_toUpper_lt : ∀ c : Char, c.toNat < 128 → c.toUpper.toNat < 128 :=
  forall_ascii (by decide +kernel)

theorem toNat_toLower_lt : ∀ c : Char, c.toNat < 128 → c.toLower.toNat < 128 :=
  forall_ascii (by decide +kernel)

theorem toLower_toUpper_of_ascii : ∀ c : Char, c.toNat < 128 → c.toUpper.toLower = c.toLower :=
  forall_ascii (by decide +kernel)

namespace IsAscii

variable {cs : List Char} (h : IsAscii cs)
include h

theorem upperText_eq_map : upperText cs = cs.map Char.toUpper := by
  rw [upperText, List.map_eq_flatMap]
  exact List.flatMap_congr fun c hc => if_pos (h c hc)

theorem flatMap_lower : cs.flatMap lower = cs.map Char.toLower := by
  rw [List.map_eq_flatMap]
  exact List.flatMap_congr fun c hc => if_pos (h c hc)

omit h in
theorem lowerAfter_eq_map (h : IsAscii cs) (before : List Char) : lowerAfter before cs = cs.map Char.toLower := by
  induction cs generalizing before with
  | nil => rfl
  | cons c cs ih =>
    obtain ⟨hc, hcs⟩ := List.forall_mem_cons.mp h
    have hsigma : c ≠ 'Σ' := by
      rintro rfl
      exact absurd hc (by decide)
    rw [lowerAfter, ih hcs, lowerBetween, if_neg hsigma, lower, if_pos hc]
    rfl

theorem lowerText_eq_map : lowerText cs = cs.map Char.toLower :=
  lowerAfter_eq_map h []

omit h in
theorem titleChars_cons {c : Char} (h : IsAscii (c :: cs)) :
    titleChars (c :: cs) = c.toUpper :: cs.map Char.toLower := by
  obtain ⟨hc, hcs⟩ := List.forall_mem_cons.mp h
  rw [titleChars, upper, if_pos hc, flatMap_lower hcs]
  rfl

theorem map_toUpper : IsAscii (cs.map Char.toUpper) :=
  List.forall_mem_map.mpr fun c hc => toNat_toUpper_lt c (h c hc)

theorem map_toLower : IsAscii (cs.map Char.toLower) :=
  List.forall_mem_map.mpr fun c hc => toNat_toLower_lt c (h c hc)

theorem map_toLower_map_toUpper : (cs.map Char.toUpper).map Char.toLower = cs.map Char.toLower := by
  rw [List.map_map]
  exact List.map_congr_left fun c hc => toLower_toUpper_of_ascii c (h c hc)

theorem map_toLower_titleChars : (titleChars cs).map Char.toLower = cs.map Char.toLower := by
  cases cs with
  | nil => rfl
  | cons c cs =>
    have hc : c.toNat < 128 := h c List.mem_cons_self
    rw [titleChars_cons h, List.map_cons, List.map_cons, toLower_toUpper_of_ascii c hc, List.map_map]
    exact congrArg _ (List.map_congr_left fun c _ => toLower_toLower c)

/-- But for case, an exported segment is the segment. -/
theorem map_toLower_exportedSegment (enableInitialism : Bool) :
    (exportedSegment enableInitialism cs).map Char.toLower = cs.map Char.toLower := by
  unfold exportedSegment
  split
  · rw [upperText_eq_map h, map_toLower_map_toUpper h]
  · exact map_toLower_titleChars h

end IsAscii

theorem isAscii_exportedSegment {cs : List Char} (h : IsAscii cs) (enableInitialism : Bool) :
    IsAscii (exportedSegment enableInitialism cs) := by
  unfold exportedSegment
  split
  · rw [h.upperText_eq_map]
    exact h.map_toUpper
  · cases cs with
    | nil => exact h
    | cons c cs =>
      obtain ⟨hc, hcs⟩ := List.forall_mem_cons.mp h
      rw [h.titleChars_cons]
      exact List.forall_mem_cons.mpr ⟨toNat_toUpper_lt c hc, IsAscii.map_toLower hcs⟩

/-! ## Case forms of words -/

section Word

variable {cs : List Char} (h : IsWord cs)
include h

theorem upperText_eq_map : upperText cs = cs.map Char.toUpper :=
  h.isAscii.upperText_eq_map

theorem lowerText_eq_map : lowerText cs = cs.map Char.toLower :=
  h.isAscii.lowerText_eq_map

theorem isWord_map_toUpper : IsWord (cs.map Char.toUpper) := by
  intro c hc
  obtain ⟨d, hd, rfl⟩ := List.mem_map.mp hc
  exact (caseForms (h d hd)).isAlphanum_toUpper

theorem isWord_map_toLower : IsWord (cs.map Char.toLower) := by
  intro c hc
  obtain ⟨d, hd, rfl⟩ := List.mem_map.mp hc
  exact (caseForms (h d hd)).isAlphanum_toLower

theorem map_toUpper_map_toLower : (cs.map Char.toLower).map Char.toUpper = cs.map Char.toUpper := by
  rw [List.map_map]
  exact List.map_congr_left fun c hc => (caseForms (h c hc)).toUpper_toLower

theorem map_toUpper_map_toUpper : (cs.map Char.toUpper).map Char.toUpper = cs.map Char.toUpper := by
  rw [List.map_map]
  exact List.map_congr_left fun c hc => (caseForms (h c hc)).toUpper_toUpper

theorem map_toLower_map_toUpper : (cs.map Char.toUpper).map Char.toLower = cs.map Char.toLower :=
  h.isAscii.map_toLower_map_toUpper

end Word

theorem titleChars_cons {c : Char} {cs : List Char} (h : IsWord (c :: cs)) :
    titleChars (c :: cs) = c.toUpper :: cs.map Char.toLower :=
  h.isAscii.titleChars_cons

section Title

variable {cs : List Char} (h : IsWord cs)
include h

theorem isWord_titleChars : IsWord (titleChars cs) := by
  cases cs with
  | nil => exact h
  | cons c cs =>
    obtain ⟨hc, hcs⟩ := h.of_cons
    rw [titleChars_cons h]
    exact List.forall_mem_cons.mpr ⟨(caseForms hc).isAlphanum_toUpper, isWord_map_toLower hcs⟩

theorem map_toUpper_titleChars : (titleChars cs).map Char.toUpper = cs.map Char.toUpper := by
  cases cs with
  | nil => rfl
  | cons c cs =>
    obtain ⟨hc, hcs⟩ := h.of_cons
    rw [titleChars_cons h, List.map_cons, List.map_cons, (caseForms hc).toUpper_toUpper, map_toUpper_map_toLower hcs]

theorem map_toLower_titleChars : (titleChars cs).map Char.toLower = cs.map Char.toLower :=
  h.isAscii.map_toLower_titleChars

/-- Title case does not look at the case of a word. -/
theorem titleChars_map_toUpper : titleChars (cs.map Char.toUpper) = titleChars cs := by
  cases cs with
  | nil => rfl
  | cons c cs =>
    obtain ⟨hc, hcs⟩ := h.of_cons
    have hword : IsWord (c.toUpper :: cs.map Char.toUpper) := isWord_map_toUpper h
    rw [List.map_cons, titleChars_cons hword, titleChars_cons h, (caseForms hc).toUpper_toUpper,
      map_toLower_map_toUpper hcs]

theorem isInitialismChars_eq : isInitialismChars cs = initialisms.any fun word => word.toList == cs.map Char.toUpper := by
  rw [isInitialismChars, upperText_eq_map h]

theorem isWord_exportedSegment (enableInitialism : Bool) : IsWord (exportedSegment enableInitialism cs) := by
  unfold exportedSegment
  split
  · rw [upperText_eq_map h]
    exact isWord_map_toUpper h
  · exact isWord_titleChars h

theorem map_toLower_exportedSegment (enableInitialism : Bool) :
    (exportedSegment enableInitialism cs).map Char.toLower = cs.map Char.toLower :=
  h.isAscii.map_toLower_exportedSegment enableInitialism

theorem length_exportedSegment (enableInitialism : Bool) :
    (exportedSegment enableInitialism cs).length = cs.length := by
  have hlower := congrArg List.length (map_toLower_exportedSegment h enableInitialism)
  rwa [List.length_map, List.length_map] at hlower

end Title

/-! ## Segments -/

/-- The segments of a name make up all but its underscores. -/
theorem flatten_segments (cs : List Char) : (segments cs).flatten = cs.filter fun c => !(c == '_') :=
  flatten_runsFrom _ [] cs

theorem ne_nil_of_mem_segments {cs segment : List Char} (h : segment ∈ segments cs) : segment ≠ [] := by
  have hruns : MaximalRuns (fun c => !(c == '_')) cs (segments cs) :=
    maximalRuns_iff.mpr (by simp [segments])
  exact (hruns.of_mem segment h).1

/-- The segments of an ASCII name are words. -/
theorem isWord_of_mem_segments {name : String} (hname : IsAsciiName name) {segment : List Char}
    (h : segment ∈ segments name.toList) : IsWord segment := by
  intro c hc
  obtain ⟨hmem, hne⟩ := mem_of_mem_runs h hc
  refine (hname c hmem).resolve_right ?_
  rintro rfl
  cases hne

theorem isWord_exportedChars {name : String} (hname : IsAsciiName name) (enableInitialism : Bool) :
    IsWord (exportedChars enableInitialism name.toList) := by
  intro c hc
  obtain ⟨segment, hsegment, hmem⟩ := List.mem_flatMap.mp hc
  exact isWord_exportedSegment (isWord_of_mem_segments hname hsegment) enableInitialism c hmem

theorem IsAsciiName.isAscii {name : String} (hname : IsAsciiName name) : IsAscii name.toList := by
  intro c hc
  obtain hword | rfl := hname c hc
  · exact toNat_of_isAlphanum hword
  · decide

section Ascii

variable {cs : List Char} (h : IsAscii cs)
include h

theorem isAscii_of_mem_segments {segment : List Char} (hsegment : segment ∈ segments cs) : IsAscii segment :=
  fun c hc => h c (mem_of_mem_runs hsegment hc).1

theorem isAscii_exportedChars (enableInitialism : Bool) : IsAscii (exportedChars enableInitialism cs) := by
  intro c hc
  obtain ⟨segment, hsegment, hmem⟩ := List.mem_flatMap.mp hc
  exact isAscii_exportedSegment (isAscii_of_mem_segments h hsegment) enableInitialism c hmem

/-- But for case, an exported name is the name without its underscores. -/
theorem IsAscii.map_toLower_exportedChars (enableInitialism : Bool) :
    (exportedChars enableInitialism cs).map Char.toLower = (segments cs).flatten.map Char.toLower := by
  rw [exportedChars, List.map_flatMap, List.map_flatten, List.flatMap_def]
  refine congrArg _ (List.map_congr_left fun segment hsegment => ?_)
  exact (isAscii_of_mem_segments h hsegment).map_toLower_exportedSegment enableInitialism

end Ascii

theorem map_toLower_exportedChars {name : String} (hname : IsAsciiName name) (enableInitialism : Bool) :
    (exportedChars enableInitialism name.toList).map Char.toLower =
      (segments name.toList).flatten.map Char.toLower :=
  hname.isAscii.map_toLower_exportedChars enableInitialism

end TableCodegen.Naming
