import TableCodegen.Text.Blank
import TableCodegen.Text.Unicode.Case

/-!
# Capital forms

What `upper` makes of a character is either the character itself or a word of capitals: no mark of
punctuation, no small ASCII letter and no blank comes up in it, and the first capital is a capital form of
its own. The tables are checked span by span.

Results:

* `upper_eq_or`: a character is its own capital form, or its capital form is a word of capitals of which
  the first stays as it is.
* `isBlank_of_isCapitalPart`, `upper_of_mem_ascii`: what does not come up in the capital form of another
  character.
-/

namespace TableCodegen.Text.Unicode

/-! ## Spans without common code points -/

/-- No code point of the span is among those from `low` to `high`, of which only every other one counts
    if `sparse` is set. -/
def Span.avoids (low high : Nat) (sparse : Bool) (t : Span) : Bool :=
  Nat.blt high t.first || Nat.blt t.last low ||
    (sparse && Nat.beq t.step 2 && !Nat.beq (low % 2) (t.first % 2))

theorem Span.contains_eq_false_of_avoids {low high n : Nat} {sparse : Bool} {t : Span}
    (h : t.avoids low high sparse = true) (hlow : low ≤ n) (hhigh : n ≤ high)
    (hsparse : sparse = true → n % 2 = low % 2) : t.contains n = false := by
  unfold Span.avoids at h
  rw [Bool.or_eq_true, Bool.or_eq_true, Nat.blt_eq, Nat.blt_eq, Bool.and_eq_true, Bool.and_eq_true,
    Bool.not_eq_true', ← Bool.not_eq_true, Nat.beq_eq, Nat.beq_eq] at h
  rw [← Bool.not_eq_true, Span.contains]
  intro hn
  simp only [Bool.and_eq_true, decide_eq_true_eq, beq_iff_eq] at hn
  obtain ⟨⟨hfirst, hlast⟩, hstep⟩ := hn
  rcases h with (h | h) | ⟨⟨hs, htwo⟩, hparity⟩
  · omega
  · omega
  · have := hsparse hs
    rw [htwo] at hstep
    omega

namespace Shift

/-- The image of the first code point. -/
def low (s : Shift) : Nat := ((s.span.first : Int) + s.delta).toNat

/-- The image of the last code point. -/
def high (s : Shift) : Nat := ((s.span.last : Int) + s.delta).toNat

/-- Only every other code point between the first and the last image is an image. -/
def sparse (s : Shift) : Bool := Nat.beq s.span.step 2 || Nat.beq s.low s.high

/-- No image of the shift is in the span. -/
def avoids (s : Shift) (t : Span) : Bool := t.avoids s.low s.high s.sparse

theorem contains_image {s : Shift} {t : Span} {n : Nat} (hpos : 0 < s.low)
    (h : s.avoids t = true) (hn : s.span.contains n = true) :
    t.contains ((n : Int) + s.delta).toNat = false := by
  unfold Span.contains at hn
  simp only [Bool.and_eq_true, decide_eq_true_eq, beq_iff_eq] at hn
  obtain ⟨⟨hfirst, hlast⟩, hstep⟩ := hn
  unfold low at hpos
  refine Span.contains_eq_false_of_avoids h ?_ ?_ fun hsparse => ?_
  · unfold low
    omega
  · unfold high
    omega
  · unfold sparse at hsparse
    rw [Bool.or_eq_true, Nat.beq_eq, Nat.beq_eq] at hsparse
    unfold low high at *
    rcases hsparse with hs | hs
    · rw [hs] at hstep
      omega
    · have : (n : Int) + s.delta = s.span.first + s.delta := by omega
      rw [this]

end Shift

/-! ## The tables -/

/-- The blanks beyond ASCII. -/
def blankSpans : List Span :=
  [⟨133, 133, 1⟩, ⟨160, 160, 1⟩, ⟨5760, 5760, 1⟩, ⟨8192, 8202, 1⟩, ⟨8232, 8233, 1⟩, ⟨8239, 8239, 1⟩,
    ⟨8287, 8287, 1⟩, ⟨12288, 12288, 1⟩]

/-- A code point that is its own capital form and no blank: an ASCII capital, or a code point beyond ASCII
    that no table holds. -/
def isFixedCapital (n : Nat) : Bool :=
  if Nat.blt n 128 then Nat.ble 65 n && Nat.ble n 90
  else !inSpans blankSpans n && (shifted? upperShifts n).isNone && (upperExpansions.lookup n).isNone

/-- A code point of a capital form: an ASCII capital, or beyond ASCII and no blank. -/
def isCapitalPart (n : Nat) : Bool :=
  (Nat.ble 128 n && !inSpans blankSpans n || Nat.ble 65 n && Nat.ble n 90) &&
    (Nat.blt n 0xd800 || Nat.blt 0xdfff n && Nat.blt n 0x110000)

/-- The images of a shift are fixed capitals. -/
def Shift.isSettled (s : Shift) : Bool :=
  Nat.blt 0 s.low &&
    (Nat.blt s.high 0xd800 || Nat.blt 0xdfff s.low && Nat.blt s.high 0x110000) &&
    (if Nat.blt s.low 128 then Nat.beq s.low s.high && Nat.ble 65 s.low && Nat.ble s.low 90
    else blankSpans.all s.avoids && upperShifts.all (fun t => s.avoids t.span) &&
      upperExpansions.all fun e => s.avoids ⟨e.1, e.1, 1⟩)

theorem isSettled_of_mem_upperShifts : ∀ s ∈ upperShifts, s.isSettled = true := by
  rw [← List.all_eq_true]
  decide +kernel

theorem isCapitalPart_of_mem_upperExpansions :
    ∀ e ∈ upperExpansions, e.2.all isCapitalPart = true := by
  rw [← List.all_eq_true]
  decide +kernel

theorem isFixedCapital_of_mem_upperExpansions :
    ∀ e ∈ upperExpansions, e.2.head?.any isFixedCapital = true := by
  rw [← List.all_eq_true]
  decide +kernel

/-! ## Capital forms -/

theorem toNat_ofNat {n : Nat} (h : n < 0xd800 ∨ 0xdfff < n ∧ n < 0x110000) : (Char.ofNat n).toNat = n := by
  have hvalid : n.isValidChar := h
  rw [Char.ofNat, dif_pos hvalid]
  rfl

theorem isBlank_of_not_inSpans {c : Char} (hc : 128 ≤ c.toNat) (h : inSpans blankSpans c.toNat = false) :
    isBlank c = false := by
  rw [← Bool.not_eq_true] at h ⊢
  intro hblank
  apply h
  simp only [isBlank, Bool.or_eq_true, Bool.and_eq_true, decide_eq_true_eq, beq_iff_eq] at hblank
  simp only [inSpans, blankSpans, Span.contains, List.any_cons, List.any_nil, Nat.mod_one, Bool.or_eq_true,
    Bool.and_eq_true, decide_eq_true_eq, beq_iff_eq]
  simp only [and_true, Bool.false_eq_true, or_false]
  omega

theorem upper_of_isFixedCapital {c : Char} (h : isFixedCapital c.toNat = true) : upper c = [c] := by
  unfold isFixedCapital at h
  unfold upper
  by_cases hc : c.toNat < 128
  · rw [if_pos (by rwa [Nat.blt_eq]), Bool.and_eq_true, Nat.ble_eq, Nat.ble_eq] at h
    have hlow : ¬ ('a'.val ≤ c.val ∧ c.val ≤ 'z'.val) := by
      intro hlow
      have : 'a'.val.toNat ≤ c.val.toNat := UInt32.le_iff_toNat_le.mp hlow.1
      have ha : 'a'.val.toNat = 97 := rfl
      unfold Char.toNat at h
      omega
    have hsame : c.toUpper = c := dif_neg hlow
    rw [if_pos hc, hsame]
  · rw [if_neg (by rwa [Nat.blt_eq])] at h
    simp only [Bool.and_eq_true, Option.isNone_iff_eq_none] at h
    rw [if_neg hc, mapCase, h.2, h.1.2]
    rfl

/-- The image of a shift is one fixed capital. -/
theorem Shift.image_of_mem {s : Shift} (hs : s ∈ upperShifts) {n : Nat} (hn : s.span.contains n = true) :
    isFixedCapital ((n : Int) + s.delta).toNat = true ∧
      isCapitalPart ((n : Int) + s.delta).toNat = true := by
  have hsettled := isSettled_of_mem_upperShifts s hs
  unfold isSettled at hsettled
  rw [Bool.and_eq_true, Bool.and_eq_true] at hsettled
  obtain ⟨⟨hpos, hvalid⟩, hsettled⟩ := hsettled
  simp only [Bool.and_eq_true, Bool.or_eq_true, Nat.blt_eq] at hpos hvalid
  have hbounds : s.low ≤ ((n : Int) + s.delta).toNat ∧ ((n : Int) + s.delta).toNat ≤ s.high := by
    simp only [Span.contains, Bool.and_eq_true, decide_eq_true_eq] at hn
    unfold low high
    omega
  unfold isFixedCapital isCapitalPart
  simp only [Bool.and_eq_true, Bool.or_eq_true, Nat.blt_eq, Nat.ble_eq]
  split at hsettled
  · simp only [Bool.and_eq_true, Nat.ble_eq, Nat.beq_eq] at hsettled
    rw [if_pos (by omega)]
    simp only [Bool.and_eq_true, Nat.ble_eq]
    omega
  · rename_i hlow
    rw [Nat.blt_eq] at hlow
    rw [Bool.and_eq_true, Bool.and_eq_true] at hsettled
    obtain ⟨⟨hblank, hshift⟩, hexpand⟩ := hsettled
    rw [List.all_eq_true] at hblank hshift hexpand
    have hnblank : inSpans blankSpans ((n : Int) + s.delta).toNat = false := by
      rw [inSpans, List.any_eq_false]
      intro t ht
      rw [contains_image hpos (hblank t ht) hn]
      exact Bool.false_ne_true
    rw [if_neg (by omega), hnblank]
    refine ⟨?_, Or.inl ⟨by omega, rfl⟩, by omega⟩
    simp only [Bool.not_false, Bool.true_and, Bool.and_eq_true, Option.isNone_iff_eq_none]
    constructor
    · rw [shifted?, Option.map_eq_none_iff, List.find?_eq_none]
      intro t ht
      rw [contains_image hpos (hshift t ht) hn]
      exact Bool.false_ne_true
    · rw [List.lookup_eq_none_iff]
      intro e he
      have := contains_image hpos (hexpand e he) hn
      simp only [Span.contains, Nat.mod_one, beq_self_eq_true, Bool.and_true, Bool.and_eq_false_iff,
        decide_eq_false_iff_not] at this
      rw [bne_iff_ne]
      omega

theorem toNat_ofNat_of_isCapitalPart {n : Nat} (h : isCapitalPart n = true) :
    (Char.ofNat n).toNat = n := by
  unfold isCapitalPart at h
  rw [Bool.and_eq_true, Bool.or_eq_true, Bool.and_eq_true] at h
  refine toNat_ofNat ?_
  simpa only [Bool.or_eq_true, Bool.and_eq_true, Nat.blt_eq] using h.2

/-- The capital form of a character beyond ASCII, by the table that holds it. -/
theorem upper_cases {c : Char} (hc : 128 ≤ c.toNat) :
    (∃ image, (c.toNat, image) ∈ upperExpansions ∧ upper c = image.map Char.ofNat) ∨
      (∃ s ∈ upperShifts, s.span.contains c.toNat = true ∧
        upper c = [Char.ofNat ((c.toNat : Int) + s.delta).toNat]) ∨ upper c = [c] := by
  unfold upper
  rw [if_neg (by omega), mapCase]
  cases hlookup : upperExpansions.lookup c.toNat with
  | some image =>
    obtain ⟨before, after, heq, -⟩ := List.lookup_eq_some_iff.mp hlookup
    exact Or.inl ⟨image, by rw [heq]; simp, rfl⟩
  | none =>
    unfold shifted?
    cases hfind : upperShifts.find? (·.span.contains c.toNat) with
    | some s =>
      exact Or.inr (Or.inl ⟨s, List.mem_of_find?_eq_some hfind,
        by simpa using List.find?_some hfind, rfl⟩)
    | none => exact Or.inr (Or.inr rfl)

theorem upper_ascii : ∀ n : Fin 128, upper (Char.ofNat n) = [Char.ofNat n] ∨
    ∃ d, upper (Char.ofNat n) = [d] ∧ isCapitalPart d.toNat = true ∧ isFixedCapital d.toNat = true := by
  intro n
  by_cases h : upper (Char.ofNat n) = [Char.ofNat n]
  · exact Or.inl h
  · refine Or.inr ⟨(Char.ofNat n).toUpper, ?_⟩
    revert n
    decide +kernel

/-- A character is its own capital form, or its capital form is a word of capitals of which the first
stays as it is. -/
theorem upper_eq_or (c : Char) :
    upper c = [c] ∨ (∀ d ∈ upper c, isCapitalPart d.toNat = true) ∧
      ∃ d rest, upper c = d :: rest ∧ upper d = [d] := by
  by_cases hc : c.toNat < 128
  · have hchar : Char.ofNat c.toNat = c := Char.ofNat_toNat c
    rcases upper_ascii ⟨c.toNat, hc⟩ with h | ⟨d, h, hpart, hfixed⟩
    · exact Or.inl (by simpa only [hchar] using h)
    · simp only [hchar] at h
      refine Or.inr ⟨?_, d, [], h, upper_of_isFixedCapital hfixed⟩
      rw [h]
      simpa using hpart
  · rcases upper_cases (Nat.le_of_not_lt hc) with ⟨image, hmem, h⟩ | ⟨s, hs, hn, h⟩ | h
    · have hparts := isCapitalPart_of_mem_upperExpansions _ hmem
      have hfixed := isFixedCapital_of_mem_upperExpansions _ hmem
      rw [List.all_eq_true] at hparts
      rw [Option.any_eq_true] at hfixed
      obtain ⟨first, hfirst, hfixed⟩ := hfixed
      obtain ⟨rest, rfl⟩ := List.head?_eq_some_iff.mp hfirst
      refine Or.inr ⟨fun d hd => ?_, Char.ofNat first, rest.map Char.ofNat, by simpa using h, ?_⟩
      · rw [h] at hd
        obtain ⟨n, hn, rfl⟩ := List.mem_map.mp hd
        rw [toNat_ofNat_of_isCapitalPart (hparts n hn)]
        exact hparts n hn
      · refine upper_of_isFixedCapital ?_
        rwa [toNat_ofNat_of_isCapitalPart (hparts first (by simp))]
    · obtain ⟨hfixed, hpart⟩ := Shift.image_of_mem hs hn
      have hchar := toNat_ofNat_of_isCapitalPart hpart
      refine Or.inr ⟨?_, _, [], h, upper_of_isFixedCapital (by rwa [hchar])⟩
      rw [h]
      simpa [hchar] using hpart
    · exact Or.inl h

theorem upper_ne_nil (c : Char) : upper c ≠ [] := by
  rcases upper_eq_or c with h | ⟨-, d, rest, h, -⟩ <;> simp [h]

theorem isBlank_of_isCapitalPart {c : Char} (h : isCapitalPart c.toNat = true) : isBlank c = false := by
  unfold isCapitalPart at h
  rw [Bool.and_eq_true, Bool.or_eq_true, Bool.and_eq_true, Bool.and_eq_true, Nat.ble_eq, Nat.ble_eq,
    Nat.ble_eq, Bool.not_eq_true'] at h
  rcases h.1 with h | h
  · exact isBlank_of_not_inSpans h.1 h.2
  · rw [← Bool.not_eq_true]
    intro hblank
    simp only [isBlank, Bool.or_eq_true, Bool.and_eq_true, decide_eq_true_eq, beq_iff_eq] at hblank
    omega

/-- Of ASCII, only capitals come up in the capital form of another character. -/
theorem upper_of_mem_ascii {c d : Char} (hd : d ∈ upper c) (hascii : d.toNat < 128)
    (hcapital : ¬ (65 ≤ d.toNat ∧ d.toNat ≤ 90)) : upper c = [c] := by
  rcases upper_eq_or c with h | ⟨hparts, -⟩
  · exact h
  · have := hparts d hd
    unfold isCapitalPart at this
    rw [Bool.and_eq_true, Bool.or_eq_true, Bool.and_eq_true, Bool.and_eq_true, Nat.ble_eq, Nat.ble_eq,
      Nat.ble_eq] at this
    omega

end TableCodegen.Text.Unicode
