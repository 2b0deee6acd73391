import TableCodegen.Proofs.Text.Capital

/-!
# Marks and letter case

A mark is an ASCII character that is no letter and no digit. Letter case makes no marks: what a case map
gives for a character is the character itself, or no mark.

Results:

* `eq_of_mem_upper`, `eq_of_mem_lower`: a mark that comes up in a case form is the character itself.
* `mem_of_mem_upperText`, `mem_of_mem_lowerText`: the case forms of a text hold no other marks than the text.
-/

namespace TableCodegen.Text.Unicode

/-- An ASCII character that is no letter and no digit. -/
def isMark (c : Char) : Bool :=
  Nat.blt c.toNat 128 && !c.isAlphanum

theorem isMark_iff {c : Char} : isMark c = true ↔ c.toNat < 128 ∧ c.isAlphanum = false := by
  simp [isMark]

/-- What holds of the first 128 code points holds of every ASCII character. -/
theorem forall_ascii {P : Char → Prop} (h : ∀ n : Fin 128, P (Char.ofNat n)) :
    ∀ c : Char, c.toNat < 128 → P c := by
  intro c hc
  have := h ⟨c.toNat, hc⟩
  rwa [Char.ofNat_toNat] at this

/-- A mark is no ASCII letter. -/
theorem not_letter_of_isMark {c : Char} (h : isMark c = true) :
    ¬ (65 ≤ c.toNat ∧ c.toNat ≤ 90) ∧ ¬ (97 ≤ c.toNat ∧ c.toNat ≤ 122) := by
  have hall : ∀ c : Char, c.toNat < 128 → isMark c = true →
      ¬ (65 ≤ c.toNat ∧ c.toNat ≤ 90) ∧ ¬ (97 ≤ c.toNat ∧ c.toNat ≤ 122) :=
    forall_ascii (by decide +kernel)
  exact hall c (isMark_iff.mp h).1 h

/-! ## Capital forms -/

theorem eq_of_mem_upper {c d : Char} (hd : isMark d = true) (h : d ∈ upper c) : d = c := by
  have hsame : upper c = [c] :=
    upper_of_mem_ascii h (isMark_iff.mp hd).1 (not_letter_of_isMark hd).1
  rw [hsame] at h
  exact List.mem_singleton.mp h

/-! ## Small forms -/

/-- The images of a shift are characters beyond ASCII, or one small ASCII letter. -/
def Shift.makesLetters (s : Shift) : Bool :=
  (Nat.blt s.high 0xd800 || Nat.blt 0xdfff s.low && Nat.blt s.high 0x110000) &&
    (Nat.ble 128 s.low || Nat.ble 97 s.low && Nat.ble s.high 122)

theorem makesLetters_of_mem_lowerShifts : ∀ s ∈ lowerShifts, s.makesLetters = true := by
  rw [← List.all_eq_true]
  decide +kernel

/-- A code point of a small form: beyond ASCII, or a small ASCII letter. -/
def IsSmallPart (n : Nat) : Prop :=
  128 ≤ n ∨ 97 ≤ n ∧ n ≤ 122

theorem isSmallPart_of_shift {s : Shift} (hs : s ∈ lowerShifts) {n : Nat} (hn : s.span.contains n = true) :
    IsSmallPart (Char.ofNat ((n : Int) + s.delta).toNat).toNat := by
  have hletters := makesLetters_of_mem_lowerShifts s hs
  have hbounds : s.low ≤ ((n : Int) + s.delta).toNat ∧ ((n : Int) + s.delta).toNat ≤ s.high := by
    simp only [Span.contains, Bool.and_eq_true, decide_eq_true_eq] at hn
    unfold Shift.low Shift.high
    omega
  simp only [Shift.makesLetters, Bool.and_eq_true, Bool.or_eq_true, Nat.blt_eq, Nat.ble_eq] at hletters
  rw [toNat_ofNat (by omega)]
  unfold IsSmallPart
  omega

theorem isSmallPart_of_expansion : ∀ e ∈ lowerExpansions, ∀ n ∈ e.2, IsSmallPart (Char.ofNat n).toNat := by
  unfold IsSmallPart
  decide

/-- A character is its own small form, or its small form is made of small letters. -/
theorem isSmallPart_of_mem_lower {c d : Char} (h : d ∈ lower c) : d = c ∨ IsSmallPart d.toNat := by
  unfold lower at h
  split at h
  · rename_i hascii
    have hall : ∀ c : Char, c.toNat < 128 →
        c.toLower = c ∨ 97 ≤ c.toLower.toNat ∧ c.toLower.toNat ≤ 122 := forall_ascii (by decide +kernel)
    rw [List.mem_singleton.mp h]
    exact (hall c hascii).imp_right Or.inr
  · unfold mapCase at h
    cases hlookup : lowerExpansions.lookup c.toNat with
    | some image =>
      rw [hlookup] at h
      obtain ⟨before, after, heq, -⟩ := List.lookup_eq_some_iff.mp hlookup
      obtain ⟨n, hn, rfl⟩ := List.mem_map.mp h
      exact Or.inr (isSmallPart_of_expansion (c.toNat, image) (by rw [heq]; simp) n hn)
    | none =>
      rw [hlookup] at h
      have hd := List.mem_singleton.mp h
      unfold shifted? at hd
      cases hfind : lowerShifts.find? (·.span.contains c.toNat) with
      | none =>
        rw [hfind] at hd
        exact Or.inl hd
      | some s =>
        rw [hfind] at hd
        rw [hd]
        exact Or.inr (isSmallPart_of_shift (List.mem_of_find?_eq_some hfind)
          (by simpa using List.find?_some hfind))

theorem eq_of_mem_lower {c d : Char} (hd : isMark d = true) (h : d ∈ lower c) : d = c := by
  refine (isSmallPart_of_mem_lower h).resolve_right fun hsmall => ?_
  have hletter := (not_letter_of_isMark hd).2
  have hascii := (isMark_iff.mp hd).1
  unfold IsSmallPart at hsmall
  omega

/-! ## Texts -/

theorem mem_of_mem_upperText {d : Char} (hd : isMark d = true) {cs : List Char} (h : d ∈ upperText cs) :
    d ∈ cs := by
  obtain ⟨c, hc, hmem⟩ := List.mem_flatMap.mp h
  rwa [eq_of_mem_upper hd hmem]

theorem eq_of_mem_lowerBetween {c d : Char} (hd : isMark d = true) {before after : List Char}
    (h : d ∈ lowerBetween before c after) : d = c := by
  unfold lowerBetween at h
  split at h
  · exfalso
    rw [List.mem_singleton.mp h] at hd
    split at hd <;> exact absurd hd (by decide)
  · exact eq_of_mem_lower hd h

theorem mem_of_mem_lowerAfter {d : Char} (hd : isMark d = true) {before cs : List Char}
    (h : d ∈ lowerAfter before cs) : d ∈ cs := by
  induction cs generalizing before with
  | nil => exact h
  | cons c cs ih =>
    rcases List.mem_append.mp h with h | h
    · exact eq_of_mem_lowerBetween hd h ▸ List.mem_cons_self
    · exact List.mem_cons_of_mem c (ih h)

theorem mem_of_mem_lowerText {d : Char} (hd : isMark d = true) {cs : List Char} (h : d ∈ lowerText cs) :
    d ∈ cs :=
  mem_of_mem_lowerAfter hd h

end TableCodegen.Text.Unicode
