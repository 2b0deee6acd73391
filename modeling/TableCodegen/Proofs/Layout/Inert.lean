import TableCodegen.Layout.Delimiter
import TableCodegen.Proofs.Layout.CodePart
import TableCodegen.Proofs.Text.Capital

/-!
# Inert characters

Brackets, quotation marks, slashes and backslashes have a meaning where they stand. All other characters
can come, go and change without an effect on what is read around them.

Results:

* `inert_of_isBlank`, `allInert_upper`: blanks are inert, and letters that have a capital, and capitals.
* `allInert_keyword`: the keyword is inert.
* `codeFrom_allInert_append`: an inert text is code, and the rest of the line is read as without it.
-/

namespace TableCodegen

open TableCodegen.Text

/-- A character that changes nothing where it stands, but for the backslash before it. -/
structure Inert (c : Char) : Prop where
  bracket : bracketOf? c = none
  tag : c ≠ tagMark
  quote : c ≠ '"'
  backslash : c ≠ '\\'
  slash : c ≠ '/'

/-- What holds of all characters of a text is decided along the text, and not along all characters there are. -/
instance (priority := 2000) decidableForallMem {P : Char → Prop} [DecidablePred P] (cs : List Char) :
    Decidable (∀ c ∈ cs, P c) :=
  List.decidableBAll P cs

/-- The characters that are not inert. -/
def layoutMarks : List Char := ['(', ')', '\x7b', '\x7d', '\x60', '"', '\\', '/']

theorem inert_of_not_mem {c : Char} (h : c ∉ layoutMarks) : Inert c := by
  simp only [layoutMarks, List.mem_cons, List.not_mem_nil, or_false, not_or] at h
  obtain ⟨hopen, hclose, hcurly, hcurlyClose, htag, hquote, hbackslash, hslash⟩ := h
  refine ⟨?_, htag, hquote, hbackslash, hslash⟩
  rw [bracketOf?, if_neg hopen, if_neg hclose, if_neg hcurly, if_neg hcurlyClose]

/-- The brackets, by the side that they stand on. -/
theorem bracket_cases {c : Char} {b : Bracket} {opens : Bool} (h : bracketOf? c = some (b, opens)) :
    (opens = true ∧ (c = '\x7b' ∨ c = '(')) ∨ (opens = false ∧ (c = '\x7d' ∨ c = ')')) := by
  have hmem : c ∈ ['(', ')', '\x7b', '\x7d'] := by
    by_contra hmem
    simp only [List.mem_cons, List.not_mem_nil, or_false, not_or] at hmem
    rw [bracketOf?, if_neg hmem.1, if_neg hmem.2.1, if_neg hmem.2.2.1, if_neg hmem.2.2.2] at h
    cases h
  have hsides : ∀ d ∈ ['(', ')', '\x7b', '\x7d'], ∀ side ∈ bracketOf? d,
      (side.2 = true ∧ (d = '\x7b' ∨ d = '(')) ∨ (side.2 = false ∧ (d = '\x7d' ∨ d = ')')) := by decide
  exact hsides c hmem (b, opens) h

theorem inert_of_isBlank {c : Char} (h : isBlank c = true) : Inert c := by
  apply inert_of_not_mem
  intro hmem
  have hmarks : layoutMarks.filter isBlank = [] := by decide
  exact List.filter_eq_nil_iff.mp hmarks c hmem h

/-- Characters of a text that are inert. -/
def AllInert (cs : List Char) : Prop :=
  ∀ c ∈ cs, Inert c

theorem allInert_of_not_mem {cs : List Char} (h : ∀ c ∈ cs, c ∉ layoutMarks) : AllInert cs :=
  fun c hc => inert_of_not_mem (h c hc)

theorem Text.AllBlank.allInert {cs : List Char} (h : AllBlank cs) : AllInert cs :=
  fun c hc => inert_of_isBlank (h c hc)

theorem allInert_keyword : AllInert (spacedKeyword ++ [' ']) := by
  intro c hc
  apply inert_of_not_mem
  intro hmem
  have hmarks : (spacedKeyword ++ [' ']).filter (· ∈ layoutMarks) = [] := by decide
  exact List.filter_eq_nil_iff.mp hmarks c hc (decide_eq_true hmem)

theorem allInert_spacedKeyword : AllInert spacedKeyword :=
  fun c hc => allInert_keyword c (List.mem_append_left _ hc)

theorem allInert_space : AllInert [' '] :=
  fun c hc => allInert_keyword c (List.mem_append_right _ hc)

theorem allInert_keyword_append {space : List Char} (h : space = [' '] ∨ space = []) :
    AllInert (spacedKeyword ++ space) := by
  rcases h with rfl | rfl
  · exact allInert_keyword
  · rw [List.append_nil]
    exact allInert_spacedKeyword

theorem AllInert.not_mem_brace {cs : List Char} (h : AllInert cs) : '\x7b' ∉ cs := by
  intro hmem
  have hbracket : bracketOf? '\x7b' = none := (h _ hmem).bracket
  cases hbracket

/-- A character that a capital takes the place of is inert, and so is the capital. -/
theorem allInert_upper {c : Char} (h : Unicode.upper c ≠ [c]) : AllInert [c] ∧ AllInert (Unicode.upper c) := by
  have hupper : layoutMarks.map Unicode.upper = layoutMarks.map fun d => [d] := by decide
  have hascii : layoutMarks.filter (fun d => 128 ≤ d.toNat ∨ 65 ≤ d.toNat ∧ d.toNat ≤ 90) = [] := by decide
  have hsame : ∀ d ∈ layoutMarks, Unicode.upper d = [d] := List.map_inj_left.mp hupper
  constructor
  · intro d hd
    rw [List.mem_singleton.mp hd]
    exact inert_of_not_mem fun hmem => h (hsame c hmem)
  · intro d hd
    refine inert_of_not_mem fun hmem => h ?_
    have hrange := List.filter_eq_nil_iff.mp hascii d hmem
    rw [decide_eq_true_eq, not_or] at hrange
    exact Unicode.upper_of_mem_ascii hd (Nat.lt_of_not_le hrange.1) hrange.2

theorem codeFrom_allInert_append {w : List Char} (h : AllInert w) (line : List Char) :
    codeFrom none (w ++ line) = w ++ codeFrom none line := by
  induction w with
  | nil => rfl
  | cons c w ih =>
    obtain ⟨hc, hw⟩ := List.forall_mem_cons.mp h
    have hquote : quoteAfter none [c] = none :=
      quoteAfter_of_not_mem (by simpa using Ne.symm hc.quote) (by simpa [tagMark] using Ne.symm hc.tag)
        isQuote_none
    rw [List.cons_append, codeFrom_cons fun _ hslash => absurd hslash hc.slash, hquote, ih hw,
      List.cons_append]

end TableCodegen
