import TableCodegen.Layout.Pass
import TableCodegen.Proofs.Layout.CodePart
import TableCodegen.Proofs.Text.Capital
import TableCodegen.Proofs.Text.Search

/-!
# Lines of type blocks

A line of a block goes to the formatter with the keyword in, and comes back with the keyword taken out of
the whole block. When the formatter changes nothing, every line goes this way on its own.

Results:

* `withoutKeyword_blockText`: the keyword is taken out line by line.
* `settledLine_body`, `settledLine_member`, `settledLine_other`: how a line comes back in which the keyword
  does not occur.
-/

namespace TableCodegen

open TableCodegen.Text

/-! ## Taking the keyword out -/

/-- The text of an empty group. -/
def emptyGroup : List Char := "type ()".toList

theorem withoutKeyword_eq (cs : List Char) :
    withoutKeyword cs = replace emptyGroup [] (replace (spacedKeyword ++ ['\x7b', '\x7d'])
      [' ', '\x7b', '\x7d'] (replace (spacedKeyword ++ [' ']) [' '] cs)) := rfl

/-- A character that is in none of the texts that are replaced. -/
def IsForeign (c : Char) : Prop :=
  c ∉ spacedKeyword ++ ['\x7b', '\x7d'] ∧ c ∉ emptyGroup

/-- The keyword is taken out on both sides of a foreign character apart. -/
theorem withoutKeyword_append_cons {c : Char} (hc : IsForeign c) (u v : List Char) :
    withoutKeyword (u ++ c :: v) = withoutKeyword u ++ c :: withoutKeyword v := by
  have hspace : c ∉ spacedKeyword ++ [' '] := by
    intro hmem
    apply hc.1
    rcases List.mem_append.mp hmem with h | h
    · exact List.mem_append_left _ h
    · rw [List.mem_singleton.mp h]
      decide
  rw [withoutKeyword_eq, withoutKeyword_eq, withoutKeyword_eq, replace_append_cons hspace,
    replace_append_cons hc.1, replace_append_cons hc.2]

theorem withoutKeyword_nil : withoutKeyword [] = [] := by
  rw [withoutKeyword_eq, replace_nil, replace_nil, replace_nil]

theorem blockText_cons (line : List Char) (ls : List (List Char)) :
    blockText (line :: ls) = line ++ '\n' :: blockText ls := by
  simp [blockText]

theorem withoutKeyword_blockText (ls : List (List Char)) :
    withoutKeyword (blockText ls) = blockText (ls.map withoutKeyword) := by
  have hfeed : IsForeign '\n' := by
    unfold IsForeign
    decide
  induction ls with
  | nil => exact withoutKeyword_nil
  | cons line ls ih =>
    rw [blockText_cons, withoutKeyword_append_cons hfeed, ih, List.map_cons, blockText_cons]

theorem mem_withoutKeyword {cs : List Char} {c : Char} (h : c ∈ withoutKeyword cs) :
    c ∈ cs ∨ c ∈ [' ', '\x7b', '\x7d'] := by
  rw [withoutKeyword_eq] at h
  rcases mem_replace h with h | h
  · rcases mem_replace h with h | h
    · rcases mem_replace h with h | h
      · exact Or.inl h
      · exact Or.inr (by rw [List.mem_singleton.mp h]; simp)
    · exact Or.inr h
  · cases h

/-- A text without the keyword and without empty groups stays as it is. -/
theorem withoutKeyword_of_not_infix {cs : List Char} (hkeyword : ¬ spacedKeyword <:+: cs)
    (hgroup : ¬ emptyGroup <:+: cs) : withoutKeyword cs = cs := by
  have hspace : ¬ spacedKeyword ++ [' '] <:+: cs :=
    fun h => hkeyword ((List.prefix_append _ _).isInfix.trans h)
  have hbrace : ¬ spacedKeyword ++ ['\x7b', '\x7d'] <:+: cs :=
    fun h => hkeyword ((List.prefix_append _ _).isInfix.trans h)
  rw [withoutKeyword_eq, replace_of_not_infix hspace, replace_of_not_infix hbrace,
    replace_of_not_infix hgroup]

/-! ## Putting the keyword in -/

/-- The letters of the keyword. -/
def keyword : List Char := "struct".toList

theorem spacedKeyword_eq : spacedKeyword = ' ' :: keyword := rfl

/-- The keyword behind a text that does not have it is the first that is replaced. -/
theorem replace_keyword_append {name : List Char} (h : ¬ spacedKeyword <:+: name) (more new rest : List Char) :
    replace (spacedKeyword ++ more) new (name ++ (spacedKeyword ++ more ++ rest)) =
      name ++ (new ++ replace (spacedKeyword ++ more) new rest) := by
  change replaceCons ' ' (keyword ++ more) new _ = name ++ (new ++ replaceCons ' ' (keyword ++ more) new rest)
  induction name with
  | nil => exact replaceCons_occurrence rest
  | cons c name ih =>
    rw [List.infix_cons_iff, not_or] at h
    have hhead : ¬ ' ' :: (keyword ++ more) <+: c :: (name ++ (spacedKeyword ++ more ++ rest)) := by
      -- an occurrence would have its letters before the blank of the keyword
      intro hocc
      obtain ⟨rfl, hrest⟩ := List.cons_prefix_cons.mp hocc
      have hblank : ' ' ∉ keyword := by decide
      have hletters : keyword <+: name :=
        (prefix_append_cons_iff hblank).mp ((List.prefix_append keyword more).trans hrest)
      exact h.1 (List.cons_prefix_cons.mpr ⟨rfl, hletters⟩)
    rw [List.cons_append, replaceCons_other hhead, ih h.2, List.cons_append]

/-- A blank before a brace makes no keyword and no empty group. -/
theorem not_infix_blank_brace {w name post : List Char} (hname : ¬ w <:+: name)
    (hpost : ¬ w <:+: '\x7b' :: post) (hlast : ¬ [' '] <:+ w) (hbrace : '\x7b' ∉ w) :
    ¬ w <:+: name ++ ' ' :: '\x7b' :: post := by
  intro h
  rcases infix_append_cons h with h | h | ⟨before, after, rfl, -, hafter⟩
  · exact hname h
  · exact hpost h
  · cases after with
    | nil => exact hlast (List.suffix_append _ _)
    | cons c after =>
      obtain ⟨rfl, -⟩ := List.cons_prefix_cons.mp hafter
      simp at hbrace

/-! ## How a line comes back -/

/-- A line of a block when the block comes back as it went. -/
def settledLine (line : List Char) : List Char :=
  withoutKeyword (blockLine line)

/-- The code opens a structure at its end, or is a structure without members. -/
def opensBody (code : List Char) : Bool :=
  endsWithChar '\x7b' code || isEmptyBody code

/-- A line without the keyword behind a blank, and without an empty group. -/
structure Plain (line : List Char) : Prop where
  keyword : ¬ spacedKeyword <:+: line
  group : ¬ emptyGroup <:+: line

theorem Plain.of_infix {u v : List Char} (h : Plain v) (huv : u <:+: v) : Plain u :=
  ⟨fun hu => h.keyword (hu.trans huv), fun hu => h.group (hu.trans huv)⟩

theorem mem_of_endsWithChar {c : Char} {cs : List Char} (h : endsWithChar c cs = true) : c ∈ cs := by
  unfold endsWithChar at h
  exact List.mem_of_getLast? (of_decide_eq_true h)

theorem brace_mem_of_opensBody {code : List Char} (h : opensBody code = true) : '\x7b' ∈ code := by
  unfold opensBody at h
  rw [Bool.or_eq_true] at h
  rcases h with h | h
  · exact mem_of_endsWithChar h
  · unfold isEmptyBody at h
    rw [Bool.and_eq_true] at h
    have := mem_of_endsWithChar h.2
    exact List.mem_of_mem_dropLast ((trimEnd_isPrefix _).subset this)

theorem mem_codeFrom_of_mem_codePart {c : Char} {line : List Char} (h : c ∈ codePart line) :
    c ∈ codeFrom none line := by
  obtain ⟨lead, tail, -, -, heq⟩ := exists_trim (codeFrom none line)
  rw [heq]
  exact List.mem_append_left _ (List.mem_append_right _ h)

/-- The first brace of a line that opens a structure is part of the code. -/
theorem prefix_code_of_opensBody {name post : List Char} (hname : '\x7b' ∉ name)
    (h : opensBody (codePart (name ++ '\x7b' :: post)) = true) :
    name ++ ['\x7b'] <+: codeFrom none (name ++ '\x7b' :: post) := by
  have hcode := mem_codeFrom_of_mem_codePart (brace_mem_of_opensBody h)
  have hline : name ++ ['\x7b'] <+: name ++ '\x7b' :: post := ⟨post, by simp⟩
  rcases List.prefix_or_prefix_of_prefix (codeFrom_isPrefix none (name ++ '\x7b' :: post)) hline with hp | hp
  · -- a part of this with a brace in it is all of it
    rcases List.prefix_concat_iff.mp hp with heq | hp
    · rw [heq]
    · exact absurd (hp.subset hcode) hname
  · exact hp

theorem blockLine_body {line : List Char} (h : opensBody (codePart line) = true) :
    blockLine line = withKeyword line := by
  unfold blockLine
  exact if_pos h

theorem blockLine_member {line : List Char} (h : opensBody (codePart line) = false)
    (htag : '\x60' ∈ codePart line) : blockLine line = capitalized (trim line) := by
  unfold blockLine
  change (if opensBody (codePart line) = true then _ else _) = _
  rw [if_neg (by rw [h]; exact Bool.false_ne_true), if_pos (by simpa using htag)]

theorem blockLine_other {line : List Char} (h : opensBody (codePart line) = false)
    (htag : '\x60' ∉ codePart line) : blockLine line = line := by
  unfold blockLine
  change (if opensBody (codePart line) = true then _ else _) = _
  rw [if_neg (by rw [h]; exact Bool.false_ne_true), if_neg (by simpa using htag)]

/-- Without the keyword on the line, the keyword comes before the first brace. -/
theorem withKeyword_append {name post : List Char} (hname : '\x7b' ∉ name)
    (h : ¬ spacedKeyword <:+: name ++ '\x7b' :: post) :
    withKeyword (name ++ '\x7b' :: post) = trimEnd name ++ (spacedKeyword ++ [' '] ++ '\x7b' :: post) := by
  have hpass : ∀ c ∈ name, (c != '\x7b') = true := by
    intro c hc
    rw [bne_iff_ne]
    rintro rfl
    exact hname hc
  have hdrop : ('\x7b' :: post).dropWhile (· != '\x7b') = '\x7b' :: post := by simp
  have htake : ('\x7b' :: post).takeWhile (· != '\x7b') = [] := by simp
  unfold withKeyword
  rw [contains_eq_false_iff.mpr h, if_neg Bool.false_ne_true, List.dropWhile_append_of_pos hpass,
    List.takeWhile_append_of_pos hpass, hdrop, htake, List.append_nil]
  simp [spacedKeyword_eq]

/-- A line stays as it is, or gets the keyword before its first brace. -/
theorem withKeyword_cases (line : List Char) :
    withKeyword line = line ∨ ∃ name post, '\x7b' ∉ name ∧ line = name ++ '\x7b' :: post ∧
      withKeyword line = trimEnd name ++ (spacedKeyword ++ [' '] ++ '\x7b' :: post) := by
  by_cases hkeyword : spacedKeyword <:+: line
  · left
    rw [withKeyword, if_pos (contains_iff.mpr hkeyword)]
  · by_cases hbrace : '\x7b' ∈ line
    · obtain ⟨name, post, rfl, hname⟩ := List.eq_append_cons_of_mem hbrace
      exact Or.inr ⟨name, post, hname, rfl, withKeyword_append hname hkeyword⟩
    · left
      have hdrop : line.dropWhile (· != '\x7b') = [] := by
        rw [List.dropWhile_eq_nil_iff]
        intro c hc
        rw [bne_iff_ne]
        rintro rfl
        exact hbrace hc
      rw [withKeyword, contains_eq_false_iff.mpr hkeyword, if_neg Bool.false_ne_true, hdrop]

/-- One blank in front of a brace makes neither the keyword nor an empty group. -/
theorem Plain.blank_brace {name post : List Char} (h : Plain (name ++ '\x7b' :: post)) :
    Plain (trimEnd name ++ ' ' :: '\x7b' :: post) := by
  have hfront : Plain (trimEnd name) :=
    h.of_infix ((trimEnd_isPrefix name).isInfix.trans (List.prefix_append _ _).isInfix)
  have hback : Plain ('\x7b' :: post) := h.of_infix (List.suffix_append _ _).isInfix
  exact ⟨not_infix_blank_brace hfront.keyword hback.keyword (by decide) (by decide),
    not_infix_blank_brace hfront.group hback.group (by decide) (by decide)⟩

/-- The keyword before the first brace is taken out, and leaves a blank. -/
theorem withoutKeyword_named {name post : List Char} (h : Plain (name ++ ' ' :: '\x7b' :: post)) :
    withoutKeyword (name ++ (spacedKeyword ++ [' '] ++ '\x7b' :: post)) = name ++ ' ' :: '\x7b' :: post := by
  have hfront : Plain name := h.of_infix (List.prefix_append _ _).isInfix
  have hback : Plain ('\x7b' :: post) :=
    h.of_infix ((List.suffix_cons ' ' _).trans (List.suffix_append _ _)).isInfix
  have hspace : ¬ spacedKeyword ++ [' '] <:+: '\x7b' :: post :=
    fun hw => hback.keyword ((List.prefix_append _ _).isInfix.trans hw)
  have hbrace : ¬ spacedKeyword ++ ['\x7b', '\x7d'] <:+: name ++ ' ' :: '\x7b' :: post :=
    fun hw => h.keyword ((List.prefix_append _ _).isInfix.trans hw)
  rw [withoutKeyword_eq, replace_keyword_append hfront.keyword, replace_of_not_infix hspace,
    List.singleton_append, replace_of_not_infix hbrace, replace_of_not_infix h.group]

/-- A line that opens a structure comes back with one blank before its first brace. -/
theorem settledLine_body {name post : List Char} (hname : '\x7b' ∉ name)
    (hplain : Plain (name ++ '\x7b' :: post))
    (hbody : opensBody (codePart (name ++ '\x7b' :: post)) = true) :
    settledLine (name ++ '\x7b' :: post) = trimEnd name ++ ' ' :: '\x7b' :: post := by
  rw [settledLine, blockLine_body hbody, withKeyword_append hname hplain.keyword]
  exact withoutKeyword_named hplain.blank_brace

theorem not_infix_capitalized {w : List Char} {z : Char} (hz : z.toNat < 128)
    (hcapital : ¬ (65 ≤ z.toNat ∧ z.toNat ≤ 90)) {line : List Char} (h : ¬ z :: w <:+: line) :
    ¬ z :: w <:+: capitalized line := by
  cases line with
  | nil => exact h
  | cons c rest =>
    intro hinfix
    change z :: w <:+: Unicode.upper c ++ rest at hinfix
    by_cases hmem : z ∈ Unicode.upper c
    · rw [Unicode.upper_of_mem_ascii hmem hz hcapital] at hinfix
      exact h hinfix
    · exact h ((infix_of_infix_append_right hinfix hmem).trans (List.suffix_cons c rest).isInfix)

theorem Plain.capitalized {line : List Char} (h : Plain line) : Plain (capitalized line) :=
  ⟨not_infix_capitalized (by decide) (by decide) h.keyword,
    not_infix_capitalized (by decide) (by decide) h.group⟩

theorem Plain.withoutKeyword_eq_self {cs : List Char} (h : Plain cs) : withoutKeyword cs = cs :=
  withoutKeyword_of_not_infix h.keyword h.group

/-- A member with a tag comes back without blanks at its ends and with a capital. -/
theorem settledLine_member {line : List Char} (hplain : Plain line)
    (h : opensBody (codePart line) = false) (htag : '\x60' ∈ codePart line) :
    settledLine line = capitalized (trim line) := by
  rw [settledLine, blockLine_member h htag]
  exact (hplain.of_infix (trim_isInfix line)).capitalized.withoutKeyword_eq_self

theorem settledLine_other {line : List Char} (hplain : Plain line)
    (h : opensBody (codePart line) = false) (htag : '\x60' ∉ codePart line) :
    settledLine line = line := by
  rw [settledLine, blockLine_other h htag]
  exact hplain.withoutKeyword_eq_self

/-! ## Line breaks -/

theorem mem_withKeyword {line : List Char} {c : Char} (h : c ∈ withKeyword line) :
    c ∈ line ∨ c ∈ spacedKeyword ++ [' '] := by
  unfold withKeyword at h
  split at h
  · exact Or.inl h
  · split at h
    · exact Or.inl h
    · rw [List.append_assoc (trimEnd _)] at h
      rcases List.mem_append.mp h with h | h
      · rcases List.mem_append.mp h with h | h
        · have hname := (trimEnd_isPrefix _).subset h
          exact Or.inl ((List.takeWhile_prefix _).subset hname)
        · exact Or.inr h
      · exact Or.inl ((List.dropWhile_suffix _).subset h)

theorem mem_capitalized {line : List Char} {c : Char} (h : c ∈ capitalized line) :
    c ∈ line ∨ ∃ d ∈ line, c ∈ Unicode.upper d := by
  cases line with
  | nil => exact Or.inl h
  | cons d rest =>
    rcases List.mem_append.mp h with h | h
    · exact Or.inr ⟨d, List.mem_cons_self, h⟩
    · exact Or.inl (List.mem_cons_of_mem d h)

/-- No line break comes up on the way of a line. -/
theorem not_mem_settledLine {c : Char} (hc : c = '\n' ∨ c = '\r') {line : List Char} (h : c ∉ line) :
    c ∉ settledLine line := by
  intro hmem
  have hletter : c ∉ spacedKeyword ++ [' '] ∧ c ∉ [' ', '\x7b', '\x7d'] := by
    rcases hc with rfl | rfl <;> decide
  have hcapital : ∀ d, c ∈ Unicode.upper d → c = d := by
    intro d hd
    have hself : Unicode.upper d = [d] :=
      Unicode.upper_of_mem_ascii hd (by rcases hc with rfl | rfl <;> decide)
        (by rcases hc with rfl | rfl <;> decide)
    rw [hself] at hd
    exact List.mem_singleton.mp hd
  have hblock : c ∈ blockLine line := (mem_withoutKeyword hmem).resolve_right hletter.2
  unfold blockLine at hblock
  dsimp only at hblock
  split at hblock
  · exact h ((mem_withKeyword hblock).resolve_right hletter.1)
  · split at hblock
    · rcases mem_capitalized hblock with hline | ⟨d, hd, hupper⟩
      · exact h ((trim_isInfix line).subset hline)
      · rw [hcapital d hupper] at h
        exact h ((trim_isInfix line).subset hd)
    · exact h hblock

end TableCodegen
