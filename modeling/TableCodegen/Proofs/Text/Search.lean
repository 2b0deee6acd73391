import Mathlib.Data.List.Infix
import TableCodegen.Text.Search

/-!
# Occurrences and their replacement

`contains` and `replace` look for a text from the left. Here they are compared with the relation that one
list stands inside another.

Results:

* `contains_iff`: `contains` says whether a text stands inside another.
* `replace_of_not_infix`: without an occurrence nothing is replaced.
* `replace_append_cons`: a character that the pattern does not have cuts the work in two.
* `not_infix_of_length_replaceCons`: when replacements shorten a text, only texts without an occurrence keep
  their length.
* `infix_append_cons`: an occurrence in a joined text stands on one side of the joint, or across it.
* `exists_of_prefix_replaceCons`, `exists_of_infix_replaceCons`: what stands in a text behind its
  replacements.
* `mem_replace_of_mem`, `mem_replace_append_cons`: characters that are kept.
-/

namespace TableCodegen.Text

theorem dropHead?_eq_some_iff {pattern cs rest : List Char} :
    dropHead? pattern cs = some rest ↔ cs = pattern ++ rest := by
  induction pattern generalizing cs with
  | nil => simp [dropHead?]
  | cons p q ih =>
    cases cs with
    | nil => simp [dropHead?]
    | cons c cs =>
      by_cases hpc : p = c
      · simp [dropHead?, hpc, ih]
      · simp [dropHead?, hpc, Ne.symm hpc]

theorem isSome_dropHead?_iff {pattern cs : List Char} :
    (dropHead? pattern cs).isSome = true ↔ pattern <+: cs := by
  rw [Option.isSome_iff_exists]
  simp only [dropHead?_eq_some_iff]
  exact ⟨fun ⟨rest, h⟩ => ⟨rest, h.symm⟩, fun ⟨rest, h⟩ => ⟨rest, h.symm⟩⟩

theorem contains_iff {pattern cs : List Char} : contains pattern cs = true ↔ pattern <:+: cs := by
  induction cs with
  | nil => simp [contains]
  | cons c cs ih =>
    rw [contains, Bool.or_eq_true, ih, isSome_dropHead?_iff, List.infix_cons_iff]

theorem contains_eq_false_iff {pattern cs : List Char} :
    contains pattern cs = false ↔ ¬ pattern <:+: cs := by
  rw [← contains_iff, Bool.not_eq_true]

/-! ## Replacement step by step -/

section

variable {p : Char} {q new : List Char}

theorem replaceCons_nil : replaceCons p q new [] = [] := by
  rw [replaceCons]

theorem replaceCons_occurrence (rest : List Char) :
    replaceCons p q new (p :: q ++ rest) = new ++ replaceCons p q new rest := by
  have h : dropHead? (p :: q) (p :: (q ++ rest)) = some rest := by
    rw [dropHead?_eq_some_iff, List.cons_append]
  rw [List.cons_append, replaceCons]
  split
  · rename_i after hafter
    rw [h, Option.some.injEq] at hafter
    rw [hafter]
  · rename_i hnone
    rw [h] at hnone
    cases hnone

theorem replaceCons_other {c : Char} {rest : List Char} (h : ¬ p :: q <+: c :: rest) :
    replaceCons p q new (c :: rest) = c :: replaceCons p q new rest := by
  rw [replaceCons]
  split
  · rename_i after hafter
    exact absurd (isSome_dropHead?_iff.mp (by rw [hafter]; rfl)) h
  · rfl

/-- A text is read from the left: nothing is left, or an occurrence comes first, or another character. -/
theorem replaceCons_induction {motive : List Char → Prop} (nil : motive [])
    (occurrence : ∀ rest, motive rest → motive (p :: q ++ rest))
    (other : ∀ c rest, ¬ p :: q <+: c :: rest → motive rest → motive (c :: rest))
    (cs : List Char) : motive cs := by
  induction hn : cs.length using Nat.strongRecOn generalizing cs with
  | _ n ih =>
    cases cs with
    | nil => exact nil
    | cons c rest =>
      rw [List.length_cons] at hn
      by_cases h : p :: q <+: c :: rest
      · obtain ⟨after, hafter⟩ := h
        rw [← hafter]
        have hlen : (p :: q ++ after).length = (c :: rest).length := by rw [hafter]
        rw [List.cons_append, List.length_cons, List.length_append, List.length_cons] at hlen
        exact occurrence after (ih after.length (by omega) after rfl)
      · exact other c rest h (ih rest.length (by omega) rest rfl)

end

/-! ## Where nothing occurs -/

theorem replace_nil (pattern new : List Char) : replace pattern new [] = [] := by
  cases pattern with
  | nil => rfl
  | cons p q => exact replaceCons_nil

theorem replace_of_not_infix {pattern cs : List Char} (h : ¬ pattern <:+: cs) (new : List Char) :
    replace pattern new cs = cs := by
  cases pattern with
  | nil => rfl
  | cons p q =>
    change replaceCons p q new cs = cs
    induction cs with
    | nil => exact replaceCons_nil
    | cons c cs ih =>
      rw [List.infix_cons_iff, not_or] at h
      rw [replaceCons_other h.1, ih h.2]

/-! ## Cuts -/

/-- An occurrence does not go over a character that the pattern does not have. -/
theorem prefix_append_cons_iff {pattern u v : List Char} {c : Char} (hc : c ∉ pattern) :
    pattern <+: u ++ c :: v ↔ pattern <+: u := by
  constructor
  · intro h
    obtain ⟨rest, h⟩ := h
    rcases List.append_eq_append_iff.mp h with ⟨t, rfl, -⟩ | ⟨t, rfl, ht⟩
    · exact List.prefix_append _ _
    · cases t with
      | nil => rw [List.append_nil]
      | cons d t =>
        obtain ⟨rfl, -⟩ := List.cons.inj ht
        simp at hc
  · exact fun h => h.trans (List.prefix_append _ _)

theorem replace_append_cons {pattern : List Char} {c : Char} (hc : c ∉ pattern)
    (new u v : List Char) :
    replace pattern new (u ++ c :: v) = replace pattern new u ++ c :: replace pattern new v := by
  cases pattern with
  | nil => rfl
  | cons p q =>
    change replaceCons p q new (u ++ c :: v) = replaceCons p q new u ++ c :: replaceCons p q new v
    induction u using replaceCons_induction (p := p) (q := q) with
    | nil =>
      have h : ¬ p :: q <+: c :: v := by
        intro h
        have := (prefix_append_cons_iff (u := []) hc).mp h
        simp at this
      rw [List.nil_append, replaceCons_other h, replaceCons_nil, List.nil_append]
    | occurrence rest ih =>
      rw [List.append_assoc, replaceCons_occurrence, ih, replaceCons_occurrence, List.append_assoc]
    | other d rest h ih =>
      have h' : ¬ p :: q <+: d :: (rest ++ c :: v) := by
        intro hd
        exact h ((prefix_append_cons_iff (u := d :: rest) hc).mp hd)
      rw [List.cons_append, replaceCons_other h', ih, replaceCons_other h, List.cons_append]

theorem mem_replace {pattern new cs : List Char} {c : Char} (h : c ∈ replace pattern new cs) :
    c ∈ cs ∨ c ∈ new := by
  cases pattern with
  | nil => exact Or.inl h
  | cons p q =>
    change c ∈ replaceCons p q new cs at h
    induction cs using replaceCons_induction (p := p) (q := q) with
    | nil =>
      rw [replaceCons_nil] at h
      cases h
    | occurrence rest ih =>
      rw [replaceCons_occurrence] at h
      rcases List.mem_append.mp h with h | h
      · exact Or.inr h
      · exact (ih h).imp_left (List.mem_append_right _)
    | other d rest hd ih =>
      rw [replaceCons_other hd] at h
      rcases List.mem_cons.mp h with rfl | h
      · exact Or.inl List.mem_cons_self
      · exact (ih h).imp_left (List.mem_cons_of_mem d)

/-! ## Replacements that shorten a text -/

section

variable {p : Char} {q new : List Char} (hshort : new.length < (p :: q).length)

include hshort

theorem length_replaceCons_le (cs : List Char) : (replaceCons p q new cs).length ≤ cs.length := by
  induction cs using replaceCons_induction (p := p) (q := q) with
  | nil =>
    rw [replaceCons_nil]
  | occurrence rest ih =>
    rw [replaceCons_occurrence, List.length_append, List.length_append]
    omega
  | other c rest hc ih =>
    rw [replaceCons_other hc, List.length_cons, List.length_cons]
    omega

/-- A text that keeps its length has no occurrence. -/
theorem not_infix_of_length_replaceCons {cs : List Char} (h : (replaceCons p q new cs).length = cs.length) :
    ¬ p :: q <:+: cs := by
  induction cs using replaceCons_induction (p := p) (q := q) with
  | nil => simp
  | occurrence rest ih =>
    have hrest := length_replaceCons_le hshort rest
    rw [replaceCons_occurrence, List.length_append, List.length_append] at h
    omega
  | other c rest hc ih =>
    rw [replaceCons_other hc, List.length_cons, List.length_cons, Nat.succ_inj] at h
    rw [List.infix_cons_iff, not_or]
    exact ⟨hc, ih h⟩

end

/-! ## Occurrences in a joined text -/

/-- An occurrence around a character stands before it, behind it, or across it. -/
theorem infix_append_cons {w u v : List Char} {c : Char} (h : w <:+: u ++ c :: v) :
    w <:+: u ∨ w <:+: v ∨ ∃ before after, w = before ++ c :: after ∧ before <:+ u ∧ after <+: v := by
  obtain ⟨front, back, h⟩ := h
  rcases List.append_eq_append_iff.mp h with ⟨t, hu, -⟩ | ⟨t, hfront, hv⟩
  · exact Or.inl ⟨front, t, hu.symm⟩
  · cases t with
    | nil =>
      rw [List.append_nil] at hfront
      exact Or.inl ⟨front, [], by rw [List.append_nil, hfront]⟩
    | cons d t =>
      obtain ⟨rfl, rfl⟩ := List.cons.inj hv
      rcases List.append_eq_append_iff.mp hfront with ⟨s, rfl, hw⟩ | ⟨s, rfl, hw⟩
      · exact Or.inr (Or.inr ⟨s, t, hw, List.suffix_append _ _, List.prefix_append _ _⟩)
      · cases s with
        | nil => exact Or.inr (Or.inr ⟨[], t, hw.symm, List.nil_suffix, List.prefix_append _ _⟩)
        | cons e s =>
          obtain ⟨rfl, rfl⟩ := List.cons.inj hw
          exact Or.inr (Or.inl ⟨s, back, rfl⟩)

/-- An occurrence cannot end in a text without its last character. -/
theorem infix_of_infix_append_left {w u v : List Char} {z : Char} (h : w ++ [z] <:+: u ++ v)
    (hv : z ∉ v) : w ++ [z] <:+: u := by
  induction v generalizing u with
  | nil => rwa [List.append_nil] at h
  | cons c v ih =>
    rw [List.mem_cons, not_or] at hv
    have hstep : w ++ [z] <:+: (u ++ [c]) ++ v := by simpa using h
    rcases infix_append_cons (ih hstep hv.2) with h | h | ⟨before, after, heq, -, hafter⟩
    · exact h
    · simp at h
    · rw [List.prefix_nil.mp hafter] at heq
      obtain ⟨-, hz⟩ := List.append_inj' heq rfl
      exact absurd (List.singleton_inj.mp hz) hv.1

/-- An occurrence cannot start in a text without its first character. -/
theorem infix_of_infix_append_right {w u v : List Char} {z : Char} (h : z :: w <:+: u ++ v)
    (hu : z ∉ u) : z :: w <:+: v := by
  induction u with
  | nil => exact h
  | cons c u ih =>
    rw [List.mem_cons, not_or] at hu
    rw [List.cons_append, List.infix_cons_iff] at h
    rcases h with h | h
    · exact absurd (List.cons_prefix_cons.mp h).1 hu.1
    · exact ih h hu.2

/-! ## Occurrences behind a replacement -/

section

variable {p : Char} {q new : List Char}

/-- What a text starts with behind its replacements, if it shares nothing with their first character, it
started with before. -/
theorem exists_of_prefix_replaceCons {n : Char} {w cs : List Char} (hw : n ∉ w)
    (h : w <+: replaceCons p q (n :: new) cs) :
    ∃ rest, cs = w ++ rest ∧ replaceCons p q (n :: new) cs = w ++ replaceCons p q (n :: new) rest := by
  induction w generalizing cs with
  | nil => exact ⟨cs, rfl, rfl⟩
  | cons c w ih =>
    rw [List.mem_cons, not_or] at hw
    cases cs with
    | nil =>
      rw [replaceCons_nil] at h
      simp at h
    | cons d rest =>
      by_cases hd : p :: q <+: d :: rest
      · obtain ⟨after, hafter⟩ := hd
        rw [← hafter, replaceCons_occurrence, List.cons_append, List.cons_prefix_cons] at h
        exact absurd h.1.symm hw.1
      · rw [replaceCons_other hd, List.cons_prefix_cons] at h
        obtain ⟨rfl, h⟩ := h
        obtain ⟨after, rfl, heq⟩ := ih hw.2 h
        exact ⟨after, rfl, by rw [replaceCons_other hd, heq, List.cons_append]⟩

/-- What stands in a text behind its replacements starts at a place that was not replaced. -/
theorem exists_of_infix_replaceCons {c : Char} {w cs : List Char} (hc : c ∉ new)
    (h : c :: w <:+: replaceCons p q new cs) :
    ∃ u v, cs = u ++ v ∧ c :: w <+: replaceCons p q new v := by
  induction cs using replaceCons_induction (p := p) (q := q) with
  | nil =>
    rw [replaceCons_nil] at h
    simp at h
  | occurrence rest ih =>
    rw [replaceCons_occurrence] at h
    obtain ⟨u, v, rfl, hv⟩ := ih (infix_of_infix_append_right h hc)
    exact ⟨p :: q ++ u, v, by simp, hv⟩
  | other d rest hd ih =>
    rw [replaceCons_other hd, List.infix_cons_iff, ← replaceCons_other hd] at h
    rcases h with h | h
    · exact ⟨[], d :: rest, rfl, h⟩
    · obtain ⟨u, v, rfl, hv⟩ := ih h
      exact ⟨d :: u, v, rfl, hv⟩

end

/-! ## What replacements keep -/

/-- A character is kept when the new text has it wherever the pattern has it. -/
theorem mem_replace_of_mem {pattern new cs : List Char} {c : Char} (hc : c ∈ pattern → c ∈ new)
    (h : c ∈ cs) : c ∈ replace pattern new cs := by
  cases pattern with
  | nil => exact h
  | cons p q =>
    change c ∈ replaceCons p q new cs
    induction cs using replaceCons_induction (p := p) (q := q) with
    | nil => cases h
    | occurrence rest ih =>
      rw [replaceCons_occurrence]
      rcases List.mem_append.mp h with h | h
      · exact List.mem_append_left _ (hc h)
      · exact List.mem_append_right _ (ih h)
    | other d rest hd ih =>
      rw [replaceCons_other hd]
      rcases List.mem_cons.mp h with rfl | h
      · exact List.mem_cons_self
      · exact List.mem_cons_of_mem d (ih h)

/-- A character is kept at a place that no occurrence goes over. -/
theorem mem_replace_append_cons {pattern new u v : List Char} {c : Char}
    (h : ∀ before after, pattern = before ++ c :: after → before <:+ u → ¬ after <+: v) :
    c ∈ replace pattern new (u ++ c :: v) := by
  cases pattern with
  | nil => exact List.mem_append_right _ List.mem_cons_self
  | cons p q =>
    change c ∈ replaceCons p q new (u ++ c :: v)
    generalize hcs : u ++ c :: v = cs
    induction cs using replaceCons_induction (p := p) (q := q) generalizing u with
    | nil => exact absurd hcs (by simp)
    | occurrence rest ih =>
      rw [replaceCons_occurrence]
      refine List.mem_append_right _ ?_
      rcases List.append_eq_append_iff.mp hcs with ⟨t, hu, hrest⟩ | ⟨t, rfl, hrest⟩
      · cases t with
        | nil => exact ih (u := []) (fun before after heq hbefore =>
            h before after heq (List.suffix_nil.mp hbefore ▸ List.nil_suffix)) hrest
        | cons d t =>
          -- the occurrence would go over the character
          obtain ⟨rfl, rfl⟩ := List.cons.inj hrest
          exact absurd (List.prefix_append _ _) (h u t hu List.suffix_rfl)
      · exact ih (fun before after heq hbefore => h before after heq (hbefore.trans (List.suffix_append _ _)))
          hrest.symm
    | other d rest hd ih =>
      rw [replaceCons_other hd]
      cases u with
      | nil =>
        obtain ⟨rfl, -⟩ := List.cons.inj hcs
        exact List.mem_cons_self
      | cons e u =>
        obtain ⟨rfl, hrest⟩ := List.cons.inj hcs
        exact List.mem_cons_of_mem _ (ih (fun before after heq hbefore =>
          h before after heq (hbefore.trans (List.suffix_cons e u))) hrest)

/-- A new text that starts like the pattern keeps the first character. -/
theorem head?_replace (p : Char) (q new cs : List Char) :
    (replace (p :: q) (p :: new) cs).head? = cs.head? := by
  change (replaceCons p q (p :: new) cs).head? = cs.head?
  induction cs using replaceCons_induction (p := p) (q := q) with
  | nil => rw [replaceCons_nil]
  | occurrence rest _ => rw [replaceCons_occurrence]; rfl
  | other c rest hc _ => rw [replaceCons_other hc]; rfl

end TableCodegen.Text
