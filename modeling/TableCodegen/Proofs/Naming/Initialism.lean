import TableCodegen.Document.Gist
import TableCodegen.Proofs.Naming.CapitalWords
import TableCodegen.Proofs.Naming.ExportedName

/-!
# Initialisms in exported names

A catalog name is exported with or without initialisms, and the storage view puts initialisms into a name that is
exported already. The two look for words in different places: the first between underscores, the second at capitals.
A digit is no capital, so that behind an underscore it goes on with the word before it: with initialisms `id_1` is
exported as `ID1`, but in its plain form `Id1` there is no word `Id`.

Results:

* `replaceInitialismsChars_append`, `replaceInitialismsChars_cons`: words at capitals are replaced one by one, and a
  character that starts none of them in title case stays.
* `replaceInitialismsChars_group_iff`: one segment with the numbers behind it.
* `storage_name_iff`: the names for which the two ways agree.
* `numbers_hide_initialisms`: names for which they do not.
-/

namespace TableCodegen.Naming

open TableCodegen.Text TableCodegen.Text.Unicode

/-! ## Specification -/

/-- The segment starts with a digit. -/
def startsWithDigit (segment : List Char) : Bool :=
  segment.head?.any Char.isDigit

/-- The segments in front that start with a digit. -/
def numbers (segments : List (List Char)) : List (List Char) :=
  segments.takeWhile startsWithDigit

/-- No segment with numbers behind it is an initialism together with them, and if the name is exported without
initialisms, none is one by itself. -/
def NumbersApart (enableInitialism : Bool) (segments : List (List Char)) : Prop :=
  ∀ segment after, segment :: after <:+ segments → numbers after ≠ [] →
    (enableInitialism = false → isInitialismChars segment = false) ∧
      isInitialismChars (segment ++ (numbers after).flatten) = false

/-! ## The list of initialisms -/

theorem second_of_mem_initialisms :
    ∀ word ∈ initialisms, word.toList.tail.head?.any Char.isUpper = true := by decide +kernel

theorem titleChars_ne_of_mem_initialisms :
    ∀ word ∈ initialisms, titleChars word.toList ≠ word.toList := by decide +kernel

/-- An initialism does not start with a digit, and what stands before a digit in it is none, and has small letters in
title case. -/
theorem cut_of_mem_initialisms : ∀ word ∈ initialisms, ∀ n ∈ List.range word.toList.length,
    startsWithDigit (word.toList.drop n) = true →
      isInitialismChars (word.toList.take n) = false ∧ titleChars (word.toList.take n) ≠ word.toList.take n := by
  decide +kernel

theorem exists_of_isInitialismChars {cs : List Char} (hcs : IsWord cs) (h : isInitialismChars cs = true) :
    ∃ word ∈ initialisms, word.toList = cs.map Char.toUpper := by
  rw [isInitialismChars_eq hcs] at h
  obtain ⟨word, hword, heq⟩ := List.any_eq_true.mp h
  exact ⟨word, hword, beq_iff_eq.mp heq⟩

theorem isInitialismChars_map_toUpper {cs : List Char} (hcs : IsWord cs) :
    isInitialismChars (cs.map Char.toUpper) = isInitialismChars cs := by
  rw [isInitialismChars_eq (isWord_map_toUpper hcs), isInitialismChars_eq hcs, map_toUpper_map_toUpper hcs]

/-- In title case an initialism has small letters. -/
theorem titleChars_ne_of_isInitialismChars {cs : List Char} (hcs : IsWord cs) (h : isInitialismChars cs = true) :
    titleChars cs ≠ upperText cs := by
  obtain ⟨word, hword, heq⟩ := exists_of_isInitialismChars hcs h
  rw [upperText_eq_map hcs, ← titleChars_map_toUpper hcs, ← heq]
  exact titleChars_ne_of_mem_initialisms word hword

theorem startsWithDigit_map_toUpper {cs : List Char} (hcs : IsWord cs) :
    startsWithDigit (cs.map Char.toUpper) = startsWithDigit cs := by
  cases cs with
  | nil => rfl
  | cons c cs =>
    have hdigit := (caseForms hcs.of_cons.1).isDigit_toUpper
    simpa [startsWithDigit] using hdigit

/-- An initialism that is cut in front of a digit. -/
theorem cut_of_isInitialismChars {u v : List Char} (hu : IsWord u) (hv : IsWord v) (hdigit : startsWithDigit v = true)
    (h : isInitialismChars (u ++ v) = true) : isInitialismChars u = false ∧ titleChars u ≠ upperText u := by
  obtain ⟨word, hword, heq⟩ := exists_of_isInitialismChars (hu.append hv) h
  rw [List.map_append] at heq
  have hlength : (u.map Char.toUpper).length = u.length := List.length_map _
  have hne : v ≠ [] := by
    rintro rfl
    cases hdigit
  have hrange : u.length ∈ List.range word.toList.length := by
    rw [List.mem_range, heq, List.length_append, hlength, List.length_map]
    have := List.length_pos_iff.mpr hne
    omega
  have hcut := cut_of_mem_initialisms word hword u.length hrange
  rw [heq, ← hlength, List.drop_left, List.take_left, startsWithDigit_map_toUpper hv,
    isInitialismChars_map_toUpper hu, titleChars_map_toUpper hu, ← upperText_eq_map hu] at hcut
  exact hcut hdigit

/-- What starts with a digit is no initialism. -/
theorem isInitialismChars_of_startsWithDigit {cs : List Char} (hcs : IsWord cs) (h : startsWithDigit cs = true) :
    isInitialismChars cs = false := by
  refine Bool.eq_false_iff.mpr fun hinit => ?_
  exact (cut_of_isInitialismChars (u := []) (List.forall_mem_nil _) hcs h hinit).2 rfl

theorem startsWithDigit_append {u : List Char} (h : startsWithDigit u = true) (v : List Char) :
    startsWithDigit (u ++ v) = true := by
  cases u with
  | nil => cases h
  | cons c u => exact h

/-- Words of small letters and words whose second character is no letter stay as they are. -/
theorem replaceWord_of_second {c : Char} {w : List Char} (hw : IsWord (c :: w))
    (h : c.isUpper = false ∨ ∀ d ∈ w.head?, d.toUpper.isUpper = false) : replaceWord (c :: w) = c :: w := by
  refine if_neg fun hboth => ?_
  obtain ⟨htitle, hinit⟩ := Bool.and_eq_true_iff.mp hboth
  have hcapital : c.isUpper = true := by
    rw [← isUpper_eq hw.of_cons.1]
    exact (Bool.and_eq_true_iff.mp htitle).1
  obtain ⟨word, hword, heq⟩ := exists_of_isInitialismChars hw hinit
  have hsecond := second_of_mem_initialisms word hword
  rw [heq, List.map_cons, List.tail_cons] at hsecond
  cases w with
  | nil => cases hsecond
  | cons d w =>
    have hd : d.toUpper.isUpper = false := (h.resolve_left (by simp [hcapital])) d rfl
    exact absurd hsecond (by simp [hd])

/-! ## Words at capitals -/

/-- Words that start at capitals are replaced one by one. -/
theorem replaceInitialismsChars_append {v : List Char} (hv : ∀ c ∈ v.head?, Unicode.isUpper c = true)
    (u : List Char) :
    replaceInitialismsChars (u ++ v) = replaceInitialismsChars u ++ replaceInitialismsChars v := by
  rw [replaceInitialismsChars, capitalWords_append hv, List.flatMap_append]
  rfl

/-- A character stays as it is if it is no capital or if no small letter comes after it. -/
theorem replaceInitialismsChars_cons {c : Char} {cs : List Char} (h : IsWord (c :: cs))
    (hpair : c.isUpper = false ∨ ∀ d ∈ cs.head?, d.isLower = false) :
    replaceInitialismsChars (c :: cs) = c :: replaceInitialismsChars cs := by
  have hsingle : replaceInitialismsChars [c] = [c] := by
    have hword : capitalWords [c] = [[c]] := capitalWords_of_tail (List.forall_mem_nil _)
    rw [replaceInitialismsChars, hword, List.flatMap_singleton]
    exact replaceWord_of_second (List.forall_mem_singleton.mpr h.of_cons.1) (.inr fun d hd => nomatch hd)
  cases cs with
  | nil => exact hsingle
  | cons d cs =>
    have hdword := h.of_cons.2.of_cons.1
    cases hd : Unicode.isUpper d with
    | true =>
      have happend := replaceInitialismsChars_append (v := d :: cs)
        (fun e he => by cases he; exact hd) [c]
      rwa [hsingle] at happend
    | false =>
      obtain ⟨first, rest, hwords, hcons, hhead⟩ := capitalWords_cons c hd cs
      cases first with
      | nil => cases hhead
      | cons e first =>
        cases hhead
        have hflat := flatten_capitalWords (d :: cs)
        rw [hwords, List.flatten_cons] at hflat
        have hfirst : IsWord (d :: first) := fun e he =>
          h.of_cons.2 e (hflat ▸ List.mem_append_left rest.flatten he)
        have hsmall : d.isUpper = false := by rwa [← isUpper_eq hdword]
        rw [replaceInitialismsChars, replaceInitialismsChars, hcons, hwords, List.flatMap_cons, List.flatMap_cons,
          replaceWord_of_second hfirst (.inl hsmall),
          replaceWord_of_second (List.forall_mem_cons.mpr ⟨h.of_cons.1, hfirst⟩) ?_]
        · rfl
        · refine hpair.imp_right fun hlower e he => ?_
          cases he
          have hdigit : d.isDigit = true := by
            simpa [Char.isAlphanum, isAlpha_eq, hlower d rfl, hsmall] using hdword
          rw [(caseForms hdword).isUpper_toUpper, hdigit]
          rfl

/-- Text without capitals in front stays as it is. -/
theorem replaceInitialismsChars_small_append {u v : List Char} (h : IsWord (u ++ v))
    (hu : ∀ c ∈ u, c.isUpper = false) :
    replaceInitialismsChars (u ++ v) = u ++ replaceInitialismsChars v := by
  induction u with
  | nil => rfl
  | cons c u ih =>
    obtain ⟨hc, htail⟩ := List.forall_mem_cons.mp hu
    have hword : IsWord (c :: (u ++ v)) := h
    rw [List.cons_append, replaceInitialismsChars_cons hword (.inl hc), ih hword.of_cons.2 htail]
    rfl

/-- Text without small letters in front of anything but a small letter stays as it is. -/
theorem replaceInitialismsChars_capital_append {u v : List Char} (h : IsWord (u ++ v))
    (hu : ∀ c ∈ u, c.isLower = false) (hv : ∀ d ∈ v.head?, d.isLower = false) :
    replaceInitialismsChars (u ++ v) = u ++ replaceInitialismsChars v := by
  induction u with
  | nil => rfl
  | cons c u ih =>
    obtain ⟨-, htail⟩ := List.forall_mem_cons.mp hu
    have hnext : ∀ d ∈ (u ++ v).head?, d.isLower = false := by
      cases u with
      | nil => exact hv
      | cons e u =>
        intro d hd
        cases hd
        exact htail e List.mem_cons_self
    have hword : IsWord (c :: (u ++ v)) := h
    rw [List.cons_append, replaceInitialismsChars_cons hword (.inr hnext), ih hword.of_cons.2 htail]
    rfl

/-! ## Exported segments -/

/-- A segment that starts with a digit is exported in small letters. -/
theorem exportedSegment_of_startsWithDigit {segment : List Char} (hword : IsWord segment)
    (h : startsWithDigit segment = true) (enableInitialism : Bool) :
    exportedSegment enableInitialism segment = segment.map Char.toLower := by
  cases segment with
  | nil => cases h
  | cons c cs =>
    have hdigit : c.isDigit = true := h
    have hforms := caseForms hword.of_cons.1
    have hself : c.toUpper = c.toLower := by
      rw [hforms.toUpper_of_isDigit hdigit, hforms.toLower_of_small (by simp [hdigit])]
    rw [exportedSegment, isInitialismChars_of_startsWithDigit hword h, Bool.and_false, if_neg Bool.false_ne_true,
      titleChars_cons hword, hself]
    rfl

/-- Any other segment is exported with a capital in front. -/
theorem head?_exportedSegment {segment : List Char} (hword : IsWord segment) (h : startsWithDigit segment = false)
    (enableInitialism : Bool) : ∀ c ∈ (exportedSegment enableInitialism segment).head?, Unicode.isUpper c = true := by
  cases segment with
  | nil => cases enableInitialism <;> exact fun c hc => nomatch hc
  | cons c cs =>
    intro d hd
    have hfirst : d = c.toUpper := by
      unfold exportedSegment at hd
      split at hd
      · rw [upperText_eq_map hword] at hd
        exact (Option.some.inj hd).symm
      · rw [titleChars_cons hword] at hd
        exact (Option.some.inj hd).symm
    have hdigit : c.isDigit = false := h
    have hforms := caseForms hword.of_cons.1
    rw [hfirst, isUpper_eq hforms.isAlphanum_toUpper, hforms.isUpper_toUpper, hdigit]
    rfl

theorem length_replaceWord {word : List Char} (hword : IsWord word) : (replaceWord word).length = word.length := by
  unfold replaceWord
  split
  · rw [upperText_eq_map hword, List.length_map]
  · rfl

theorem length_flatMap_replaceWord {words : List (List Char)} (hwords : IsWord words.flatten) :
    (words.flatMap replaceWord).length = words.flatten.length := by
  induction words with
  | nil => rfl
  | cons word words ih =>
    obtain ⟨hword, hrest⟩ := List.forall_mem_append.mp hwords
    rw [List.flatMap_cons, List.length_append, length_replaceWord hword, ih hrest, List.flatten_cons,
      List.length_append]

theorem length_replaceInitialismsChars {cs : List Char} (hcs : IsWord cs) :
    (replaceInitialismsChars cs).length = cs.length := by
  have hflatten := flatten_capitalWords cs
  rw [replaceInitialismsChars, length_flatMap_replaceWord (by rwa [hflatten]), hflatten]

theorem not_isUpper_map_toLower {cs : List Char} (hcs : IsWord cs) :
    ∀ c ∈ cs.map Char.toLower, c.isUpper = false := by
  intro c hc
  obtain ⟨d, hd, rfl⟩ := List.mem_map.mp hc
  exact (caseForms (hcs d hd)).isUpper_toLower

/-! ## A segment and the numbers behind it -/

section Group

variable {segment digits : List Char} (hsegment : IsWord segment) (hdigits : IsWord digits)
  (hstarts : digits ≠ [] → startsWithDigit digits = true)
include hsegment hdigits hstarts

/-- A segment in capitals stays as it is. -/
theorem replaceInitialismsChars_upperText_append :
    replaceInitialismsChars (upperText segment ++ digits.map Char.toLower) =
      upperText segment ++ digits.map Char.toLower := by
  have hcapital : ∀ c ∈ upperText segment, c.isLower = false := by
    rw [upperText_eq_map hsegment]
    intro c hc
    obtain ⟨d, hd, rfl⟩ := List.mem_map.mp hc
    exact (caseForms (hsegment d hd)).isLower_toUpper
  have hhead : ∀ d ∈ (digits.map Char.toLower).head?, d.isLower = false := by
    cases digits with
    | nil => exact fun d hd => nomatch hd
    | cons e digits =>
      intro d hd
      cases hd
      have hdigit : e.isDigit = true := hstarts (List.cons_ne_nil e digits)
      have hforms := caseForms hdigits.of_cons.1
      rw [hforms.toLower_of_small (by simp [hdigit]), ← hforms.toUpper_of_isDigit hdigit]
      exact hforms.isLower_toUpper
  have hlower : IsWord (digits.map Char.toLower) := isWord_map_toLower hdigits
  have hword : IsWord (upperText segment ++ digits.map Char.toLower) := by
    rw [upperText_eq_map hsegment]
    exact (isWord_map_toUpper hsegment).append hlower
  have hrest : replaceInitialismsChars (digits.map Char.toLower) = digits.map Char.toLower := by
    have happend := replaceInitialismsChars_small_append (v := []) (by rwa [List.append_nil])
      (not_isUpper_map_toLower hdigits)
    have hempty : replaceInitialismsChars [] = [] := rfl
    rwa [hempty, List.append_nil] at happend
  rw [replaceInitialismsChars_capital_append hword hcapital hhead, hrest]

omit hstarts in
/-- A segment in title case is one word together with the numbers behind it. -/
theorem replaceInitialismsChars_titleChars_append (hne : segment ≠ []) (hletter : startsWithDigit segment = false) :
    replaceInitialismsChars (titleChars segment ++ digits.map Char.toLower) =
      if isInitialismChars (segment ++ digits) then (segment ++ digits).map Char.toUpper
      else titleChars segment ++ digits.map Char.toLower := by
  cases segment with
  | nil => exact absurd rfl hne
  | cons c cs =>
    obtain ⟨hc, hcs⟩ := hsegment.of_cons
    have htail : ∀ d ∈ cs.map Char.toLower ++ digits.map Char.toLower, Unicode.isUpper d = false := by
      rw [← List.map_append]
      intro d hd
      obtain ⟨e, he, rfl⟩ := List.mem_map.mp hd
      have hword := hcs.append hdigits e he
      rw [isUpper_eq (caseForms hword).isAlphanum_toLower, (caseForms hword).isUpper_toLower]
    have hcapital : Unicode.isUpper c.toUpper = true := by
      have hdigit : c.isDigit = false := hletter
      rw [isUpper_eq (caseForms hc).isAlphanum_toUpper, (caseForms hc).isUpper_toUpper, hdigit]
      rfl
    have hupper : (titleChars (c :: cs) ++ digits.map Char.toLower).map Char.toUpper =
        (c :: cs ++ digits).map Char.toUpper := by
      rw [List.map_append, map_toUpper_titleChars hsegment, map_toUpper_map_toLower hdigits, List.map_append]
    have hword : IsWord (titleChars (c :: cs) ++ digits.map Char.toLower) :=
      (isWord_titleChars hsegment).append (isWord_map_toLower hdigits)
    have htitle : isTitleCase (titleChars (c :: cs) ++ digits.map Char.toLower) = true := by
      rw [titleChars_cons hsegment, List.cons_append, isTitleCase, hcapital, Bool.true_and, List.all_eq_true]
      exact fun d hd => by rw [htail d hd]; rfl
    have hinit : isInitialismChars (titleChars (c :: cs) ++ digits.map Char.toLower) =
        isInitialismChars (c :: cs ++ digits) := by
      rw [isInitialismChars_eq hword, hupper, isInitialismChars_eq (hsegment.append hdigits)]
    have hone : capitalWords (titleChars (c :: cs) ++ digits.map Char.toLower) =
        [titleChars (c :: cs) ++ digits.map Char.toLower] := by
      rw [titleChars_cons hsegment, List.cons_append]
      exact capitalWords_of_tail htail
    rw [replaceInitialismsChars, hone, List.flatMap_singleton, replaceWord, htitle, hinit, Bool.true_and,
      upperText_eq_map hword, hupper]

/-- What replacement makes of a segment and the numbers behind it is what the segment is exported as, unless there
are numbers and one of the two is an initialism. -/
theorem replaceInitialismsChars_group_iff (hne : segment ≠ []) (hletter : startsWithDigit segment = false)
    (enableInitialism : Bool) :
    replaceInitialismsChars (exportedSegment enableInitialism segment ++ digits.map Char.toLower) =
        exportedSegment true segment ++ digits.map Char.toLower ↔
      (digits ≠ [] → (enableInitialism = false → isInitialismChars segment = false) ∧
        isInitialismChars (segment ++ digits) = false) := by
  have htitle := replaceInitialismsChars_titleChars_append hsegment hdigits hne hletter
  have hcut : digits ≠ [] → isInitialismChars (segment ++ digits) = true →
      isInitialismChars segment = false ∧ titleChars segment ≠ upperText segment :=
    fun hdigit => cut_of_isInitialismChars hsegment hdigits (hstarts hdigit)
  cases hinit : isInitialismChars segment with
  | true =>
    have hexported : exportedSegment true segment = upperText segment := by simp [exportedSegment, hinit]
    have hmore : digits ≠ [] → isInitialismChars (segment ++ digits) = false := fun hdigit =>
      Bool.eq_false_iff.mpr fun hmore => absurd hinit (by simp [(hcut hdigit hmore).1])
    cases enableInitialism with
    | true =>
      rw [hexported]
      exact iff_of_true (replaceInitialismsChars_upperText_append hsegment hdigits hstarts)
        fun hdigit => ⟨fun h => absurd h (by decide), hmore hdigit⟩
    | false =>
      have hplain : exportedSegment false segment = titleChars segment := by simp [exportedSegment]
      rw [hexported, hplain, htitle]
      by_cases hdigit : digits = []
      · subst hdigit
        simp [hinit, upperText_eq_map hsegment]
      · rw [hmore hdigit, if_neg Bool.false_ne_true]
        refine iff_of_false (fun heq => ?_) fun h => nomatch (h hdigit).1 rfl
        exact titleChars_ne_of_isInitialismChars hsegment hinit (List.append_cancel_right heq)
  | false =>
    have hexported : ∀ enable, exportedSegment enable segment = titleChars segment := by
      intro enable
      simp [exportedSegment, hinit]
    rw [hexported, hexported, htitle]
    cases hmore : isInitialismChars (segment ++ digits) with
    | false => simp
    | true =>
      have hdigit : digits ≠ [] := by
        rintro rfl
        rw [List.append_nil, hinit] at hmore
        cases hmore
      refine iff_of_false (fun heq => ?_) fun h => nomatch (h hdigit).2
      rw [if_pos rfl, List.map_append] at heq
      have hlength : (segment.map Char.toUpper).length = (titleChars segment).length := by
        rw [← map_toUpper_titleChars hsegment, List.length_map]
      refine (hcut hdigit hmore).2 ?_
      rw [upperText_eq_map hsegment]
      exact (List.append_inj_left heq hlength).symm

end Group

/-! ## Whole names -/

theorem numbers_cons (segment : List Char) (after : List (List Char)) :
    numbers (segment :: after) = if startsWithDigit segment then segment :: numbers after else [] := by
  rw [numbers, List.takeWhile_cons]
  cases startsWithDigit segment <;> rfl

theorem startsWithDigit_flatten_numbers {after : List (List Char)} (h : numbers after ≠ []) :
    startsWithDigit (numbers after).flatten = true := by
  cases after with
  | nil => exact absurd rfl h
  | cons segment after =>
    rw [numbers_cons] at h ⊢
    cases hdigit : startsWithDigit segment with
    | true =>
      rw [if_pos rfl, List.flatten_cons]
      exact startsWithDigit_append hdigit _
    | false =>
      rw [hdigit] at h
      exact absurd rfl h

theorem flatten_numbers_eq_nil_iff {after : List (List Char)} :
    (numbers after).flatten = [] ↔ numbers after = [] := by
  refine ⟨fun h => ?_, fun h => by rw [h]; rfl⟩
  by_contra hne
  have hstarts := startsWithDigit_flatten_numbers hne
  rw [h] at hstarts
  cases hstarts

theorem numbersApart_cons_iff {enableInitialism : Bool} {segment : List Char} {after : List (List Char)} :
    NumbersApart enableInitialism (segment :: after) ↔
      (numbers after ≠ [] → (enableInitialism = false → isInitialismChars segment = false) ∧
        isInitialismChars (segment ++ (numbers after).flatten) = false) ∧ NumbersApart enableInitialism after := by
  constructor
  · intro h
    refine ⟨h segment after (List.suffix_refl _), fun s rest hsuffix => ?_⟩
    exact h s rest (hsuffix.trans (List.suffix_cons segment after))
  · rintro ⟨hfirst, hafter⟩ s rest hsuffix
    obtain heq | hsuffix := List.suffix_cons_iff.mp hsuffix
    · cases heq
      exact hfirst
    · exact hafter s rest hsuffix

/-- Without numbers behind the first segment, numbers stand apart. -/
theorem numbersApart_of_letters {segments : List (List Char)} (h : ∀ s ∈ segments.tail, startsWithDigit s = false)
    {enableInitialism : Bool} : NumbersApart enableInitialism segments := by
  intro segment after hsuffix hnumbers
  cases after with
  | nil => exact absurd rfl hnumbers
  | cons s after =>
    have hmem : s ∈ segments.tail := by
      obtain ⟨front, rfl⟩ := hsuffix
      cases front with
      | nil => exact List.mem_cons_self
      | cons t front => simp
    rw [numbers_cons, h s hmem] at hnumbers
    exact absurd rfl hnumbers

/-- The exported form of segments: the numbers in front in small letters, and the rest with a capital first. -/
theorem flatMap_exportedSegment {segments : List (List Char)} (hwords : ∀ s ∈ segments, IsWord s)
    (enableInitialism : Bool) :
    segments.flatMap (exportedSegment enableInitialism) =
      (numbers segments).flatten.map Char.toLower ++
        (segments.dropWhile startsWithDigit).flatMap (exportedSegment enableInitialism) := by
  induction segments with
  | nil => rfl
  | cons segment after ih =>
    obtain ⟨hword, hafter⟩ := List.forall_mem_cons.mp hwords
    rw [numbers_cons, List.dropWhile_cons]
    cases hdigit : startsWithDigit segment with
    | false => rfl
    | true =>
      rw [List.flatMap_cons, ih hafter, exportedSegment_of_startsWithDigit hword hdigit, if_pos rfl, if_pos rfl,
        List.flatten_cons, List.map_append, List.append_assoc]

theorem head?_flatMap_dropWhile {segments : List (List Char)} (hwords : ∀ s ∈ segments, IsWord s ∧ s ≠ [])
    (enableInitialism : Bool) :
    ∀ c ∈ ((segments.dropWhile startsWithDigit).flatMap (exportedSegment enableInitialism)).head?,
      Unicode.isUpper c = true := by
  induction segments with
  | nil => exact fun c hc => nomatch hc
  | cons segment after ih =>
    obtain ⟨⟨hword, hne⟩, hafter⟩ := List.forall_mem_cons.mp hwords
    rw [List.dropWhile_cons]
    cases hdigit : startsWithDigit segment with
    | true => exact ih hafter
    | false =>
      have hlength := length_exportedSegment hword enableInitialism
      have hfirst := head?_exportedSegment hword hdigit enableInitialism
      rw [if_neg Bool.false_ne_true, List.flatMap_cons]
      cases hexported : exportedSegment enableInitialism segment with
      | nil =>
        rw [hexported] at hlength
        exact absurd (List.length_eq_zero_iff.mp hlength.symm) hne
      | cons d ds =>
        rw [hexported] at hfirst
        exact hfirst

theorem replaceInitialismsChars_flatMap_iff {segments : List (List Char)} (hwords : ∀ s ∈ segments, IsWord s ∧ s ≠ [])
    (enableInitialism : Bool) :
    replaceInitialismsChars (segments.flatMap (exportedSegment enableInitialism)) =
        segments.flatMap (exportedSegment true) ↔ NumbersApart enableInitialism segments := by
  induction segments with
  | nil => exact iff_of_true rfl fun s rest hsuffix => nomatch List.suffix_nil.mp hsuffix
  | cons segment after ih =>
    obtain ⟨⟨hword, hne⟩, hafter⟩ := List.forall_mem_cons.mp hwords
    have hpart : ∀ s ∈ after, IsWord s := fun s hs => (hafter s hs).1
    have hout : IsWord (after.flatMap (exportedSegment enableInitialism)) := by
      intro c hc
      obtain ⟨s, hs, hmem⟩ := List.mem_flatMap.mp hc
      exact isWord_exportedSegment (hpart s hs) enableInitialism c hmem
    have hnumbers : IsWord (numbers after).flatten :=
      isWord_flatten fun s hs => hpart s ((List.takeWhile_prefix _).subset hs)
    rw [numbersApart_cons_iff, ← ih hafter, List.flatMap_cons, List.flatMap_cons]
    cases hdigit : startsWithDigit segment with
    | true =>
      have hfree : isInitialismChars (segment ++ (numbers after).flatten) = false :=
        isInitialismChars_of_startsWithDigit (hword.append hnumbers) (startsWithDigit_append hdigit _)
      have hself : isInitialismChars segment = false := isInitialismChars_of_startsWithDigit hword hdigit
      rw [exportedSegment_of_startsWithDigit hword hdigit, exportedSegment_of_startsWithDigit hword hdigit,
        replaceInitialismsChars_small_append ((isWord_map_toLower hword).append hout) (not_isUpper_map_toLower hword),
        List.append_right_inj]
      exact (and_iff_right fun _ => ⟨fun _ => hself, hfree⟩).symm
    | false =>
      -- the group of the segment and its numbers ends where the next capital starts a word
      have hhead := head?_flatMap_dropWhile hafter enableInitialism
      rw [flatMap_exportedSegment hpart enableInitialism] at hout ⊢
      rw [flatMap_exportedSegment hpart true,
        replaceInitialismsChars_small_append hout (not_isUpper_map_toLower hnumbers), List.append_right_inj,
        ← List.append_assoc, ← List.append_assoc, replaceInitialismsChars_append hhead]
      have hgroup := replaceInitialismsChars_group_iff hword hnumbers
        (fun h => startsWithDigit_flatten_numbers (mt flatten_numbers_eq_nil_iff.mpr h)) hne hdigit enableInitialism
      rw [Ne, flatten_numbers_eq_nil_iff] at hgroup
      have hlength : (replaceInitialismsChars (exportedSegment enableInitialism segment ++
          (numbers after).flatten.map Char.toLower)).length =
          (exportedSegment true segment ++ (numbers after).flatten.map Char.toLower).length := by
        rw [length_replaceInitialismsChars ((isWord_exportedSegment hword _).append (isWord_map_toLower hnumbers)),
          List.length_append, List.length_append, length_exportedSegment hword, length_exportedSegment hword]
      rw [← hgroup]
      exact ⟨fun heq => List.append_inj heq hlength, fun ⟨hfirst, hrest⟩ => by rw [hfirst, hrest]⟩

/-! ## Results -/

/-- The name that storage code gives to an ASCII name is its exported name with initialisms exactly if numbers stand
apart from initialisms: for an exported name by itself, for the member of a column, and for the structure of a
table. -/
theorem storage_name_iff (name : String) (hname : IsAsciiName name) :
    (∀ enableInitialism, replaceInitialisms (exportedName enableInitialism name) = exportedName true name ↔
      NumbersApart enableInitialism (segments name.toList)) ∧
    (∀ (config : GenerationConfig) (column : Column), column.name = name →
      ((Field.ofColumn config column).toStorage.name = exportedName true name ↔
        NumbersApart config.enableInitialism (segments name.toList))) ∧
    ∀ (table : Table) (config : GenerationConfig) (api : ApiConfig) (storage : List Field) (package suffix : String),
      table.name = name → config.structName = "" →
        (((buildEntity table config api).conversion storage package suffix).storageName = exportedName true name ↔
          NumbersApart config.enableInitialism (segments name.toList)) := by
  have hwords : ∀ s ∈ segments name.toList, IsWord s ∧ s ≠ [] :=
    fun s hs => ⟨isWord_of_mem_segments hname hs, ne_nil_of_mem_segments hs⟩
  have hiff : ∀ enableInitialism, replaceInitialisms (exportedName enableInitialism name) = exportedName true name ↔
      NumbersApart enableInitialism (segments name.toList) := by
    intro enableInitialism
    rw [replaceInitialisms, exportedName, exportedName, String.toList_ofList, String.ofList_inj]
    exact replaceInitialismsChars_flatMap_iff hwords enableInitialism
  refine ⟨hiff, ?_, ?_⟩
  · rintro config column rfl
    exact hiff config.enableInitialism
  · rintro table config api storage package suffix rfl hstruct
    have hstorage : ((buildEntity table config api).conversion storage package suffix).storageName =
        replaceInitialisms (exportedName config.enableInitialism table.name) := by
      simp [Entity.conversion, buildEntity, structName, hstruct]
    rw [hstorage]
    exact hiff config.enableInitialism

/-- A column whose name has an initialism and no numbers behind it. -/
def userIdColumn : Column :=
  Column.ofRow { name := "user_id", ordinal := 1, dataType := "bigint", columnType := "bigint", nullable := "NO" } []

theorem storage_name_user_id :
    IsAsciiName "user_id" ∧
      replaceInitialisms (exportedName false "user_id") = exportedName true "user_id" ∧
      (Field.ofColumn {} userIdColumn).toStorage.name = exportedName true "user_id" ∧
      ((buildEntity (Table.ofRows false "user_id" "" [] []) {} {}).conversion [] "types" "API").storageName =
        exportedName true "user_id" := by
  have hname : IsAsciiName "user_id" := by decide +kernel
  have hapart : NumbersApart false (segments "user_id".toList) :=
    numbersApart_of_letters (by decide +kernel)
  obtain ⟨hexported, hmember, hstruct⟩ := storage_name_iff "user_id" hname
  exact ⟨hname, (hexported false).mpr hapart, (hmember {} userIdColumn rfl).mpr hapart,
    (hstruct (Table.ofRows false "user_id" "" [] []) {} {} [] "types" "API" rfl rfl).mpr hapart⟩

/-- In `id_1` the number makes one word with the initialism, which is no initialism; in `utf_8` it makes one that the
name does not have between its underscores. -/
theorem numbers_hide_initialisms :
    (IsAsciiName "id_1" ∧ replaceInitialisms (exportedName false "id_1") ≠ exportedName true "id_1") ∧
      IsAsciiName "utf_8" ∧ replaceInitialisms (exportedName true "utf_8") ≠ exportedName true "utf_8" := by
  decide +kernel

end TableCodegen.Naming
