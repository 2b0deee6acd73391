import TableCodegen.Proofs.Layout.BlockLine
import TableCodegen.Proofs.Layout.Inert
import TableCodegen.Proofs.Layout.Outline

/-!
# Lines that have come back

A line of a block that came back from the formatter, and goes to it again, comes back unchanged, and it
opens and closes what it opened and closed before.

Results:

* `sharesEnd_body`, `sharesEnd_member`: the code of a line keeps its end.
* `settledLine_settledLine`: on its way again, a line does not change.
* `depthBehind_settledLine`, `opensBlock_settledLine`: brackets that stay open, and blocks that open.
-/

namespace TableCodegen

open TableCodegen.Text

/-! ## The end of the code -/

/-- Two codes are the same from a mark on, and the mark is neither a blank nor a closing bracket. -/
def SharesEnd (m : Char) (u v : List Char) : Prop :=
  (isBlank m = false ∧ m ≠ '\x7d' ∧ m ≠ ')') ∧ ∃ x y rest, u = x ++ m :: rest ∧ v = y ++ m :: rest

theorem endsWithChar_append {c m : Char} (x rest : List Char) :
    endsWithChar c (x ++ m :: rest) = endsWithChar c (m :: rest) := by
  unfold endsWithChar
  rw [List.getLast?_append_of_ne_nil x (List.cons_ne_nil m rest)]

theorem endsOpen_append {m : Char} (x rest : List Char) :
    endsOpen (x ++ m :: rest) = endsOpen (m :: rest) := by
  unfold endsOpen
  rw [endsWithChar_append, endsWithChar_append]

theorem isEmptyBody_append {m : Char} (hblank : isBlank m = false) (hcurly : m ≠ '\x7d')
    (x rest : List Char) : isEmptyBody (x ++ m :: rest) = isEmptyBody (m :: rest) := by
  unfold isEmptyBody
  rw [endsWithChar_append]
  cases rest with
  | nil =>
    have hend : endsWithChar '\x7d' [m] = false := by simp [endsWithChar, hcurly]
    rw [hend, Bool.false_and, Bool.false_and]
  | cons d rest =>
    have hdrop : (x ++ m :: d :: rest).dropLast = x ++ m :: (d :: rest).dropLast := by
      rw [List.dropLast_append_of_ne_nil (List.cons_ne_nil m _), List.dropLast_cons_cons]
    rw [hdrop, trimEnd_append_of_exists ⟨m, List.mem_cons_self, hblank⟩, trimEnd_cons hblank,
      endsWithChar_append, List.dropLast_cons_cons, trimEnd_cons hblank]

theorem SharesEnd.endsOpen_eq {m : Char} {u v : List Char} (h : SharesEnd m u v) : endsOpen u = endsOpen v := by
  obtain ⟨-, x, y, rest, rfl, rfl⟩ := h
  rw [endsOpen_append, endsOpen_append]

theorem SharesEnd.isLoneCloser_eq {m : Char} {u v : List Char} (h : SharesEnd m u v) :
    isLoneCloser u = isLoneCloser v := by
  obtain ⟨⟨-, hcurly, hround⟩, x, y, rest, rfl, rfl⟩ := h
  rw [isLoneCloser_append hcurly hround, isLoneCloser_append hcurly hround]

theorem SharesEnd.opensBody_eq {m : Char} {u v : List Char} (h : SharesEnd m u v) :
    opensBody u = opensBody v := by
  obtain ⟨⟨hblank, hcurly, -⟩, x, y, rest, rfl, rfl⟩ := h
  unfold opensBody
  rw [endsWithChar_append, endsWithChar_append, isEmptyBody_append hblank hcurly,
    isEmptyBody_append hblank hcurly]

/-! ## Lines that open a structure -/

/-- The code of a line that opens a structure, before and after blanks in front of the brace change. -/
theorem codePart_body {name post : List Char} (hname : '\x7b' ∉ name)
    (h : opensBody (codePart (name ++ '\x7b' :: post)) = true) :
    ∃ code, codePart (name ++ '\x7b' :: post) = trimStart name ++ '\x7b' :: code ∧
      codePart (trimEnd name ++ ' ' :: '\x7b' :: post) =
        trimStart (trimEnd name ++ [' ']) ++ '\x7b' :: code := by
  obtain ⟨tail, htail, heq⟩ := exists_trimEnd name
  have hprefix := prefix_code_of_opensBody hname h
  have hquote : quoteAfter none (name ++ ['\x7b']) = quoteAfter none (trimEnd name) := by
    have hmark : IsQuote (quoteAfter none (trimEnd name)) := isQuote_none.after _
    rw [heq, List.append_assoc, quoteAfter_append, quoteAfter_append, ← heq,
      quoteAfter_of_allBlank htail hmark, quoteAfter_of_not_mem (by simp) (by simp) hmark]
  have hcode : codeFrom none (name ++ '\x7b' :: post) =
      name ++ '\x7b' :: codeFrom (quoteAfter none (trimEnd name)) post := by
    have hsplit : name ++ '\x7b' :: post = (name ++ ['\x7b']) ++ post := by simp
    rw [hsplit] at hprefix ⊢
    rw [codeFrom_append_of_isPrefix hprefix, hquote]
    simp
  have hfront : codeFrom none (trimEnd name) = trimEnd name := by
    refine codeFrom_eq_self_of_isPrefix (v := tail ++ '\x7b' :: post) ?_
    rw [← List.append_assoc, ← heq, hcode]
    exact (trimEnd_isPrefix name).trans (List.prefix_append _ _)
  have hsettled : codeFrom none (trimEnd name ++ ' ' :: '\x7b' :: post) =
      (trimEnd name ++ [' ']) ++ '\x7b' :: codeFrom (quoteAfter none (trimEnd name)) post := by
    have hmark : IsQuote (quoteAfter none (trimEnd name)) := isQuote_none.after _
    rw [codeFrom_append hfront (by simp), codeFrom_cons (by simp), codeFrom_cons (by simp),
      quoteAfter_of_not_mem (by simp) (by simp) hmark, quoteAfter_of_not_mem (by simp) (by simp) hmark]
    simp
  refine ⟨trimEnd (codeFrom (quoteAfter none (trimEnd name)) post), ?_, ?_⟩
  · rw [codePart, hcode, trim_append_cons rfl]
  · rw [codePart, hsettled, trim_append_cons rfl]

theorem sharesEnd_body {name post : List Char} (hname : '\x7b' ∉ name)
    (h : opensBody (codePart (name ++ '\x7b' :: post)) = true) :
    SharesEnd '\x7b' (codePart (trimEnd name ++ ' ' :: '\x7b' :: post))
      (codePart (name ++ '\x7b' :: post)) := by
  obtain ⟨code, hcode, hsettled⟩ := codePart_body hname h
  exact ⟨by decide, _, _, code, hsettled, hcode⟩

/-! ## Members -/

theorem capitalized_cons (c : Char) (rest : List Char) :
    capitalized (c :: rest) = Unicode.upper c ++ rest := rfl

/-- A capital does not change any more. -/
theorem capitalized_capitalized (cs : List Char) : capitalized (capitalized cs) = capitalized cs := by
  cases cs with
  | nil => rfl
  | cons c rest =>
    rw [capitalized_cons]
    rcases Unicode.upper_eq_or c with h | ⟨-, d, more, h, hd⟩
    · rw [h, List.singleton_append, capitalized_cons, h]
      rfl
    · rw [h, List.cons_append, capitalized_cons, hd]
      rfl

/-- A capital is no blank. -/
theorem isBlank_upper {c : Char} (h : isBlank c = false) : ∀ d ∈ Unicode.upper c, isBlank d = false := by
  intro d hd
  rcases Unicode.upper_eq_or c with heq | ⟨hparts, -⟩
  · rw [heq] at hd
    rw [List.mem_singleton.mp hd]
    exact h
  · exact Unicode.isBlank_of_isCapitalPart (hparts d hd)

/-- A text without blanks at its ends has none when it gets a capital. -/
theorem trim_capitalized {cs : List Char} (hcs : trim cs = cs) : trim (capitalized cs) = capitalized cs := by
  cases cs with
  | nil => rfl
  | cons c rest =>
    have hfirst : isBlank c = false := isBlank_head_trim (u := c :: rest) c (by rw [hcs]; rfl)
    rw [capitalized_cons]
    refine trim_eq_self (fun d hd => ?_) (fun d hd => ?_)
    · rw [List.head?_append_of_ne_nil _ (Unicode.upper_ne_nil c)] at hd
      exact isBlank_upper hfirst d (List.mem_of_mem_head? hd)
    · cases rest with
      | nil =>
        rw [List.append_nil] at hd
        exact isBlank_upper hfirst d (List.mem_of_getLast? hd)
      | cons e rest =>
        rw [List.getLast?_append_of_ne_nil _ (List.cons_ne_nil e rest)] at hd
        refine isBlank_getLast_trim (u := c :: e :: rest) d ?_
        rw [hcs, List.getLast?_cons_cons]
        exact hd

theorem mem_of_codePart {m : Char} {line : List Char} (h : m ∈ codePart line) : m ∈ line :=
  (codeFrom_isPrefix none line).subset (mem_codeFrom_of_mem_codePart h)

theorem sharesEnd_member {line : List Char} (htag : '\x60' ∈ codePart line) :
    SharesEnd '\x60' (codePart (capitalized (trim line))) (codePart line) := by
  have hmark : isBlank '\x60' = false ∧ '\x60' ≠ '\x7d' ∧ '\x60' ≠ ')' := by decide
  rw [← codePart_trim line] at htag ⊢
  cases hline : trim line with
  | nil =>
    rw [hline] at htag
    exact absurd htag (by decide)
  | cons c rest =>
    rw [hline] at htag
    rw [capitalized_cons]
    by_cases hupper : Unicode.upper c = [c]
    · obtain ⟨x, y, heq⟩ := List.append_of_mem htag
      rw [hupper, List.singleton_append]
      exact ⟨hmark, x, x, y, heq, heq⟩
    · obtain ⟨hsmall, hcapital⟩ := allInert_upper hupper
      have hcode : codeFrom none (c :: rest) = c :: codeFrom none rest :=
        codeFrom_allInert_append hsmall rest
      have hc : '\x60' ≠ c := Ne.symm (hsmall c (List.mem_singleton.mpr rfl)).tag
      have hrest : '\x60' ∈ codeFrom none rest := by
        have hmem := mem_codeFrom_of_mem_codePart htag
        rw [hcode, List.mem_cons] at hmem
        exact hmem.resolve_left hc
      obtain ⟨x, y, heq⟩ := List.append_of_mem hrest
      refine ⟨hmark, trimStart (Unicode.upper c ++ x), trimStart (c :: x), trimEnd y, ?_, ?_⟩
      · rw [codePart, codeFrom_allInert_append hcapital, heq, ← List.append_assoc,
          trim_append_cons hmark.1]
      · rw [codePart, hcode, heq, ← List.cons_append, trim_append_cons hmark.1]

/-! ## A line on its way again -/

theorem Plain.settledLine {line : List Char} (h : Plain line) : Plain (settledLine line) := by
  cases hbody : opensBody (codePart line) with
  | true =>
    obtain ⟨name, post, rfl, hname⟩ := List.eq_append_cons_of_mem (mem_of_codePart (brace_mem_of_opensBody hbody))
    rw [settledLine_body hname h hbody]
    exact h.blank_brace
  | false =>
    by_cases htag : '\x60' ∈ codePart line
    · rw [settledLine_member h hbody htag]
      exact (h.of_infix (trim_isInfix line)).capitalized
    · rw [settledLine_other h hbody htag]
      exact h

/-- The code of a line keeps its end, or it stays as it is. -/
theorem codePart_settledLine {line : List Char} (h : Plain line) :
    codePart (settledLine line) = codePart line ∨
      ∃ m, SharesEnd m (codePart (settledLine line)) (codePart line) := by
  cases hbody : opensBody (codePart line) with
  | true =>
    obtain ⟨name, post, rfl, hname⟩ := List.eq_append_cons_of_mem (mem_of_codePart (brace_mem_of_opensBody hbody))
    rw [settledLine_body hname h hbody]
    exact Or.inr ⟨'\x7b', sharesEnd_body hname hbody⟩
  | false =>
    by_cases htag : '\x60' ∈ codePart line
    · rw [settledLine_member h hbody htag]
      exact Or.inr ⟨'\x60', sharesEnd_member htag⟩
    · rw [settledLine_other h hbody htag]
      exact Or.inl rfl

theorem depthBehind_settledLine {line : List Char} (h : Plain line) (depth : Nat) :
    depthBehind depth (settledLine line) = depthBehind depth line := by
  unfold depthBehind
  rcases codePart_settledLine h with heq | ⟨m, hshares⟩
  · rw [heq]
  · rw [hshares.endsOpen_eq, hshares.isLoneCloser_eq]

/-- **A line that has come back stays as it is.** -/
theorem settledLine_settledLine {line : List Char} (h : Plain line) :
    settledLine (settledLine line) = settledLine line := by
  have hsettled := h.settledLine
  cases hbody : opensBody (codePart line) with
  | true =>
    obtain ⟨name, post, rfl, hname⟩ := List.eq_append_cons_of_mem (mem_of_codePart (brace_mem_of_opensBody hbody))
    have hname' : '\x7b' ∉ trimEnd name ++ [' '] := by
      intro hmem
      rcases List.mem_append.mp hmem with hmem | hmem
      · exact hname ((trimEnd_isPrefix name).subset hmem)
      · simp at hmem
    have hsplit : trimEnd name ++ ' ' :: '\x7b' :: post = (trimEnd name ++ [' ']) ++ '\x7b' :: post := by simp
    have hbody' := hbody
    rw [← (sharesEnd_body hname hbody).opensBody_eq, hsplit] at hbody'
    have htrim : trimEnd (trimEnd name ++ [' ']) = trimEnd name := by
      obtain ⟨tail, htail, heq⟩ := exists_trimEnd name
      have hblank : AllBlank [' '] := by simp [AllBlank, isBlank]
      calc trimEnd (trimEnd name ++ [' ']) = trimEnd (trimEnd name ++ tail) := by
            rw [trimEnd_append_blank hblank, trimEnd_append_blank htail]
        _ = trimEnd name := by rw [← heq]
    rw [settledLine_body hname h hbody, hsplit] at hsettled ⊢
    rw [settledLine_body hname' hsettled hbody', htrim, hsplit]
  | false =>
    by_cases htag : '\x60' ∈ codePart line
    · have hshares := sharesEnd_member htag
      have htag' : '\x60' ∈ codePart (capitalized (trim line)) := by
        obtain ⟨-, x, -, rest, heq, -⟩ := hshares
        rw [heq]
        exact List.mem_append_right x List.mem_cons_self
      rw [settledLine_member h hbody htag] at hsettled ⊢
      rw [settledLine_member hsettled (by rw [hshares.opensBody_eq, hbody]) htag',
        trim_capitalized (trim_trim line), capitalized_capitalized]
    · rw [settledLine_other h hbody htag, settledLine_other h hbody htag]

/-! ## Lines that open a block -/

/-- A group whose opening line carries a tag: it gets a capital, as members do. -/
def TaggedGroup (line : List Char) : Prop :=
  endsWithChar '(' (codePart line) = true ∧ '\x60' ∈ codePart line

instance : DecidablePred TaggedGroup := fun line =>
  inferInstanceAs (Decidable (endsWithChar '(' (codePart line) = true ∧ '\x60' ∈ codePart line))

theorem opensBlock_iff {code : List Char} :
    opensBlock code = true ↔ "type".toList <+: code ∧ endsOpen code = true := by
  rw [opensBlock, Bool.and_eq_true, isSome_dropHead?_iff]

/-- A line that opens a block opens one when it has come back, unless it gets a capital. -/
theorem opensBlock_settledLine {line : List Char} (h : Plain line) (htrim : trim line = line)
    (hopen : opensBlock (codePart line) = true) (hgroup : ¬ TaggedGroup line) :
    opensBlock (codePart (settledLine line)) = true ∧ trim (settledLine line) = settledLine line := by
  obtain ⟨htype, hend⟩ := opensBlock_iff.mp hopen
  cases hbody : opensBody (codePart line) with
  | true =>
    obtain ⟨name, post, rfl, hname⟩ :=
      List.eq_append_cons_of_mem (mem_of_codePart (brace_mem_of_opensBody hbody))
    obtain ⟨code, hcode, hsettled⟩ := codePart_body hname hbody
    have hstart : trimStart name = name := by
      cases name with
      | nil => rfl
      | cons c name =>
        refine trimStart_cons ?_ name
        exact isBlank_head_trim (u := c :: name ++ '\x7b' :: post) c (by rw [htrim]; rfl)
    rw [hcode, prefix_append_cons_iff (by decide), hstart] at htype
    obtain ⟨rest, rfl⟩ := htype
    have hletter : ∀ c ∈ "type".toList.getLast?, isBlank c = false := by
      rintro c ⟨⟩
      rfl
    have hfront : trimEnd ("type".toList ++ rest) = 't' :: ("ype".toList ++ trimEnd rest) :=
      trimEnd_append_of_getLast? hletter rest
    rw [settledLine_body hname h hbody]
    refine ⟨opensBlock_iff.mpr ⟨?_, ?_⟩, ?_⟩
    · rw [hsettled, hfront, List.cons_append, trimStart_cons rfl]
      exact ⟨trimEnd rest ++ [' '] ++ '\x7b' :: code, by simp⟩
    · rw [(sharesEnd_body hname hbody).endsOpen_eq, hend]
    · rw [hfront]
      refine trim_eq_self (fun c hc => ?_) (fun c hc => ?_)
      · rw [← Option.some.inj hc]
        rfl
      · refine isBlank_getLast_trim (u := "type".toList ++ rest ++ '\x7b' :: post) c ?_
        rw [htrim, List.getLast?_append_of_ne_nil _ (List.cons_ne_nil _ _)]
        rwa [← List.singleton_append, ← List.append_assoc,
          List.getLast?_append_of_ne_nil _ (List.cons_ne_nil _ _)] at hc
  | false =>
    have hround : endsWithChar '(' (codePart line) = true := by
      unfold endsOpen at hend
      unfold opensBody at hbody
      rw [Bool.or_eq_false_iff] at hbody
      rw [hbody.1, Bool.false_or] at hend
      exact hend
    have htag : '\x60' ∉ codePart line := fun htag => hgroup ⟨hround, htag⟩
    rw [settledLine_other h hbody htag]
    exact ⟨hopen, htrim⟩

end TableCodegen
