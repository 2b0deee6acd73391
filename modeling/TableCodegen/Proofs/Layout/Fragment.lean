import TableCodegen.Proofs.Layout.LineSides

/-!
# Fragments of lines

A line is put together from names, brackets, tags and fixed words. Both readers of a line, the one that looks
for brackets and the one that looks for the end of the code, go over such a fragment and go on behind it in
code. Only slashes need care: two of them start a comment, also across the end of a fragment.

Results:

* `Sealed.append`, `Sealed.append_fragment`, `Fragment.append_sealed`: fragments in a row.
* `sealed_bracket`, `sealed_tag`, `sealed_of_allInert`, `fragment_of_tame`: brackets, tags, words and names.
* `Tame.reads`: a text without marks but slashes is gone over, or starts a comment.
* `lineSides_string`, `codeFrom_string`: a string at the end of a line.
-/

namespace TableCodegen

open TableCodegen.Text

/-! ## Specification -/

/-- Reading `u ++ v` goes over `u`, which holds the brackets `word`, and goes on with `v`. -/
structure PassesOver (u : List Char) (word : List (Bracket × Bool)) (v : List Char) : Prop where
  sides : lineSides .code (u ++ v) = word ++ lineSides .code v
  stop : lineEnd .code (u ++ v) = lineEnd .code v
  code : codeFrom none (u ++ v) = u ++ codeFrom none v

/-- A text that is gone over, if no slash stands behind it. -/
def Fragment (u : List Char) (word : List (Bracket × Bool)) : Prop :=
  ∀ v : List Char, v.head? ≠ some '/' → PassesOver u word v

/-- A text that is gone over, whatever stands behind it. -/
def Sealed (u : List Char) (word : List (Bracket × Bool)) : Prop :=
  ∀ v : List Char, PassesOver u word v

/-- A comment starts in `u`: nothing behind it is read. -/
structure StopsWithin (u v : List Char) : Prop where
  sides : lineSides .code (u ++ v) = []
  stop : lineEnd .code (u ++ v) = .code
  code : codeFrom none (u ++ v) <+: u
  comment : ['/', '/'] <:+: u

/-- The marks that a name does not have: all that are not inert, but the slash, and the line breaks. -/
def lineMarks : List Char := ['(', ')', '\x7b', '\x7d', '\x60', '"', '\\', '\n', '\r']

/-- A text without marks but slashes. -/
def Tame (cs : List Char) : Prop :=
  ∀ c ∈ cs, c ∉ lineMarks

instance (cs : List Char) : Decidable (Tame cs) :=
  inferInstanceAs (Decidable (∀ c ∈ cs, c ∉ lineMarks))

theorem Tame.append {u v : List Char} (hu : Tame u) (hv : Tame v) : Tame (u ++ v) :=
  List.forall_mem_append.mpr ⟨hu, hv⟩

/-! ## Fragments in a row -/

theorem PassesOver.append {u v w : List Char} {x y : List (Bracket × Bool)} (hu : PassesOver u x (v ++ w))
    (hv : PassesOver v y w) : PassesOver (u ++ v) (x ++ y) w := by
  refine ⟨?_, ?_, ?_⟩
  · rw [List.append_assoc, hu.sides, hv.sides, List.append_assoc]
  · rw [List.append_assoc, hu.stop, hv.stop]
  · rw [List.append_assoc, hu.code, hv.code, List.append_assoc]

theorem passesOver_nil (v : List Char) : PassesOver [] [] v := ⟨rfl, rfl, rfl⟩

theorem Sealed.fragment {u : List Char} {word : List (Bracket × Bool)} (h : Sealed u word) : Fragment u word :=
  fun v _ => h v

theorem Sealed.append {u v : List Char} {x y : List (Bracket × Bool)} (hu : Sealed u x) (hv : Sealed v y) :
    Sealed (u ++ v) (x ++ y) :=
  fun w => (hu (v ++ w)).append (hv w)

theorem Sealed.append_fragment {u v : List Char} {x y : List (Bracket × Bool)} (hu : Sealed u x)
    (hv : Fragment v y) : Fragment (u ++ v) (x ++ y) :=
  fun w hw => (hu (v ++ w)).append (hv w hw)

theorem Fragment.append_sealed {u v : List Char} {x y : List (Bracket × Bool)} (hu : Fragment u x)
    (hv : Sealed v y) {c : Char} (hhead : v.head? = some c) (hc : c ≠ '/') : Sealed (u ++ v) (x ++ y) := by
  intro w
  refine (hu (v ++ w) ?_).append (hv w)
  rw [List.head?_append, hhead]
  simpa using hc

/-- A fragment is read as a whole line. -/
theorem Fragment.line {u : List Char} {word : List (Bracket × Bool)} (h : Fragment u word) :
    lineSides .code u = word ∧ lineEnd .code u = .code ∧ codeFrom none u = u := by
  obtain ⟨hsides, hstop, hcode⟩ := h [] (by simp)
  rw [List.append_nil] at hsides hstop hcode
  refine ⟨?_, hstop, ?_⟩
  · rw [hsides]
    exact List.append_nil word
  · rw [hcode]
    exact List.append_nil u

/-! ## Names -/

theorem Inert.passesOver {c : Char} (h : Inert c) (v : List Char) : PassesOver [c] [] v := by
  refine ⟨lineSides_inert_cons h .code v, lineEnd_inert_cons h .code v, ?_⟩
  have hc : AllInert [c] := fun d hd => List.mem_singleton.mp hd ▸ h
  exact codeFrom_allInert_append hc v

theorem sealed_of_allInert {u : List Char} (h : AllInert u) : Sealed u [] := by
  induction u with
  | nil => exact passesOver_nil
  | cons c u ih =>
    obtain ⟨hc, hu⟩ := List.forall_mem_cons.mp h
    exact fun v => (hc.passesOver (u ++ v)).append (ih hu v)

/-- A fixed word without marks. -/
theorem sealed_of_not_mem {u : List Char} (h : ∀ c ∈ u, c ∉ layoutMarks) : Sealed u [] :=
  sealed_of_allInert (allInert_of_not_mem h)

/-- A slash by itself is gone over. -/
theorem passesOver_slash {v : List Char} (h : v.head? ≠ some '/') : PassesOver ['/'] [] v := by
  have hstart : ScanState.code.startsComment '/' v = false := by simpa [ScanState.startsComment] using h
  refine ⟨?_, ?_, ?_⟩
  · rw [List.singleton_append, lineSides, hstart, if_neg Bool.false_ne_true]
    rfl
  · rw [List.singleton_append, lineEnd, hstart, if_neg Bool.false_ne_true]
    rfl
  · exact codeFrom_cons fun _ _ => h

theorem inert_of_not_mem_lineMarks {c : Char} (h : c ∉ lineMarks) (hslash : c ≠ '/') : Inert c := by
  refine inert_of_not_mem fun hmem => ?_
  have hmarks : ∀ d ∈ layoutMarks, d = '/' ∨ d ∈ lineMarks := by decide
  exact (hmarks c hmem).elim hslash h

theorem passesOver_of_tame {c : Char} (hc : c ∉ lineMarks) {v : List Char} (h : c = '/' → v.head? ≠ some '/') :
    PassesOver [c] [] v := by
  by_cases hslash : c = '/'
  · subst hslash
    exact passesOver_slash (h rfl)
  · exact (inert_of_not_mem_lineMarks hc hslash).passesOver v

/-- A text without marks but slashes is gone over, or a comment starts in it. -/
theorem Tame.reads {u : List Char} (hu : Tame u) {v : List Char} (hv : v.head? ≠ some '/') :
    StopsWithin u v ∨ PassesOver u [] v := by
  induction u with
  | nil => exact Or.inr (passesOver_nil v)
  | cons c u ih =>
    obtain ⟨hc, hu⟩ := List.forall_mem_cons.mp hu
    by_cases hcomment : c = '/' ∧ (u ++ v).head? = some '/'
    · obtain ⟨rfl, hhead⟩ := hcomment
      left
      refine ⟨?_, ?_, ?_, ?_⟩
      · rw [List.cons_append, lineSides, if_pos (by simp [ScanState.startsComment, hhead])]
      · rw [List.cons_append, lineEnd, if_pos (by simp [ScanState.startsComment, hhead])]
      · rw [List.cons_append, codeFrom_comment hhead]
        exact List.nil_prefix
      · cases u with
        | nil => exact absurd hhead hv
        | cons d u =>
          obtain rfl : d = '/' := Option.some.inj hhead
          exact ⟨[], u, rfl⟩
    · have hstep := passesOver_of_tame hc fun hslash hhead => hcomment ⟨hslash, hhead⟩
      rcases ih hu with ⟨hsides, hstop, hcode, hslashes⟩ | hpass
      · left
        refine ⟨hstep.sides.trans hsides, hstep.stop.trans hstop, ?_, ?_⟩
        · have hwhole : codeFrom none (c :: u ++ v) = c :: codeFrom none (u ++ v) := hstep.code
          rw [hwhole]
          exact List.cons_prefix_cons.mpr ⟨rfl, hcode⟩
        · exact hslashes.trans (List.suffix_cons c u).isInfix
      · right
        exact hstep.append hpass

/-- A name with single slashes. -/
theorem fragment_of_tame {u : List Char} (hu : Tame u) (hslash : ¬ ['/', '/'] <:+: u) : Fragment u [] :=
  fun _ hv => (hu.reads hv).resolve_left fun h => hslash h.comment

theorem not_infix_of_not_mem {u : List Char} (h : '/' ∉ u) : ¬ ['/', '/'] <:+: u :=
  fun hcomment => h (hcomment.subset List.mem_cons_self)

/-! ## Brackets and tags -/

theorem sealed_bracket {c : Char} {side : Bracket × Bool} (h : bracketOf? c = some side) :
    Sealed [c] [side] := by
  intro v
  have hc : c ≠ '/' ∧ c ≠ tagMark ∧ c ≠ '"' := by
    refine ⟨?_, ?_, ?_⟩ <;> rintro rfl <;> simp [bracketOf?, tagMark] at h
  have hstart : ScanState.code.startsComment c v = false := by simp [ScanState.startsComment, hc.1]
  have hnext : ScanState.code.next c = .code := by simp [ScanState.next, hc.2.1, hc.2.2]
  refine ⟨?_, ?_, ?_⟩
  · rw [List.singleton_append, lineSides, hstart, if_neg Bool.false_ne_true, hnext, sideAt?, if_pos rfl, h]
    rfl
  · rw [List.singleton_append, lineEnd, hstart, if_neg Bool.false_ne_true, hnext]
  · have hquote : quoteAfter none [c] = none :=
      quoteAfter_of_not_mem (by simpa using Ne.symm hc.2.2) (by simpa [tagMark] using Ne.symm hc.2.1)
        isQuote_none
    rw [List.singleton_append, codeFrom_cons fun _ hslash => absurd hslash hc.1, hquote]
    rfl

/-- The inside of a tag, up to its end. -/
theorem reads_tag {body : List Char} (h : tagMark ∉ body) (v : List Char) :
    lineSides .tag (body ++ tagMark :: v) = lineSides .code v ∧
      lineEnd .tag (body ++ tagMark :: v) = lineEnd .code v ∧
      codeFrom (some tagMark) (body ++ tagMark :: v) = body ++ tagMark :: codeFrom none v := by
  have hstart : ∀ c rest, ScanState.tag.startsComment c rest = false := fun _ _ => rfl
  induction body with
  | nil => exact ⟨rfl, rfl, rfl⟩
  | cons c body ih =>
    rw [List.mem_cons, not_or] at h
    obtain ⟨hsides, hstop, hcode⟩ := ih h.2
    have hnext : ScanState.tag.next c = .tag := if_neg (Ne.symm h.1)
    refine ⟨?_, ?_, ?_⟩
    · rw [List.cons_append, lineSides, hstart, if_neg Bool.false_ne_true, hnext, hsides]
      rfl
    · rw [List.cons_append, lineEnd, hstart, if_neg Bool.false_ne_true, hnext, hstop]
    · rw [List.cons_append, codeFrom, if_neg (Ne.symm h.1), hcode]
      rfl

theorem sealed_tag {body : List Char} (h : tagMark ∉ body) : Sealed (tagMark :: body ++ [tagMark]) [] := by
  intro v
  obtain ⟨hsides, hstop, hcode⟩ := reads_tag h v
  have hwhole : tagMark :: body ++ [tagMark] ++ v = tagMark :: (body ++ tagMark :: v) := by simp
  have hstart : ScanState.code.startsComment tagMark (body ++ tagMark :: v) = false := rfl
  refine ⟨?_, ?_, ?_⟩
  · rw [hwhole, lineSides, hstart, if_neg Bool.false_ne_true]
    exact hsides
  · rw [hwhole, lineEnd, hstart, if_neg Bool.false_ne_true]
    exact hstop
  · rw [hwhole]
    change tagMark :: codeFrom (some tagMark) (body ++ tagMark :: v) = _
    rw [hcode]
    simp

/-! ## Strings -/

/-- The inside of a string that goes on to the end of the line holds no brackets. A backslash before its
last quote leaves it open, which ends with the line. -/
theorem lineSides_string {content : List Char} (h : '"' ∉ content) (afterBackslash : Bool) :
    lineSides (.string afterBackslash) (content ++ ['"']) = [] ∧
      nextLine (.string afterBackslash) (content ++ ['"']) = .code := by
  induction content generalizing afterBackslash with
  | nil => cases afterBackslash <;> exact ⟨rfl, rfl⟩
  | cons c content ih =>
    rw [List.mem_cons, not_or] at h
    have hnext : (ScanState.string afterBackslash).next c = .string (c = '\\') := by
      simp [ScanState.next, Ne.symm h.1]
    obtain ⟨hsides, hstop⟩ := ih h.2 (decide (c = '\\'))
    refine ⟨?_, ?_⟩
    · rw [List.cons_append, lineSides, startsComment_of_ne_code (by simp), if_neg Bool.false_ne_true, hnext,
        hsides]
      rfl
    · rw [nextLine, List.cons_append, lineEnd, startsComment_of_ne_code (by simp),
        if_neg Bool.false_ne_true, hnext]
      exact hstop

theorem codeFrom_string {content : List Char} (h : '"' ∉ content) :
    codeFrom (some '"') (content ++ ['"']) = content ++ ['"'] := by
  induction content with
  | nil => rfl
  | cons c content ih =>
    rw [List.mem_cons, not_or] at h
    rw [List.cons_append, codeFrom, if_neg (Ne.symm h.1), ih h.2]

end TableCodegen
