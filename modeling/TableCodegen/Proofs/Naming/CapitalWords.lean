import Mathlib.Data.List.Basic
import TableCodegen.Naming.Words

/-!
# Words at capitals

`capitalWords` reads an identifier from the left and starts a word at every capital. What it finds is the one way to cut
the identifier before each of its capitals, so that words can be found by looking at the pieces alone.

Results:

* `capitalWords_append`, `capitalWords_of_tail`: what the scan makes of a capital, and of what is none.
* `capitalWords_flatten`: pieces that start with capitals are cut one by one.
* `capitalWords_eq_iff`: the words of an identifier are the one way to cut it before each of its capitals.
-/

namespace TableCodegen.Naming

open TableCodegen.Text TableCodegen.Text.Unicode

/-! ## Specification -/

/-- The words are an identifier cut before each of its capitals, and nowhere else. -/
structure CutAtCapitals (cs : List Char) (words : List (List Char)) : Prop where
  /-- The words make up the identifier. -/
  flatten_eq : words.flatten = cs
  /-- No word is empty. -/
  ne_nil : ∀ w ∈ words, w ≠ []
  /-- A capital starts a word. -/
  isUpper_tail : ∀ w ∈ words, ∀ c ∈ w.tail, Unicode.isUpper c = false
  /-- All words but the first start with a capital. -/
  isUpper_head : ∀ w ∈ words.tail, ∀ c ∈ w.head?, Unicode.isUpper c = true

/-! ## The scan -/

/-- A capital starts a word whatever stands before it. -/
theorem capitalWordsFrom_append {v : List Char} (hv : ∀ c ∈ v.head?, Unicode.isUpper c = true) (word u : List Char) :
    capitalWordsFrom word (u ++ v) = capitalWordsFrom word u ++ capitalWords v := by
  induction u generalizing word with
  | nil =>
    cases v with
    | nil => simp [capitalWords, capitalWordsFrom]
    | cons c rest =>
      have hc : Unicode.isUpper c = true := hv c rfl
      cases word with
      | nil => rfl
      | cons d word => simp [capitalWords, capitalWordsFrom, hc]
  | cons c u ih =>
    rw [List.cons_append, capitalWordsFrom, capitalWordsFrom]
    split
    · rw [ih, List.cons_append]
    · exact ih (c :: word)

theorem capitalWords_append {v : List Char} (hv : ∀ c ∈ v.head?, Unicode.isUpper c = true) (u : List Char) :
    capitalWords (u ++ v) = capitalWords u ++ capitalWords v :=
  capitalWordsFrom_append hv [] u

theorem capitalWordsFrom_of_tail {tail : List Char} (h : ∀ c ∈ tail, Unicode.isUpper c = false) {word : List Char}
    (hword : word ≠ []) : capitalWordsFrom word tail = [word.reverse ++ tail] := by
  induction tail generalizing word with
  | nil => simp [capitalWordsFrom, hword]
  | cons c tail ih =>
    obtain ⟨hc, htail⟩ := List.forall_mem_cons.mp h
    rw [capitalWordsFrom, hc, Bool.false_and, if_neg Bool.false_ne_true, ih htail (List.cons_ne_nil c word)]
    simp

/-- Without a capital behind the first character an identifier is one word. -/
theorem capitalWords_of_tail {c : Char} {tail : List Char} (h : ∀ d ∈ tail, Unicode.isUpper d = false) :
    capitalWords (c :: tail) = [c :: tail] := by
  have hstep : capitalWords (c :: tail) = capitalWordsFrom [c] tail := by
    simp [capitalWords, capitalWordsFrom]
  rw [hstep, capitalWordsFrom_of_tail h (List.cons_ne_nil c [])]
  rfl

/-- Pieces that start with capitals are cut one by one; what the first piece starts with does not matter. -/
theorem capitalWords_flatten {pieces : List (List Char)}
    (h : ∀ piece ∈ pieces.tail, piece.head?.any Unicode.isUpper = true) :
    capitalWords pieces.flatten = pieces.flatMap capitalWords := by
  induction pieces with
  | nil => rfl
  | cons piece pieces ih =>
    have hrest : ∀ p ∈ pieces.tail, p.head?.any Unicode.isUpper = true :=
      fun p hp => h p (List.mem_of_mem_tail hp)
    have hhead : ∀ c ∈ pieces.flatten.head?, Unicode.isUpper c = true := by
      cases pieces with
      | nil => exact fun c hc => nomatch hc
      | cons next rest =>
        obtain ⟨d, hd, hupper⟩ := (Option.any_eq_true _ _).mp (h next List.mem_cons_self)
        intro c hc
        rw [List.flatten_cons, List.head?_append, hd] at hc
        cases hc
        exact hupper
    rw [List.flatten_cons, capitalWords_append hhead, ih hrest, List.flatMap_cons]

/-! ## Cuts -/

namespace CutAtCapitals

variable {cs : List Char} {words : List (List Char)}

theorem any_head (h : CutAtCapitals cs words) : ∀ w ∈ words.tail, w.head?.any Unicode.isUpper = true := by
  intro w hw
  obtain ⟨c, tail, rfl⟩ := List.exists_cons_of_ne_nil (h.ne_nil w (List.mem_of_mem_tail hw))
  exact h.isUpper_head _ hw c rfl

theorem capitalWords_of_mem (h : CutAtCapitals cs words) {w : List Char} (hw : w ∈ words) : capitalWords w = [w] := by
  obtain ⟨c, tail, rfl⟩ := List.exists_cons_of_ne_nil (h.ne_nil w hw)
  exact capitalWords_of_tail (h.isUpper_tail _ hw)

theorem capitalWords_eq (h : CutAtCapitals cs words) : capitalWords cs = words := by
  rw [← h.flatten_eq, capitalWords_flatten h.any_head,
    List.flatMap_congr fun w hw => h.capitalWords_of_mem hw]
  exact List.flatMap_singleton' words

/-- Anything in front of a word that starts with a capital is a word of its own. -/
theorem cons_word (h : CutAtCapitals cs words)
    (hfirst : ∀ w ∈ words.head?, ∀ d ∈ w.head?, Unicode.isUpper d = true) (c : Char) :
    CutAtCapitals (c :: cs) ([c] :: words) where
  flatten_eq := congrArg (c :: ·) h.flatten_eq
  ne_nil := List.forall_mem_cons.mpr ⟨List.cons_ne_nil c [], h.ne_nil⟩
  isUpper_tail := List.forall_mem_cons.mpr ⟨List.forall_mem_nil _, h.isUpper_tail⟩
  isUpper_head := by
    cases words with
    | nil => exact List.forall_mem_nil _
    | cons w words => exact List.forall_mem_cons.mpr ⟨hfirst w rfl, h.isUpper_head⟩

/-- Anything in front of a word without capitals belongs to that word. -/
theorem cons_cons {w : List Char} (h : CutAtCapitals cs (w :: words)) (hw : ∀ d ∈ w, Unicode.isUpper d = false)
    (c : Char) : CutAtCapitals (c :: cs) ((c :: w) :: words) where
  flatten_eq := congrArg (c :: ·) h.flatten_eq
  ne_nil := List.forall_mem_cons.mpr ⟨List.cons_ne_nil c w, (List.forall_mem_cons.mp h.ne_nil).2⟩
  isUpper_tail := List.forall_mem_cons.mpr ⟨hw, (List.forall_mem_cons.mp h.isUpper_tail).2⟩
  isUpper_head := h.isUpper_head

end CutAtCapitals

theorem exists_cutAtCapitals (cs : List Char) : ∃ words, CutAtCapitals cs words := by
  induction cs with
  | nil => exact ⟨[], rfl, List.forall_mem_nil _, List.forall_mem_nil _, List.forall_mem_nil _⟩
  | cons c cs ih =>
    obtain ⟨words, hwords⟩ := ih
    -- whether `c` is a word by itself depends on what the next word starts with
    cases words with
    | nil => exact ⟨_, hwords.cons_word (fun w hw => nomatch hw) c⟩
    | cons w words =>
      obtain ⟨d, tail, rfl⟩ := List.exists_cons_of_ne_nil (hwords.ne_nil w List.mem_cons_self)
      cases hd : Unicode.isUpper d with
      | true =>
        have hfirst : ∀ w ∈ ((d :: tail) :: words).head?, ∀ e ∈ w.head?, Unicode.isUpper e = true := by
          rintro _ ⟨⟩ _ ⟨⟩
          exact hd
        exact ⟨_, hwords.cons_word hfirst c⟩
      | false =>
        have htail := hwords.isUpper_tail _ List.mem_cons_self
        exact ⟨_, hwords.cons_cons (List.forall_mem_cons.mpr ⟨hd, htail⟩) c⟩

/-- The words of an identifier are the one way to cut it before each of its capitals. -/
theorem capitalWords_eq_iff {cs : List Char} {words : List (List Char)} :
    capitalWords cs = words ↔ CutAtCapitals cs words := by
  refine ⟨?_, CutAtCapitals.capitalWords_eq⟩
  rintro rfl
  obtain ⟨words, hwords⟩ := exists_cutAtCapitals cs
  rwa [hwords.capitalWords_eq]

theorem cutAtCapitals_capitalWords (cs : List Char) : CutAtCapitals cs (capitalWords cs) :=
  capitalWords_eq_iff.mp rfl

/-- The words of an identifier make it up. -/
theorem flatten_capitalWords (cs : List Char) : (capitalWords cs).flatten = cs :=
  (cutAtCapitals_capitalWords cs).flatten_eq

theorem mem_of_mem_capitalWords {c : Char} {cs w : List Char} (hw : w ∈ capitalWords cs) (hc : c ∈ w) : c ∈ cs := by
  rw [← flatten_capitalWords cs]
  exact List.mem_flatten.mpr ⟨w, hw, hc⟩

/-- A character in front of anything but a capital belongs to the first word. -/
theorem capitalWords_cons (c : Char) {d : Char} (hd : Unicode.isUpper d = false) (cs : List Char) :
    ∃ first rest, capitalWords (d :: cs) = first :: rest ∧ capitalWords (c :: d :: cs) = (c :: first) :: rest ∧
      first.head? = some d := by
  have hcut := cutAtCapitals_capitalWords (d :: cs)
  cases hwords : capitalWords (d :: cs) with
  | nil =>
    rw [hwords] at hcut
    cases hcut.flatten_eq
  | cons first rest =>
    rw [hwords] at hcut
    obtain ⟨e, tail, rfl⟩ := List.exists_cons_of_ne_nil (hcut.ne_nil first List.mem_cons_self)
    obtain ⟨rfl, -⟩ := List.cons.inj hcut.flatten_eq
    have hfirst : ∀ f ∈ e :: tail, Unicode.isUpper f = false :=
      List.forall_mem_cons.mpr ⟨hd, hcut.isUpper_tail _ List.mem_cons_self⟩
    exact ⟨e :: tail, rest, rfl, (hcut.cons_cons hfirst c).capitalWords_eq, rfl⟩

end TableCodegen.Naming
