import Mathlib.Data.List.Basic
import TableCodegen.Text.Search

/-!
# Lines of a text

`lines` cuts a text at its line feeds. Here a text is taken apart line by line, and put together again.

Results:

* `lines_feed`: the first line of a text, and the lines behind it.
* `not_mem_of_mem_lines`: a line holds no line feed.
* `lines_flatMap_feed`: lines that end with no carriage return are found again when each of them is ended
  with a line feed.
-/

namespace TableCodegen.Text

theorem dropReturn_eq (line : List Char) :
    dropReturn line = line ∨ line = dropReturn line ++ ['\r'] := by
  unfold dropReturn
  split
  · rename_i h
    exact Or.inr (List.dropLast_append_getLast? _ h).symm
  · exact Or.inl rfl

theorem splitFrom_of_not_mem {sep : Char} {line : List Char} (h : sep ∉ line) (piece : List Char) :
    splitFrom (· == sep) piece line = [piece.reverse ++ line] := by
  induction line generalizing piece with
  | nil => simp [splitFrom]
  | cons c line ih =>
    rw [List.mem_cons, not_or] at h
    simp [splitFrom, Ne.symm h.1, ih h.2]

theorem splitFrom_feed {line : List Char} (h : '\n' ∉ line) (piece rest : List Char) :
    splitFrom (· == '\n') piece (line ++ '\n' :: rest) =
      (piece.reverse ++ line) :: splitFrom (· == '\n') [] rest := by
  induction line generalizing piece with
  | nil => simp [splitFrom]
  | cons c line ih =>
    rw [List.mem_cons, not_or] at h
    simp [splitFrom, Ne.symm h.1, ih h.2]

theorem splitFrom_ne_nil (sep : Char → Bool) (piece cs : List Char) :
    splitFrom sep piece cs ≠ [] := by
  induction cs generalizing piece with
  | nil => simp [splitFrom]
  | cons c cs ih =>
    rw [splitFrom]
    split
    · simp
    · exact ih _

theorem lines_of_not_mem {line : List Char} (h : '\n' ∉ line) :
    lines line = if line = [] then [] else [line] := by
  rw [lines, splitBy, splitFrom_of_not_mem h]
  cases line <;> simp

theorem lines_feed {line : List Char} (h : '\n' ∉ line) (rest : List Char) :
    lines (line ++ '\n' :: rest) = dropReturn line :: lines rest := by
  have hne := splitFrom_ne_nil (· == '\n') [] rest
  rw [lines, lines, splitBy, splitBy, splitFrom_feed h]
  obtain ⟨pieces, last, hp⟩ := (List.eq_nil_or_concat _).resolve_left hne
  rw [hp, List.concat_eq_append, ← List.cons_append]
  simp only [List.getLast?_concat, List.dropLast_concat, List.map_cons]
  cases last <;> rfl

/-- A text has no line feed, or a first line and a rest. -/
theorem lines_induction {motive : List Char → Prop} (last : ∀ line, '\n' ∉ line → motive line)
    (feed : ∀ line rest, '\n' ∉ line → motive rest → motive (line ++ '\n' :: rest)) (cs : List Char) :
    motive cs := by
  induction hn : cs.length using Nat.strongRecOn generalizing cs with
  | _ n ih =>
    by_cases h : '\n' ∈ cs
    · obtain ⟨line, rest, rfl, hline⟩ := List.eq_append_cons_of_mem h
      rw [List.length_append, List.length_cons] at hn
      exact feed line rest hline (ih rest.length (by omega) rest rfl)
    · exact last cs h

theorem mem_of_mem_dropReturn {c : Char} {line : List Char} (h : c ∈ dropReturn line) : c ∈ line := by
  rcases dropReturn_eq line with heq | heq
  · rwa [heq] at h
  · rw [heq]
    exact List.mem_append_left _ h

theorem not_mem_of_mem_lines {line cs : List Char} (h : line ∈ lines cs) : '\n' ∉ line := by
  induction cs using lines_induction with
  | last last hlast =>
    rw [lines_of_not_mem hlast] at h
    split at h
    · simp at h
    · rwa [List.mem_singleton.mp h]
  | feed first rest hfirst ih =>
    rw [lines_feed hfirst] at h
    rcases List.mem_cons.mp h with rfl | h
    · exact fun hmem => hfirst (mem_of_mem_dropReturn hmem)
    · exact ih h

theorem dropReturn_isPrefix (line : List Char) : dropReturn line <+: line := by
  rcases dropReturn_eq line with h | h
  · exact ⟨[], (List.append_nil _).trans h⟩
  · exact ⟨['\r'], h.symm⟩

theorem infix_of_mem_lines {line cs : List Char} (h : line ∈ lines cs) : line <:+: cs := by
  induction cs using lines_induction with
  | last last hlast =>
    rw [lines_of_not_mem hlast] at h
    split at h
    · simp at h
    · obtain rfl := List.mem_singleton.mp h
      exact List.infix_rfl
  | feed first rest hfirst ih =>
    rw [lines_feed hfirst] at h
    rcases List.mem_cons.mp h with rfl | h
    · exact (dropReturn_isPrefix first).isInfix.trans (List.prefix_append _ _).isInfix
    · exact (ih h).trans ((List.suffix_cons '\n' rest).trans (List.suffix_append first _)).isInfix

theorem lines_flatMap_feed {ls : List (List Char)}
    (h : ∀ line ∈ ls, '\n' ∉ line ∧ line.getLast? ≠ some '\r') :
    lines (ls.flatMap (· ++ ['\n'])) = ls := by
  induction ls with
  | nil => rfl
  | cons line ls ih =>
    have hline := h line List.mem_cons_self
    have hls : ∀ l ∈ ls, '\n' ∉ l ∧ l.getLast? ≠ some '\r' := fun l hl => h l (List.mem_cons_of_mem _ hl)
    rw [List.flatMap_cons, List.append_assoc, List.singleton_append, lines_feed hline.1, ih hls,
      dropReturn, if_neg hline.2]

end TableCodegen.Text
