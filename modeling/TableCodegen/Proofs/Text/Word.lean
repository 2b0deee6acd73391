import Mathlib.Data.List.Basic
import TableCodegen.Document.Line
import TableCodegen.Proofs.Text.Blank

/-!
# Words of a text

What comes up in the pieces of a text, and in a text that is put on one line.

Results:

* `mem_of_mem_runs`: the characters of the runs are those of the text, without the separators.
* `runs_append_cons`: a separator parts the runs before it from those behind it.
* `maximalRuns_iff`: the runs between separators are the maximal runs of what is no separator.
* `words_intercalate`: words that are joined by blanks are found again.
* `getLast?_joinWords`: joined words end as the text without the blanks around it.
* `not_mem_singleLine`: the only blank of a text on one line is the space.
* `mem_of_mem_quotable`: a quotable text holds no double quote.
-/

namespace TableCodegen

namespace Text

theorem mem_of_mem_runsFrom {α : Type} {p : α → Bool} {run cs r : List α} {c : α}
    (hr : r ∈ runsFrom p run cs) (hc : c ∈ r) : c ∈ run ∨ c ∈ cs ∧ p c = false := by
  induction cs generalizing run with
  | nil =>
    rw [runsFrom] at hr
    split at hr
    · cases hr
    · rw [List.mem_singleton.mp hr, List.mem_reverse] at hc
      exact Or.inl hc
  | cons d cs ih =>
    have hrest : ∀ {held : List α}, r ∈ runsFrom p held cs → c ∈ held ∨ c ∈ d :: cs ∧ p c = false :=
      fun h => (ih h).imp_right fun h => ⟨List.mem_cons_of_mem d h.1, h.2⟩
    rw [runsFrom] at hr
    split at hr
    · split at hr
      · exact (hrest hr).imp_left fun h => absurd h List.not_mem_nil
      · rcases List.mem_cons.mp hr with rfl | hr
        · exact Or.inl (List.mem_reverse.mp hc)
        · exact (hrest hr).imp_left fun h => absurd h List.not_mem_nil
    · rename_i hd
      rcases hrest hr with h | h
      · rcases List.mem_cons.mp h with rfl | h
        · exact Or.inr ⟨List.mem_cons_self, by rwa [Bool.not_eq_true] at hd⟩
        · exact Or.inl h
      · exact Or.inr h

theorem mem_of_mem_runs {α : Type} {p : α → Bool} {cs r : List α} {c : α} (hr : r ∈ runs p cs) (hc : c ∈ r) :
    c ∈ cs ∧ p c = false :=
  (mem_of_mem_runsFrom hr hc).resolve_left List.not_mem_nil

/-- The characters of joined pieces. -/
theorem mem_intercalate {α : Type} {sep : List α} {pieces : List (List α)} {c : α}
    (h : c ∈ List.intercalate sep pieces) : c ∈ sep ∨ ∃ piece ∈ pieces, c ∈ piece := by
  induction pieces with
  | nil => simp [List.intercalate] at h
  | cons piece pieces ih =>
    cases pieces with
    | nil => exact Or.inr ⟨piece, List.mem_cons_self, by simpa [List.intercalate] using h⟩
    | cons next pieces =>
      rw [List.intercalate_cons_cons, List.mem_append, List.mem_append] at h
      rcases h with (h | h) | h
      · exact Or.inr ⟨piece, List.mem_cons_self, h⟩
      · exact Or.inl h
      · exact (ih h).imp_right fun ⟨p, hp, hmem⟩ => ⟨p, List.mem_cons_of_mem _ hp, hmem⟩

theorem map_intercalate {α β : Type} (f : α → β) (sep : List α) (lists : List (List α)) :
    (List.intercalate sep lists).map f = List.intercalate (sep.map f) (lists.map (List.map f)) := by
  induction lists with
  | nil => rfl
  | cons list lists ih =>
    cases lists with
    | nil => simp
    | cons next lists =>
      rw [List.intercalate_cons_cons, List.map_append, List.map_append, ih]
      simp [List.intercalate_cons_cons]

theorem flatten_runsFrom {α : Type} (p : α → Bool) (run cs : List α) :
    (runsFrom p run cs).flatten = run.reverse ++ cs.filter fun c => !p c := by
  induction cs generalizing run with
  | nil =>
    rw [runsFrom]
    split
    · rename_i h
      rw [List.isEmpty_iff.mp h]
      rfl
    · simp
  | cons c cs ih =>
    rw [runsFrom]
    cases hc : p c with
    | false => simp [ih, hc]
    | true =>
      cases hrun : run.isEmpty with
      | true =>
        rw [List.isEmpty_iff.mp hrun]
        simp [ih, hc]
      | false => simp [ih, hc]

/-! ## Maximal runs -/

section Runs

variable {α : Type} {p : α → Bool}

/-- The maximal runs of the characters that satisfy `p`, in order, between gaps without such characters. -/
inductive MaximalRuns (p : α → Bool) : List α → List (List α) → Prop where
  | gap {gap : List α} (hgap : ∀ c ∈ gap, p c = false) : MaximalRuns p gap []
  | run {gap run rest : List α} {rs : List (List α)} (hgap : ∀ c ∈ gap, p c = false) (hne : run ≠ [])
      (hrun : ∀ c ∈ run, p c = true) (hend : ∀ c ∈ rest.head?, p c = false) (h : MaximalRuns p rest rs) :
      MaximalRuns p (gap ++ run ++ rest) (run :: rs)

/-- The run that is being read goes on over what is no separator. -/
theorem runsFrom_append {run : List α} (h : ∀ c ∈ run, p c = false) (held rest : List α) :
    runsFrom p held (run ++ rest) = runsFrom p (run.reverse ++ held) rest := by
  induction run generalizing held with
  | nil => rfl
  | cons c run ih =>
    rw [List.forall_mem_cons] at h
    rw [List.cons_append, runsFrom, if_neg (by simp [h.1]), ih h.2, List.reverse_cons, List.append_assoc]
    rfl

/-- It ends in front of the next separator. -/
theorem runsFrom_of_head? {held rest : List α} (hne : held ≠ []) (h : ∀ c ∈ rest.head?, p c = true) :
    runsFrom p held rest = held.reverse :: runs p rest := by
  cases rest with
  | nil => simp [runsFrom, runs, hne]
  | cons c rest => simp [runsFrom, runs, h c rfl, hne]

@[simp] theorem runs_nil : runs p [] = [] := rfl

theorem runs_gap_append {gap : List α} (h : ∀ c ∈ gap, p c = true) (rest : List α) :
    runs p (gap ++ rest) = runs p rest := by
  induction gap with
  | nil => rfl
  | cons c gap ih =>
    rw [List.forall_mem_cons] at h
    rw [← ih h.2, List.cons_append, runs, runsFrom, if_pos h.1]
    rfl

theorem runs_run_append {run rest : List α} (hne : run ≠ []) (hrun : ∀ c ∈ run, p c = false)
    (hend : ∀ c ∈ rest.head?, p c = true) : runs p (run ++ rest) = run :: runs p rest := by
  rw [runs, runsFrom_append hrun, List.append_nil, runsFrom_of_head? (mt List.reverse_eq_nil_iff.mp hne) hend,
    List.reverse_reverse]

theorem runsFrom_append_cons {c : α} (hc : p c = true) (held u v : List α) :
    runsFrom p held (u ++ c :: v) = runsFrom p held u ++ runs p v := by
  induction u generalizing held with
  | nil =>
    rw [List.nil_append, runsFrom, runsFrom, if_pos hc]
    cases held.isEmpty <;> rfl
  | cons d u ih =>
    rw [List.cons_append, runsFrom, runsFrom, ih [], ih (d :: held)]
    cases p d with
    | false => rfl
    | true => cases held.isEmpty <;> rfl

/-- A separator parts the runs before it from those behind it. -/
theorem runs_append_cons {c : α} (hc : p c = true) (u v : List α) :
    runs p (u ++ c :: v) = runs p u ++ runs p v :=
  runsFrom_append_cons hc [] u v

theorem MaximalRuns.runs_eq {cs : List α} {rs : List (List α)} (h : MaximalRuns p cs rs) :
    runs (fun c => !p c) cs = rs := by
  induction h with
  | gap hgap => simpa using runs_gap_append (p := fun c => !p c) (by simpa using hgap) []
  | run hgap hne hrun hend _ ih =>
    rw [List.append_assoc, runs_gap_append (by simpa using hgap),
      runs_run_append hne (by simpa using hrun) (by simpa using hend), ih]

theorem MaximalRuns.cons_gap {c : α} {cs : List α} {rs : List (List α)} (hc : p c = false)
    (h : MaximalRuns p cs rs) : MaximalRuns p (c :: cs) rs := by
  cases h with
  | gap hgap => exact .gap (List.forall_mem_cons.mpr ⟨hc, hgap⟩)
  | run hgap hne hrun hend h => exact .run (List.forall_mem_cons.mpr ⟨hc, hgap⟩) hne hrun hend h

/-- A further character in front goes to the first run, or is a run of its own before a gap. -/
theorem MaximalRuns.exists_cons_run {c : α} {cs : List α} {rs : List (List α)} (hc : p c = true)
    (h : MaximalRuns p cs rs) : ∃ rs', MaximalRuns p (c :: cs) rs' := by
  have hnil : ∀ d ∈ ([] : List α), p d = false := List.forall_mem_nil _
  have hsingle : ∀ d ∈ [c], p d = true := List.forall_mem_singleton.mpr hc
  cases h with
  | gap hgap =>
    have hend : ∀ d ∈ cs.head?, p d = false := fun d hd => hgap d (List.mem_of_mem_head? hd)
    exact ⟨[[c]], .run hnil (List.cons_ne_nil c []) hsingle hend (.gap hgap)⟩
  | @run gap run rest rs hgap hne hrun hend h =>
    cases gap with
    | nil =>
      have hall : ∀ d ∈ c :: run, p d = true := List.forall_mem_cons.mpr ⟨hc, hrun⟩
      exact ⟨(c :: run) :: rs, .run hnil (List.cons_ne_nil c run) hall hend h⟩
    | cons d gap =>
      have hhead : ∀ e ∈ (d :: gap ++ run ++ rest).head?, p e = false := fun e he => by
        obtain rfl := Option.some.inj he
        exact hgap d List.mem_cons_self
      exact ⟨[c] :: run :: rs, .run hnil (List.cons_ne_nil c []) hsingle hhead (.run hgap hne hrun hend h)⟩

theorem exists_maximalRuns (p : α → Bool) (cs : List α) : ∃ rs, MaximalRuns p cs rs := by
  induction cs with
  | nil => exact ⟨[], .gap (List.forall_mem_nil _)⟩
  | cons c cs ih =>
    obtain ⟨rs, hrs⟩ := ih
    cases hc : p c with
    | false => exact ⟨rs, hrs.cons_gap hc⟩
    | true => exact hrs.exists_cons_run hc

theorem MaximalRuns.of_mem {cs : List α} {rs : List (List α)} (h : MaximalRuns p cs rs) :
    ∀ run ∈ rs, run ≠ [] ∧ ∀ c ∈ run, p c = true := by
  induction h with
  | gap => exact List.forall_mem_nil _
  | run _ hne hrun _ _ ih => exact List.forall_mem_cons.mpr ⟨⟨hne, hrun⟩, ih⟩

/-- The runs between separators are the maximal runs of what is no separator. -/
theorem maximalRuns_iff {cs : List α} {rs : List (List α)} :
    MaximalRuns p cs rs ↔ runs (fun c => !p c) cs = rs := by
  refine ⟨MaximalRuns.runs_eq, ?_⟩
  rintro rfl
  obtain ⟨rs, hrs⟩ := exists_maximalRuns p cs
  rwa [hrs.runs_eq]

end Runs

/-- Words that are joined by blanks are found again. -/
theorem words_intercalate {ws : List (List Char)} (h : ∀ w ∈ ws, w ≠ [] ∧ ∀ c ∈ w, isBlank c = false) :
    words (List.intercalate [' '] ws) = ws := by
  induction ws with
  | nil => rfl
  | cons w ws ih =>
    rw [List.forall_mem_cons] at h
    cases ws with
    | nil =>
      have hrun : runs isBlank (w ++ []) = w :: runs isBlank [] := runs_run_append h.1.1 h.1.2 nofun
      simpa [words, List.intercalate] using hrun
    | cons w' ws =>
      have hspace : ∀ c ∈ [' '], isBlank c = true := List.forall_mem_singleton.mpr rfl
      have hend : ∀ c ∈ ([' '] ++ List.intercalate [' '] (w' :: ws)).head?, isBlank c = true :=
        fun c hc => hspace c (by simpa using hc.symm)
      rw [List.intercalate_cons_cons, List.append_assoc, words, runs_run_append h.1.1 h.1.2 hend,
        runs_gap_append hspace]
      exact congrArg _ (ih h.2)

/-! ## The end of joined words -/

theorem exists_runsFrom_concat {α : Type} {p : α → Bool} {c : α} (hc : p c = false) {tail : List α}
    (htail : ∀ d ∈ tail, p d = true) (run front : List α) :
    ∃ before word, runsFrom p run (front ++ c :: tail) = before ++ [word ++ [c]] := by
  induction front generalizing run with
  | nil =>
    have hhead : ∀ d ∈ tail.head?, p d = true := fun d hd => htail d (List.mem_of_mem_head? hd)
    have hrest : runs p tail = [] := by simpa using runs_gap_append htail []
    refine ⟨[], run.reverse, ?_⟩
    rw [List.nil_append, runsFrom, hc, if_neg Bool.false_ne_true,
      runsFrom_of_head? (List.cons_ne_nil c run) hhead, hrest, List.reverse_cons]
    rfl
  | cons d front ih =>
    rw [List.cons_append, runsFrom]
    cases hd : p d with
    | false => exact ih (d :: run)
    | true =>
      obtain ⟨before, word, hwords⟩ := ih []
      cases hrun : run.isEmpty with
      | true => exact ⟨before, word, hwords⟩
      | false => exact ⟨run.reverse :: before, word, congrArg (run.reverse :: ·) hwords⟩

theorem getLast?_intercalate_concat {α : Type} (sep : List α) (before : List (List α)) (word : List α) (c : α) :
    (List.intercalate sep (before ++ [word ++ [c]])).getLast? = some c := by
  induction before with
  | nil => simp
  | cons first before ih =>
    obtain ⟨next, more, hmore⟩ := List.exists_cons_of_ne_nil
      (List.append_ne_nil_of_right_ne_nil before (List.cons_ne_nil (word ++ [c]) []))
    rw [List.cons_append, hmore, List.intercalate_cons_cons, ← hmore, List.getLast?_append, ih]
    rfl

/-- A text on one line ends as the text without the blanks around it. -/
theorem getLast?_joinWords (cs : List Char) : (joinWords cs).getLast? = (trim cs).getLast? := by
  obtain hblank | hmark := allBlank_or_exists cs
  · have hwords : words cs = [] := by simpa [words] using runs_gap_append hblank []
    rw [joinWords, hwords, trim_eq_nil_iff.mpr hblank]
    rfl
  · obtain ⟨front, m, tail, rfl, hm, htail⟩ := exists_last_mark hmark
    obtain ⟨before, word, hwords⟩ := exists_runsFrom_concat hm htail [] front
    have hend : trimEnd tail = [] := trimEnd_eq_nil_iff.mpr htail
    rw [joinWords, words, runs, hwords, getLast?_intercalate_concat, trim_append_cons hm, hend,
      List.getLast?_concat]

end Text

open TableCodegen.Text

theorem mem_of_mem_singleLine {text : String} {c : Char} (h : c ∈ (singleLine text).toList) :
    c = ' ' ∨ c ∈ text.toList ∧ isBlank c = false := by
  rw [singleLine, String.toList_ofList] at h
  rcases mem_intercalate h with h | ⟨word, hword, hc⟩
  · exact Or.inl (List.mem_singleton.mp h)
  · exact Or.inr (mem_of_mem_runs hword hc)

/-- Only a text of blanks leaves nothing on its line. -/
theorem singleLine_eq_empty_iff {text : String} : singleLine text = "" ↔ AllBlank text.toList := by
  have hempty : singleLine text = "" ↔ joinWords text.toList = [] := by
    rw [singleLine, ← String.toList_inj, String.toList_ofList]
    rfl
  rw [hempty, ← List.getLast?_eq_none_iff, getLast?_joinWords, List.getLast?_eq_none_iff, trim_eq_nil_iff]

theorem singleLine_ne_empty_of_trimmed {text : String} (htrimmed : trimmed text = text) (hne : text ≠ "") :
    singleLine text ≠ "" := by
  intro h
  rw [singleLine_eq_empty_iff, ← trim_eq_nil_iff] at h
  rw [trimmed, h] at htrimmed
  exact hne htrimmed.symm

/-- A text on one line holds no other blank than the space. -/
theorem not_mem_singleLine {c : Char} (hc : isBlank c = true) (hspace : c ≠ ' ') (text : String) :
    c ∉ (singleLine text).toList := by
  intro h
  rcases mem_of_mem_singleLine h with h | h
  · exact hspace h
  · rw [hc] at h
    exact absurd h.2 Bool.noConfusion

/-- What a quotable text holds stands in the text, but for the spaces and the single quotes. -/
theorem mem_of_mem_quotable {text : String} {c : Char} (h : c ∈ (quotable text).toList) :
    c ≠ '"' ∧ (c = '\x27' ∨ c ∈ (singleLine text).toList) := by
  rw [quotable, String.toList_ofList] at h
  obtain ⟨d, hd, rfl⟩ := List.mem_map.mp h
  by_cases hquote : d = '"'
  · rw [if_pos hquote]
    exact ⟨by decide, Or.inl rfl⟩
  · rw [if_neg hquote]
    exact ⟨hquote, Or.inr hd⟩

end TableCodegen
