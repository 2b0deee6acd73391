import TableCodegen.Proofs.Layout.CodeDelimiter
import TableCodegen.Proofs.Layout.LineShape

/-!
# Openers that are never closed

A document in which no closer is refused can still leave openers open. Its delimiters are then balanced
words with these openers between them, and the check has the openers on its stack when it comes to the end.

Results:

* `delimiters_inOrder`: the delimiters of a document stand in the order of their places.
* `Balanced.exists_closer`: every opener of a balanced word is closed within the word.
* `exists_leftOpen`: delimiters without a refused closer are balanced words and openers between them.
* `LeftOpen.mem_iff`: these openers are the ones that no closer closes.
* `RouteValidator.delimiter_unclosed`: the verdict on such a document.

**Deviation.** Of the openers that are never closed the check reports the last one, which is on top of the
stack. It is the first one only if there is no other.
-/

namespace TableCodegen

open TableCodegen.Text

/-! ## Specification -/

/-- A closer of its kind closes the opener, with a balanced word between the two. -/
def Delimiter.IsClosedIn (d : Delimiter) (behind : List Delimiter) : Prop :=
  ∃ inner closer rest, behind = inner ++ closer :: rest ∧ Balanced (inner.map Delimiter.side) ∧
    closer.side = (d.bracket, false)

/-- The delimiters are balanced words with the openers `openers` between them. -/
inductive LeftOpen : List Delimiter → List Delimiter → Prop where
  | balanced {ds : List Delimiter} (h : Balanced (ds.map Delimiter.side)) : LeftOpen ds []
  | opener {gap rest openers : List Delimiter} {d : Delimiter} (hgap : Balanced (gap.map Delimiter.side))
      (hopen : d.opens = true) (hrest : LeftOpen rest openers) : LeftOpen (gap ++ d :: rest) (d :: openers)

/-- One delimiter stands before another. -/
def Delimiter.Before (d e : Delimiter) : Prop :=
  d.line < e.line ∨ d.line = e.line ∧ d.column < e.column

/-! ## The order of places -/

theorem place_of_delimiterAt? {state : ScanState} {c : Char} {line column : Nat} {d : Delimiter}
    (h : delimiterAt? state c line column = some d) : d.line = line ∧ d.column = column := by
  unfold delimiterAt? at h
  split at h
  · obtain ⟨entry, -, rfl⟩ := Option.map_eq_some_iff.mp h
    exact ⟨rfl, rfl⟩
  · cases h

theorem place_of_mem_lineDelimiters {number column : Nat} {state : ScanState} {line : List Char} {d : Delimiter}
    (h : d ∈ lineDelimiters number column state line) : d.line = number ∧ column ≤ d.column := by
  induction line generalizing column state with
  | nil => cases h
  | cons c line ih =>
    rw [lineDelimiters] at h
    split at h
    · cases h
    · rcases List.mem_append.mp h with h | h
      · obtain ⟨hline, hcolumn⟩ := place_of_delimiterAt? (Option.mem_toList.mp h)
        exact ⟨hline, Nat.le_of_eq hcolumn.symm⟩
      · obtain ⟨hline, hcolumn⟩ := ih h
        exact ⟨hline, by omega⟩

theorem lineDelimiters_inOrder (number column : Nat) (state : ScanState) (line : List Char) :
    (lineDelimiters number column state line).Pairwise Delimiter.Before := by
  induction line generalizing column state with
  | nil => exact List.Pairwise.nil
  | cons c line ih =>
    rw [lineDelimiters]
    split
    · exact List.Pairwise.nil
    · refine List.pairwise_append.mpr ⟨?_, ih _ _, fun d hd e he => ?_⟩
      · cases delimiterAt? state c number column with
        | none => exact List.Pairwise.nil
        | some d => exact List.pairwise_singleton _ d
      · obtain ⟨heline, hecolumn⟩ := place_of_mem_lineDelimiters he
        obtain ⟨hdline, hdcolumn⟩ := place_of_delimiterAt? (Option.mem_toList.mp hd)
        exact Or.inr ⟨hdline.trans heline.symm, by omega⟩

theorem line_of_mem_delimitersFrom {number : Nat} {state : ScanState} {ls : List (List Char)} {d : Delimiter}
    (h : d ∈ delimitersFrom number state ls) : number ≤ d.line := by
  induction ls generalizing number state with
  | nil => cases h
  | cons line ls ih =>
    rw [delimitersFrom] at h
    rcases List.mem_append.mp h with h | h
    · rw [(place_of_mem_lineDelimiters h).1]
    · have hline := ih h
      omega

theorem delimitersFrom_inOrder (number : Nat) (state : ScanState) (ls : List (List Char)) :
    (delimitersFrom number state ls).Pairwise Delimiter.Before := by
  induction ls generalizing number state with
  | nil => exact List.Pairwise.nil
  | cons line ls ih =>
    rw [delimitersFrom]
    refine List.pairwise_append.mpr ⟨lineDelimiters_inOrder _ _ _ _, ih _ _, fun d hd e he => Or.inl ?_⟩
    have hline := line_of_mem_delimitersFrom he
    rw [(place_of_mem_lineDelimiters hd).1]
    omega

theorem delimiters_inOrder (document : List Char) : (delimiters document).Pairwise Delimiter.Before :=
  delimitersFrom_inOrder 1 .code (lines document)

theorem Delimiter.Before.ne {d e : Delimiter} (h : d.Before e) : ¬ (d.line = e.line ∧ d.column = e.column) := by
  rintro ⟨hline, hcolumn⟩
  rcases h with h | ⟨-, h⟩ <;> omega

theorem nodup_delimiters (document : List Char) : (delimiters document).Nodup :=
  (delimiters_inOrder document).imp fun hbefore heq => hbefore.ne (by rw [heq]; exact ⟨rfl, rfl⟩)

/-! ## Balanced words -/

/-- Every opener of a balanced word is closed within the word. -/
theorem Balanced.exists_closer {word : List (Bracket × Bool)} (h : Balanced word) {b : Bracket} :
    ∀ u v, word = u ++ (b, true) :: v → ∃ inner rest, v = inner ++ (b, false) :: rest ∧ Balanced inner := by
  induction h with
  | nil =>
    intro u v huv
    simp at huv
  | @enclosed c word inner ih =>
    intro u v huv
    cases u with
    | nil =>
      rw [List.nil_append, List.cons_append, List.cons.injEq, Prod.mk.injEq] at huv
      obtain ⟨⟨rfl, -⟩, rfl⟩ := huv
      exact ⟨word, [], rfl, inner⟩
    | cons x u =>
      rw [List.cons_append, List.cons_append, List.cons.injEq] at huv
      rcases List.eq_nil_or_concat v with rfl | ⟨v, y, rfl⟩
      · -- an opener does not end the word
        have hlast := (List.append_inj' huv.2 rfl).2
        simp at hlast
      · rw [List.concat_eq_append, ← List.cons_append, ← List.append_assoc] at huv
        obtain ⟨front, rest, rfl, hfront⟩ := ih u v (List.append_inj' huv.2 rfl).1
        exact ⟨front, rest ++ [y], by simp, hfront⟩
  | @append w₁ w₂ h₁ h₂ ih₁ ih₂ =>
    intro u v huv
    rcases List.append_eq_append_iff.mp huv with ⟨m, rfl, hm⟩ | ⟨m, rfl, hm⟩
    · exact ih₂ m v hm
    · cases m with
      | nil => exact ih₂ [] v hm.symm
      | cons x m =>
        obtain ⟨rfl, rfl⟩ := List.cons.inj hm
        obtain ⟨inner, rest, rfl, hinner⟩ := ih₁ u m rfl
        exact ⟨inner, rest ++ w₂, by simp, hinner⟩

theorem Balanced.isClosedIn {before after : List Delimiter} {d : Delimiter}
    (h : Balanced ((before ++ d :: after).map Delimiter.side)) (hopen : d.opens = true) :
    d.IsClosedIn after := by
  have hside : d.side = (d.bracket, true) := by rw [Delimiter.side, hopen]
  rw [List.map_append, List.map_cons, hside] at h
  obtain ⟨inner, rest, heq, hinner⟩ := h.exists_closer _ _ rfl
  obtain ⟨front, back, rfl, rfl, hback⟩ := List.map_eq_append_iff.mp heq
  obtain ⟨closer, back, rfl, hcloser, -⟩ := List.map_eq_cons_iff.mp hback
  exact ⟨front, closer, back, rfl, hinner, hcloser⟩

theorem Delimiter.IsClosedIn.append {d : Delimiter} {behind : List Delimiter} (h : d.IsClosedIn behind)
    (more : List Delimiter) : d.IsClosedIn (behind ++ more) := by
  obtain ⟨inner, closer, rest, rfl, hinner, hcloser⟩ := h
  exact ⟨inner, closer, rest ++ more, by simp, hinner, hcloser⟩

/-! ## Openers that stay open -/

namespace LeftOpen

theorem nil : LeftOpen [] [] := .balanced .nil

theorem cons {rest openers : List Delimiter} {d : Delimiter} (hopen : d.opens = true)
    (hrest : LeftOpen rest openers) : LeftOpen (d :: rest) (d :: openers) := by
  have hgap : Balanced (([] : List Delimiter).map Delimiter.side) := .nil
  exact .opener hgap hopen hrest

theorem sublist {ds openers : List Delimiter} (h : LeftOpen ds openers) : openers.Sublist ds := by
  induction h with
  | balanced _ => exact List.nil_sublist _
  | opener _ _ _ ih => exact (ih.cons_cons _).trans (List.sublist_append_right _ _)

/-- From the start on, no more is closed than was opened. -/
theorem nesting_isPrefix {ds openers : List Delimiter} (h : LeftOpen ds openers) :
    ∀ u, u <+: ds → 0 ≤ nesting (u.map Delimiter.side) := by
  induction h with
  | balanced h =>
    intro u hu
    exact h.nesting_isPrefix _ (hu.map _)
  | @opener gap rest openers d hgap hopen _ ih =>
    rintro u ⟨v, hu⟩
    rcases List.append_eq_append_iff.mp hu with ⟨m, rfl, -⟩ | ⟨m, rfl, hm⟩
    · exact hgap.nesting_isPrefix _ ((List.prefix_append u m).map _)
    · rw [List.map_append, nesting_append, hgap.nesting_eq, Int.zero_add]
      cases m with
      | nil => exact Int.le_refl 0
      | cons x m =>
        obtain ⟨rfl, rfl⟩ := List.cons.inj hm
        have hrest := ih m (List.prefix_append _ _)
        rw [List.map_cons, nesting, Delimiter.side, hopen, if_pos rfl]
        omega

theorem not_isClosedIn {rest openers : List Delimiter} (h : LeftOpen rest openers) (d : Delimiter) :
    ¬ d.IsClosedIn rest := by
  rintro ⟨inner, closer, more, rfl, hinner, hcloser⟩
  have hpos := h.nesting_isPrefix (inner ++ [closer]) ⟨more, by simp⟩
  rw [List.map_append, nesting_append, hinner.nesting_eq, List.map_singleton, hcloser, nesting_closer] at hpos
  omega

/-- The openers between the balanced words are those that no closer closes. -/
theorem mem_iff {ds openers : List Delimiter} (h : LeftOpen ds openers) (hds : ds.Nodup)
    {before after : List Delimiter} {d : Delimiter} (heq : ds = before ++ d :: after) :
    d ∈ openers ↔ d.opens = true ∧ ¬ d.IsClosedIn after := by
  induction h generalizing before with
  | balanced h =>
    rw [heq] at h
    refine ⟨fun hmem => (List.not_mem_nil hmem).elim, fun ⟨hopen, hno⟩ => ?_⟩
    exact absurd (h.isClosedIn hopen) hno
  | @opener gap rest openers o hgap hopen hrest ih =>
    have hown : o ∈ o :: openers ↔ o.opens = true ∧ ¬ o.IsClosedIn rest :=
      iff_of_true List.mem_cons_self ⟨hopen, hrest.not_isClosedIn o⟩
    obtain ⟨hgapNodup, hback, hapart⟩ := List.nodup_append.mp hds
    obtain ⟨ho, hrestNodup⟩ := List.nodup_cons.mp hback
    rcases List.append_eq_append_iff.mp heq with ⟨m, rfl, hm⟩ | ⟨m, rfl, hm⟩
    · cases m with
      | nil =>
        obtain ⟨rfl, rfl⟩ := List.cons.inj hm
        exact hown
      | cons x m =>
        -- behind the first opener
        obtain ⟨rfl, rfl⟩ := List.cons.inj hm
        have hne : d ≠ o := by
          rintro rfl
          exact ho (List.mem_append_right _ List.mem_cons_self)
        rw [List.mem_cons, ← ih hrestNodup rfl]
        exact or_iff_right hne
    · cases m with
      | nil =>
        obtain ⟨rfl, rfl⟩ := List.cons.inj hm
        exact hown
      | cons x m =>
        -- in the balanced word before it
        obtain ⟨rfl, rfl⟩ := List.cons.inj hm
        refine iff_of_false (fun hmem => ?_) fun ⟨hd, hno⟩ => hno ((hgap.isClosedIn hd).append _)
        have hlater : d ∈ o :: rest := (hrest.sublist.cons_cons o).subset hmem
        exact hapart d (List.mem_append_right _ List.mem_cons_self) d hlater rfl

/-- The check has the openers on its stack at the end. -/
theorem checkFrom_eq {ds openers : List Delimiter} (h : LeftOpen ds openers) (stack rest : List Delimiter) :
    checkFrom stack (ds ++ rest) = checkFrom (openers.reverse ++ stack) rest := by
  induction h generalizing stack with
  | balanced h => exact checkFrom_append_of_balanced h stack rest rfl
  | @opener gap more openers d hgap hopen _ ih =>
    rw [List.append_assoc, checkFrom_append_of_balanced hgap stack _ rfl, List.cons_append,
      checkFrom_opener hopen, ih]
    simp

theorem concat_opener {ds openers : List Delimiter} (h : LeftOpen ds openers) {d : Delimiter}
    (hopen : d.opens = true) : LeftOpen (ds ++ [d]) (openers ++ [d]) := by
  induction h with
  | balanced h => exact .opener h hopen (.balanced .nil)
  | opener hgap hfirst _ ih =>
    rw [List.append_assoc, List.cons_append]
    exact .opener hgap hfirst ih

/-- A closer closes the last of the openers, with all that stands between the two. -/
theorem concat_closer {ds openers : List Delimiter} {o d : Delimiter} (h : LeftOpen ds (openers ++ [o]))
    (hclose : d.side = (o.bracket, false)) : LeftOpen (ds ++ [d]) openers := by
  generalize heq : openers ++ [o] = all at h
  induction h generalizing openers with
  | balanced _ => simp at heq
  | @opener gap rest later first hgap hopen hrest ih =>
    rw [List.append_assoc, List.cons_append]
    cases openers with
    | nil =>
      obtain ⟨rfl, rfl⟩ := List.cons.inj heq
      cases hrest with
      | balanced hrest =>
        refine .balanced ?_
        have hpair := hgap.append (hrest.enclosed o.bracket)
        simpa [Delimiter.side, hopen, ← hclose] using hpair
    | cons x openers =>
      obtain ⟨rfl, hlater⟩ := List.cons.inj heq
      exact .opener hgap hopen (ih hlater)

end LeftOpen

/-- Delimiters that can be completed to a balanced word are balanced words and openers between them. -/
theorem exists_leftOpen {ds : List Delimiter} (h : Completable (ds.map Delimiter.side)) :
    ∃ openers, LeftOpen ds openers := by
  induction ds using List.reverseRecOn with
  | nil => exact ⟨[], .balanced .nil⟩
  | append_singleton ds d ih =>
    have hfront : Completable (ds.map Delimiter.side) := by
      rw [List.map_append] at h
      exact h.of_append
    obtain ⟨openers, hopeners⟩ := ih hfront
    by_cases hopen : d.opens = true
    · exact ⟨openers ++ [d], hopeners.concat_opener hopen⟩
    · rw [Bool.not_eq_true] at hopen
      obtain ⟨rest, hrest⟩ := (completable_iff_checkFrom (List.forall_mem_nil _) (ds ++ [d])).mp h
      rw [List.append_assoc, List.singleton_append, hopeners.checkFrom_eq, List.append_nil] at hrest
      rcases List.eq_nil_or_concat openers with rfl | ⟨front, o, rfl⟩
      · rw [List.reverse_nil, checkFrom_stray hopen] at hrest
        cases hrest
      · rw [List.concat_eq_append] at hopeners hrest
        rw [List.reverse_append, List.reverse_singleton, List.singleton_append,
          checkFrom_closer hopen] at hrest
        split at hrest
        · rename_i hkind
          exact ⟨front, hopeners.concat_closer (by rw [Delimiter.side, hopen, hkind])⟩
        · cases hrest

/-- When no closer is refused, the delimiters can be completed. -/
theorem completable_of_not_deadEnd {ds : List Delimiter} (h : ∀ d, ¬ DeadEnd ds d) :
    Completable (ds.map Delimiter.side) := by
  refine (completable_iff_checkFrom (List.forall_mem_nil _) ds).mpr ?_
  cases hcheck : checkFrom [] ds with
  | ok _ => exact ⟨[], by rw [List.append_nil, hcheck]⟩
  | error fault =>
    refine completable_of_unclosed ?_ hcheck
    rw [← Bool.not_eq_false]
    intro hcloser
    exact h fault.culprit ((exists_culprit_iff_deadEnd ds _).mp ⟨fault, hcheck, hcloser, rfl⟩)

/-! ## The verdict on a document -/

/-- **Unclosed openers.** Let no closer of a document be stray or mismatched. The openers that no closer
closes are a part of its delimiters, in order. If there is none, the validator accepts the document. If there
are some, it reports the place of the last one, which is the place of the first just if there is no other. -/
theorem RouteValidator.delimiter_unclosed (document : String)
    (hclosers : ∀ d, ¬ DeadEnd (delimiters document.toList) d) :
    ∃ openers, openers.Sublist (delimiters document.toList) ∧
      (∀ before d after, delimiters document.toList = before ++ d :: after →
        (d ∈ openers ↔ d.opens = true ∧ ¬ d.IsClosedIn after)) ∧
      (openers = [] → RouteValidator.delimiter document = .ok ()) ∧
      ∀ first later, openers = first :: later → ∃ last, openers.getLast? = some last ∧
        RouteValidator.delimiter document =
          .error (.ofCause (.rejected last.line last.column (BalanceFault.unclosed last).detail)) ∧
        (last.line = first.line ∧ last.column = first.column ↔ later = []) := by
  obtain ⟨openers, hopeners⟩ := exists_leftOpen (completable_of_not_deadEnd hclosers)
  have hnodup := nodup_delimiters document.toList
  have hcheck : checkBalance document.toList = checkFrom openers.reverse [] := by
    have hall := hopeners.checkFrom_eq [] []
    rwa [List.append_nil, List.append_nil] at hall
  refine ⟨openers, hopeners.sublist, fun before d after => hopeners.mem_iff hnodup, ?_, ?_⟩
  · rintro rfl
    rw [RouteValidator.delimiter, hcheck]
    rfl
  · rintro first later rfl
    obtain ⟨front, last, hlast⟩ := (List.eq_nil_or_concat (first :: later)).resolve_left (by simp)
    rw [List.concat_eq_append] at hlast
    refine ⟨last, by rw [hlast, List.getLast?_concat], ?_, ?_⟩
    · rw [RouteValidator.delimiter, hcheck, hlast, List.reverse_append]
      rfl
    · have horder : (first :: later).Pairwise Delimiter.Before :=
        (delimiters_inOrder document.toList).sublist hopeners.sublist
      constructor
      · intro hplace
        cases front with
        | nil => exact (List.cons.inj hlast).2
        | cons x front =>
          obtain ⟨rfl, rfl⟩ := List.cons.inj hlast
          have hbefore := List.rel_of_pairwise_cons horder (List.mem_append_right front List.mem_cons_self)
          exact absurd ⟨hplace.1.symm, hplace.2.symm⟩ hbefore.ne
      · rintro rfl
        have hsame := (List.append_inj' ((List.nil_append _).trans hlast) rfl).2
        rw [List.singleton_inj.mp hsame]
        exact ⟨rfl, rfl⟩

/-- The group and the structure in it are never closed. The first one is the group, and the structure is
reported. -/
theorem inner_opener_reported :
    let group : Delimiter := ⟨.round, true, 1, 6⟩
    let body : Delimiter := ⟨.curly, true, 2, 4⟩
    (∀ d, ¬ DeadEnd (delimiters "type (\n\tA \x7b\n".toList) d) ∧
      delimiters "type (\n\tA \x7b\n".toList = [group, body] ∧ ¬ group.IsClosedIn [body] ∧
      RouteValidator.delimiter "type (\n\tA \x7b\n" =
        .error (.ofCause (.rejected body.line body.column (BalanceFault.unclosed body).detail)) ∧
      ¬ (body.line = group.line ∧ body.column = group.column) := by
  intro group body
  have hcut : delimiters "type (\n\tA \x7b\n".toList = [group, body] := by decide
  have hclosers : ∀ d, ¬ DeadEnd (delimiters "type (\n\tA \x7b\n".toList) d := by
    intro d hdead
    obtain ⟨fault, hfault, hcloser, -⟩ := (exists_culprit_iff_deadEnd _ d).mpr hdead
    rw [hcut] at hfault
    cases hfault
    cases hcloser
  obtain ⟨openers, hsublist, hmem, -, hreport⟩ := RouteValidator.delimiter_unclosed _ hclosers
  have hbody : body ∈ openers :=
    (hmem [group] body [] hcut).mpr ⟨rfl, LeftOpen.nil.not_isClosedIn body⟩
  have hgroup : ¬ group.IsClosedIn [body] := (LeftOpen.nil.cons rfl).not_isClosedIn group
  have hfirst : group ∈ openers := (hmem [] group [body] hcut).mpr ⟨rfl, hgroup⟩
  have hall : openers = [group, body] := by
    rw [hcut] at hsublist
    cases hsublist with
    | cons _ hlater => exact absurd (hlater.subset hfirst) (by decide)
    | cons_cons _ hlater =>
      have hmore : body ∈ _ := (List.mem_cons.mp hbody).resolve_left (by decide)
      cases hlater with
      | cons _ hnone => exact absurd (hnone.subset hmore) List.not_mem_nil
      | cons_cons _ hnone => rw [List.sublist_nil.mp hnone]
  obtain ⟨last, hlast, hverdict, hplace⟩ := hreport group [body] hall
  rw [hall] at hlast
  cases hlast
  exact ⟨hclosers, hcut, hgroup, hverdict, fun hsame => absurd (hplace.mp hsame) (by simp)⟩

end TableCodegen
