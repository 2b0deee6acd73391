import TableCodegen.Entity
import TableCodegen.Proofs.Naming.CapitalWords
import TableCodegen.Proofs.Text.Mark
import TableCodegen.Proofs.Text.Word

/-!
# Characters of derived names

The names in a document are derived from those of a catalog and of the settings: words get capitals or small
letters, underscores go, endings of plurals come. None of this brings up a mark: brackets, quotes, slashes
and line breaks in a derived name stand in the name that it is derived from.

Results:

* `mem_of_mem_exportedName`, `mem_of_mem_lowerCamelName`, `mem_of_mem_lowerCase`, `mem_of_mem_pluralName`: marks
  of a derived name.
-/

namespace TableCodegen

namespace Naming

open TableCodegen.Text TableCodegen.Text.Unicode

variable {d : Char} (hd : isMark d = true)

include hd

/-! ## Exported names -/

theorem mem_of_mem_titleChars {cs : List Char} (h : d ∈ titleChars cs) : d ∈ cs := by
  cases cs with
  | nil => exact h
  | cons c rest =>
    rcases List.mem_append.mp h with h | h
    · exact eq_of_mem_upper hd h ▸ List.mem_cons_self
    · obtain ⟨e, he, hmem⟩ := List.mem_flatMap.mp h
      rw [eq_of_mem_lower hd hmem]
      exact List.mem_cons_of_mem c he

theorem mem_of_mem_exportedName {enableInitialism : Bool} {raw : String}
    (h : d ∈ (exportedName enableInitialism raw).toList) : d ∈ raw.toList := by
  rw [exportedName, String.toList_ofList] at h
  obtain ⟨segment, hsegment, hmem⟩ := List.mem_flatMap.mp h
  refine (mem_of_mem_runs hsegment ?_).1
  unfold exportedSegment at hmem
  split at hmem
  · exact mem_of_mem_upperText hd hmem
  · exact mem_of_mem_titleChars hd hmem

/-! ## Camel case -/

theorem mem_of_mem_lowerCamelWords {ws : List (List Char)} (h : d ∈ lowerCamelWords ws) : ∃ w ∈ ws, d ∈ w := by
  have hsmall : ∀ w ∈ ws, d ∈ lowerText w → ∃ w ∈ ws, d ∈ w :=
    fun w hw h => ⟨w, hw, mem_of_mem_lowerText hd h⟩
  have hrest : ∀ {rest : List (List Char)}, rest <:+ ws → d ∈ rest.flatten → ∃ w ∈ ws, d ∈ w := by
    intro rest hsuffix h
    obtain ⟨w, hw, hmem⟩ := List.mem_flatten.mp h
    exact ⟨w, hsuffix.subset hw, hmem⟩
  have hdrop : ws.dropWhile isSingle <:+ ws := List.dropWhile_suffix isSingle
  unfold lowerCamelWords at h
  split at h
  · cases h
  · rename_i w rest _ heq
    rw [heq] at hdrop
    rcases List.mem_append.mp h with h | h
    · exact hsmall w (hdrop.subset List.mem_cons_self) h
    · exact hrest ((List.suffix_cons w rest).trans hdrop) h
  · rcases List.mem_append.mp h with h | h
    · obtain ⟨w, hw, hmem⟩ := List.mem_flatMap.mp h
      exact hsmall w ((List.takeWhile_sublist isSingle).subset hw) hmem
    · exact hrest hdrop h

theorem mem_of_mem_lowerCamelName {name : String} (h : d ∈ (lowerCamelName name).toList) : d ∈ name.toList := by
  rw [lowerCamelName, String.toList_ofList] at h
  obtain ⟨w, hw, hmem⟩ := mem_of_mem_lowerCamelWords hd h
  exact mem_of_mem_capitalWords hw hmem

/-! ## Plurals -/

omit hd in
theorem mem_of_mem_dropPlaceholders {cs : List Char} (h : d ∈ dropPlaceholders cs) : d ∈ cs := by
  induction cs using dropPlaceholders.induct with
  | case1 => exact h
  | case2 => cases h
  | case3 c rest ih => exact List.mem_cons_of_mem _ (List.mem_cons_of_mem _ (ih h))
  | case4 c rest hone hmore ih =>
    rw [dropPlaceholders.eq_4 c rest hone hmore] at h
    rcases List.mem_cons.mp h with rfl | h
    · exact List.mem_cons_self
    · exact List.mem_cons_of_mem c (ih h)

theorem mem_of_mem_matchCase {word written : List Char} (h : d ∈ matchCase word written) : d ∈ written := by
  unfold matchCase at h
  split at h
  · exact mem_of_mem_lowerText hd h
  · split at h
    · exact mem_of_mem_upperText hd h
    · split at h
      · split at h
        · exact h
        · rcases List.mem_append.mp h with h | h
          · exact eq_of_mem_lower hd h ▸ List.mem_cons_self
          · exact List.mem_cons_of_mem _ h
      · exact h

omit hd in
/-- The two parts that a match cuts a reversed word into. -/
theorem of_matchEnd {classes : List LetterClass} {reversed kept front : List Char}
    (h : matchEnd classes reversed = some (kept, front)) : reversed = kept.reverse ++ front := by
  have hgo : ∀ (classes : List LetterClass) (rest matched : List Char),
      matchEnd.go classes rest matched = some (kept, front) → matched.reverse ++ rest = kept.reverse ++ front := by
    intro classes
    induction classes with
    | nil =>
      intro rest matched h
      rw [matchEnd.go] at h
      cases h
      rfl
    | cons cls more ih =>
      intro rest matched h
      cases rest with
      | nil => cases h
      | cons c rest =>
        rw [matchEnd.go] at h
        split at h
        · have := ih rest (c :: matched) h
          simpa using this
        · cases h
  exact hgo classes.reverse reversed [] h

theorem mem_of_mem_pluralOf {rule : EndingRule} (hadded : d ∉ rule.added.toList) {word image : List Char}
    (himage : rule.pluralOf? word = some image) (h : d ∈ image) : d ∈ word := by
  obtain ⟨⟨stem, ending⟩, -, hone⟩ := List.exists_of_findSome?_eq_some himage
  simp only [Option.bind_eq_bind, Option.bind_eq_some_iff, Prod.exists] at hone
  obtain ⟨dropped, before, hending, kept, front, hstem, hborder⟩ := hone
  split at hborder
  · cases hborder
  · cases hborder
    have hword : word.reverse = dropped.reverse ++ (kept.reverse ++ front) := by
      rw [of_matchEnd hending, of_matchEnd hstem]
    have hsub : ∀ c, c ∈ kept ∨ c ∈ front → c ∈ word := by
      intro c hc
      rw [← List.mem_reverse, hword]
      simp only [List.mem_append, List.mem_reverse]
      exact Or.inr hc
    rcases List.mem_append.mp (mem_of_mem_dropPlaceholders h) with h | h
    · exact hsub d (Or.inr (List.mem_reverse.mp h))
    · rcases List.mem_append.mp (mem_of_mem_matchCase hd h) with h | h
      · exact hsub d (Or.inl h)
      · exact absurd h hadded

omit hd in
theorem isMark_of_mem_irregularWords :
    ∀ entry ∈ irregularWords, entry.2.toList.all (fun c => !isMark c) = true := by decide +kernel

omit hd in
theorem isMark_of_mem_endingRules :
    ∀ added ∈ endingRules.map (·.added), added.toList.all (fun c => !isMark c) = true := by decide +kernel

omit hd in
theorem not_mem_of_all {cs : List Char} (hd : isMark d = true) (h : cs.all (fun c => !isMark c) = true) :
    d ∉ cs := by
  intro hmem
  have := List.all_eq_true.mp h d hmem
  rw [hd] at this
  cases this

theorem mem_of_mem_plural {word : String} (h : d ∈ (plural word).toList) : d ∈ word.toList := by
  unfold plural at h
  simp only at h
  split at h
  · rename_i hirregular
    obtain ⟨entry, hentry, hkey⟩ := List.any_eq_true.mp hirregular
    rw [← beq_iff_eq.mp hkey, String.toList_ofList] at h
    exact absurd (mem_of_mem_matchCase hd h) (not_mem_of_all hd (isMark_of_mem_irregularWords entry hentry))
  · split at h
    · rename_i image hlookup
      obtain ⟨before, after, heq, -⟩ := List.lookup_eq_some_iff.mp hlookup
      rw [String.toList_ofList] at h
      refine absurd (mem_of_mem_matchCase hd h) (not_mem_of_all hd ?_)
      refine isMark_of_mem_irregularWords (String.ofList (lowerText word.toList), image) ?_
      rw [heq]
      exact List.mem_append_right before List.mem_cons_self
    · split at h
      · exact h
      · split at h
        · rename_i image hfind
          obtain ⟨rule, hrule, himage⟩ := List.exists_of_findSome?_eq_some hfind
          rw [String.toList_ofList] at h
          refine mem_of_mem_pluralOf hd (not_mem_of_all hd ?_) himage h
          exact isMark_of_mem_endingRules _ (List.mem_map_of_mem (List.mem_reverse.mp hrule))
        · exact h

theorem mem_of_mem_pluralName {name : String} (h : d ∈ (pluralName name).toList) : d ∈ name.toList := by
  unfold pluralName at h
  split at h
  · cases h
  · split at h
    · rw [String.toList_append] at h
      refine (List.mem_append.mp h).resolve_right fun h => ?_
      rw [List.mem_singleton.mp h] at hd
      exact absurd hd (by decide)
    · exact mem_of_mem_plural hd h

end Naming

theorem mem_of_mem_lowerCase {d : Char} (hd : Text.Unicode.isMark d = true) {text : String}
    (h : d ∈ (lowerCase text).toList) : d ∈ text.toList := by
  rw [lowerCase, String.toList_ofList] at h
  exact Text.Unicode.mem_of_mem_lowerText hd h

end TableCodegen
