import TableCodegen.Naming.Initialism
import TableCodegen.Proofs.Naming.CapitalWords

/-!
# Names with their initialisms in capitals

Initialisms are replaced word by word, and words are found at capitals. An initialism in capitals is cut into other
words than the word that it was made from: `UTF8` is `U`, `T` and `F8`. None of these is an initialism in title case, so
that one pass leaves nothing for a second one. All of this holds for letters of any script: `Xß` has the capital form
`XSS`, which is an initialism.

Results:

* `upperText_replaceInitialismsChars`: replacement only changes case.
* `hasNoTitleInitialism_replaceInitialismsChars`: no initialism in title case is left.
* `replaceInitialisms_settles`: a name is settled after one pass, and settled names are those that a pass keeps.
-/

namespace TableCodegen.Naming

open TableCodegen.Text TableCodegen.Text.Unicode

/-! ## Specification -/

/-- The word is an initialism in title case. -/
def IsTitleInitialism (word : List Char) : Prop :=
  isTitleCase word = true ∧ isInitialismChars word = true

instance (word : List Char) : Decidable (IsTitleInitialism word) :=
  inferInstanceAs (Decidable (_ ∧ _))

/-- No word of the identifier is an initialism in title case. -/
def HasNoTitleInitialism (cs : List Char) : Prop :=
  ∀ w ∈ capitalWords cs, ¬ IsTitleInitialism w

/-! ## Initialisms in capitals -/

theorem upperText_of_mem_initialisms : ∀ word ∈ initialisms, upperText word.toList = word.toList := by
  decide +kernel

theorem head_of_mem_initialisms :
    ∀ word ∈ initialisms, word.toList.head?.any Unicode.isUpper = true := by decide +kernel

/-- An initialism in capitals is cut into letters, with digits behind them, that are no initialisms. -/
theorem hasNoTitleInitialism_of_mem_initialisms : ∀ word ∈ initialisms, HasNoTitleInitialism word.toList := by
  unfold HasNoTitleInitialism
  decide +kernel

/-- Either the word is kept, or it is an initialism in title case and becomes that initialism. -/
theorem replaceWord_cases (word : List Char) :
    (¬ IsTitleInitialism word ∧ replaceWord word = word) ∨
      ∃ initialism ∈ initialisms, upperText word = initialism.toList ∧ replaceWord word = initialism.toList := by
  by_cases h : IsTitleInitialism word
  · obtain ⟨initialism, hmem, heq⟩ := List.any_eq_true.mp h.2
    have hupper : initialism.toList = upperText word := beq_iff_eq.mp heq
    refine .inr ⟨initialism, hmem, hupper.symm, ?_⟩
    rw [replaceWord, h.1, h.2, hupper]
    rfl
  · refine .inl ⟨h, if_neg ?_⟩
    rwa [Bool.and_eq_true]

theorem upperText_replaceWord (word : List Char) : upperText (replaceWord word) = upperText word := by
  obtain ⟨-, hkept⟩ | ⟨initialism, hmem, hupper, hreplaced⟩ := replaceWord_cases word
  · rw [hkept]
  · rw [hreplaced, hupper, upperText_of_mem_initialisms initialism hmem]

/-- Replacement only changes case. -/
theorem upperText_replaceInitialismsChars (cs : List Char) :
    upperText (replaceInitialismsChars cs) = upperText cs := by
  have hflatten : upperText (capitalWords cs).flatten = (capitalWords cs).flatMap upperText := by
    rw [← List.flatMap_id, upperText, List.flatMap_assoc]
    rfl
  calc upperText (replaceInitialismsChars cs)
      = (capitalWords cs).flatMap fun word => upperText (replaceWord word) := List.flatMap_assoc
    _ = (capitalWords cs).flatMap upperText := List.flatMap_congr fun word _ => upperText_replaceWord word
    _ = upperText cs := by rw [← hflatten, flatten_capitalWords]

/-! ## Settled names -/

/-- A word of an identifier goes on starting with a capital. -/
theorem any_head_replaceWord {word : List Char} (h : word.head?.any Unicode.isUpper = true) :
    (replaceWord word).head?.any Unicode.isUpper = true := by
  obtain ⟨-, hkept⟩ | ⟨initialism, hmem, -, hreplaced⟩ := replaceWord_cases word
  · rwa [hkept]
  · rw [hreplaced]
    exact head_of_mem_initialisms initialism hmem

theorem hasNoTitleInitialism_replaceWord {word : List Char} (h : capitalWords word = [word]) :
    HasNoTitleInitialism (replaceWord word) := by
  obtain ⟨hno, hkept⟩ | ⟨initialism, hmem, -, hreplaced⟩ := replaceWord_cases word
  · rw [hkept, HasNoTitleInitialism, h]
    exact List.forall_mem_singleton.mpr hno
  · rw [hreplaced]
    exact hasNoTitleInitialism_of_mem_initialisms initialism hmem

/-- No initialism in title case is left. -/
theorem hasNoTitleInitialism_replaceInitialismsChars (cs : List Char) :
    HasNoTitleInitialism (replaceInitialismsChars cs) := by
  have hcut := cutAtCapitals_capitalWords cs
  have hheads : ∀ piece ∈ ((capitalWords cs).map replaceWord).tail, piece.head?.any Unicode.isUpper = true := by
    rw [← List.map_tail]
    exact List.forall_mem_map.mpr fun w hw => any_head_replaceWord (hcut.any_head w hw)
  intro w hw
  rw [replaceInitialismsChars, List.flatMap_def, capitalWords_flatten hheads, List.mem_flatMap] at hw
  obtain ⟨piece, hpiece, hmem⟩ := hw
  obtain ⟨word, hword, rfl⟩ := List.mem_map.mp hpiece
  exact hasNoTitleInitialism_replaceWord (hcut.capitalWords_of_mem hword) w hmem

theorem replaceInitialismsChars_eq_self_iff {cs : List Char} :
    replaceInitialismsChars cs = cs ↔ HasNoTitleInitialism cs := by
  constructor
  · intro h
    rw [← h]
    exact hasNoTitleInitialism_replaceInitialismsChars cs
  · intro h
    have hkept : ∀ w ∈ capitalWords cs, replaceWord w = w := by
      intro w hw
      refine if_neg ?_
      rw [Bool.and_eq_true]
      exact h w hw
    rw [replaceInitialismsChars, List.flatMap_def, List.map_congr_left hkept, List.map_id', flatten_capitalWords]

/-! ## Result -/

/-- The words of a name are not empty and make it up: they are the one way to cut it before each of its capitals.
Putting the initialisms among them into capitals changes nothing but case, and settles the name: the names that a pass
keeps are those without an initialism in title case, and the result of a pass is one of them. -/
theorem replaceInitialisms_settles (name : String) :
    (capitalWords name.toList).flatten = name.toList ∧
    (∀ word ∈ capitalWords name.toList, word ≠ []) ∧
    (∀ words, capitalWords name.toList = words ↔ CutAtCapitals name.toList words) ∧
    upperText (replaceInitialisms name).toList = upperText name.toList ∧
    (replaceInitialisms name = name ↔ HasNoTitleInitialism name.toList) ∧
    replaceInitialisms (replaceInitialisms name) = replaceInitialisms name := by
  have hchars : ∀ text : String, (replaceInitialisms text).toList = replaceInitialismsChars text.toList :=
    fun text => String.toList_ofList
  have hself : ∀ text : String, replaceInitialisms text = text ↔ HasNoTitleInitialism text.toList := by
    intro text
    rw [← replaceInitialismsChars_eq_self_iff, ← hchars, String.toList_inj]
  have hcut := cutAtCapitals_capitalWords name.toList
  refine ⟨hcut.flatten_eq, hcut.ne_nil, fun words => capitalWords_eq_iff, ?_, hself name, (hself _).mpr ?_⟩
  · rw [hchars, upperText_replaceInitialismsChars]
  · rw [hchars]
    exact hasNoTitleInitialism_replaceInitialismsChars name.toList

/-- Digits stay with the letter before them, and a letter can have two capitals. -/
example : replaceInitialisms "Utf8Xß" = "UTF8XSS" ∧
    capitalWords "UTF8XSS".toList = [['U'], ['T'], ['F', '8'], ['X'], ['S'], ['S']] := by decide +kernel

end TableCodegen.Naming
