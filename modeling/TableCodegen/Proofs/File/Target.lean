import TableCodegen.File.Tree
import TableCodegen.Proofs.Text.Line

/-!
# Targets of paths

Two paths are the same file when their segments lead to the same place. What a text is written to is known
from the path alone; the tree only decides whether the text can be written.

Results:

* `Path.exists_last_join`: the last segment of a path below a directory.
* `FileTree.write_eq_ok`: what writing a text does.
* `FileTree.entry?_set_of_ne`, `FileTree.entry?_set_self`: what a text that is written changes.
-/

namespace TableCodegen

open TableCodegen.Text

/-! ## Specification -/

/-- Where segments lead from a directory, whatever is there. -/
def FileTree.reach (directory : List String) (segments : List String) : List String :=
  segments.foldl (fun directory segment =>
    if segment = ".." then FileTree.above directory else directory ++ [segment]) directory

/-- The place that a path leads to. -/
def Path.target (path : String) : List String :=
  FileTree.reach [] (Path.segments path)

/-! ## Last segments -/

/-- The last piece of a text, of which the separator is known to be not in the back. -/
theorem getLast?_splitFrom {sep : Char} {back : List Char} (h : sep ∉ back) (piece front : List Char) :
    ∃ middle, (splitFrom (· == sep) piece (front ++ back)).getLast? = some (middle ++ back) ∧
      (front.getLast? = some sep → middle = []) ∧ (front = [] → middle = piece.reverse) := by
  induction front generalizing piece with
  | nil =>
    refine ⟨piece.reverse, ?_, by simp, fun _ => rfl⟩
    rw [List.nil_append, splitFrom_of_not_mem h]
    rfl
  | cons c front ih =>
    rw [List.cons_append, splitFrom]
    by_cases hc : c = sep
    · subst hc
      obtain ⟨middle, hlast, hsep, hnil⟩ := ih []
      refine ⟨middle, ?_, fun hend => ?_, by simp⟩
      · rw [if_pos (by simp), List.getLast?_cons_of_ne_nil (splitFrom_ne_nil _ _ _)]
        exact hlast
      · rcases front with _ | ⟨d, front⟩
        · exact hnil rfl
        · exact hsep (by rwa [List.getLast?_cons_cons] at hend)
    · obtain ⟨middle, hlast, hsep, -⟩ := ih (c :: piece)
      refine ⟨middle, ?_, fun hend => ?_, by simp⟩
      · rw [if_neg (by simpa using hc)]
        exact hlast
      · rcases front with _ | ⟨d, front⟩
        · exact absurd (Option.some.inj hend) hc
        · exact hsep (by rwa [List.getLast?_cons_cons] at hend)

namespace Path

theorem getLast?_segments {path last : String} (h : (parts path).getLast? = some last) (hne : last ≠ "")
    (hdot : last ≠ ".") : (segments path).getLast? = some last := by
  obtain ⟨front, hfront⟩ := List.getLast?_eq_some_iff.mp h
  have hnames : (names path).getLast? = some last := by
    rw [names, hfront, List.filter_append]
    simp [hne, hdot]
  unfold segments
  split
  · rw [List.getLast?_cons, hnames]
    rfl
  · exact hnames

/-- A path below a directory ends with its name. -/
theorem toList_join (directory name : String) : ∃ front, (join directory name).toList = front ++ name.toList ∧
    (front = [] ∨ front.getLast? = some '/') := by
  unfold join
  split
  · exact ⟨[], rfl, Or.inl rfl⟩
  · split
    · rename_i hlast
      refine ⟨directory.toList, String.toList_append, Or.inr ?_⟩
      simpa using hlast
    · refine ⟨directory.toList ++ ['/'], ?_, Or.inr (by simp)⟩
      simp

/-- The last segment of a path below a directory ends like the name; it is the name if that has no slash. -/
theorem exists_last_join (directory : String) {name : String} {front back : List Char}
    (hname : name.toList = front ++ back) (hback : '/' ∉ back) {c : Char} (hend : back.getLast? = some c)
    (hdot : c ≠ '.') :
    ∃ middle, (segments (join directory name)).getLast? = some (String.ofList (middle ++ back)) ∧
      (front = [] → middle = []) := by
  obtain ⟨above, hjoin, habove⟩ := toList_join directory name
  obtain ⟨middle, hlast, hsep, hnil⟩ := getLast?_splitFrom hback [] (above ++ front)
  have hpart : (parts (join directory name)).getLast? = some (String.ofList (middle ++ back)) := by
    rw [parts, List.getLast?_map, hjoin, hname, ← List.append_assoc, splitBy, hlast]
    rfl
  have hchar : (middle ++ back).getLast? = some c := by
    rw [List.getLast?_append, hend]
    rfl
  have hother : ∀ other : String, other.toList.getLast? ≠ some c → String.ofList (middle ++ back) ≠ other := by
    rintro other hother rfl
    rw [String.toList_ofList] at hother
    exact hother hchar
  refine ⟨middle, getLast?_segments hpart (hother "" (by simp)) (hother "." ?_), fun hfront => ?_⟩
  · intro h
    exact hdot (Option.some.inj h).symm
  · rw [hfront, List.append_nil] at hsep hnil
    exact habove.elim hnil hsep

end Path

/-! ## Writing -/

namespace FileTree

theorem reach_concat {last : String} (hlast : last ≠ "..") (directory segments : List String) :
    reach directory (segments ++ [last]) = reach directory segments ++ [last] := by
  rw [reach, List.foldl_append]
  simp [hlast, reach]

theorem enter_eq_ok {tree : FileTree} {directory segments found : List String}
    (h : tree.enter directory segments = .ok found) : found = reach directory segments := by
  induction segments generalizing directory with
  | nil =>
    cases h
    rfl
  | cons segment segments ih =>
    unfold enter at h
    rw [reach, List.foldl_cons]
    split at h
    · rename_i hsegment
      rw [if_pos hsegment]
      exact ih h
    · rename_i hsegment
      rw [if_neg hsegment]
      split at h
      · exact ih h
      · cases h
      · cases h

theorem locate_eq_ok {tree : FileTree} {path name : String} {directory : List String}
    (h : tree.locate (Path.segments path) = .ok (directory, some name)) :
    directory ++ [name] = Path.target path := by
  unfold locate at h
  cases hfound : tree.enter [] (Path.segments path).dropLast with
  | error fault =>
    rw [hfound] at h
    cases h
  | ok found =>
    rw [hfound] at h
    cases hlast : (Path.segments path).getLast? with
    | none =>
      rw [hlast] at h
      cases h
    | some last =>
      rw [hlast] at h
      obtain ⟨hdirectory, hname⟩ := Prod.mk.inj (Except.ok.inj h)
      split at hname
      · cases hname
      · rename_i hup
        obtain rfl := Option.some.inj hname
        have hsegments := List.dropLast_append_getLast? _ hlast
        rw [Path.target, ← hsegments, reach_concat hup, ← hdirectory, enter_eq_ok hfound]

/-- The text of a file can be set if no directory is in its place. -/
def settable (tree : FileTree) (place : List String) (path : String) : Bool :=
  tree.entry? place != some .directory && !Path.endsOpen path

theorem write_of_locate {tree : FileTree} {path name : String} {directory : List String}
    (hpath : path.isEmpty = false) (hfound : tree.locate (Path.segments path) = .ok (directory, some name))
    (text : String) (files : FileTree) :
    tree.write path text = .ok files ↔ tree.settable (directory ++ [name]) path = true ∧
      files = tree.set (directory ++ [name]) (.file (some text)) := by
  have hne : ¬ path.isEmpty = true := by simp [hpath]
  unfold write settable
  rw [if_neg hne, hfound]
  simp only [bind, Except.bind]
  have hmade : ∀ made : FileTree, (Except.ok made : Except FileFault FileTree) = .ok files ↔
      true = true ∧ files = made := by
    intro made
    rw [Except.ok.injEq, eq_self, true_and, eq_comm]
  have hrefused : ∀ (fault : FileFault) (made : FileTree),
      (Except.error fault : Except FileFault FileTree) = .ok files ↔ false = true ∧ files = made := by
    intro fault made
    constructor
    · intro h
      cases h
    · rintro ⟨h, -⟩
      cases h
  rcases tree.entry? (directory ++ [name]) with _ | _ | other <;> cases Path.endsOpen path
  · exact hmade _
  · exact hrefused _ _
  · exact hrefused _ _
  · exact hrefused _ _
  · exact hmade _
  · exact hrefused _ _

/-- A text is written to the place that its path leads to, which is no directory. -/
theorem write_eq_ok {tree files : FileTree} {path text : String} (h : tree.write path text = .ok files) :
    tree.entry? (Path.target path) ≠ some .directory ∧
      files = tree.set (Path.target path) (.file (some text)) := by
  have hpath : path.isEmpty = false := by
    by_contra hempty
    unfold write at h
    rw [if_pos (by simpa using hempty)] at h
    cases h
  cases hfound : tree.locate (Path.segments path) with
  | error fault =>
    unfold write at h
    rw [if_neg (by simp [hpath]), hfound] at h
    cases h
  | ok found =>
    obtain ⟨directory, _ | name⟩ := found
    · unfold write at h
      rw [if_neg (by simp [hpath]), hfound] at h
      cases h
    · rw [write_of_locate hpath hfound, locate_eq_ok hfound, settable, Bool.and_eq_true, bne_iff_ne] at h
      exact ⟨h.1.1, h.2⟩

/-! ## Entries -/

theorem lookup_filter_ne {keys key : List String} (h : key ≠ keys) (entries : List (List String × FileEntry)) :
    (entries.filter (·.1 != keys)).lookup key = entries.lookup key := by
  induction entries with
  | nil => rfl
  | cons entry entries ih =>
    by_cases hentry : entry.1 = keys
    · have hother : (key == entry.1) = false := by simp [hentry, h]
      rw [List.filter_cons_of_neg (by simp [hentry]), ih, List.lookup_cons, hother]
    · rw [List.filter_cons_of_pos (by simp [hentry]), List.lookup_cons, List.lookup_cons, ih]

theorem entry?_set_of_ne {tree : FileTree} {place other : List String} (h : other ≠ place) (entry : FileEntry) :
    FileTree.entry? (tree.set place entry) other = tree.entry? other := by
  have hother : (other == place) = false := by simp [h]
  unfold entry? set
  rw [List.lookup_cons, hother, lookup_filter_ne h]

theorem entry?_set_self {tree : FileTree} {place : List String} (h : tree.entry? place ≠ some .directory)
    (entry : FileEntry) : FileTree.entry? (tree.set place entry) place = some entry := by
  have hgiven : ¬ isGiven place = true := by
    intro hgiven
    unfold entry? at h
    exact h (if_pos hgiven)
  unfold entry? set
  rw [if_neg hgiven, List.lookup_cons]
  simp

end FileTree

end TableCodegen
