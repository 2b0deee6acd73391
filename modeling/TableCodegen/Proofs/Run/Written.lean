import TableCodegen.Proofs.File.Target
import TableCodegen.Proofs.Run.Returns

/-!
# Written files

A run writes one text after another. When no two of them go to one place, all of them are there at the end.

Results:

* `RunState.Wrote.append`: files that are written one after the other.
* `FileTree.Written.entry?_eq`: texts that go to different places are all there at the end.
* `RunState.Effect.append`: what two runs do one after the other.
-/

namespace TableCodegen

/-! ## Specification -/

/-- A tree, and the tree after texts are written one after the other. -/
inductive FileTree.Written : FileTree → List WrittenFile → FileTree → Prop where
  | nil (tree : FileTree) : Written tree [] tree
  | cons {tree final : FileTree} {file : WrittenFile} {files : List WrittenFile}
      (hplace : tree.entry? (Path.target file.path) ≠ some .directory)
      (rest : Written (tree.set (Path.target file.path) (.file (some file.text))) files final) :
      Written tree (file :: files) final

/-- A state, and the state after files are written. -/
structure RunState.Wrote (before : RunState) (files : List WrittenFile) (after : RunState) : Prop where
  written : after.written = before.written ++ files
  tree : before.files.Written files after.files

/-- A file that a run generates: what it is called, where it goes and what it holds. -/
structure GeneratedFile where
  label : String
  path : String
  text : String
  deriving Repr, DecidableEq

/-- The file as it is written. -/
def GeneratedFile.written (file : GeneratedFile) : WrittenFile :=
  ⟨file.path, file.text⟩

/-- The line that says that the file was generated. -/
def GeneratedFile.line (file : GeneratedFile) : String :=
  writtenLine file.label file.path

/-- A state, and the state after calls to the catalog are made and files are generated. -/
structure RunState.Effect (before : RunState) (calls : List ReaderCall) (files : List GeneratedFile)
    (after : RunState) : Prop where
  calls : after.calls = before.calls ++ calls
  wrote : before.Wrote (files.map (·.written)) after
  printed : after.printed = before.printed ++ files.map (·.line)

/-! ## Trees -/

namespace FileTree.Written

theorem append {tree middle final : FileTree} {u v : List WrittenFile} (hu : Written tree u middle)
    (hv : Written middle v final) : Written tree (u ++ v) final := by
  induction hu with
  | nil tree => exact hv
  | cons hplace _ ih => exact .cons hplace (ih hv)

theorem of_append {tree final : FileTree} {u v : List WrittenFile} (h : Written tree (u ++ v) final) :
    ∃ middle, Written tree u middle ∧ Written middle v final := by
  induction u generalizing tree with
  | nil => exact ⟨tree, .nil tree, h⟩
  | cons file u ih =>
    rw [List.cons_append] at h
    cases h with
    | cons hplace rest =>
      obtain ⟨middle, hu, hv⟩ := ih rest
      exact ⟨middle, .cons hplace hu, hv⟩

theorem entry?_of_not_mem {tree final : FileTree} {files : List WrittenFile} (h : Written tree files final)
    {place : List String} (hplace : place ∉ files.map fun file => Path.target file.path) :
    final.entry? place = tree.entry? place := by
  induction h with
  | nil tree => rfl
  | cons _ _ ih =>
    rw [List.map_cons, List.mem_cons, not_or] at hplace
    rw [ih hplace.2, entry?_set_of_ne hplace.1]

/-- Texts that go to different places are all there at the end. -/
theorem entry?_eq {tree final : FileTree} {files : List WrittenFile} (h : Written tree files final)
    (hplaces : (files.map fun file => Path.target file.path).Nodup) :
    ∀ file ∈ files, final.entry? (Path.target file.path) = some (.file (some file.text)) := by
  induction h with
  | nil tree => exact List.forall_mem_nil _
  | cons hplace rest ih =>
    rw [List.map_cons, List.nodup_cons] at hplaces
    rw [List.forall_mem_cons]
    refine ⟨?_, ih hplaces.2⟩
    rw [rest.entry?_of_not_mem hplaces.1, entry?_set_self hplace]

end FileTree.Written

/-! ## States -/

namespace RunState.Wrote

theorem nil {before after : RunState} (hwritten : after.written = before.written)
    (hfiles : after.files = before.files) : before.Wrote [] after := by
  refine ⟨by rw [hwritten, List.append_nil], ?_⟩
  rw [hfiles]
  exact .nil _

theorem append {before middle after : RunState} {u v : List WrittenFile} (hu : before.Wrote u middle)
    (hv : middle.Wrote v after) : before.Wrote (u ++ v) after :=
  ⟨by rw [hv.written, hu.written, List.append_assoc], hu.tree.append hv.tree⟩

theorem writeFile {label path text : String} {before after : RunState}
    (h : Run.Returns (TableCodegen.writeFile label path text) before () after) :
    before.Wrote [⟨path, text⟩] after := by
  obtain ⟨files, hwrite, rfl⟩ := returns_writeFile.mp h
  obtain ⟨hplace, rfl⟩ := FileTree.write_eq_ok hwrite
  exact ⟨rfl, .cons hplace (.nil _)⟩

end RunState.Wrote

namespace RunState.Effect

theorem nil (state : RunState) : state.Effect [] [] state :=
  ⟨(List.append_nil _).symm, .nil rfl rfl, (List.append_nil _).symm⟩

/-- Calls to the catalog generate nothing. -/
theorem of_calls (state : RunState) (calls : List ReaderCall) :
    state.Effect calls [] { state with calls := state.calls ++ calls } :=
  ⟨rfl, .nil rfl rfl, (List.append_nil _).symm⟩

theorem append {before middle after : RunState} {c d : List ReaderCall} {u v : List GeneratedFile}
    (hu : before.Effect c u middle) (hv : middle.Effect d v after) : before.Effect (c ++ d) (u ++ v) after where
  calls := by rw [hv.calls, hu.calls, List.append_assoc]
  wrote := by
    rw [List.map_append]
    exact hu.wrote.append hv.wrote
  printed := by rw [hv.printed, hu.printed, List.map_append, List.append_assoc]

theorem writeFile {label path text : String} {before after : RunState}
    (h : Run.Returns (TableCodegen.writeFile label path text) before () after) :
    before.Effect [] [⟨label, path, text⟩] after := by
  refine ⟨?_, .writeFile h, ?_⟩ <;> obtain ⟨files, -, rfl⟩ := returns_writeFile.mp h
  · exact (List.append_nil _).symm
  · rfl

end RunState.Effect

end TableCodegen
