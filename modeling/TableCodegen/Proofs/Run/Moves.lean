import Mathlib.Order.Defs.Unbundled
import TableCodegen.Proofs.Run.Fails

/-!
# What every run keeps

Some things hold between the states before and after a run whether the run succeeds or fails: no file that was
written is taken back, and steps that do not speak to the catalog leave its calls as they are. Such a relation
is looked at step by step.

Results:

* `Run.Moves.bind`, `Run.Moves.mapM`, `Run.Moves.forIn`: runs of many steps.
* `grows_readTable`, `grows_writeFile`, `quiet_writeFile`: the runs of the library.
-/

namespace TableCodegen

/-! ## Specification -/

/-- No written file is taken back. -/
def RunState.Extended (before after : RunState) : Prop :=
  before.written <+: after.written

/-- No call was made to the catalog. -/
def RunState.SameCalls (before after : RunState) : Prop :=
  after.calls = before.calls

instance : IsPreorder RunState RunState.Extended where
  refl state := List.prefix_refl state.written
  trans _ _ _ := List.IsPrefix.trans

instance : IsPreorder RunState RunState.SameCalls where
  refl _ := rfl
  trans _ _ _ h h' := h'.trans h

namespace Run

variable {α β : Type}

/-- A relation between the states before and after a run, whether the run succeeds or fails. -/
def Moves (rel : RunState → RunState → Prop) (x : Run α) : Prop :=
  ∀ before, rel before (x.run before).2

/-- The run takes back no file that was written before it. -/
abbrev Grows (x : Run α) : Prop :=
  Moves RunState.Extended x

/-- The run does not speak to the catalog. -/
abbrev Quiet (x : Run α) : Prop :=
  Moves RunState.SameCalls x

/-! ## Steps -/

namespace Moves

variable {rel : RunState → RunState → Prop} [IsPreorder RunState rel]

theorem pure (a : α) : Moves rel (pure a) :=
  fun before => refl before

theorem ofExcept (result : Except Failure α) : Moves rel (ofExcept result) :=
  fun before => refl before

theorem get : Moves rel (get : Run RunState) :=
  fun before => refl before

omit [IsPreorder RunState rel] in
theorem modify {f : RunState → RunState} (h : ∀ state, rel state (f state)) : Moves rel (modify f : Run PUnit) :=
  h

omit [IsPreorder RunState rel] in
theorem call {request : ReaderCall} {answer : List ReaderCall → Except Failure α}
    (h : ∀ state : RunState, rel state { state with calls := state.calls ++ [request] }) :
    Moves rel (call request answer) :=
  h

omit [IsPreorder RunState rel] in
theorem inStep {x : Run α} (hx : Moves rel x) (step : String) : Moves rel (inStep step x) := by
  intro before
  rw [snd_run_inStep]
  exact hx before

theorem bind {x : Run α} {f : α → Run β} (hx : Moves rel x) (hf : ∀ a, Moves rel (f a)) :
    Moves rel (x >>= f) := by
  intro before
  have hfirst := hx before
  rcases returns_or_fails x before with ⟨a, middle, h⟩ | ⟨failure, middle, h⟩
  · rw [h] at hfirst
    rw [h.run_bind]
    exact Trans.trans hfirst (hf a middle)
  · rw [h] at hfirst
    rw [h.run_bind]
    exact hfirst

theorem mapM {list : List α} {f : α → Run β} (h : ∀ a, Moves rel (f a)) : Moves rel (list.mapM f) := by
  induction list with
  | nil => exact pure []
  | cons a list ih =>
    rw [List.mapM_cons]
    exact bind (h a) fun _ => bind ih fun _ => pure _

theorem forIn {list : List α} {f : α → Run Unit} (h : ∀ a, Moves rel (f a)) :
    Moves rel (forIn list PUnit.unit fun a _ => do
      f a
      return ForInStep.yield PUnit.unit) := by
  induction list with
  | nil => exact pure _
  | cons a list ih =>
    rw [List.forIn_cons]
    refine bind (bind (h a) fun _ => pure _) fun step => ?_
    cases step with
    | done => exact pure _
    | yield => exact ih

end Moves

end Run

/-! ## Runs of the library -/

open Run

theorem grows_readTable (reader : CatalogReader) (enableInitialism : Bool) (name : String) :
    Grows (readTable reader enableInitialism name) := by
  have hcall : ∀ {α : Type} (request : ReaderCall) (answer : List ReaderCall → Except Failure α),
      Grows (call request answer) := fun _ _ => .call fun _ => List.prefix_rfl
  unfold readTable
  exact .bind (.inStep (hcall _ _) _) fun _ => .bind (.inStep (hcall _ _) _) fun _ =>
    .bind (.inStep (hcall _ _) _) fun _ => .pure _

theorem moves_writeFile {rel : RunState → RunState → Prop} [IsPreorder RunState rel]
    (hset : ∀ (state : RunState) (files : FileTree) (file : WrittenFile),
      rel state { state with files := files, written := state.written ++ [file] })
    (hprint : ∀ (state : RunState) (line : String), rel state { state with printed := state.printed ++ [line] })
    (label path text : String) : Moves rel (writeFile label path text) := by
  have hfile : Moves rel (setFile path text) := by
    unfold setFile
    exact .bind .get fun _ => .bind (.ofExcept _) fun _ => .modify fun _ => hset _ _ _
  unfold writeFile print
  exact .bind (.inStep hfile _) fun _ => .modify fun _ => hprint _ _

theorem grows_writeFile (label path text : String) : Grows (writeFile label path text) :=
  moves_writeFile (fun _ _ _ => List.prefix_append _ _) (fun _ _ => List.prefix_rfl) label path text

theorem quiet_writeFile (label path text : String) : Quiet (writeFile label path text) :=
  moves_writeFile (fun _ _ _ => rfl) (fun _ _ => rfl) label path text

end TableCodegen
