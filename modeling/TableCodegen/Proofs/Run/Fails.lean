import TableCodegen.Proofs.Run.Returns

/-!
# Runs that fail

A run stops at the first step that fails; what the steps before it have done stays done. Each lemma says which
steps of a run can be the failing one, and in which state the run ends then.

Results:

* `Run.fails_bind`, `Run.fails_mapM`: runs of many steps.
* `run_closing`, `fails_readTable`, `eq_of_fails_writeFile`: the runs of the library.
-/

namespace TableCodegen

namespace Run

/-- The run fails, and ends in a state. -/
def Fails {α : Type} (run : Run α) (before : RunState) (failure : Failure) (after : RunState) : Prop :=
  run.run before = (.error failure, after)

section Steps

variable {α β : Type} {before after : RunState} {failure : Failure}

theorem returns_or_fails (x : Run α) (before : RunState) :
    (∃ a after, Returns x before a after) ∨ ∃ failure after, Fails x before failure after := by
  rcases hrun : x.run before with ⟨failure | a, after⟩
  · exact Or.inr ⟨failure, after, hrun⟩
  · exact Or.inl ⟨a, after, hrun⟩

theorem not_fails_pure {a : α} : ¬ Fails (pure a) before failure after := by
  intro h
  cases h

theorem fails_bind {x : Run α} {f : α → Run β} :
    Fails (x >>= f) before failure after ↔ Fails x before failure after ∨
      ∃ a middle, Returns x before a middle ∧ Fails (f a) middle failure after := by
  have hbind : (x >>= f).run before = ExceptT.bindCont f (x.run before).1 (x.run before).2 := rfl
  unfold Fails Returns
  rw [hbind]
  rcases x.run before with ⟨cause | a, middle⟩
  · constructor
    · intro h
      cases h
      exact Or.inl rfl
    · rintro (h | ⟨a, state, h, -⟩)
      · cases h
        rfl
      · cases h
  · constructor
    · intro h
      exact Or.inr ⟨a, middle, rfl, h⟩
    · rintro (h | ⟨value, state, h, hrest⟩)
      · cases h
      · cases h
        exact hrest

theorem Returns.run_bind {x : Run α} {f : α → Run β} {a : α} {middle : RunState} (h : Returns x before a middle) :
    (x >>= f).run before = (f a).run middle := by
  show ExceptT.bindCont f (x.run before).1 (x.run before).2 = _
  rw [h]
  rfl

theorem Fails.run_bind {x : Run α} {f : α → Run β} (h : Fails x before failure after) :
    (x >>= f).run before = (.error failure, after) :=
  fails_bind.mpr (Or.inl h)

theorem fails_ofExcept {result : Except Failure α} :
    Fails (ofExcept result) before failure after ↔ result = .error failure ∧ before = after := by
  show (result, before) = (Except.error failure, after) ↔ _
  rw [Prod.mk.injEq]

theorem fails_inStep {step : String} {x : Run α} :
    Fails (inStep step x) before failure after ↔
      ∃ cause, Fails x before cause after ∧ cause.within step = failure := by
  unfold Fails inStep
  simp only [tryCatch, tryCatchThe, MonadExceptOf.tryCatch, ExceptT.tryCatch, ExceptT.mk, ExceptT.run, bind,
    StateT.bind]
  rcases x before with ⟨cause | a, middle⟩
  · show (Except.error (cause.within step), middle) = (Except.error failure, after) ↔ _
    constructor
    · intro h
      cases h
      exact ⟨cause, rfl, rfl⟩
    · rintro ⟨_, h, rfl⟩
      cases h
      rfl
  · constructor
    · intro h
      cases h
    · rintro ⟨_, h, -⟩
      cases h

/-- A step that is named leaves the same state. -/
theorem snd_run_inStep (step : String) (x : Run α) (before : RunState) :
    ((inStep step x).run before).2 = (x.run before).2 := by
  rcases returns_or_fails x before with ⟨a, after, h⟩ | ⟨failure, after, h⟩
  · have hrun : Returns (inStep step x) before a after := returns_inStep.mpr h
    rw [h, hrun]
  · have hrun : Fails (inStep step x) before (failure.within step) after := fails_inStep.mpr ⟨failure, h, rfl⟩
    rw [h, hrun]

theorem not_fails_get : ¬ Fails (get : Run RunState) before failure after := by
  intro h
  cases h

theorem not_fails_modify {f : RunState → RunState} : ¬ Fails (modify f : Run PUnit) before failure after := by
  intro h
  cases h

/-- A loop fails at the first entry of its list at which a step fails. -/
theorem fails_mapM {f : α → Run β} {list : List α} : Fails (list.mapM f) before failure after ↔
    ∃ done a rest results middle, list = done ++ a :: rest ∧
      Returns (done.mapM f) before results middle ∧ Fails (f a) middle failure after := by
  induction list generalizing before with
  | nil =>
    rw [List.mapM_nil]
    refine ⟨fun h => absurd h not_fails_pure, ?_⟩
    rintro ⟨done, a, rest, results, middle, hlist, -, -⟩
    cases done <;> cases hlist
  | cons first list ih =>
    rw [List.mapM_cons, fails_bind]
    constructor
    · rintro (h | ⟨b, middle, hfirst, h⟩)
      · exact ⟨[], first, list, [], before, rfl, returns_mapM_nil.mpr ⟨rfl, rfl⟩, h⟩
      · rcases fails_bind.mp h with h | ⟨results, state, -, h⟩
        · obtain ⟨done, a, rest, results, state, rfl, hdone, ha⟩ := ih.mp h
          exact ⟨first :: done, a, rest, b :: results, state, rfl,
            returns_mapM_cons.mpr ⟨b, middle, results, hfirst, hdone, rfl⟩, ha⟩
        · exact absurd h not_fails_pure
    · rintro ⟨done, a, rest, results, middle, hlist, hdone, ha⟩
      cases done with
      | nil =>
        obtain ⟨rfl, rfl⟩ := List.cons.inj hlist
        obtain ⟨-, rfl⟩ := returns_mapM_nil.mp hdone
        exact Or.inl ha
      | cons head done =>
        obtain ⟨rfl, rfl⟩ := List.cons.inj hlist
        obtain ⟨b, state, results, hfirst, hdone, -⟩ := returns_mapM_cons.mp hdone
        exact Or.inr ⟨b, state, hfirst, fails_bind.mpr (Or.inl (ih.mpr ⟨done, a, rest, results, middle, rfl,
          hdone, ha⟩))⟩

theorem fails_call {request : ReaderCall} {answer : List ReaderCall → Except Failure α} :
    Fails (call request answer) before failure after ↔
      answer before.calls = .error failure ∧ { before with calls := before.calls ++ [request] } = after := by
  have hrun : (call request answer).run before =
      (answer before.calls, { before with calls := before.calls ++ [request] }) := rfl
  unfold Fails
  rw [hrun, Prod.mk.injEq]

end Steps

end Run

/-! ## Runs of the library -/

section

open Run

variable {α : Type} {before after : RunState} {failure : Failure}

/-- What a failure to close a catalog is said to be. -/
def closeStep : String := "Failed to close catalog"

/-- A catalog is closed by one call, whatever comes of it. -/
theorem CatalogReader.run_closeRun (reader : CatalogReader) (state : RunState) :
    reader.closeRun.run state =
      (inStep closeStep (reader.close state.calls), { state with calls := state.calls ++ [.close] }) := by
  rcases returns_or_fails reader.closeRun state with ⟨_, after, h⟩ | ⟨failure, after, h⟩
  · obtain ⟨hanswer, rfl⟩ := (returns_inStep.trans returns_call).mp h
    rw [hanswer]
    exact h
  · obtain ⟨cause, hcall, rfl⟩ := fails_inStep.mp h
    obtain ⟨hanswer, rfl⟩ := fails_call.mp hcall
    rw [hanswer]
    exact h

/-- A run that closes the catalog behind it: the catalog is closed also when the run itself fails, and whatever
comes of that, the run's failure is the one that counts. -/
theorem run_closing (reader : CatalogReader) (body : Run α) (before : RunState) :
    (closing reader body).run before =
      ((body.run before).1.bind fun value =>
        (inStep closeStep (reader.close (body.run before).2.calls)).map fun _ => value,
      { (body.run before).2 with calls := (body.run before).2.calls ++ [.close] }) := by
  show closing reader body before = _
  unfold closing
  rcases body.run before with ⟨cause | value, middle⟩ <;> dsimp only <;> rw [reader.run_closeRun]
  · rfl
  · cases reader.close middle.calls <;> rfl

/-- What a failure to read a part of a table is said to be. -/
def readingStep (what name : String) : String :=
  "Failed to read " ++ what ++ " of table \x60" ++ name ++ "\x60"

/-- The calls that a catalog gets for a table after some other calls, when it refuses the last of them, and the
failure to read the table. -/
inductive CatalogReader.Refuses (reader : CatalogReader) (name : String) (calls : List ReaderCall) :
    List ReaderCall → Failure → Prop
  | comment {cause : Failure} (h : reader.comment calls name = .error cause) :
      reader.Refuses name calls [.comment name] (cause.within (readingStep "comment" name))
  | indexes {comment : String} {cause : Failure} (hcomment : reader.comment calls name = .ok comment)
      (h : reader.indexes (calls ++ [.comment name]) name = .error cause) :
      reader.Refuses name calls [.comment name, .indexes name] (cause.within (readingStep "indexes" name))
  | columns {comment : String} {indexRows : List IndexRow} {cause : Failure}
      (hcomment : reader.comment calls name = .ok comment)
      (hindexes : reader.indexes (calls ++ [.comment name]) name = .ok indexRows)
      (h : reader.columns (calls ++ [.comment name] ++ [.indexes name]) name = .error cause) :
      reader.Refuses name calls (readerCalls name) (cause.within (readingStep "columns" name))

theorem fails_readTable {reader : CatalogReader} {enableInitialism : Bool} {name : String} :
    Fails (readTable reader enableInitialism name) before failure after ↔
      ∃ made, reader.Refuses name before.calls made failure ∧
        { before with calls := before.calls ++ made } = after := by
  unfold readTable
  simp only [fails_bind, fails_inStep, fails_call, returns_inStep, returns_call]
  constructor
  · rintro (⟨_, ⟨h, rfl⟩, rfl⟩ | ⟨comment, _, ⟨hcomment, rfl⟩, ⟨_, ⟨h, rfl⟩, rfl⟩ |
      ⟨indexRows, _, ⟨hindexes, rfl⟩, ⟨_, ⟨h, rfl⟩, rfl⟩ | ⟨columnRows, _, -, h⟩⟩⟩)
    · exact ⟨_, .comment h, rfl⟩
    · exact ⟨_, .indexes hcomment h, by simp⟩
    · exact ⟨_, .columns hcomment hindexes h, by simp [readerCalls]⟩
    · exact absurd h not_fails_pure
  · rintro ⟨_, h | ⟨hcomment, h⟩ | ⟨hcomment, hindexes, h⟩, rfl⟩
    · exact Or.inl ⟨_, ⟨h, rfl⟩, rfl⟩
    · exact Or.inr ⟨_, _, ⟨hcomment, rfl⟩, Or.inl ⟨_, ⟨h, by simp⟩, rfl⟩⟩
    · exact Or.inr ⟨_, _, ⟨hcomment, rfl⟩, Or.inr ⟨_, _, ⟨hindexes, rfl⟩,
        Or.inl ⟨_, ⟨h, by simp [readerCalls]⟩, rfl⟩⟩⟩

/-- A file that cannot be written leaves nothing behind. -/
theorem eq_of_fails_writeFile {label path text : String}
    (h : Fails (writeFile label path text) before failure after) : after = before := by
  unfold writeFile setFile print at h
  simp only [fails_bind, fails_inStep, fails_ofExcept, returns_get, returns_ofExcept, not_fails_get,
    not_fails_modify, and_false, exists_false, or_false, false_or] at h
  obtain ⟨_, ⟨_, _, ⟨rfl, rfl⟩, -, rfl⟩, -⟩ := h
  rfl

end

end TableCodegen
