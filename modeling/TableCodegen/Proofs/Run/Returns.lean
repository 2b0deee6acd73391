import TableCodegen.Run

/-!
# Runs that succeed

What a run that gives a value has done, step by step. Each lemma takes one step of a run apart; the steps of
a run before it fails are not looked at.

Results:

* `Run.returns_bind`: a run of two steps.
* `returns_closing`, `returns_readTable`, `returns_writeFile`: the runs of the library.
-/

namespace TableCodegen

namespace Run

/-- The run gives a value, and ends in a state. -/
def Returns {α : Type} (run : Run α) (before : RunState) (value : α) (after : RunState) : Prop :=
  run.run before = (.ok value, after)

section Steps

variable {α β : Type} {before after : RunState}

theorem returns_pure {a b : α} : Returns (pure a) before b after ↔ a = b ∧ before = after := by
  show (Except.ok a, before) = (Except.ok b, after) ↔ _
  rw [Prod.mk.injEq, Except.ok.injEq]

theorem returns_bind {x : Run α} {f : α → Run β} {b : β} :
    Returns (x >>= f) before b after ↔ ∃ a middle, Returns x before a middle ∧ Returns (f a) middle b after := by
  have hbind : (x >>= f).run before = ExceptT.bindCont f (x.run before).1 (x.run before).2 := rfl
  unfold Returns
  rw [hbind]
  rcases x.run before with ⟨_ | a, middle⟩
  · constructor
    · intro h
      cases h
    · rintro ⟨a, middle, h, -⟩
      cases h
  · constructor
    · intro h
      exact ⟨a, middle, rfl, h⟩
    · rintro ⟨a, middle, h, hrest⟩
      cases h
      exact hrest

theorem returns_ofExcept {result : Except Failure α} {a : α} :
    Returns (ofExcept result) before a after ↔ result = .ok a ∧ before = after := by
  show (result, before) = (Except.ok a, after) ↔ _
  rw [Prod.mk.injEq]

theorem returns_inStep {step : String} {x : Run α} {a : α} :
    Returns (inStep step x) before a after ↔ Returns x before a after := by
  unfold Returns inStep
  simp only [tryCatch, tryCatchThe, MonadExceptOf.tryCatch, ExceptT.tryCatch, ExceptT.mk, ExceptT.run, bind,
    StateT.bind]
  rcases x before with ⟨failure | a, middle⟩
  · constructor <;> intro h <;> cases h
  · exact Iff.rfl

theorem returns_get {state : RunState} :
    Returns (get : Run RunState) before state after ↔ before = state ∧ before = after := by
  show (Except.ok before, before) = (Except.ok state, after) ↔ _
  rw [Prod.mk.injEq, Except.ok.injEq]

theorem returns_modify {f : RunState → RunState} {u : PUnit} :
    Returns (modify f : Run PUnit) before u after ↔ f before = after := by
  show (Except.ok PUnit.unit, f before) = (Except.ok u, after) ↔ _
  rw [Prod.mk.injEq, Except.ok.injEq]
  exact ⟨fun h => h.2, fun h => ⟨rfl, h⟩⟩

theorem returns_mapM_nil {f : α → Run β} {results : List β} :
    Returns ([].mapM f) before results after ↔ [] = results ∧ before = after := by
  rw [List.mapM_nil, returns_pure]

theorem returns_mapM_cons {f : α → Run β} {a : α} {list : List α} {results : List β} :
    Returns ((a :: list).mapM f) before results after ↔ ∃ result middle rest,
      Returns (f a) before result middle ∧ Returns (list.mapM f) middle rest after ∧ result :: rest = results := by
  simp only [List.mapM_cons, returns_bind, returns_pure]
  constructor
  · rintro ⟨result, middle, hresult, rest, state, hrest, heq, rfl⟩
    exact ⟨result, middle, rest, hresult, hrest, heq⟩
  · rintro ⟨result, middle, rest, hresult, hrest, heq⟩
    exact ⟨result, middle, hresult, rest, after, hrest, heq, rfl⟩

/-- A loop that takes the same step for each entry of a list. -/
theorem returns_forIn_nil {f : α → Run Unit} {u : PUnit} :
    Returns (forIn [] PUnit.unit fun a _ => do
      f a
      return ForInStep.yield PUnit.unit) before u after ↔ before = after := by
  rw [List.forIn_nil, returns_pure]
  exact ⟨fun h => h.2, fun h => ⟨rfl, h⟩⟩

theorem returns_forIn_cons {f : α → Run Unit} {a : α} {list : List α} {u : PUnit} :
    Returns (forIn (a :: list) PUnit.unit fun a _ => do
      f a
      return ForInStep.yield PUnit.unit) before u after ↔
      ∃ middle, Returns (f a) before () middle ∧
        Returns (forIn list PUnit.unit fun a _ => do
          f a
          return ForInStep.yield PUnit.unit) middle u after := by
  rw [List.forIn_cons]
  simp only [returns_bind, returns_pure]
  constructor
  · rintro ⟨_, middle, ⟨_, _, hstep, rfl, rfl⟩, hrest⟩
    exact ⟨_, hstep, hrest⟩
  · rintro ⟨middle, hstep, hrest⟩
    exact ⟨_, middle, ⟨(), middle, hstep, rfl, rfl⟩, hrest⟩

theorem returns_call {request : ReaderCall} {answer : List ReaderCall → Except Failure α} {a : α} :
    Returns (call request answer) before a after ↔
      answer before.calls = .ok a ∧ { before with calls := before.calls ++ [request] } = after := by
  simp only [call, returns_bind, returns_get, returns_modify, returns_ofExcept]
  constructor
  · rintro ⟨state, middle, ⟨rfl, rfl⟩, -, state, rfl, hanswer, rfl⟩
    exact ⟨hanswer, rfl⟩
  · rintro ⟨hanswer, rfl⟩
    exact ⟨before, before, ⟨rfl, rfl⟩, (), _, rfl, hanswer, rfl⟩

end Steps

end Run

/-! ## Runs of the library -/

section

open Run

variable {α : Type} {before after : RunState}

/-- A run that closes the catalog behind it. -/
theorem returns_closing {reader : CatalogReader} {body : Run α} {a : α} :
    Returns (closing reader body) before a after ↔ ∃ middle, Returns body before a middle ∧
      reader.close middle.calls = .ok () ∧ { middle with calls := middle.calls ++ [.close] } = after := by
  have hclose : ∀ middle, Returns reader.closeRun middle () after ↔
      reader.close middle.calls = .ok () ∧ { middle with calls := middle.calls ++ [.close] } = after :=
    fun middle => returns_inStep.trans returns_call
  simp only [← hclose]
  unfold Returns
  show closing reader body before = _ ↔ _
  unfold closing
  rcases body.run before with ⟨failure | value, middle⟩ <;> dsimp only
  · constructor
    · intro h
      cases h
    · rintro ⟨state, h, -⟩
      cases h
  · constructor
    · intro h
      refine ⟨middle, ?_⟩
      rcases hstate : reader.closeRun.run middle with ⟨failure | closed, state⟩
      · rw [hstate] at h
        cases h
      · rw [hstate] at h
        cases h
        exact ⟨rfl, rfl⟩
    · rintro ⟨state, h, hstate⟩
      cases h
      rw [hstate]

/-- The calls that read a table. -/
def readerCalls (name : String) : List ReaderCall :=
  [.comment name, .indexes name, .columns name]

/-- What a catalog answers about a table after some calls. -/
inductive CatalogReader.Answers (reader : CatalogReader) (enableInitialism : Bool) (name : String)
    (calls : List ReaderCall) : Table → Prop
  | intro {comment : String} {indexRows : List IndexRow} {columnRows : List ColumnRow}
      (hcomment : reader.comment calls name = .ok comment)
      (hindexes : reader.indexes (calls ++ [.comment name]) name = .ok indexRows)
      (hcolumns : reader.columns (calls ++ [.comment name] ++ [.indexes name]) name = .ok columnRows) :
      reader.Answers enableInitialism name calls (Table.ofRows enableInitialism name comment indexRows columnRows)

theorem returns_readTable {reader : CatalogReader} {enableInitialism : Bool} {name : String} {table : Table} :
    Returns (readTable reader enableInitialism name) before table after ↔
      reader.Answers enableInitialism name before.calls table ∧
        { before with calls := before.calls ++ readerCalls name } = after := by
  unfold readTable
  simp only [returns_bind, returns_inStep, returns_call, returns_pure]
  constructor
  · rintro ⟨comment, _, ⟨hcomment, rfl⟩, indexRows, _, ⟨hindexes, rfl⟩, columnRows, _, ⟨hcolumns, rfl⟩, rfl, rfl⟩
    refine ⟨.intro hcomment hindexes hcolumns, ?_⟩
    simp [readerCalls]
  · rintro ⟨⟨hcomment, hindexes, hcolumns⟩, rfl⟩
    refine ⟨_, _, ⟨hcomment, rfl⟩, _, _, ⟨hindexes, rfl⟩, _, _, ⟨hcolumns, rfl⟩, rfl, ?_⟩
    simp [readerCalls]

theorem fileResult_eq_ok {result : Except FileFault α} {a : α} : fileResult result = .ok a ↔ result = .ok a := by
  cases result with
  | error fault => constructor <;> intro h <;> cases h
  | ok value =>
    show Except.ok value = Except.ok a ↔ _
    rw [Except.ok.injEq, Except.ok.injEq]

theorem returns_makeDirectories {path : String} : Returns (makeDirectories path) before () after ↔
    ∃ files, before.files.makeDirectories path = .ok files ∧ { before with files := files } = after := by
  unfold makeDirectories
  simp only [returns_bind, returns_get, returns_modify, returns_ofExcept, fileResult_eq_ok]
  constructor
  · rintro ⟨_, _, ⟨rfl, rfl⟩, files, _, ⟨hfiles, rfl⟩, rfl⟩
    exact ⟨files, hfiles, rfl⟩
  · rintro ⟨files, hfiles, rfl⟩
    exact ⟨before, before, ⟨rfl, rfl⟩, files, before, ⟨hfiles, rfl⟩, rfl⟩

/-- The line that says that a file was written. -/
def writtenLine (label path : String) : String :=
  "✅ Generated " ++ label ++ " → " ++ Path.literal path

theorem returns_writeFile {label path text : String} : Returns (writeFile label path text) before () after ↔
    ∃ files, before.files.write path text = .ok files ∧
      { before with
        files := files
        written := before.written ++ [⟨path, text⟩]
        printed := before.printed ++ [writtenLine label path] } = after := by
  unfold writeFile setFile print
  simp only [returns_bind, returns_inStep, returns_get, returns_modify, returns_ofExcept, fileResult_eq_ok]
  constructor
  · rintro ⟨_, _, ⟨_, _, ⟨rfl, rfl⟩, files, _, ⟨hfiles, rfl⟩, rfl⟩, rfl⟩
    exact ⟨files, hfiles, rfl⟩
  · rintro ⟨files, hfiles, rfl⟩
    exact ⟨(), _, ⟨before, before, ⟨rfl, rfl⟩, files, before, ⟨hfiles, rfl⟩, rfl⟩, rfl⟩

end

end TableCodegen
