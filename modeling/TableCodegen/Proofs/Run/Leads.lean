import TableCodegen.Proofs.Run.Moves

/-!
# Runs side by side

Two runs take the same steps, but where the first one is refused something the second one may get an answer. As
long as nothing is refused they do the same; from there on only the second one goes on. A run never takes back
a file that it has written, so that the first one has written what the second one writes first.

Results:

* `Run.Leads.bind`, `Run.Leads.mapM`: runs of many steps.
* `leads_readTable`: catalogs that refuse less.
-/

namespace TableCodegen

namespace Run

variable {α β : Type}

/-! ## Specification -/

/-- What the first result gives, the second one gives too. -/
def UpheldBy (result other : Except Failure α) : Prop :=
  ∀ a, result = .ok a → other = .ok a

/-- Where the first run gives a value, the second one does the same; where the first one fails, it has written
what the second one writes first. -/
structure Leads (x y : Run α) : Prop where
  returns : ∀ {before a after}, Returns x before a after → Returns y before a after
  fails : ∀ {before failure after}, Fails x before failure after → after.written <+: (y.run before).2.written

/-! ## Results -/

namespace UpheldBy

theorem refl (result : Except Failure α) : UpheldBy result result :=
  fun _ => id

theorem bind {result other : Except Failure α} {f g : α → Except Failure β} (h : UpheldBy result other)
    (hf : ∀ a, UpheldBy (f a) (g a)) : UpheldBy (result >>= f) (other >>= g) := by
  intro b hb
  cases result with
  | error failure => cases hb
  | ok a =>
    rw [h a rfl]
    exact hf a b hb

theorem inStep {result other : Except Failure α} (h : UpheldBy result other) (step : String) :
    UpheldBy (TableCodegen.inStep step result) (TableCodegen.inStep step other) := by
  intro a ha
  cases result with
  | error failure => cases ha
  | ok value =>
    rw [h value rfl]
    exact ha

theorem mapM {list : List α} {f g : α → Except Failure β} (h : ∀ a, UpheldBy (f a) (g a)) :
    UpheldBy (list.mapM f) (list.mapM g) := by
  induction list with
  | nil => exact refl _
  | cons a list ih =>
    rw [List.mapM_cons, List.mapM_cons]
    exact bind (h a) fun _ => bind ih fun _ => refl _

end UpheldBy

/-! ## Steps -/

namespace Leads

theorem refl (x : Run α) : Leads x x where
  returns := id
  fails h := h ▸ List.prefix_rfl

/-- Runs that do nothing but give a result. -/
theorem ofExcept {result other : Except Failure α} (h : UpheldBy result other) :
    Leads (ofExcept result) (ofExcept other) where
  returns hreturns := by
    obtain ⟨hresult, rfl⟩ := returns_ofExcept.mp hreturns
    exact returns_ofExcept.mpr ⟨h _ hresult, rfl⟩
  fails hfails := by
    obtain ⟨-, rfl⟩ := fails_ofExcept.mp hfails
    have hgrows : Grows (Run.ofExcept other) := .ofExcept other
    exact hgrows _

theorem call (request : ReaderCall) {answer other : List ReaderCall → Except Failure α}
    (h : ∀ calls, UpheldBy (answer calls) (other calls)) :
    Leads (call request answer) (call request other) where
  returns hreturns := by
    obtain ⟨hanswer, rfl⟩ := returns_call.mp hreturns
    exact returns_call.mpr ⟨h _ _ hanswer, rfl⟩
  fails hfails := by
    obtain ⟨-, rfl⟩ := fails_call.mp hfails
    exact List.prefix_rfl

theorem inStep {x y : Run α} (h : Leads x y) (step : String) : Leads (inStep step x) (inStep step y) where
  returns hreturns := returns_inStep.mpr (h.returns (returns_inStep.mp hreturns))
  fails hfails := by
    obtain ⟨cause, hcause, -⟩ := fails_inStep.mp hfails
    rw [snd_run_inStep]
    exact h.fails hcause

/-- The second step of the second run may be taken where the first run has stopped; all that is asked of it is
that it takes back no file. -/
theorem bind {x y : Run α} {f g : α → Run β} (hx : Leads x y) (hf : ∀ a, Leads (f a) (g a))
    (hg : ∀ a, Grows (g a)) : Leads (x >>= f) (y >>= g) where
  returns hreturns := by
    obtain ⟨a, middle, ha, hb⟩ := returns_bind.mp hreturns
    exact returns_bind.mpr ⟨a, middle, hx.returns ha, (hf a).returns hb⟩
  fails {before failure after} hfails := by
    rcases fails_bind.mp hfails with h | ⟨a, middle, ha, h⟩
    · have hprefix := hx.fails h
      rcases returns_or_fails y before with ⟨a, middle, hy⟩ | ⟨other, middle, hy⟩
      · rw [hy] at hprefix
        rw [hy.run_bind]
        exact hprefix.trans (hg a middle)
      · rw [hy] at hprefix
        rw [hy.run_bind]
        exact hprefix
    · rw [(hx.returns ha).run_bind]
      exact (hf a).fails h

theorem mapM {list : List α} {f g : α → Run β} (h : ∀ a, Leads (f a) (g a)) (hg : ∀ a, Grows (g a)) :
    Leads (list.mapM f) (list.mapM g) := by
  induction list with
  | nil => exact refl _
  | cons a list ih =>
    rw [List.mapM_cons, List.mapM_cons]
    exact bind (h a) (fun b => bind ih (fun _ => refl _) fun _ => .pure _) fun b =>
      .bind (.mapM hg) fun _ => .pure _

end Leads

end Run

/-! ## Runs of the library -/

section

open Run

/-- The second catalog gives the answers of the first one, and may give more. -/
structure CatalogReader.AnsweredBy (reader other : CatalogReader) : Prop where
  comment : ∀ calls name, UpheldBy (reader.comment calls name) (other.comment calls name)
  indexes : ∀ calls name, UpheldBy (reader.indexes calls name) (other.indexes calls name)
  columns : ∀ calls name, UpheldBy (reader.columns calls name) (other.columns calls name)

theorem leads_readTable {reader other : CatalogReader} (h : reader.AnsweredBy other) (enableInitialism : Bool)
    (name : String) : Leads (readTable reader enableInitialism name) (readTable other enableInitialism name) := by
  have hcomment := Leads.call (.comment name) fun calls => h.comment calls name
  have hindexes := Leads.call (.indexes name) fun calls => h.indexes calls name
  have hcolumns := Leads.call (.columns name) fun calls => h.columns calls name
  have hgrows : ∀ {α : Type} (request : ReaderCall) (answer : List ReaderCall → Except Failure α) (step : String),
      Grows (Run.inStep step (Run.call request answer)) :=
    fun _ _ step => .inStep (.call fun _ => List.prefix_rfl) step
  unfold readTable
  refine .bind (hcomment.inStep _) (fun _ => .bind (hindexes.inStep _)
    (fun _ => .bind (hcolumns.inStep _) (fun _ => .refl _) fun _ => .pure _) fun _ => ?_) fun _ => ?_
  · exact .bind (hgrows _ _ _) fun _ => .pure _
  · exact .bind (hgrows _ _ _) fun _ => .bind (hgrows _ _ _) fun _ => .pure _

end

end TableCodegen
