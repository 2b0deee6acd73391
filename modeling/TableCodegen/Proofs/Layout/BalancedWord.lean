import TableCodegen.Layout.Delimiter

/-!
# Balanced words

`checkFrom` pairs delimiters up with a stack of open brackets. Here its verdicts are compared with a
grammar that has no stack: a word is balanced if it is empty, or a balanced word between an opener and a
closer of one kind, or two balanced words in a row.

Results:

* `balanced_iff_checkFrom`: the check accepts exactly the balanced words, read after the brackets on the
  stack.
* `completable_iff_checkFrom`: a prefix can be completed iff the check accepts it with something after it.
* `exists_culprit_iff_deadEnd`: the closers that are refused are those at which the prefix read so far
  can no longer be completed.
-/

namespace TableCodegen

/-! ## Specification -/

/-- What a delimiter is, apart from its place: its kind, and whether it opens. -/
def Delimiter.side (d : Delimiter) : Bracket × Bool :=
  (d.bracket, d.opens)

/-- The words in which openers and closers pair up. -/
inductive Balanced : List (Bracket × Bool) → Prop where
  | nil : Balanced []
  | enclosed (b : Bracket) {word : List (Bracket × Bool)} (inner : Balanced word) :
      Balanced ((b, true) :: word ++ [(b, false)])
  | append {u v : List (Bracket × Bool)} (first : Balanced u) (second : Balanced v) :
      Balanced (u ++ v)

/-- Some continuation makes the word balanced. -/
def Completable (word : List (Bracket × Bool)) : Prop :=
  ∃ rest, Balanced (word ++ rest)

/-- `d` is the first delimiter with which the prefix read so far can no longer be completed. -/
def DeadEnd (ds : List Delimiter) (d : Delimiter) : Prop :=
  ∃ before after, ds = before ++ d :: after ∧ Completable (before.map Delimiter.side) ∧
    ¬ Completable ((before ++ [d]).map Delimiter.side)

theorem Completable.of_append {u v : List (Bracket × Bool)} (h : Completable (u ++ v)) :
    Completable u := by
  obtain ⟨rest, h⟩ := h
  exact ⟨v ++ rest, by rwa [← List.append_assoc]⟩

/-- A pair of brackets can stand at any place of a balanced word. -/
theorem Balanced.insert_pair (b : Bracket) {word : List (Bracket × Bool)} (h : Balanced word) :
    ∀ u v, word = u ++ v → Balanced (u ++ (b, true) :: (b, false) :: v) := by
  have pair : Balanced [(b, true), (b, false)] := Balanced.enclosed b .nil
  induction h with
  | nil =>
    intro u v huv
    obtain ⟨rfl, rfl⟩ := List.append_eq_nil_iff.mp huv.symm
    exact pair
  | @enclosed c word inner ih =>
    intro u v huv
    cases u with
    | nil =>
      rw [List.nil_append] at huv
      subst huv
      exact pair.append (inner.enclosed c)
    | cons x u =>
      rw [List.cons_append, List.cons_append, List.cons.injEq] at huv
      obtain ⟨rfl, huv⟩ := huv
      rcases List.eq_nil_or_concat v with rfl | ⟨v, y, rfl⟩
      · rw [List.append_nil] at huv
        subst huv
        simpa using (inner.enclosed c).append pair
      · rw [List.concat_eq_append, ← List.append_assoc] at huv
        obtain ⟨hword, hy⟩ := List.append_inj' huv rfl
        rw [← List.singleton_inj.mp hy]
        simpa using (ih u v hword).enclosed c
  | @append w₁ w₂ h₁ h₂ ih₁ ih₂ =>
    intro u v huv
    rcases List.append_eq_append_iff.mp huv with ⟨m, rfl, rfl⟩ | ⟨m, rfl, rfl⟩
    · simpa using h₁.append (ih₂ m v rfl)
    · simpa using (ih₁ u m rfl).append h₂

/-! ## One step of the check -/

theorem checkFrom_opener {d : Delimiter} (hd : d.opens = true) (stack rest : List Delimiter) :
    checkFrom stack (d :: rest) = checkFrom (d :: stack) rest := by
  cases stack <;> simp [checkFrom, hd]

theorem checkFrom_stray {d : Delimiter} (hd : d.opens = false) (rest : List Delimiter) :
    checkFrom [] (d :: rest) = .error (.stray d) := by
  simp [checkFrom, hd]

theorem checkFrom_closer {d : Delimiter} (hd : d.opens = false) (opener : Delimiter)
    (outer rest : List Delimiter) :
    checkFrom (opener :: outer) (d :: rest) =
      if opener.bracket = d.bracket then checkFrom outer rest
      else .error (.mismatched d opener) := by
  simp [checkFrom, hd]

/-- The stack holds openers that are read before everything else. -/
theorem checkFrom_append_openers {openers : List Delimiter} (ho : ∀ d ∈ openers, d.opens = true)
    (stack rest : List Delimiter) :
    checkFrom stack (openers ++ rest) = checkFrom (openers.reverse ++ stack) rest := by
  induction openers generalizing stack with
  | nil => rfl
  | cons d openers ih =>
    rw [List.cons_append, checkFrom_opener (ho d (by simp)),
      ih (fun e he => ho e (List.mem_cons_of_mem _ he))]
    simp

/-! ## Acceptance -/

theorem balanced_of_checkFrom {ds : List Delimiter} :
    ∀ {stack : List Delimiter}, (∀ d ∈ stack, d.opens = true) → checkFrom stack ds = .ok () →
      Balanced ((stack.reverse ++ ds).map Delimiter.side) := by
  induction ds with
  | nil =>
    intro stack _ h
    cases stack with
    | nil => exact .nil
    | cons opener outer => simp [checkFrom] at h
  | cons d rest ih =>
    intro stack hs h
    by_cases hd : d.opens = true
    · rw [checkFrom_opener hd] at h
      have hs' : ∀ e ∈ d :: stack, e.opens = true := by
        intro e he
        rcases List.mem_cons.mp he with rfl | he
        · exact hd
        · exact hs e he
      simpa using ih hs' h
    · rw [Bool.not_eq_true] at hd
      cases stack with
      | nil => simp [checkFrom_stray hd] at h
      | cons opener outer =>
        rw [checkFrom_closer hd] at h
        split at h
        · rename_i hb
          have hopener : opener.opens = true := hs opener (by simp)
          have := (ih (fun e he => hs e (List.mem_cons_of_mem _ he)) h).insert_pair opener.bracket
            (outer.reverse.map Delimiter.side) (rest.map Delimiter.side) (by simp)
          simpa [Delimiter.side, hopener, hd, ← hb] using this
        · simp at h

/-- A balanced word leaves the stack as it was. -/
theorem checkFrom_append_of_balanced {word : List (Bracket × Bool)} (h : Balanced word) :
    ∀ {ds : List Delimiter} (stack rest : List Delimiter), ds.map Delimiter.side = word →
      checkFrom stack (ds ++ rest) = checkFrom stack rest := by
  induction h with
  | nil =>
    intro ds stack rest hds
    rw [List.map_eq_nil_iff.mp hds, List.nil_append]
  | @enclosed b word inner ih =>
    intro ds stack rest hds
    obtain ⟨o, ds, rfl, ho, hds⟩ := List.map_eq_cons_iff.mp hds
    obtain ⟨mid, last, rfl, hmid, hlast⟩ := List.map_eq_append_iff.mp hds
    obtain ⟨c, rfl, hc⟩ := List.map_eq_singleton_iff.mp hlast
    simp only [Delimiter.side, Prod.mk.injEq] at ho hc
    rw [List.cons_append, checkFrom_opener ho.2, List.append_assoc, ih _ _ hmid,
      List.singleton_append, checkFrom_closer hc.2, if_pos (by rw [ho.1, hc.1])]
  | append _ _ ih₁ ih₂ =>
    intro ds stack rest hds
    obtain ⟨first, second, rfl, h₁, h₂⟩ := List.map_eq_append_iff.mp hds
    rw [List.append_assoc, ih₁ _ _ h₁, ih₂ _ _ h₂]

/-- The check accepts exactly the balanced words, read after the openers on the stack. -/
theorem balanced_iff_checkFrom {stack : List Delimiter} (hs : ∀ d ∈ stack, d.opens = true)
    (ds : List Delimiter) :
    Balanced ((stack.reverse ++ ds).map Delimiter.side) ↔ checkFrom stack ds = .ok () := by
  refine ⟨fun h => ?_, balanced_of_checkFrom hs⟩
  have hopen : ∀ d ∈ stack.reverse, d.opens = true := fun d hd => hs d (List.mem_reverse.mp hd)
  have := checkFrom_append_of_balanced h [] [] rfl
  rw [List.append_nil, checkFrom_append_openers hopen, List.reverse_reverse, List.append_nil] at this
  rw [this]
  rfl

theorem checkFrom_nil_eq_ok_iff (ds : List Delimiter) :
    checkFrom [] ds = .ok () ↔ Balanced (ds.map Delimiter.side) :=
  (balanced_iff_checkFrom (List.forall_mem_nil _) ds).symm

/-- A prefix can be completed iff the check accepts it with something after it. -/
theorem completable_iff_checkFrom {stack : List Delimiter} (hs : ∀ d ∈ stack, d.opens = true)
    (ds : List Delimiter) :
    Completable ((stack.reverse ++ ds).map Delimiter.side) ↔
      ∃ rest, checkFrom stack (ds ++ rest) = .ok () := by
  constructor
  · rintro ⟨word, h⟩
    -- any places will do: the check never looks at them
    let rest : List Delimiter := word.map fun s => ⟨s.1, s.2, 0, 0⟩
    have hrest : rest.map Delimiter.side = word := by
      simp [rest, Function.comp_def, Delimiter.side]
    refine ⟨rest, (balanced_iff_checkFrom hs _).mp ?_⟩
    rwa [← List.append_assoc, List.map_append, hrest]
  · rintro ⟨rest, h⟩
    refine ⟨rest.map Delimiter.side, ?_⟩
    rw [← List.map_append, List.append_assoc]
    exact (balanced_iff_checkFrom hs _).mpr h

/-! ## Refusal at a closer -/

theorem exists_checkFrom_ok (stack : List Delimiter) : ∃ rest, checkFrom stack rest = .ok () := by
  induction stack with
  | nil => exact ⟨[], rfl⟩
  | cons opener outer ih =>
    obtain ⟨rest, h⟩ := ih
    exact ⟨⟨opener.bracket, false, 0, 0⟩ :: rest, by rw [checkFrom_closer rfl, if_pos rfl, h]⟩

/-- The delimiters before a refused closer are accepted with some continuation, and with the closer they
are accepted with none. -/
theorem checkFrom_error_closer {ds : List Delimiter} {fault : BalanceFault}
    (hf : fault.culprit.opens = false) :
    ∀ {stack : List Delimiter}, (∀ d ∈ stack, d.opens = true) → checkFrom stack ds = .error fault →
      ∃ before after, ds = before ++ fault.culprit :: after ∧
        (∃ rest, checkFrom stack (before ++ rest) = .ok ()) ∧
        ∀ rest, checkFrom stack (before ++ fault.culprit :: rest) ≠ .ok () := by
  induction ds with
  | nil =>
    intro stack hs h
    cases stack with
    | nil => simp [checkFrom] at h
    | cons opener outer =>
      simp only [checkFrom, Except.error.injEq] at h
      subst h
      rw [BalanceFault.culprit, hs opener (by simp)] at hf
      cases hf
  | cons d rest ih =>
    intro stack hs h
    by_cases hd : d.opens = true
    · rw [checkFrom_opener hd] at h
      obtain ⟨before, after, rfl, hok, hno⟩ := ih (by simpa [hd] using hs) h
      refine ⟨d :: before, after, rfl, ?_, fun rest => ?_⟩
      · simpa only [List.cons_append, checkFrom_opener hd] using hok
      · simpa only [List.cons_append, checkFrom_opener hd] using hno rest
    · rw [Bool.not_eq_true] at hd
      cases stack with
      | nil =>
        rw [checkFrom_stray hd, Except.error.injEq] at h
        subst h
        exact ⟨[], rest, rfl, exists_checkFrom_ok [],
          fun rest => by simp [BalanceFault.culprit, checkFrom_stray hd]⟩
      | cons opener outer =>
        rw [checkFrom_closer hd] at h
        split at h
        · rename_i hb
          obtain ⟨before, after, rfl, hok, hno⟩ :=
            ih (fun e he => hs e (List.mem_cons_of_mem _ he)) h
          refine ⟨d :: before, after, rfl, ?_, fun rest => ?_⟩
          · simpa only [List.cons_append, checkFrom_closer hd, if_pos hb] using hok
          · simpa only [List.cons_append, checkFrom_closer hd, if_pos hb] using hno rest
        · rename_i hb
          rw [Except.error.injEq] at h
          subst h
          exact ⟨[], rest, rfl, exists_checkFrom_ok _,
            fun rest => by simp [BalanceFault.culprit, checkFrom_closer hd, hb]⟩

theorem deadEnd_of_checkFrom {ds : List Delimiter} {fault : BalanceFault}
    (h : checkFrom [] ds = .error fault) (hf : fault.culprit.opens = false) :
    DeadEnd ds fault.culprit := by
  have hnil : ∀ d ∈ ([] : List Delimiter), d.opens = true := List.forall_mem_nil _
  obtain ⟨before, after, hds, hok, hno⟩ := checkFrom_error_closer hf hnil h
  refine ⟨before, after, hds, (completable_iff_checkFrom hnil before).mpr hok, fun hc => ?_⟩
  obtain ⟨rest, hr⟩ := (completable_iff_checkFrom hnil _).mp hc
  exact hno rest (by simpa using hr)

theorem not_completable_of_append {u v : List Delimiter}
    (h : ¬ Completable (u.map Delimiter.side)) : ¬ Completable ((u ++ v).map Delimiter.side) :=
  fun hc => h (Completable.of_append (by rwa [List.map_append] at hc))

/-- There is at most one dead end. -/
theorem DeadEnd.unique {ds : List Delimiter} {d e : Delimiter} (hd : DeadEnd ds d)
    (he : DeadEnd ds e) : d = e := by
  obtain ⟨u, v, rfl, hu, hud⟩ := hd
  obtain ⟨u', v', heq, hu', hue⟩ := he
  rcases List.append_eq_append_iff.mp heq with ⟨m, rfl, hm⟩ | ⟨m, rfl, hm⟩
  · cases m with
    | nil => exact (List.cons.inj hm).1
    | cons x m =>
      obtain ⟨rfl, -⟩ := List.cons.inj hm
      refine absurd hu' ?_
      rw [← List.singleton_append, ← List.append_assoc]
      exact not_completable_of_append hud
  · cases m with
    | nil => exact (List.cons.inj hm).1.symm
    | cons x m =>
      obtain ⟨rfl, -⟩ := List.cons.inj hm
      refine absurd hu ?_
      rw [← List.singleton_append, ← List.append_assoc]
      exact not_completable_of_append hue

/-- An unclosed opener is reported only when all delimiters together can still be completed. -/
theorem completable_of_unclosed {ds : List Delimiter} {fault : BalanceFault} :
    ∀ {stack : List Delimiter}, fault.culprit.opens = true → checkFrom stack ds = .error fault →
      ∃ rest, checkFrom stack (ds ++ rest) = .ok () := by
  induction ds with
  | nil => intro stack _ _; exact exists_checkFrom_ok stack
  | cons d rest ih =>
    intro stack hf h
    by_cases hd : d.opens = true
    · rw [checkFrom_opener hd] at h
      simpa only [List.cons_append, checkFrom_opener hd] using ih hf h
    · rw [Bool.not_eq_true] at hd
      cases stack with
      | nil =>
        rw [checkFrom_stray hd, Except.error.injEq] at h
        subst h
        rw [BalanceFault.culprit, hd] at hf
        cases hf
      | cons opener outer =>
        rw [checkFrom_closer hd] at h
        split at h
        · rename_i hb
          simpa only [List.cons_append, checkFrom_closer hd, if_pos hb] using ih hf h
        · rw [Except.error.injEq] at h
          subst h
          rw [BalanceFault.culprit, hd] at hf
          cases hf

/-- The refused closers are the dead ends. -/
theorem exists_culprit_iff_deadEnd (ds : List Delimiter) (d : Delimiter) :
    (∃ fault, checkFrom [] ds = .error fault ∧ fault.culprit.opens = false ∧ fault.culprit = d) ↔
      DeadEnd ds d := by
  have hnil : ∀ d ∈ ([] : List Delimiter), d.opens = true := List.forall_mem_nil _
  constructor
  · rintro ⟨fault, h, hf, rfl⟩
    exact deadEnd_of_checkFrom h hf
  · intro hdead
    obtain ⟨before, after, rfl, -, hno⟩ := id hdead
    have hds : ¬ Completable ((before ++ d :: after).map Delimiter.side) := by
      rw [← List.singleton_append, ← List.append_assoc]
      exact not_completable_of_append hno
    cases h : checkFrom [] (before ++ d :: after) with
    | ok _ =>
      exact absurd ((completable_iff_checkFrom hnil _).mpr ⟨[], by simpa using h⟩) hds
    | error fault =>
      have hf : fault.culprit.opens = false := by
        rw [← Bool.not_eq_true]
        intro hf
        exact hds ((completable_iff_checkFrom hnil _).mpr (completable_of_unclosed hf h))
      exact ⟨fault, rfl, hf, (deadEnd_of_checkFrom h hf).unique hdead⟩

end TableCodegen
