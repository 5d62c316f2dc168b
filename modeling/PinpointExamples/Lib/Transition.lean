import Mathlib.Data.List.Basic

/-!
# Runs of a transition system

A system is a partial step function: `step s a` is the state after the action `a`, or `none` when the system does
not allow `a` in `s`.  A run is a list of actions taken one after the other (`exec`).  An invariant that every step
keeps holds after every run (`exec_invariant`); if the steps keep it only under a condition on the state they are
taken in, it holds after every run whose steps all meet the condition (`exec_invariant_of_allSteps`).
-/

namespace Transition

variable {S : Type*} {A : Type*} (step : S → A → Option S)

/-- The state after a run, if every action is allowed when its turn comes. -/
def exec : S → List A → Option S
  | s, [] => some s
  | s, a :: as => (step s a).bind fun s' => exec s' as

/-- Every action of the run is taken in a state where it meets `cond`. -/
def AllSteps (cond : S → A → Prop) : S → List A → Prop
  | _, [] => True
  | s, a :: as => cond s a ∧ ∀ s', step s a = some s' → AllSteps cond s' as

@[simp] theorem exec_nil (s : S) : exec step s [] = some s := rfl

@[simp] theorem exec_cons (s : S) (a : A) (as : List A) :
    exec step s (a :: as) = (step s a).bind fun s' => exec step s' as := rfl

variable {step}

theorem exec_cons_eq_some {s s' : S} {a : A} {as : List A} :
    exec step s (a :: as) = some s' ↔ ∃ t, step s a = some t ∧ exec step t as = some s' := by
  rw [exec_cons, Option.bind_eq_some_iff]

/-- A run taken in two parts. -/
theorem exec_append (s : S) (as bs : List A) :
    exec step s (as ++ bs) = (exec step s as).bind fun t => exec step t bs := by
  induction as generalizing s with
  | nil => rfl
  | cons a as ih =>
    rw [List.cons_append, exec_cons, exec_cons, Option.bind_assoc]
    exact congrArg _ (funext ih)

/-- An invariant that also speaks of the actions so far, and that the steps keep under a condition. -/
theorem exec_invariant_past_of_allSteps {Inv : List A → S → Prop} {cond : S → A → Prop}
    (hstep : ∀ past s a s', Inv past s → cond s a → step s a = some s' → Inv (past ++ [a]) s')
    (past : List A) {s s' : S} {as : List A} (h : exec step s as = some s') (hc : AllSteps step cond s as)
    (hs : Inv past s) : Inv (past ++ as) s' := by
  induction as generalizing s past with
  | nil =>
    rw [exec_nil, Option.some.injEq] at h
    rw [List.append_nil]
    exact h ▸ hs
  | cons a as ih =>
    obtain ⟨t, ht, h⟩ := exec_cons_eq_some.1 h
    have hrest := ih (past ++ [a]) h (hc.2 t ht) (hstep past s a t hs hc.1 ht)
    rwa [List.append_assoc] at hrest

/-- An invariant that the steps keep under a condition. -/
theorem exec_invariant_of_allSteps {Inv : S → Prop} {cond : S → A → Prop}
    (hstep : ∀ s a s', Inv s → cond s a → step s a = some s' → Inv s')
    {s s' : S} {as : List A} (h : exec step s as = some s') (hc : AllSteps step cond s as) (hs : Inv s) : Inv s' :=
  exec_invariant_past_of_allSteps (fun _ => hstep) [] h hc hs

private theorem allSteps_true (s : S) (as : List A) : AllSteps step (fun _ _ => True) s as := by
  induction as generalizing s with
  | nil => trivial
  | cons a as ih => exact ⟨trivial, fun t _ => ih t⟩

/-- An invariant of the steps is an invariant of the runs. -/
theorem exec_invariant {Inv : S → Prop} (hstep : ∀ s a s', Inv s → step s a = some s' → Inv s')
    {s s' : S} {as : List A} (h : exec step s as = some s') (hs : Inv s) : Inv s' :=
  exec_invariant_of_allSteps (fun s a s' hs _ => hstep s a s' hs) h (allSteps_true s as) hs

/-- An invariant that also speaks of the actions so far. -/
theorem exec_invariant_past {Inv : List A → S → Prop}
    (hstep : ∀ past s a s', Inv past s → step s a = some s' → Inv (past ++ [a]) s')
    {s s' : S} {past as : List A} (h : exec step s as = some s') (hs : Inv past s) : Inv (past ++ as) s' :=
  exec_invariant_past_of_allSteps (fun past s a s' hs _ => hstep past s a s' hs) past h (allSteps_true s as) hs

/-- What an invariant implies of the next action holds of every step of a run. -/
theorem allSteps_of_invariant {Inv : S → Prop} {cond : S → A → Prop}
    (hstep : ∀ s a s', Inv s → step s a = some s' → Inv s') (hcond : ∀ s a, Inv s → cond s a)
    {s : S} (hs : Inv s) (as : List A) : AllSteps step cond s as := by
  induction as generalizing s with
  | nil => trivial
  | cons a as ih => exact ⟨hcond s a hs, fun t ht => ih (hstep s a t hs ht)⟩

theorem allSteps_of_forall_mem {p : A → Prop} {as : List A} (h : ∀ a ∈ as, p a) (s : S) :
    AllSteps step (fun _ a => p a) s as := by
  induction as generalizing s with
  | nil => trivial
  | cons a as ih => exact ⟨h a List.mem_cons_self, fun t _ => ih (fun b hb => h b (List.mem_cons_of_mem a hb)) t⟩

theorem AllSteps.append {p : S → A → Prop} {s : S} {as bs : List A} (has : AllSteps step p s as)
    (hbs : ∀ t, exec step s as = some t → AllSteps step p t bs) : AllSteps step p s (as ++ bs) := by
  induction as generalizing s with
  | nil => exact hbs s rfl
  | cons a as ih => exact ⟨has.1, fun t ht => ih (has.2 t ht) fun t' h => hbs t' (exec_cons_eq_some.2 ⟨t, ht, h⟩)⟩

theorem AllSteps.imp {p q : S → A → Prop} (hpq : ∀ s a, p s a → q s a) {s : S} {as : List A}
    (h : AllSteps step p s as) : AllSteps step q s as := by
  induction as generalizing s with
  | nil => trivial
  | cons a as ih => exact ⟨hpq s a h.1, fun t ht => ih (h.2 t ht)⟩

theorem AllSteps.and {p q : S → A → Prop} {s : S} {as : List A} (hp : AllSteps step p s as)
    (hq : AllSteps step q s as) : AllSteps step (fun s a => p s a ∧ q s a) s as := by
  induction as generalizing s with
  | nil => trivial
  | cons a as ih => exact ⟨⟨hp.1, hq.1⟩, fun t ht => ih (hp.2 t ht) (hq.2 t ht)⟩

theorem AllSteps.congr {p q : S → A → Prop} {s : S} {as : List A}
    (h : AllSteps step (fun s a => p s a ↔ q s a) s as) : AllSteps step p s as ↔ AllSteps step q s as := by
  induction as generalizing s with
  | nil => exact Iff.rfl
  | cons a as ih =>
    obtain ⟨ha, has⟩ := h
    constructor
    · rintro ⟨hp, hps⟩
      exact ⟨ha.1 hp, fun t ht => (ih (has t ht)).1 (hps t ht)⟩
    · rintro ⟨hq, hqs⟩
      exact ⟨ha.2 hq, fun t ht => (ih (has t ht)).2 (hqs t ht)⟩

/-- If an action that fails `cond` breaks the invariant for good, a run that ends in a good state had no such
action: `Bad` is what such an action establishes and every step keeps. -/
theorem allSteps_of_exec {Inv Bad : S → Prop} {cond : S → A → Prop}
    (hgood : ∀ s a s', Inv s → cond s a → step s a = some s' → Inv s')
    (hbad : ∀ s a s', Inv s → ¬ cond s a → step s a = some s' → Bad s')
    (hkeep : ∀ s a s', Bad s → step s a = some s' → Bad s')
    {s s' : S} {as : List A} (h : exec step s as = some s') (hs : Inv s) (hend : ¬ Bad s') :
    AllSteps step cond s as := by
  induction as generalizing s with
  | nil => trivial
  | cons a as ih =>
    obtain ⟨t, ht, h⟩ := exec_cons_eq_some.1 h
    by_cases hca : cond s a
    · refine ⟨hca, ?_⟩
      intro t' ht'
      rw [ht, Option.some.injEq] at ht'
      exact ht' ▸ ih h (hgood s a t hs hca ht)
    · exact absurd (exec_invariant hkeep h (hbad s a t hs hca ht)) hend

end Transition
