import Mathlib.Logic.Function.Basic
import PinpointExamples.Lib.History
import PinpointExamples.Lib.Transition

/-!
# Handles and their protocol

An interface hands out handles: connections, lists, objects that must be given back.  A protocol says which actions on
a handle are allowed in which order; a handle that is not in use is free.  Several threads make calls of such an
interface, each call with actions on some handles, in any interleaving.  Of the interface only one thing is assumed:
what it hands out is not in use.  If the calls of every job follow the protocol when the job is alone, then in every
run each handle is used by one thread at a time, in an order that the protocol allows, and a thread without a job
holds none (`exec_respects`).
-/

namespace Typestate

open History Transition

variable {A Q T H C J : Type*}

/-- The states of a handle, and which actions are allowed in them. -/
structure Protocol (A Q : Type*) where
  free : Q
  next : Q → A → Option Q

/-- An action on a handle. -/
structure Touch (H A : Type*) where
  handle : H
  act : A
  deriving DecidableEq, Repr

section handles

variable [DecidableEq H]

/-- The actions on one handle. -/
def on (h : H) (xs : List (Touch H A)) : List A := xs.filterMap fun x => if x.handle = h then some x.act else none

@[simp] theorem on_nil (h : H) : on h ([] : List (Touch H A)) = [] := rfl

@[simp] theorem on_append (h : H) (xs ys : List (Touch H A)) : on h (xs ++ ys) = on h xs ++ on h ys :=
  List.filterMap_append ..

@[simp] theorem on_cons_self (h : H) (a : A) (xs : List (Touch H A)) : on h (⟨h, a⟩ :: xs) = a :: on h xs := by
  simp [on]

@[simp] theorem on_cons_ne {h h' : H} (hne : h' ≠ h) (a : A) (xs : List (Touch H A)) :
    on h (⟨h', a⟩ :: xs) = on h xs := by
  simp [on, hne]

theorem on_flatMap (h : H) (f : C → List (Touch H A)) (cs : List C) :
    on h (cs.flatMap f) = cs.flatMap fun c => on h (f c) := by
  induction cs with
  | nil => rfl
  | cons c cs ih => rw [List.flatMap_cons, List.flatMap_cons, on_append, ih]

@[simp] theorem on_flatten_replicate (h : H) (n : Nat) (xs : List (Touch H A)) :
    on h (List.replicate n xs).flatten = (List.replicate n (on h xs)).flatten := by
  induction n with
  | zero => rfl
  | succ n ih => rw [List.replicate_succ, List.replicate_succ, List.flatten_cons, List.flatten_cons, on_append, ih]

theorem on_eq_nil {h : H} {xs : List (Touch H A)} (hne : ∀ x ∈ xs, x.handle ≠ h) : on h xs = [] :=
  List.filterMap_eq_nil_iff.2 fun x hx => if_neg (hne x hx)

theorem mem_on {h : H} {a : A} {xs : List (Touch H A)} : a ∈ on h xs ↔ ⟨h, a⟩ ∈ xs := by
  simp only [on, List.mem_filterMap, Option.ite_none_right_eq_some, Option.some.injEq]
  constructor
  · rintro ⟨x, hx, rfl, rfl⟩
    exact hx
  · exact fun hx => ⟨_, hx, rfl, rfl⟩

/-- The actions on one handle, with the thread of each. -/
def onHandle (touches : C → List (Touch H A)) (h : H) (log : List (T × C)) : List (T × A) :=
  log.flatMap fun e => (on h (touches e.2)).map (Prod.mk e.1)

private theorem onHandle_snoc (touches : C → List (Touch H A)) (h : H) (log : List (T × C)) (t : T) (c : C) :
    onHandle touches h (log ++ [(t, c)]) = onHandle touches h log ++ (on h (touches c)).map (Prod.mk t) := by
  simp [onHandle]

end handles

namespace Protocol

variable (P : Protocol A Q)

/-- Taken alone, the actions follow the protocol and leave no handle in use. -/
def Closed [DecidableEq H] (xs : List (Touch H A)) : Prop := ∀ h, exec P.next P.free (on h xs) = some P.free

/-- A thread holds a handle in a state, unless it is free. -/
def held [DecidableEq Q] (t : T) (q : Q) : Option (T × Q) := if q = P.free then none else some (t, q)

/-- A handle with its holder: only a free handle may be opened, and only its holder may use a handle. -/
def owned [DecidableEq T] [DecidableEq Q] : Option (T × Q) → T × A → Option (Option (T × Q))
  | none, (t, a) => (P.next P.free a).map (P.held t)
  | some (t, q), (t', a) => if t' = t then (P.next q a).map (P.held t) else none

/-- Who holds the handle after these calls, and in which state; `none` if they broke the protocol. -/
def holder [DecidableEq T] [DecidableEq H] [DecidableEq Q] (touches : C → List (Touch H A)) (h : H)
    (log : List (T × C)) : Option (Option (T × Q)) :=
  exec P.owned none (onHandle touches h log)

def inUse [DecidableEq T] [DecidableEq H] [DecidableEq Q] (touches : C → List (Touch H A)) (h : H)
    (log : List (T × C)) : Bool :=
  ((P.holder touches h log).getD none).isSome

/-! ### Jobs alone -/

section closed

variable {P} [DecidableEq H] {xs ys : List (Touch H A)}

theorem closed_nil : P.Closed ([] : List (Touch H A)) := fun _ => rfl

theorem Closed.append (hx : P.Closed xs) (hy : P.Closed ys) : P.Closed (xs ++ ys) := by
  intro h
  rw [on_append, exec_append, hx h]
  exact hy h

end closed

/-! ### Threads -/

section views

variable {P} [DecidableEq T] [DecidableEq Q] {t t' : T} {q r : Q} {o : Option (T × Q)}

variable (P) in
/-- The state of a handle as a thread knows it: free, unless the thread holds it. -/
def view (t : T) : Option (T × Q) → Q
  | none => P.free
  | some (t', q) => if t' = t then q else P.free

private theorem view_held_self : P.view t (P.held t q) = q := by
  unfold held
  by_cases hq : q = P.free
  · rw [if_pos hq, hq]
    rfl
  · rw [if_neg hq]
    exact if_pos rfl

private theorem view_held_ne (h : t ≠ t') : P.view t' (P.held t q) = P.free := by
  unfold held
  by_cases hq : q = P.free
  · rw [if_pos hq]
    rfl
  · rw [if_neg hq]
    exact if_neg h

private theorem owned_held (a : A) : P.owned (P.held t q) (t, a) = (P.next q a).map (P.held t) := by
  unfold held
  by_cases hq : q = P.free
  · rw [if_pos hq, hq]
    rfl
  · rw [if_neg hq]
    exact if_pos rfl

/-- What a thread does with a handle that it holds, or that is free, makes it the holder. -/
theorem exec_owned_held {as : List A} (h : exec P.next q as = some r) :
    exec P.owned (P.held t q) (as.map (Prod.mk t)) = some (P.held t r) := by
  induction as generalizing q with
  | nil =>
    rw [exec_nil, Option.some.injEq] at h
    rw [h]
    rfl
  | cons a as ih =>
    obtain ⟨q', hnext, hrest⟩ := exec_cons_eq_some.1 h
    refine exec_cons_eq_some.2 ⟨P.held t q', ?_, ih hrest⟩
    rw [owned_held, hnext]
    rfl

omit [DecidableEq T] in
private theorem held_ne_free (t t' : T) (q : Q) : P.held t q ≠ some (t', P.free) := by
  unfold held
  by_cases hq : q = P.free
  · rw [if_pos hq]
    exact Option.some_ne_none _ ∘ Eq.symm
  · rw [if_neg hq]
    intro he
    exact hq (congrArg Prod.snd (Option.some.inj he))

/-- Either a thread knows all about a handle, or another one holds it. -/
theorem eq_held_or_other (h : ∀ t', o ≠ some (t', P.free)) (t : T) :
    o = P.held t (P.view t o) ∨ ∃ t' q, o = some (t', q) ∧ t' ≠ t := by
  rcases o with _ | ⟨t', q⟩
  · exact .inl (if_pos rfl).symm
  · by_cases ht : t' = t
    · subst ht
      have hview : P.view t' (some (t', q)) = q := if_pos rfl
      have hq : q ≠ P.free := by
        rintro rfl
        exact h t' rfl
      refine .inl ?_
      rw [hview]
      exact (if_neg hq).symm
    · exact .inr ⟨t', q, rfl, ht⟩

end views

end Protocol

/-! ### Lifetimes -/

/-- The plainest way to use a handle. -/
inductive Life
  | acquire
  | use
  | release
  deriving DecidableEq, Repr

/-- A handle is acquired, used while it is live, and released. -/
def lifetime : Protocol Life Bool where
  free := false
  next
    | false, .acquire => some true
    | true, .use => some true
    | true, .release => some false
    | _, _ => none

@[simp] theorem lifetime_free : lifetime.free = false := rfl

/-- Steps that come back to the same state, one after the other. -/
theorem exec_flatMap_loop {P : Protocol A Q} {q : Q} {f : C → List A} {cs : List C}
    (h : ∀ c ∈ cs, exec P.next q (f c) = some q) : exec P.next q (cs.flatMap f) = some q := by
  induction cs with
  | nil => rfl
  | cons c cs ih =>
    rw [List.flatMap_cons, exec_append, h c List.mem_cons_self]
    exact ih fun c' hc => h c' (List.mem_cons_of_mem c hc)

private theorem exec_uses {as : List Life} (h : ∀ a ∈ as, a = .use) : exec lifetime.next true as = some true := by
  induction as with
  | nil => rfl
  | cons a as ih =>
    rw [h a List.mem_cons_self]
    exact exec_cons_eq_some.2 ⟨true, rfl, ih fun a' ha => h a' (List.mem_cons_of_mem a ha)⟩

/-- A handle that is acquired first, released last, and only used in between. -/
theorem exec_life {as : List Life} (h : ∀ a ∈ as, a = .use) :
    exec lifetime.next false (.acquire :: (as ++ [.release])) = some false := by
  refine exec_cons_eq_some.2 ⟨true, rfl, ?_⟩
  rw [exec_append, exec_uses h]
  rfl

/-- A handle around others. -/
theorem closed_framed [DecidableEq H] (h : H) (xs : List (Touch H Life))
    (huse : ∀ x ∈ xs, x.handle = h → x.act = .use)
    (hothers : ∀ h', h' ≠ h → exec lifetime.next false (on h' xs) = some false) :
    lifetime.Closed (⟨h, .acquire⟩ :: (xs ++ [⟨h, .release⟩])) := by
  intro h'
  by_cases hh : h = h'
  · subst hh
    rw [on_cons_self, on_append, on_cons_self]
    exact exec_life fun a ha => huse ⟨h, a⟩ (mem_on.1 ha) rfl
  · rw [on_cons_ne hh, on_append, on_cons_ne hh, on_nil, List.append_nil]
    exact hothers h' (Ne.symm hh)

/-- A handle alone. -/
theorem closed_single [DecidableEq H] (h : H) (xs : List (Touch H Life)) (huse : ∀ x ∈ xs, x = ⟨h, .use⟩) :
    lifetime.Closed (⟨h, .acquire⟩ :: (xs ++ [⟨h, .release⟩])) := by
  apply closed_framed
  · intro x hx _
    rw [huse x hx]
  · intro h' hh
    rw [on_eq_nil]
    · rfl
    · intro x hx
      rw [huse x hx]
      exact Ne.symm hh

/-! ### Runs -/

/-- What each thread still has to call, and all calls that were made. -/
structure State (T C : Type*) where
  rest : T → List C
  log : List (T × C)

/-- A thread gets a job, or makes its next call. -/
inductive Action (T J : Type*)
  | job (t : T) (j : J)
  | call (t : T)
  deriving DecidableEq, Repr

section runs

variable [DecidableEq T] [DecidableEq H] [DecidableEq Q] (P : Protocol A Q) (touches : C → List (Touch H A))
  (calls : J → List C)

/-- The interface cannot hand out a handle that is in use. -/
def Blocked (log : List (T × C)) (c : C) : Prop :=
  ∃ x ∈ touches c, (P.next P.free x.act).isSome = true ∧ P.inUse touches x.handle log = true

instance (log : List (T × C)) (c : C) : Decidable (Blocked P touches log c) :=
  inferInstanceAs (Decidable (∃ x ∈ touches c, _))

def step (s : State T C) : Action T J → Option (State T C)
  | .job t j => if (s.rest t).isEmpty then some { s with rest := Function.update s.rest t (calls j) } else none
  | .call t =>
    match s.rest t with
    | [] => none
    | c :: cs =>
      if Blocked P touches s.log c then none else some ⟨Function.update s.rest t cs, s.log ++ [(t, c)]⟩

/-- The jobs that a thread got. -/
def jobsOf (t : T) (actions : List (Action T J)) : List J :=
  actions.filterMap fun
    | .job t' j => if t' = t then some j else none
    | .call _ => none

/-- What a step does. -/
theorem step_cases {s s' : State T C} {a : Action T J} (h : step P touches calls s a = some s') :
    (∃ t j, a = .job t j ∧ s.rest t = [] ∧ s' = { s with rest := Function.update s.rest t (calls j) }) ∨
      ∃ t c cs, a = .call t ∧ s.rest t = c :: cs ∧ ¬ Blocked P touches s.log c ∧
        s' = ⟨Function.update s.rest t cs, s.log ++ [(t, c)]⟩ := by
  cases a with
  | job t j =>
    simp only [step, Option.ite_none_right_eq_some, Option.some.injEq, List.isEmpty_iff] at h
    exact .inl ⟨t, j, rfl, h.1, h.2.symm⟩
  | call t =>
    rcases hrest : s.rest t with _ | ⟨c, cs⟩
    · simp [step, hrest] at h
    · simp only [step, hrest, Option.ite_none_left_eq_some, Option.some.injEq] at h
      exact .inr ⟨t, c, cs, rfl, hrest, h.1, h.2.symm⟩

/-- A thread makes the calls of its jobs, in their order. -/
theorem exec_onThread {s s' : State T C} {actions : List (Action T J)}
    (h : exec (step P touches calls) s actions = some s') (t : T) :
    onThread t s'.log ++ s'.rest t = onThread t s.log ++ s.rest t ++ (jobsOf t actions).flatMap calls := by
  induction actions generalizing s with
  | nil =>
    rw [exec_nil, Option.some.injEq] at h
    simp [jobsOf, h]
  | cons a actions ih =>
    obtain ⟨m, hm, h⟩ := exec_cons_eq_some.1 h
    rw [ih h]
    obtain ⟨t', j, rfl, hrest, rfl⟩ | ⟨t', c, cs, rfl, hrest, -, rfl⟩ := step_cases P touches calls hm
    · by_cases ht : t' = t
      · subst ht
        simp [jobsOf, hrest]
      · have hne : t ≠ t' := fun he => ht he.symm
        simp [jobsOf, ht, hne]
    · by_cases ht : t' = t
      · subst ht
        simp [jobsOf, hrest, onThread]
      · have hne : t ≠ t' := fun he => ht he.symm
        simp [jobsOf, ht, hne, onThread]

/-- Of each handle: who holds it, and that every thread, as far as it knows the handle, has calls left that follow the
protocol and leave it free. -/
def Inv (s : State T C) : Prop :=
  ∀ h, ∃ o, P.holder touches h s.log = some o ∧ (∀ t, o ≠ some (t, P.free)) ∧
    ∀ t, exec P.next (P.view t o) (on h ((s.rest t).flatMap touches)) = some P.free

variable {P touches calls}

theorem inv_initial {rest : T → List C} (h : ∀ t, P.Closed ((rest t).flatMap touches)) :
    Inv P touches ⟨rest, []⟩ :=
  fun handle => ⟨none, rfl, by simp, fun t => h t handle⟩

theorem inv_step (hcalls : ∀ j, P.Closed ((calls j).flatMap touches)) (s : State T C) (a : Action T J)
    (s' : State T C) (hinv : Inv P touches s) (hstep : step P touches calls s a = some s') : Inv P touches s' := by
  intro h
  obtain ⟨o, ho, hfree, hrest⟩ := hinv h
  obtain ⟨t, j, rfl, hidle, rfl⟩ | ⟨t, c, cs, rfl, hcs, hblocked, rfl⟩ := step_cases P touches calls hstep
  · -- a thread without a job knows every handle as free
    refine ⟨o, ho, hfree, fun t' => ?_⟩
    dsimp only
    by_cases ht : t' = t
    · subst ht
      have hview := hrest t'
      rw [hidle, List.flatMap_nil, on_nil, exec_nil, Option.some.injEq] at hview
      rw [Function.update_self, hview]
      exact hcalls j h
    · rw [Function.update_of_ne ht]
      exact hrest t'
  · have hlater := hrest t
    rw [hcs, List.flatMap_cons, on_append, exec_append, Option.bind_eq_some_iff] at hlater
    obtain ⟨q, hq, hlater⟩ := hlater
    rcases Protocol.eq_held_or_other hfree t with hheld | ⟨t', r, hother, hne⟩
    · -- the thread holds the handle, or may open it
      refine ⟨P.held t q, ?_, fun t' => Protocol.held_ne_free t t' q, fun t' => ?_⟩
      · rw [Protocol.holder, onHandle_snoc, exec_append]
        rw [Protocol.holder] at ho
        rw [ho, Option.bind_some, hheld]
        exact Protocol.exec_owned_held hq
      · dsimp only
        by_cases ht : t' = t
        · subst ht
          rw [Function.update_self, Protocol.view_held_self]
          exact hlater
        · have hsame := hrest t'
          rw [hheld, Protocol.view_held_ne (Ne.symm ht)] at hsame
          rw [Function.update_of_ne ht, Protocol.view_held_ne (Ne.symm ht)]
          exact hsame
    · -- another thread holds it, so this call does not touch it
      have hview : P.view t o = P.free := by
        rw [hother]
        exact if_neg hne
      have huntouched : on h (touches c) = [] := by
        rcases hon : on h (touches c) with _ | ⟨a, as⟩
        · rfl
        · exfalso
          rw [hon, hview] at hq
          obtain ⟨q', hopen, -⟩ := exec_cons_eq_some.1 hq
          have hmem : ⟨h, a⟩ ∈ touches c := mem_on.1 (by rw [hon]; exact List.mem_cons_self)
          refine hblocked ⟨_, hmem, by rw [hopen]; rfl, ?_⟩
          rw [Protocol.inUse, ho, hother]
          rfl
      rw [huntouched, exec_nil, Option.some.injEq] at hq
      refine ⟨o, ?_, hfree, fun t'' => ?_⟩
      · rw [Protocol.holder, onHandle_snoc, huntouched, List.map_nil, List.append_nil]
        exact ho
      · dsimp only
        by_cases ht : t'' = t
        · subst ht
          rw [Function.update_self, hq]
          exact hlater
        · rw [Function.update_of_ne ht]
          exact hrest t''

/-- The calls follow the protocol: every handle is used by one thread at a time, in an allowed order, and a thread
without a job holds none. -/
structure Respected (P : Protocol A Q) (touches : C → List (Touch H A)) (s : State T C) : Prop where
  used : ∀ h, ∃ o, P.holder touches h s.log = some o
  idle : ∀ t, s.rest t = [] → ∀ h q, P.holder touches h s.log ≠ some (some (t, q))

private theorem Inv.respected {s : State T C} (hinv : Inv P touches s) : Respected P touches s := by
  constructor
  · intro h
    obtain ⟨o, ho, -⟩ := hinv h
    exact ⟨o, ho⟩
  · intro t ht h q hq
    obtain ⟨o, ho, hfree, hrest⟩ := hinv h
    have hview := hrest t
    rw [ho, Option.some.injEq] at hq
    rw [ht, List.flatMap_nil, on_nil, exec_nil, Option.some.injEq, hq] at hview
    have hviewq : P.view t (some (t, q)) = q := if_pos rfl
    rw [hviewq] at hview
    exact hfree t (by rw [hq, hview])

/-- No interleaving of jobs that follow the protocol breaks it. -/
theorem exec_respects (hcalls : ∀ j, P.Closed ((calls j).flatMap touches)) {rest : T → List C}
    (hrest : ∀ t, P.Closed ((rest t).flatMap touches)) {actions : List (Action T J)} {s : State T C}
    (h : exec (step P touches calls) ⟨rest, []⟩ actions = some s) : Respected P touches s :=
  Inv.respected (exec_invariant (inv_step hcalls) h (inv_initial hrest))

end runs

end Typestate
