import Mathlib.Data.List.Basic
import Mathlib.Logic.Function.Basic
import PinpointExamples.Lib.Transition

/-!
# Proof outlines

Parties run programs on a shared state.  A program is a list of commands; a party runs at most one at a time, takes
its commands in turns with the others and may give up between two of them, and the environment changes the state as
well.  A proof outline says of each party what it knows after the commands it has taken, and what is known of it while
it runs no program, and that no step of another makes this false (`Outline`).  Then it holds throughout every run in
which the parties give up only where the outline allows it (`Outline.holds_of_exec`).
-/

namespace Outlines

open Transition

/-- The programs of the parties, and what commands and environment do to the state; `none` if they cannot. -/
structure Machine (D K C E S : Type*) where
  program : D → K → List C
  command : C → S → Option S
  environment : E → S → Option S

/-- A program on its way: the commands that were taken, and those that are left. -/
structure Job (C : Type*) where
  done : List C
  rest : List C

structure Config (D C S : Type*) where
  shared : S
  jobs : D → Option (Job C)

/-- At the start nobody runs a program. -/
def Config.start {D C S : Type*} (s : S) : Config D C S where
  shared := s
  jobs _ := none

/-- A party leaves its program at the end or before it. -/
inductive Action (D K E : Type*)
  | start (d : D) (k : K)
  | command (d : D)
  | leave (d : D)
  | environment (e : E)

variable {D K C E S : Type*}

section step

variable [DecidableEq D] (m : Machine D K C E S)

def step (c : Config D C S) : Action D K E → Option (Config D C S)
  | .start d k =>
    match c.jobs d with
    | none => some { c with jobs := Function.update c.jobs d (some ⟨[], m.program d k⟩) }
    | some _ => none
  | .command d =>
    match c.jobs d with
    | some ⟨done, a :: rest⟩ =>
      (m.command a c.shared).map fun s => ⟨s, Function.update c.jobs d (some ⟨done ++ [a], rest⟩)⟩
    | _ => none
  | .leave d => some { c with jobs := Function.update c.jobs d none }
  | .environment e => (m.environment e c.shared).map fun s => { c with shared := s }

variable {m}

/-- What a step is: the guards, and the configuration after it. -/
theorem step_cases {c c' : Config D C S} {a : Action D K E} (h : step m c a = some c') :
    (∃ d k, c.jobs d = none ∧ c' = { c with jobs := Function.update c.jobs d (some ⟨[], m.program d k⟩) }) ∨
    (∃ d done a rest s, c.jobs d = some ⟨done, a :: rest⟩ ∧ m.command a c.shared = some s ∧
      c' = ⟨s, Function.update c.jobs d (some ⟨done ++ [a], rest⟩)⟩) ∨
    (∃ d, a = .leave d ∧ c' = { c with jobs := Function.update c.jobs d none }) ∨
    ∃ e s, m.environment e c.shared = some s ∧ c' = { c with shared := s } := by
  cases a with
  | start d k =>
    simp only [step] at h
    split at h
    · rename_i hjob
      exact .inl ⟨d, k, hjob, (Option.some.inj h).symm⟩
    · cases h
  | command d =>
    simp only [step] at h
    split at h
    · rename_i done a rest hjob
      obtain ⟨s, hs, hc⟩ := Option.map_eq_some_iff.1 h
      exact .inr (.inl ⟨d, done, a, rest, s, hjob, hs, hc.symm⟩)
    · cases h
  | leave d => exact .inr (.inr (.inl ⟨d, rfl, (Option.some.inj h).symm⟩))
  | environment e =>
    obtain ⟨s, hs, hc⟩ := Option.map_eq_some_iff.1 h
    exact .inr (.inr (.inr ⟨e, s, hs, hc.symm⟩))

end step

/-- The command is the next one of a program after others. -/
def Next (m : Machine D K C E S) (d : D) (done : List C) (a : C) : Prop :=
  ∃ k rest, m.program d k = done ++ a :: rest

/-- An invariant of the state, what is known of a party without a program and of one that has taken these commands,
and after which commands a party may give up. -/
structure Outline (m : Machine D K C E S) where
  inv : S → Prop
  idle : D → S → Prop
  knows : D → List C → S → Prop
  whole : List C → Prop
  start : ∀ d s, inv s → idle d s → knows d [] s
  leave : ∀ d done s, inv s → knows d done s → whole done → idle d s
  command : ∀ d done a s s', Next m d done a → inv s → knows d done s → m.command a s = some s' →
    inv s' ∧ knows d (done ++ [a]) s'
  others : ∀ d done a s s', Next m d done a → inv s → knows d done s → m.command a s = some s' →
    ∀ d', d' ≠ d → (idle d' s → idle d' s') ∧ ∀ done', knows d' done' s → knows d' done' s'
  environment : ∀ e s s', inv s → m.environment e s = some s' →
    inv s' ∧ ∀ d, (idle d s → idle d s') ∧ ∀ done, knows d done s → knows d done s'

/-- If the action is one of a party that gives up, it does so after commands of this kind. -/
def LeavesAfter (whole : List C → Prop) (c : Config D C S) (a : Action D K E) : Prop :=
  ∀ d j, a = .leave d → c.jobs d = some j → whole j.done

/-- A stretch of a run in which nobody gives up. -/
theorem allSteps_leavesAfter [DecidableEq D] {m : Machine D K C E S} {whole : List C → Prop}
    {as : List (Action D K E)} (h : ∀ d, .leave d ∉ as) (c : Config D C S) :
    AllSteps (step m) (LeavesAfter whole) c as := by
  have hne : ∀ a ∈ as, ∀ d, a ≠ .leave d := by
    rintro a ha d rfl
    exact h d ha
  exact (allSteps_of_forall_mem hne c).imp fun _ _ hne d _ heq => absurd heq (hne d)

namespace Outline

variable {m : Machine D K C E S}

/-- The invariant holds, and every party is in a program of its own and knows what the outline says. -/
structure Holds (o : Outline m) (c : Config D C S) : Prop where
  inv : o.inv c.shared
  idle : ∀ d, c.jobs d = none → o.idle d c.shared
  program : ∀ d j, c.jobs d = some j → ∃ k, m.program d k = j.done ++ j.rest
  knows : ∀ d j, c.jobs d = some j → o.knows d j.done c.shared

private theorem holds_start (o : Outline m) {s : S} (h : o.inv s) (hidle : ∀ d, o.idle d s) :
    o.Holds (Config.start s) where
  inv := h
  idle d _ := hidle d
  program _ _ hj := nomatch hj
  knows _ _ hj := nomatch hj

variable [DecidableEq D]

/-- A job of a party that did not take the step is as before. -/
theorem job_update {jobs : D → Option (Job C)} {d d' : D} {x y : Option (Job C)}
    (h : Function.update jobs d x d' = y) : d' = d ∧ x = y ∨ d' ≠ d ∧ jobs d' = y := by
  by_cases hd : d' = d
  · subst hd
    rw [Function.update_self] at h
    exact .inl ⟨rfl, h⟩
  · rw [Function.update_of_ne hd] at h
    exact .inr ⟨hd, h⟩

theorem Holds.step {o : Outline m} {c c' : Config D C S} {a : Action D K E} (h : o.Holds c)
    (hwhole : LeavesAfter o.whole c a) (hstep : Outlines.step m c a = some c') : o.Holds c' := by
  rcases step_cases hstep with ⟨d, k, hidle, rfl⟩ | ⟨d, done, a, rest, s, hjob, hs, rfl⟩ | ⟨d, rfl, rfl⟩ |
    ⟨e, s, hs, rfl⟩
  · -- a job starts
    refine ⟨h.inv, ?_, ?_, ?_⟩
    · intro d' hj
      rcases job_update hj with ⟨-, hx⟩ | ⟨-, hj⟩
      · cases hx
      · exact h.idle d' hj
    · intro d' j hj
      rcases job_update hj with ⟨rfl, hx⟩ | ⟨-, hj⟩
      · cases hx
        exact ⟨k, rfl⟩
      · exact h.program d' j hj
    · intro d' j hj
      rcases job_update hj with ⟨rfl, hx⟩ | ⟨-, hj⟩
      · cases hx
        exact o.start _ _ h.inv (h.idle _ hidle)
      · exact h.knows d' j hj
  · -- a job runs its next command
    obtain ⟨k, hk⟩ := h.program d _ hjob
    have hknows := h.knows d _ hjob
    have hnext : Next m d done a := ⟨k, rest, hk⟩
    obtain ⟨hinv, hafter⟩ := o.command d done a _ _ hnext h.inv hknows hs
    have hothers := o.others d done a _ _ hnext h.inv hknows hs
    refine ⟨hinv, ?_, ?_, ?_⟩
    · intro d' hj
      rcases job_update hj with ⟨-, hx⟩ | ⟨hd, hj⟩
      · cases hx
      · exact (hothers d' hd).1 (h.idle d' hj)
    · intro d' j hj
      rcases job_update hj with ⟨rfl, hx⟩ | ⟨-, hj⟩
      · cases hx
        exact ⟨k, by simp [hk]⟩
      · exact h.program d' j hj
    · intro d' j hj
      rcases job_update hj with ⟨rfl, hx⟩ | ⟨hd, hj⟩
      · cases hx
        exact hafter
      · exact (hothers d' hd).2 j.done (h.knows d' j hj)
  · -- a job is left where it may be left
    refine ⟨h.inv, ?_, ?_, ?_⟩
    · intro d' hj
      rcases job_update hj with ⟨rfl, -⟩ | ⟨-, hj⟩
      · rcases hjob : c.jobs d' with _ | j
        · exact h.idle d' hjob
        · exact o.leave d' j.done _ h.inv (h.knows d' j hjob) (hwhole d' j rfl hjob)
      · exact h.idle d' hj
    · intro d' j hj
      rcases job_update hj with ⟨-, hx⟩ | ⟨-, hj⟩
      · cases hx
      · exact h.program d' j hj
    · intro d' j hj
      rcases job_update hj with ⟨-, hx⟩ | ⟨-, hj⟩
      · cases hx
      · exact h.knows d' j hj
  · obtain ⟨hinv, hkeeps⟩ := o.environment e _ _ h.inv hs
    exact ⟨hinv, fun d hj => (hkeeps d).1 (h.idle d hj), h.program,
      fun d j hj => (hkeeps d).2 j.done (h.knows d j hj)⟩

/-- What an outline says holds after every run in which the parties give up where they may. -/
theorem holds_of_exec (o : Outline m) {s : S} (hs : o.inv s) (hidle : ∀ d, o.idle d s) {as : List (Action D K E)}
    {c : Config D C S} (h : exec (Outlines.step m) (Config.start s) as = some c)
    (hwhole : AllSteps (Outlines.step m) (LeavesAfter o.whole) (Config.start s) as) : o.Holds c :=
  exec_invariant_of_allSteps (fun _ _ _ hc hleaves hstep => hc.step hleaves hstep) h hwhole (o.holds_start hs hidle)

end Outline

end Outlines
