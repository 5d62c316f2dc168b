import Mathlib.Data.List.Perm.Basic
import PinpointExamples.Lib.Transition

/-!
# Systems whose actions commute

In a transition system two different actions may be allowed in the same state.  If they can then be taken in both
orders with the same result (`Commuting`), the order of the actions does not matter for where a run ends: as soon as
one run ends in a state in which nothing is allowed any more, every run ends there (`settles_of_exec`).
-/

namespace Transition

variable {S : Type*} {A : Type*} {step : S → A → Option S}

/-- Two different actions allowed in a state can be taken in both orders. -/
def Commuting (step : S → A → Option S) : Prop :=
  ∀ s a b t u, a ≠ b → step s a = some t → step s b = some u → ∃ v, step t b = some v ∧ step u a = some v

/-- No action is allowed. -/
def Final (step : S → A → Option S) (s : S) : Prop := ∀ a, step s a = none

/-- Every run from `s` comes to its end in `f`: it can be continued to `f`, where nothing is allowed, and it has no
more than `n` actions. -/
structure Settles (step : S → A → Option S) (s f : S) (n : Nat) : Prop where
  final : Final step f
  completes : ∀ as t, exec step s as = some t → ∃ bs, exec step t bs = some f
  bounded : ∀ as t, exec step s as = some t → as.length ≤ n

/-- An action that is allowed at the start of the run and not taken in it is still allowed at its end. -/
theorem exec_postpone (hc : Commuting step) {a : A} {as : List A} {s t f : S} (hrun : exec step s as = some f)
    (ha : step s a = some t) (hmem : a ∉ as) : ∃ v, step f a = some v := by
  induction as generalizing s t with
  | nil =>
    rw [exec_nil, Option.some.injEq] at hrun
    exact ⟨t, hrun ▸ ha⟩
  | cons b as ih =>
    rw [List.mem_cons, not_or] at hmem
    obtain ⟨u, hu, hrest⟩ := exec_cons_eq_some.1 hrun
    obtain ⟨v, -, hv⟩ := hc s a b t u hmem.1 ha hu
    exact ih hrest hv hmem.2

variable [DecidableEq A]

/-- An action of the run that is already allowed at its start can be taken first. -/
theorem exec_erase (hc : Commuting step) {a : A} {as : List A} {s t f : S} (hrun : exec step s as = some f)
    (ha : step s a = some t) (hmem : a ∈ as) : exec step t (as.erase a) = some f := by
  induction as generalizing s t with
  | nil => cases hmem
  | cons b as ih =>
    obtain ⟨u, hu, hrest⟩ := exec_cons_eq_some.1 hrun
    by_cases hab : b = a
    · subst hab
      rw [ha, Option.some.injEq] at hu
      rw [List.erase_cons_head, hu]
      exact hrest
    · obtain ⟨v, hv, hv'⟩ := hc s a b t u (Ne.symm hab) ha hu
      have hne : ¬ (b == a) = true := by simpa using hab
      have hmem : a ∈ as := (List.mem_cons.1 hmem).resolve_left (Ne.symm hab)
      rw [List.erase_cons_tail hne]
      exact exec_cons_eq_some.2 ⟨v, hv, ih hrest hv' hmem⟩

/-- Every run is the beginning of the one that is known to end, up to the order of the actions. -/
theorem exec_complete (hc : Commuting step) {as bs : List A} {s t f : S} (hrun : exec step s as = some f)
    (hf : Final step f) (hother : exec step s bs = some t) :
    ∃ cs, exec step t cs = some f ∧ as.Perm (bs ++ cs) := by
  induction bs generalizing s as with
  | nil =>
    rw [exec_nil, Option.some.injEq] at hother
    exact ⟨as, hother ▸ hrun, .refl _⟩
  | cons b bs ih =>
    obtain ⟨u, hu, hrest⟩ := exec_cons_eq_some.1 hother
    have hmem : b ∈ as := by
      by_contra hno
      obtain ⟨v, hv⟩ := exec_postpone hc hrun hu hno
      rw [hf b] at hv
      cases hv
    obtain ⟨cs, hcs, hperm⟩ := ih (exec_erase hc hrun hu hmem) hrest
    exact ⟨cs, hcs, (List.perm_cons_erase hmem).trans (hperm.cons b)⟩

/-- If the actions commute and one run ends in a final state, every run does. -/
theorem settles_of_exec (hc : Commuting step) {as : List A} {s f : S} (hrun : exec step s as = some f)
    (hf : Final step f) : Settles step s f as.length where
  final := hf
  completes bs t h := by
    obtain ⟨cs, hcs, -⟩ := exec_complete hc hrun hf h
    exact ⟨cs, hcs⟩
  bounded bs t h := by
    obtain ⟨cs, -, hperm⟩ := exec_complete hc hrun hf h
    have hlen := hperm.length_eq
    rw [List.length_append] at hlen
    omega

end Transition
