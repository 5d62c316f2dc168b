import Mathlib.Data.Nat.Basic
import Mathlib.Data.Sum.Basic

/-!
# Loops that run against a clock

A pass of a loop either leaves it with a result or goes on in another state; what the surroundings do in the passes
is given as a stream.  A loop whose passes take time, and that goes on only before a deadline, leaves after a number
of passes that is known beforehand (`exists_leaves_of_deadline`).
-/

namespace Rounds

variable {σ α ρ : Type*} (body : α → σ → ρ ⊕ σ) (ω : Nat → α)

/-- The loop from pass `k` on, for a number of passes; with the result comes the pass that left. -/
def run : Nat → Nat → σ → Option (Nat × ρ)
  | 0, _, _ => none
  | n + 1, k, s =>
    match body (ω k) s with
    | .inl r => some (k, r)
    | .inr t => run n (k + 1) t

/-- The state in which pass `k` begins, if the loop comes to it. -/
def before (s : σ) : Nat → Option σ
  | 0 => some s
  | k + 1 => (before s k).bind fun t => (body (ω k) t).getRight?

/-- The loop leaves in pass `k`. -/
def Leaves (s : σ) (k : Nat) (r : ρ) : Prop := ∃ t, before body ω s k = some t ∧ body (ω k) t = .inl r

variable {body ω} {s : σ}

private theorem before_succ {k : Nat} {t : σ} :
    before body ω s (k + 1) = some t ↔ ∃ t', before body ω s k = some t' ∧ body (ω k) t' = .inr t := by
  rw [before, Option.bind_eq_some_iff]
  simp only [Sum.getRight?_eq_some_iff]

private theorem run_before {k : Nat} {t : σ} (h : before body ω s k = some t) (n : Nat) :
    run body ω (k + n) 0 s = run body ω n k t := by
  induction k generalizing t n with
  | zero =>
    obtain rfl := Option.some.inj h
    rw [Nat.zero_add]
  | succ k ih =>
    obtain ⟨t', ht', hgo⟩ := before_succ.1 h
    have hlong : k + 1 + n = k + (n + 1) := by omega
    rw [hlong, ih ht', run, hgo]

/-- A loop that is run long enough leaves where it leaves. -/
theorem run_of_leaves {k n : Nat} {r : ρ} (h : Leaves body ω s k r) (hk : k < n) :
    run body ω n 0 s = some (k, r) := by
  obtain ⟨t, ht, hleave⟩ := h
  obtain ⟨m, rfl⟩ : ∃ m, n = k + (m + 1) := ⟨n - k - 1, by omega⟩
  rw [run_before ht, run, hleave]

/-- What holds before the first pass, and after a pass that goes on, holds before every pass. -/
theorem before_induction {I : Nat → σ → Prop} (hs : I 0 s)
    (hpass : ∀ k t t', I k t → body (ω k) t = .inr t' → I (k + 1) t') {k : Nat} {t : σ}
    (h : before body ω s k = some t) : I k t := by
  induction k generalizing t with
  | zero =>
    obtain rfl := Option.some.inj h
    exact hs
  | succ k ih =>
    obtain ⟨t', ht', hgo⟩ := before_succ.1 h
    exact hpass k t' t (ih ht') hgo

/-- All passes before one that the loop comes to went on. -/
theorem exists_before_of_lt {j k : Nat} {t : σ} (h : before body ω s k = some t) (hj : j < k) :
    ∃ t' t'', before body ω s j = some t' ∧ body (ω j) t' = .inr t'' ∧ before body ω s (j + 1) = some t'' := by
  induction k generalizing t with
  | zero => omega
  | succ k ih =>
    obtain ⟨t', ht', hgo⟩ := before_succ.1 h
    by_cases hjk : j = k
    · subst hjk
      exact ⟨t', t, ht', hgo, h⟩
    · exact ih ht' (by omega)

/-- A loop that comes to no pass after `N` leaves. -/
theorem exists_leaves_of_bounded {N : Nat} (h : before body ω s (N + 1) = none) :
    ∃ k ≤ N, ∃ r, Leaves body ω s k r := by
  -- at each pass it has left, or goes on
  have hpass (k : Nat) : (∃ t, before body ω s k = some t) ∨ ∃ j < k, ∃ r, Leaves body ω s j r := by
    induction k with
    | zero => exact .inl ⟨s, rfl⟩
    | succ k ih =>
      rcases ih with ⟨t, ht⟩ | ⟨j, hj, r, hleaves⟩
      · rcases hgo : body (ω k) t with r | t'
        · exact .inr ⟨k, by omega, r, t, ht, hgo⟩
        · exact .inl ⟨t', before_succ.2 ⟨t, ht, hgo⟩⟩
      · exact .inr ⟨j, by omega, r, hleaves⟩
  rcases hpass (N + 1) with ⟨t, ht⟩ | ⟨j, hj, hleaves⟩
  · rw [h] at ht
    cases ht
  · exact ⟨j, by omega, hleaves⟩

section clock

variable {clock : σ → Nat} {δ : Nat}

private theorem clock_before (hpass : ∀ k t t', body (ω k) t = .inr t' → clock t + δ ≤ clock t') {k : Nat} {t : σ}
    (h : before body ω s k = some t) : clock s + δ * k ≤ clock t := by
  refine before_induction (I := fun k t => clock s + δ * k ≤ clock t) (by simp) ?_ h
  intro k t t' ht hgo
  have hstep := hpass k t t' hgo
  rw [Nat.mul_add, Nat.mul_one]
  omega

/-- A loop whose passes take `δ` at least, and that goes on only before a deadline, leaves. -/
theorem exists_leaves_of_deadline (clock : σ → Nat) (δ deadline : Nat) {N : Nat}
    (hpass : ∀ k t t', body (ω k) t = .inr t' → clock t + δ ≤ clock t')
    (hgo : ∀ k t t', body (ω k) t = .inr t' → clock t < deadline) (hN : deadline ≤ clock s + δ * N) :
    ∃ k ≤ N, ∃ r, Leaves body ω s k r := by
  refine exists_leaves_of_bounded ?_
  rcases hbefore : before body ω s (N + 1) with _ | t
  · rfl
  · obtain ⟨t', ht', hlast⟩ := before_succ.1 hbefore
    have hclock := clock_before hpass ht'
    have hdeadline := hgo N t' t hlast
    omega

end clock

end Rounds
