import Mathlib

/-!
# Walking a list that is stored in parts

A list is stored as a chain of parts, and a loop walks it with a cursor: the current part, the parts after it and an
index.  A pass of the loop moves on to the next part when the index is at the end of the current one; it then reads
the element at the index and does not look again whether there is one.  If no later part is empty, the loop sees the
elements of all parts in order and never reads outside of a part (`run_eq`), and it ends (`run_of_length_lt`).
-/

namespace Parts

variable {α β : Type}

/-- Where the walk is. -/
structure Cursor (α : Type) where
  part : List α
  next : List (List α)
  index : Nat

/-- What a pass of the loop does: it leaves the loop at the end of the list, or with a value, or it goes on, or it
reads at an index where the part has no element. -/
inductive Pass (α β : Type)
  | ended
  | returned (b : β)
  | goOn (c : Cursor α)
  | outside

/-- The end of a walk: the value that was found, or a read outside of a part. -/
inductive Outcome (β : Type)
  | found (b : Option β)
  | outside
  deriving DecidableEq, Repr

namespace Cursor

/-- The cursor that is read at, after the check of the index. -/
def enter (c : Cursor α) : Option (Cursor α) :=
  if c.part.length ≤ c.index then
    match c.next with
    | [] => none
    | part :: next => some ⟨part, next, 0⟩
  else some c

/-- One pass, for a body that returns a value or goes on. -/
def pass (body : α → Option β) (c : Cursor α) : Pass α β :=
  match c.enter with
  | none => .ended
  | some c =>
    match c.part[c.index]? with
    | none => .outside
    | some a =>
      match body a with
      | some b => .returned b
      | none => .goOn { c with index := c.index + 1 }

/-- The loop, for at most so many passes. -/
def run (body : α → Option β) : Nat → Cursor α → Option (Outcome β)
  | 0, _ => none
  | n + 1, c =>
    match c.pass body with
    | .ended => some (.found none)
    | .returned b => some (.found (some b))
    | .goOn c => run body n c
    | .outside => some .outside

/-- The elements that are not read yet. -/
def remaining (c : Cursor α) : List α := c.part.drop c.index ++ c.next.flatten

/-- The index is in the part or at its end, and there is something to read in every later part. -/
structure Inside (c : Cursor α) : Prop where
  index : c.index ≤ c.part.length
  next : ∀ part ∈ c.next, part ≠ []

variable {c : Cursor α}

/-- At the end of the list there is no element left. -/
theorem enter_of_remaining_nil (h : c.Inside) (hr : c.remaining = []) : c.enter = none := by
  obtain ⟨hpart, hnext⟩ := List.append_eq_nil_iff.1 hr
  have hindex : c.part.length ≤ c.index := List.drop_eq_nil_iff.1 hpart
  rcases hc : c.next with _ | ⟨part, next⟩
  · rw [enter, if_pos hindex, hc]
  · have hne : part ≠ [] := h.next part (by rw [hc]; exact List.mem_cons_self)
    rw [hc, List.flatten_cons, List.append_eq_nil_iff] at hnext
    exact absurd hnext.1 hne

/-- Elsewhere the cursor that is read at stands before the next element. -/
theorem enter_of_remaining_cons (h : c.Inside) {a : α} {l : List α} (hr : c.remaining = a :: l) :
    ∃ c', c.enter = some c' ∧ c'.part[c'.index]? = some a ∧
      Inside { c' with index := c'.index + 1 } ∧ remaining { c' with index := c'.index + 1 } = l := by
  by_cases hindex : c.part.length ≤ c.index
  · -- the next part is read at its first element, without a check that it has one
    have hpart : c.part.drop c.index = [] := List.drop_eq_nil_iff.2 hindex
    rcases hc : c.next with _ | ⟨part, next⟩
    · rw [remaining, hpart, hc] at hr
      cases hr
    · have hne : part ≠ [] := h.next part (by rw [hc]; exact List.mem_cons_self)
      obtain ⟨b, part, rfl⟩ := List.exists_cons_of_ne_nil hne
      rw [remaining, hpart, hc] at hr
      obtain ⟨rfl, rfl⟩ := List.cons.inj hr
      refine ⟨⟨b :: part, next, 0⟩, by rw [enter, if_pos hindex, hc], rfl, ⟨by simp, ?_⟩, rfl⟩
      intro part' hmem
      exact h.next part' (by rw [hc]; exact List.mem_cons_of_mem _ hmem)
  · have hlt : c.index < c.part.length := by omega
    rw [remaining, List.drop_eq_getElem_cons hlt] at hr
    obtain ⟨rfl, rfl⟩ := List.cons.inj hr
    exact ⟨c, if_neg hindex, List.getElem?_eq_getElem hlt, ⟨hlt, h.next⟩, rfl⟩

private theorem run_of_remaining_nil (body : α → Option β) (h : c.Inside) (hr : c.remaining = []) (n : Nat) :
    c.run body (n + 1) = some (.found none) := by
  rw [run, pass, enter_of_remaining_nil h hr]

/-- A pass reads the next element, and leaves the loop or goes on behind it. -/
theorem run_of_remaining_cons (body : α → Option β) (h : c.Inside) {a : α} {l : List α} (hr : c.remaining = a :: l) :
    ∃ c' : Cursor α, c'.Inside ∧ c'.remaining = l ∧
      ∀ n, c.run body (n + 1) = (body a).elim (c'.run body n) fun b => some (.found (some b)) := by
  obtain ⟨c', henter, hget, hinside, hrest⟩ := enter_of_remaining_cons h hr
  refine ⟨_, hinside, hrest, fun n => ?_⟩
  rw [run, pass, henter]
  dsimp only
  rw [hget]
  dsimp only
  rcases body a with _ | b
  · rfl
  · rfl

/-- A walk that has ended after so many passes has found the first value of the body; it never reads outside. -/
theorem run_eq (body : α → Option β) (h : c.Inside) (n : Nat) :
    c.run body n = none ∨ c.run body n = some (.found (c.remaining.findSome? body)) := by
  induction n generalizing c with
  | zero => exact .inl rfl
  | succ n ih =>
    rcases hr : c.remaining with _ | ⟨a, l⟩
    · exact .inr (run_of_remaining_nil body h hr n)
    · obtain ⟨c', hinside, hrest, hrun⟩ := run_of_remaining_cons body h hr
      rw [hrun, List.findSome?_cons, ← hrest]
      rcases body a with _ | b
      · exact ih hinside
      · exact .inr rfl

/-- The walk ends, at the latest with the pass that finds no element left. -/
theorem run_of_length_lt (body : α → Option β) (h : c.Inside) {n : Nat} (hn : c.remaining.length < n) :
    c.run body n = some (.found (c.remaining.findSome? body)) := by
  induction n generalizing c with
  | zero => omega
  | succ n ih =>
    rcases hr : c.remaining with _ | ⟨a, l⟩
    · exact run_of_remaining_nil body h hr n
    · obtain ⟨c', hinside, hrest, hrun⟩ := run_of_remaining_cons body h hr
      have hlen : c'.remaining.length < n := by
        rw [hr, List.length_cons] at hn
        rw [hrest]
        omega
      rw [hrun, List.findSome?_cons, ← hrest]
      rcases body a with _ | b
      · exact ih hinside hlen
      · rfl

end Cursor

end Parts
