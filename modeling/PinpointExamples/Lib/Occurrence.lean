import Mathlib

/-!
# Where an element or a pattern occurs in a list

The text before the first occurrence of an element, and the positions of its first and of its last occurrence.  A
list is cut at the first `a` into the part without `a` and a rest that is empty or starts with `a`
(`takeWhile_ne_eq_iff`).  A list is cut at the last occurrence of a pattern into a part before it and a part that
does not contain the pattern (`cut_lastOccurrence`); occurrences may overlap.
-/

namespace Occurrence

variable {α : Type} [DecidableEq α] {a : α} {l : List α}

/-- The list is empty or starts with `a`. -/
def EmptyOrFrom (a : α) (l : List α) : Prop := l = [] ∨ l.head? = some a

theorem idxOf?_append_cons (h : a ∉ l) (r : List α) : (l ++ a :: r).idxOf? a = some l.length := by
  induction l with
  | nil => simp [List.idxOf?_cons]
  | cons b l ih =>
    simp only [List.mem_cons, not_or] at h
    have hb : (b == a) = false := by simpa using Ne.symm h.1
    rw [List.cons_append, List.idxOf?_cons, hb, ih h.2]
    rfl

/-- The last occurrence, read from the other end. -/
theorem idxOf?_reverse_append_cons (l : List α) {r : List α} (h : a ∉ r) :
    (l ++ a :: r).reverse.idxOf? a = some r.length := by
  have hrev : (l ++ a :: r).reverse = r.reverse ++ a :: l.reverse := by simp
  rw [hrev, idxOf?_append_cons (by simpa using h), List.length_reverse]

/-- What comes before the first occurrence; everything if there is none. -/
theorem elim_idxOf?_take (a : α) (l : List α) : (l.idxOf? a).elim l l.take = l.takeWhile fun b => b ≠ a := by
  induction l with
  | nil => rfl
  | cons b l ih =>
    rw [List.idxOf?_cons, List.takeWhile_cons]
    by_cases h : b = a
    · simp [h]
    · have hne : (b == a) = false := by simpa using h
      have hkeep : decide (b ≠ a) = true := by simpa using h
      rw [hne, hkeep]
      rcases hi : l.idxOf? a with _ | i
      · rw [hi] at ih
        simpa using ih
      · rw [hi] at ih
        simpa using ih

theorem takeWhile_ne_append {p r : List α} (hp : a ∉ p) :
    (p ++ r).takeWhile (fun b => b ≠ a) = p ++ r.takeWhile fun b => b ≠ a := by
  apply List.takeWhile_append_of_pos
  intro b hb
  have hne : b ≠ a := fun h => hp (h ▸ hb)
  simpa using hne

theorem takeWhile_ne_eq_nil : l.takeWhile (fun b => b ≠ a) = [] ↔ EmptyOrFrom a l := by
  cases l with
  | nil => simp [EmptyOrFrom]
  | cons b l => simp [EmptyOrFrom, List.takeWhile_cons]

/-- The part before the first `a` has no `a`, and what follows it is empty or starts with `a`. -/
theorem takeWhile_ne_eq_iff {p : List α} (hp : a ∉ p) :
    l.takeWhile (fun b => b ≠ a) = p ↔ ∃ r, l = p ++ r ∧ EmptyOrFrom a r := by
  constructor
  · intro h
    refine ⟨l.dropWhile fun b => b ≠ a, ?_, ?_⟩
    · rw [← h, List.takeWhile_append_dropWhile]
    · cases hd : l.dropWhile fun b => b ≠ a with
      | nil => exact .inl rfl
      | cons b r =>
        have hhead := List.head?_dropWhile_not (fun b => decide (b ≠ a)) l
        rw [hd] at hhead
        have hb : b = a := by simpa using hhead
        rw [hb]
        exact .inr rfl
  · rintro ⟨r, rfl, hr⟩
    rw [takeWhile_ne_append hp, takeWhile_ne_eq_nil.2 hr, List.append_nil]

/-! ### Patterns -/

/-- Where a pattern occurs last. -/
def lastOccurrence (pattern : List α) : List α → Option Nat
  | [] => if pattern.isEmpty then some 0 else none
  | b :: l =>
    match lastOccurrence pattern l with
    | some i => some (i + 1)
    | none => if pattern.isPrefixOf (b :: l) then some 0 else none

section pattern

variable {pattern : List α}

theorem lastOccurrence_eq_none_iff : lastOccurrence pattern l = none ↔ ¬ pattern <:+: l := by
  induction l with
  | nil => simp [lastOccurrence]
  | cons b l ih =>
    rw [List.infix_cons_iff, not_or]
    unfold lastOccurrence
    rcases hl : lastOccurrence pattern l with _ | i
    · simp [ih.1 hl]
    · have hin : pattern <:+: l := by
        by_contra hno
        rw [ih.2 hno] at hl
        cases hl
      simp [hin]

/-- At the last occurrence there is the pattern, and it does not occur again after the next element. -/
theorem lastOccurrence_spec {i : Nat} (hp : pattern ≠ []) (h : lastOccurrence pattern l = some i) :
    pattern <+: l.drop i ∧ ¬ pattern <:+: l.drop (i + 1) := by
  induction l generalizing i with
  | nil => simp [lastOccurrence, hp] at h
  | cons b l ih =>
    unfold lastOccurrence at h
    rcases hl : lastOccurrence pattern l with _ | j
    · rw [hl] at h
      dsimp only at h
      split at h
      · rename_i hpre
        obtain rfl := Option.some.inj h
        exact ⟨List.isPrefixOf_iff_prefix.1 hpre, lastOccurrence_eq_none_iff.1 hl⟩
      · cases h
    · rw [hl] at h
      obtain rfl := Option.some.inj h
      exact ih hl

/-- A list is cut at the last occurrence of a pattern. -/
theorem cut_lastOccurrence {i : Nat} (hp : pattern ≠ []) (h : lastOccurrence pattern l = some i) :
    l.take i ++ pattern ++ l.drop (i + pattern.length) = l ∧ ¬ pattern <:+: l.drop (i + pattern.length) := by
  obtain ⟨⟨r, hr⟩, hlast⟩ := lastOccurrence_spec hp h
  have hdrop : l.drop (i + pattern.length) = r := by
    rw [← List.drop_drop, ← hr, List.drop_left]
  have hlen : i + 1 ≤ i + pattern.length := by
    have := List.length_pos_iff.2 hp
    omega
  constructor
  · rw [hdrop, List.append_assoc, hr, List.take_append_drop]
  · intro hin
    have hsuffix : l.drop (i + pattern.length) <:+ l.drop (i + 1) := List.drop_suffix_drop_left l hlen
    exact hlast (hin.trans hsuffix.isInfix)

end pattern

end Occurrence
