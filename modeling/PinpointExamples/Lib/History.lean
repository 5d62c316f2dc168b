import Mathlib.Data.List.Basic

/-!
# Histories

A history is the list of the events of a run.  `AtEach P l` says that every event of the history `l` stood in the
relation `P` to the events before it: what was the case when the event was recorded.  A history that is carried on
only has to be looked at where it grew (`atEach_snoc`).  In a history of several threads the events carry the thread
they are of, and `onThread t l` is what the thread `t` contributed.
-/

namespace History

variable {E : Type*} {P : List E → E → Prop} {l l' : List E}

/-- Every event was recorded after a past that `P` allows. -/
def AtEach (P : List E → E → Prop) (l : List E) : Prop :=
  ∀ before e after, l = before ++ e :: after → P before e

theorem atEach_nil : AtEach P [] := by
  intro before e after h
  simp at h

theorem AtEach.of_append (h : AtEach P (l ++ l')) : AtEach P l := by
  rintro before e after rfl
  exact h before e (after ++ l') (by simp)

theorem atEach_snoc {e : E} : AtEach P (l ++ [e]) ↔ AtEach P l ∧ P l e := by
  constructor
  · intro h
    exact ⟨h.of_append, h l e [] rfl⟩
  · rintro ⟨hl, he⟩ before a after h
    rcases List.append_eq_append_iff.1 h with ⟨tail, rfl, ht⟩ | ⟨tail, rfl, ht⟩
    · -- the event is the new one
      cases tail with
      | nil =>
        obtain ⟨rfl, -⟩ : e = a ∧ _ := by simpa using ht
        simpa using he
      | cons b tail => simp at ht
    · cases tail with
      | nil =>
        obtain ⟨rfl, -⟩ : a = e ∧ _ := by simpa using ht
        simpa using he
      | cons b tail =>
        obtain ⟨rfl, -⟩ : a = b ∧ _ := by simpa using ht
        exact hl before a tail rfl

/-! ### Threads -/

section threads

variable {T : Type*} [DecidableEq T]

/-- The events of one thread. -/
def onThread (t : T) (l : List (T × E)) : List E := l.filterMap fun e => if e.1 = t then some e.2 else none

/-- Events as events of a thread. -/
def ofThread (t : T) (l : List E) : List (T × E) := l.map fun e => (t, e)

@[simp] theorem onThread_append (t : T) (l l' : List (T × E)) :
    onThread t (l ++ l') = onThread t l ++ onThread t l' := List.filterMap_append ..

@[simp] theorem onThread_self (t : T) (l : List E) : onThread t (ofThread t l) = l := by
  rw [onThread, ofThread, List.filterMap_map]
  simp

theorem onThread_other {t t' : T} (h : t' ≠ t) (l : List E) : onThread t (ofThread t' l) = [] := by
  rw [onThread, ofThread, List.filterMap_map, List.filterMap_eq_nil_iff]
  intro e _
  simp [h]

end threads

end History
