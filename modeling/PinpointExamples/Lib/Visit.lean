import Mathlib

/-!
# Visiting a list with a callback that may stop

`visit` hands the items of a list to a callback, which has a state of its own and answers whether to go on.  A
callback that only records what it is handed (`recorder`) sees the whole list, or the part up to the first item it
stops at.
-/

namespace Visit

variable {α β σ : Type}

def visit (callback : α → σ → Bool × σ) : List α → σ → σ
  | [], s => s
  | a :: l, s =>
    match callback a s with
    | (true, s') => visit callback l s'
    | (false, s') => s'

theorem visit_cons_of_true {callback : α → σ → Bool × σ} {a : α} {s s' : σ} (l : List α)
    (h : callback a s = (true, s')) : visit callback (a :: l) s = visit callback l s' := by
  rw [visit, h]

theorem visit_cons_of_false {callback : α → σ → Bool × σ} {a : α} {s s' : σ} (l : List α)
    (h : callback a s = (false, s')) : visit callback (a :: l) s = s' := by
  rw [visit, h]

theorem visit_map (f : β → α) (callback : α → σ → Bool × σ) (l : List β) (s : σ) :
    visit callback (l.map f) s = visit (fun b => callback (f b)) l s := by
  induction l generalizing s with
  | nil => rfl
  | cons b l ih =>
    rw [List.map_cons]
    unfold visit
    split
    · exact ih _
    · rfl

/-- Keeps the items it is handed, and goes on as long as `go` holds of the items so far. -/
def recorder (go : List α → Bool) (a : α) (seen : List α) : Bool × List α :=
  (go (seen ++ [a]), seen ++ [a])

/-- As long as the recorder goes on, it has seen what it was handed. -/
theorem visit_recorder_append {go : List α → Bool} {l seen : List α} (l' : List α)
    (h : ∀ j < l.length, go (seen ++ l.take (j + 1)) = true) :
    visit (recorder go) (l ++ l') seen = visit (recorder go) l' (seen ++ l) := by
  induction l generalizing seen with
  | nil => simp
  | cons a l ih =>
    have h0 : go (seen ++ [a]) = true := by simpa using h 0 (by simp)
    have hr : recorder go a seen = (true, seen ++ [a]) := by rw [recorder, h0]
    rw [List.cons_append, visit_cons_of_true _ hr, ih]
    · simp
    · intro j hj
      simpa using h (j + 1) (by simpa using hj)

theorem visit_recorder_all (l : List α) : visit (recorder fun _ => true) l [] = l := by
  have h : visit (recorder fun _ => true) (l ++ []) [] = visit (recorder fun _ => true) [] ([] ++ l) :=
    visit_recorder_append [] fun _ _ => rfl
  simpa [visit] using h

/-- A recorder that stops at the `i`-th item has seen exactly the first `i` items. -/
theorem visit_recorder_stop {go : List α → Bool} {l : List α} {i : Nat} (hi : 0 < i) (hil : i ≤ l.length)
    (hgo : ∀ j, 0 < j → j < i → go (l.take j) = true) (hstop : go (l.take i) = false) :
    visit (recorder go) l [] = l.take i := by
  obtain ⟨n, rfl⟩ : ∃ n, i = n + 1 := ⟨i - 1, by omega⟩
  have hn : n < l.length := by omega
  have hl : l = l.take n ++ l[n] :: l.drop (n + 1) := by
    rw [← List.drop_eq_getElem_cons hn, List.take_append_drop]
  have ht : l.take (n + 1) = l.take n ++ [l[n]] := List.take_succ_eq_append_getElem hn
  rw [ht] at hstop ⊢
  conv => lhs; rw [hl]
  rw [visit_recorder_append]
  · rw [List.nil_append]
    exact visit_cons_of_false _ (by rw [recorder, hstop])
  · intro j hj
    rw [List.length_take] at hj
    rw [List.nil_append, List.take_take, Nat.min_eq_left (by omega)]
    exact hgo (j + 1) (by omega) (by omega)

end Visit
