import Mathlib

/-!
# Association lists with repeated keys

A list of key/value entries in which a key may occur several times, read up to a relation `r` on the keys (equality,
or equality ignoring case).  `under r k l` are the entries under `k`, `first` and `last` the values of the first and
of the last of them.  A sorted multimap (`SortedMultimap`) is such a list in the order of its keys, in which a new
entry goes behind the entries with the same key.
-/

namespace Assoc

variable {κ ν : Type}

section under

variable (r : κ → κ → Prop) [DecidableRel r]

def under (k : κ) (l : List (κ × ν)) : List (κ × ν) := l.filter fun e => r e.1 k

def first (k : κ) (l : List (κ × ν)) : Option ν := (under r k l).head?.map Prod.snd

def last (k : κ) (l : List (κ × ν)) : Option ν := (under r k l).getLast?.map Prod.snd

variable {r}

theorem mem_under {k : κ} {l : List (κ × ν)} {e : κ × ν} : e ∈ under r k l ↔ e ∈ l ∧ r e.1 k := by
  simp [under]

@[simp] theorem under_nil (k : κ) : under r k ([] : List (κ × ν)) = [] := rfl

@[simp] theorem under_append (k : κ) (l l' : List (κ × ν)) :
    under r k (l ++ l') = under r k l ++ under r k l' := List.filter_append ..

theorem under_cons_of_pos {k : κ} {e : κ × ν} (l : List (κ × ν)) (h : r e.1 k) :
    under r k (e :: l) = e :: under r k l := by
  simp [under, h]

theorem under_cons_of_neg {k : κ} {e : κ × ν} (l : List (κ × ν)) (h : ¬ r e.1 k) :
    under r k (e :: l) = under r k l := by
  simp [under, h]

theorem under_eq_nil {k : κ} {l : List (κ × ν)} : under r k l = [] ↔ ∀ e ∈ l, ¬ r e.1 k := by
  simp [under]

theorem first_eq_find? (k : κ) (l : List (κ × ν)) :
    first r k l = (l.find? fun e => r e.1 k).map Prod.snd := by
  rw [first, under, List.head?_filter]

theorem first_append (k : κ) (l l' : List (κ × ν)) :
    first r k (l ++ l') = (first r k l).or (first r k l') := by
  rw [first, first, first, under_append, List.head?_append, Option.map_or]

theorem last_append (k : κ) (l l' : List (κ × ν)) :
    last r k (l ++ l') = (last r k l').or (last r k l) := by
  rw [last, last, last, under_append, List.getLast?_append, Option.map_or]

theorem first_eq_none {k : κ} {l : List (κ × ν)} : first r k l = none ↔ ∀ e ∈ l, ¬ r e.1 k := by
  rw [first, Option.map_eq_none_iff, List.head?_eq_none_iff, under_eq_nil]

theorem last_eq_none {k : κ} {l : List (κ × ν)} : last r k l = none ↔ ∀ e ∈ l, ¬ r e.1 k := by
  rw [last, Option.map_eq_none_iff, List.getLast?_eq_none_iff, under_eq_nil]

theorem exists_of_first_eq_some {k : κ} {l : List (κ × ν)} {v : ν} (h : first r k l = some v) :
    ∃ e ∈ l, r e.1 k ∧ e.2 = v := by
  rw [first_eq_find?, Option.map_eq_some_iff] at h
  obtain ⟨e, he, rfl⟩ := h
  exact ⟨e, List.mem_of_find?_eq_some he, by simpa using List.find?_some he, rfl⟩

/-- If all entries under a key have the same value, that value is the first one. -/
theorem first_eq_of_forall {k : κ} {l : List (κ × ν)} {v : ν} (he : ∃ e ∈ l, r e.1 k)
    (hv : ∀ e ∈ l, r e.1 k → e.2 = v) : first r k l = some v := by
  obtain ⟨e, he, hk⟩ := he
  rcases h : first r k l with _ | v'
  · exact absurd hk (first_eq_none.1 h e he)
  · obtain ⟨e', he', hk', rfl⟩ := exists_of_first_eq_some h
    rw [hv e' he' hk']

theorem first_cons_of_pos {k : κ} {e : κ × ν} (l : List (κ × ν)) (h : r e.1 k) :
    first r k (e :: l) = some e.2 := by
  rw [first, under_cons_of_pos l h]
  rfl

theorem first_cons_of_neg {k : κ} {e : κ × ν} (l : List (κ × ν)) (h : ¬ r e.1 k) :
    first r k (e :: l) = first r k l := by
  rw [first, under_cons_of_neg l h]
  rfl

/-- Among entries with unrelated keys, each is the first one under its key. -/
theorem first_eq_of_pairwise (hr : Equivalence r) {k : κ} {l : List (κ × ν)}
    (hl : l.Pairwise fun a b => ¬ r a.1 b.1) {e : κ × ν} (he : e ∈ l) (hk : r e.1 k) :
    first r k l = some e.2 := by
  induction l with
  | nil => simp at he
  | cons a l ih =>
    rw [List.pairwise_cons] at hl
    rcases List.mem_cons.1 he with rfl | he
    · exact first_cons_of_pos l hk
    · have ha : ¬ r a.1 k := fun h => hl.1 e he (hr.trans h (hr.symm hk))
      rw [first_cons_of_neg l ha, ih hl.2 he]

/-- What is written under a key hides, for the last-wins reading, what was there before. -/
theorem last_append_of_mem {k : κ} {l l' : List (κ × ν)} {e : κ × ν} (he : e ∈ l') (hr : r e.1 k) :
    last r k (l ++ l') = last r k l' := by
  rw [last_append]
  rcases h : last r k l' with _ | v
  · exact absurd hr (last_eq_none.1 h e he)
  · rfl

theorem last_isSome_of_mem {k : κ} {l : List (κ × ν)} {e : κ × ν} (he : e ∈ l) (hk : r e.1 k) :
    ∃ v, last r k l = some v := by
  rcases h : last r k l with _ | v
  · exact absurd hk (last_eq_none.1 h e he)
  · exact ⟨v, rfl⟩

theorem exists_of_last_eq_some {k : κ} {l : List (κ × ν)} {v : ν} (h : last r k l = some v) :
    ∃ e ∈ l, r e.1 k ∧ e.2 = v := by
  rw [last, Option.map_eq_some_iff] at h
  obtain ⟨e, he, rfl⟩ := h
  have hm := mem_under.1 (List.mem_of_getLast? he)
  exact ⟨e, hm.1, hm.2, rfl⟩

theorem last_map_value {μ : Type} (f : ν → μ) (k : κ) (l : List (κ × ν)) :
    last r k (l.map fun e => (e.1, f e.2)) = (last r k l).map f := by
  have h : under r k (l.map fun e => (e.1, f e.2)) = (under r k l).map fun e => (e.1, f e.2) := by
    rw [under, List.filter_map]
    rfl
  rw [last, last, h, List.getLast?_map, Option.map_map, Option.map_map]
  rfl

/-- Replacing the keys by related ones does not change what is found first. -/
theorem first_map_key {f : κ → κ} {k : κ} (hf : ∀ x, r (f x) k ↔ r x k) (l : List (κ × ν)) :
    first r k (l.map fun e => (f e.1, e.2)) = first r k l := by
  induction l with
  | nil => rfl
  | cons e l ih =>
    rw [List.map_cons]
    by_cases h : r e.1 k
    · rw [first_cons_of_pos l h, first_cons_of_pos _ ((hf e.1).2 h)]
    · rw [first_cons_of_neg l h, first_cons_of_neg _ (fun h' => h ((hf e.1).1 h')), ih]

end under

/-! ### Sorted multimaps -/

/-- A list of entries in the order of their keys. -/
structure SortedMultimap (κ ν : Type) [LinearOrder κ] where
  entries : List (κ × ν)
  sorted : entries.Pairwise fun a b => a.1 ≤ b.1

namespace SortedMultimap

variable [LinearOrder κ]

def empty : SortedMultimap κ ν := ⟨[], .nil⟩

private theorem lt_of_mem_dropWhile {k : κ} {l : List (κ × ν)} (hl : l.Pairwise fun a b => a.1 ≤ b.1)
    {e : κ × ν} (he : e ∈ l.dropWhile fun e => e.1 ≤ k) : k < e.1 := by
  induction l with
  | nil => simp at he
  | cons a l ih =>
    rw [List.pairwise_cons] at hl
    rw [List.dropWhile_cons] at he
    split at he
    · exact ih hl.2 he
    · rename_i ha
      have ha : k < a.1 := by simpa using ha
      rcases List.mem_cons.1 he with rfl | he
      · exact ha
      · exact lt_of_lt_of_le ha (hl.1 e he)

private theorem le_of_mem_takeWhile {k : κ} {l : List (κ × ν)} {e : κ × ν}
    (he : e ∈ l.takeWhile fun e => e.1 ≤ k) : e.1 ≤ k := by
  simpa using List.mem_takeWhile_imp he

/-- `insert` puts the entry behind the last one whose key is not larger. -/
def insert (m : SortedMultimap κ ν) (k : κ) (v : ν) : SortedMultimap κ ν where
  entries := (m.entries.takeWhile fun e => e.1 ≤ k) ++ (k, v) :: m.entries.dropWhile fun e => e.1 ≤ k
  sorted := by
    rw [List.pairwise_append, List.pairwise_cons]
    refine ⟨m.sorted.sublist (List.takeWhile_sublist _), ⟨?_, m.sorted.sublist (List.dropWhile_sublist _)⟩, ?_⟩
    · exact fun e he => le_of_lt (lt_of_mem_dropWhile m.sorted he)
    · intro a ha b hb
      rcases List.mem_cons.1 hb with rfl | hb
      · exact le_of_mem_takeWhile ha
      · exact le_of_lt (lt_of_le_of_lt (le_of_mem_takeWhile ha) (lt_of_mem_dropWhile m.sorted hb))

theorem insert_perm (m : SortedMultimap κ ν) (k : κ) (v : ν) :
    (m.insert k v).entries.Perm ((k, v) :: m.entries) := by
  refine List.perm_middle.trans (.cons _ ?_)
  rw [List.takeWhile_append_dropWhile]

/-- Under a key whose relatives all come before `k`, the new entry is the last one. -/
theorem under_insert {r : κ → κ → Prop} [DecidableRel r] (m : SortedMultimap κ ν) {k k' : κ} (v : ν)
    (h : r k k' → ∀ x, r x k' → x ≤ k) :
    under r k' (m.insert k v).entries = under r k' m.entries ++ under r k' [(k, v)] := by
  by_cases hk : r k k'
  · have hd : under r k' (m.entries.dropWhile fun e => e.1 ≤ k) = [] := by
      apply under_eq_nil.2
      intro e he hr
      exact absurd (lt_of_mem_dropWhile m.sorted he) (not_lt_of_ge (h hk _ hr))
    have hm := congrArg (under r k') (List.takeWhile_append_dropWhile (p := fun e => e.1 ≤ k) (l := m.entries))
    rw [under_append, hd, List.append_nil] at hm
    rw [insert, under_append, under_cons_of_pos _ hk, hd, hm, under_cons_of_pos _ hk, under_nil]
  · rw [insert, under_append, under_cons_of_neg _ hk, ← under_append, List.takeWhile_append_dropWhile,
      under_cons_of_neg _ hk, under_nil, List.append_nil]

end SortedMultimap

end Assoc
