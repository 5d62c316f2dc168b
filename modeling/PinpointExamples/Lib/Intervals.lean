import Mathlib

/-!
# Disjoint intervals

Intervals of integers that do not overlap and lie in one interval are together at most as long as it
(`sum_length_le`).  The intervals are half-open, so those of length 0 are empty and may lie anywhere.
-/

namespace Intervals

variable {ι : Type} {start stop : ℤ} {begins : ι → ℤ} {length : ι → ℕ}

/-- The interval of an index. -/
noncomputable def interval (begins : ι → ℤ) (length : ι → ℕ) (i : ι) : Finset ℤ :=
  Finset.Ico (begins i) (begins i + length i)

theorem mem_interval {i : ι} {x : ℤ} : x ∈ interval begins length i ↔ begins i ≤ x ∧ x < begins i + length i :=
  Finset.mem_Ico

private theorem card_interval (begins : ι → ℤ) (length : ι → ℕ) (i : ι) :
    (interval begins length i).card = length i := by
  rw [interval, Int.card_Ico, add_sub_cancel_left, Int.toNat_natCast]

theorem sum_length_le [Fintype ι]
    (hdisjoint : Pairwise fun i j => Disjoint (interval begins length i) (interval begins length j))
    (hinside : ∀ i, interval begins length i ⊆ Finset.Ico start stop) :
    ∑ i, length i ≤ (stop - start).toNat := by
  have hpairs : ((Finset.univ : Finset ι) : Set ι).PairwiseDisjoint (interval begins length) :=
    fun i _ j _ hij => hdisjoint hij
  calc ∑ i, length i
      = ∑ i, (interval begins length i).card := by simp only [card_interval]
    _ = (Finset.univ.biUnion (interval begins length)).card := (Finset.card_biUnion hpairs).symm
    _ ≤ (Finset.Ico start stop).card := Finset.card_le_card (Finset.biUnion_subset.2 fun i _ => hinside i)
    _ = (stop - start).toNat := Int.card_Ico start stop

end Intervals
