import NvBowtie.Basic

/-!
# The adaptive hits-per-read policy

Lines 718-738 of `best_approx_score`. With more than `BATCH_SIZE/2` active reads a round
selects one hit per read; otherwise it asks for
`min(BATCH_SIZE / Q, min(4096u, params.max_ext - n_ext))` hits per read, the subtraction on
`uint32`. `BATCH_SIZE` is a constant of `Aligner` outside the sources, so it is a parameter.
The multi-hit choice always fits the 12-bit extension index and the batch; it respects the
budget only while `n_ext` is within it, and it is `0` once `n_ext` reaches `params.max_ext`.
-/

namespace NvBowtie
set_option autoImplicit false

/-- `pipeline.n_hits_per_read` as lines 719-737 choose it, for `Q = active_read_queues.in_size`. -/
def hitsPerRead (batchSize maxExt nExt inSize : Nat) : Nat :=
  if inSize ≤ batchSize / 2 then min (batchSize / inSize) (min 4096 (subU32 maxExt nExt)) else 1

section
variable {batchSize maxExt nExt inSize : Nat}

theorem hitsPerRead_of_lt (h : batchSize / 2 < inSize) :
    hitsPerRead batchSize maxExt nExt inSize = 1 :=
  if_neg (Nat.not_le.2 h)

theorem hitsPerRead_of_le (h : inSize ≤ batchSize / 2) :
    hitsPerRead batchSize maxExt nExt inSize =
      min (batchSize / inSize) (min 4096 (subU32 maxExt nExt)) :=
  if_pos h

/-- A multi-hit choice fits the 12-bit extension index. -/
theorem hitsPerRead_le_4096 (h : inSize ≤ batchSize / 2) :
    hitsPerRead batchSize maxExt nExt inSize ≤ 4096 := by
  rw [hitsPerRead_of_le h]; omega

/-- A multi-hit round asks for at most `BATCH_SIZE` hits in all. -/
theorem mul_hitsPerRead_le (h : inSize ≤ batchSize / 2) :
    inSize * hitsPerRead batchSize maxExt nExt inSize ≤ batchSize := by
  rw [hitsPerRead_of_le h]
  calc inSize * min (batchSize / inSize) (min 4096 (subU32 maxExt nExt))
      ≤ inSize * (batchSize / inSize) := Nat.mul_le_mul_left _ (min_le_left _ _)
    _ ≤ batchSize := Nat.mul_div_le batchSize inSize

/-- Started within the budget, a multi-hit round stays within it: the subtraction does not
wrap. -/
theorem add_hitsPerRead_le (h : inSize ≤ batchSize / 2) (he : nExt ≤ maxExt)
    (hm : maxExt < 4294967296) : nExt + hitsPerRead batchSize maxExt nExt inSize ≤ maxExt := by
  rw [hitsPerRead_of_le h, subU32_of_le he hm]; omega

/-- Below the budget, or with a large queue, a round asks for at least one hit per read. -/
theorem hitsPerRead_pos (hQ : 0 < inSize) (he : batchSize / 2 < inSize ∨ nExt < maxExt)
    (hm : maxExt < 4294967296) : 0 < hitsPerRead batchSize maxExt nExt inSize := by
  rcases Nat.lt_or_ge (batchSize / 2) inSize with hl | hl
  · rw [hitsPerRead_of_lt hl]; exact Nat.one_pos
  · have hb : 0 < batchSize / inSize := Nat.div_pos (by omega) hQ
    rw [hitsPerRead_of_le hl, subU32_of_le (by omega) hm]; omega

/-- With the budget used up, a multi-hit round asks for no hits at all. -/
theorem hitsPerRead_at_budget (h : inSize ≤ batchSize / 2) (hm : maxExt < 4294967296) :
    hitsPerRead batchSize maxExt maxExt inSize = 0 := by
  rw [hitsPerRead_of_le h, subU32_of_le le_rfl hm]; simp

end

end NvBowtie
