import NvBowtie.Pipeline

/-!
# One extension round of `best_approx_score`

Lines 697-958: clear the scoring output queues, choose `n_hits_per_read`, `select` and swap,
stop at an empty active queue (`break`) or an empty hit queue (`continue`), and otherwise
locate, score the anchor, compact the opposite candidates, reset and score the opposite mates,
reduce, and count the extensions. `roundToReduce` runs a round up to its reducer call, so that
what `score_reduce_paired` is handed can be stated of every round; `extensionRound` finishes it.
The lemmas after the definitions say what a round does to the active queue, to `n_ext` and to
the seed queues; later files use those and never unfold a round.
-/

namespace NvBowtie
set_option autoImplicit false

variable {ε : Type}

/-- Line 781: the pool count when several hits per read were selected, the surviving read
count otherwise. -/
def Aligner.setHitsQueueSize (s : Aligner ε) : Aligner ε :=
  { s with pipeline := { s.pipeline with hitsQueueSize :=
      if 1 < s.pipeline.nHitsPerRead then s.hitsPool else s.activeReads.inSize } }

namespace Setup
variable (S : Setup ε)

/-- `n_hits_per_read` for the active reads a round starts with (lines 719-738). -/
def hitsPerRound (s : Aligner ε) : Nat :=
  hitsPerRead S.batchSize S.params.maxExt s.nExt s.activeReads.inSize

/-- Lines 698-748: `scoring_queues.clear_output()` and the choice of `n_hits_per_read`. -/
def prepareSelect (s : Aligner ε) : Aligner ε :=
  { s with
    activeReads := s.activeReads.clearOutput
    hitsPool := 0
    pipeline := { s.pipeline with nHitsPerRead := S.hitsPerRound s } }

/-- Lines 754-771: `select` on the prepared state, then `active_read_queues.swap()`. A multi-hit
selection appends its hits through the pool counter; otherwise the counter moves as far as
`select` moves it. -/
def selectHits (s : Aligner ε) : Aligner ε :=
  let s := S.prepareSelect s
  let sel := S.prims.select s
  { s with
    env := sel.env
    activeReads := (s.activeReads.emit sel.survivors).swap
    loc := appendSlots s.loc s.hitsPool sel.hits
    hitsPool := s.hitsPool + if 1 < s.pipeline.nHitsPerRead then sel.hits.length else sel.pooled }

/-- Lines 804-847: order the selected hits by SA coordinate, locate them, and order them again
by genome coordinate. -/
def locateHits (s : Aligner ε) : Aligner ε :=
  let s := { s with pipeline := { s.pipeline with
    idxQueue := S.prims.sortHiBits s.pipeline.hitsQueueSize s.loc } }
  let r := S.prims.locateInit s
  let s := { s with env := r.1, loc := r.2 }
  let r := S.prims.locateLookup s
  let s := { s with env := r.1, loc := r.2 }
  { s with pipeline := { s.pipeline with
    idxQueue := S.prims.sortHiBits s.pipeline.hitsQueueSize s.loc } }

/-- Lines 861-864: `anchor_score_best`. -/
def scoreAnchor (s : Aligner ε) : Aligner ε :=
  let r := S.prims.anchorScoreBest s
  { s with env := r.1, score := r.2 }

/-- The positions `p < hits_queue_size` whose anchor score `score[idx_queue[p]]` is not
`worst_score`: the `copy_if` of lines 891-896. -/
def oppositeCandidates (s : Aligner ε) : List Nat :=
  copyIf s.pipeline.hitsQueueSize fun p => s.score (s.pipeline.idxQueue p) != S.worstScore

/-- Lines 891-911: compact the opposite candidates into `opposite_queue`, reset the opposite
scores of all `hits_queue_size` hits to `worst_score`, and score the candidates' mates. -/
def scoreOpposite (s : Aligner ε) : Aligner ε :=
  let kept := S.oppositeCandidates s
  let s := { s with
    oppositeQueue := writeSlots s.oppositeQueue kept
    pipeline := { s.pipeline with oppositeQueueSize := kept.length }
    oppositeScore := fillSlots s.oppositeScore s.pipeline.hitsQueueSize S.worstScore }
  if s.pipeline.oppositeQueueSize = 0 then s
  else
    let r := S.prims.oppositeScoreBest s
    { s with env := r.1, oppositeScore := r.2 }

/-- Lines 940-954: `score_reduce_paired`, then `n_ext += n_hits_per_read`. -/
def reduceScores (s : Aligner ε) : Aligner ε :=
  let r := S.prims.scoreReducePaired s
  { s with
    env := r.1
    activeReads := s.activeReads.emit r.2
    nExt := addU32 s.nExt s.pipeline.nHitsPerRead }

/-- Lines 804-911: locate the selected hits, score their anchors, and score the opposite mates
of those worth it. -/
def scoreHits (s : Aligner ε) : Aligner ε :=
  S.scoreOpposite (S.scoreAnchor (S.locateHits s))

/-- A round up to its call of `score_reduce_paired`: `.inl` the state its `break` (line 778) or
`continue` (line 783) leaves, `.inr` the state the reducer is called on. -/
def roundToReduce (s : Aligner ε) : Aligner ε ⊕ Aligner ε :=
  let s := S.selectHits s
  if s.activeReads.inSize = 0 then .inl s
  else
    let s := s.setHitsQueueSize
    if s.pipeline.hitsQueueSize = 0 then .inl s
    else .inr (S.scoreHits s)

/-- One iteration of the extension loop (lines 693-959). After the `break` the active input
queue is empty, so the loop guard ends the loop there just as the `break` does. -/
def extensionRound (s : Aligner ε) : Aligner ε :=
  match S.roundToReduce s with
  | .inl s => s
  | .inr s => S.reduceScores s

variable (s : Aligner ε)

/-! ### What each stage writes -/

@[simp] theorem input_prepareSelect :
    (S.prepareSelect s).activeReads.input = s.activeReads.input := rfl

@[simp] theorem env_prepareSelect : (S.prepareSelect s).env = s.env := rfl

@[simp] theorem nHitsPerRead_prepareSelect :
    (S.prepareSelect s).pipeline.nHitsPerRead = S.hitsPerRound s := rfl

@[simp] theorem input_selectHits :
    (S.selectHits s).activeReads.input = (S.prims.select (S.prepareSelect s)).survivors :=
  s.activeReads.input_swap_emit_clearOutput _

@[simp] theorem inSize_selectHits :
    (S.selectHits s).activeReads.inSize = (S.prims.select (S.prepareSelect s)).survivors.length := by
  rw [← PingPongQueues.length_input, input_selectHits]

@[simp] theorem hitsPool_selectHits :
    (S.selectHits s).hitsPool = if 1 < S.hitsPerRound s then
      (S.prims.select (S.prepareSelect s)).hits.length
    else (S.prims.select (S.prepareSelect s)).pooled :=
  Nat.zero_add _

@[simp] theorem nHitsPerRead_selectHits :
    (S.selectHits s).pipeline.nHitsPerRead = S.hitsPerRound s := rfl

@[simp] theorem nExt_selectHits : (S.selectHits s).nExt = s.nExt := rfl

@[simp] theorem seedQueues_selectHits : (S.selectHits s).seedQueues = s.seedQueues := rfl

@[simp] theorem activeReads_setHitsQueueSize : s.setHitsQueueSize.activeReads = s.activeReads :=
  rfl

@[simp] theorem hitsQueueSize_setHitsQueueSize : s.setHitsQueueSize.pipeline.hitsQueueSize =
    if 1 < s.pipeline.nHitsPerRead then s.hitsPool else s.activeReads.inSize := rfl

@[simp] theorem nHitsPerRead_setHitsQueueSize :
    s.setHitsQueueSize.pipeline.nHitsPerRead = s.pipeline.nHitsPerRead := rfl

@[simp] theorem nExt_setHitsQueueSize : s.setHitsQueueSize.nExt = s.nExt := rfl

@[simp] theorem seedQueues_setHitsQueueSize : s.setHitsQueueSize.seedQueues = s.seedQueues := rfl

@[simp] theorem score_scoreOpposite : (S.scoreOpposite s).score = s.score := by
  dsimp only [scoreOpposite]; split <;> rfl

@[simp] theorem pipeline_scoreOpposite : (S.scoreOpposite s).pipeline =
    { s.pipeline with oppositeQueueSize := (S.oppositeCandidates s).length } := by
  dsimp only [scoreOpposite]; split <;> rfl

@[simp] theorem oppositeQueue_scoreOpposite :
    (S.scoreOpposite s).oppositeQueue = writeSlots s.oppositeQueue (S.oppositeCandidates s) := by
  dsimp only [scoreOpposite]; split <;> rfl

/-- The scoring stages leave the loop's control state alone. -/
@[simp] theorem activeReads_scoreHits : (S.scoreHits s).activeReads = s.activeReads := by
  dsimp only [scoreHits, scoreOpposite]; split <;> rfl

@[simp] theorem nExt_scoreHits : (S.scoreHits s).nExt = s.nExt := by
  dsimp only [scoreHits, scoreOpposite]; split <;> rfl

@[simp] theorem seedQueues_scoreHits : (S.scoreHits s).seedQueues = s.seedQueues := by
  dsimp only [scoreHits, scoreOpposite]; split <;> rfl

@[simp] theorem pipeline_scoreHits_nHitsPerRead :
    (S.scoreHits s).pipeline.nHitsPerRead = s.pipeline.nHitsPerRead := by
  dsimp only [scoreHits, scoreOpposite]; split <;> rfl

@[simp] theorem pipeline_scoreHits_hitsQueueSize :
    (S.scoreHits s).pipeline.hitsQueueSize = s.pipeline.hitsQueueSize := by
  dsimp only [scoreHits, scoreOpposite]; split <;> rfl

@[simp] theorem input_reduceScores : (S.reduceScores s).activeReads.input = s.activeReads.input :=
  s.activeReads.input_emit _

@[simp] theorem env_reduceScores : (S.reduceScores s).env = (S.prims.scoreReducePaired s).1 := rfl

@[simp] theorem nExt_reduceScores :
    (S.reduceScores s).nExt = addU32 s.nExt s.pipeline.nHitsPerRead := rfl

@[simp] theorem seedQueues_reduceScores : (S.reduceScores s).seedQueues = s.seedQueues := rfl

/-! ### What a round does -/

/-- A round stops after `select` (`break` or `continue`) or hands the scored hits to the
reducer. -/
theorem roundToReduce_cases :
    S.roundToReduce s = .inl (S.selectHits s) ∨
      S.roundToReduce s = .inl (S.selectHits s).setHitsQueueSize ∨
      S.roundToReduce s = .inr (S.scoreHits (S.selectHits s).setHitsQueueSize) := by
  dsimp only [roundToReduce]; split_ifs <;> simp

/-- With survivors and a non-empty hit queue, the round reaches the reducer. -/
theorem roundToReduce_of_ne (h₁ : (S.selectHits s).activeReads.inSize ≠ 0)
    (h₂ : (S.selectHits s).setHitsQueueSize.pipeline.hitsQueueSize ≠ 0) :
    S.roundToReduce s = .inr (S.scoreHits (S.selectHits s).setHitsQueueSize) := by
  dsimp only [roundToReduce]; simp only [h₁, h₂, if_false]

theorem extensionRound_cases :
    S.extensionRound s = S.selectHits s ∨ S.extensionRound s = (S.selectHits s).setHitsQueueSize ∨
      S.extensionRound s = S.reduceScores (S.scoreHits (S.selectHits s).setHitsQueueSize) := by
  unfold extensionRound
  rcases S.roundToReduce_cases s with h | h | h <;> simp [h]

/-- The reads a round leaves active are exactly the survivors of its `select`. -/
@[simp] theorem input_extensionRound :
    (S.extensionRound s).activeReads.input = (S.prims.select (S.prepareSelect s)).survivors := by
  rcases S.extensionRound_cases s with h | h | h <;> simp [h]

@[simp] theorem inSize_extensionRound :
    (S.extensionRound s).activeReads.inSize = (S.prims.select (S.prepareSelect s)).survivors.length := by
  rw [← PingPongQueues.length_input, input_extensionRound]

/-- A round adds its `n_hits_per_read` to `n_ext`, or leaves `n_ext` as it was. -/
theorem nExt_extensionRound :
    (S.extensionRound s).nExt = s.nExt ∨
      (S.extensionRound s).nExt = addU32 s.nExt (S.hitsPerRound s) := by
  rcases S.extensionRound_cases s with h | h | h <;> simp [h]

/-- A round reaches the reducer only with survivors and a non-empty hit queue. -/
theorem roundToReduce_eq_inr {r : Aligner ε} (hr : S.roundToReduce s = .inr r) :
    (S.selectHits s).activeReads.inSize ≠ 0 ∧
      (S.selectHits s).setHitsQueueSize.pipeline.hitsQueueSize ≠ 0 ∧
      r = S.scoreHits (S.selectHits s).setHitsQueueSize := by
  dsimp only [roundToReduce] at hr
  split_ifs at hr with h₁ h₂
  cases hr
  exact ⟨h₁, h₂, rfl⟩

theorem nExt_extensionRound_of_inr {r : Aligner ε} (h : S.roundToReduce s = .inr r) :
    (S.extensionRound s).nExt = addU32 s.nExt (S.hitsPerRound s) := by
  obtain ⟨-, -, rfl⟩ := S.roundToReduce_eq_inr s h
  simp [extensionRound, h]

/-- The extension loop never touches the seed queues (`seed_queue` is `const`). -/
@[simp] theorem seedQueues_extensionRound : (S.extensionRound s).seedQueues = s.seedQueues := by
  rcases S.extensionRound_cases s with h | h | h <;> simp [h]

/-! ### How long the scoring queues get -/

/-- `select` keeps at most the reads it is handed. -/
theorem survivors_length_le (hq : QueueContract S.prims) :
    (S.prims.select (S.prepareSelect s)).survivors.length ≤ s.activeReads.inSize :=
  (hq.select_survivors _).length_le.trans_eq (PingPongQueues.length_input _)

/-- On every branch of the batching rule the hit queue of line 781 is no longer than
`BATCH_SIZE` while the active queue is not: a multi-hit round's pool holds at most
`n_hits_per_read` hits per read, and the other rounds count surviving reads. -/
theorem hitsQueueSize_le_batchSize (hq : QueueContract S.prims) (hh : SelectHitsContract S.prims)
    (hB : s.activeReads.inSize ≤ S.batchSize) :
    (S.selectHits s).setHitsQueueSize.pipeline.hitsQueueSize ≤ S.batchSize := by
  simp only [hitsQueueSize_setHitsQueueSize, nHitsPerRead_selectHits, hitsPool_selectHits,
    inSize_selectHits]
  split_ifs with h
  · have hl : s.activeReads.inSize ≤ S.batchSize / 2 := by
      by_contra hl
      rw [hitsPerRound, hitsPerRead_of_lt (Nat.lt_of_not_le hl)] at h
      exact lt_irrefl _ h
    exact (hh _).trans (mul_hitsPerRead_le hl)
  · exact (S.survivors_length_le s hq).trans hB

/-- The opposite queue is a compaction of the hit queue. -/
theorem oppositeQueueSize_scoreHits_le :
    (S.scoreHits s).pipeline.oppositeQueueSize ≤ s.pipeline.hitsQueueSize := by
  simp only [scoreHits, pipeline_scoreOpposite]
  exact length_copyIf_le _ _

/-! ### The opposite scores the reducer sees -/

theorem score_ne_of_mem_oppositeCandidates {p : Nat} (hp : p ∈ S.oppositeCandidates s) :
    s.score (s.pipeline.idxQueue p) ≠ S.worstScore := by
  simpa [oppositeCandidates, mem_copyIf] using (mem_copyIf.1 hp).2

/-- A hit that no opposite candidate points at keeps the `worst_score` of the reset. -/
theorem oppositeScore_scoreOpposite (hopp : OppositeScoreContract S.prims) {h : Nat}
    (hh : ∀ p ∈ S.oppositeCandidates s, s.pipeline.idxQueue p ≠ h) :
    (S.scoreOpposite s).oppositeScore h =
      fillSlots s.oppositeScore s.pipeline.hitsQueueSize S.worstScore h := by
  dsimp only [scoreOpposite]
  split
  · rfl
  · refine hopp _ h fun t ht => hh _ ?_
    show writeSlots s.oppositeQueue (S.oppositeCandidates s) t ∈ _
    rw [writeSlots_of_lt ht]
    exact List.getElem_mem ht

/-- After the compaction, the reset and `opposite_score_best`, the opposite queue is the
candidate list and every hit outside it carries `worst_score`. -/
theorem scoreOpposite_clean (hopp : OppositeScoreContract S.prims) :
    let r := S.scoreOpposite s
    slots r.oppositeQueue r.pipeline.oppositeQueueSize =
        (List.range r.pipeline.hitsQueueSize).filter
          (fun p => r.score (r.pipeline.idxQueue p) != S.worstScore) ∧
      (slots r.oppositeQueue r.pipeline.oppositeQueueSize).Sorted (· < ·) ∧
      ∀ h < r.pipeline.hitsQueueSize,
        (r.score h = S.worstScore ∨
          ∀ t < r.pipeline.oppositeQueueSize, r.pipeline.idxQueue (r.oppositeQueue t) ≠ h) →
        r.oppositeScore h = S.worstScore := by
  have hq : slots (writeSlots s.oppositeQueue (S.oppositeCandidates s))
      (S.oppositeCandidates s).length = S.oppositeCandidates s := slots_writeSlots _ _
  simp only [score_scoreOpposite, pipeline_scoreOpposite, oppositeQueue_scoreOpposite, hq]
  refine ⟨rfl, copyIf_sorted _ _, fun h hH hcase => ?_⟩
  rw [S.oppositeScore_scoreOpposite s hopp, fillSlots_of_lt _ hH]
  intro p hp hph
  rcases hcase with hw | hna
  · exact S.score_ne_of_mem_oppositeCandidates s hp (hph ▸ hw)
  · obtain ⟨t, ht, rfl⟩ := List.getElem_of_mem hp
    exact hna t ht (by rw [writeSlots_of_lt ht]; exact hph)

/-- **Opposite scores reach the reducer clean.** In every round that calls
`score_reduce_paired`, `opposite_queue` lists in increasing order exactly the positions
`p < hits_queue_size` whose anchor score `score[idx_queue[p]]` is not `worst_score`, and every
hit whose anchor score is `worst_score`, or that `opposite_queue` does not address, has
`worst_score` as its opposite score: nothing from an earlier round or pass gets through. -/
theorem opposite_scores_reset_before_reduce (hopp : OppositeScoreContract S.prims) {s r : Aligner ε}
    (hr : S.roundToReduce s = .inr r) :
    slots r.oppositeQueue r.pipeline.oppositeQueueSize =
        (List.range r.pipeline.hitsQueueSize).filter
          (fun p => r.score (r.pipeline.idxQueue p) != S.worstScore) ∧
      (slots r.oppositeQueue r.pipeline.oppositeQueueSize).Sorted (· < ·) ∧
      ∀ h < r.pipeline.hitsQueueSize,
        (r.score h = S.worstScore ∨
          ∀ t < r.pipeline.oppositeQueueSize, r.pipeline.idxQueue (r.oppositeQueue t) ≠ h) →
        r.oppositeScore h = S.worstScore := by
  obtain ⟨-, -, rfl⟩ := S.roundToReduce_eq_inr s hr
  unfold scoreHits
  exact S.scoreOpposite_clean _ hopp

end Setup

/-! ### Concrete runs -/

/-- Kernels for the concrete runs: the device state is the number of seed-hit rows every read
has left (`rows` after `clear_deques`). Asked for hits, `select` keeps every active read while
a row is left, spending one and selecting one hit per read (its read index as `loc`, counted in
the pool), and retires them all once none is; asked for no hits, it keeps every read and spends
nothing. The other kernels write nothing. -/
def rowKernels (rows : Nat) : Primitives Nat where
  initAlignments := id
  clearDeques := fun _ => rows
  map := fun a _ _ => ⟨a.env, []⟩
  selectInit := fun a => a.env
  select := fun s =>
    if s.pipeline.nHitsPerRead = 0 then ⟨s.env, s.activeReads.input, [], 0⟩
    else if s.env = 0 then ⟨0, [], [], 0⟩
    else ⟨s.env - 1, s.activeReads.input, s.activeReads.input.map PackedRead.readId,
      s.activeReads.inSize⟩
  sortHiBits := fun _ _ => id
  locateInit := fun s => (s.env, s.loc)
  locateLookup := fun s => (s.env, s.loc)
  anchorScoreBest := fun s => (s.env, s.score)
  oppositeScoreBest := fun s => (s.env, s.oppositeScore)
  scoreReducePaired := fun s => (s.env, [])

/-- `BATCH_SIZE = 1024`, one seeding pass, `max_ext = 3`, ten seed-hit rows per read. -/
def rowSetup : Setup Nat where
  batchSize := 1024
  params := ⟨0, 3, 0, by decide, by decide⟩
  worstScore := -2147483648
  prims := rowKernels 10

/-- An aligner with `count` active reads `0, …, count-1`, ten rows each, and zeroed buffers. -/
def activeAligner (count : Nat) : Aligner Nat where
  seedQueues := ⟨0, fun _ => 0, 0, fun _ => 0⟩
  activeReads := ⟨count, fun i => packRead 0 i, 0, fun _ => packRead 0 0⟩
  hitsPool := 0
  loc := fun _ => 0
  score := fun _ => 0
  oppositeScore := fun _ => 0
  oppositeQueue := fun _ => 0
  nExt := 0
  pipeline := ⟨0, 0, id, 0⟩
  env := 10

theorem rowKernels_select_spend {rows : Nat} {s : Aligner Nat} (hn : s.pipeline.nHitsPerRead ≠ 0)
    (he : s.env ≠ 0) : (rowKernels rows).select s =
      ⟨s.env - 1, s.activeReads.input, s.activeReads.input.map PackedRead.readId,
        s.activeReads.inSize⟩ := by
  simp [rowKernels, hn, he]

theorem rowKernels_select_idle {rows : Nat} {s : Aligner Nat} (hn : s.pipeline.nHitsPerRead = 0) :
    (rowKernels rows).select s = ⟨s.env, s.activeReads.input, [], 0⟩ := by
  simp [rowKernels, hn]

theorem rowKernels_queueContract (rows : Nat) : QueueContract (rowKernels rows) where
  map_reseed _ _ _ := List.nil_subperm
  select_survivors s := by
    simp only [rowKernels]
    split_ifs
    · exact .refl _
    · exact List.nil_subperm
    · exact .refl _

theorem rowKernels_selectHits (rows : Nat) : SelectHitsContract (rowKernels rows) := by
  intro s
  simp only [rowKernels]
  split_ifs with h
  · exact Nat.zero_le _
  · exact Nat.zero_le _
  · simpa using Nat.le_mul_of_pos_right _ (Nat.pos_of_ne_zero h)

theorem rowKernels_singleHit (rows : Nat) : SingleHitContract (rowKernels rows) := by
  intro s hs
  simp only [rowKernels, hs, one_ne_zero, if_false]
  split_ifs <;> simp

theorem rowKernels_oppositeScore (rows : Nat) : OppositeScoreContract (rowKernels rows) :=
  fun _ _ _ => rfl

/-- `rowKernels` with scores: `anchor_score_best` gives an even hit the score `0` and an odd one
`worst_score`, and `opposite_score_best` gives `7` to every hit the opposite queue addresses. -/
def scoredKernels : Primitives Nat :=
  { rowKernels 10 with
    anchorScoreBest := fun s => (s.env, fun h => if h % 2 = 0 then 0 else -2147483648)
    oppositeScoreBest := fun s => (s.env, fun h =>
      if (List.range s.pipeline.oppositeQueueSize).any
        (fun t => s.pipeline.idxQueue (s.oppositeQueue t) == h) then 7 else s.oppositeScore h) }

/-- `rowSetup` with `scoredKernels`. -/
def scoredSetup : Setup Nat := { rowSetup with prims := scoredKernels }

theorem scoredKernels_oppositeScore : OppositeScoreContract scoredKernels := by
  intro s h hh
  simp only [scoredKernels, List.any_eq_true, List.mem_range, beq_iff_eq]
  exact if_neg fun ⟨t, ht, he⟩ => hh t ht he

/-- Three reads, one hit each: the middle hit's anchor score is `worst_score`, so the opposite
queue skips it and the reducer sees its opposite score reset, while the other two are scored. -/
theorem opposite_scores_reset_three_reads :
    OppositeScoreContract scoredSetup.prims ∧
      let r := scoredSetup.scoreHits (scoredSetup.selectHits (activeAligner 3)).setHitsQueueSize
      slots r.oppositeQueue r.pipeline.oppositeQueueSize =
          (List.range r.pipeline.hitsQueueSize).filter
            (fun p => r.score (r.pipeline.idxQueue p) != scoredSetup.worstScore) ∧
        (slots r.oppositeQueue r.pipeline.oppositeQueueSize).Sorted (· < ·) ∧
        ∀ h < r.pipeline.hitsQueueSize,
          (r.score h = scoredSetup.worstScore ∨
            ∀ t < r.pipeline.oppositeQueueSize, r.pipeline.idxQueue (r.oppositeQueue t) ≠ h) →
          r.oppositeScore h = scoredSetup.worstScore :=
  ⟨scoredKernels_oppositeScore, scoredSetup.opposite_scores_reset_before_reduce
    scoredKernels_oppositeScore (scoredSetup.roundToReduce_of_ne _ (by decide) (by decide))⟩

example :
    let r := scoredSetup.scoreHits (scoredSetup.selectHits (activeAligner 3)).setHitsQueueSize
    slots r.oppositeQueue r.pipeline.oppositeQueueSize = [0, 2] ∧
      slots r.oppositeScore 3 = [7, -2147483648, 7] := by
  decide

/-! ### The hits the reducer sees -/

namespace Setup
variable {S : Setup ε}

end Setup

end NvBowtie
