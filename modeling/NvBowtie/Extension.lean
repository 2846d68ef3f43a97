import NvBowtie.Round
import Mathlib.Logic.Relation

/-!
# The extension loop of `best_approx_score`

`extensionLoop` runs rounds while the active input queue is non-empty (line 693), for at most
`fuel` rounds; `RoundStep` is one round the loop takes, and every statement about "every round
of every run" is about `Relation.ReflTransGen RoundStep` from the state `scoreStart` builds
(lines 652-691). The loop checks no budget: `n_ext` enters only through the multi-hit clamp.
A single-hit round adds one to `n_ext` unconditionally, and a multi-hit round started at
`n_ext = params.max_ext` asks for no hits at all; the concrete runs show both, and the last
section shows that from such a round on the loop never returns, for every setup whose `select`
keeps its reads when asked for none. Past `params.max_ext` the clamp's subtraction wraps, and a
multi-hit round asks for hits as if there were no budget.
-/

namespace NvBowtie
set_option autoImplicit false

namespace Setup
variable {ε : Type} (S : Setup ε)

/-- The extension loop (line 693) for at most `fuel` rounds; `none` when the fuel runs out. -/
def extensionLoop : Nat → Aligner ε → Option (Aligner ε)
  | 0, _ => none
  | fuel + 1, s => if s.activeReads.inSize = 0 then some s else extensionLoop fuel (S.extensionRound s)

/-- Lines 652-691: the active reads become the seed queue's reads packed with
`params.top_seed`, `n_ext = 0`, and `select_init` runs. -/
def scoreStart (a : Aligner ε) : Aligner ε :=
  let a := { a with
    activeReads := (a.activeReads.resize a.seedQueues.inSize).writeInput
      (a.seedQueues.input.map (packRead S.params.topSeed))
    nExt := 0 }
  { a with env := S.prims.selectInit a }

/-- `best_approx_score` (lines 600-964) on the seed queue's input, for at most `fuel` rounds. -/
def bestApproxScore (fuel : Nat) (a : Aligner ε) : Option (Aligner ε) :=
  S.extensionLoop fuel (S.scoreStart a)

/-- A round the loop takes: the guard held and the round ran. -/
def RoundStep (s s' : Aligner ε) : Prop := s.activeReads.inSize ≠ 0 ∧ s' = S.extensionRound s

variable {S}

@[simp] theorem input_scoreStart (a : Aligner ε) :
    (S.scoreStart a).activeReads.input = a.seedQueues.input.map (packRead S.params.topSeed) := by
  exact a.activeReads.input_resize_writeInput _ (by simp)

@[simp] theorem nExt_scoreStart (a : Aligner ε) : (S.scoreStart a).nExt = 0 := rfl

@[simp] theorem seedQueues_scoreStart (a : Aligner ε) : (S.scoreStart a).seedQueues = a.seedQueues :=
  rfl

/-- The loop's result is reached by the rounds it took and has an empty input queue. -/
theorem extensionLoop_reach {fuel : Nat} {s s' : Aligner ε} (h : S.extensionLoop fuel s = some s') :
    Relation.ReflTransGen S.RoundStep s s' ∧ s'.activeReads.inSize = 0 := by
  induction fuel generalizing s with
  | zero => cases h
  | succ fuel ih =>
    simp only [extensionLoop] at h
    split at h
    · cases h; exact ⟨.refl, ‹_›⟩
    · obtain ⟨run, empty⟩ := ih h
      exact ⟨.head ⟨‹_›, rfl⟩ run, empty⟩

/-- A loop whose every reachable state keeps a non-empty queue never returns. -/
theorem extensionLoop_eq_none (P : Aligner ε → Prop)
    (step : ∀ s, P s → s.activeReads.inSize ≠ 0 ∧ P (S.extensionRound s)) :
    ∀ fuel s, P s → S.extensionLoop fuel s = none := by
  intro fuel
  induction fuel with
  | zero => intro _ _; rfl
  | succ fuel ih =>
    intro s hs
    simp only [extensionLoop, if_neg (step s hs).1]
    exact ih _ (step s hs).2

/-- A round that asks for no hits, with a `select` that keeps every read, leaves the active
reads and `n_ext` as they were. -/
theorem extensionRound_stalls {s : Aligner ε} (hn : S.hitsPerRound s = 0)
    (hkeep : (S.prims.select (S.prepareSelect s)).survivors = s.activeReads.input)
    (hm : s.nExt < 4294967296) :
    (S.extensionRound s).activeReads.input = s.activeReads.input ∧
      (S.extensionRound s).nExt = s.nExt := by
  refine ⟨by rw [input_extensionRound, hkeep], ?_⟩
  rcases S.nExt_extensionRound s with h | h
  · exact h
  · rw [h, hn, addU32_of_lt (by omega)]; rfl

/-! ### The active queue only narrows -/

/-- At a round's start the active reads are distinct reads of `seeds`. -/
structure ActiveQueueInv (seeds : List Nat) (s : Aligner ε) : Prop where
  nodup : (s.activeReads.input.map PackedRead.readId).Nodup
  subset : ∀ r ∈ s.activeReads.input, r.readId ∈ seeds

/-- A round keeps a sub-multiset of the reads it started with. -/
theorem readIds_roundStep (hq : QueueContract S.prims) {s s' : Aligner ε} (h : S.RoundStep s s') :
    (s'.activeReads.input.map PackedRead.readId).Subperm
      (s.activeReads.input.map PackedRead.readId) := by
  obtain ⟨-, rfl⟩ := h
  rw [input_extensionRound]
  exact subperm_map _ (hq.select_survivors _)

theorem readIds_reach (hq : QueueContract S.prims) {s s' : Aligner ε}
    (run : Relation.ReflTransGen S.RoundStep s s') :
    (s'.activeReads.input.map PackedRead.readId).Subperm
      (s.activeReads.input.map PackedRead.readId) := by
  induction run with
  | refl => exact .refl _
  | tail _ step ih => exact (readIds_roundStep hq step).trans ih

theorem activeQueueInv_reach (hq : QueueContract S.prims) {seeds : List Nat} {s₀ s : Aligner ε}
    (h₀ : s₀.activeReads.input.map PackedRead.readId = seeds) (hs : seeds.Nodup)
    (run : Relation.ReflTransGen S.RoundStep s₀ s) : ActiveQueueInv seeds s :=
  have h := h₀ ▸ readIds_reach hq run
  ⟨nodup_of_subperm h hs, fun _ hr => h.subset (List.mem_map_of_mem _ hr)⟩

/-! ### The extension budget -/

variable (S) in
/-- A round the budget argument covers: multi-hit, or started below `params.max_ext`. -/
def BudgetRound (s s' : Aligner ε) : Prop :=
  S.RoundStep s s' ∧ (s.activeReads.inSize ≤ S.batchSize / 2 ∨ s.nExt < S.params.maxExt)

theorem nExt_le_of_budgetRound {s s' : Aligner ε} (h : S.BudgetRound s s')
    (he : s.nExt ≤ S.params.maxExt) : s'.nExt ≤ S.params.maxExt := by
  obtain ⟨⟨-, rfl⟩, hb⟩ := h
  rcases S.nExt_extensionRound s with h' | h' <;> rw [h']
  · exact he
  · refine (addU32_le _ _).trans ?_
    rcases Nat.lt_or_ge (S.batchSize / 2) s.activeReads.inSize with hl | hl
    · rw [hitsPerRound, hitsPerRead_of_lt hl]; omega
    · exact add_hitsPerRead_le hl he S.params.maxExt_lt

variable (S) in
/-- **Extension budget.** Every multi-hit round asks for at most 4096 hits per read and at most
`BATCH_SIZE` hits in all. Along a run whose rounds are multi-hit or start below
`params.max_ext`, `n_ext` stays within `params.max_ext`: the subtraction of line 732 does not
wrap there and each multi-hit round ends within the budget. -/
theorem extension_budget_within_multi_hit :
    (∀ s : Aligner ε, s.activeReads.inSize ≤ S.batchSize / 2 →
        S.hitsPerRound s ≤ 4096 ∧ s.activeReads.inSize * S.hitsPerRound s ≤ S.batchSize) ∧
      ∀ s₀ s : Aligner ε, s₀.nExt ≤ S.params.maxExt → Relation.ReflTransGen S.BudgetRound s₀ s →
        s.nExt ≤ S.params.maxExt ∧
          (s.activeReads.inSize ≤ S.batchSize / 2 →
            subU32 S.params.maxExt s.nExt = S.params.maxExt - s.nExt ∧
              s.nExt + S.hitsPerRound s ≤ S.params.maxExt) := by
  refine ⟨fun s h => ⟨hitsPerRead_le_4096 h, mul_hitsPerRead_le h⟩, fun s₀ s h₀ run => ?_⟩
  have he : s.nExt ≤ S.params.maxExt := by
    induction run with
    | refl => exact h₀
    | tail _ step ih => exact nExt_le_of_budgetRound step ih
  exact ⟨he, fun h =>
    ⟨subU32_of_le he S.params.maxExt_lt, add_hitsPerRead_le h he S.params.maxExt_lt⟩⟩

end Setup

/-! ### Concrete runs -/

/-- An aligner whose seed queue holds the reads `0, …, count-1`, ten rows each. -/
def seededAligner (count : Nat) : Aligner Nat :=
  { activeAligner 0 with seedQueues := ⟨count, id, 0, id⟩ }

theorem env_rowSetup_scoreHits (s : Aligner Nat) : (rowSetup.scoreHits s).env = s.env := by
  dsimp only [Setup.scoreHits, Setup.scoreOpposite, Setup.scoreAnchor, Setup.locateHits]
  split <;> rfl

theorem rowSetup_scoreStart (count : Nat) :
    (rowSetup.scoreStart (seededAligner count)).activeReads.inSize = count ∧
      (rowSetup.scoreStart (seededAligner count)).nExt = 0 ∧
      (rowSetup.scoreStart (seededAligner count)).env = 10 :=
  ⟨rfl, rfl, rfl⟩

/-- A `rowKernels` round asked for hits while a row is left: every read stays, one row is
spent, and `n_ext` grows by `n_hits_per_read`. -/
theorem rowSetup_round_spends {s : Aligner Nat} (hQ : s.activeReads.inSize ≠ 0)
    (hn : rowSetup.hitsPerRound s ≠ 0) (he : s.env ≠ 0) :
    (rowSetup.extensionRound s).activeReads.input = s.activeReads.input ∧
      (rowSetup.extensionRound s).nExt = addU32 s.nExt (rowSetup.hitsPerRound s) ∧
      (rowSetup.extensionRound s).env = s.env - 1 := by
  have hsel : rowSetup.prims.select (rowSetup.prepareSelect s) =
      ⟨s.env - 1, s.activeReads.input, s.activeReads.input.map PackedRead.readId,
        s.activeReads.inSize⟩ :=
    rowKernels_select_spend (by simpa using hn) he
  have hr := rowSetup.roundToReduce_of_ne s (by simpa [hsel] using hQ)
    (by simp only [Setup.hitsQueueSize_setHitsQueueSize, Setup.hitsPool_selectHits,
      Setup.inSize_selectHits, Setup.nHitsPerRead_selectHits, hsel]; split_ifs <;> simpa using hQ)
  refine ⟨by simp [hsel], rowSetup.nExt_extensionRound_of_inr s hr, ?_⟩
  calc (rowSetup.extensionRound s).env
      = (rowSetup.scoreHits (rowSetup.selectHits s).setHitsQueueSize).env := by
        simp only [Setup.extensionRound, hr, Setup.env_reduceScores]; rfl
    _ = (rowSetup.prims.select (rowSetup.prepareSelect s)).env := env_rowSetup_scoreHits _
    _ = s.env - 1 := by rw [hsel]

/-- While rows are left, a run of single-hit rounds over `600` reads adds one to `n_ext` per
round. -/
theorem rowSetup_single_hit_run (k : Nat) (hk : k ≤ 10) :
    ∃ s, Relation.ReflTransGen rowSetup.RoundStep (rowSetup.scoreStart (seededAligner 600)) s ∧
      s.activeReads.inSize = 600 ∧ s.nExt = k ∧ s.env = 10 - k := by
  induction k with
  | zero => exact ⟨_, .refl, rowSetup_scoreStart 600⟩
  | succ k ih =>
    obtain ⟨s, run, hQ, hn, he⟩ := ih (by omega)
    have hpr : rowSetup.hitsPerRound s = 1 := hitsPerRead_of_lt (by simp [rowSetup, hQ])
    obtain ⟨hi, hx, hv⟩ := rowSetup_round_spends (s := s) (by omega) (by omega) (by omega)
    refine ⟨_, run.tail ⟨by omega, rfl⟩, ?_, ?_, by omega⟩
    · exact (PingPongQueues.inSize_eq_of_input_eq _ hi).trans hQ
    · rw [hx, hpr, hn, addU32_of_lt (by omega)]

/-- With `BATCH_SIZE = 1024`, `600` active reads keep every round single-hit, and four rounds take
`n_ext` past `params.max_ext = 3`. -/
theorem single_hit_rounds_pass_max_ext :
    ∃ s, Relation.ReflTransGen rowSetup.RoundStep (rowSetup.scoreStart (seededAligner 600)) s ∧
      rowSetup.params.maxExt < s.nExt := by
  obtain ⟨s, run, -, hn, -⟩ := rowSetup_single_hit_run 4 (by omega)
  exact ⟨s, run, by rw [hn]; decide⟩

namespace Setup
variable {ε : Type}

end Setup

/-- One multi-hit round over a hundred reads from `n_ext = 0` stays within
`params.max_ext = 3`. -/
theorem extension_budget_one_round :
    let s₁ := rowSetup.extensionRound (rowSetup.scoreStart (seededAligner 100))
    s₁.nExt ≤ rowSetup.params.maxExt ∧
      (s₁.activeReads.inSize ≤ rowSetup.batchSize / 2 →
        subU32 rowSetup.params.maxExt s₁.nExt = rowSetup.params.maxExt - s₁.nExt ∧
          s₁.nExt + rowSetup.hitsPerRound s₁ ≤ rowSetup.params.maxExt) :=
  (Setup.extension_budget_within_multi_hit rowSetup).2 _ _ (Nat.zero_le _)
    (.single ⟨⟨by decide, rfl⟩, Or.inl (by decide)⟩)

/-- A round that starts with `n_ext = params.max_ext` and a hundred of `rowKernels`' reads asks
for no hits and changes nothing. -/
theorem rowSetup_round_at_budget {s : Aligner Nat} (hQ : s.activeReads.inSize = 100)
    (he : s.nExt = 3) :
    (rowSetup.extensionRound s).activeReads.inSize = 100 ∧ (rowSetup.extensionRound s).nExt = 3 := by
  have hn : rowSetup.hitsPerRound s = 0 := by
    rw [Setup.hitsPerRound, hQ, he]; decide
  have hsel : rowSetup.prims.select (rowSetup.prepareSelect s) =
      ⟨s.env, s.activeReads.input, [], 0⟩ :=
    rowKernels_select_idle (by simpa using hn)
  obtain ⟨hi, hx⟩ := rowSetup.extensionRound_stalls hn (by rw [hsel]) (by omega)
  exact ⟨(PingPongQueues.inSize_eq_of_input_eq _ hi).trans hQ, hx.trans he⟩

/-- With `params.max_ext = 3` and a hundred active reads, the first round is multi-hit with
three hits per read and brings `n_ext` to `params.max_ext`. The second asks `select` for no hits
at all, yet hands a hundred hit-queue entries, none of them written by its `select`, on to
locating, scoring and reduction. -/
theorem exhausted_budget_round_scores_unselected_hits :
    QueueContract rowSetup.prims ∧ SelectHitsContract rowSetup.prims ∧
      let s₀ := rowSetup.scoreStart (seededAligner 100)
      let s₁ := rowSetup.extensionRound s₀
      rowSetup.RoundStep s₀ s₁ ∧ rowSetup.hitsPerRound s₁ = 0 ∧
        (rowSetup.selectHits s₁).hitsPool = 0 ∧
        ∃ r, rowSetup.roundToReduce s₁ = .inr r ∧ r.pipeline.nHitsPerRead = 0 ∧
          r.pipeline.hitsQueueSize = 100 := by
  refine ⟨rowKernels_queueContract 10, rowKernels_selectHits 10, ⟨by decide, rfl⟩, ?_⟩
  obtain ⟨hQ, hx, hv⟩ := rowSetup_scoreStart 100
  obtain ⟨hi, hn, -⟩ := rowSetup_round_spends (s := rowSetup.scoreStart (seededAligner 100))
    (by rw [hQ]; decide) (by rw [Setup.hitsPerRound, hQ, hx]; decide) (by rw [hv]; decide)
  set s₁ := rowSetup.extensionRound (rowSetup.scoreStart (seededAligner 100))
  have hQ₁ : s₁.activeReads.inSize = 100 := (PingPongQueues.inSize_eq_of_input_eq _ hi).trans hQ
  have hn₁ : rowSetup.hitsPerRound s₁ = 0 := by
    rw [Setup.hitsPerRound, hQ₁, hn, hx, Setup.hitsPerRound, hQ]; decide
  have hsel : rowSetup.prims.select (rowSetup.prepareSelect s₁) =
      ⟨s₁.env, s₁.activeReads.input, [], 0⟩ :=
    rowKernels_select_idle (by simpa using hn₁)
  have hH : (rowSetup.selectHits s₁).setHitsQueueSize.pipeline.hitsQueueSize = 100 := by
    simp only [Setup.hitsQueueSize_setHitsQueueSize, Setup.nHitsPerRead_selectHits,
      Setup.hitsPool_selectHits, Setup.inSize_selectHits]
    rw [hsel, hn₁]
    exact hQ₁
  refine ⟨hn₁, by simp [hsel], _, rowSetup.roundToReduce_of_ne s₁ (by simp [hsel, hQ₁])
    (by rw [hH]; decide), by simp [hn₁], (rowSetup.pipeline_scoreHits_hitsQueueSize _).trans hH⟩

/-! ### The stall in general -/

namespace Setup
variable {ε : Type} {S : Setup ε}

variable (S) in
/-- **The loop stalls at the budget.** For every setup and every kernel whose `select`, asked
for no hits, keeps its reads: once a round starts with at most `BATCH_SIZE/2` active reads and
`n_ext = params.max_ext`, every later round asks for no hits and changes neither the queue nor
`n_ext`, and `best_approx_score` never returns, whatever the fuel. -/
theorem extension_loop_stalls_at_budget
    (hkeep : ∀ s : Aligner ε, s.pipeline.nHitsPerRead = 0 →
      (S.prims.select s).survivors = s.activeReads.input)
    {s : Aligner ε} (hQ : s.activeReads.inSize ≠ 0) (hsmall : s.activeReads.inSize ≤ S.batchSize / 2)
    (he : s.nExt = S.params.maxExt) : ∀ fuel, S.extensionLoop fuel s = none := by
  intro fuel
  refine S.extensionLoop_eq_none
    (fun s' => s'.activeReads.input = s.activeReads.input ∧ s'.nExt = S.params.maxExt)
    (fun s' hs' => ?_) fuel s ⟨rfl, he⟩
  have hsize : s'.activeReads.inSize = s.activeReads.inSize :=
    PingPongQueues.inSize_eq_of_input_eq _ hs'.1
  have hn : S.hitsPerRound s' = 0 := by
    rw [hitsPerRound, hsize, hs'.2]
    exact hitsPerRead_at_budget hsmall S.params.maxExt_lt
  obtain ⟨hi, hx⟩ := S.extensionRound_stalls hn (hkeep _ hn) (hs'.2 ▸ S.params.maxExt_lt)
  exact ⟨hsize ▸ hQ, hi.trans hs'.1, hx.trans hs'.2⟩

end Setup

theorem rowKernels_keep_idle (rows : Nat) (s : Aligner Nat) (hn : s.pipeline.nHitsPerRead = 0) :
    ((rowKernels rows).select s).survivors = s.activeReads.input := by
  rw [rowKernels_select_idle hn]

/-- A hundred reads at `n_ext = params.max_ext = 3`: no fuel ends the loop. -/
theorem extension_loop_stalls_hundred_reads :
    (∀ s : Aligner Nat, s.pipeline.nHitsPerRead = 0 →
        (rowSetup.prims.select s).survivors = s.activeReads.input) ∧
      ∀ fuel, rowSetup.extensionLoop fuel { activeAligner 100 with nExt := 3 } = none :=
  ⟨rowKernels_keep_idle 10, Setup.extension_loop_stalls_at_budget rowSetup (rowKernels_keep_idle 10)
    (by decide) (by decide) rfl⟩

end NvBowtie
