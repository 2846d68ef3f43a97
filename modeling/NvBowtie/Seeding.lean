import NvBowtie.Extension

/-!
# Seeding passes of `best_approx`

Lines 84-190. For each anchor mate the seed input queue restarts from all `count` reads; then
each of at most `params.max_reseed + 1` passes (the bound taken on `uint32`) clears the seed
output queue and the hit deques, runs `map` (which appends the reads to re-seed), runs
`best_approx_score` on the seed input, and swaps the seed queues. `PassStep` is a pass as a
relation, its extension loop reaching an empty queue, so the statements about passes need no
fuel; `seedingPasses_reach` ties the fuelled loop to it.
-/

namespace NvBowtie
set_option autoImplicit false

variable {ε : Type}

/-- Lines 92-98: the seed input queue holds the reads `0, …, count-1`. -/
def Aligner.anchorStart (count : Nat) (a : Aligner ε) : Aligner ε :=
  { a with seedQueues := (a.seedQueues.resize count).writeInput (List.range count) }

namespace Setup
variable (S : Setup ε)

/-- Lines 119 and 135: `seed_queues.clear_output()` and `hit_deques.clear_deques()`. -/
def clearPass (a : Aligner ε) : Aligner ε :=
  { a with seedQueues := a.seedQueues.clearOutput, env := S.prims.clearDeques a.env }

/-- Lines 116-167: clear, then `map` the seed input, appending the reads to re-seed. -/
def mapReads (anchor pass : Nat) (a : Aligner ε) : Aligner ε :=
  let a := S.clearPass a
  let m := S.prims.map a anchor pass
  { a with env := m.env, seedQueues := a.seedQueues.emit m.reseed }

/-- One seeding pass (lines 112-188) with at most `fuel` extension rounds. -/
def seedingPass (fuel anchor pass : Nat) (a : Aligner ε) : Option (Aligner ε) :=
  (S.bestApproxScore fuel (S.mapReads anchor pass a)).map
    fun a => { a with seedQueues := a.seedQueues.swap }

/-- The seeding-pass loop of line 110 from pass `pass` with `remaining` passes left. -/
def seedingPasses (fuel anchor : Nat) : (remaining pass : Nat) → Aligner ε → Option (Aligner ε)
  | 0, _, a => some a
  | remaining + 1, pass, a =>
    if a.seedQueues.inSize = 0 then some a
    else (S.seedingPass fuel anchor pass a).bind (seedingPasses fuel anchor remaining (pass + 1))

/-- The passes of one anchor mate (lines 92-189). -/
def anchorPasses (fuel count anchor : Nat) (a : Aligner ε) : Option (Aligner ε) :=
  S.seedingPasses fuel anchor (addU32 S.params.maxReseed 1) 0 (a.anchorStart count)

/-- `best_approx` up to its traceback (lines 84-190): `init_alignments`, then the passes of
anchor `0` and of anchor `1`. -/
def bestApproxPasses (fuel count : Nat) (a : Aligner ε) : Option (Aligner ε) :=
  (S.anchorPasses fuel count 0 { a with env := S.prims.initAlignments a.env }).bind
    (S.anchorPasses fuel count 1)

/-- Where a pass's extension loop starts. -/
def passStart (anchor pass : Nat) (a : Aligner ε) : Aligner ε :=
  S.scoreStart (S.mapReads anchor pass a)

/-- A seeding pass as a relation: its extension loop reaches an empty active queue, and the
seed queues swap. -/
def PassStep (anchor pass : Nat) (a a' : Aligner ε) : Prop :=
  ∃ s, Relation.ReflTransGen S.RoundStep (S.passStart anchor pass a) s ∧
    s.activeReads.inSize = 0 ∧ a' = { s with seedQueues := s.seedQueues.swap }

/-- A pass the loop of line 110 takes, from `(pass, state)`: passes remain and the seed input
queue is not empty. -/
def PassNext (anchor : Nat) (p p' : Nat × Aligner ε) : Prop :=
  p.1 < addU32 S.params.maxReseed 1 ∧ p.2.seedQueues.inSize ≠ 0 ∧ p'.1 = p.1 + 1 ∧
    S.PassStep anchor p.1 p.2 p'.2

variable {S}

@[simp] theorem input_anchorStart (count : Nat) (a : Aligner ε) :
    (a.anchorStart count).seedQueues.input = List.range count :=
  a.seedQueues.input_resize_writeInput _ (List.length_range count)

@[simp] theorem input_mapReads (anchor pass : Nat) (a : Aligner ε) :
    (S.mapReads anchor pass a).seedQueues.input = a.seedQueues.input := by
  simp [mapReads, clearPass]

/-- The extension loop's rounds never touch the seed queues. -/
theorem seedQueues_reach {s s' : Aligner ε} (run : Relation.ReflTransGen S.RoundStep s s') :
    s'.seedQueues = s.seedQueues := by
  induction run with
  | refl => rfl
  | tail _ step ih => obtain ⟨-, rfl⟩ := step; rw [seedQueues_extensionRound, ih]

/-- After a pass the seed input queue holds exactly the reads `map` appended. -/
theorem input_passStep {anchor k : Nat} {a a' : Aligner ε} (h : S.PassStep anchor k a a') :
    a'.seedQueues.input = (S.prims.map (S.clearPass a) anchor k).reseed := by
  obtain ⟨s, run, -, rfl⟩ := h
  rw [PingPongQueues.input_swap, seedQueues_reach run]
  simp [passStart, mapReads, clearPass]

theorem seed_input_passNext (hq : QueueContract S.prims) {anchor : Nat} {p p' : Nat × Aligner ε}
    (h : S.PassNext anchor p p') : p'.2.seedQueues.input.Subperm p.2.seedQueues.input := by
  rw [input_passStep h.2.2.2]
  exact hq.map_reseed _ _ _

theorem seed_input_passReach (hq : QueueContract S.prims) {anchor : Nat} {p p' : Nat × Aligner ε}
    (run : Relation.ReflTransGen (S.PassNext anchor) p p') :
    p'.2.seedQueues.input.Subperm p.2.seedQueues.input := by
  induction run with
  | refl => exact .refl _
  | tail _ step ih => exact (seed_input_passNext hq step).trans ih

/-- At a pass's start the seed input queue holds distinct reads below `count`. -/
structure SeedQueueInv (count : Nat) (a : Aligner ε) : Prop where
  nodup : a.seedQueues.input.Nodup
  lt : ∀ r ∈ a.seedQueues.input, r < count

theorem seedQueueInv_reach (hq : QueueContract S.prims) {count anchor : Nat} {a₀ : Aligner ε}
    {p : Nat × Aligner ε}
    (run : Relation.ReflTransGen (S.PassNext anchor) (0, a₀.anchorStart count) p) :
    SeedQueueInv count p.2 :=
  have h : p.2.seedQueues.input.Subperm (List.range count) := by
    simpa using seed_input_passReach hq run
  ⟨nodup_of_subperm h (List.nodup_range count), fun _ hr => List.mem_range.1 (h.subset hr)⟩

@[simp] theorem readIds_passStart (anchor pass : Nat) (a : Aligner ε) :
    (S.passStart anchor pass a).activeReads.input.map PackedRead.readId = a.seedQueues.input := by
  simp [passStart, List.map_map, Function.comp_def]

variable (S) in
/-- **The queues only narrow.** For either anchor mate and every run, given only that `map`
and `select` append reads of their current input queue, each at most once: at the start of
every seeding pass the seed input queue holds distinct reads below `count`, and every later
pass's queue is a sub-multiset of it; at the start of every extension round of a pass the active
input queue holds distinct reads of that pass's seed queue, and every later round's reads are a
sub-multiset of it. -/
theorem queues_narrow_across_passes_and_rounds (hq : QueueContract S.prims) (count anchor : Nat)
    (a₀ : Aligner ε) {k : Nat} {a : Aligner ε}
    (reach : Relation.ReflTransGen (S.PassNext anchor) (0, a₀.anchorStart count) (k, a)) :
    SeedQueueInv count a ∧
      (∀ p, Relation.ReflTransGen (S.PassNext anchor) (k, a) p →
        p.2.seedQueues.input.Subperm a.seedQueues.input) ∧
      ∀ s, Relation.ReflTransGen S.RoundStep (S.passStart anchor k a) s →
        ActiveQueueInv a.seedQueues.input s ∧
          ∀ s', Relation.ReflTransGen S.RoundStep s s' →
            (s'.activeReads.input.map PackedRead.readId).Subperm
              (s.activeReads.input.map PackedRead.readId) :=
  have inv := seedQueueInv_reach hq reach
  ⟨inv, fun _ run => seed_input_passReach hq run, fun _ run =>
    ⟨activeQueueInv_reach hq (readIds_passStart anchor k a) inv.nodup run,
      fun _ run' => readIds_reach hq run'⟩⟩

end Setup

open Setup in
/-- Two reads, anchor mate `0`, from the first seeding pass. -/
theorem queues_narrow_two_reads :
    QueueContract rowSetup.prims ∧
      let a := (activeAligner 0).anchorStart 2
      SeedQueueInv 2 a ∧
        (∀ p, Relation.ReflTransGen (rowSetup.PassNext 0) (0, a) p →
          p.2.seedQueues.input.Subperm a.seedQueues.input) ∧
        ∀ s, Relation.ReflTransGen rowSetup.RoundStep (rowSetup.passStart 0 0 a) s →
          ActiveQueueInv a.seedQueues.input s ∧
            ∀ s', Relation.ReflTransGen rowSetup.RoundStep s s' →
              (s'.activeReads.input.map PackedRead.readId).Subperm
                (s.activeReads.input.map PackedRead.readId) :=
  ⟨rowKernels_queueContract 10, Setup.queues_narrow_across_passes_and_rounds rowSetup
    (rowKernels_queueContract 10) 2 0 (activeAligner 0) .refl⟩

/-! ### Every queue fits the batch -/

namespace Setup
variable {S : Setup ε}

theorem seed_inSize_le (hq : QueueContract S.prims) {count anchor : Nat} {a₀ : Aligner ε}
    {p : Nat × Aligner ε}
    (run : Relation.ReflTransGen (S.PassNext anchor) (0, a₀.anchorStart count) p) :
    p.2.seedQueues.inSize ≤ count := by
  simpa using (seed_input_passReach hq run).length_le

theorem inSize_reach_le (hq : QueueContract S.prims) {s s' : Aligner ε}
    (run : Relation.ReflTransGen S.RoundStep s s') : s'.activeReads.inSize ≤ s.activeReads.inSize := by
  simpa using (readIds_reach hq run).length_le

@[simp] theorem inSize_passStart (anchor pass : Nat) (a : Aligner ε) :
    (S.passStart anchor pass a).activeReads.inSize = a.seedQueues.inSize := by
  have h := congrArg List.length (readIds_passStart (S := S) anchor pass a)
  rwa [List.length_map, PingPongQueues.length_input, PingPongQueues.length_input] at h

variable (S) in
/-- **Every queue fits the batch.** For either anchor mate and every run on at most
`BATCH_SIZE` reads, given that `map` and `select` append reads of their current input queue,
each at most once, and that `select` writes at most `n_hits_per_read` hits per read: at the start
of every seeding pass the seed queue holds at most `BATCH_SIZE` reads, and so does the active
queue at the start of every extension round; every round that reaches the reducer hands it a
hit queue of at most `BATCH_SIZE` hits, on whichever branch of the batching rule, and an
opposite queue no longer than the hit queue. -/
theorem queues_within_batch_size (hq : QueueContract S.prims) (hh : SelectHitsContract S.prims)
    (count anchor : Nat) (a₀ : Aligner ε) (hc : count ≤ S.batchSize) {k : Nat} {a : Aligner ε}
    (reach : Relation.ReflTransGen (S.PassNext anchor) (0, a₀.anchorStart count) (k, a)) :
    a.seedQueues.inSize ≤ S.batchSize ∧
      ∀ s, Relation.ReflTransGen S.RoundStep (S.passStart anchor k a) s →
        s.activeReads.inSize ≤ S.batchSize ∧
          ∀ r, S.roundToReduce s = .inr r →
            r.pipeline.hitsQueueSize ≤ S.batchSize ∧
              r.pipeline.oppositeQueueSize ≤ r.pipeline.hitsQueueSize := by
  have hseed : a.seedQueues.inSize ≤ S.batchSize := (seed_inSize_le hq reach).trans hc
  refine ⟨hseed, fun s run => ?_⟩
  have hs : s.activeReads.inSize ≤ S.batchSize :=
    (inSize_reach_le hq run).trans (by rw [inSize_passStart]; exact hseed)
  refine ⟨hs, fun r hr => ?_⟩
  obtain ⟨-, -, rfl⟩ := S.roundToReduce_eq_inr s hr
  rw [pipeline_scoreHits_hitsQueueSize]
  exact ⟨S.hitsQueueSize_le_batchSize s hq hh hs, S.oppositeQueueSize_scoreHits_le _⟩

end Setup

/-- Two reads, anchor mate `0`, from the first seeding pass. -/
theorem queues_within_batch_size_two_reads :
    QueueContract rowSetup.prims ∧ SelectHitsContract rowSetup.prims ∧ 2 ≤ rowSetup.batchSize ∧
      let a := (activeAligner 0).anchorStart 2
      a.seedQueues.inSize ≤ rowSetup.batchSize ∧
        ∀ s, Relation.ReflTransGen rowSetup.RoundStep (rowSetup.passStart 0 0 a) s →
          s.activeReads.inSize ≤ rowSetup.batchSize ∧
            ∀ r, rowSetup.roundToReduce s = .inr r →
              r.pipeline.hitsQueueSize ≤ rowSetup.batchSize ∧
                r.pipeline.oppositeQueueSize ≤ r.pipeline.hitsQueueSize :=
  ⟨rowKernels_queueContract 10, rowKernels_selectHits 10, by decide,
    Setup.queues_within_batch_size rowSetup (rowKernels_queueContract 10) (rowKernels_selectHits 10)
      2 0 (activeAligner 0) (by decide) .refl⟩

namespace Setup
variable {S : Setup ε}

/-! ### The fuelled loops take these steps -/

theorem seedingPass_step {fuel anchor k : Nat} {a a' : Aligner ε}
    (h : S.seedingPass fuel anchor k a = some a') : S.PassStep anchor k a a' := by
  obtain ⟨s, hs, rfl⟩ := Option.map_eq_some'.1 h
  obtain ⟨run, empty⟩ := extensionLoop_reach hs
  exact ⟨s, run, empty, rfl⟩

theorem seedingPass_eq_none {fuel anchor k : Nat} {a : Aligner ε}
    (h : S.extensionLoop fuel (S.passStart anchor k a) = none) : S.seedingPass fuel anchor k a = none := by
  rw [show S.seedingPass fuel anchor k a = (S.extensionLoop fuel (S.passStart anchor k a)).map
    (fun a => { a with seedQueues := a.seedQueues.swap }) from rfl, h]
  rfl

theorem seedingPasses_succ_of_ne {fuel anchor remaining k : Nat} {a : Aligner ε}
    (h : a.seedQueues.inSize ≠ 0) : S.seedingPasses fuel anchor (remaining + 1) k a =
      (S.seedingPass fuel anchor k a).bind (S.seedingPasses fuel anchor remaining (k + 1)) := by
  simp [seedingPasses, h]

/-- Every state the seeding-pass loop ends in is reached by `PassNext` steps, no more than the
passes the loop had left, and the loop ends only on an empty seed queue or with no pass left. -/
theorem seedingPasses_reach {fuel anchor : Nat} :
    ∀ remaining k (a a' : Aligner ε), k + remaining = addU32 S.params.maxReseed 1 →
      S.seedingPasses fuel anchor remaining k a = some a' →
      ∃ k', Relation.ReflTransGen (S.PassNext anchor) (k, a) (k', a') ∧ k' ≤ k + remaining ∧
        (a'.seedQueues.inSize = 0 ∨ k' = k + remaining) := by
  intro remaining
  induction remaining with
  | zero => intro k a a' _ h; cases h; exact ⟨k, .refl, le_rfl, .inr rfl⟩
  | succ remaining ih =>
    intro k a a' hk h
    simp only [seedingPasses] at h
    split at h
    · cases h; exact ⟨k, .refl, by omega, .inl ‹_›⟩
    · obtain ⟨b, hb, h⟩ := Option.bind_eq_some.1 h
      obtain ⟨k', run, hle, hstop⟩ := ih (k + 1) b a' (by omega) h
      exact ⟨k', .head ⟨by omega, ‹_›, rfl, seedingPass_step hb⟩ run, by omega, by omega⟩

/-- The passes of an anchor mate, when they return, are `PassNext` steps from the full seed
queue, so every invariant of `PassNext` runs holds at each of them; there are at most
`params.max_reseed + 1` of them (on `uint32`), and the last leaves an empty seed queue unless
the bound is reached. -/
theorem anchorPasses_reach {fuel count anchor : Nat} {a a' : Aligner ε}
    (h : S.anchorPasses fuel count anchor a = some a') :
    ∃ k, Relation.ReflTransGen (S.PassNext anchor) (0, a.anchorStart count) (k, a') ∧
      k ≤ addU32 S.params.maxReseed 1 ∧
      (a'.seedQueues.inSize = 0 ∨ k = addU32 S.params.maxReseed 1) := by
  simpa using seedingPasses_reach _ 0 _ _ (Nat.zero_add _) h

end Setup

/-- **`best_approx` can run forever.** With `BATCH_SIZE = 1024`, `params.max_ext = 3` and a
hundred reads, the first extension round asks for three hits per read and brings `n_ext` to
`params.max_ext`. From then on every round asks `select` for no hits; this `select`, which
spends a seed-hit row of every read it keeps whenever it is asked for hits, keeps them all, and
the round changes neither the queue nor `n_ext`. No fuel suffices. -/
theorem best_approx_stalls_at_exhausted_budget :
    (∀ s : Aligner Nat, s.pipeline.nHitsPerRead ≠ 0 →
        (rowSetup.prims.select s).survivors = [] ∨ (rowSetup.prims.select s).env < s.env) ∧
      ∀ fuel, rowSetup.bestApproxPasses fuel 100 (activeAligner 0) = none := by
  refine ⟨fun s hn => ?_, fun fuel => ?_⟩
  · by_cases he : s.env = 0
    · exact .inl (by simp [rowSetup, rowKernels, hn, he])
    · show ((rowKernels 10).select s).survivors = [] ∨ ((rowKernels 10).select s).env < s.env
      rw [rowKernels_select_spend hn he]
      exact .inr (Nat.sub_lt (Nat.pos_of_ne_zero he) Nat.one_pos)
  set s₀ := rowSetup.passStart 0 0 ((activeAligner 0).anchorStart 100)
  have hloop : rowSetup.extensionLoop fuel s₀ = none := by
    cases fuel with
    | zero => rfl
    | succ fuel =>
      have h₀ : s₀.activeReads.inSize = 100 ∧ s₀.nExt = 0 ∧ s₀.env = 10 := ⟨rfl, rfl, rfl⟩
      obtain ⟨hi, hn, -⟩ := rowSetup_round_spends (s := s₀) (by rw [h₀.1]; decide)
        (by rw [Setup.hitsPerRound, h₀.1, h₀.2.1]; decide) (by rw [h₀.2.2]; decide)
      simp only [Setup.extensionLoop, h₀.1, if_neg (by decide : (100 : Nat) ≠ 0)]
      refine rowSetup.extensionLoop_eq_none (fun s => s.activeReads.inSize = 100 ∧ s.nExt = 3)
        (fun s hs => ⟨by rw [hs.1]; decide, rowSetup_round_at_budget hs.1 hs.2⟩) fuel _ ⟨?_, ?_⟩
      · exact (PingPongQueues.inSize_eq_of_input_eq _ hi).trans h₀.1
      · rw [hn, Setup.hitsPerRound, h₀.1, h₀.2.1]; decide
  show (rowSetup.anchorPasses fuel 100 0 (activeAligner 0)).bind _ = none
  rw [Setup.anchorPasses, show addU32 rowSetup.params.maxReseed 1 = 0 + 1 from rfl,
    Setup.seedingPasses_succ_of_ne (by decide), Setup.seedingPass_eq_none hloop]
  rfl

end NvBowtie
