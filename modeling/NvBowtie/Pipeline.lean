import NvBowtie.PingPong
import NvBowtie.Batching

/-!
# Orchestration state and the external kernels

`Aligner` holds what `best_approx` and `best_approx_score` read and write themselves: the seed
queues, the active-read queues, the pool counter behind `scoring_queues.hits_count()`, the
`loc`, `score` and `opposite_score` columns of `scoring_queues.hits`, `opposite_queue_dvec`,
and the two locals of `best_approx_score`, `n_ext` and the fields of its `pipeline` object.
What the external kernels own (the reads, the FM-index, the hit deques, `trys`, the
best-alignment registry) is an abstract device state `ε`.

Each kernel of `Primitives` sees the whole state and returns only what the source lets it
write, so every behaviour of the kernels is one choice of these functions. What the theorems
assume of them are separate predicates (`QueueContract`, `SelectHitsContract`,
`SingleHitContract`, `OppositeScoreContract`), never built into the model.
-/

namespace NvBowtie
set_option autoImplicit false

/-- The fields of `BestApproxScoringPipelineState` the orchestration sets. -/
structure Pipeline where
  nHitsPerRead : Nat
  hitsQueueSize : Nat
  idxQueue : Nat → Nat
  oppositeQueueSize : Nat

/-- The state of an `Aligner` and of a running `best_approx_score` that the orchestration
touches; `ε` is the device state of the external kernels. -/
structure Aligner (ε : Type) where
  seedQueues : PingPongQueues Nat
  activeReads : PingPongQueues PackedRead
  /-- The hit pool counter: `scoring_queues.hits_count()`. -/
  hitsPool : Nat
  loc : Nat → Nat
  score : Nat → Int
  oppositeScore : Nat → Int
  /-- `opposite_queue_dvec`. -/
  oppositeQueue : Nat → Nat
  /-- `best_approx_score`'s extension counter. -/
  nExt : Nat
  /-- `best_approx_score`'s `pipeline`. -/
  pipeline : Pipeline
  env : ε

/-- What `select` leaves: the reads it appends to the active output queue, the `loc` (SA row)
of each hit it writes from the front of the hit pool, and how far it advances the pool counter
when asked for at most one hit per read. A multi-hit selection appends its hits through that
counter; line 781 reads the counter only then. -/
structure Selection (ε : Type) where
  env : ε
  survivors : List PackedRead
  hits : List Nat
  pooled : Nat

/-- What `map` leaves: the reads it appends to the seed output queue for another pass. -/
structure Mapping (ε : Type) where
  env : ε
  reseed : List Nat

/-- The external kernels, each as the writes its call may make. -/
structure Primitives (ε : Type) where
  /-- `init_alignments` for both mates. -/
  initAlignments : ε → ε
  /-- `hit_deques.clear_deques()`. -/
  clearDeques : ε → ε
  /-- `map(reads, fmi, rfmi, seeding_pass, seed_queues, hits, params)`. -/
  map : Aligner ε → (anchor seedingPass : Nat) → Mapping ε
  selectInit : Aligner ε → ε
  /-- `select`, for `pipeline.n_hits_per_read` hits per active read. -/
  select : Aligner ε → Selection ε
  /-- `sort_hi_bits(n, loc)`: the `idx_queue` ordering the first `n` hits. -/
  sortHiBits : Nat → (Nat → Nat) → Nat → Nat
  /-- `locate_init`: device state and `loc` column. -/
  locateInit : Aligner ε → ε × (Nat → Nat)
  /-- `locate_lookup`: device state and `loc` column. -/
  locateLookup : Aligner ε → ε × (Nat → Nat)
  /-- `anchor_score_best`: device state and `score` column. -/
  anchorScoreBest : Aligner ε → ε × (Nat → Int)
  /-- `opposite_score_best`: device state and `opposite_score` column. -/
  oppositeScoreBest : Aligner ε → ε × (Nat → Int)
  /-- `score_reduce_paired` with `ReduceBestApproxContext(trys, n_ext)`: device state and any
  appends to the active output queue. -/
  scoreReducePaired : Aligner ε → ε × List PackedRead

/-- A run's fixed parameters: `Aligner::BATCH_SIZE`, the `Params`, the scoring scheme's
`worst_score`, and the kernels. -/
structure Setup (ε : Type) where
  batchSize : Nat
  params : Params
  worstScore : Int
  prims : Primitives ε

variable {ε : Type}

/-- `map` and `select` append to their output queue only reads taken from the current input
queue, each at most once. -/
structure QueueContract (prims : Primitives ε) : Prop where
  map_reseed : ∀ a anchor pass, (prims.map a anchor pass).reseed.Subperm a.seedQueues.input
  select_survivors : ∀ s, (prims.select s).survivors.Subperm s.activeReads.input

/-- `select` writes at most `n_hits_per_read` hits per active read. -/
def SelectHitsContract (prims : Primitives ε) : Prop :=
  ∀ s, (prims.select s).hits.length ≤ s.activeReads.inSize * s.pipeline.nHitsPerRead

/-- Asked for one hit per read, `select` writes one hit for each read it keeps and counts them
in the hit pool. -/
def SingleHitContract (prims : Primitives ε) : Prop :=
  ∀ s, s.pipeline.nHitsPerRead = 1 →
    (prims.select s).hits.length = (prims.select s).survivors.length ∧
      (prims.select s).pooled = (prims.select s).hits.length

/-- `opposite_score_best` writes only `opposite_score[idx_queue[opposite_queue[t]]]` for
`t < opposite_queue_size`. -/
def OppositeScoreContract (prims : Primitives ε) : Prop :=
  ∀ s h, (∀ t < s.pipeline.oppositeQueueSize, s.pipeline.idxQueue (s.oppositeQueue t) ≠ h) →
    (prims.oppositeScoreBest s).2 h = s.oppositeScore h

end NvBowtie
