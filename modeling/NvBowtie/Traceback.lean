import NvBowtie.Seeding

/-!
# Traceback and output assembly of `best_approx`

Lines 192-595. Once both anchor mates are scored, four stages backtrack and finish the best and
second-best alignments of the anchor mate (`best_data_dvec`) and of the opposite mate
(`best_data_dvec_o`), and each hands one `GPUOutputBatch` to `output_file->process`. Every
compaction writes its read indices over `scoring_queues.hits.loc`, and the kernels after it read
the first `n` of them. Three stages begin by clearing the `cigar` and `mds` pools; the anchor's
second-best stage clears them only when some read has a second-best alignment, so when none has,
its batch carries what the opposite mate's best stage left in the pools.

The kernels, and the `io::` predicates the compactions test on the registries, are
`TracebackKernels`; `launches` logs every kernel call with the entries it appended to the pools.
`Launched` and `Processed` say what a run of calls, and a stage, did to the log, the pools and
the batches; the stage lemmas establish them and `traceback_batches` chains the four stages.
-/

namespace NvBowtie
set_option autoImplicit false

/-- `io::MATE_1`, `io::MATE_2`. -/
inductive Mate
  | mate1
  | mate2
  deriving DecidableEq, Repr

/-- `io::BEST_SCORE` and `io::SECOND_BEST_SCORE`; also the template rank `<0>`, `<1>` of the
traceback kernels. -/
inductive Rank
  | bestScore
  | secondBestScore
  deriving DecidableEq, Repr

/-- The registry a kernel or a compaction reads: `best_data_dvec` (the anchor mate's) or
`best_data_dvec_o` (the opposite mate's). -/
inductive Registry
  | bestData
  | bestDataO
  deriving DecidableEq, Repr

/-- The `io::` functors the compactions test. -/
inductive ReadPredicate
  | isPaired
  | isUnpaired
  | isAligned
  | hasSecond
  | hasSecondPaired
  | hasSecondUnpaired
  deriving DecidableEq, Repr

/-- The traceback kernels. -/
inductive Kernel
  | bandedTracebackBest
  | oppositeTracebackBest
  | finishAlignmentBest
  | finishOppositeAlignmentBest
  deriving DecidableEq, Repr

/-- A kernel call: the kernel, its rank, the registry it is handed, and its index list, `none`
for `NULL` (every read of the batch). -/
structure Launch where
  kernel : Kernel
  rank : Rank
  registry : Registry
  reads : Option (List Nat)
  deriving DecidableEq, Repr

/-- A `GPUOutputBatch` and the tags `output_file->process` gets with it. -/
structure OutputBatch (γ : Type) where
  mate : Mate
  rank : Rank
  count : Nat
  registry : Registry
  /-- What the `cigar` and `mds` pools hold. -/
  transcripts : List γ
  deriving DecidableEq, Repr

/-- The device side of the traceback. -/
structure TracebackKernels (ε γ : Type) where
  /-- An `io::` predicate on entry `i` of a registry. -/
  holds : ReadPredicate → Registry → ε → Nat → Bool
  /-- A kernel call: the device state after it and the CIGAR and MD entries it appends. -/
  run : Launch → ε → ε × List γ

/-- The state the traceback runs on. -/
structure TracebackState (ε γ : Type) where
  env : ε
  /-- `scoring_queues.hits.loc`, reused for the compacted read indices. -/
  loc : Nat → Nat
  /-- The `cigar` and `mds` pools. -/
  transcripts : List γ
  /-- The kernel calls so far, each with the entries it appended to the pools. -/
  launches : List (Launch × List γ)
  /-- The batches handed to `output_file->process`, in order. -/
  outputs : List (OutputBatch γ)

variable {ε γ : Type}

namespace TracebackState
variable (t : TracebackState ε γ)

/-- `cigar.clear(); mds.clear();` -/
def clearPools : TracebackState ε γ := { t with transcripts := [] }

/-- `output_file->process(GPUOutputBatch(count, best_data, cigar, mds, read_data1), mate, rank)`. -/
def process (mate : Mate) (rank : Rank) (count : Nat) (registry : Registry) : TracebackState ε γ :=
  { t with outputs := t.outputs ++ [⟨mate, rank, count, registry, t.transcripts⟩] }

end TracebackState

namespace TracebackKernels
variable (K : TracebackKernels ε γ)

/-- A kernel call. -/
def launch (l : Launch) (t : TracebackState ε γ) : TracebackState ε γ :=
  let r := K.run l t.env
  { t with env := r.1, transcripts := t.transcripts ++ r.2, launches := t.launches ++ [(l, r.2)] }

/-- `thrust::copy_if` of the reads `[0, count)` whose entry in `registry` passes `p`, into
`loc`, and the number kept. -/
def compact (count : Nat) (p : ReadPredicate) (registry : Registry) (t : TracebackState ε γ) :
    TracebackState ε γ × Nat :=
  let kept := copyIf count (K.holds p registry t.env)
  ({ t with loc := writeSlots t.loc kept }, kept.length)

/-- A compaction into `loc`, then `if (n) kernel<rank>(n, idx, registry, …)` on it. -/
def compactLaunch (count : Nat) (p : ReadPredicate) (k : Kernel) (rank : Rank) (registry : Registry)
    (t : TracebackState ε γ) : TracebackState ε γ :=
  let c := K.compact count p registry t
  if c.2 = 0 then c.1 else K.launch ⟨k, rank, registry, some (slots c.1.loc c.2)⟩ c.1

/-- Lines 216-271: banded backtracking and finishing of every read's best anchor alignment. -/
def bestAnchorStage (count : Nat) (t : TracebackState ε γ) : TracebackState ε γ :=
  let t := K.launch ⟨.bandedTracebackBest, .bestScore, .bestData, none⟩ t.clearPools
  let t := K.launch ⟨.finishAlignmentBest, .bestScore, .bestData, none⟩ t
  t.process .mate1 .bestScore count .bestData

/-- The opposite mate's stage at `rank`: full backtracking of the reads `paired` selects, banded
backtracking of those `unpaired` selects, and finishing of those `aligned` selects, each on its
own compaction of `best_data_dvec_o`. -/
def oppositeStage (rank : Rank) (paired unpaired aligned : ReadPredicate) (count : Nat)
    (t : TracebackState ε γ) : TracebackState ε γ :=
  let t := K.compactLaunch count paired .oppositeTracebackBest rank .bestDataO t.clearPools
  let t := K.compactLaunch count unpaired .bandedTracebackBest rank .bestDataO t
  let t := K.compactLaunch count aligned .finishOppositeAlignmentBest rank .bestDataO t
  t.process .mate2 rank count .bestDataO

/-- Lines 276-397. -/
def bestOppositeStage (count : Nat) (t : TracebackState ε γ) : TracebackState ε γ :=
  K.oppositeStage .bestScore .isPaired .isUnpaired .isAligned count t

/-- Lines 475-591. -/
def secondOppositeStage (count : Nat) (t : TracebackState ε γ) : TracebackState ε γ :=
  K.oppositeStage .secondBestScore .hasSecondPaired .hasSecondUnpaired .hasSecond count t

/-- Lines 399-473: compact the reads with a second-best anchor alignment and, only if there are
any, clear the pools, backtrack and finish them. -/
def secondAnchorStage (count : Nat) (t : TracebackState ε γ) : TracebackState ε γ :=
  let c := K.compact count .hasSecond .bestData t
  let t := if c.2 = 0 then c.1 else
    let t := K.launch ⟨.bandedTracebackBest, .secondBestScore, .bestData, some (slots c.1.loc c.2)⟩
      c.1.clearPools
    K.launch ⟨.finishAlignmentBest, .secondBestScore, .bestData, some (slots t.loc c.2)⟩ t
  t.process .mate1 .secondBestScore count .bestData

/-- Lines 192-591: the four stages in the source's order. -/
def traceback (count : Nat) (t : TracebackState ε γ) : TracebackState ε γ :=
  K.secondOppositeStage count (K.secondAnchorStage count (K.bestOppositeStage count
    (K.bestAnchorStage count t)))

end TracebackKernels

/-- `best_approx` (lines 60-595): the seeding passes of both anchor mates, then the traceback,
starting from the `cigar` and `mds` pools `pools` an earlier batch left. -/
def Setup.bestApprox (S : Setup ε) (K : TracebackKernels ε γ) (fuel count : Nat) (a : Aligner ε)
    (pools : List γ) : Option (TracebackState ε γ) :=
  (S.bestApproxPasses fuel count a).map fun a => K.traceback count ⟨a.env, a.loc, pools, [], []⟩

/-! ### What the calls and the stages do -/

namespace TracebackState
variable (t : TracebackState ε γ) (mate : Mate) (rank : Rank) (count : Nat) (registry : Registry)

@[simp] theorem env_clearPools : t.clearPools.env = t.env := rfl
@[simp] theorem loc_clearPools : t.clearPools.loc = t.loc := rfl
@[simp] theorem transcripts_clearPools : t.clearPools.transcripts = [] := rfl
@[simp] theorem launches_clearPools : t.clearPools.launches = t.launches := rfl
@[simp] theorem outputs_clearPools : t.clearPools.outputs = t.outputs := rfl

@[simp] theorem env_process : (t.process mate rank count registry).env = t.env := rfl
@[simp] theorem transcripts_process : (t.process mate rank count registry).transcripts = t.transcripts :=
  rfl
@[simp] theorem launches_process : (t.process mate rank count registry).launches = t.launches := rfl
@[simp] theorem outputs_process : (t.process mate rank count registry).outputs =
    t.outputs ++ [⟨mate, rank, count, registry, t.transcripts⟩] := rfl

end TracebackState

/-- A kernel call's index list, if it has one, is a non-empty increasing list of reads of the
batch. -/
def ReadsOk (count : Nat) (l : Launch) : Prop :=
  ∀ xs, l.reads = some xs → xs ≠ [] ∧ xs.Sorted (· < ·) ∧ ∀ i ∈ xs, i < count

/-- From `t` to `t'` the traceback made the kernel calls `l`, each on a good index list, and
nothing else the batches see. -/
structure Launched (count : Nat) (t t' : TracebackState ε γ) (l : List (Launch × List γ)) : Prop where
  launches : t'.launches = t.launches ++ l
  transcripts : t'.transcripts = t.transcripts ++ l.flatMap Prod.snd
  outputs : t'.outputs = t.outputs
  reads : ∀ q ∈ l, ReadsOk count q.1

/-- From `t` to `t'` a stage made the kernel calls `l`, each on a good index list, and handed
the batch `b` on, leaving the pools as `b` holds them. -/
structure Processed (count : Nat) (t t' : TracebackState ε γ) (l : List (Launch × List γ))
    (b : OutputBatch γ) : Prop where
  launches : t'.launches = t.launches ++ l
  outputs : t'.outputs = t.outputs ++ [b]
  transcripts : t'.transcripts = b.transcripts
  reads : ∀ q ∈ l, ReadsOk count q.1

namespace Launched
variable {count : Nat} {t₁ t₂ t₃ : TracebackState ε γ} {l₁ l₂ : List (Launch × List γ)}

theorem refl_loc (t : TracebackState ε γ) (loc : Nat → Nat) :
    Launched count t { t with loc := loc } [] :=
  ⟨by simp, by simp, rfl, by simp⟩

theorem trans (h₁ : Launched count t₁ t₂ l₁) (h₂ : Launched count t₂ t₃ l₂) :
    Launched count t₁ t₃ (l₁ ++ l₂) where
  launches := by rw [h₂.launches, h₁.launches, List.append_assoc]
  transcripts := by rw [h₂.transcripts, h₁.transcripts, List.flatMap_append, List.append_assoc]
  outputs := h₂.outputs.trans h₁.outputs
  reads q hq := (List.mem_append.1 hq).elim (h₁.reads q) (h₂.reads q)

theorem process (h : Launched count t₁ t₂ l₁) (mate : Mate) (rank : Rank) (registry : Registry) :
    Processed count t₁ (t₂.process mate rank count registry) l₁
      ⟨mate, rank, count, registry, t₂.transcripts⟩ :=
  ⟨h.launches, by simp [h.outputs], rfl, h.reads⟩

/-- Calls made from `t₀`, a state with cleared pools and `t₁`'s log and batches, then the batch:
the batch holds exactly what those calls appended. -/
theorem process_of_clear {t₀ : TracebackState ε γ} (h : Launched count t₀ t₂ l₁)
    (t₁ : TracebackState ε γ) (hl : t₀.launches = t₁.launches) (ho : t₀.outputs = t₁.outputs)
    (hc : t₀.transcripts = [])
    (mate : Mate) (rank : Rank) (registry : Registry) :
    Processed count t₁ (t₂.process mate rank count registry) l₁
      ⟨mate, rank, count, registry, l₁.flatMap Prod.snd⟩ :=
  have ht : t₂.transcripts = l₁.flatMap Prod.snd := by simpa [hc] using h.transcripts
  ⟨h.launches.trans (by rw [hl]), by simp [h.outputs, ho, ht], ht, h.reads⟩

end Launched

namespace TracebackKernels
variable (K : TracebackKernels ε γ) (count : Nat)

@[simp] theorem loc_launch (l : Launch) (t : TracebackState ε γ) : (K.launch l t).loc = t.loc := rfl

theorem readsOk_copyIf {k : Kernel} {rank : Rank} {registry : Registry} {pred : Nat → Bool}
    (h : copyIf count pred ≠ []) : ReadsOk count ⟨k, rank, registry, some (copyIf count pred)⟩ := by
  rintro xs ⟨⟩
  exact ⟨h, copyIf_sorted _ _, fun _ hi => (mem_copyIf.1 hi).1⟩

theorem readsOk_none (k : Kernel) (rank : Rank) (registry : Registry) :
    ReadsOk count ⟨k, rank, registry, none⟩ :=
  fun _ h => Option.noConfusion h

theorem launched_launch (l : Launch) (hl : ReadsOk count l) (t : TracebackState ε γ) :
    Launched count t (K.launch l t) [(l, (K.run l t.env).2)] :=
  ⟨rfl, by simp [launch], rfl, by simpa using hl⟩

/-- A guarded launch calls its kernel exactly on the reads the compaction kept, when it kept
any. -/
theorem compactLaunch_cases (p : ReadPredicate) (k : Kernel) (rank : Rank) (registry : Registry)
    (t : TracebackState ε γ) :
    let kept := copyIf count (K.holds p registry t.env)
    (kept = [] ∧ K.compactLaunch count p k rank registry t = { t with loc := writeSlots t.loc kept }) ∨
      (kept ≠ [] ∧ K.compactLaunch count p k rank registry t =
        K.launch ⟨k, rank, registry, some kept⟩ { t with loc := writeSlots t.loc kept }) := by
  intro kept
  by_cases h : kept = []
  · refine .inl ⟨h, ?_⟩
    simp only [compactLaunch, compact]
    rw [if_pos (List.length_eq_zero.2 h)]
  · refine .inr ⟨h, ?_⟩
    simp only [compactLaunch, compact]
    rw [if_neg (mt List.length_eq_zero.1 h), slots_writeSlots]

theorem launched_compactLaunch (p : ReadPredicate) (k : Kernel) (rank : Rank) (registry : Registry)
    (t : TracebackState ε γ) : ∃ l, Launched count t (K.compactLaunch count p k rank registry t) l := by
  rcases K.compactLaunch_cases count p k rank registry t with ⟨-, h⟩ | ⟨hne, h⟩ <;> rw [h]
  · exact ⟨_, Launched.refl_loc t _⟩
  · exact ⟨_, (Launched.refl_loc t _).trans (K.launched_launch count _ (readsOk_copyIf count hne) _)⟩

theorem processed_bestAnchorStage (t : TracebackState ε γ) :
    ∃ l, Processed count t (K.bestAnchorStage count t) l
      ⟨.mate1, .bestScore, count, .bestData, l.flatMap Prod.snd⟩ :=
  ⟨_, ((K.launched_launch count _ (readsOk_none count _ _ _) t.clearPools).trans
    (K.launched_launch count _ (readsOk_none count _ _ _) _)).process_of_clear t rfl rfl rfl _ _ _⟩

theorem processed_oppositeStage (rank : Rank) (paired unpaired aligned : ReadPredicate)
    (t : TracebackState ε γ) :
    ∃ l, Processed count t (K.oppositeStage rank paired unpaired aligned count t) l
      ⟨.mate2, rank, count, .bestDataO, l.flatMap Prod.snd⟩ := by
  obtain ⟨l₁, h₁⟩ := K.launched_compactLaunch count paired .oppositeTracebackBest rank .bestDataO
    t.clearPools
  obtain ⟨l₂, h₂⟩ := K.launched_compactLaunch count unpaired .bandedTracebackBest rank .bestDataO
    (K.compactLaunch count paired .oppositeTracebackBest rank .bestDataO t.clearPools)
  obtain ⟨l₃, h₃⟩ := K.launched_compactLaunch count aligned .finishOppositeAlignmentBest rank
    .bestDataO _
  exact ⟨_, ((h₁.trans h₂).trans h₃).process_of_clear t rfl rfl rfl _ _ _⟩

/-- The anchor's second-best stage: with no read selected it only compacts and hands the batch
on; otherwise it clears the pools and makes its two calls on the selected reads. -/
theorem secondAnchorStage_cases (t : TracebackState ε γ) :
    let kept := copyIf count (K.holds .hasSecond .bestData t.env)
    let t' : TracebackState ε γ := { t with loc := writeSlots t.loc kept }
    (kept = [] ∧ K.secondAnchorStage count t = t'.process .mate1 .secondBestScore count .bestData) ∨
      (kept ≠ [] ∧ K.secondAnchorStage count t =
        (K.launch ⟨.finishAlignmentBest, .secondBestScore, .bestData, some kept⟩
          (K.launch ⟨.bandedTracebackBest, .secondBestScore, .bestData, some kept⟩
            t'.clearPools)).process .mate1 .secondBestScore count .bestData) := by
  intro kept t'
  by_cases h : kept = []
  · refine .inl ⟨h, ?_⟩
    simp only [secondAnchorStage, compact]
    rw [if_pos (List.length_eq_zero.2 h)]
  · refine .inr ⟨h, ?_⟩
    simp only [secondAnchorStage, compact]
    rw [if_neg (mt List.length_eq_zero.1 h)]
    simp only [loc_launch, TracebackState.loc_clearPools, slots_writeSlots]

/-- The anchor's second-best stage makes its two calls on the reads with a second-best anchor
alignment, and none when there are none; then its batch holds what the pools held before. -/
theorem processed_secondAnchorStage (t : TracebackState ε γ) :
    ∃ l, Processed count t (K.secondAnchorStage count t) l
        ⟨.mate1, .secondBestScore, count, .bestData,
          if l.isEmpty then t.transcripts else l.flatMap Prod.snd⟩ ∧
      (l = [] ↔ copyIf count (K.holds .hasSecond .bestData t.env) = []) := by
  rcases K.secondAnchorStage_cases count t with ⟨h, hs⟩ | ⟨h, hs⟩ <;> rw [hs]
  · exact ⟨[], (Launched.refl_loc t _).process _ _ _, by simp [h]⟩
  · refine ⟨_, ((K.launched_launch count _ (readsOk_copyIf count h)
      (TracebackState.clearPools { t with loc := writeSlots t.loc _ })).trans
      (K.launched_launch count _ (readsOk_copyIf count h) _)).process_of_clear t rfl rfl rfl _ _ _, ?_⟩
    simp [h]

/-- **Output assembly.** Whatever the kernels do, the traceback hands `output_file->process`
exactly four batches of all `count` reads: (`MATE_1`, `BEST_SCORE`) and
(`MATE_1`, `SECOND_BEST_SCORE`) on `best_data_dvec`, (`MATE_2`, `BEST_SCORE`) and
(`MATE_2`, `SECOND_BEST_SCORE`) on `best_data_dvec_o`, in the order (mate 1, best),
(mate 2, best), (mate 1, second), (mate 2, second). Every kernel call with an index list gets a
non-empty increasing list of reads below `count`. Each batch holds exactly the CIGAR and MD
entries of its own stage's calls, except (`MATE_1`, `SECOND_BEST_SCORE`): when no read has a
second-best anchor alignment its stage calls nothing and clears nothing, and the batch holds the
entries of the (`MATE_2`, `BEST_SCORE`) stage. -/
theorem traceback_batches (t : TracebackState ε γ) :
    ∃ l₁ l₂ l₃ l₄, (K.traceback count t).launches = t.launches ++ (l₁ ++ l₂ ++ l₃ ++ l₄) ∧
      (K.traceback count t).outputs = t.outputs ++
        [⟨.mate1, .bestScore, count, .bestData, l₁.flatMap Prod.snd⟩,
          ⟨.mate2, .bestScore, count, .bestDataO, l₂.flatMap Prod.snd⟩,
          ⟨.mate1, .secondBestScore, count, .bestData,
            if l₃.isEmpty then l₂.flatMap Prod.snd else l₃.flatMap Prod.snd⟩,
          ⟨.mate2, .secondBestScore, count, .bestDataO, l₄.flatMap Prod.snd⟩] ∧
      (l₃ = [] ↔ copyIf count (K.holds .hasSecond .bestData
        (K.bestOppositeStage count (K.bestAnchorStage count t)).env) = []) ∧
      ∀ q ∈ l₁ ++ l₂ ++ l₃ ++ l₄, ReadsOk count q.1 := by
  set t₁ := K.bestAnchorStage count t
  set t₂ := K.bestOppositeStage count t₁
  set t₃ := K.secondAnchorStage count t₂
  obtain ⟨l₁, p₁⟩ := K.processed_bestAnchorStage count t
  obtain ⟨l₂, p₂⟩ : ∃ l, Processed count t₁ t₂ l ⟨.mate2, .bestScore, count, .bestDataO, _⟩ :=
    K.processed_oppositeStage count .bestScore .isPaired .isUnpaired .isAligned t₁
  obtain ⟨l₃, p₃, h₃⟩ := K.processed_secondAnchorStage count t₂
  obtain ⟨l₄, p₄⟩ : ∃ l, Processed count t₃ (K.secondOppositeStage count t₃) l
      ⟨.mate2, .secondBestScore, count, .bestDataO, _⟩ :=
    K.processed_oppositeStage count .secondBestScore .hasSecondPaired .hasSecondUnpaired .hasSecond t₃
  refine ⟨l₁, l₂, l₃, l₄, ?_, ?_, h₃, ?_⟩
  · rw [traceback, p₄.launches, p₃.launches, p₂.launches, p₁.launches]
    simp
  · rw [traceback, p₄.outputs, p₃.outputs, p₂.transcripts, p₂.outputs, p₁.outputs]
    simp
  · simp only [List.mem_append]
    rintro q (((hq | hq) | hq) | hq)
    exacts [p₁.reads q hq, p₂.reads q hq, p₃.reads q hq, p₄.reads q hq]

/-- A batch of no reads: every compaction is empty, so only the two unguarded best-anchor
kernels run, on `NULL`, and the first of the four batches holds all they appended. -/
example :
    let K : TracebackKernels Unit Kernel := ⟨fun _ _ _ _ => true, fun l e => (e, [l.kernel])⟩
    let t := K.traceback 0 ⟨(), id, [], [], []⟩
    t.launches.map Prod.fst = [⟨.bandedTracebackBest, .bestScore, .bestData, none⟩,
        ⟨.finishAlignmentBest, .bestScore, .bestData, none⟩] ∧
      t.outputs.map OutputBatch.transcripts =
        [[.bandedTracebackBest, .finishAlignmentBest], [], [], []] := by
  decide

end TracebackKernels

/-! ### Routing: the calls on one registry snapshot -/

/-- The routing plan of a stage at `rank` on one registry snapshot `sel`: a call for each
`(kernel, registry, predicate)` on the reads the predicate selects, in order, and none for a
predicate that selects no read. -/
def plannedLaunches (sel : ReadPredicate → Registry → Nat → Bool) (count : Nat) (rank : Rank)
    (parts : List (Kernel × Registry × ReadPredicate)) : List Launch :=
  parts.filterMap fun part =>
    let kept := copyIf count (sel part.2.2 part.2.1)
    if kept = [] then none else some ⟨part.1, rank, part.2.1, some kept⟩

/-- The routing plan of the whole traceback: banded backtracking and finishing of every anchor
alignment; full backtracking of the opposite mates paired with their anchor, banded
backtracking of the unpaired ones, finishing of all aligned ones; then the same for the
second-best rank, on the reads that have one. -/
def tracebackPlan (sel : ReadPredicate → Registry → Nat → Bool) (count : Nat) : List Launch :=
  [⟨.bandedTracebackBest, .bestScore, .bestData, none⟩,
    ⟨.finishAlignmentBest, .bestScore, .bestData, none⟩] ++
  plannedLaunches sel count .bestScore
    [(.oppositeTracebackBest, .bestDataO, .isPaired), (.bandedTracebackBest, .bestDataO, .isUnpaired),
      (.finishOppositeAlignmentBest, .bestDataO, .isAligned)] ++
  plannedLaunches sel count .secondBestScore
    [(.bandedTracebackBest, .bestData, .hasSecond), (.finishAlignmentBest, .bestData, .hasSecond)] ++
  plannedLaunches sel count .secondBestScore
    [(.oppositeTracebackBest, .bestDataO, .hasSecondPaired),
      (.bandedTracebackBest, .bestDataO, .hasSecondUnpaired),
      (.finishOppositeAlignmentBest, .bestDataO, .hasSecond)]

theorem plannedLaunches_cons (sel : ReadPredicate → Registry → Nat → Bool) (count : Nat)
    (rank : Rank) (part : Kernel × Registry × ReadPredicate)
    (parts : List (Kernel × Registry × ReadPredicate)) :
    plannedLaunches sel count rank (part :: parts) =
      plannedLaunches sel count rank [part] ++ plannedLaunches sel count rank parts :=
  List.filterMap_append [part] parts _

namespace TracebackKernels
variable (K : TracebackKernels ε γ) (count : Nat)

/-- No kernel call changes what the `io::` predicates read. -/
def PredicatesStable : Prop :=
  ∀ l e p registry, K.holds p registry (K.run l e).1 = K.holds p registry e

/-- What the `io::` predicates read in the state `t`. -/
def selAt (t : TracebackState ε γ) : ReadPredicate → Registry → Nat → Bool :=
  fun p registry => K.holds p registry t.env

@[simp] theorem selAt_clearPools (t : TracebackState ε γ) : K.selAt t.clearPools = K.selAt t := rfl

@[simp] theorem selAt_process (t : TracebackState ε γ) (mate : Mate) (rank : Rank)
    (registry : Registry) : K.selAt (t.process mate rank count registry) = K.selAt t := rfl

@[simp] theorem selAt_loc (t : TracebackState ε γ) (loc : Nat → Nat) :
    K.selAt { t with loc := loc } = K.selAt t := rfl

variable {K}

section Stable
variable (hs : K.PredicatesStable)
include hs

@[simp] theorem selAt_launch (l : Launch) (t : TracebackState ε γ) : K.selAt (K.launch l t) = K.selAt t :=
  funext fun p => funext fun registry => hs l t.env p registry

theorem compactLaunch_stable (p : ReadPredicate) (k : Kernel) (rank : Rank) (registry : Registry)
    (t : TracebackState ε γ) :
    K.selAt (K.compactLaunch count p k rank registry t) = K.selAt t ∧
      (K.compactLaunch count p k rank registry t).launches.map Prod.fst =
        t.launches.map Prod.fst ++ plannedLaunches (K.selAt t) count rank [(k, registry, p)] := by
  rcases K.compactLaunch_cases count p k rank registry t with ⟨h0, h⟩ | ⟨h0, h⟩ <;> rw [h]
  · exact ⟨rfl, by simp [plannedLaunches, selAt, h0]⟩
  · exact ⟨by simp [hs], by simp [plannedLaunches, selAt, h0, launch]⟩

theorem oppositeStage_stable (rank : Rank) (paired unpaired aligned : ReadPredicate)
    (t : TracebackState ε γ) :
    K.selAt (K.oppositeStage rank paired unpaired aligned count t) = K.selAt t ∧
      (K.oppositeStage rank paired unpaired aligned count t).launches.map Prod.fst =
        t.launches.map Prod.fst ++ plannedLaunches (K.selAt t) count rank
          [(.oppositeTracebackBest, .bestDataO, paired), (.bandedTracebackBest, .bestDataO, unpaired),
            (.finishOppositeAlignmentBest, .bestDataO, aligned)] := by
  obtain ⟨e₁, h₁⟩ := compactLaunch_stable count hs paired .oppositeTracebackBest rank .bestDataO
    t.clearPools
  obtain ⟨e₂, h₂⟩ := compactLaunch_stable count hs unpaired .bandedTracebackBest rank .bestDataO
    (K.compactLaunch count paired .oppositeTracebackBest rank .bestDataO t.clearPools)
  obtain ⟨e₃, h₃⟩ := compactLaunch_stable count hs aligned .finishOppositeAlignmentBest rank
    .bestDataO (K.compactLaunch count unpaired .bandedTracebackBest rank .bestDataO
      (K.compactLaunch count paired .oppositeTracebackBest rank .bestDataO t.clearPools))
  refine ⟨by simp only [oppositeStage, selAt_process, e₃, e₂, e₁, selAt_clearPools], ?_⟩
  simp only [oppositeStage, TracebackState.launches_process, h₃, h₂, h₁, e₂, e₁, selAt_clearPools,
    TracebackState.launches_clearPools, List.append_assoc, plannedLaunches_cons _ _ _ _ (_ :: _)]

theorem secondAnchorStage_stable (t : TracebackState ε γ) :
    K.selAt (K.secondAnchorStage count t) = K.selAt t ∧
      (K.secondAnchorStage count t).launches.map Prod.fst =
        t.launches.map Prod.fst ++ plannedLaunches (K.selAt t) count .secondBestScore
          [(.bandedTracebackBest, .bestData, .hasSecond), (.finishAlignmentBest, .bestData, .hasSecond)] := by
  rcases K.secondAnchorStage_cases count t with ⟨h, hs'⟩ | ⟨h, hs'⟩ <;> rw [hs']
  · exact ⟨rfl, by simp [plannedLaunches, selAt, h]⟩
  · exact ⟨by simp [hs], by simp [plannedLaunches, selAt, h, launch]⟩

/-- **Routing.** When no kernel call changes what the `io::` predicates read, the traceback
calls exactly the planned kernels: banded backtracking and finishing of every anchor alignment;
full backtracking of the opposite mates `io::is_paired` selects, banded backtracking of those
`io::is_unpaired` selects, finishing of those `io::is_aligned` selects; banded backtracking and
finishing of the anchors `io::has_second` selects; and full, banded and finishing calls on the
opposite mates `has_second_paired`, `has_second_unpaired` and `has_second` select. Each call gets
exactly the reads its predicate selects on the registries the traceback started from, although
all compactions share `loc`, and a predicate that selects no read gets no call. -/
theorem launches_traceback (t : TracebackState ε γ) :
    (K.traceback count t).launches.map Prod.fst =
      t.launches.map Prod.fst ++ tracebackPlan (K.selAt t) count := by
  set t₁ := K.bestAnchorStage count t
  have e₁ : K.selAt t₁ = K.selAt t := by simp [t₁, bestAnchorStage, hs]
  have h₁ : t₁.launches.map Prod.fst = t.launches.map Prod.fst ++
      [⟨.bandedTracebackBest, .bestScore, .bestData, none⟩,
        ⟨.finishAlignmentBest, .bestScore, .bestData, none⟩] := by
    simp [t₁, bestAnchorStage, launch]
  obtain ⟨e₂, h₂⟩ := oppositeStage_stable count hs .bestScore .isPaired .isUnpaired .isAligned t₁
  obtain ⟨e₃, h₃⟩ := secondAnchorStage_stable count hs (K.bestOppositeStage count t₁)
  obtain ⟨-, h₄⟩ := oppositeStage_stable count hs .secondBestScore .hasSecondPaired
    .hasSecondUnpaired .hasSecond (K.secondAnchorStage count (K.bestOppositeStage count t₁))
  rw [traceback, secondOppositeStage, h₄, h₃, e₃, bestOppositeStage, h₂, e₂, h₁, e₁,
    tracebackPlan]
  simp only [List.append_assoc]

end Stable

end TracebackKernels

/-- Registries that read the same in every device state: read `i` is paired when even and
unpaired when odd, and only read `0` has a second-best alignment. A call appends its kernel. -/
def parityKernels : TracebackKernels Unit Kernel where
  holds := fun p _ _ i => match p with
    | .isPaired | .hasSecondPaired => i % 2 == 0
    | .isUnpaired | .hasSecondUnpaired => i % 2 == 1
    | .isAligned => true
    | .hasSecond => i == 0
  run := fun l _ => ((), [l.kernel])

/-- Three reads on the parity registries: the traceback calls the planned kernels. -/
theorem launches_traceback_parity :
    parityKernels.PredicatesStable ∧
      (parityKernels.traceback 3 ⟨(), fun _ => 0, [], [], []⟩).launches.map Prod.fst =
        ([] : List (Launch × List Kernel)).map Prod.fst ++
          tracebackPlan (parityKernels.selAt ⟨(), fun _ => 0, [], [], []⟩) 3 :=
  ⟨fun _ _ _ _ => rfl, TracebackKernels.launches_traceback 3 (fun _ _ _ _ => rfl) _⟩

end NvBowtie
