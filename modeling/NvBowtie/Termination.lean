import NvBowtie.Traceback
import Mathlib.Algebra.Order.BigOperators.Group.List
import Mathlib.Algebra.Order.Ring.Nat

/-!
# When the loops end

The seeding-pass loop of line 110 is bounded by `params.max_reseed + 1`, taken on `uint32`.
Nothing in lines 693-959 bounds the number of rounds: the loop runs while `select` keeps a read,
and whether it keeps one is the kernel's business. This file gives the bound a progress contract
on the kernels yields. `rows e r` counts the seed-hit rows read `r` still has to extend in device
state `e`. `ProgressContract rows` asks that `select` lower that count for every read it keeps,
on every call, the calls that ask for no hits included, and that no other kernel of a round
raise it. The measure `pendingRows` sums `rows` over the active input queue: a round keeps a
sub-multiset of its reads (`QueueContract`), each with fewer rows, so the measure drops while
the queue is non-empty, and `pendingRows + 2` rounds of fuel end the loop with an empty queue.
When moreover every seeding pass starts each read with at most `R` rows (`PassContract`), a
fuel of `count * R + 2` rounds ends every extension loop of `best_approx`, so it returns.

`rowKernels` breaks the contract exactly where `best_approx_stalls_at_exhausted_budget` needs
it: asked for no hits, its `select` keeps every read and spends nothing.
-/

namespace NvBowtie
set_option autoImplicit false

variable {ε : Type}

theorem sum_map_le_of_subperm {α : Type} (f : α → Nat) {l₁ l₂ : List α} (h : l₁.Subperm l₂) :
    (l₁.map f).sum ≤ (l₂.map f).sum :=
  let ⟨_, p, s⟩ := h
  (p.map f).sum_eq ▸ (s.map f).sum_le_sum fun _ _ => Nat.zero_le _

/-- The kernels make progress on `rows`: `select` lowers the rows of every read it keeps, and
no other kernel of a round raises any read's rows. -/
structure ProgressContract (rows : ε → Nat → Nat) (prims : Primitives ε) : Prop where
  select : ∀ s, ∀ x ∈ (prims.select s).survivors,
    rows (prims.select s).env x.readId < rows s.env x.readId
  locateInit : ∀ s r, rows (prims.locateInit s).1 r ≤ rows s.env r
  locateLookup : ∀ s r, rows (prims.locateLookup s).1 r ≤ rows s.env r
  anchorScoreBest : ∀ s r, rows (prims.anchorScoreBest s).1 r ≤ rows s.env r
  oppositeScoreBest : ∀ s r, rows (prims.oppositeScoreBest s).1 r ≤ rows s.env r
  scoreReducePaired : ∀ s r, rows (prims.scoreReducePaired s).1 r ≤ rows s.env r

/-- The seed-hit rows left over the active input queue. -/
def pendingRows (rows : ε → Nat → Nat) (s : Aligner ε) : Nat :=
  (s.activeReads.input.map fun x => rows s.env x.readId).sum

namespace Setup
variable {S : Setup ε} {rows : ε → Nat → Nat}

theorem rows_scoreHits_le (hp : ProgressContract rows S.prims) (s : Aligner ε) (r : Nat) :
    rows (S.scoreHits s).env r ≤ rows s.env r := by
  have h : rows (S.scoreAnchor (S.locateHits s)).env r ≤ rows s.env r :=
    (hp.anchorScoreBest _ r).trans ((hp.locateLookup _ r).trans (hp.locateInit _ r))
  dsimp only [scoreHits, scoreOpposite]
  split
  · exact h
  · exact (hp.oppositeScoreBest _ r).trans h

/-- Every read a round keeps has fewer rows than it started the round with. -/
theorem rows_extensionRound_lt (hp : ProgressContract rows S.prims) (s : Aligner ε) {x : PackedRead}
    (hx : x ∈ (S.extensionRound s).activeReads.input) :
    rows (S.extensionRound s).env x.readId < rows s.env x.readId := by
  rw [input_extensionRound] at hx
  have hsel := hp.select _ x hx
  rcases S.extensionRound_cases s with h | h | h <;> rw [h]
  · exact hsel
  · exact hsel
  · exact ((hp.scoreReducePaired _ _).trans (rows_scoreHits_le hp _ _)).trans_lt hsel

/-- A round that leaves reads active lowers the rows pending over the queue. -/
theorem pendingRows_extensionRound_lt (hq : QueueContract S.prims) (hp : ProgressContract rows S.prims)
    {s : Aligner ε} (hne : (S.extensionRound s).activeReads.inSize ≠ 0) :
    pendingRows rows (S.extensionRound s) < pendingRows rows s := by
  have hsub : (S.extensionRound s).activeReads.input.Subperm s.activeReads.input := by
    rw [input_extensionRound]; exact hq.select_survivors _
  have hnil : (S.extensionRound s).activeReads.input ≠ [] := fun h =>
    hne (by rw [← PingPongQueues.length_input, h, List.length_nil])
  calc pendingRows rows (S.extensionRound s)
      < ((S.extensionRound s).activeReads.input.map fun x => rows s.env x.readId).sum :=
        List.sum_lt_sum_of_ne_nil hnil _ _ fun _ hx => rows_extensionRound_lt hp s hx
    _ ≤ pendingRows rows s := sum_map_le_of_subperm _ hsub

variable (S) in
/-- The run lemma: from every state, fuel above the rows pending plus two ends the loop. -/
theorem extensionLoop_some_of_progress (hq : QueueContract S.prims)
    (hp : ProgressContract rows S.prims) :
    ∀ fuel (s : Aligner ε), pendingRows rows s + 2 ≤ fuel →
      ∃ s', S.extensionLoop fuel s = some s' ∧ s'.activeReads.inSize = 0 := by
  intro fuel
  induction fuel with
  | zero => intro s h; omega
  | succ fuel ih =>
    intro s hfuel
    by_cases h₀ : s.activeReads.inSize = 0
    · exact ⟨s, by rw [extensionLoop, if_pos h₀], h₀⟩
    rw [extensionLoop, if_neg h₀]
    by_cases h₁ : (S.extensionRound s).activeReads.inSize = 0
    · obtain ⟨f, rfl⟩ : ∃ f, fuel = f + 1 := ⟨fuel - 1, by omega⟩
      exact ⟨_, by rw [extensionLoop, if_pos h₁], h₁⟩
    · have := pendingRows_extensionRound_lt hq hp h₁
      exact ih _ (by omega)

variable (S) in
/-- **`best_approx_score` returns under progress.** When `map` and `select` keep only reads of
their input queue and the kernels make progress on some count of seed-hit rows,
`best_approx_score` returns, with an empty active queue, for every fuel above the rows pending
over the reads it starts with plus two. -/
theorem best_approx_score_returns_under_progress (hq : QueueContract S.prims)
    (hp : ProgressContract rows S.prims) (a : Aligner ε) (fuel : Nat)
    (hfuel : pendingRows rows (S.scoreStart a) + 2 ≤ fuel) :
    ∃ s', S.bestApproxScore fuel a = some s' ∧ s'.activeReads.inSize = 0 :=
  S.extensionLoop_some_of_progress hq hp fuel _ hfuel

end Setup

/-! ### A `select` that always spends a row -/

/-- `rowKernels` with a `select` that spends a row of every read it keeps on every call, asked
for hits or not. -/
def spendKernels (rows : Nat) : Primitives Nat :=
  { rowKernels rows with
    select := fun s =>
      if s.env = 0 then ⟨0, [], [], 0⟩
      else ⟨s.env - 1, s.activeReads.input, s.activeReads.input.map PackedRead.readId,
        s.activeReads.inSize⟩ }

/-- `rowSetup` with `spendKernels`. -/
def spendSetup : Setup Nat := { rowSetup with prims := spendKernels 10 }

theorem spendKernels_progress (rows : Nat) : ProgressContract (fun e _ => e) (spendKernels rows) where
  select s x hx := by
    by_cases h : s.env = 0
    · simp [spendKernels, h] at hx
    · simp only [spendKernels, h, if_false]
      omega
  locateInit _ _ := le_rfl
  locateLookup _ _ := le_rfl
  anchorScoreBest _ _ := le_rfl
  oppositeScoreBest _ _ := le_rfl
  scoreReducePaired _ _ := le_rfl

theorem spendKernels_queueContract (rows : Nat) : QueueContract (spendKernels rows) where
  map_reseed _ _ _ := List.nil_subperm
  select_survivors s := by
    simp only [spendKernels]
    split_ifs
    · exact List.nil_subperm
    · exact .refl _

/-- Three reads with ten rows each: `best_approx_score` returns within 32 rounds. -/
theorem best_approx_score_returns_three_reads :
    QueueContract spendSetup.prims ∧ ProgressContract (fun e _ => e) spendSetup.prims ∧
      ∃ s', spendSetup.bestApproxScore 32 (seededAligner 3) = some s' ∧
        s'.activeReads.inSize = 0 :=
  ⟨spendKernels_queueContract 10, spendKernels_progress 10,
    Setup.best_approx_score_returns_under_progress spendSetup (spendKernels_queueContract 10)
      (spendKernels_progress 10) (seededAligner 3) 32 (by decide)⟩

/-! ### `best_approx` returns -/

/-- The kernels of a seeding pass start each read with at most `R` rows: `clear_deques` restores
at most `R`, and `map` and `select_init` raise none. -/
structure PassContract (rows : ε → Nat → Nat) (R : Nat) (prims : Primitives ε) : Prop where
  clearDeques : ∀ e r, rows (prims.clearDeques e) r ≤ R
  map : ∀ a anchor pass r, rows (prims.map a anchor pass).env r ≤ rows a.env r
  selectInit : ∀ a r, rows (prims.selectInit a) r ≤ rows a.env r

namespace Setup
variable {S : Setup ε} {rows : ε → Nat → Nat} {R : Nat}

theorem pendingRows_passStart_le (hpass : PassContract rows R S.prims) (anchor pass : Nat)
    (a : Aligner ε) : pendingRows rows (S.passStart anchor pass a) ≤ a.seedQueues.inSize * R := by
  have hrow : ∀ r, rows (S.passStart anchor pass a).env r ≤ R := fun r =>
    (hpass.selectInit _ r).trans ((hpass.map _ _ _ r).trans (hpass.clearDeques _ r))
  have hsum := List.sum_le_card_nsmul ((S.passStart anchor pass a).activeReads.input.map
    fun x => rows (S.passStart anchor pass a).env x.readId) R
      (by simp only [List.mem_map]; rintro _ ⟨x, -, rfl⟩; exact hrow x.readId)
  have hlen : (S.passStart anchor pass a).activeReads.input.length = a.seedQueues.inSize := by
    simp [passStart]
  rw [List.length_map, hlen] at hsum
  exact hsum

/-- A seeding pass over at most `count` reads returns within `count * R + 2` rounds. -/
theorem seedingPass_some (hq : QueueContract S.prims) (hp : ProgressContract rows S.prims)
    (hpass : PassContract rows R S.prims) {count fuel : Nat} (hfuel : count * R + 2 ≤ fuel)
    (anchor pass : Nat) {a : Aligner ε} (ha : a.seedQueues.inSize ≤ count) :
    ∃ a', S.seedingPass fuel anchor pass a = some a' := by
  obtain ⟨s, hs, -⟩ := S.extensionLoop_some_of_progress hq hp fuel (S.passStart anchor pass a)
    (Nat.add_le_add_right ((pendingRows_passStart_le hpass anchor pass a).trans
      (Nat.mul_le_mul_right R ha)) 2 |>.trans hfuel)
  exact ⟨_, Option.map_eq_some'.2 ⟨s, hs, rfl⟩⟩

/-- The seeding-pass loop returns from every state whose seed queue holds reads of
`0, …, count-1`, each at most once. -/
theorem seedingPasses_some (hq : QueueContract S.prims) (hp : ProgressContract rows S.prims)
    (hpass : PassContract rows R S.prims) {count fuel : Nat} (hfuel : count * R + 2 ≤ fuel)
    (anchor : Nat) :
    ∀ remaining pass (a : Aligner ε), a.seedQueues.input.Subperm (List.range count) →
      ∃ a', S.seedingPasses fuel anchor remaining pass a = some a' := by
  intro remaining
  induction remaining with
  | zero => intro _ a _; exact ⟨a, rfl⟩
  | succ remaining ih =>
    intro pass a ha
    by_cases h₀ : a.seedQueues.inSize = 0
    · exact ⟨a, by simp [seedingPasses, h₀]⟩
    have hlen : a.seedQueues.inSize ≤ count := by simpa using ha.length_le
    obtain ⟨b, hb⟩ := seedingPass_some hq hp hpass hfuel anchor pass hlen
    have hb' : b.seedQueues.input.Subperm (List.range count) := by
      rw [input_passStep (seedingPass_step hb)]
      exact (hq.map_reseed _ _ _).trans ha
    rw [seedingPasses_succ_of_ne h₀, hb]
    exact ih _ b hb'

variable (S) in
/-- **`best_approx` returns under progress.** When `map` and `select` keep only reads of their
input queue, the kernels make progress on some count of seed-hit rows, and every seeding pass
starts each read with at most `R` rows, `best_approx` returns for every batch of `count` reads
and every traceback behaviour, once the fuel of each extension loop is at least
`count * R + 2` rounds. -/
theorem best_approx_returns_under_progress {γ : Type} (hq : QueueContract S.prims)
    (hp : ProgressContract rows S.prims) (hpass : PassContract rows R S.prims)
    (K : TracebackKernels ε γ) (count fuel : Nat) (a : Aligner ε) (pools : List γ)
    (hfuel : count * R + 2 ≤ fuel) :
    ∃ t, S.bestApprox K fuel count a pools = some t := by
  have hstart : ∀ b : Aligner ε, (b.anchorStart count).seedQueues.input.Subperm (List.range count) :=
    fun b => by rw [input_anchorStart]
  obtain ⟨b, hb⟩ := seedingPasses_some hq hp hpass hfuel 0 _ 0 _ (hstart _)
  obtain ⟨c, hc⟩ := seedingPasses_some hq hp hpass hfuel 1 _ 0 _ (hstart b)
  refine ⟨_, Option.map_eq_some'.2 ⟨c, ?_, rfl⟩⟩
  show (S.anchorPasses fuel count 0 _).bind (S.anchorPasses fuel count 1) = some c
  rw [anchorPasses, hb]
  exact hc

end Setup

/-- Traceback kernels that read no predicate and write nothing. -/
def idleTraceback : TracebackKernels Nat Nat := ⟨fun _ _ _ _ => false, fun _ e => (e, [])⟩

theorem spendKernels_passContract (rows : Nat) :
    PassContract (fun e _ => e) rows (spendKernels rows) :=
  ⟨fun _ _ => le_rfl, fun _ _ _ _ => le_rfl, fun _ _ => le_rfl⟩

/-- Two reads with ten rows each: `best_approx` returns with 22 rounds of fuel per loop. -/
theorem best_approx_returns_two_reads :
    QueueContract spendSetup.prims ∧ ProgressContract (fun e _ => e) spendSetup.prims ∧
      PassContract (fun e _ => e) 10 spendSetup.prims ∧
      ∃ t, spendSetup.bestApprox idleTraceback 22 2 (activeAligner 0) [] = some t :=
  ⟨spendKernels_queueContract 10, spendKernels_progress 10, spendKernels_passContract 10,
    Setup.best_approx_returns_under_progress spendSetup (spendKernels_queueContract 10)
      (spendKernels_progress 10) (spendKernels_passContract 10) idleTraceback 2 22 (activeAligner 0)
      [] (by decide)⟩

/-! ### How many passes -/

namespace Setup
variable {S : Setup ε}

variable (S) in
/-- **At most `params.max_reseed + 1` passes.** Whenever the seeding-pass loop of an anchor mate
returns, it has taken `k` passes from the full seed queue, each a `PassNext` step, with `k` at
most `params.max_reseed + 1`, and none at all when `params.max_reseed = 2^32 - 1`, where the
bound `params.max_reseed+1` wraps to `0` on `uint32`; it stopped on an empty seed queue or on
reaching that bound. -/
theorem seeding_passes_within_max_reseed {fuel count anchor : Nat} {a a' : Aligner ε}
    (h : S.anchorPasses fuel count anchor a = some a') :
    ∃ k, Relation.ReflTransGen (S.PassNext anchor) (0, a.anchorStart count) (k, a') ∧
      k ≤ S.params.maxReseed + 1 ∧ (S.params.maxReseed = 4294967295 → k = 0) ∧
      (a'.seedQueues.inSize = 0 ∨ k = addU32 S.params.maxReseed 1) := by
  obtain ⟨k, run, hk, hstop⟩ := anchorPasses_reach h
  refine ⟨k, run, hk.trans (addU32_le _ _), fun hw => ?_, hstop⟩
  rw [hw, show addU32 4294967295 1 = 0 from rfl] at hk
  exact Nat.le_zero.1 hk

end Setup

/-- One read with ten rows and `spendKernels`: the passes of anchor mate `0` return within
twelve rounds per loop, and within the bound. -/
theorem one_seeding_pass_within_max_reseed :
    ∃ a', spendSetup.anchorPasses 12 1 0 (activeAligner 0) = some a' ∧
      ∃ k, Relation.ReflTransGen (spendSetup.PassNext 0) (0, (activeAligner 0).anchorStart 1)
          (k, a') ∧
        k ≤ spendSetup.params.maxReseed + 1 ∧ (spendSetup.params.maxReseed = 4294967295 → k = 0) ∧
        (a'.seedQueues.inSize = 0 ∨ k = addU32 spendSetup.params.maxReseed 1) := by
  obtain ⟨a', h⟩ := Setup.seedingPasses_some (S := spendSetup) (spendKernels_queueContract 10)
    (spendKernels_progress 10) (spendKernels_passContract 10) (show 1 * 10 + 2 ≤ 12 by decide) 0
    (addU32 spendSetup.params.maxReseed 1) 0 ((activeAligner 0).anchorStart 1)
    (by rw [Setup.input_anchorStart])
  exact ⟨a', h, Setup.seeding_passes_within_max_reseed spendSetup h⟩

end NvBowtie
