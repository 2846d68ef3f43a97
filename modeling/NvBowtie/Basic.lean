import Mathlib.Data.List.GetD
import Mathlib.Data.List.Perm.Subperm
import Mathlib.Data.List.Sort

/-!
# `uint32` arithmetic, device buffers and read records

The orchestration in `src/nvBowtie/bowtie2/cuda/aligner_best_approx_paired.h` computes on
`uint32`: `params.max_reseed+1` (line 110), `params.max_ext - n_ext` (line 732) and
`n_ext += n_hits_per_read` (line 954) wrap modulo `2^32`, so they are `addU32` and `subU32`
here. A device vector is a function from slots: entries past a fill count stay behind as stale
data, which is what a misplaced clear or swap would expose. `slots buf n` is the list a kernel
reads from the first `n` slots of `buf`.
-/

namespace NvBowtie
set_option autoImplicit false

/-- `a - b` on `uint32`: the difference modulo `2^32`. -/
def subU32 (a b : Nat) : Nat := (a + 4294967296 - b % 4294967296) % 4294967296

/-- `a + b` on `uint32`. -/
def addU32 (a b : Nat) : Nat := (a + b) % 4294967296

theorem subU32_of_le {a b : Nat} (hb : b ≤ a) (ha : a < 4294967296) : subU32 a b = a - b := by
  unfold subU32; omega

/-- Below zero the subtraction wraps to the top of the `uint32` range. -/
theorem subU32_of_lt {a b : Nat} (h : a < b) (hb : b < 4294967296) :
    subU32 a b = 4294967296 + a - b := by
  unfold subU32; omega

theorem addU32_of_lt {a b : Nat} (h : a + b < 4294967296) : addU32 a b = a + b :=
  Nat.mod_eq_of_lt h

theorem addU32_le (a b : Nat) : addU32 a b ≤ a + b := Nat.mod_le _ _

section Buffers
variable {α : Type}

/-- The entries of a device buffer's first `n` slots. -/
def slots (buf : Nat → α) (n : Nat) : List α := (List.range n).map buf

/-- `buf` with `xs` written over its first `xs.length` slots. -/
def writeSlots (buf : Nat → α) (xs : List α) : Nat → α := fun i => xs.getD i (buf i)

@[simp] theorem length_slots (buf : Nat → α) (n : Nat) : (slots buf n).length = n := by
  simp [slots]

@[simp] theorem slots_zero (buf : Nat → α) : slots buf 0 = [] := rfl

theorem mem_slots {buf : Nat → α} {n : Nat} {x : α} : x ∈ slots buf n ↔ ∃ i < n, buf i = x := by
  simp [slots]

theorem slots_congr {buf buf' : Nat → α} {n : Nat} (h : ∀ i < n, buf i = buf' i) :
    slots buf n = slots buf' n :=
  List.map_congr_left fun i hi => h i (List.mem_range.1 hi)

@[simp] theorem slots_writeSlots (buf : Nat → α) (xs : List α) :
    slots (writeSlots buf xs) xs.length = xs := by
  apply List.ext_getElem (by simp)
  intro i h _
  simp only [slots, writeSlots, List.getElem_map, List.getElem_range]
  exact List.getD_eq_getElem _ _ (by simpa using h)

/-- `buf` with `xs` appended from slot `start` on: the slots a kernel reserves by atomically
advancing a pool counter that stood at `start`. -/
def appendSlots (buf : Nat → α) (start : Nat) (xs : List α) : Nat → α :=
  fun i => if start ≤ i then xs.getD (i - start) (buf i) else buf i

/-- `thrust::fill` of the first `n` slots with `v`. -/
def fillSlots (buf : Nat → α) (n : Nat) (v : α) : Nat → α := fun i => if i < n then v else buf i

theorem writeSlots_of_lt {buf : Nat → α} {xs : List α} {i : Nat} (h : i < xs.length) :
    writeSlots buf xs i = xs[i] :=
  List.getD_eq_getElem _ _ h

@[simp] theorem appendSlots_zero (buf : Nat → α) (xs : List α) :
    appendSlots buf 0 xs = writeSlots buf xs := by
  funext i; simp [appendSlots, writeSlots]

theorem fillSlots_of_lt {buf : Nat → α} {n i : Nat} (v : α) (h : i < n) : fillSlots buf n v i = v :=
  if_pos h

/-- Storing into the slot just past the first `n` extends their list by that entry. -/
theorem slots_update_succ (buf : Nat → α) (n : Nat) (x : α) :
    slots (Function.update buf n x) (n + 1) = slots buf n ++ [x] := by
  simp only [slots, List.range_succ, List.map_append, List.map_singleton, Function.update_same]
  congr 1
  exact List.map_congr_left fun i hi => Function.update_noteq (List.mem_range.1 hi).ne _ _

end Buffers

/-- `thrust::copy_if` over the counting range `[0, n)` into an index buffer: the indices whose
stencil passes, in increasing order (`pred` is the predicate composed with the stencil). -/
def copyIf (n : Nat) (pred : Nat → Bool) : List Nat := (List.range n).filter pred

theorem mem_copyIf {n i : Nat} {pred : Nat → Bool} : i ∈ copyIf n pred ↔ i < n ∧ pred i = true := by
  simp [copyIf]

theorem copyIf_sorted (n : Nat) (pred : Nat → Bool) : (copyIf n pred).Sorted (· < ·) :=
  (List.sorted_lt_range n).filter _

theorem length_copyIf_le (n : Nat) (pred : Nat → Bool) : (copyIf n pred).length ≤ n :=
  (List.length_filter_le _ _).trans_eq (List.length_range n)

/-- The fields of `Params` the orchestration reads, each a `uint32`. -/
structure Params where
  /-- `params.max_reseed`: seeding passes after the first. -/
  maxReseed : Nat
  /-- `params.max_ext`: the extension budget of the multi-hit clamp. -/
  maxExt : Nat
  /-- `params.top_seed`, handed to `pack_read`. -/
  topSeed : Nat
  maxReseed_lt : maxReseed < 4294967296
  maxExt_lt : maxExt < 4294967296

/-- Modelled from the spec: an active-read entry, "a packed reference to a read plus a flag
selecting which end of its current seed range to examine first" (`packed_read`). -/
structure PackedRead where
  readId : Nat
  topFlag : Nat
  deriving DecidableEq, Repr

/-- `pack_read( params.top_seed )` on a read index (line 660). -/
def packRead (topSeed readId : Nat) : PackedRead := ⟨readId, topSeed⟩

@[simp] theorem readId_packRead (topSeed readId : Nat) : (packRead topSeed readId).readId = readId :=
  rfl

section Subperm
variable {α β : Type}

theorem subperm_map (f : α → β) {l₁ l₂ : List α} (h : l₁.Subperm l₂) :
    (l₁.map f).Subperm (l₂.map f) :=
  let ⟨l, p, s⟩ := h
  ⟨l.map f, p.map f, s.map f⟩

theorem nodup_of_subperm {l₁ l₂ : List α} (h : l₁.Subperm l₂) (d : l₂.Nodup) : l₁.Nodup :=
  let ⟨_, p, s⟩ := h
  p.nodup_iff.1 (d.sublist s)

end Subperm

end NvBowtie
