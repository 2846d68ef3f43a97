import NvBowtie.Basic

/-!
# Ping-pong queues

`nvbio::cuda::PingPongQueues` (`pingpong_queues.h`, not among the sources) as
`aligner_best_approx_paired.h` uses it: an input and an output buffer, each with a fill count.
`clear_output` empties the output, `swap` exchanges the two roles, and a kernel appends to the
output by reserving its next slot. The seed queues of `best_approx` and the active-read queues
of `best_approx_score` are both of this kind. `input_swap_emit_clearOutput` is the discipline
both loops rely on: clear, append, swap, and the next input is exactly what was appended.
-/

namespace NvBowtie
set_option autoImplicit false

/-- Modelled from the spec: "two equally-sized index buffers with an explicit current role;
swapping is a pointer/role exchange, not a copy". -/
structure PingPongQueues (α : Type) where
  inSize : Nat
  inQueue : Nat → α
  outSize : Nat
  outQueue : Nat → α

namespace PingPongQueues
variable {α : Type} (q : PingPongQueues α)

/-- The entries the input queue holds: its first `in_size` slots. -/
def input : List α := slots q.inQueue q.inSize

/-- The entries appended to the output queue since it was last cleared. -/
def output : List α := slots q.outQueue q.outSize

/-- `clear_output()`. -/
def clearOutput : PingPongQueues α := { q with outSize := 0 }

/-- `swap()`: the output becomes the next input. -/
def swap : PingPongQueues α := ⟨q.outSize, q.outQueue, q.inSize, q.inQueue⟩

/-- `resize(n)`: the input now counts `n` entries. -/
def resize (n : Nat) : PingPongQueues α := { q with inSize := n }

/-- `xs` copied over the input buffer's first slots (`thrust::copy` or `thrust::transform`
into `in_queue`). -/
def writeInput (xs : List α) : PingPongQueues α := { q with inQueue := writeSlots q.inQueue xs }

/-- A kernel's append: reserve slot `out_size` and store `x` there. -/
def push (x : α) : PingPongQueues α :=
  { q with outSize := q.outSize + 1, outQueue := Function.update q.outQueue q.outSize x }

/-- The appends of one kernel launch, in the order their slots were reserved. -/
def emit (xs : List α) : PingPongQueues α := xs.foldl push q

@[simp] theorem length_input : q.input.length = q.inSize := length_slots _ _

@[simp] theorem length_output : q.output.length = q.outSize := length_slots _ _

/-- Two queues with the same input entries have the same input count. -/
theorem inSize_eq_of_input_eq {q' : PingPongQueues α} (h : q'.input = q.input) :
    q'.inSize = q.inSize := by
  rw [← length_input, h, length_input]

@[simp] theorem inSize_clearOutput : q.clearOutput.inSize = q.inSize := rfl

@[simp] theorem input_clearOutput : q.clearOutput.input = q.input := rfl

@[simp] theorem output_clearOutput : q.clearOutput.output = [] := rfl

@[simp] theorem inSize_swap : q.swap.inSize = q.outSize := rfl

@[simp] theorem input_swap : q.swap.input = q.output := rfl

@[simp] theorem output_swap : q.swap.output = q.input := rfl

@[simp] theorem input_push (x : α) : (q.push x).input = q.input := rfl

@[simp] theorem output_push (x : α) : (q.push x).output = q.output ++ [x] :=
  slots_update_succ _ _ _

@[simp] theorem input_emit (xs : List α) : (q.emit xs).input = q.input := by
  induction xs generalizing q with
  | nil => rfl
  | cons x xs ih => exact (ih (q.push x)).trans (q.input_push x)

@[simp] theorem output_emit (xs : List α) : (q.emit xs).output = q.output ++ xs := by
  induction xs generalizing q with
  | nil => simp [emit]
  | cons x xs ih => simpa using ih (q.push x)

@[simp] theorem outSize_emit (xs : List α) : (q.emit xs).outSize = q.outSize + xs.length := by
  simpa only [length_output, List.length_append] using congrArg List.length (q.output_emit xs)

theorem input_resize_writeInput {n : Nat} (xs : List α) (h : xs.length = n) :
    ((q.resize n).writeInput xs).input = xs := by
  subst h; exact slots_writeSlots _ _

/-- **Ping-pong discipline.** Clearing the output, appending `xs` and swapping leaves exactly
`xs` as the input, whatever either buffer held before. -/
theorem input_swap_emit_clearOutput (xs : List α) : (q.clearOutput.emit xs).swap.input = xs := by
  simp

end PingPongQueues

end NvBowtie
