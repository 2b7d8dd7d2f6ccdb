import Mathlib.Tactic

/-!
# Named pipes

A FIFO as POSIX has it. `ι` names those who may hold an end: the threads of a program, or other
processes. How much the pipe takes of a write is left open: at most `PIPE_BUF` bytes are taken whole
or not at all, more of them perhaps in part. A pipe that nobody holds an end of loses what is in it.

`Messages`: what has been written is what has left the pipe and what is in it, in this order, for
messages of one size, when all that is written and read has this size; none is cut or glued to
another.
-/

namespace NamedPipe

/-- `PIPE_BUF` of Linux. -/
def pipeBuf : ℕ := 4096

/-- A pipe: whether its name is in the file system, who holds ends of it, and the bytes in it. -/
structure Fifo (ι : Type) where
  linked : Bool
  readers : Finset ι
  writers : Finset ι
  queue : List UInt8
deriving DecidableEq

namespace Fifo

variable {ι : Type}

/-- As `mkfifo` makes it. -/
def made : Fifo ι := ⟨true, ∅, ∅, []⟩

variable (f : Fifo ι)

section ends

variable [DecidableEq ι] (i : ι)

/-- `open(path, O_RDONLY | O_NONBLOCK)`; `none` where it fails. -/
def openRead : Option (Fifo ι) :=
  if f.linked then some { f with readers := insert i f.readers } else none

/-- `open(path, O_WRONLY | O_NONBLOCK)`: it fails where nobody reads. -/
def openWrite : Option (Fifo ι) :=
  if f.linked ∧ f.readers.Nonempty then some { f with writers := insert i f.writers } else none

/-- `open(path, O_RDWR)`. -/
def openBoth : Option (Fifo ι) :=
  if f.linked then some { f with readers := insert i f.readers, writers := insert i f.writers }
  else none

/-- A read end before it is closed for good. -/
def dropReader : Fifo ι := { f with readers := f.readers.erase i }
/-- A write end before it is closed for good. -/
def dropWriter : Fifo ι := { f with writers := f.writers.erase i }

end ends

/-- How many of the bytes a write takes, `none` where it returns -1; `space` is what the pipe takes
at the moment. -/
def taken (bytes : List UInt8) (space : ℕ) : Option ℕ :=
  if ¬ f.readers.Nonempty then none
  else if bytes.length ≤ space then some bytes.length
  else if bytes.length ≤ pipeBuf ∨ space = 0 then none
  else some space

/-- The pipe after it has taken `n` of them. -/
def put (bytes : List UInt8) (n : ℕ) : Fifo ι := { f with queue := f.queue ++ bytes.take n }

/-- What a read of `count` bytes returns; `none` is -1, with `EAGAIN`. -/
def found (count : ℕ) : Option (List UInt8) :=
  if f.queue = [] then if f.writers.Nonempty then none else some []
  else some (f.queue.take count)

/-- The pipe after the read. -/
def get (count : ℕ) : Fifo ι := { f with queue := f.queue.drop count }

/-- What is lost with the last end. -/
def lost : List UInt8 := if f.readers.Nonempty ∨ f.writers.Nonempty then [] else f.queue

/-- The pipe without it. -/
def settle : Fifo ι :=
  if f.readers.Nonempty ∨ f.writers.Nonempty then f else { f with queue := [] }

@[simp] lemma readers_settle : f.settle.readers = f.readers := by unfold settle; split <;> rfl
@[simp] lemma writers_settle : f.settle.writers = f.writers := by unfold settle; split <;> rfl

/-- A pipe that nobody holds an end of is empty. -/
lemma queue_settle (h : f.readers = ∅) (h' : f.writers = ∅) : f.settle.queue = [] := by
  unfold settle
  rw [if_neg (by simp [h, h'])]

/-- An empty pipe stays empty. -/
lemma queue_settle_of_nil (h : f.queue = []) : f.settle.queue = [] := by
  unfold settle
  split
  · exact h
  · rfl

/-- A read that is not empty takes the first bytes. -/
lemma found_eq {count : ℕ} {bytes : List UInt8} (h : f.found count = some bytes)
    (hne : bytes ≠ []) : f.queue = bytes ++ (f.get count).queue := by
  unfold found at h
  split_ifs at h
  · exact absurd (Option.some.inj h).symm hne
  · rw [← Option.some.inj h]
    exact (List.take_append_drop count f.queue).symm

/-- A short write is taken whole. -/
lemma taken_eq {bytes : List UInt8} {space n : ℕ} (h : f.taken bytes space = some n)
    (hshort : bytes.length ≤ pipeBuf) : n = bytes.length := by
  unfold taken at h
  split_ifs at h with hreaders hspace hlong
  · exact (Option.some.inj h).symm
  · exact absurd (Or.inl hshort) hlong

end Fifo

/-! ## Messages -/

variable {ι : Type}

/-- The messages written are those that have left, and those in the pipe behind them; all have the
size `k`. -/
structure Messages (k : ℕ) (written left : List (List UInt8)) (f : Fifo ι) : Prop where
  sizes : ∀ m ∈ written, m.length = k
  exists_queued : ∃ queued, written = left ++ queued ∧ f.queue = queued.flatten

namespace Messages

variable {k : ℕ} {written left : List (List UInt8)} {f : Fifo ι} (h : Messages k written left f)
include h

/-- A write of a message that is short enough. -/
lemma put {bytes : List UInt8} {space n : ℕ} (hsize : bytes.length = k) (hk : k ≤ pipeBuf)
    (htaken : f.taken bytes space = some n) :
    Messages k (written ++ [bytes.take n]) left (f.put bytes n) := by
  obtain ⟨hsizes, queued, hwritten, hqueue⟩ := h
  have hn : n = bytes.length := f.taken_eq htaken (hsize ▸ hk)
  rw [hn, List.take_length]
  refine ⟨?_, queued ++ [bytes], ?_, ?_⟩
  · rw [List.forall_mem_append, List.forall_mem_singleton]
    exact ⟨hsizes, hsize⟩
  · rw [hwritten, List.append_assoc]
  · rw [List.flatten_append, List.flatten_singleton, ← hqueue]
    exact congrArg (f.queue ++ ·) (List.take_length ..)

/-- **A read of this size** gets one message, whole, or nothing. -/
lemma get {bytes : List UInt8} (hfound : f.found k = some bytes)
    (hne : bytes ≠ []) :
    bytes.length = k ∧ Messages k written (left ++ [bytes]) (f.get k) := by
  obtain ⟨hsizes, queued, hwritten, hqueue⟩ := h
  have hsplit := f.found_eq hfound hne
  cases queued with
  | nil =>
      rw [hqueue, List.flatten_nil] at hsplit
      exact absurd (List.append_eq_nil_iff.mp hsplit.symm).1 hne
  | cons m queued =>
      have hm : m.length = k := hsizes m (by simp [hwritten])
      have htake : bytes = m := by
        unfold Fifo.found at hfound
        split_ifs at hfound with hnil
        · exact absurd (Option.some.inj hfound).symm hne
        · rw [← Option.some.inj hfound, hqueue, List.flatten_cons, ← hm, List.take_left]
      subst htake
      refine ⟨hm, hsizes, queued, ?_, ?_⟩
      · rw [hwritten, List.append_assoc, List.singleton_append]
      · rw [Fifo.get, hqueue, List.flatten_cons, ← hm, List.drop_left]

/-- The closing of an end: the messages in the pipe stay, or all are lost. -/
lemma settle : ∃ dropped, f.lost = dropped.flatten ∧
    Messages k written (left ++ dropped) f.settle := by
  obtain ⟨hsizes, queued, hwritten, hqueue⟩ := h
  unfold Fifo.lost Fifo.settle
  split_ifs
  · exact ⟨[], rfl, hsizes, queued, by rw [hwritten, List.append_nil], hqueue⟩
  · exact ⟨queued, hqueue, hsizes, [], by rw [hwritten, List.append_nil], rfl⟩

end Messages

end NamedPipe
