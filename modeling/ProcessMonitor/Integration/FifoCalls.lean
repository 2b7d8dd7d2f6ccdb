import ProcessMonitor.Integration.Fifo
import ProcessMonitor.Lib.Machine
import ProcessMonitor.Lib.NamedPipe

/-!
# The calls on the FIFO

`ipc_send_command`, `ipc_receive_data`, `ipc_send_raw_message`, `ipc_receive_raw_message` and
`ipc_cleanup` of `src/04-integration/ipc_handler.c`, step by step, in any number of threads. Each
call opens the FIFO without blocking, writes or reads once, and closes it; the senders hold
`fifo_mutex` meanwhile, the receivers do not. Other processes may have the FIFO open, too:
`ipc_init` makes it for everybody, and they write and read what they like.

* `ends_states`: who holds the mutex and the daemon's ends of the FIFO is told by where the threads
  are. So the daemon has one writer at most, and between its calls it holds nothing.
* `sendCommand_all_or_nothing`: a command is written whole if the call returns 0, and else nothing.
* `raw_messages`: raw messages arrive whole, in the order in which they are sent, and none twice.
* `apart_fails`: without other processes a message gets across only if the calls overlap. Calls that
  do not all return -1.
-/

namespace ProcessMonitor.Integration

open CString NamedPipe

variable (H : Header)

/-! ## Calls -/

/-- `sizeof(ipc_message_t)`: two words, two arrays, a time, aligned to 8 bytes. -/
def ipcMessageSize : ℕ := (8 + H.maxRoomName + H.maxMessageSize + 7) / 8 * 8 + 8

/-- `BUFFER_SIZE` of `ipc_handler.c` -/
def ipcBufferSize : ℕ := 1024

/-- The bytes that `write(fd, buffer, len)` writes: `len` is the length of the whole line, and
`behind` is what follows the buffer in memory. -/
def commandBytes (line behind : List UInt8) : List UInt8 :=
  (snprintf ipcBufferSize line ++ 0 :: behind).take line.length

/-- A call, with its arguments. -/
inductive IpcCall
  | sendCommand (type : ℤ) (roomName : List UInt8) (param1 : ℤ) (paramStr behind : List UInt8)
  | sendRawMessage (msg : List UInt8)
  | receiveData
  | receiveRawMessage
  | cleanup

/-- Where a thread is; `raw` tells the functions on raw messages from the others. -/
inductive IpcStage
  | idle
  | locking (raw : Bool) (msg : List UInt8)
  | openingWrite (raw : Bool) (msg : List UInt8)
  | writing (raw : Bool) (msg : List UInt8)
  | closingWrite (result : ℤ)
  | unlocking (result : Option ℤ)
  | openingRead (raw : Bool)
  | reading (raw : Bool)
  | closingRead (result : ℤ)
  | lockingCleanup
  | unlinking
  | resetting
  | returning (result : Option ℤ)
deriving DecidableEq

namespace IpcCall

/-- Where a call goes on behind its checks. -/
def stage : IpcCall → IpcStage
  | .sendCommand type roomName param1 paramStr behind =>
      .locking false (commandBytes (commandLine type roomName param1 paramStr) behind)
  | .sendRawMessage msg => .locking true msg
  | .receiveData => .openingRead false
  | .receiveRawMessage => .openingRead true
  | .cleanup => .lockingCleanup

/-- The function checks `initialized` and its pointer. -/
def checks : IpcCall → Bool
  | .cleanup => false
  | _ => true

end IpcCall

/-- Who may hold an end of the FIFO: a thread of the daemon, or another process. A process that has
opened it several times counts as several. -/
inductive FifoHolder
  | thread (t : ℕ)
  | peer (p : ℕ)
deriving DecidableEq

/-- `ipc_ctx` and the FIFO, and the threads. -/
structure Ipc where
  initialized : Bool
  owner : Option ℕ
  fifo : Fifo FifoHolder
  stage : ℕ → IpcStage

/-- What another process does with the FIFO. -/
inductive PeerAct
  | openRead
  | openWrite
  | openBoth
  | closeRead
  | closeWrite
  | write (bytes : List UInt8) (space : ℕ)
  | read (count : ℕ)

/-- What a thread does next. -/
inductive IpcEvent
  /-- It calls a function; `null` is whether the pointer is `NULL`. -/
  | call (t : ℕ) (c : IpcCall) (null : Bool)
  /-- It takes its next step; `space` is what the FIFO takes at the moment. -/
  | step (t : ℕ) (space : ℕ)
  | peer (p : ℕ) (act : PeerAct)

/-- What a step shows. -/
inductive IpcSeen
  | nothing
  | wrote (t : ℕ) (written : List UInt8)
  | got (t : ℕ) (found : List UInt8)
  | dropped (lost : List UInt8)
  | returned (t : ℕ) (result : Option ℤ)
deriving DecidableEq

namespace Ipc

/-- After `ipc_init`, before the first call. -/
def initial : Ipc := ⟨true, none, .made, fun _ => .idle⟩

variable (s : Ipc)

/-- The thread `t` goes on at `p`. -/
def goto (t : ℕ) (p : IpcStage) : Ipc := { s with stage := Function.update s.stage t p }

/-- The first checks of a function; `ipc_cleanup` has none. -/
def begin (t : ℕ) (c : IpcCall) (null : Bool) : Ipc :=
  if c.checks && (!s.initialized || null) then s.goto t (.returning (some (-1)))
  else s.goto t c.stage

/-- How many bytes a receiver asks for. -/
def count (raw : Bool) : ℕ := if raw then ipcMessageSize H else ipcBufferSize - 1

/-- The next step of a thread in a call.
Source: `ipc_handler.c`, the five functions -/
def threadStep (t : ℕ) (space : ℕ) : Ipc × IpcSeen :=
  match s.stage t with
  | .idle => (s, .nothing)
  | .locking raw msg =>
      if s.owner = none then ({ s with owner := some t }.goto t (.openingWrite raw msg), .nothing)
      else (s, .nothing)
  | .openingWrite raw msg =>
      match s.fifo.openWrite (.thread t) with
      | some f => ({ s with fifo := f }.goto t (.writing raw msg), .nothing)
      | none => (s.goto t (.unlocking (some (-1))), .nothing)
  | .writing raw msg =>
      match s.fifo.taken msg space with
      | some n =>
          ({ s with fifo := s.fifo.put msg n }.goto t
            (.closingWrite (if raw ∧ n ≠ msg.length then -1 else 0)), .wrote t (msg.take n))
      | none => (s.goto t (.closingWrite (-1)), .nothing)
  | .closingWrite result =>
      ({ s with fifo := (s.fifo.dropWriter (.thread t)).settle }.goto t (.unlocking (some result)),
        .dropped (s.fifo.dropWriter (.thread t)).lost)
  | .unlocking result => ({ s with owner := none }.goto t (.returning result), .nothing)
  | .openingRead raw =>
      match s.fifo.openRead (.thread t) with
      | some f => ({ s with fifo := f }.goto t (.reading raw), .nothing)
      | none => (s.goto t (.returning (some (-1))), .nothing)
  | .reading raw =>
      match s.fifo.found (count H raw) with
      | some (b :: bs) =>
          ({ s with fifo := s.fifo.get (count H raw) }.goto t
            (.closingRead (if raw ∧ (b :: bs).length ≠ ipcMessageSize H then -1 else 0)),
            .got t (b :: bs))
      | _ => (s.goto t (.closingRead (-1)), .nothing)
  | .closingRead result =>
      ({ s with fifo := (s.fifo.dropReader (.thread t)).settle }.goto t (.returning (some result)),
        .dropped (s.fifo.dropReader (.thread t)).lost)
  | .lockingCleanup =>
      if s.owner = none then ({ s with owner := some t }.goto t .unlinking, .nothing)
      else (s, .nothing)
  | .unlinking =>
      ({ s with fifo := { s.fifo with linked := false } }.goto t .resetting, .nothing)
  | .resetting => ({ s with initialized := false }.goto t (.unlocking none), .nothing)
  | .returning result => (s.goto t .idle, .returned t result)

/-- The FIFO after a step of another process; what the process cannot do changes nothing. -/
def peerFifo (f : Fifo FifoHolder) (p : ℕ) : PeerAct → Fifo FifoHolder
  | .openRead => (f.openRead (.peer p)).getD f
  | .openWrite => (f.openWrite (.peer p)).getD f
  | .openBoth => (f.openBoth (.peer p)).getD f
  | .closeRead => (f.dropReader (.peer p)).settle
  | .closeWrite => (f.dropWriter (.peer p)).settle
  | .write bytes space =>
      if .peer p ∈ f.writers then
        match f.taken bytes space with
        | some n => f.put bytes n
        | none => f
      else f
  | .read count => if .peer p ∈ f.readers then f.get count else f

end Ipc

/-- The threads under a schedule; a thread in a call begins no other. -/
def ipcCalls : Machine Ipc IpcEvent IpcSeen where
  step s
    | .call t c null => (if s.stage t = .idle then s.begin t c null else s, .nothing)
    | .step t space => s.threadStep H t space
    | .peer p act => ({ s with fifo := Ipc.peerFifo s.fifo p act }, .nothing)

/-! ## The mutex and the ends -/

namespace IpcStage

/-- The thread holds `fifo_mutex`. -/
def locked : IpcStage → Bool
  | .openingWrite _ _ | .writing _ _ | .closingWrite _ | .unlocking _ | .unlinking | .resetting =>
      true
  | _ => false

/-- The thread holds a write end. -/
def writes : IpcStage → Bool
  | .writing _ _ | .closingWrite _ => true
  | _ => false

/-- The thread holds a read end. -/
def reads : IpcStage → Bool
  | .reading _ | .closingRead _ => true
  | _ => false

/-- What the thread holds. -/
def held (p : IpcStage) : Bool × Bool × Bool := (p.locked, p.writes, p.reads)

/-- A writer holds the mutex. -/
lemma locked_of_writes {p : IpcStage} (h : p.writes = true) : p.locked = true := by
  cases p with
  | writing raw msg => rfl
  | closingWrite result => rfl
  | _ => cases h

end IpcStage

/-- The mutex and the ends are with the threads that say so, and a FIFO without ends is empty. -/
structure Ipc.Ends (s : Ipc) : Prop where
  owner_iff : ∀ t, s.owner = some t ↔ (s.stage t).locked = true
  mem_writers_iff : ∀ t, .thread t ∈ s.fifo.writers ↔ (s.stage t).writes = true
  mem_readers_iff : ∀ t, .thread t ∈ s.fifo.readers ↔ (s.stage t).reads = true
  empty : s.fifo.readers = ∅ → s.fifo.writers = ∅ → s.fifo.queue = []

namespace Ipc

variable {H} {s s' : Ipc} {t : ℕ}

@[simp] lemma stage_goto_self (p : IpcStage) : (s.goto t p).stage t = p := by
  simp only [goto, Function.update_self]

lemma stage_goto_ne {u : ℕ} (h : u ≠ t) (p : IpcStage) : (s.goto t p).stage u = s.stage u := by
  simp only [goto, Function.update_of_ne h]

/-- The thread goes on with what it says, and the others keep what they have. -/
lemma Ends.set (h : s.Ends) {initialized : Bool} {owner : Option ℕ} {f : Fifo FifoHolder}
    {p : IpcStage} (howners : ∀ u, u ≠ t → (owner = some u ↔ s.owner = some u))
    (hwriters : ∀ u, u ≠ t → (.thread u ∈ f.writers ↔ .thread u ∈ s.fifo.writers))
    (hreaders : ∀ u, u ≠ t → (.thread u ∈ f.readers ↔ .thread u ∈ s.fifo.readers))
    (howner : owner = some t ↔ p.locked = true) (hwriter : .thread t ∈ f.writers ↔ p.writes = true)
    (hreader : .thread t ∈ f.readers ↔ p.reads = true)
    (hempty : f.readers = ∅ → f.writers = ∅ → f.queue = []) :
    ({ s with initialized := initialized, owner := owner, fifo := f }.goto t p).Ends := by
  refine ⟨fun u => ?_, fun u => ?_, fun u => ?_, hempty⟩ <;> by_cases hu : u = t
  · rw [hu, stage_goto_self]
    exact howner
  · rw [stage_goto_ne hu]
    exact (howners u hu).trans (h.owner_iff u)
  · rw [hu, stage_goto_self]
    exact hwriter
  · rw [stage_goto_ne hu]
    exact (hwriters u hu).trans (h.mem_writers_iff u)
  · rw [hu, stage_goto_self]
    exact hreader
  · rw [stage_goto_ne hu]
    exact (hreaders u hu).trans (h.mem_readers_iff u)

/-- What is in the FIFO changes, and the ends that others hold; the threads keep theirs. -/
lemma Ends.withFifo (h : s.Ends) {f : Fifo FifoHolder}
    (hwriters : ∀ u, .thread u ∈ f.writers ↔ .thread u ∈ s.fifo.writers)
    (hreaders : ∀ u, .thread u ∈ f.readers ↔ .thread u ∈ s.fifo.readers)
    (hempty : f.readers = ∅ → f.writers = ∅ → f.queue = []) :
    ({ s with fifo := f } : Ipc).Ends :=
  ⟨h.owner_iff, fun u => (hwriters u).trans (h.mem_writers_iff u),
    fun u => (hreaders u).trans (h.mem_readers_iff u), hempty⟩

/-- The thread goes on with what it has. -/
lemma Ends.goto (h : s.Ends) {q : IpcStage} (hstage : s.stage t = q) (p : IpcStage)
    (hheld : p.held = q.held) {initialized : Bool} :
    ({ s with initialized := initialized }.goto t p).Ends := by
  obtain ⟨hlocked, hwrites, hreads⟩ :
      p.locked = q.locked ∧ p.writes = q.writes ∧ p.reads = q.reads := by
    simpa only [IpcStage.held, Prod.mk.injEq] using hheld
  refine h.set (fun _ _ => Iff.rfl) (fun _ _ => Iff.rfl) (fun _ _ => Iff.rfl) ?_ ?_ ?_ h.empty
  · rw [hlocked, ← hstage]
    exact h.owner_iff t
  · rw [hwrites, ← hstage]
    exact h.mem_writers_iff t
  · rw [hreads, ← hstage]
    exact h.mem_readers_iff t

/-- The thread takes the mutex, which is nothing to the others. -/
lemma Ends.take (h : s.Ends) (hfree : s.owner = none) {p q : IpcStage} (hstage : s.stage t = q)
    (hlocked : p.locked = true) (hwrites : p.writes = q.writes) (hreads : p.reads = q.reads) :
    ({ s with owner := some t }.goto t p).Ends := by
  refine h.set (fun u hu => ?_) (fun _ _ => Iff.rfl) (fun _ _ => Iff.rfl)
    (iff_of_true rfl hlocked) ?_ ?_ h.empty
  · rw [hfree]
    exact iff_of_false (fun heq => hu (Option.some.inj heq).symm) (by simp)
  · rw [hwrites, ← hstage]
    exact h.mem_writers_iff t
  · rw [hreads, ← hstage]
    exact h.mem_readers_iff t

/-- **A step of a thread** keeps the mutex and the ends with those that say so. -/
lemma Ends.threadStep (h : s.Ends) (t space : ℕ) : (s.threadStep H t space).1.Ends := by
  have howner := h.owner_iff t
  have hwriter := h.mem_writers_iff t
  have hreader := h.mem_readers_iff t
  unfold Ipc.threadStep
  cases hstage : s.stage t with
  | idle => exact h
  | locking raw msg =>
      by_cases hfree : s.owner = none
      · simp only [if_pos hfree]
        exact h.take hfree hstage rfl rfl rfl
      · simp only [if_neg hfree]
        exact h
  | openingWrite raw msg =>
      rw [hstage] at howner hreader
      simp only
      cases hopen : s.fifo.openWrite (.thread t) with
      | none => exact h.goto hstage (.unlocking _) rfl
      | some f =>
          unfold Fifo.openWrite at hopen
          split_ifs at hopen
          obtain rfl := Option.some.inj hopen
          refine h.set (fun _ _ => Iff.rfl) (fun u hu => ?_) (fun _ _ => Iff.rfl) howner ?_ hreader
            fun _ hno => absurd hno (by simp)
          · simp [hu]
          · simp [IpcStage.writes]
  | writing raw msg =>
      rw [hstage] at hwriter
      simp only
      cases htaken : s.fifo.taken msg space with
      | none => exact h.goto hstage (.closingWrite _) rfl
      | some n =>
          have hmem : .thread t ∈ s.fifo.writers := hwriter.mpr rfl
          have hput : ({ s with fifo := s.fifo.put msg n } : Ipc).Ends :=
            h.withFifo (fun _ => Iff.rfl) (fun _ => Iff.rfl) fun _ hno =>
              absurd hno (Finset.ne_empty_of_mem hmem)
          exact hput.goto hstage (.closingWrite _) rfl
  | closingWrite result =>
      rw [hstage] at howner hreader
      refine h.set (fun _ _ => Iff.rfl) (fun u hu => ?_) (fun u _ => ?_) howner ?_ ?_ ?_
      · rw [Fifo.writers_settle, Fifo.dropWriter, Finset.mem_erase]
        exact and_iff_right fun heq => hu (FifoHolder.thread.inj heq)
      · rw [Fifo.readers_settle]
        rfl
      · rw [Fifo.writers_settle, Fifo.dropWriter]
        simp [IpcStage.writes]
      · rw [Fifo.readers_settle]
        exact hreader
      · rw [Fifo.readers_settle, Fifo.writers_settle]
        exact Fifo.queue_settle _
  | unlocking result =>
      rw [hstage] at howner hwriter hreader
      have hsome : s.owner = some t := howner.mpr rfl
      refine h.set (fun u hu => ?_) (fun _ _ => Iff.rfl) (fun _ _ => Iff.rfl)
        (iff_of_false (by simp) (by simp [IpcStage.locked])) hwriter hreader h.empty
      rw [hsome]
      exact iff_of_false (by simp) fun heq => hu (Option.some.inj heq).symm
  | openingRead raw =>
      rw [hstage] at howner hwriter
      simp only
      cases hopen : s.fifo.openRead (.thread t) with
      | none => exact h.goto hstage (.returning _) rfl
      | some f =>
          unfold Fifo.openRead at hopen
          split_ifs at hopen
          obtain rfl := Option.some.inj hopen
          refine h.set (fun _ _ => Iff.rfl) (fun _ _ => Iff.rfl) (fun u hu => ?_) howner hwriter ?_
            fun hno => absurd hno (by simp)
          · simp [hu]
          · simp [IpcStage.reads]
  | reading raw =>
      rw [hstage] at hreader
      simp only
      split
      · have hmem : .thread t ∈ s.fifo.readers := hreader.mpr rfl
        have hget : ({ s with fifo := s.fifo.get (count H raw) } : Ipc).Ends :=
          h.withFifo (fun _ => Iff.rfl) (fun _ => Iff.rfl) fun hno =>
            absurd hno (Finset.ne_empty_of_mem hmem)
        exact hget.goto hstage (.closingRead _) rfl
      · exact h.goto hstage (.closingRead _) rfl
  | closingRead result =>
      rw [hstage] at howner hwriter
      refine h.set (fun _ _ => Iff.rfl) (fun u _ => ?_) (fun u hu => ?_) howner ?_ ?_ ?_
      · rw [Fifo.writers_settle]
        rfl
      · rw [Fifo.readers_settle, Fifo.dropReader, Finset.mem_erase]
        exact and_iff_right fun heq => hu (FifoHolder.thread.inj heq)
      · rw [Fifo.writers_settle]
        exact hwriter
      · rw [Fifo.readers_settle, Fifo.dropReader]
        simp [IpcStage.reads]
      · rw [Fifo.readers_settle, Fifo.writers_settle]
        exact Fifo.queue_settle _
  | lockingCleanup =>
      by_cases hfree : s.owner = none
      · simp only [if_pos hfree]
        exact h.take hfree hstage rfl rfl rfl
      · simp only [if_neg hfree]
        exact h
  | unlinking =>
      have hunlinked : ({ s with fifo := { s.fifo with linked := false } } : Ipc).Ends :=
        h.withFifo (fun _ => Iff.rfl) (fun _ => Iff.rfl) h.empty
      exact hunlinked.goto hstage .resetting rfl
  | resetting => exact h.goto hstage (.unlocking _) rfl
  | returning result => exact h.goto hstage .idle rfl

/-- A call begins without the mutex and without an end. -/
lemma Ends.begin (h : s.Ends) (hidle : s.stage t = .idle) (c : IpcCall) (null : Bool) :
    (s.begin t c null).Ends := by
  unfold Ipc.begin
  split_ifs
  · exact h.goto hidle (.returning _) rfl
  · cases c <;> exact h.goto hidle (IpcCall.stage _) rfl

/-- A step of another process leaves the daemon its ends, and a FIFO without ends is empty. -/
lemma Ends.peer (h : s.Ends) (p : ℕ) (act : PeerAct) :
    ({ s with fifo := peerFifo s.fifo p act } : Ipc).Ends := by
  cases act with
  | openRead =>
      simp only [peerFifo, Fifo.openRead]
      split_ifs
      · exact h.withFifo (fun _ => Iff.rfl) (fun t => by simp) fun hno => absurd hno (by simp)
      · exact h
  | openWrite =>
      simp only [peerFifo, Fifo.openWrite]
      split_ifs
      · exact h.withFifo (fun t => by simp) (fun _ => Iff.rfl) fun _ hno => absurd hno (by simp)
      · exact h
  | openBoth =>
      simp only [peerFifo, Fifo.openBoth]
      split_ifs
      · exact h.withFifo (fun t => by simp) (fun t => by simp) fun hno => absurd hno (by simp)
      · exact h
  | closeRead =>
      refine h.withFifo (fun t => ?_) (fun t => ?_) fun hr hw => ?_
      · simp [peerFifo, Fifo.dropReader]
      · simp [peerFifo, Fifo.dropReader]
      · rw [peerFifo, Fifo.readers_settle] at hr
        rw [peerFifo, Fifo.writers_settle] at hw
        exact Fifo.queue_settle _ hr hw
  | closeWrite =>
      refine h.withFifo (fun t => ?_) (fun t => ?_) fun hr hw => ?_
      · simp [peerFifo, Fifo.dropWriter]
      · simp [peerFifo, Fifo.dropWriter]
      · rw [peerFifo, Fifo.readers_settle] at hr
        rw [peerFifo, Fifo.writers_settle] at hw
        exact Fifo.queue_settle _ hr hw
  | write bytes space =>
      simp only [peerFifo]
      split_ifs with hmem
      · split
        · exact h.withFifo (fun _ => Iff.rfl) (fun _ => Iff.rfl) fun _ hno =>
            absurd hno (Finset.ne_empty_of_mem hmem)
        · exact h
      · exact h
  | read count =>
      simp only [peerFifo]
      split_ifs with hmem
      · exact h.withFifo (fun _ => Iff.rfl) (fun _ => Iff.rfl) fun hno =>
          absurd hno (Finset.ne_empty_of_mem hmem)
      · exact h

/-- A step keeps it. -/
lemma Ends.step (h : s.Ends) (e : IpcEvent) : ((ipcCalls H).step s e).1.Ends := by
  cases e with
  | call t c null =>
      simp only [ipcCalls]
      split_ifs with hidle
      · exact h.begin hidle c null
      · exact h
  | step t space => exact h.threadStep t space
  | peer p act => exact h.peer p act

end Ipc

/-- So it is before the first call. -/
lemma Ipc.ends_initial : Ipc.initial.Ends :=
  ⟨fun t => by simp [Ipc.initial, IpcStage.locked],
    fun t => by simp [Ipc.initial, Fifo.made, IpcStage.writes],
    fun t => by simp [Ipc.initial, Fifo.made, IpcStage.reads], fun _ _ => rfl⟩

/-- **The mutex and the ends in every run.** Whatever the calls, what other processes do, and their
interleaving: a thread that holds a write end holds `fifo_mutex`, so that there is one at most; when
no thread is in a call the mutex is free and no thread holds an end of the FIFO; and if no other
process holds one either then, nothing is in it. -/
theorem ends_states (events : List IpcEvent) :
    ∀ s ∈ Ipc.initial :: (ipcCalls H).states .initial events,
      (∀ t, .thread t ∈ s.fifo.writers → s.owner = some t) ∧
        ((∀ t, s.stage t = .idle) →
          s.owner = none ∧ (∀ t, .thread t ∉ s.fifo.readers ∧ .thread t ∉ s.fifo.writers) ∧
            ((∀ p, .peer p ∉ s.fifo.readers ∧ .peer p ∉ s.fifo.writers) → s.fifo.queue = [])) := by
  intro s hs
  have h : s.Ends := by
    rcases List.mem_cons.mp hs with rfl | hmem
    · exact Ipc.ends_initial
    · exact (ipcCalls H).states_invariant (I := Ipc.Ends) (fun _ e h => h.step e) Ipc.ends_initial
        events s hmem
  refine ⟨fun t ht => ?_, fun hidle => ?_⟩
  · exact (h.owner_iff t).mpr (IpcStage.locked_of_writes ((h.mem_writers_iff t).mp ht))
  · have howner : s.owner = none := by
      refine Option.eq_none_iff_forall_ne_some.mpr fun t ht => ?_
      have hlocked := (h.owner_iff t).mp ht
      rw [hidle t] at hlocked
      cases hlocked
    have hthreads (t : ℕ) : .thread t ∉ s.fifo.readers ∧ .thread t ∉ s.fifo.writers := by
      refine ⟨fun ht => ?_, fun ht => ?_⟩
      · have hreads := (h.mem_readers_iff t).mp ht
        rw [hidle t] at hreads
        cases hreads
      · have hwrites := (h.mem_writers_iff t).mp ht
        rw [hidle t] at hwrites
        cases hwrites
    refine ⟨howner, hthreads, fun hpeers => h.empty ?_ ?_⟩
    · refine Finset.eq_empty_of_forall_notMem fun i hi => ?_
      cases i with
      | thread t => exact (hthreads t).1 hi
      | peer p => exact (hpeers p).1 hi
    · refine Finset.eq_empty_of_forall_notMem fun i hi => ?_
      cases i with
      | thread t => exact (hthreads t).2 hi
      | peer p => exact (hpeers p).2 hi

/-- A room is to be started. -/
def startLine : List UInt8 := commandLine 1 (bytes "cpu") 0 []

/-- Another process opens the FIFO to read, and a sender writes. -/
def crossing : List IpcEvent :=
  [.peer 0 .openRead, .call 1 (.sendCommand 1 (bytes "cpu") 0 [] []) false, .step 1 0, .step 1 0,
    .step 1 65536]

/-- The sender holds the write end, and the mutex. -/
theorem ends_states_crossing :
    let s := ((ipcCalls .plain).run .initial crossing).1
    (∀ t, .thread t ∈ s.fifo.writers → s.owner = some t) ∧
      ((∀ t, s.stage t = .idle) →
        s.owner = none ∧ (∀ t, .thread t ∉ s.fifo.readers ∧ .thread t ∉ s.fifo.writers) ∧
          ((∀ p, .peer p ∉ s.fifo.readers ∧ .peer p ∉ s.fifo.writers) → s.fifo.queue = [])) :=
  ends_states .plain crossing _ (Machine.run_mem_states _ _ _)

/-! ## What gets across -/

namespace IpcSeen

/-- What a step writes. -/
def wroteBytes : IpcSeen → Option (List UInt8)
  | .wrote _ written => some written
  | _ => none

/-- What a step reads. -/
def gotBytes : IpcSeen → Option (List UInt8)
  | .got _ found => some found
  | _ => none

end IpcSeen

/-! ### A command -/

/-- What a thread writes in a step. -/
def IpcSeen.wroteBy (t : ℕ) : IpcSeen → Option (List UInt8)
  | .wrote u written => if u = t then some written else none
  | _ => none

/-- The thread that a step shows something of. -/
def IpcSeen.thread : IpcSeen → Option ℕ
  | .nothing | .dropped _ => none
  | .wrote t _ | .got t _ | .returned t _ => some t

namespace Ipc

variable {H} {s : Ipc} {t u : ℕ}

/-- The other threads stay where they are. -/
lemma stage_threadStep_ne (hu : u ≠ t) (space : ℕ) :
    (s.threadStep H u space).1.stage t = s.stage t := by
  have hgoto (s' : Ipc) (p : IpcStage) : (s'.goto u p).stage t = s'.stage t :=
    stage_goto_ne hu.symm p
  unfold Ipc.threadStep
  cases s.stage u with
  | idle => rfl
  | locking raw msg => simp only; split_ifs <;> simp [hgoto]
  | openingWrite raw msg => simp only; split <;> simp [hgoto]
  | writing raw msg => simp only; split <;> simp [hgoto]
  | openingRead raw => simp only; split <;> simp [hgoto]
  | reading raw => simp only; split <;> simp [hgoto]
  | lockingCleanup => simp only; split_ifs <;> simp [hgoto]
  | _ => simp [hgoto]

/-- A thread's step shows nothing of the others. -/
lemma thread_threadStep (s : Ipc) (u space : ℕ) :
    ∀ v ∈ (s.threadStep H u space).2.thread, v = u := by
  unfold Ipc.threadStep
  cases s.stage u with
  | locking raw msg => simp only; split_ifs <;> simp [IpcSeen.thread]
  | openingWrite raw msg => simp only; split <;> simp [IpcSeen.thread]
  | writing raw msg => simp only; split <;> simp [IpcSeen.thread]
  | openingRead raw => simp only; split <;> simp [IpcSeen.thread]
  | reading raw => simp only; split <;> simp [IpcSeen.thread]
  | lockingCleanup => simp only; split_ifs <;> simp [IpcSeen.thread]
  | _ => simp [IpcSeen.thread]

end Ipc

/-- A line that fits in the buffer is written as it is. -/
lemma commandBytes_eq {line : List UInt8} (h : line.length < ipcBufferSize)
    (behind : List UInt8) : commandBytes line behind = line := by
  have hwhole : snprintf ipcBufferSize line = line := List.take_of_length_le (by omega)
  rw [commandBytes, hwhole, List.take_left]

/-- The result of a call that is to send the line, and what it has written: all, or nothing. -/
def Sent (line : List UInt8) (result : ℤ) (written : List (List UInt8)) : Prop :=
  (result = 0 ∧ written = [line]) ∨ (result = -1 ∧ written = [])

/-- Where a thread may be that sends the line, and what it has written by then. -/
def IpcStage.Sending (line : List UInt8) (written : List (List UInt8)) : IpcStage → Prop
  | .locking raw msg | .openingWrite raw msg | .writing raw msg =>
      raw = false ∧ msg = line ∧ written = []
  | .closingWrite result => Sent line result written
  | .unlocking result | .returning result => ∃ z, result = some z ∧ Sent line z written
  | .idle => True
  | _ => False

/-- The thread `t` is sending the line, or has sent it. -/
structure SendsLine (line : List UInt8) (t : ℕ) (seen : List IpcSeen) (s : Ipc) : Prop where
  stage : (s.stage t).Sending line (seen.filterMap (IpcSeen.wroteBy t))
  returned : ∀ result, .returned t result ∈ seen →
    s.stage t = .idle ∧ ∃ z, result = some z ∧ Sent line z (seen.filterMap (IpcSeen.wroteBy t))

namespace SendsLine

variable {H} {line : List UInt8} {seen : List IpcSeen} {s s' : Ipc} {t : ℕ}

/-- A step that shows nothing of the thread and leaves it where it is. -/
lemma other (h : SendsLine line t seen s) {e : IpcSeen} (he : e.thread ≠ some t)
    (hstage : s'.stage t = s.stage t) : SendsLine line t (seen ++ [e]) s' := by
  have hwrote : e.wroteBy t = none := by
    cases e with
    | wrote v written =>
        have hv : v ≠ t := fun heq => he (congrArg some heq)
        simp [IpcSeen.wroteBy, hv]
    | _ => rfl
  have hsame :
      (seen ++ [e]).filterMap (IpcSeen.wroteBy t) = seen.filterMap (IpcSeen.wroteBy t) := by
    rw [List.filterMap_append, List.filterMap_cons_none hwrote, List.filterMap_nil, List.append_nil]
  refine ⟨by rw [hsame, hstage]; exact h.stage, fun result hmem => ?_⟩
  rw [hsame, hstage]
  rcases List.mem_append.mp hmem with hold | hnew
  · exact h.returned result hold
  · rw [← List.mem_singleton.mp hnew] at he
    exact absurd rfl he

/-- The thread goes on in its call, and has written nothing in the step. -/
lemma go (h : SendsLine line t seen s) (hbusy : s.stage t ≠ .idle) {p : IpcStage}
    (hp : p.Sending line (seen.filterMap (IpcSeen.wroteBy t))) {e : IpcSeen}
    (he : e.thread = none) (hstage : s'.stage t = p) : SendsLine line t (seen ++ [e]) s' := by
  have hwrote : e.wroteBy t = none := by
    cases e with
    | wrote v written => cases he
    | _ => rfl
  refine ⟨?_, fun result hmem => ?_⟩
  · rw [List.filterMap_append, List.filterMap_cons_none hwrote, List.filterMap_nil, List.append_nil,
      hstage]
    exact hp
  · rcases List.mem_append.mp hmem with hold | hnew
    · exact absurd (h.returned result hold).1 hbusy
    · rw [← List.mem_singleton.mp hnew] at he
      cases he

/-- **A step of the thread itself.** -/
lemma own (h : SendsLine line t seen s) (hline : line.length ≤ pipeBuf) (space : ℕ) :
    SendsLine line t (seen ++ [(s.threadStep H t space).2]) (s.threadStep H t space).1 := by
  have hat := h.stage
  unfold Ipc.threadStep
  cases hstage : s.stage t with
  | idle => exact h.other (by simp [IpcSeen.thread]) rfl
  | locking raw msg =>
      rw [hstage] at hat
      simp only
      split_ifs
      · exact h.go (by simp [hstage]) (p := .openingWrite raw msg) hat rfl
          (Ipc.stage_goto_self _)
      · exact h.other (by simp [IpcSeen.thread]) rfl
  | openingWrite raw msg =>
      rw [hstage] at hat
      simp only
      split
      · exact h.go (by simp [hstage]) (p := .writing raw msg) hat rfl (Ipc.stage_goto_self _)
      · exact h.go (by simp [hstage]) (p := .unlocking (some (-1))) ⟨-1, rfl, Or.inr ⟨rfl, hat.2.2⟩⟩
          rfl (Ipc.stage_goto_self _)
  | writing raw msg =>
      rw [hstage] at hat
      obtain ⟨rfl, rfl, hnone⟩ := hat
      simp only
      cases htaken : s.fifo.taken msg space with
      | none =>
          exact h.go (by simp [hstage]) (p := .closingWrite (-1)) (Or.inr ⟨rfl, hnone⟩) rfl
            (Ipc.stage_goto_self _)
      | some n =>
          -- the line is short enough to be taken whole
          obtain rfl : n = msg.length := s.fifo.taken_eq htaken hline
          have hwritten : (seen ++ [IpcSeen.wrote t (msg.take msg.length)]).filterMap
              (IpcSeen.wroteBy t) = [msg] := by
            rw [List.filterMap_append, hnone]
            simp [IpcSeen.wroteBy]
          refine ⟨?_, fun result hmem => ?_⟩
          · rw [Ipc.stage_goto_self, hwritten]
            exact Or.inl ⟨by simp, rfl⟩
          · have hold : .returned t result ∈ seen := by simpa using hmem
            have hidle := (h.returned result hold).1
            rw [hstage] at hidle
            cases hidle
  | closingWrite result =>
      rw [hstage] at hat
      exact h.go (by simp [hstage]) (p := .unlocking (some result)) ⟨result, rfl, hat⟩ rfl
        (Ipc.stage_goto_self _)
  | unlocking result =>
      rw [hstage] at hat
      exact h.go (by simp [hstage]) (p := .returning result) hat rfl (Ipc.stage_goto_self _)
  | returning result =>
      rw [hstage] at hat
      have hsame : (seen ++ [IpcSeen.returned t result]).filterMap (IpcSeen.wroteBy t) =
          seen.filterMap (IpcSeen.wroteBy t) := by
        rw [List.filterMap_append, List.filterMap_cons_none rfl, List.filterMap_nil,
          List.append_nil]
      refine ⟨by rw [Ipc.stage_goto_self]; trivial, fun result' hmem => ?_⟩
      rw [hsame]
      refine ⟨Ipc.stage_goto_self _, ?_⟩
      rcases List.mem_append.mp hmem with hold | hnew
      · exact (h.returned result' hold).2
      · obtain ⟨-, rfl⟩ := IpcSeen.returned.inj (List.mem_singleton.mp hnew)
        exact hat
  | _ =>
      rw [hstage] at hat
      exact hat.elim

/-- Every event goes on with it that is not another call of the thread. -/
lemma step (h : SendsLine line t seen s) (hline : line.length ≤ pipeBuf) {e : IpcEvent}
    (he : ∀ c null, e ≠ .call t c null) :
    SendsLine line t (seen ++ [((ipcCalls H).step s e).2]) ((ipcCalls H).step s e).1 := by
  cases e with
  | call u c null =>
      have hu : t ≠ u := by
        rintro rfl
        exact he c null rfl
      refine h.other (by simp [ipcCalls, IpcSeen.thread]) ?_
      simp only [ipcCalls, Ipc.begin]
      split_ifs
      · exact Ipc.stage_goto_ne hu _
      · exact Ipc.stage_goto_ne hu _
      · rfl
  | step u space =>
      by_cases hu : u = t
      · subst hu
        exact h.own hline space
      · exact h.other (fun heq => hu (Ipc.thread_threadStep s u space t heq).symm)
          (Ipc.stage_threadStep_ne hu space)
  | peer p act => exact h.other (by simp [ipcCalls, IpcSeen.thread]) rfl

end SendsLine

/-- **A command is sent whole or not at all.** Let the line of a command fit in the buffer. Whatever
the other threads and other processes do during a call of `ipc_send_command`, and however much the
FIFO takes at which moment: if the call returns 0 it has written the line, whole and once, and else
it returns -1 and has written nothing. -/
theorem sendCommand_all_or_nothing (type : ℤ) (roomName : List UInt8) (param1 : ℤ)
    (paramStr : List UInt8)
    (hline : (commandLine type roomName param1 paramStr).length < ipcBufferSize)
    (behind : List UInt8) {t : ℕ} {s : Ipc} (hidle : s.stage t = .idle) (null : Bool)
    {during : List IpcEvent} (hduring : ∀ e ∈ during, ∀ c null, e ≠ .call t c null) :
    let seen := ((ipcCalls H).run s
      (.call t (.sendCommand type roomName param1 paramStr behind) null :: during)).2
    ∀ result, .returned t result ∈ seen → ∃ z, result = some z ∧
      Sent (commandLine type roomName param1 paramStr) z (seen.filterMap (IpcSeen.wroteBy t)) := by
  intro seen result hmem
  have hbegun : SendsLine (commandLine type roomName param1 paramStr) t [.nothing]
      (s.begin t (.sendCommand type roomName param1 paramStr behind) null) := by
    refine ⟨?_, by simp⟩
    unfold Ipc.begin
    split_ifs
    · rw [Ipc.stage_goto_self]
      exact ⟨-1, rfl, Or.inr ⟨rfl, rfl⟩⟩
    · rw [Ipc.stage_goto_self]
      exact ⟨rfl, commandBytes_eq hline behind, rfl⟩
  have hshort : (commandLine type roomName param1 paramStr).length ≤ pipeBuf := by
    unfold ipcBufferSize at hline
    unfold pipeBuf
    omega
  have hrun := (ipcCalls H).run_outputs_of_forall
    (J := SendsLine (commandLine type roomName param1 paramStr) t)
    (fun _ _ _ he h => h.step hshort he) hbegun hduring
  have hseen : seen = [.nothing] ++ ((ipcCalls H).run
      (s.begin t (.sendCommand type roomName param1 paramStr behind) null) during).2 := by
    simp only [seen, Machine.run_cons, ipcCalls, if_pos hidle]
    rfl
  rw [hseen] at hmem ⊢
  exact (hrun.returned result hmem).2

/-- While another process reads, the line of a start command is written. -/
theorem sendCommand_all_or_nothing_crossing :
    ((ipcCalls .plain).run (((ipcCalls .plain).run .initial (crossing.take 1)).1)
      (crossing.drop 1 ++ [.step 1 0, .peer 0 (.read 512), .step 1 0, .step 1 0])).2.filterMap
        (IpcSeen.wroteBy 1) = [startLine] := by
  let during : List IpcEvent :=
    [.step 1 0, .step 1 0, .step 1 65536, .step 1 0, .peer 0 (.read 512), .step 1 0, .step 1 0]
  have hduring : ∀ e ∈ during, ∀ c null, e ≠ .call 1 c null := by simp [during]
  obtain ⟨z, hz, hsent⟩ := sendCommand_all_or_nothing .plain 1 (bytes "cpu") 0 [] (by decide) []
    (s := ((ipcCalls .plain).run .initial (crossing.take 1)).1) rfl false hduring (some 0)
    (by decide +kernel)
  obtain rfl := Option.some.inj hz
  rcases hsent with ⟨-, hwritten⟩ | ⟨hne, -⟩
  · exact hwritten
  · cases hne

/-! ### Raw messages -/

/-- A raw message. -/
structure RawMessage where
  bytes : List UInt8
  length_eq : bytes.length = ipcMessageSize H

/-- What threads do that send and receive raw messages only. -/
inductive RawEvent
  | send (t : ℕ) (msg : RawMessage H) (null : Bool)
  | receive (t : ℕ) (null : Bool)
  | cleanup (t : ℕ)
  | step (t : ℕ) (space : ℕ)

variable {H}

/-- As an event of the calls. -/
def RawEvent.event : RawEvent H → IpcEvent
  | .send t msg null => .call t (.sendRawMessage msg.bytes) null
  | .receive t null => .call t .receiveRawMessage null
  | .cleanup t => .call t .cleanup false
  | .step t space => .step t space

variable (H)

/-- These threads under a schedule. -/
def rawCalls : Machine Ipc (RawEvent H) IpcSeen where
  step s e := (ipcCalls H).step s e.event

/-- A thread among them: its message is a raw one. -/
def IpcStage.Raw : IpcStage → Prop
  | .locking raw msg | .openingWrite raw msg | .writing raw msg =>
      raw = true ∧ msg.length = ipcMessageSize H
  | .openingRead raw | .reading raw => raw = true
  | _ => True

/-- All threads are among them, and what has been written is what has left the FIFO, each message
read or dropped, and the messages in it. -/
structure RawBooks (seen : List IpcSeen) (s : Ipc) : Prop where
  raw : ∀ t, (s.stage t).Raw H
  exists_fates : ∃ fates : List (List UInt8 × Bool),
    Messages (ipcMessageSize H) (seen.filterMap IpcSeen.wroteBytes) (fates.map Prod.fst) s.fifo ∧
      seen.filterMap IpcSeen.gotBytes = (fates.filter Prod.snd).map Prod.fst

variable {H}

namespace RawBooks

variable {seen : List IpcSeen} {s : Ipc} {t : ℕ}

/-- The threads after a step of one. -/
lemma raw_goto (h : ∀ u, (s.stage u).Raw H) {p : IpcStage} (hp : p.Raw H) (u : ℕ) :
    ((s.goto t p).stage u).Raw H := by
  by_cases hu : u = t
  · rw [hu, Ipc.stage_goto_self]
    exact hp
  · rw [Ipc.stage_goto_ne hu]
    exact h u

/-- Nothing happens. -/
lemma stay (h : RawBooks H seen s) : RawBooks H (seen ++ [.nothing]) s := by
  obtain ⟨hraw, fates, hmessages, hreceived⟩ := h
  refine ⟨hraw, fates, ?_, ?_⟩ <;>
    rwa [List.filterMap_append, List.filterMap_cons_none rfl, List.filterMap_nil, List.append_nil]

/-- A step that shows nothing and leaves the FIFO's contents. -/
lemma quiet (h : RawBooks H seen s) {initialized : Bool} {owner : Option ℕ} {f : Fifo FifoHolder}
    {p : IpcStage} (hp : p.Raw H) (hqueue : f.queue = s.fifo.queue) :
    RawBooks H (seen ++ [.nothing])
      ({ s with initialized := initialized, owner := owner, fifo := f }.goto t p) := by
  obtain ⟨hraw, fates, ⟨hsizes, queued, hwritten, hq⟩, hreceived⟩ := h.stay
  exact ⟨raw_goto hraw hp, fates, ⟨hsizes, queued, hwritten, hqueue.trans hq⟩, hreceived⟩

/-- An end is closed. -/
lemma close (h : RawBooks H seen s) {f : Fifo FifoHolder} {p : IpcStage} (hp : p.Raw H)
    (hf : f.queue = s.fifo.queue) :
    RawBooks H (seen ++ [.dropped f.lost]) ({ s with fifo := f.settle }.goto t p) := by
  obtain ⟨hraw, fates, ⟨hsizes, queued, hwritten, hq⟩, hreceived⟩ := h
  have hmessages : Messages (ipcMessageSize H) (seen.filterMap IpcSeen.wroteBytes)
      (fates.map Prod.fst) f := ⟨hsizes, queued, hwritten, hf.trans hq⟩
  obtain ⟨dropped, -, hsettled⟩ := hmessages.settle
  refine ⟨raw_goto (s := { s with fifo := _ }) hraw hp, fates ++ dropped.map fun m => (m, false),
    ?_, ?_⟩
  · rw [List.filterMap_append, List.filterMap_cons_none rfl, List.filterMap_nil, List.append_nil,
      List.map_append, List.map_map,
      show Prod.fst ∘ (fun m : List UInt8 => (m, false)) = id from rfl, List.map_id]
    exact hsettled
  · rw [List.filterMap_append, List.filterMap_cons_none rfl, List.filterMap_nil, List.append_nil,
      hreceived, List.filter_append]
    simp [List.filter_map, Function.comp_def]

/-- A message is written. -/
lemma write (h : RawBooks H seen s) {msg : List UInt8} {space n : ℕ} {p : IpcStage} (hp : p.Raw H)
    (hsize : msg.length = ipcMessageSize H) (hk : ipcMessageSize H ≤ pipeBuf)
    (htaken : s.fifo.taken msg space = some n) :
    RawBooks H (seen ++ [.wrote t (msg.take n)])
      ({ s with fifo := s.fifo.put msg n }.goto t p) := by
  obtain ⟨hraw, fates, hmessages, hreceived⟩ := h
  have hwrote : [IpcSeen.wrote t (msg.take n)].filterMap IpcSeen.wroteBytes = [msg.take n] := rfl
  refine ⟨raw_goto (s := { s with fifo := _ }) hraw hp, fates, ?_, ?_⟩
  · rw [List.filterMap_append, hwrote]
    exact hmessages.put hsize hk htaken
  · rw [List.filterMap_append, List.filterMap_cons_none rfl, List.filterMap_nil, List.append_nil]
    exact hreceived

/-- A message is read. -/
lemma read (h : RawBooks H seen s) {found : List UInt8} {p : IpcStage} (hp : p.Raw H)
    (hfound : s.fifo.found (ipcMessageSize H) = some found) (hne : found ≠ []) :
    RawBooks H (seen ++ [.got t found])
      ({ s with fifo := s.fifo.get (ipcMessageSize H) }.goto t p) := by
  obtain ⟨hraw, fates, hmessages, hreceived⟩ := h
  obtain ⟨-, hrest⟩ := hmessages.get hfound hne
  have hgot : [IpcSeen.got t found].filterMap IpcSeen.gotBytes = [found] := rfl
  refine ⟨raw_goto (s := { s with fifo := _ }) hraw hp, fates ++ [(found, true)], ?_, ?_⟩
  · rw [List.filterMap_append, List.filterMap_cons_none rfl, List.filterMap_nil, List.append_nil,
      List.map_append]
    exact hrest
  · rw [List.filterMap_append, hgot, hreceived, List.filter_append, List.map_append]
    rfl

/-- **A step of a thread** goes on with the books. -/
lemma threadStep (h : RawBooks H seen s) (hk : ipcMessageSize H ≤ pipeBuf) (t space : ℕ) :
    RawBooks H (seen ++ [(s.threadStep H t space).2]) (s.threadStep H t space).1 := by
  have hraw := h.raw t
  unfold Ipc.threadStep
  cases hstage : s.stage t with
  | idle => exact h.stay
  | locking raw msg =>
      rw [hstage] at hraw
      simp only
      split_ifs
      · exact h.quiet (p := .openingWrite raw msg) hraw rfl
      · exact h.stay
  | openingWrite raw msg =>
      rw [hstage] at hraw
      simp only
      split
      · rename_i f hopen
        unfold Fifo.openWrite at hopen
        split_ifs at hopen
        obtain rfl := Option.some.inj hopen
        exact h.quiet (p := .writing raw msg) hraw rfl
      · exact h.quiet (p := .unlocking (some (-1))) trivial rfl
  | writing raw msg =>
      rw [hstage] at hraw
      simp only
      split
      · rename_i n htaken
        exact h.write (p := .closingWrite _) trivial hraw.2 hk htaken
      · exact h.quiet (p := .closingWrite (-1)) trivial rfl
  | closingWrite result => exact h.close (p := .unlocking (some result)) trivial rfl
  | unlocking result => exact h.quiet (p := .returning result) trivial rfl
  | openingRead raw =>
      rw [hstage] at hraw
      simp only
      split
      · rename_i f hopen
        unfold Fifo.openRead at hopen
        split_ifs at hopen
        obtain rfl := Option.some.inj hopen
        exact h.quiet (p := .reading raw) hraw rfl
      · exact h.quiet (p := .returning (some (-1))) trivial rfl
  | reading raw =>
      rw [hstage] at hraw
      obtain rfl : raw = true := hraw
      simp only
      split
      · rename_i b bs hfound
        exact h.read (p := .closingRead _) trivial hfound (List.cons_ne_nil b bs)
      · exact h.quiet (p := .closingRead (-1)) trivial rfl
  | closingRead result => exact h.close (p := .returning (some result)) trivial rfl
  | lockingCleanup =>
      simp only
      split_ifs
      · exact h.quiet (p := .unlinking) trivial rfl
      · exact h.stay
  | unlinking => exact h.quiet (p := .resetting) trivial rfl
  | resetting => exact h.quiet (p := .unlocking none) trivial rfl
  | returning result =>
      -- what a call returns is nothing to the books
      obtain ⟨hraw', fates, hmessages, hreceived⟩ := h.quiet (t := t) (p := .idle) trivial rfl
      rw [List.filterMap_append] at hmessages hreceived
      refine ⟨hraw', fates, ?_, ?_⟩ <;> rw [List.filterMap_append]
      · exact hmessages
      · exact hreceived

/-- A call goes on with them. -/
lemma begin (h : RawBooks H seen s) {c : IpcCall} (hc : c.stage.Raw H) (null : Bool) :
    RawBooks H (seen ++ [.nothing]) (s.begin t c null) := by
  unfold Ipc.begin
  split_ifs
  · exact h.quiet (p := .returning (some (-1))) trivial rfl
  · exact h.quiet (p := c.stage) hc rfl

/-- So does every event. -/
lemma step (h : RawBooks H seen s) (hk : ipcMessageSize H ≤ pipeBuf) (e : RawEvent H) :
    RawBooks H (seen ++ [((rawCalls H).step s e).2]) ((rawCalls H).step s e).1 := by
  have hcall (t : ℕ) {c : IpcCall} (hc : c.stage.Raw H) (null : Bool) :
      RawBooks H (seen ++ [.nothing]) (if s.stage t = .idle then s.begin t c null else s) := by
    split_ifs
    · exact h.begin hc null
    · exact h.stay
  cases e with
  | send t msg null => exact hcall t (c := .sendRawMessage msg.bytes) ⟨rfl, msg.length_eq⟩ null
  | receive t null => exact hcall t (c := .receiveRawMessage) rfl null
  | cleanup t => exact hcall t (c := .cleanup) trivial false
  | step t space => exact h.threadStep hk t space

end RawBooks

/-- **Raw messages arrive whole, in order and once.** Let a raw message be no longer than
`PIPE_BUF`. Whatever threads send and receive raw messages at the same time, no other process having
the FIFO open: the messages received are among those written, in their order and none of them twice,
and each is whole; a message that is written and not received is still in the FIFO, or it was there
when the last end was closed. -/
theorem raw_messages (hk : ipcMessageSize H ≤ pipeBuf) (events : List (RawEvent H)) :
    let r := (rawCalls H).run .initial events
    let written := r.2.filterMap IpcSeen.wroteBytes
    let received := r.2.filterMap IpcSeen.gotBytes
    received.Sublist written ∧ (∀ m ∈ received, m.length = ipcMessageSize H) ∧
      ∃ (fates : List (List UInt8 × Bool)) (queued : List (List UInt8)),
        written = fates.map Prod.fst ++ queued ∧
          received = (fates.filter Prod.snd).map Prod.fst ∧ r.1.fifo.queue = queued.flatten := by
  intro r written received
  have hinitial : RawBooks H [] Ipc.initial := by
    refine ⟨fun _ => trivial, [], ⟨by simp, [], rfl, rfl⟩, rfl⟩
  obtain ⟨-, fates, ⟨hsizes, queued, hwritten, hqueue⟩, hreceived⟩ :=
    (rawCalls H).run_outputs_invariant (J := RawBooks H) (fun _ _ e h => h.step hk e) hinitial
      events
  have hsub : received.Sublist written := by
    have hfates : ((fates.filter Prod.snd).map Prod.fst).Sublist (fates.map Prod.fst) :=
      List.filter_sublist.map Prod.fst
    rw [show received = _ from hreceived, show written = _ from hwritten]
    exact hfates.trans (List.sublist_append_left _ _)
  exact ⟨hsub, fun m hm => hsizes m (hsub.subset hm), fates, queued, hwritten, hreceived, hqueue⟩

/-- A message of zeros crosses. -/
theorem raw_messages_zeros :
    let msg : RawMessage .plain := ⟨List.replicate _ 0, List.length_replicate⟩
    let r := (rawCalls .plain).run .initial [.receive 0 false, .step 0 0, .send 1 msg false,
      .step 1 0, .step 1 0, .step 1 65536, .step 0 0]
    let written := r.2.filterMap IpcSeen.wroteBytes
    let received := r.2.filterMap IpcSeen.gotBytes
    received.Sublist written ∧ (∀ m ∈ received, m.length = ipcMessageSize .plain) ∧
      ∃ (fates : List (List UInt8 × Bool)) (queued : List (List UInt8)),
        written = fates.map Prod.fst ++ queued ∧
          received = (fates.filter Prod.snd).map Prod.fst ∧ r.1.fifo.queue = queued.flatten :=
  raw_messages (by decide) _

/-! ## Calls one after another -/

/-- A thread that has not been answered: it does not write, and its call will not return 0. -/
def IpcStage.Fails : IpcStage → Prop
  | .writing _ _ | .closingWrite _ => False
  | .closingRead result => result ≠ 0
  | .unlocking result | .returning result => result ≠ some 0
  | _ => True

/-- No other process holds an end of the FIFO. -/
def Ipc.Peerless (s : Ipc) : Prop := ∀ p, .peer p ∉ s.fifo.readers ∧ .peer p ∉ s.fifo.writers

/-- One thread is in a call at most; it has not been answered, and the FIFO is empty. -/
structure Ipc.Apart (s : Ipc) : Prop where
  ends : s.Ends
  alone : ∃ t, ∀ u, u ≠ t → s.stage u = .idle
  fails : ∀ u, (s.stage u).Fails
  empty : s.fifo.queue = []

/-- A step that gets nothing across. -/
def IpcSeen.Fruitless (e : IpcSeen) : Prop :=
  e.wroteBytes = none ∧ e.gotBytes = none ∧ ∀ t, e ≠ .returned t (some 0)

namespace Ipc

variable {s : Ipc} {t : ℕ}

/-- The one thread goes on. -/
lemma Apart.goto (h : s.Apart) (hidle : ∀ u, u ≠ t → s.stage u = .idle) {p : IpcStage}
    (hp : p.Fails) {initialized : Bool} {owner : Option ℕ} {f : Fifo FifoHolder}
    (hends : ({ s with initialized := initialized, owner := owner, fifo := f }.goto t p).Ends)
    (hempty : f.queue = []) :
    ({ s with initialized := initialized, owner := owner, fifo := f }.goto t p).Apart := by
  refine ⟨hends, ⟨t, fun u hu => ?_⟩, fun u => ?_, hempty⟩
  · rw [stage_goto_ne hu]
    exact hidle u hu
  · by_cases hu : u = t
    · rw [hu, stage_goto_self]
      exact hp
    · rw [stage_goto_ne hu]
      exact h.fails u

/-- What keeps bytes from crossing: while the one thread opens the FIFO to write, nobody reads. -/
lemma Apart.openWrite (h : s.Apart) (hpeerless : s.Peerless)
    (hidle : ∀ u, u ≠ t → s.stage u = .idle) (hreads : (s.stage t).reads = false) :
    s.fifo.openWrite (.thread t) = none := by
  have hreaders : s.fifo.readers = ∅ := by
    refine Finset.eq_empty_of_forall_notMem fun i hi => ?_
    cases i with
    | thread u =>
        have hu := (h.ends.mem_readers_iff u).mp hi
        by_cases hut : u = t
        · rw [hut, hreads] at hu
          cases hu
        · rw [hidle u hut] at hu
          cases hu
    | peer p => exact (hpeerless p).1 hi
  unfold Fifo.openWrite
  rw [if_neg (by simp [hreaders])]

/-- **A step of the one thread** gets nothing across. -/
lemma Apart.threadStep (h : s.Apart) (hpeerless : s.Peerless) (t space : ℕ) :
    (s.threadStep H t space).1.Apart ∧ (s.threadStep H t space).2.Fruitless := by
  have hends := h.ends.threadStep (H := H) t space
  have hfails := h.fails t
  have hnothing : IpcSeen.nothing.Fruitless := ⟨rfl, rfl, by simp⟩
  obtain ⟨v, hv⟩ := h.alone
  -- a thread that is not idle is the one
  have hothers : s.stage t ≠ .idle → ∀ u, u ≠ t → s.stage u = .idle := by
    intro hne u hu
    by_cases huv : u = v
    · exact absurd (hv t fun htv => hu (huv.trans htv.symm)) hne
    · exact hv u huv
  unfold Ipc.threadStep at hends ⊢
  cases hstage : s.stage t with
  | idle => exact ⟨h, hnothing⟩
  | locking raw msg =>
      rw [hstage] at hends hothers
      simp only at hends ⊢
      split_ifs at hends ⊢
      · exact ⟨h.goto (p := .openingWrite raw msg) (hothers (by simp)) trivial hends h.empty,
          hnothing⟩
      · exact ⟨h, hnothing⟩
  | openingWrite raw msg =>
      rw [hstage] at hends hothers
      have hopen := h.openWrite hpeerless (hothers (by simp)) (t := t) (by rw [hstage]; rfl)
      simp only [hopen] at hends ⊢
      exact ⟨h.goto (p := .unlocking (some (-1))) (hothers (by simp)) (by simp [IpcStage.Fails])
        hends h.empty, hnothing⟩
  | writing raw msg =>
      rw [hstage] at hfails
      exact hfails.elim
  | closingWrite result =>
      rw [hstage] at hfails
      exact hfails.elim
  | unlocking result =>
      rw [hstage] at hends hothers hfails
      exact ⟨h.goto (p := .returning result) (hothers (by simp)) hfails hends h.empty, hnothing⟩
  | openingRead raw =>
      rw [hstage] at hends hothers
      simp only at hends ⊢
      cases hopen : s.fifo.openRead (.thread t) with
      | none =>
          rw [hopen] at hends
          exact ⟨h.goto (p := .returning (some (-1))) (hothers (by simp)) (by simp [IpcStage.Fails])
            hends h.empty, hnothing⟩
      | some f =>
          rw [hopen] at hends
          have hqueue : f.queue = [] := by
            unfold Fifo.openRead at hopen
            split_ifs at hopen
            rw [← Option.some.inj hopen]
            exact h.empty
          exact ⟨h.goto (p := .reading raw) (hothers (by simp)) trivial hends hqueue, hnothing⟩
  | reading raw =>
      rw [hstage] at hends hothers
      have hfound (b : UInt8) (bs : List UInt8) : s.fifo.found (count H raw) ≠ some (b :: bs) := by
        unfold Fifo.found
        rw [if_pos h.empty]
        split_ifs <;> simp
      simp only at hends ⊢
      exact ⟨h.goto (p := .closingRead (-1)) (hothers (by simp)) (by simp [IpcStage.Fails]) hends
        h.empty, hnothing⟩
  | closingRead result =>
      rw [hstage] at hends hothers hfails
      have hqueue : (s.fifo.dropReader (.thread t)).settle.queue = [] :=
        Fifo.queue_settle_of_nil _ h.empty
      have hne : some result ≠ some 0 := fun heq => hfails (Option.some.inj heq)
      exact ⟨h.goto (p := .returning (some result)) (hothers (by simp)) hne hends hqueue, rfl, rfl,
        by simp⟩
  | lockingCleanup =>
      rw [hstage] at hends hothers
      simp only at hends ⊢
      split_ifs at hends ⊢
      · exact ⟨h.goto (p := .unlinking) (hothers (by simp)) trivial hends h.empty, hnothing⟩
      · exact ⟨h, hnothing⟩
  | unlinking =>
      rw [hstage] at hends hothers
      exact ⟨h.goto (p := .resetting) (hothers (by simp)) trivial hends h.empty, hnothing⟩
  | resetting =>
      rw [hstage] at hends hothers
      exact ⟨h.goto (p := .unlocking none) (hothers (by simp)) (by simp [IpcStage.Fails])
        hends h.empty, hnothing⟩
  | returning result =>
      rw [hstage] at hends hothers hfails
      refine ⟨h.goto (p := .idle) (hothers (by simp)) trivial hends h.empty, rfl, rfl, ?_⟩
      intro u heq
      obtain ⟨-, rfl⟩ := IpcSeen.returned.inj heq
      exact hfails rfl

/-- A call that begins when no thread is in one. -/
lemma Apart.begin (h : s.Apart) (hidle : ∀ u, s.stage u = .idle) (t : ℕ) (c : IpcCall)
    (null : Bool) : (s.begin t c null).Apart := by
  have hends := h.ends.begin (hidle t) c null
  unfold Ipc.begin at hends ⊢
  split_ifs at hends ⊢
  · exact h.goto (p := .returning (some (-1))) (fun u _ => hidle u) (by simp [IpcStage.Fails])
      hends h.empty
  · refine h.goto (p := c.stage) (fun u _ => hidle u) ?_ hends h.empty
    cases c <;> trivial

/-- Without an end of its own another process changes nothing of this. -/
lemma Apart.peer (h : s.Apart) (hpeerless : s.Peerless) (p : ℕ) (act : PeerAct) :
    ({ s with fifo := peerFifo s.fifo p act } : Ipc).Apart := by
  refine ⟨h.ends.peer p act, h.alone, h.fails, ?_⟩
  cases act with
  | openRead =>
      simp only [peerFifo, Fifo.openRead]
      split_ifs <;> exact h.empty
  | openWrite =>
      simp only [peerFifo, Fifo.openWrite]
      split_ifs <;> exact h.empty
  | openBoth =>
      simp only [peerFifo, Fifo.openBoth]
      split_ifs <;> exact h.empty
  | closeRead => exact Fifo.queue_settle_of_nil _ h.empty
  | closeWrite => exact Fifo.queue_settle_of_nil _ h.empty
  | write bytes space =>
      simp only [peerFifo, if_neg (hpeerless p).2]
      exact h.empty
  | read count =>
      simp only [peerFifo, if_neg (hpeerless p).1]
      exact h.empty

/-- A thread's step leaves the other processes their ends. -/
lemma Peerless.threadStep (h : s.Peerless) (t space : ℕ) : (s.threadStep H t space).1.Peerless := by
  intro p
  obtain ⟨hreader, hwriter⟩ := h p
  unfold Ipc.threadStep
  cases s.stage t with
  | locking raw msg => simp only; split_ifs <;> exact ⟨hreader, hwriter⟩
  | openingWrite raw msg =>
      simp only [Fifo.openWrite]
      split_ifs
      · exact ⟨hreader, by simpa [goto] using hwriter⟩
      · exact ⟨hreader, hwriter⟩
  | writing raw msg => simp only; split <;> exact ⟨hreader, hwriter⟩
  | closingWrite result =>
      exact ⟨by simpa [goto, Fifo.dropWriter] using hreader,
        by simpa [goto, Fifo.dropWriter] using hwriter⟩
  | openingRead raw =>
      simp only [Fifo.openRead]
      split_ifs
      · exact ⟨by simpa [goto] using hreader, hwriter⟩
      · exact ⟨hreader, hwriter⟩
  | reading raw => simp only; split <;> exact ⟨hreader, hwriter⟩
  | closingRead result =>
      exact ⟨by simpa [goto, Fifo.dropReader] using hreader,
        by simpa [goto, Fifo.dropReader] using hwriter⟩
  | lockingCleanup => simp only; split_ifs <;> exact ⟨hreader, hwriter⟩
  | _ => exact ⟨hreader, hwriter⟩

/-- So do all steps of the daemon. -/
lemma Peerless.step (h : s.Peerless) {e : IpcEvent} (he : ∀ p act, e ≠ .peer p act) :
    ((ipcCalls H).step s e).1.Peerless := by
  cases e with
  | call t c null =>
      simp only [ipcCalls, begin]
      split_ifs <;> exact h
  | step t space => exact h.threadStep t space
  | peer p act => exact absurd rfl (he p act)

end Ipc

/-- **Calls one after another get nothing across.** If each call begins when no thread is in one,
and no other process ever holds an end of the FIFO, nothing is ever written to the FIFO or read from
it, and no function returns 0: a sender finds no reader, and a receiver finds nothing. -/
theorem apart_fails (events : List IpcEvent)
    (h : ∀ x ∈ (ipcCalls H).trace .initial events, x.1.Peerless ∧
      ∀ t c null, x.2 = .call t c null → ∀ u, x.1.stage u = .idle) :
    ∀ e ∈ ((ipcCalls H).run .initial events).2, e.Fruitless := by
  have hinitial : Ipc.initial.Apart :=
    ⟨Ipc.ends_initial, ⟨0, fun _ _ => rfl⟩, fun _ => trivial, rfl⟩
  refine (ipcCalls H).outputs_of_trace (I := Ipc.Apart) (C := fun s e => s.Peerless ∧
    ∀ t c null, e = .call t c null → ∀ u, s.stage u = .idle) ?_ hinitial h
  rintro s e hs ⟨hpeerless, halone⟩
  cases e with
  | call t c null =>
      have hidle := halone t c null rfl
      simp only [ipcCalls, if_pos (hidle t)]
      exact ⟨hs.begin hidle t c null, rfl, rfl, by simp⟩
  | step t space => exact hs.threadStep hpeerless t space
  | peer p act => exact ⟨hs.peer hpeerless p act, rfl, rfl, by simp [ipcCalls]⟩

/-- A command is sent, and when the call has returned a receiver is called. -/
def sentThenReceived : List IpcEvent :=
  [.call 0 (.sendCommand 1 (bytes "cpu") 0 [] []) false, .step 0 65536, .step 0 65536,
    .step 0 65536, .step 0 65536, .call 1 .receiveData false, .step 1 0, .step 1 0, .step 1 0,
    .step 1 0]

/-- Both calls return -1, and nothing has got across. -/
theorem apart_fails_sentThenReceived :
    .returned 0 (some (-1)) ∈ ((ipcCalls .plain).run .initial sentThenReceived).2 ∧
    .returned 1 (some (-1)) ∈ ((ipcCalls .plain).run .initial sentThenReceived).2 ∧
    ((ipcCalls .plain).run .initial sentThenReceived).2.Forall IpcSeen.Fruitless := by
  refine ⟨by decide, by decide, List.forall_iff_forall_mem.2 ?_⟩
  refine apart_fails sentThenReceived fun x hx => ⟨?_, ?_⟩
  · have hpeerless : Ipc.initial.Peerless := fun p => by simp [Ipc.initial, Fifo.made]
    refine (ipcCalls .plain).trace_of_trace (I := Ipc.Peerless)
      (C := fun _ e => ∀ p act, e ≠ .peer p act) (fun s e h he => h.step he) hpeerless ?_ x hx
    intro y hy
    have hmem := (ipcCalls .plain).mem_of_mem_trace hy
    revert hmem
    generalize y.2 = e
    simp only [sentThenReceived, List.mem_cons, List.not_mem_nil, or_false]
    rintro (rfl | rfl | rfl | rfl | rfl | rfl | rfl | rfl | rfl | rfl) <;> nofun
  · intro t c null hcall u
    simp only [sentThenReceived, Machine.trace, List.mem_cons, List.not_mem_nil, or_false] at hx
    rcases hx with rfl | rfl | rfl | rfl | rfl | rfl | rfl | rfl | rfl | rfl
    case inr.inr.inr.inr.inr.inl =>
      -- the sender is idle again
      by_cases hu : u = 0
      · rw [hu]
        decide
      · have hu' : 0 ≠ u := fun heq => hu heq.symm
        simp only [ipcCalls, Ipc.stage_threadStep_ne hu']
        exact Ipc.stage_goto_ne hu _
    all_goals first | rfl | cases hcall

end ProcessMonitor.Integration
