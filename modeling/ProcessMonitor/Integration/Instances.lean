import ProcessMonitor.Lib.Decimal
import ProcessMonitor.Lib.Machine

/-!
# Several daemon processes

`main` of `src/04-integration/main_daemon.c` from `ipc_init` to its return, for any number of
processes on one machine, each with the port and the PID file of its configuration. They share the
ports, the files, and one FIFO, since its path is a constant of `ipc_handler.c`. A process can be
killed at any time.

A port is a number of 16 bits, and `htons` cuts `daemon_port` to it. Who asks for the port 0, as a
daemon does whose configuration file leaves `daemon_port` out, is given one by the system.

* `listening_unique`: no two processes listen on one port, and one that asks for a port has it.
* `pidFiles_iff`: in which runs the PID file of every daemon that listens has its number, and
  `pidFiles_one_port_iff`: if all ask for one port, it is lost to a predecessor only, which frees
  the port before it removes the file.
* `fifo_there_iff`: in which runs the FIFO is there for every process that has made it. A second
  process takes it away from the first, even if it then fails because the port is taken.
-/

namespace ProcessMonitor.Integration

open CString Decimal

/-! ## Processes -/

/-- Where `main` is: before which call. -/
inductive Stage
  /-- `unlink` in `ipc_init` -/
  | unlinkFifo
  /-- `mkfifo` -/
  | makeFifo
  /-- `initialize_server_socket` -/
  | listen
  /-- `create_pid_file` -/
  | writePidFile
  /-- `pthread_create` -/
  | startThread
  /-- The loop `while (g_daemon_state.running)`. -/
  | loop
  /-- `close` in `cleanup_on_exit` -/
  | closeSocket
  /-- `unlink` in `ipc_cleanup` -/
  | removeFifo
  /-- `remove_pid_file` -/
  | removePidFile
deriving DecidableEq, Repr

namespace Stage

/-- Between `initialize_server_socket` and `close`. -/
def listening : Stage → Bool
  | .writePidFile | .startThread | .loop | .closeSocket => true
  | _ => false

/-- The same, with the PID file written. -/
def serving : Stage → Bool
  | .startThread | .loop | .closeSocket => true
  | _ => false

/-- Between `ipc_init` and `ipc_cleanup`. -/
def usesFifo : Stage → Bool
  | .listen | .writePidFile | .startThread | .loop | .closeSocket | .removeFifo => true
  | _ => false

/-- The call behind one that does not end the process. -/
def next (ok : Bool) : Stage → Stage
  | .unlinkFifo => .makeFifo
  | .makeFifo => .listen
  | .listen => .writePidFile
  | .writePidFile => .startThread
  | .startThread => .loop
  | .loop => if ok then .loop else .closeSocket
  | .closeSocket => .removeFifo
  | .removeFifo => .removePidFile
  | .removePidFile => .removePidFile

lemma listening_of_serving {stage : Stage} (h : stage.serving = true) : stage.listening = true := by
  cases stage <;> first | rfl | cases h

end Stage

/-- A process, with `daemon_port` and `pid_file` of its configuration, and the port that `bind` has
given it. -/
structure Instance where
  stage : Stage
  port : ℤ
  pidFile : List UInt8
  bound : ℕ
deriving DecidableEq, Repr

/-- The port that a process with this `daemon_port` asks for: `htons` takes the last 16 bits. -/
def portAsked (port : ℤ) : ℕ := (port % 65536).toNat

/-- The port that it is to have, where `free` is the one that the system would pick. -/
def Instance.wanted (i : Instance) (free : ℕ) : ℕ :=
  if portAsked i.port = 0 then free else portAsked i.port

/-- The processes by their numbers, the process that each port is bound to, whether the FIFO is
there, and the contents of the PID files by their paths. -/
structure Site where
  procs : ℕ → Option Instance
  bound : ℕ → Option ℕ
  fifo : Bool
  pidFiles : List UInt8 → Option (List UInt8)

/-- What happens next. -/
inductive SiteEvent
  /-- A process gets as far as `ipc_init`, under a number that is free. -/
  | start (p : ℕ) (port : ℤ) (pidFile : List UInt8)
  /-- A process makes its next call; `ok` is whether it succeeds, as far as the system is free in
  that, whether the loop goes on, and at `close`, whether no thread is in `accept`; `free` is the
  port that the system gives to one that asks for none. -/
  | step (p : ℕ) (ok : Bool) (free : ℕ)
  /-- The `accept` returns in which a thread was at `close`. -/
  | release (p : ℕ)
  | kill (p : ℕ)
deriving DecidableEq, Repr

/-- The process that an event is about. -/
def SiteEvent.pid : SiteEvent → ℕ
  | .start p _ _ | .step p _ _ | .release p | .kill p => p

/-- What `create_pid_file` writes. -/
def pidText (p : ℕ) : List UInt8 := natText p ++ bytes "\n"

namespace Site

/-- Without processes and files. -/
def empty : Site := ⟨fun _ => none, fun _ => none, false, fun _ => none⟩

variable (s : Site) (p : ℕ) (i : Instance)

/-- The process is before the call `stage`. -/
def goTo (stage : Stage) : Site :=
  { s with procs := Function.update s.procs p (some { i with stage := stage }) }

/-- The port is no longer bound to the process. -/
def freed : Site :=
  { s with
    bound := if s.bound i.bound = some p then Function.update s.bound i.bound none else s.bound }

/-- The process ends, and the system closes its descriptors. -/
def exits : Site := { s.freed p i with procs := Function.update s.procs p none }

/-- The next call of `main`, with what it returns if that ends it. A port can be bound once; that
`unlink` or `fopen` fails makes no difference to what is called next.
Source: `main_daemon.c`, `main`, `initialize_server_socket`, `create_pid_file`, `remove_pid_file`,
`cleanup_on_exit`; `ipc_handler.c`, `ipc_init`, `ipc_cleanup` -/
def call (ok : Bool) (free : ℕ) : Site × Option ℤ :=
  match i.stage with
  | .unlinkFifo => (({ s with fifo := !ok && s.fifo } : Site).goTo p i .makeFifo, none)
  | .makeFifo =>
      if s.fifo then (s.goTo p i .listen, none)
      else if ok then (({ s with fifo := true } : Site).goTo p i .listen, none)
      else (s.exits p i, some 1)
  | .listen =>
      if ok && (s.bound (i.wanted free)).isNone then
        let bound := Function.update s.bound (i.wanted free) (some p)
        (({ s with bound := bound } : Site).goTo p { i with bound := i.wanted free } .writePidFile,
          none)
      else (s.exits p i, some 1)
  | .writePidFile =>
      let files :=
        if ok then Function.update s.pidFiles i.pidFile (some (pidText p)) else s.pidFiles
      (({ s with pidFiles := files } : Site).goTo p i .startThread, none)
  | .startThread => if ok then (s.goTo p i .loop, none) else (s.exits p i, some 1)
  | .loop => (s.goTo p i (if ok then .loop else .closeSocket), none)
  | .closeSocket => ((if ok then s.freed p i else s).goTo p i .removeFifo, none)
  | .removeFifo => (({ s with fifo := !ok && s.fifo } : Site).goTo p i .removePidFile, none)
  | .removePidFile =>
      let files := if ok then Function.update s.pidFiles i.pidFile none else s.pidFiles
      (({ s with pidFiles := files } : Site).exits p i, some 0)

/-- One event, with what `main` returns if it does. -/
def step (s : Site) : SiteEvent → Site × Option ℤ
  | .start p port pidFile =>
      match s.procs p with
      | some _ => (s, none)
      | none => (s.goTo p ⟨.unlinkFifo, port, pidFile, 0⟩ .unlinkFifo, none)
  | .step p ok free =>
      match s.procs p with
      | some i => s.call p i ok free
      | none => (s, none)
  | .release p =>
      match s.procs p with
      | some i => (if i.stage.listening then s else s.freed p i, none)
      | none => (s, none)
  | .kill p =>
      match s.procs p with
      | some i => (s.exits p i, none)
      | none => (s, none)

end Site

/-- The processes as a machine. -/
def site : Machine Site SiteEvent (Option ℤ) := ⟨Site.step⟩

/-! ## What an event changes -/

namespace Site

section frame

variable (s : Site)

@[simp] lemma procs_goTo (p : ℕ) (i : Instance) (stage : Stage) :
    (s.goTo p i stage).procs = Function.update s.procs p (some { i with stage := stage }) := rfl
@[simp] lemma bound_goTo (p : ℕ) (i : Instance) (stage : Stage) :
    (s.goTo p i stage).bound = s.bound := rfl
@[simp] lemma fifo_goTo (p : ℕ) (i : Instance) (stage : Stage) :
    (s.goTo p i stage).fifo = s.fifo := rfl
@[simp] lemma pidFiles_goTo (p : ℕ) (i : Instance) (stage : Stage) :
    (s.goTo p i stage).pidFiles = s.pidFiles := rfl
@[simp] lemma procs_exits (p : ℕ) (i : Instance) :
    (s.exits p i).procs = Function.update s.procs p none := rfl
@[simp] lemma bound_exits (p : ℕ) (i : Instance) : (s.exits p i).bound = (s.freed p i).bound := rfl
@[simp] lemma fifo_exits (p : ℕ) (i : Instance) : (s.exits p i).fifo = s.fifo := rfl
@[simp] lemma pidFiles_exits (p : ℕ) (i : Instance) : (s.exits p i).pidFiles = s.pidFiles := rfl
@[simp] lemma procs_freed (p : ℕ) (i : Instance) : (s.freed p i).procs = s.procs := rfl
@[simp] lemma fifo_freed (p : ℕ) (i : Instance) : (s.freed p i).fifo = s.fifo := rfl
@[simp] lemma pidFiles_freed (p : ℕ) (i : Instance) : (s.freed p i).pidFiles = s.pidFiles := rfl

/-- A process frees its own port only. -/
lemma bound_freed_of {p q port : ℕ} (i : Instance) (hne : q ≠ p)
    (h : s.bound port = some q) : (s.freed p i).bound port = some q := by
  unfold freed
  by_cases hbound : s.bound i.bound = some p
  · have hport : port ≠ i.bound := by
      rintro rfl
      exact hne (Option.some.inj (h.symm.trans hbound))
    simp only [if_pos hbound, Function.update_of_ne hport, h]
  · simp only [if_neg hbound, h]

variable {s}

/-- An event concerns one process. -/
lemma procs_step_ne {e : SiteEvent} {q : ℕ} (hne : q ≠ e.pid) :
    (s.step e).1.procs q = s.procs q := by
  cases e with
  | start p port pidFile =>
      simp only [step]
      cases s.procs p with
      | some i => rfl
      | none => simp [Function.update_of_ne (show q ≠ p from hne)]
  | step p ok free =>
      simp only [step]
      cases s.procs p with
      | none => rfl
      | some i =>
          simp only [call]
          split <;> (try split_ifs) <;> simp [Function.update_of_ne (show q ≠ p from hne)]
  | release p =>
      simp only [step]
      cases s.procs p with
      | none => rfl
      | some i => dsimp only; split_ifs <;> rfl
  | kill p =>
      simp only [step]
      cases s.procs p with
      | none => rfl
      | some i => simp [Function.update_of_ne (show q ≠ p from hne)]

/-- A port stays bound to a process through the events of the others. -/
lemma bound_step_ne {e : SiteEvent} {q port : ℕ} (hne : q ≠ e.pid)
    (h : s.bound port = some q) : (s.step e).1.bound port = some q := by
  cases e with
  | start p port' pidFile =>
      simp only [step]
      cases s.procs p <;> exact h
  | step p ok free =>
      simp only [step]
      cases s.procs p with
      | none => exact h
      | some i =>
          have hfreed := s.bound_freed_of i (show q ≠ p from hne) h
          simp only [call]
          split <;> (try split_ifs with hok) <;> try first | exact h | exact hfreed
          -- the port that is bound now was not bound to `q`
          have hport : port ≠ i.wanted free := by
            rintro rfl
            rw [h] at hok
            simp at hok
          simp [Function.update_of_ne hport, h]
  | release p =>
      simp only [step]
      cases s.procs p with
      | none => exact h
      | some i =>
          dsimp only
          split_ifs
          · exact h
          · exact s.bound_freed_of i (show q ≠ p from hne) h
  | kill p =>
      simp only [step]
      cases s.procs p with
      | none => exact h
      | some i => exact s.bound_freed_of i (show q ≠ p from hne) h

/-- How a process goes on: not at all, as a new one, or by a call that does not end it. -/
lemma procs_step_self {e : SiteEvent} {j : Instance} (h : (s.step e).1.procs e.pid = some j) :
    (s.procs e.pid = some j ∧ ∀ ok free, e ≠ .step e.pid ok free) ∨
      (∃ port file, e = .start e.pid port file ∧ j = ⟨.unlinkFifo, port, file, 0⟩) ∨
      ∃ ok free i, e = .step e.pid ok free ∧ s.procs e.pid = some i ∧
        j = { i with stage := j.stage, bound := j.bound } ∧
        (s.call e.pid i ok free).1.procs e.pid = some j := by
  cases e with
  | start p port pidFile =>
      simp only [step, SiteEvent.pid] at h ⊢
      cases hp : s.procs p with
      | some i =>
          simp only [hp] at h
          exact Or.inl ⟨h, nofun⟩
      | none =>
          simp only [hp, procs_goTo, Function.update_self, Option.some.injEq] at h
          exact Or.inr (Or.inl ⟨port, pidFile, rfl, h.symm⟩)
  | step p ok free =>
      simp only [step, SiteEvent.pid] at h ⊢
      cases hp : s.procs p with
      | none =>
          simp only [hp] at h
          cases h
      | some i =>
          simp only [hp] at h
          refine Or.inr (Or.inr ⟨ok, free, i, rfl, rfl, ?_, h⟩)
          simp only [call] at h
          split at h <;> (try split_ifs at h) <;> simp at h <;> rw [← h]
  | release p =>
      simp only [step, SiteEvent.pid] at h ⊢
      cases hp : s.procs p with
      | none =>
          simp only [hp] at h
          cases h
      | some i =>
          simp only [hp] at h
          split_ifs at h <;> exact Or.inl ⟨hp ▸ h, nofun⟩
  | kill p =>
      simp only [step, SiteEvent.pid] at h ⊢
      cases hp : s.procs p with
      | none =>
          simp only [hp] at h
          cases h
      | some i => simp [hp] at h

/-- A call that does not end the process leads to the next one. -/
lemma stage_call {s : Site} {p : ℕ} {i j : Instance} {ok : Bool} {free : ℕ}
    (h : (s.call p i ok free).1.procs p = some j) : j.stage = i.stage.next ok := by
  unfold call at h
  cases hstage : i.stage <;> simp only [hstage] at h <;> (try split_ifs at h) <;> simp at h <;>
    simp_all [Stage.next, ← h]

/-- What a call does to the PID files. -/
lemma pidFiles_call (s : Site) (p : ℕ) (i : Instance) (ok : Bool) (free : ℕ) :
    (s.call p i ok free).1.pidFiles =
      match i.stage, ok with
      | .writePidFile, true => Function.update s.pidFiles i.pidFile (some (pidText p))
      | .removePidFile, true => Function.update s.pidFiles i.pidFile none
      | _, _ => s.pidFiles := by
  unfold call
  cases i.stage <;> cases ok <;> simp <;> split_ifs <;> rfl

/-- What a call does to the FIFO. -/
lemma fifo_call (s : Site) (p : ℕ) (i : Instance) (ok : Bool) (free : ℕ) :
    (s.call p i ok free).1.fifo =
      match i.stage with
      | .unlinkFifo | .removeFifo => !ok && s.fifo
      | .makeFifo => s.fifo || ok
      | _ => s.fifo := by
  unfold call
  cases i.stage <;> cases ok <;> simp <;> split_ifs <;> simp_all

/-- What an event does to the PID files. -/
lemma pidFiles_step (s : Site) (e : SiteEvent) :
    (s.step e).1.pidFiles = s.pidFiles ∨ ∃ p i free, e = .step p true free ∧ s.procs p = some i ∧
      ((i.stage = .writePidFile ∧ (s.step e).1.pidFiles =
          Function.update s.pidFiles i.pidFile (some (pidText p))) ∨
        (i.stage = .removePidFile ∧ (s.step e).1.pidFiles =
          Function.update s.pidFiles i.pidFile none)) := by
  cases e with
  | start p port pidFile =>
      simp only [step]
      cases s.procs p <;> exact Or.inl rfl
  | step p ok free =>
      simp only [step]
      cases hp : s.procs p with
      | none => exact Or.inl rfl
      | some i =>
          have hcall := s.pidFiles_call p i ok free
          split at hcall
          · rename_i hstage
            exact Or.inr ⟨p, i, free, rfl, hp, Or.inl ⟨hstage, hcall⟩⟩
          · rename_i hstage
            exact Or.inr ⟨p, i, free, rfl, hp, Or.inr ⟨hstage, hcall⟩⟩
          · exact Or.inl hcall
  | release p =>
      simp only [step]
      cases s.procs p with
      | none => exact Or.inl rfl
      | some i =>
          refine Or.inl ?_
          dsimp only
          split_ifs <;> rfl
  | kill p =>
      simp only [step]
      cases s.procs p <;> exact Or.inl rfl

/-- What an event does to the FIFO. -/
lemma fifo_step (s : Site) (e : SiteEvent) :
    (s.step e).1.fifo = s.fifo ∨ (s.step e).1.fifo = true ∨
      ∃ p i free, e = .step p true free ∧ s.procs p = some i ∧
        (i.stage = .unlinkFifo ∨ i.stage = .removeFifo) ∧ (s.step e).1.fifo = false := by
  cases e with
  | start p port pidFile =>
      simp only [step]
      cases s.procs p <;> exact Or.inl rfl
  | step p ok free =>
      simp only [step]
      cases hp : s.procs p with
      | none => exact Or.inl rfl
      | some i =>
          have hcall := s.fifo_call p i ok free
          split at hcall
          · rename_i hstage
            cases ok with
            | true => exact Or.inr (Or.inr ⟨p, i, free, rfl, hp, Or.inl hstage, hcall⟩)
            | false => exact Or.inl hcall
          · rename_i hstage
            cases ok with
            | true => exact Or.inr (Or.inr ⟨p, i, free, rfl, hp, Or.inr hstage, hcall⟩)
            | false => exact Or.inl hcall
          · cases hfifo : s.fifo with
            | true => exact Or.inl (hcall.trans (by rw [hfifo]; rfl))
            | false =>
                cases ok with
                | true => exact Or.inr (Or.inl (hcall.trans (by rw [hfifo]; rfl)))
                | false => exact Or.inl (hcall.trans (by rw [hfifo]; rfl))
          · exact Or.inl hcall
  | release p =>
      simp only [step]
      cases s.procs p with
      | none => exact Or.inl rfl
      | some i =>
          refine Or.inl ?_
          dsimp only
          split_ifs <;> rfl
  | kill p =>
      simp only [step]
      cases s.procs p <;> exact Or.inl rfl

end frame

end Site

/-! ## Ports -/

/-- The port of each process that listens is bound to it, and is the one that it has asked for, if
it has asked for one. -/
def PortsHeld (s : Site) : Prop :=
  ∀ p i, s.procs p = some i → i.stage.listening = true →
    s.bound i.bound = some p ∧ (portAsked i.port ≠ 0 → i.bound = portAsked i.port)

/-- No two processes listen on one port, and one that asks for a port listens on it. -/
def PortsExclusive (s : Site) : Prop :=
  (∀ p q i j, s.procs p = some i → s.procs q = some j → i.stage.listening = true →
    j.stage.listening = true → i.bound = j.bound → p = q) ∧
  ∀ p i, s.procs p = some i → i.stage.listening = true → portAsked i.port ≠ 0 →
    i.bound = portAsked i.port

lemma PortsHeld.exclusive {s : Site} (h : PortsHeld s) : PortsExclusive s := by
  refine ⟨fun p q i j hp hq hi hj hport => ?_, fun p i hp hi => (h p i hp hi).2⟩
  have hbound := (h p i hp hi).1
  rw [hport, (h q j hq hj).1] at hbound
  exact (Option.some.inj hbound).symm

/-- A call behind which the process listens is the one of `initialize_server_socket`, or leaves the
port as it was. -/
lemma bound_call {s : Site} {p : ℕ} {i j : Instance} {ok : Bool} {free : ℕ}
    (h : (s.call p i ok free).1.procs p = some j) (hj : j.stage.listening = true) :
    (j.bound = i.wanted free ∧ (s.call p i ok free).1.bound j.bound = some p) ∨
      (i.stage.listening = true ∧ j.bound = i.bound ∧
        (s.call p i ok free).1.bound = s.bound) := by
  unfold Site.call at h ⊢
  cases hstage : i.stage <;> simp only [hstage] at h ⊢
  case listen =>
    split_ifs at h ⊢
    · simp only [Site.procs_goTo, Function.update_self, Option.some.injEq] at h
      rw [← h]
      exact Or.inl ⟨rfl, Function.update_self ..⟩
    · simp at h
  case startThread =>
    split_ifs at h ⊢
    · simp only [Site.procs_goTo, Function.update_self, Option.some.injEq] at h
      exact Or.inr ⟨rfl, by rw [← h], rfl⟩
    · simp at h
  case writePidFile =>
    simp only [Site.procs_goTo, Function.update_self, Option.some.injEq] at h
    exact Or.inr ⟨rfl, by rw [← h], rfl⟩
  case loop =>
    simp only [Site.procs_goTo, Function.update_self, Option.some.injEq] at h
    exact Or.inr ⟨rfl, by rw [← h], rfl⟩
  case makeFifo =>
    split_ifs at h <;> simp at h <;> rw [← h] at hj <;> cases hj
  case removePidFile => simp at h
  all_goals
    simp at h
    rw [← h] at hj
    cases hj

/-- **An event keeps the ports so.** -/
lemma portsHeld_step {s : Site} (h : PortsHeld s) (e : SiteEvent) : PortsHeld (s.step e).1 := by
  intro q j hq hj
  by_cases hne : q = e.pid
  · subst hne
    rcases Site.procs_step_self hq with ⟨hold, hstep⟩ | ⟨port, file, -, rfl⟩ |
      ⟨ok, free, i, he, hi, hij, hcall⟩
    · obtain ⟨hbound, hasked⟩ := h _ j hold hj
      refine ⟨?_, hasked⟩
      cases e with
      | start p port pidFile =>
          simp only [SiteEvent.pid] at hold hbound ⊢
          simpa only [Site.step, hold] using hbound
      | step p ok free => exact absurd rfl (hstep ok free)
      | release p =>
          simp only [SiteEvent.pid] at hold hbound ⊢
          simpa only [Site.step, hold, hj, if_true] using hbound
      | kill p =>
          simp only [SiteEvent.pid] at hold hq
          simp [Site.step, hold] at hq
    · cases hj
    · have hport : j.port = i.port := by rw [hij]
      have hstep : (s.step e).1 = (s.call e.pid i ok free).1 := by
        rw [he]
        simp only [Site.step, SiteEvent.pid] at hi ⊢
        rw [hi]
      rw [hport, hstep]
      rcases bound_call hcall hj with ⟨hwanted, hbound⟩ | ⟨hi', hsame, hbound⟩
      · refine ⟨hbound, fun hasked => ?_⟩
        rw [hwanted, Instance.wanted, if_neg hasked]
      · rw [hsame, hbound]
        exact h _ i hi hi'
  · rw [Site.procs_step_ne hne] at hq
    obtain ⟨hbound, hasked⟩ := h q j hq hj
    exact ⟨Site.bound_step_ne hne hbound, hasked⟩

/-- Without processes, no port is held. -/
lemma portsHeld_empty : PortsHeld .empty := fun _ _ h => by cases h

/-- **One daemon for each port.** In every state of every run, processes that listen have different
ports, and each that has asked for a port has this one: two whose `daemon_port` is the same, or
differs by a multiple of 65536, do not both listen, unless the port that they ask for is 0. -/
theorem listening_unique (events : List SiteEvent) :
    ∀ s ∈ Site.empty :: site.states .empty events, PortsExclusive s := by
  rw [List.forall_mem_cons]
  refine ⟨portsHeld_empty.exclusive, fun s hs => PortsHeld.exclusive ?_⟩
  exact site.states_invariant (I := PortsHeld) (fun s e h => portsHeld_step h e) portsHeld_empty
    events s hs

/-- A daemon starts on a port, and a second one gets as far as `initialize_server_socket`. -/
def second (port : ℤ) : List SiteEvent :=
  let start (p : ℕ) (port : ℤ) : List SiteEvent :=
    .start p port (bytes "/var/run/monitor.pid") :: List.replicate 2 (.step p true 0)
  start 1 port ++ [.step 1 true 40000] ++ start 2 (port + 65536) ++ [.step 2 true 40001]

/-- The second one has ended, and the first one listens. -/
theorem listening_unique_second : PortsExclusive (site.run .empty (second 8080)).1 :=
  listening_unique (second 8080) _ (site.run_mem_states _ _)

/-- Where no port is asked for, both listen. -/
example : ([1, 2].map fun p => ((site.run .empty (second 0)).1.procs p).map fun i =>
    (i.stage.listening, i.bound)) = [some (true, 40000), some (true, 40001)] := by decide

/-! ## PID files -/

/-- The PID file of each daemon that serves has its number. -/
def PidFilesRight (s : Site) : Prop :=
  ∀ p i, s.procs p = some i → i.stage.serving = true →
    s.pidFiles i.pidFile = some (pidText p)

/-- A process is about to write or remove the PID file of another one that serves. -/
def TouchesOther (stage : Stage) (s : Site) (e : SiteEvent) : Prop :=
  ∃ q i p j free, e = .step q true free ∧ s.procs q = some i ∧ i.stage = stage ∧ p ≠ q ∧
    s.procs p = some j ∧ j.stage.serving = true ∧ j.pidFile = i.pidFile

/-- `create_pid_file` is about to fail, and the file has not the number already. -/
def Unwritten (s : Site) (e : SiteEvent) : Prop :=
  ∃ q i free, e = .step q false free ∧ s.procs q = some i ∧ i.stage = .writePidFile ∧
    s.pidFiles i.pidFile ≠ some (pidText q)

/-- The event leaves the PID files of those that serve right. -/
def KeepsPidFiles (s : Site) (e : SiteEvent) : Prop :=
  ¬ TouchesOther .writePidFile s e ∧ ¬ TouchesOther .removePidFile s e ∧ ¬ Unwritten s e

/-- The text tells the number. -/
lemma pidText_injective {p q : ℕ} (h : pidText p = pidText q) : p = q := by
  unfold pidText at h
  rw [List.append_cancel_right_eq] at h
  have hp : natText p = intText p := by simp [intText]
  have hq : natText q = intText q := by simp [intText]
  rw [hp, hq] at h
  exact_mod_cast (numeral_intText p).unique (h ▸ numeral_intText q)

section pidFiles

variable {s : Site} {e : SiteEvent}

/-- Touching another's file makes it wrong. -/
lemma not_right_of_touches {stage : Stage} (h : TouchesOther stage s e)
    (hstage : stage = .writePidFile ∨ stage = .removePidFile) : ¬ PidFilesRight (s.step e).1 := by
  obtain ⟨q, i, p, j, free, rfl, hq, hi, hne, hp, hj, hfile⟩ := h
  intro hright
  have hafter : (s.step (.step q true free)).1.procs p = some j := by
    rw [Site.procs_step_ne (e := .step q true free) hne, hp]
  have htext := hright p j hafter hj
  simp only [Site.step, hq] at htext
  rw [Site.pidFiles_call, hi, hfile] at htext
  rcases hstage with rfl | rfl
  · simp only [Function.update_self, Option.some.injEq] at htext
    exact hne (pidText_injective htext).symm
  · simp at htext

/-- So does not writing the own one. -/
lemma not_right_of_unwritten (h : Unwritten s e) : ¬ PidFilesRight (s.step e).1 := by
  obtain ⟨q, i, free, rfl, hq, hi, hwrong⟩ := h
  intro hright
  have htext := hright q { i with stage := .startThread }
    (by simp [Site.step, hq, Site.call, hi]) rfl
  simp only [Site.step, hq] at htext
  rw [Site.pidFiles_call, hi] at htext
  exact hwrong htext

/-- Every other event keeps them right. -/
lemma right_of_keeps (h : PidFilesRight s) (hkeeps : KeepsPidFiles s e) :
    PidFilesRight (s.step e).1 := by
  obtain ⟨hwrite, hremove, hwritten⟩ := hkeeps
  intro p j hp hj
  by_cases hne : p = e.pid
  · subst hne
    rcases Site.procs_step_self hp with ⟨hold, hstep⟩ | ⟨port, file, -, rfl⟩ |
      ⟨ok, free, i, he, hi, hij, hcall⟩
    · rcases s.pidFiles_step e with hsame | ⟨q, i, free, he, -⟩
      · rw [hsame]
        exact h _ j hold hj
      · rw [he] at hstep
        exact absurd rfl (hstep true free)
    · cases hj
    · have hfile : j.pidFile = i.pidFile := by rw [hij]
      have hnext := Site.stage_call hcall
      have hafter : (s.step e).1 = (s.call e.pid i ok free).1 := by
        rw [he]
        simp only [Site.step, SiteEvent.pid] at hi ⊢
        rw [hi]
      rw [hfile, hafter, Site.pidFiles_call]
      cases hstage : i.stage with
      | writePidFile =>
          cases ok with
          | true => exact Function.update_self ..
          | false =>
              by_contra hwrong
              exact hwritten ⟨_, i, free, he, hi, hstage, hwrong⟩
      | startThread => exact h _ i hi (by rw [hstage]; rfl)
      | loop => exact h _ i hi (by rw [hstage]; rfl)
      | _ =>
          rw [hnext, hstage] at hj
          cases hj
  · rw [Site.procs_step_ne hne] at hp
    have hold := h p j hp hj
    rcases s.pidFiles_step e with hsame |
      ⟨q, i, free, rfl, hq, ⟨hi, hupdate⟩ | ⟨hi, hupdate⟩⟩
    · rw [hsame, hold]
    · have hother : j.pidFile ≠ i.pidFile := fun hfile =>
        hwrite ⟨q, i, p, j, free, rfl, hq, hi, hne, hp, hj, hfile⟩
      rw [hupdate, Function.update_of_ne hother, hold]
    · have hother : j.pidFile ≠ i.pidFile := fun hfile =>
        hremove ⟨q, i, p, j, free, rfl, hq, hi, hne, hp, hj, hfile⟩
      rw [hupdate, Function.update_of_ne hother, hold]

/-- **The events that keep the PID files right.** -/
lemma pidFilesRight_step_iff (h : PidFilesRight s) :
    PidFilesRight (s.step e).1 ↔ KeepsPidFiles s e := by
  refine ⟨fun hright => ⟨?_, ?_, ?_⟩, right_of_keeps h⟩
  · exact fun ht => not_right_of_touches ht (Or.inl rfl) hright
  · exact fun ht => not_right_of_touches ht (Or.inr rfl) hright
  · exact fun hu => not_right_of_unwritten hu hright

end pidFiles

/-- **PID files.** In every run, the PID file of every daemon that serves has its number in all
states if and only if none of them is written or removed by another process, and each is written. -/
theorem pidFiles_iff (events : List SiteEvent) :
    (∀ s ∈ Site.empty :: site.states .empty events, PidFilesRight s) ↔
      ∀ x ∈ site.trace .empty events, KeepsPidFiles x.1 x.2 := by
  have hempty : PidFilesRight .empty := fun _ _ h => by cases h
  rw [List.forall_mem_cons, and_iff_right hempty]
  exact site.states_iff_trace (I := fun _ => True) (C := KeepsPidFiles) (fun _ _ _ _ => trivial)
    (fun s e _ h => pidFilesRight_step_iff h) trivial hempty events

/-! ## One port -/

/-- All processes ask for the port. -/
def AllOn (port : ℕ) (s : Site) : Prop := ∀ p i, s.procs p = some i → portAsked i.port = port

/-- An event keeps it so, unless it starts a process with another port. -/
lemma allOn_step {port : ℕ} {s : Site} {e : SiteEvent} (h : AllOn port s)
    (he : ∀ p port' file, e = .start p port' file → portAsked port' = port) :
    AllOn port (s.step e).1 := by
  intro q j hq
  by_cases hne : q = e.pid
  · subst hne
    rcases Site.procs_step_self hq with ⟨hold, -⟩ | ⟨port', file, hstart, rfl⟩ |
      ⟨ok, free, i, -, hi, hij, -⟩
    · exact h _ j hold
    · exact he _ port' file hstart
    · rw [hij]
      exact h _ i hi
  · rw [Site.procs_step_ne hne] at hq
    exact h q j hq

/-- Where all ask for one port, nobody writes the file of a daemon that serves. -/
lemma not_touches_write {port : ℕ} {s : Site} (hzero : port ≠ 0) (hall : AllOn port s)
    (hheld : PortsHeld s) (e : SiteEvent) : ¬ TouchesOther .writePidFile s e := by
  rintro ⟨q, i, p, j, free, -, hq, hi, hne, hp, hj, -⟩
  obtain ⟨hexclusive, hasked⟩ := hheld.exclusive
  have hi' : i.stage.listening = true := by rw [hi]; rfl
  have hj' : j.stage.listening = true := Stage.listening_of_serving hj
  have hport : i.bound = port := by
    rw [hasked q i hq hi' (by rwa [hall q i hq]), hall q i hq]
  have hport' : j.bound = port := by
    rw [hasked p j hp hj' (by rwa [hall p j hp]), hall p j hp]
  exact hne (hexclusive p q j i hp hq hj' hi' (hport'.trans hport.symm))

/-- **PID files with one port.** If all processes ask for one port, the PID file of every daemon
that serves has its number in all states if and only if each is written, and no process removes the
file behind its successor's back. -/
theorem pidFiles_one_port_iff (port : ℕ) (hzero : port ≠ 0) (events : List SiteEvent)
    (hport : ∀ p port' file, .start p port' file ∈ events → portAsked port' = port) :
    (∀ s ∈ Site.empty :: site.states .empty events, PidFilesRight s) ↔
      ∀ x ∈ site.trace .empty events,
        ¬ TouchesOther .removePidFile x.1 x.2 ∧ ¬ Unwritten x.1 x.2 := by
  have hstarts : ∀ x ∈ site.trace .empty events,
      ∀ p port' file, x.2 = .start p port' file → portAsked port' = port :=
    fun x hx p port' file he => hport p port' file (he ▸ site.mem_of_mem_trace hx)
  have hinvariant : ∀ x ∈ site.trace .empty events, AllOn port x.1 ∧ PortsHeld x.1 :=
    site.trace_of_trace (I := fun s => AllOn port s ∧ PortsHeld s)
      (fun _ e h he => ⟨allOn_step h.1 he, portsHeld_step h.2 e⟩)
      ⟨fun _ _ h => by (cases h), portsHeld_empty⟩ hstarts
  rw [pidFiles_iff]
  refine forall₂_congr fun x hx => ⟨fun h => h.2, fun h => ⟨?_, h⟩⟩
  exact not_touches_write hzero (hinvariant x hx).1 (hinvariant x hx).2 x.2

/-- A daemon ends, and another one is started on its port before it removes the PID file. -/
def succeeded : List SiteEvent :=
  let start (p : ℕ) : List SiteEvent :=
    .start p 8080 (bytes "/var/run/monitor.pid") :: List.replicate 5 (.step p true 0)
  start 1 ++ [.step 1 false 0, .step 1 true 0] ++ start 2 ++ [.step 1 true 0]

/-- The PID file of the second one is then removed. -/
theorem pidFiles_one_port_iff_succeeded :
    ¬ ∀ s ∈ Site.empty :: site.states .empty (succeeded ++ [.step 1 true 0]), PidFilesRight s := by
  have hport : ∀ p port' file, .start p port' file ∈ succeeded ++ [.step 1 true 0] →
      portAsked port' = 8080 := by
    intro p port' file h
    have hsame : port' = 8080 := by
      simp [succeeded, List.replicate] at h
      omega
    rw [hsame]
    rfl
  rw [pidFiles_one_port_iff 8080 (by decide) _ hport]
  intro h
  have hlast := (h _ (site.mem_trace_concat .empty succeeded (.step 1 true 0))).1
  exact hlast ⟨1, _, 2, _, 0, rfl, rfl, rfl, by decide, rfl, rfl, rfl⟩

/-! ## The FIFO -/

/-- The FIFO is there for each process between `ipc_init` and `ipc_cleanup`. -/
def FifoThere (s : Site) : Prop :=
  ∀ p i, s.procs p = some i → i.stage.usesFifo = true → s.fifo = true

/-- A process is about to remove the FIFO, in `ipc_init` or in `ipc_cleanup`, while another one is
between the two. -/
def TakesFifo (s : Site) (e : SiteEvent) : Prop :=
  ∃ q i p j free, e = .step q true free ∧ s.procs q = some i ∧
    (i.stage = .unlinkFifo ∨ i.stage = .removeFifo) ∧ p ≠ q ∧ s.procs p = some j ∧
    j.stage.usesFifo = true

section fifo

variable {s : Site} {e : SiteEvent}

/-- Taking it leaves the other without. -/
lemma not_there_of_takes (h : TakesFifo s e) : ¬ FifoThere (s.step e).1 := by
  obtain ⟨q, i, p, j, free, rfl, hq, hi, hne, hp, hj⟩ := h
  intro hthere
  have hafter : (s.step (.step q true free)).1.procs p = some j := by
    rw [Site.procs_step_ne (e := .step q true free) hne, hp]
  have hfifo := hthere p j hafter hj
  simp only [Site.step, hq] at hfifo
  rw [Site.fifo_call] at hfifo
  rcases hi with hi | hi <;> rw [hi] at hfifo <;> cases hfifo

/-- A process behind `mkfifo` has it. -/
lemma fifo_of_makeFifo {p : ℕ} {i j : Instance} {ok : Bool} {free : ℕ} (hi : i.stage = .makeFifo)
    (h : (s.call p i ok free).1.procs p = some j) : (s.call p i ok free).1.fifo = true := by
  unfold Site.call at h ⊢
  simp only [hi] at h ⊢
  split_ifs at h ⊢ with hfifo
  · exact hfifo
  · rfl
  · simp at h

/-- Every other event leaves it there. -/
lemma there_of_not_takes (h : FifoThere s) (ht : ¬ TakesFifo s e) : FifoThere (s.step e).1 := by
  intro p j hp hj
  by_cases hne : p = e.pid
  · subst hne
    rcases Site.procs_step_self hp with ⟨hold, hstep⟩ | ⟨port, file, -, rfl⟩ |
      ⟨ok, free, i, he, hi, -, hcall⟩
    · rcases s.fifo_step e with hsame | htrue | ⟨q, i, free, he, -⟩
      · rw [hsame]
        exact h _ j hold hj
      · exact htrue
      · rw [he] at hstep
        exact absurd rfl (hstep true free)
    · cases hj
    · have hnext := Site.stage_call hcall
      have hafter : (s.step e).1 = (s.call e.pid i ok free).1 := by
        rw [he]
        simp only [Site.step, SiteEvent.pid] at hi ⊢
        rw [hi]
      rw [hafter]
      cases hstage : i.stage with
      | makeFifo => exact fifo_of_makeFifo hstage hcall
      | unlinkFifo =>
          rw [hnext, hstage] at hj
          cases hj
      | removeFifo =>
          rw [hnext, hstage] at hj
          cases hj
      | removePidFile =>
          rw [hnext, hstage] at hj
          cases hj
      | _ =>
          rw [Site.fifo_call, hstage]
          exact h _ i hi (by rw [hstage]; rfl)
  · rw [Site.procs_step_ne hne] at hp
    rcases s.fifo_step e with hsame | htrue | ⟨q, i, free, rfl, hq, hi, -⟩
    · rw [hsame]
      exact h p j hp hj
    · exact htrue
    · exact absurd ⟨q, i, p, j, free, rfl, hq, hi, hne, hp, hj⟩ ht

end fifo

/-- **The FIFO.** In every run, the FIFO is there in all states for every process between `ipc_init`
and `ipc_cleanup` if and only if no process calls either of them while another one is there. -/
theorem fifo_there_iff (events : List SiteEvent) :
    (∀ s ∈ Site.empty :: site.states .empty events, FifoThere s) ↔
      ∀ x ∈ site.trace .empty events, ¬ TakesFifo x.1 x.2 := by
  have hempty : FifoThere .empty := fun _ _ h => by cases h
  rw [List.forall_mem_cons, and_iff_right hempty]
  refine site.states_iff_trace (I := fun _ => True) (C := fun s e => ¬ TakesFifo s e)
    (fun _ _ _ _ => trivial) (fun s e _ h => ?_) trivial hempty events
  exact ⟨fun hthere ht => not_there_of_takes ht hthere, there_of_not_takes h⟩

end ProcessMonitor.Integration
