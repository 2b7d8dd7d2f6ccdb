import ProcessMonitor.Integration.MonitorThreads

/-!
# Shutdown while monitor threads run

`cleanup_on_exit` of `src/04-integration/main_daemon.c` joins the monitor threads holding
`rooms_mutex`, while `room_monitor_thread` takes this mutex in every iteration. Here both go step by
step, any number of monitor threads beside the main thread. `stop_room` and `delete_room` release
the mutex before they join.

`cleanup_not_deadlocked` says that there is no deadlock where the main thread comes to the active
rooms while their threads are not between the test of the flags and the mutex, and
`busyVisit_deadlocks` that every other visit can end in one.
-/

namespace ProcessMonitor.Integration

/-! ## The threads -/

/-- Where a monitor thread is: before the test of the flags, before the reading, before the mutex
with a reading, before storing it, before the release, or before the end of its sleep. -/
inductive MonitorPc
  | testing
  | reading
  | locking (data : MonitorData)
  | storing (data : MonitorData)
  | releasing
  | sleeping

/-- Where the main thread is: in its loop, and then in `cleanup_on_exit` before clearing `running`,
before the mutex, at a room, in `pthread_join`, before the release, or past it. -/
inductive CleanupPc
  | looping
  | stopping
  | locking
  | visiting (i : ℕ)
  | joining (i : ℕ)
  | releasing
  | finished
deriving DecidableEq, Repr

/-- Who holds `rooms_mutex`. -/
inductive MutexOwner
  | main
  | monitor (t : ℕ)
deriving DecidableEq, Repr

/-- The shared state, the threads and the mutex. -/
structure Exiting where
  world : World
  pc : ℕ → MonitorPc
  main : CleanupPc
  owner : Option MutexOwner

namespace Exiting

/-- The daemon in its main loop, each monitor thread before its test. -/
def initial (w : World) : Exiting := ⟨w, fun _ => .testing, .looping, none⟩

variable (s : Exiting)

/-- The monitor thread `t` continues at `p`. -/
def setPc (t : ℕ) (p : MonitorPc) : Exiting := { s with pc := Function.update s.pc t p }

@[simp] lemma pc_setPc_self (t : ℕ) (p : MonitorPc) : (s.setPc t p).pc t = p := by
  simp only [setPc, Function.update_self]

lemma pc_setPc_ne {t u : ℕ} (h : u ≠ t) (p : MonitorPc) : (s.setPc t p).pc u = s.pc u := by
  simp only [setPc, Function.update_of_ne h]

/-- The next step of a monitor thread of the slot `i`, with `found` for what is under `/proc`. -/
def threadStep (t i : ℕ) (found : MonitorData) : Exiting :=
  match s.pc t with
  | .testing =>
      if s.world.monitors i then s.setPc t .reading
      else { s with world := s.world.updThread (some t) fun th => { th with ended := true } }
  | .reading =>
      let (result, data) := ipcReadKernelData (s.world.roomName i) found
      if result = 0 then s.setPc t (.locking data)
      else { s with world := s.world.readFailed t i }.setPc t .sleeping
  | .locking data =>
      if s.owner = none then { s with owner := some (.monitor t) }.setPc t (.storing data) else s
  | .storing data => { s with world := s.world.collect i data }.setPc t .releasing
  | .releasing => { s with owner := none }.setPc t .sleeping
  | .sleeping => s.setPc t .testing

/-- A thread that has returned takes no step. Source: `main_daemon.c`, `room_monitor_thread` -/
def monitorMove (t : ℕ) (found : MonitorData) : Exiting :=
  match s.world.threads[t]? with
  | some th => if th.ended then s else s.threadStep t th.slot found
  | none => s

/-- `g_daemon_state.running = 0` -/
def stopRunning (w : World) : World := { w with daemon := { w.daemon with running := false } }

/-- The next step of the main thread.
Source: `main_daemon.c`, `main` from its loop on, and `cleanup_on_exit` up to the rooms -/
def mainMove : Exiting :=
  match s.main with
  | .looping => if s.world.daemon.running then s else { s with main := .stopping }
  | .stopping => { s with world := stopRunning s.world, main := .locking }
  | .locking => if s.owner = none then { s with owner := some .main, main := .visiting 0 } else s
  | .visiting i =>
      if i < s.world.daemon.config.maxRooms then
        if s.world.roomActive i then
          { s with world := s.world.deactivate i, main := .joining i }
        else { s with main := .visiting (i + 1) }
      else { s with main := .releasing }
  | .joining i =>
      if s.world.threadEnded (s.world.roomThread i) then
        { s with
          world := s.world.updThread (s.world.roomThread i) fun th => { th with joined := true }
          main := .visiting (i + 1) }
      else s
  | .releasing => { s with owner := none, main := .finished }
  | .finished => s

/-- The main thread waits with the mutex for a monitor thread that waits for the mutex. -/
def Deadlocked : Prop :=
  s.owner = some .main ∧ ∃ i t th data, s.main = .joining i ∧ s.world.roomThread i = some t ∧
    s.world.threads[t]? = some th ∧ th.ended = false ∧ s.pc t = .locking data

end Exiting

/-- What the scheduler chooses. -/
inductive ExitEvent
  /-- A signal. Source: `main_daemon.c`, `signal_handler` -/
  | signal
  | main
  | monitor (t : ℕ) (found : MonitorData)

/-- The threads under a schedule. -/
def exiting : Machine Exiting ExitEvent Unit where
  step s
    | .signal => ({ s with world := Exiting.stopRunning s.world }, ())
    | .main => (s.mainMove, ())
    | .monitor t found => (s.monitorMove t found, ())

/-! ## The window -/

/-- The thread has passed the test of the flags and not yet taken the mutex. -/
def MonitorPc.inWindow : MonitorPc → Bool
  | .reading | .locking _ => true
  | _ => false

/-- The main thread has come to an active room whose thread is there. -/
def Exiting.busyVisit (s : Exiting) : Bool :=
  match s.main with
  | .visiting i =>
      i < s.world.daemon.config.maxRooms && s.world.roomActive i &&
        match s.world.roomThread i with
        | some t => (s.pc t).inWindow
        | none => false
  | _ => false

/-- The step is not one of the main thread to such a room. -/
def Exiting.clear (s : Exiting) : ExitEvent → Bool
  | .main => !s.busyVisit
  | _ => true

/-! ## What the steps keep -/

/-- The steps of `readStep` leave `running` alone. -/
lemma running_readStep (e : ReadEvent) (w : World) :
    (readStep e w).daemon.running = w.daemon.running := by
  cases e with
  | iterate t result data =>
      simp only [readStep, World.iterate, World.readFailed]
      repeat' split
      all_goals rfl
  | leave t =>
      simp only [readStep, monitorStep]
      repeat' split
      all_goals rfl
  | tick now => rfl

/-- The thread holds the mutex. -/
def MonitorPc.holds : MonitorPc → Bool
  | .storing _ | .releasing => true
  | _ => false

/-- What a step of the monitor thread `t` does: a step of `readStep` to the shared state, nothing to
the other threads. It enters the window only while `running` is set. -/
structure ThreadMoves (s s' : Exiting) (t : ℕ) : Prop where
  main_eq : s'.main = s.main
  world_eq : s'.world = s.world ∨ ∃ e, s'.world = readStep e s.world
  pc_eq : ∀ u, u ≠ t → s'.pc u = s.pc u
  threads_eq : ∀ u, u ≠ t → s'.world.threads[u]? = s.world.threads[u]?
  window : (s'.pc t).inWindow = true →
    s'.world.threads = s.world.threads ∧
      ((s.pc t).inWindow = true ∨
        s.world.daemon.running = true ∧ ∃ th, s.world.threads[t]? = some th ∧ th.ended = false)
  mutex : (s'.owner = s.owner ∧ (s'.pc t).holds = (s.pc t).holds) ∨
    (s.owner = none ∧ s'.owner = some (.monitor t)) ∨
    ((s.pc t).holds = true ∧ s'.owner = none ∧ (s'.pc t).holds = false)

/-- A step that leaves the shared state alone. -/
lemma threadMoves_setPc {s : Exiting} {t : ℕ} {p : MonitorPc} {owner : Option MutexOwner}
    (hwindow : p.inWindow = true → (s.pc t).inWindow = true ∨
      s.world.daemon.running = true ∧ ∃ th, s.world.threads[t]? = some th ∧ th.ended = false)
    (hmutex : (owner = s.owner ∧ p.holds = (s.pc t).holds) ∨
      (s.owner = none ∧ owner = some (.monitor t)) ∨
      ((s.pc t).holds = true ∧ owner = none ∧ p.holds = false)) :
    ThreadMoves s (({ s with owner := owner } : Exiting).setPc t p) t where
  main_eq := rfl
  world_eq := Or.inl rfl
  pc_eq _ hu := Exiting.pc_setPc_ne _ hu p
  threads_eq _ _ := rfl
  window h := by
    rw [Exiting.pc_setPc_self] at h
    exact ⟨rfl, hwindow h⟩
  mutex := by
    rw [Exiting.pc_setPc_self]
    exact hmutex

/-- **A step of a monitor thread.** -/
lemma monitorMove_moves (s : Exiting) (t : ℕ) (found : MonitorData) :
    ThreadMoves s (s.monitorMove t found) t := by
  have hrefl : ThreadMoves s s t :=
    ⟨rfl, Or.inl rfl, fun _ _ => rfl, fun _ _ => rfl, fun h => ⟨rfl, Or.inl h⟩,
      Or.inl ⟨rfl, rfl⟩⟩
  rw [Exiting.monitorMove]
  cases hth : s.world.threads[t]? with
  | none => exact hrefl
  | some th =>
      by_cases hended : th.ended = true
      · simp only [hended, if_true]
        exact hrefl
      simp only [if_neg hended]
      rw [Exiting.threadStep]
      cases hpc : s.pc t with
      | testing =>
          simp only
          split_ifs with hmonitors
          · rw [World.monitors, Bool.and_eq_true] at hmonitors
            exact threadMoves_setPc
              (fun _ => Or.inr ⟨hmonitors.1, th, hth, Bool.eq_false_iff.mpr hended⟩)
              (Or.inl ⟨rfl, by rw [hpc]; rfl⟩)
          · -- the thread returns
            refine ⟨rfl, Or.inr ⟨.leave t, ?_⟩, fun _ _ => rfl, ?_, ?_, Or.inl ⟨rfl, rfl⟩⟩
            · simp only [readStep, monitorStep, hth, if_neg hmonitors]
            · intro u hu
              simp only [World.updThread, List.getElem?_modify, if_neg hu.symm, id_map']
            · intro h
              rw [hpc] at h
              cases h
      | reading =>
          simp only [ipcReadKernelData, World.roomName, if_true]
          exact threadMoves_setPc (fun _ => Or.inl (by rw [hpc]; rfl))
            (Or.inl ⟨rfl, by rw [hpc]; rfl⟩)
      | locking data =>
          simp only
          split_ifs with hfree
          · exact threadMoves_setPc (fun h => by cases h) (Or.inr (Or.inl ⟨hfree, rfl⟩))
          · exact hrefl
      | storing data =>
          refine ⟨rfl, Or.inr ⟨.iterate t 0 data, ?_⟩, fun _ hu => Exiting.pc_setPc_ne _ hu _,
            fun _ _ => rfl, ?_, Or.inl ⟨rfl, ?_⟩⟩
          · simp only [readStep, hth, if_neg hended, World.iterate, if_true]
            rfl
          · intro h
            rw [Exiting.pc_setPc_self] at h
            cases h
          · rw [Exiting.pc_setPc_self, hpc]
            rfl
      | releasing =>
          exact threadMoves_setPc (fun h => by cases h)
            (Or.inr (Or.inr ⟨by rw [hpc]; rfl, rfl, rfl⟩))
      | sleeping =>
          exact threadMoves_setPc (fun h => by cases h) (Or.inl ⟨rfl, by rw [hpc]; rfl⟩)

section moves

variable {s s' : Exiting} {t : ℕ} (h : ThreadMoves s s' t)
include h

/-- It leaves `running` alone. -/
lemma ThreadMoves.running_eq : s'.world.daemon.running = s.world.daemon.running := by
  rcases h.world_eq with heq | ⟨e, heq⟩
  · rw [heq]
  · rw [heq, running_readStep]

/-- It leaves the handles alone. -/
lemma ThreadMoves.roomThread_eq (i : ℕ) : s'.world.roomThread i = s.world.roomThread i := by
  rcases h.world_eq with heq | ⟨e, heq⟩
  · rw [heq]
  · rw [heq]
    exact (readStep_beside e s.world).roomThread_eq i

end moves

/-! ## No deadlock outside the window -/

/-- The main thread is past clearing `running`. -/
def CleanupPc.stopped : CleanupPc → Bool
  | .looping | .stopping => false
  | _ => true

namespace Exiting

/-- Once `cleanup_on_exit` has cleared `running`, no thread passes its test, and the thread that is
joined is not in the window. -/
structure Unblocked (s : Exiting) : Prop where
  stopped : s.main.stopped = true → s.world.daemon.running = false
  joining : ∀ i t, s.main = .joining i → s.world.roomThread i = some t →
    (s.pc t).inWindow = false

/-- **A step of a monitor thread** keeps this. -/
lemma Unblocked.monitorMove {s : Exiting} (h : s.Unblocked) (t : ℕ) (found : MonitorData) :
    (s.monitorMove t found).Unblocked := by
  have hmoves := monitorMove_moves s t found
  constructor
  · rw [hmoves.main_eq, hmoves.running_eq]
    exact h.stopped
  · intro i u hmain hthread
    rw [hmoves.main_eq] at hmain
    rw [hmoves.roomThread_eq] at hthread
    by_cases hu : u = t
    · subst hu
      by_contra hwindow
      rcases (hmoves.window (Bool.eq_true_of_not_eq_false hwindow)).2 with hin | ⟨hrunning, -⟩
      · rw [h.joining i u hmain hthread] at hin
        cases hin
      · rw [h.stopped (by rw [hmain]; rfl)] at hrunning
        cases hrunning
    · rw [hmoves.pc_eq u hu]
      exact h.joining i u hmain hthread

/-- **A step of the main thread** keeps it, unless it comes to a room whose thread is in the
window. -/
lemma Unblocked.mainMove {s : Exiting} (h : s.Unblocked) (hclear : s.busyVisit = false) :
    s.mainMove.Unblocked := by
  rw [Exiting.mainMove]
  cases hmain : s.main with
  | looping =>
      simp only
      split_ifs
      · exact h
      · exact ⟨(fun hs => by cases hs), fun i t hj => by cases hj⟩
  | stopping => exact ⟨fun _ => rfl, fun i t hj => by cases hj⟩
  | locking =>
      simp only
      split_ifs
      · exact ⟨fun _ => h.stopped (by rw [hmain]; rfl), fun i t hj => by cases hj⟩
      · exact h
  | visiting i =>
      have hstopped : s.world.daemon.running = false := h.stopped (by rw [hmain]; rfl)
      simp only
      split_ifs with hi hactive
      · refine ⟨fun _ => hstopped, ?_⟩
        intro j t hj hthread
        cases hj
        have hthread : (s.world.deactivate i).roomThread i = some t := hthread
        rw [roomThread_deactivate] at hthread
        rw [busyVisit, hmain] at hclear
        simpa [hi, hactive, hthread] using hclear
      · exact ⟨fun _ => hstopped, fun j t hj => by cases hj⟩
      · exact ⟨fun _ => hstopped, fun j t hj => by cases hj⟩
  | joining i =>
      have hstopped : s.world.daemon.running = false := h.stopped (by rw [hmain]; rfl)
      simp only
      split_ifs
      · refine ⟨?_, fun j t hj => by cases hj⟩
        intro _
        simp only [World.daemon_updThread]
        exact hstopped
      · exact h
  | releasing =>
      exact ⟨fun _ => h.stopped (by rw [hmain]; rfl), fun i t hj => by cases hj⟩
  | finished => exact h

/-- Where it holds there is no deadlock. -/
lemma Unblocked.not_deadlocked {s : Exiting} (h : s.Unblocked) : ¬ s.Deadlocked := by
  rintro ⟨-, i, t, th, data, hmain, hthread, -, -, hpc⟩
  have hwindow := h.joining i t hmain hthread
  rw [hpc] at hwindow
  cases hwindow

end Exiting

open Exiting

/-- **Shutdown and the monitor threads.** From any rooms and monitor threads, a run in which the
main thread never comes to an active room whose thread is between its test of the flags and the
mutex reaches no deadlock. -/
theorem cleanup_not_deadlocked (w : World) (events : List ExitEvent)
    (h : ∀ x ∈ exiting.trace (Exiting.initial w) events, x.1.clear x.2 = true) :
    ∀ s ∈ exiting.states (Exiting.initial w) events, ¬ s.Deadlocked := by
  have hinitial : (Exiting.initial w).Unblocked :=
    ⟨(fun hs => by cases hs), fun i t hj => by cases hj⟩
  have hstep : ∀ s e, s.Unblocked → s.clear e = true → (exiting.step s e).1.Unblocked := by
    intro s e hs hclear
    cases e with
    | signal => exact ⟨fun _ => rfl, hs.joining⟩
    | main => exact hs.mainMove (by simpa [clear] using hclear)
    | monitor t found => exact hs.monitorMove t found
  intro s hs
  exact (exiting.states_of_trace hstep hinitial h s hs).not_deadlocked

/-! ## Deadlock inside the window -/

/-- The main thread holds the mutex. -/
def CleanupPc.holds : CleanupPc → Bool
  | .visiting _ | .joining _ | .releasing => true
  | _ => false

namespace Exiting

/-- The mutex has the owner that the threads' places tell, and a thread in the window runs. -/
structure Owned (s : Exiting) : Prop where
  main_owner : s.main.holds = true → s.owner = some .main
  monitor_owner : ∀ t, (s.pc t).holds = true → s.owner = some (.monitor t)
  alive : ∀ t, (s.pc t).inWindow = true →
    ∃ th, s.world.threads[t]? = some th ∧ th.ended = false

/-- A monitor thread takes the mutex from nobody else. -/
lemma Owned.owner_kept {s s' : Exiting} {t : ℕ} {o : MutexOwner} (h : s.Owned)
    (hmoves : ThreadMoves s s' t) (howner : s.owner = some o) (hne : o ≠ .monitor t) :
    s'.owner = some o := by
  rcases hmoves.mutex with ⟨heq, -⟩ | ⟨hnone, -⟩ | ⟨hholds, -, -⟩
  · rw [heq, howner]
  · rw [hnone] at howner
    cases howner
  · rw [h.monitor_owner t hholds] at howner
    exact absurd (Option.some.inj howner).symm hne

/-- **A step of a monitor thread** keeps the owner in step. -/
lemma Owned.monitorMove {s : Exiting} (h : s.Owned) (t : ℕ) (found : MonitorData) :
    (s.monitorMove t found).Owned := by
  have hmoves := monitorMove_moves s t found
  constructor
  · intro hmain
    rw [hmoves.main_eq] at hmain
    have hne : MutexOwner.main ≠ .monitor t := by
      intro heq
      cases heq
    exact h.owner_kept hmoves (h.main_owner hmain) hne
  · intro u hu
    by_cases hut : u = t
    · subst hut
      rcases hmoves.mutex with ⟨heq, hsame⟩ | ⟨-, howner⟩ | ⟨-, -, hfree⟩
      · rw [heq]
        exact h.monitor_owner u (hsame ▸ hu)
      · exact howner
      · rw [hfree] at hu
        cases hu
    · rw [hmoves.pc_eq u hut] at hu
      have hne : MutexOwner.monitor u ≠ .monitor t := by
        intro heq
        exact hut (MutexOwner.monitor.inj heq)
      exact h.owner_kept hmoves (h.monitor_owner u hu) hne
  · intro u hu
    by_cases hut : u = t
    · subst hut
      obtain ⟨hthreads, hin | ⟨-, halive⟩⟩ := hmoves.window hu
      · rw [hthreads]
        exact h.alive u hin
      · rw [hthreads]
        exact halive
    · rw [hmoves.pc_eq u hut] at hu
      rw [hmoves.threads_eq u hut]
      exact h.alive u hu

/-- **A step of the main thread** does too. -/
lemma Owned.mainMove {s : Exiting} (h : s.Owned) : s.mainMove.Owned := by
  rw [Exiting.mainMove]
  cases hmain : s.main with
  | looping =>
      simp only
      split_ifs
      · exact h
      · exact ⟨(fun hholds => by cases hholds), h.monitor_owner, h.alive⟩
  | stopping => exact ⟨(fun hholds => by cases hholds), h.monitor_owner, h.alive⟩
  | locking =>
      simp only
      split_ifs with hfree
      · refine ⟨fun _ => rfl, ?_, h.alive⟩
        intro t hholds
        have howner := h.monitor_owner t hholds
        rw [hfree] at howner
        cases howner
      · exact h
  | visiting i =>
      have howner : s.owner = some .main := h.main_owner (by rw [hmain]; rfl)
      simp only
      split_ifs
      · exact ⟨fun _ => howner, h.monitor_owner, h.alive⟩
      · exact ⟨fun _ => howner, h.monitor_owner, h.alive⟩
      · exact ⟨fun _ => howner, h.monitor_owner, h.alive⟩
  | joining i =>
      have howner : s.owner = some .main := h.main_owner (by rw [hmain]; rfl)
      simp only
      split_ifs
      · refine ⟨fun _ => howner, h.monitor_owner, ?_⟩
        intro u hu
        obtain ⟨th, hth, hrun⟩ := h.alive u hu
        cases s.world.roomThread i with
        | none => exact ⟨th, hth, hrun⟩
        | some t =>
            by_cases hut : t = u
            · refine ⟨{ th with joined := true }, ?_, hrun⟩
              simp [World.updThread, hut, hth]
            · refine ⟨th, ?_, hrun⟩
              simp [World.updThread, hut, hth]
      · exact h
  | releasing =>
      have howner : s.owner = some .main := h.main_owner (by rw [hmain]; rfl)
      refine ⟨(fun hholds => by cases hholds), ?_, h.alive⟩
      intro t hholds
      rw [h.monitor_owner t hholds] at howner
      cases howner
  | finished => exact h

/-- In every state of every run. -/
lemma owned_run (w : World) (events : List ExitEvent) :
    (exiting.run (Exiting.initial w) events).1.Owned := by
  have hinitial : (Exiting.initial w).Owned :=
    ⟨(fun hholds => by cases hholds), (fun t hholds => by cases hholds), fun t hin => by cases hin⟩
  refine exiting.run_invariant (I := Owned) ?_ hinitial events
  intro s e hs
  cases e with
  | signal => exact ⟨hs.main_owner, hs.monitor_owner, hs.alive⟩
  | main => exact hs.mainMove
  | monitor t found => exact hs.monitorMove t found

/-- The places in the window. -/
lemma eq_of_inWindow {p : MonitorPc} (h : p.inWindow = true) :
    p = .reading ∨ ∃ data, p = .locking data := by
  cases p with
  | reading => exact Or.inl rfl
  | locking data => exact Or.inr ⟨data, rfl⟩
  | _ => cases h

/-- What there is at such a visit. -/
lemma exists_of_busyVisit {s : Exiting} (h : s.busyVisit = true) :
    ∃ i t, s.main = .visiting i ∧ i < s.world.daemon.config.maxRooms ∧
      s.world.roomActive i = true ∧ s.world.roomThread i = some t ∧ (s.pc t).inWindow = true := by
  rw [busyVisit] at h
  split at h
  · rename_i i hmain
    simp only [Bool.and_eq_true, decide_eq_true_eq] at h
    obtain ⟨⟨hi, hactive⟩, hwindow⟩ := h
    split at hwindow
    · rename_i t hthread
      exact ⟨i, t, hmain, hi, hactive, hthread, hwindow⟩
    · cases hwindow
  · cases h

/-- The main thread goes on to `pthread_join`. -/
lemma mainMove_visiting {s : Exiting} {i : ℕ} (hmain : s.main = .visiting i)
    (hi : i < s.world.daemon.config.maxRooms) (hactive : s.world.roomActive i = true) :
    s.mainMove = { s with world := s.world.deactivate i, main := .joining i } := by
  rw [mainMove, hmain]
  simp only [if_pos hi, if_pos hactive]

/-- A thread that reads comes to the mutex. -/
lemma monitorMove_reading {s : Exiting} {t : ℕ} {th : MonitorThread}
    (hth : s.world.threads[t]? = some th) (hrun : th.ended = false) (hpc : s.pc t = .reading)
    (found : MonitorData) : ∃ data, s.monitorMove t found = s.setPc t (.locking data) := by
  refine ⟨found, ?_⟩
  rw [monitorMove]
  simp only [hth, hrun, Bool.false_eq_true, if_false, threadStep, hpc, ipcReadKernelData,
    World.roomName, if_true]

end Exiting

/-- **The window is exact.** Where a run comes to an active room whose thread is between its test of
the flags and the mutex, a step or two more can end in a deadlock. -/
theorem busyVisit_deadlocks (w : World) (events : List ExitEvent)
    (h : (exiting.run (Exiting.initial w) events).1.busyVisit = true) :
    ∃ more, (exiting.run (exiting.run (Exiting.initial w) events).1 more).1.Deadlocked := by
  have howned := owned_run w events
  generalize (exiting.run (Exiting.initial w) events).1 = s at h howned
  obtain ⟨i, t, hmain, hi, hactive, hthread, hwindow⟩ := exists_of_busyVisit h
  obtain ⟨th, hth, hrun⟩ := howned.alive t hwindow
  have howner : s.owner = some .main := howned.main_owner (by rw [hmain]; rfl)
  have hvisit := mainMove_visiting hmain hi hactive
  have hjoin : (s.world.deactivate i).roomThread i = some t := by
    rw [roomThread_deactivate, hthread]
  rcases eq_of_inWindow hwindow with hpc | ⟨data, hpc⟩
  · -- the thread finishes its reading and waits
    have hwait : (s.mainMove.monitorMove t {}).Deadlocked := by
      have hpc' : s.mainMove.pc t = .reading := by
        rw [hvisit]
        exact hpc
      have hth' : s.mainMove.world.threads[t]? = some th := by
        rw [hvisit]
        exact hth
      obtain ⟨data, hmove⟩ := monitorMove_reading hth' hrun hpc' {}
      rw [hmove, hvisit]
      exact ⟨howner, i, t, th, data, rfl, hjoin, hth, hrun, pc_setPc_self _ _ _⟩
    exact ⟨[.main, .monitor t {}], hwait⟩
  · have hwait : s.mainMove.Deadlocked := by
      rw [hvisit]
      exact ⟨howner, i, t, th, data, rfl, hjoin, hth, hrun, hpc⟩
    exact ⟨[.main], hwait⟩

/-- One room with its monitor thread. -/
def World.monitored : World :=
  let w := World.initial .plain (.zero .plain) 1
  (w.updRoom 0 fun r => { r with state := .running, active := true }).spawn 0

/-- The thread has read while the main thread came to its room. -/
theorem shutdown_deadlocked :
    (exiting.run (Exiting.initial World.monitored)
      [.monitor 0 {}, .signal, .main, .main, .main, .main, .monitor 0 {}]).1.Deadlocked :=
  ⟨rfl, 0, 0, ⟨0, false, false⟩, {}, rfl, rfl, rfl, rfl, rfl⟩

/-- The thread sleeps while the main thread comes to its room. -/
theorem shutdown_asleep :
    let events : List ExitEvent :=
      [.monitor 0 {}, .monitor 0 {}, .monitor 0 {}, .monitor 0 {}, .monitor 0 {}, .signal, .main,
        .main, .main, .main, .monitor 0 {}, .monitor 0 {}, .main, .main, .main]
    (exiting.run (Exiting.initial World.monitored) events).1.main = .finished ∧
      ∀ s ∈ exiting.states (Exiting.initial World.monitored) events, ¬ s.Deadlocked :=
  ⟨by decide, cleanup_not_deadlocked World.monitored _ (by decide)⟩

end ProcessMonitor.Integration
