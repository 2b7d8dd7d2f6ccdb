import ProcessMonitor.Integration.Logger
import ProcessMonitor.Lib.Signals

/-!
# The mutex of the logger

Calls into `src/04-integration/logger.c` by any number of threads, with `signal_handler` of
`main_daemon.c`, which logs, interrupting any of them at any point. `log_mutex` is not recursive.

A thread asks for the mutex it holds in two ways: a signal reaches it while it holds the mutex and
records of the level `INFO` are written, and `logger_cleanup` logs with the mutex held.
`logger_disciplined` says that there is no third one; `signal_deadlocks` and `cleanup_deadlocks` say
that each of the two ends there.
-/

namespace ProcessMonitor.Integration

open CString Logger Prog Signals

/-! ## The threads in the logger -/

/-- What is being run: a call, or `signal_handler` with its signal. -/
abbrev LoggerFrame := Frame Logger (Moment × LoggerCall) (Moment × ℤ)

/-- The threads of the daemon inside the logger. -/
abbrev LoggerThreads := Threads Logger (Moment × LoggerCall) (Moment × ℤ)

/-- The threads under a schedule. -/
def loggerMachine : Machine LoggerThreads (Event (Moment × LoggerCall) (Moment × ℤ)) Unit :=
  machine (fun x => x.2.code x.1) fun x => signalHandler x.1 x.2

/-- `logger_cleanup` does not log here: there is no log file, or `INFO` is not written. -/
def mayLock : (Moment × LoggerCall) ⊕ (Moment × ℤ) → Logger → Bool
  | .inl (_, .cleanup), s => !(s.logFile.isSome && s.logs .info)
  | _, _ => true

/-- `signal_handler` does not log here. -/
def mayInterrupt (_ : Moment × ℤ) (s : Logger) : Bool := !s.logs .info

/-! ## The code of the calls -/

section guarded

variable {takes : Logger → Bool} {s : Logger} {level : LogLevel}

/-- The test of the level outside the mutex may go either way. -/
lemma guarded_filtered {Q : Bool → Option Logger → Prop} (h : ∀ b, Q b none) :
    Guarded takes (filtered level) none Q := by
  rw [filtered_eq]
  intro s
  show Guarded takes (if s.initialized = true then _ else _) none Q
  split_ifs
  · exact fun s' => h _
  · exact h true

/-- With the mutex held, a record that is not written ends the call at once. -/
lemma filtered_held (takes : Logger → Bool) (h : s.logs level = false)
    {Q : Unit → Option Logger → Prop} (hQ : Q () (some s)) (record : Logger → List UInt8) :
    Guarded takes (logRecord level record) (some s) Q ∧ Quiet (logRecord level record) s := by
  have hlevel : s.initialized = true → level.number < s.currentLevel.number := by
    intro hinit
    rw [Logger.logs, hinit, Bool.true_and, decide_eq_false_iff_not, Nat.not_le] at h
    exact h
  rw [logRecord, filtered_eq]
  by_cases hinit : s.initialized = true
  · simp only [get_bind, ret_bind, Guarded, Quiet, if_pos hinit, decide_eq_true (hlevel hinit),
      if_true]
    exact ⟨hQ, trivial⟩
  · simp only [get_bind, ret_bind, Guarded, Quiet, if_neg hinit, if_true]
    exact ⟨hQ, trivial⟩

/-- The rotation keeps the mutex. -/
lemma guarded_rotateLogIfNeeded {Q : Unit → Option Logger → Prop} (h : ∀ s', Q () (some s')) :
    Guarded takes rotateLogIfNeeded (some s) Q := by
  simp only [rotateLogIfNeeded, read_bind, Guarded]
  cases hfile : s.logFile with
  | none => exact h s
  | some path =>
      simp only
      split_ifs
      · exact fun opened => h _
      · exact h s

/-- **A call that logs** takes the mutex and releases it. -/
lemma guarded_logRecord (record : Logger → List UInt8) :
    Guarded takes (logRecord level record) none Free := by
  rw [logRecord, guarded_bind]
  refine guarded_filtered ?_
  intro b
  cases b with
  | true => rfl
  | false =>
      refine ⟨rfl, ?_⟩
      intro s _
      show Guarded takes (rotateLogIfNeeded >>= fun _ => release) (some (s.print (record s))) Free
      rw [guarded_bind]
      exact guarded_rotateLogIfNeeded fun s' => ⟨by simp, rfl⟩

end guarded

/-- The handler does not take the mutex where it may interrupt its holder. -/
lemma quiet_signalHandler (m : Moment) (sig : ℤ) {s : Logger} (h : s.logs .info = false) :
    Quiet (signalHandler m sig) s :=
  (filtered_held (fun _ => true) h (Q := fun _ _ => True) trivial _).2

/-- **Every call** takes the mutex where it may and returns with the mutex released. -/
lemma guarded_code (x : Moment × LoggerCall) :
    Guarded (mayLock (.inl x)) (x.2.code x.1) none Free := by
  obtain ⟨m, c⟩ := x
  cases c with
  | init path level structured =>
      rw [LoggerCall.code, guarded_bind, loggerInit_eq]
      refine ⟨rfl, ?_⟩
      intro s _ opened
      show Guarded _ (if (s.openFile (cstr path) opened).logFile.isNone = true then _ else _) _ _
      split_ifs
      · exact ⟨by simp, rfl⟩
      · refine ⟨by simp, ?_⟩
        rw [guarded_bind]
        exact (guarded_logRecord _).mono fun a h' hfree => hfree
  | log c =>
      obtain ⟨level, record, hcode⟩ := code_eq_logRecord m c
      rw [LoggerCall.code, hcode]
      exact guarded_logRecord record
  | setLevel level => exact ⟨rfl, fun s _ => ⟨by simp, rfl⟩⟩
  | setStructuredMode enable => exact ⟨rfl, fun s _ => ⟨by simp, rfl⟩⟩
  | cleanup =>
      rw [LoggerCall.code, loggerCleanup_eq]
      refine ⟨rfl, ?_⟩
      intro s hs
      show Guarded _ (if s.logFile.isSome = true then _ else _) (some s) Free
      split_ifs with hfile
      · have hlogs : s.logs .info = false := by simpa [mayLock, hfile] using hs
        rw [guarded_bind]
        exact (filtered_held _ hlogs ⟨by simp, rfl⟩ _).1
      · exact ⟨by simp, rfl⟩

/-! ## The discipline -/

/-- **The mutex of the logger.** From any state of the logger, in a run of any threads and calls in
which no signal reaches a thread that holds the mutex while `INFO` is written, and `logger_cleanup`
takes it only with no log file or `INFO` not written, no thread asks for the mutex it holds and
every call returns with the mutex released. -/
theorem logger_disciplined (s : Logger)
    (events : List (Event (Moment × LoggerCall) (Moment × ℤ)))
    (h : ∀ x ∈ loggerMachine.trace (Threads.idle s) events,
      Allowed mayLock mayInterrupt x.1 x.2 = true) :
    ∀ s' ∈ loggerMachine.states (Threads.idle s) events, ¬ s'.Bad := by
  refine never_bad _ _ mayInterrupt guarded_code ?_ ?_ s h
  · intro x
    exact guarded_logRecord _
  · intro x s' hs'
    exact quiet_signalHandler x.1 x.2 (by simpa [mayInterrupt] using hs')

/-- Some steps of a thread, with every `fopen` succeeding. -/
def steps (t n : ℕ) : List (Event (Moment × LoggerCall) (Moment × ℤ)) :=
  List.replicate n (.step t true)

/-- Thread 1 is interrupted while thread 0 logs, and waits; `logger_cleanup` is called once `INFO`
is no longer written, and gets to its end. -/
theorem logger_disciplined_run :
    let m : Moment := ⟨⟨2024, 1, 1, 0, 0, 0⟩, 1, 0⟩
    let events : List (List (Event (Moment × LoggerCall) (Moment × ℤ))) :=
      [[.call 0 (m, .init defaultLogFile .info 1)], steps 0 10, [.signal 1 (m, 15)], steps 1 4,
        steps 0 10, [.call 0 (m, .setLevel .error)], steps 0 5, [.call 0 (m, .cleanup)], steps 0 9]
    (loggerMachine.run (Threads.idle (static fun _ => none))
        events.flatten).1.world.initialized = false ∧
      ∀ s' ∈ loggerMachine.states (Threads.idle (static fun _ => none)) events.flatten,
        ¬ s'.Bad :=
  ⟨by decide +kernel, logger_disciplined _ _ (by decide +kernel)⟩

/-- `logger_init` at the level `INFO`, then `logger_cleanup`: the thread asks for the mutex it
holds. -/
theorem cleanup_asks_again :
    let m : Moment := ⟨⟨2024, 1, 1, 0, 0, 0⟩, 1, 0⟩
    let events : List (List (Event (Moment × LoggerCall) (Moment × ℤ))) :=
      [[.call 0 (m, .init defaultLogFile .info 1)], steps 0 20, [.call 0 (m, .cleanup)],
        steps 0 4]
    (loggerMachine.run (Threads.idle (static fun _ => none)) events.flatten).1.Bad :=
  ⟨0, by decide +kernel⟩

/-! ## The other steps -/

/-- A record that is written asks for the mutex. -/
lemma asks_logRecord {s : Logger} {level : LogLevel} (h : s.logs level = true)
    (record : Logger → List UInt8) : Asks (logRecord level record) s := by
  rw [Logger.logs, Bool.and_eq_true, decide_eq_true_eq] at h
  obtain ⟨hinit, hlevel⟩ := h
  rw [logRecord, filtered_eq]
  simp only [get_bind, ret_bind, Asks, if_pos hinit, decide_eq_false (Nat.not_lt.mpr hlevel),
    Bool.false_eq_true, if_false, acquire_bind]

/-- **A signal that reaches the holder of the mutex** while `INFO` is written: the thread comes to
ask for the mutex it holds. -/
theorem signal_deadlocks {s : LoggerThreads} {t : ℕ} (howner : s.owner = some t)
    (hlogs : s.world.logs .info = true) (x : Moment × ℤ) :
    ∃ n, (loggerMachine.run s (.signal t x :: List.replicate n (.step t true))).1.Bad :=
  bad_of_asks _ _ (s := s.setStack t (⟨.inr x, signalHandler x.1 x.2⟩ :: s.stack t)) howner
    (s.stack_setStack_self t _) (asks_logRecord hlogs _)

/-- **`logger_cleanup` where it logs**: it comes to ask for the mutex it holds. -/
theorem cleanup_deadlocks {s : LoggerThreads} {t : ℕ} {m : Moment} {rest : List LoggerFrame}
    (howner : s.owner = none)
    (hstack : s.stack t = ⟨.inl (m, .cleanup), loggerCleanup m⟩ :: rest)
    (hlock : mayLock (.inl (m, .cleanup)) s.world = false) :
    ∃ n, (loggerMachine.run s (List.replicate n (.step t true))).1.Bad := by
  rw [mayLock, Bool.not_eq_false', Bool.and_eq_true] at hlock
  obtain ⟨hfile, hlogs⟩ := hlock
  rw [loggerCleanup_eq] at hstack
  refine bad_of_lock_asks _ _ howner hstack ?_
  show Asks (if s.world.logFile.isSome = true then _ else _) s.world
  rw [if_pos hfile]
  exact (asks_logRecord hlogs _).bind _

end ProcessMonitor.Integration
