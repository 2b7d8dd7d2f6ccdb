import ProcessMonitor.Integration.Logger
import ProcessMonitor.Lib.Faults

/-!
# The log file is open where it is written

Calls into `src/04-integration/logger.c` by any number of threads. `log_message`,
`log_with_context` and `log_performance` test `initialized` before they take `log_mutex`, and print
to `log_file` without a test. `rotate_log_if_needed` and `logger_cleanup` do test it: a rotation or
a `logger_init` whose `fopen` fails leaves `NULL` there, and so does `logger_cleanup`.

`logger_cleanup` is taken without its own `log_info`, by which it asks for the mutex it holds.

`never_printsOnNull` says under which condition on the releases of the mutex no record is printed
on `NULL`, and `faulty_of_not_safeRelease` that every other release leads there.
-/

namespace ProcessMonitor.Integration

open CString Logger Prog Signals Faults

/-! ## The calls -/

/-- `logger_cleanup` without its call of `log_info`.
Source: `logger.c`, `logger_cleanup` -/
def loggerCleanupSilent : Prog Logger Unit := do
  acquire
  let s ← read
  if s.logFile.isSome then
    update fun s => { s with logFile := none }
  update fun s => { s with initialized := false }
  release

/-- The code of a call, with this `logger_cleanup`. -/
def silentCode (x : Moment × LoggerCall) : Prog Logger Unit :=
  match x.2 with
  | .cleanup => loggerCleanupSilent
  | c => c.code x.1

/-- The step is an `fprintf` and an `fflush`: on an open stream it prints. -/
def prints (f : Logger → Logger) (s : Logger) : Bool :=
  (f { s with logFile := some [] }).printed ≠ s.printed

/-- It is, on a `NULL` stream. -/
def nullPrint (f : Logger → Logger) (s : Logger) : Bool := s.logFile.isNone && prints f s

/-- The threads of the daemon inside the logger. -/
abbrev LogThreads := Threads Logger (Moment × LoggerCall) Empty

/-- The threads under a schedule. -/
def logThreads : Machine LogThreads (Event (Moment × LoggerCall) Empty) Unit := threads silentCode

/-- Some thread is about to print on `NULL`. -/
abbrev PrintsOnNull (s : LogThreads) : Prop := Faulty nullPrint s

/-- If the step releases the mutex with `log_file` `NULL`, the logger is not initialised, and no
thread is past its tests in a call that logs, on its way to the mutex. -/
def SafeRelease (s : LogThreads) (e : Event (Moment × LoggerCall) Empty) : Prop :=
  releases s e = true → s.world.logFile = none →
    s.world.initialized = false ∧
      ∀ t f rest, s.stack t = f :: rest → ¬ Comes nullPrint false f.code s.world

/-! ## What prints -/

/-- With an open stream nothing is printed on `NULL`. -/
lemma not_comes_of_isSome {α : Type} {s : Logger} (h : s.logFile.isSome = true) (held : Bool)
    (p : Prog Logger α) : ¬ Comes nullPrint held p s := by
  have hnone : s.logFile.isNone = false := by
    rw [Option.isSome_iff_exists] at h
    obtain ⟨path, hpath⟩ := h
    rw [hpath]
    rfl
  induction p generalizing held with
  | lock k ih => cases held with
    | false => exact ih true
    | true => exact id
  | get k ih => cases held <;> exact ih s _
  | modify f k _ => cases held <;> simp [Comes, nullPrint, hnone]
  | _ => cases held <;> exact id

/-- A step that leaves the ghost of the records alone does not print. -/
lemma nullPrint_eq_false {f : Logger → Logger} (h : ∀ s, (f s).printed = s.printed) (s : Logger) :
    nullPrint f s = false := by
  rw [nullPrint, prints, h]
  simp

/-! ## The code of the calls -/

section spared

variable {calm : Logger → Prop}

/-- The rotation prints nothing. -/
lemma spared_rotateLogIfNeeded {s : Logger} {Q : Unit → Option Logger → Prop}
    (h : ∀ s', Q () (some s')) : Spared nullPrint calm rotateLogIfNeeded (some s) Q := by
  simp only [rotateLogIfNeeded, read_bind, Spared]
  cases hfile : s.logFile with
  | none => exact h s
  | some path =>
      simp only
      split_ifs
      · refine ⟨nullPrint_eq_false (fun _ => rfl) _, ?_⟩
        intro opened
        refine ⟨nullPrint_eq_false (fun s' => ?_) _, h _⟩
        cases opened <;> rfl
      · exact h s

/-- **A call that logs** prints on `NULL` only if it comes to that when it takes the mutex. -/
lemma spared_logRecord (level : LogLevel) (record : Logger → List UInt8) :
    Spared nullPrint calm (logRecord level record) none Free := by
  have hlocked : Spared nullPrint calm (.lock (.get fun s => .modify (fun s' => s'.print (record s))
      (rotateLogIfNeeded >>= fun _ => release))) none Free := by
    refine ⟨rfl, ?_⟩
    intro s hs
    refine ⟨Bool.eq_false_iff.mpr hs, ?_⟩
    refine (spared_rotateLogIfNeeded fun s' => ⟨fun _ => id, rfl⟩).bind ?_
    intro _ b _
    cases b <;> exact id
  rw [logRecord, filtered_eq]
  intro s
  show Spared nullPrint calm ((if s.initialized = true then _ else _) >>= _) none Free
  split_ifs
  · intro s'
    show Spared nullPrint calm (if decide _ = true then _ else _) none Free
    split_ifs
    · rfl
    · exact hlocked
  · rfl

/-- What only returns does not come to print. -/
lemma not_comes_ret {α : Type} (a : α) (b : Bool) (s : Logger) :
    ¬ Comes nullPrint b (.ret a) s := by
  cases b <;> exact id

/-- **Every call** prints on `NULL` only if it comes to that when it takes the mutex. -/
lemma spared_silentCode (x : Moment × LoggerCall) :
    Spared nullPrint calm (silentCode x) none Free := by
  obtain ⟨m, c⟩ := x
  cases c with
  | init path level structured =>
      have hinit : Spared nullPrint calm (loggerInit m path level structured) none fun _ h =>
          h = none := by
        rw [loggerInit_eq]
        refine ⟨rfl, ?_⟩
        intro s _ opened
        refine ⟨nullPrint_eq_false (fun s' => ?_) s, ?_⟩
        · cases opened <;> rfl
        show Spared _ _ (if (s.openFile (cstr path) opened).logFile.isNone = true then _ else _)
          _ _
        split_ifs with hnone
        · exact ⟨fun _ => id, rfl⟩
        · have hopen : (s.openFile (cstr path) opened).logFile.isSome = true := by
            rw [Option.isNone_iff_eq_none] at hnone
            exact Option.isSome_iff_ne_none.mpr hnone
          refine ⟨nullPrint_eq_false (fun _ => rfl) _, ?_, ?_⟩
          · refine fun _ => not_comes_of_isSome ?_ false _
            exact hopen
          · exact ((spared_logRecord _ _).mono fun _ _ hfree => hfree).bind
              fun _ => not_comes_ret (0 : ℤ)
      exact (hinit.mono fun _ _ hfree => hfree).bind fun _ => not_comes_ret ()
  | log c =>
      obtain ⟨level, record, hcode⟩ := code_eq_logRecord m c
      show Spared nullPrint calm (c.code m) none Free
      rw [hcode]
      exact spared_logRecord level record
  | setLevel level =>
      exact ⟨rfl, fun s _ => ⟨nullPrint_eq_false (fun _ => rfl) s, fun _ => id, rfl⟩⟩
  | setStructuredMode enable =>
      exact ⟨rfl, fun s _ => ⟨nullPrint_eq_false (fun _ => rfl) s, fun _ => id, rfl⟩⟩
  | cleanup =>
      refine ⟨rfl, ?_⟩
      intro s _
      show Spared nullPrint calm (if s.logFile.isSome = true then _ else _) (some s) Free
      split_ifs
      · exact ⟨nullPrint_eq_false (fun _ => rfl) _, nullPrint_eq_false (fun _ => rfl) _,
          fun _ => id, rfl⟩
      · exact ⟨nullPrint_eq_false (fun _ => rfl) _, fun _ => id, rfl⟩

end spared

/-- A call that logs does not come to print without an initialised logger. -/
lemma not_comes_logRecord {s : Logger} (h : s.initialized = false) (level : LogLevel)
    (record : Logger → List UInt8) : ¬ Comes nullPrint false (logRecord level record) s := by
  rw [logRecord, filtered_eq]
  simp only [get_bind, Comes, h]
  exact id

/-- Without an initialised logger no call comes to print. -/
lemma not_comes_silentCode {s : Logger} (h : s.initialized = false) (x : Moment × LoggerCall) :
    ¬ Comes nullPrint false (silentCode x) s := by
  obtain ⟨m, c⟩ := x
  cases c with
  | log c =>
      obtain ⟨level, record, hcode⟩ := code_eq_logRecord m c
      show ¬ Comes nullPrint false (c.code m) s
      rw [hcode]
      exact not_comes_logRecord h level record
  | init path level structured => exact id
  | setLevel level => exact Bool.eq_false_iff.mp (nullPrint_eq_false (fun _ => rfl) s)
  | setStructuredMode enable => exact Bool.eq_false_iff.mp (nullPrint_eq_false (fun _ => rfl) s)
  | cleanup =>
      show ¬ Comes nullPrint true (if s.logFile.isSome = true then _ else _) s
      split_ifs
      · exact Bool.eq_false_iff.mp (nullPrint_eq_false (fun _ => rfl) s)
      · exact Bool.eq_false_iff.mp (nullPrint_eq_false (fun _ => rfl) s)

/-! ## The runs -/

/-- At a safe release no thread and no call comes to print on `NULL`. -/
lemma SafeRelease.harmless {s : LogThreads} {e : Event (Moment × LoggerCall) Empty}
    (h : SafeRelease s e) : Harmless nullPrint silentCode s e := by
  intro hreleases
  cases hfile : s.world.logFile with
  | none =>
      obtain ⟨hinit, hframes⟩ := h hreleases hfile
      exact ⟨hframes, not_comes_silentCode hinit⟩
  | some path =>
      have hopen : s.world.logFile.isSome = true := by
        rw [hfile]
        rfl
      exact ⟨fun _ f _ _ => not_comes_of_isSome hopen false f.code,
        fun x => not_comes_of_isSome hopen false (silentCode x)⟩

/-- Some steps of a thread; `ok` says whether its `fopen` succeeds. -/
def stepsOf (t n : ℕ) (ok : Bool) : List (Event (Moment × LoggerCall) Empty) :=
  List.replicate n (.step t ok)

/-- With `log_file` open a release is safe. -/
lemma safeRelease_of_isSome {s : LogThreads} {e : Event (Moment × LoggerCall) Empty}
    (h : (!releases s e || s.world.logFile.isSome) = true) : SafeRelease s e := by
  intro hreleases hnone
  rw [hreleases, hnone] at h
  cases h

/-- **No record is printed on `NULL`** in a run of any threads and calls, from the logger before
`logger_init`, in which `log_mutex` is released with `log_file` `NULL` only where the logger is not
initialised and no thread is past its tests. -/
theorem never_printsOnNull (files : List UInt8 → Option (List UInt8))
    (events : List (Event (Moment × LoggerCall) Empty))
    (h : ∀ x ∈ logThreads.trace (Threads.idle (static files)) events, SafeRelease x.1 x.2) :
    ∀ s ∈ logThreads.states (Threads.idle (static files)) events, ¬ PrintsOnNull s :=
  never_faulty spared_silentCode (not_comes_silentCode rfl) fun x hx => (h x hx).harmless

/-- Threads 1 and 2 log at the same time, while thread 0 opens the logger and sets its level. -/
theorem never_printsOnNull_run :
    let m : Moment := ⟨⟨2024, 1, 1, 0, 0, 0⟩, 1, 0⟩
    let events : List (List (Event (Moment × LoggerCall) Empty)) :=
      [[.call 0 (m, .init defaultLogFile .info 1)], stepsOf 0 20 true,
        [.call 1 (m, .log (.message .fatal [])), .call 2 (m, .log (.context .warn [] [] 7 []))],
        stepsOf 1 4 true, stepsOf 2 3 true, stepsOf 1 9 true, stepsOf 2 9 true,
        [.call 0 (m, .setLevel .error)], stepsOf 0 5 true]
    (logThreads.run (Threads.idle (static fun _ => none)) events.flatten).1.world.printed.length
        = 3 ∧
      ∀ s ∈ logThreads.states (Threads.idle (static fun _ => none)) events.flatten,
        ¬ PrintsOnNull s := by
  intro m events
  have hopen : (logThreads.trace (Threads.idle (static fun _ => none)) events.flatten).all
      (fun x => !releases x.1 x.2 || x.1.world.logFile.isSome) = true := by
    decide +kernel
  refine ⟨by decide +kernel, never_printsOnNull _ _ ?_⟩
  intro x hx
  exact safeRelease_of_isSome (List.all_eq_true.mp hopen x hx)

/-- `logger_cleanup` while another thread is past its tests: the record is printed on `NULL`. -/
theorem cleanup_prints_on_null :
    let m : Moment := ⟨⟨2024, 1, 1, 0, 0, 0⟩, 1, 0⟩
    let events : List (List (Event (Moment × LoggerCall) Empty)) :=
      [[.call 0 (m, .init defaultLogFile .info 1)], stepsOf 0 20 true,
        [.call 1 (m, .log (.message .fatal []))], stepsOf 1 2 true,
        [.call 0 (m, .cleanup)], stepsOf 0 7 true, stepsOf 1 2 true]
    ¬ ∀ s ∈ logThreads.states (Threads.idle (static fun _ => none)) events.flatten,
      ¬ PrintsOnNull s := by
  intro m events hall
  have hfaulty : (logThreads.states (Threads.idle (static fun _ => none))
      events.flatten).any (fun s => faultyAt nullPrint s 1) = true := by
    decide +kernel
  rw [List.any_eq_true] at hfaulty
  obtain ⟨s, hs, hat⟩ := hfaulty
  exact hall s hs ⟨1, hat⟩

/-! ## The other releases -/

/-- A record that is written comes to be printed on a `NULL` stream. -/
lemma comes_logRecord {s : Logger} {level : LogLevel} (hlogs : s.logs level = true)
    (hfile : s.logFile = none) (record : Logger → List UInt8) :
    Comes nullPrint false (logRecord level record) s := by
  rw [Logger.logs, Bool.and_eq_true, decide_eq_true_eq] at hlogs
  obtain ⟨hinit, hlevel⟩ := hlogs
  rw [logRecord, filtered_eq]
  simp only [get_bind, ret_bind, Comes, if_pos hinit, decide_eq_false (Nat.not_lt.mpr hlevel),
    Bool.false_eq_true, if_false]
  show nullPrint (fun s' => s'.print (record s)) s = true
  simp [nullPrint, prints, Logger.print, hfile]

/-- **A release that is not safe**: some thread, or the next call of one that is idle, comes to
print on `NULL`. -/
theorem faulty_of_not_safeRelease {s : LogThreads} {e : Event (Moment × LoggerCall) Empty}
    (h : ¬ SafeRelease s e) {u : ℕ} (hidle : s.stack u = []) (m : Moment) :
    ∃ events, PrintsOnNull (logThreads.run s (e :: events)).1 := by
  rw [SafeRelease] at h
  push Not at h
  obtain ⟨hreleases, hfile, hnot⟩ := h
  obtain ⟨hfree, hworld, hstacks⟩ := step_of_releases silentCode hreleases
  by_cases hinit : s.world.initialized = true
  · have hlogs : s.world.logs .fatal = true := by
      rw [Logger.logs, hinit, Bool.true_and, decide_eq_true_eq]
      cases s.world.currentLevel <;> simp [LogLevel.number]
    let x : Moment × LoggerCall := (m, .log (.message .fatal []))
    have hcall : (logThreads.step (logThreads.step s e).1 (.call u x)).1 =
        (logThreads.step s e).1.setStack u [⟨.inl x, silentCode x⟩] := by
      have hempty : (logThreads.step s e).1.stack u = [] := by
        refine (hstacks u ?_).trans hidle
        intro c k rest hstack
        rw [hidle] at hstack
        cases hstack
      show (if ((logThreads.step s e).1.stack u).isEmpty then _ else _) = _
      rw [hempty]
      rfl
    have hcomes : Comes nullPrint false (silentCode x) (logThreads.step s e).1.world := by
      have hprints : Comes nullPrint false (silentCode x) s.world := comes_logRecord hlogs hfile _
      exact hworld.symm ▸ hprints
    obtain ⟨n, hn⟩ := faulty_of_comes silentCode
      (s := (logThreads.step (logThreads.step s e).1 (.call u x)).1) (by rw [hcall]; exact hfree)
      (by rw [hcall, Threads.stack_setStack_self]) (by rw [hcall]; exact hcomes)
    exact ⟨.call u x :: List.replicate n (.step u true), hn⟩
  · obtain ⟨t, f, rest, hstack, hcomes⟩ := hnot (Bool.eq_false_iff.mpr hinit)
    have hsame : (logThreads.step s e).1.stack t = f :: rest := by
      refine (hstacks t ?_).trans hstack
      intro c k rest' hunlock
      obtain rfl := (List.cons.inj (hstack.symm.trans hunlock)).1
      exact hcomes
    have hcomes' : Comes nullPrint false f.code (logThreads.step s e).1.world :=
      hworld.symm ▸ hcomes
    obtain ⟨n, hn⟩ := faulty_of_comes silentCode hfree hsame hcomes'
    exact ⟨List.replicate n (.step t true), hn⟩

end ProcessMonitor.Integration
