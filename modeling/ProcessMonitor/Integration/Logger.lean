import ProcessMonitor.Integration.Configuration
import ProcessMonitor.Lib.Generations
import ProcessMonitor.Lib.LockProg

/-!
# The logger

`logger.c` of `src/04-integration`, and `signal_handler` of `main_daemon.c`, which logs. Each
function is a program on the state of the logger under `log_mutex`; the log files stand in a store
by their paths. What a call finds in its environment (the time, its process and its thread) is a
`Moment`, and whether an `fopen` succeeds the environment decides. The text that `vsnprintf` makes
of a format and its arguments is given.

Two fields of the state are ghosts, which no function reads: the records printed so far, and how
often the log was rotated.
-/

namespace ProcessMonitor.Integration

open CString Decimal

/-! ## The state -/

/-- `MAX_LOG_LENGTH` -/
def maxLogLength : ℕ := 2048
/-- `LOG_FILE_SIZE_LIMIT` -/
def logFileSizeLimit : ℕ := 10485760
/-- `LOG_FILES_TO_KEEP` -/
def logFilesToKeep : ℕ := 5

/-- A C string that fits in `log_path[256]`. -/
structure LogPath where
  text : List UInt8
  length_lt : text.length < 256

/-- What `strncpy` and the terminator behind it leave of a path. -/
def LogPath.copy (path : List UInt8) : LogPath where
  text := (cstr path).take 255
  length_lt := by
    rw [List.length_take]
    omega

/-- The number of a level in `log_level_t`. -/
def LogLevel.number : LogLevel → ℕ
  | .trace => 0
  | .debug => 1
  | .info => 2
  | .warn => 3
  | .error => 4
  | .fatal => 5

/-- Source: `logger.c`, `logger_context_t`, with the files by their paths and the two ghosts.
`logFile` is the path that the stream was opened on, `none` for `NULL`. -/
structure Logger where
  logFile : Option (List UInt8)
  logPath : LogPath
  currentLevel : LogLevel
  initialized : Bool
  structuredMode : ℤ
  files : List UInt8 → Option (List UInt8)
  printed : List (List UInt8)
  rotations : ℕ

/-- The fields of `struct tm` that the format shows, with the year and the month as shown. -/
structure Tm where
  year : ℤ
  month : Fin 13
  day : Fin 32
  hour : Fin 24
  minute : Fin 60
  second : Fin 61

/-- What a call finds in its environment: the local time, `getpid()` and `pthread_self()`. -/
structure Moment where
  time : Tm
  pid : ℤ
  thread : ℕ

/-- Source: `logger.c`, `get_timestamp`. The text fits in its 32 bytes, the year being an `int`. -/
def getTimestamp (t : Tm) : List UInt8 :=
  intText t.year ++ bytes "-" ++ twoDigits t.month ++ bytes "-" ++ twoDigits t.day ++ bytes " " ++
    twoDigits t.hour ++ bytes ":" ++ twoDigits t.minute ++ bytes ":" ++ twoDigits t.second

/-! ## Escaping -/

/-- `isprint` in the "C" locale. -/
def isprint (b : UInt8) : Bool := 32 ≤ b && b ≤ 126

/-- The bytes that the switch writes as a backslash and another byte. -/
def escapeLetter (b : UInt8) : Option UInt8 :=
  if b = 10 then some 110
  else if b = 13 then some 114
  else if b = 9 then some 116
  else if b = 34 then some 34
  else if b = 92 then some 92
  else none

/-- The body of the loop, with `output` for the bytes written so far. -/
def escapeStep (outputSize : ℕ) (output : List UInt8) (b : UInt8) : List UInt8 :=
  match escapeLetter b with
  | some c => if output.length < outputSize - 3 then output ++ [92, c] else output
  | none => if isprint b then output ++ [b] else output

/-- The loop. -/
def escapeLoop (outputSize : ℕ) : List UInt8 → List UInt8 → List UInt8
  | output, [] => output
  | output, b :: input =>
      if output.length < outputSize - 2 then
        escapeLoop outputSize (escapeStep outputSize output b) input
      else output

/-- Source: `logger.c`, `escape_json_string` -/
def escapeJsonString (input : List UInt8) (outputSize : ℕ) : List UInt8 :=
  escapeLoop outputSize [] (cstr input)

/-- `escaped_message` -/
def escapedMessage (message : List UInt8) : List UInt8 :=
  escapeJsonString message (maxLogLength * 2)

/-! ## The records -/

section records

variable (s : Logger) (m : Moment)

/-- The `fprintf` of `log_message`. -/
def messageRecord (level : LogLevel) (file : List UInt8) (line : ℤ) (func message : List UInt8) :
    List UInt8 :=
  if s.structuredMode ≠ 0 then
    bytes "\x7b\"timestamp\":\"" ++ getTimestamp m.time ++
      bytes "\",\"level\":\"" ++ level.text ++
      bytes "\",\"file\":\"" ++ cstr file ++
      bytes "\",\"line\":" ++ intText line ++
      bytes ",\"function\":\"" ++ cstr func ++
      bytes "\",\"message\":\"" ++ escapedMessage message ++
      bytes "\",\"pid\":" ++ intText m.pid ++
      bytes ",\"thread\":\"0x" ++ hexText m.thread ++ bytes "\"\x7d\n"
  else
    bytes "[" ++ getTimestamp m.time ++ bytes "] [" ++ level.text ++ bytes "] [" ++ cstr file ++
      bytes ":" ++ intText line ++ bytes ":" ++ cstr func ++ bytes "] [PID:" ++ intText m.pid ++
      bytes "] " ++ message ++ bytes "\n"

/-- The `fprintf` of `log_with_context`. -/
def contextRecord (level : LogLevel) (component function : List UInt8) (line : ℤ)
    (message : List UInt8) : List UInt8 :=
  if s.structuredMode ≠ 0 then
    bytes "\x7b\"timestamp\":\"" ++ getTimestamp m.time ++
      bytes "\",\"level\":\"" ++ level.text ++
      bytes "\",\"component\":\"" ++ cstr component ++
      bytes "\",\"function\":\"" ++ cstr function ++
      bytes "\",\"line\":" ++ intText line ++
      bytes ",\"message\":\"" ++ escapedMessage message ++
      bytes "\",\"pid\":" ++ intText m.pid ++ bytes "\x7d\n"
  else
    bytes "[" ++ getTimestamp m.time ++ bytes "] [" ++ level.text ++ bytes "] [" ++
      cstr component ++ bytes ":" ++ cstr function ++ bytes ":" ++ intText line ++ bytes "] " ++
      message ++ bytes "\n"

/-- The `fprintf` of `log_performance`. -/
def performanceRecord (operation : List UInt8) (negative : Bool) (durationMs : ℚ≥0) :
    List UInt8 :=
  if s.structuredMode ≠ 0 then
    bytes "\x7b\"timestamp\":\"" ++ getTimestamp m.time ++
      bytes "\",\"level\":\"PERF\",\"operation\":\"" ++ cstr operation ++
      bytes "\",\"duration_ms\":" ++ fixed3Text negative durationMs ++
      bytes ",\"pid\":" ++ intText m.pid ++ bytes "\x7d\n"
  else
    bytes "[" ++ getTimestamp m.time ++ bytes "] [PERF] " ++ cstr operation ++ bytes " took " ++
      fixed3Text negative durationMs ++ bytes " ms\n"

end records

/-! ## The files -/

namespace Logger

/-- The name of a backup: `"%s.%d"` into `old_name[300]`, `new_name[300]` or `backup_name[300]`. -/
def backupName (path : LogPath) (i : ℕ) : List UInt8 :=
  snprintf 300 (path.text ++ bytes "." ++ natText i)

variable (s : Logger)

/-- `fopen(path, "a")` into `log_file`; the file is created when there is none. -/
def openFile (path : List UInt8) (opened : Bool) : Logger :=
  if opened then { s with logFile := some path, files := extend s.files path [] }
  else { s with logFile := none }

/-- `fprintf` and `fflush`; on a `NULL` stream nothing is printed. -/
def print (record : List UInt8) : Logger :=
  match s.logFile with
  | some path =>
      { s with files := extend s.files path record, printed := s.printed ++ [record] }
  | none => s

/-- What `ftell` says at the end of the log file. -/
def size (path : List UInt8) : ℕ := ((s.files path).getD []).length

/-- `fclose` and the renames of a rotation. -/
def moveFiles : Logger :=
  let files := renameChain (backupName s.logPath) (logFilesToKeep - 1) s.files
  { s with
    logFile := none
    files := rename files s.logPath.text (backupName s.logPath 0)
    rotations := s.rotations + 1 }

/-- The logger before `logger_init`. Source: `logger.c`, the initializer of `logger_ctx` -/
def static (files : List UInt8 → Option (List UInt8)) : Logger where
  logFile := none
  logPath := ⟨[], by decide⟩
  currentLevel := .info
  initialized := false
  structuredMode := 0
  files := files
  printed := []
  rotations := 0

/-- A record of this level is written. -/
def logs (level : LogLevel) : Bool :=
  s.initialized && s.currentLevel.number ≤ level.number

end Logger

open Logger Prog

/-- Source: `logger.c`, `rotate_log_if_needed` -/
def rotateLogIfNeeded : Prog Logger Unit := do
  let s ← read
  match s.logFile with
  | none => return
  | some path =>
      if logFileSizeLimit ≤ s.size path then
        update moveFiles
        let opened ← outcome
        update fun s => s.openFile s.logPath.text opened

/-! ## The functions -/

/-- `!logger_ctx.initialized || level < logger_ctx.current_level`, which is read without the
mutex. -/
def filtered (level : LogLevel) : Prog Logger Bool := do
  let s ← read
  if s.initialized then
    let s ← read
    return level.number < s.currentLevel.number
  else return true

/-- The test, step by step. -/
lemma filtered_eq (level : LogLevel) :
    filtered level = .get fun s =>
      if s.initialized then .get fun s => .ret (level.number < s.currentLevel.number)
      else .ret true := rfl

/-- What `log_message`, `log_with_context` and `log_performance` do with their record. -/
def logRecord (level : LogLevel) (record : Logger → List UInt8) : Prog Logger Unit := do
  if ← filtered level then return
  acquire
  let s ← read
  update fun s' => s'.print (record s)
  rotateLogIfNeeded
  release

section functions

variable (m : Moment)

/-- Source: `logger.c`, `log_message` -/
def logMessage (level : LogLevel) (file : List UInt8) (line : ℤ) (func text : List UInt8) :
    Prog Logger Unit :=
  logRecord level fun s =>
    messageRecord s m level file line func (cstr (snprintf maxLogLength text))

/-- `__FILE__` in `logger.c`. -/
def sourceFile : List UInt8 := bytes "logger.c"

/-- Source: `logger.c`, `log_trace` -/
def logTrace (text : List UInt8) : Prog Logger Unit :=
  logMessage m .trace sourceFile 206 (bytes "log_trace") text

/-- Source: `logger.c`, `log_debug` -/
def logDebug (text : List UInt8) : Prog Logger Unit :=
  logMessage m .debug sourceFile 213 (bytes "log_debug") text

/-- Source: `logger.c`, `log_info` -/
def logInfo (text : List UInt8) : Prog Logger Unit :=
  logMessage m .info sourceFile 220 (bytes "log_info") text

/-- Source: `logger.c`, `log_warn` -/
def logWarn (text : List UInt8) : Prog Logger Unit :=
  logMessage m .warn sourceFile 227 (bytes "log_warn") text

/-- Source: `logger.c`, `log_error` -/
def logError (text : List UInt8) : Prog Logger Unit :=
  logMessage m .error sourceFile 234 (bytes "log_error") text

/-- Source: `logger.c`, `log_fatal` -/
def logFatal (text : List UInt8) : Prog Logger Unit :=
  logMessage m .fatal sourceFile 241 (bytes "log_fatal") text

/-- Source: `logger.c`, `log_with_context` -/
def logWithContext (level : LogLevel) (component function : List UInt8) (line : ℤ)
    (text : List UInt8) : Prog Logger Unit :=
  logRecord level fun s =>
    contextRecord s m level component function line (cstr (snprintf maxLogLength text))

/-- Source: `logger.c`, `log_performance` -/
def logPerformance (operation : List UInt8) (negative : Bool) (durationMs : ℚ≥0) :
    Prog Logger Unit :=
  logRecord .debug fun s => performanceRecord s m operation negative durationMs

/-- What `logger_init` logs. -/
def initText (path : List UInt8) (level : LogLevel) (structured : ℤ) : List UInt8 :=
  bytes "Logger initialized: path=" ++ cstr path ++ bytes ", level=" ++ level.text ++
    bytes ", structured=" ++ if structured ≠ 0 then bytes "yes" else bytes "no"

/-- Source: `logger.c`, `logger_init` -/
def loggerInit (path : List UInt8) (level : LogLevel) (structured : ℤ) : Prog Logger ℤ := do
  acquire
  let opened ← outcome
  update fun s => s.openFile (cstr path) opened
  let s ← read
  if s.logFile.isNone then
    release
    return -1
  update fun s =>
    { s with
      logPath := .copy path
      currentLevel := level
      structuredMode := structured
      initialized := true }
  release
  logInfo m (initText path level structured)
  return 0

/-- Source: `logger.c`, `logger_set_level` -/
def loggerSetLevel (level : LogLevel) : Prog Logger Unit := do
  acquire
  update fun s => { s with currentLevel := level }
  release

/-- Source: `logger.c`, `logger_set_structured_mode` -/
def loggerSetStructuredMode (enable : ℤ) : Prog Logger Unit := do
  acquire
  update fun s => { s with structuredMode := enable }
  release

/-- Source: `logger.c`, `logger_cleanup` -/
def loggerCleanup : Prog Logger Unit := do
  acquire
  let s ← read
  if s.logFile.isSome then
    logInfo m (bytes "Logger shutting down")
    update fun s => { s with logFile := none }
  update fun s => { s with initialized := false }
  release

/-- What `signal_handler` does before it clears `running`.
Source: `main_daemon.c`, `signal_handler` -/
def signalHandler (sig : ℤ) : Prog Logger Unit :=
  logInfo m (bytes "Received signal " ++ intText sig ++ bytes ", stopping daemon")

/-- `logger_init` step by step. -/
lemma loggerInit_eq (path : List UInt8) (level : LogLevel) (structured : ℤ) :
    loggerInit m path level structured =
      .lock (.choose fun opened => .modify (fun s => s.openFile (cstr path) opened) (.get fun s =>
        if s.logFile.isNone then .unlock (.ret (-1))
        else .modify (fun s =>
            { s with
              logPath := .copy path
              currentLevel := level
              structuredMode := structured
              initialized := true })
          (.unlock (logInfo m (initText path level structured) >>= fun _ => .ret 0)))) := rfl

/-- `logger_cleanup` step by step. -/
lemma loggerCleanup_eq :
    loggerCleanup m =
      .lock (.get fun s =>
        if s.logFile.isSome then
          logInfo m (bytes "Logger shutting down") >>= fun _ =>
            .modify (fun s => { s with logFile := none })
              (.modify (fun s => { s with initialized := false }) (.unlock (.ret ())))
        else .modify (fun s => { s with initialized := false }) (.unlock (.ret ()))) := rfl

end functions

/-! ## The calls -/

/-- A call that logs. -/
inductive LogCall
  /-- One of `log_trace` to `log_fatal`, with the text that its format gives. -/
  | message (level : LogLevel) (text : List UInt8)
  | context (level : LogLevel) (component function : List UInt8) (line : ℤ) (text : List UInt8)
  | performance (operation : List UInt8) (negative : Bool) (durationMs : ℚ≥0)

/-- A call into the logger. -/
inductive LoggerCall
  | init (path : List UInt8) (level : LogLevel) (structured : ℤ)
  | log (c : LogCall)
  | setLevel (level : LogLevel)
  | setStructuredMode (enable : ℤ)
  | cleanup

/-- The code of a call that logs. -/
def LogCall.code (m : Moment) : LogCall → Prog Logger Unit
  | .message .trace text => logTrace m text
  | .message .debug text => logDebug m text
  | .message .info text => logInfo m text
  | .message .warn text => logWarn m text
  | .message .error text => logError m text
  | .message .fatal text => logFatal m text
  | .context level component function line text =>
      logWithContext m level component function line text
  | .performance operation negative durationMs => logPerformance m operation negative durationMs

/-- The code of a call. -/
def LoggerCall.code (m : Moment) : LoggerCall → Prog Logger Unit
  | .init path level structured => do let _ ← loggerInit m path level structured
  | .log c => c.code m
  | .setLevel level => loggerSetLevel level
  | .setStructuredMode enable => loggerSetStructuredMode enable
  | .cleanup => loggerCleanup m

/-- The names of the functions and the lines in `logger.c` that `log_trace` to `log_fatal` give. -/
def LogLevel.function : LogLevel → List UInt8 × ℤ
  | .trace => (bytes "log_trace", 206)
  | .debug => (bytes "log_debug", 213)
  | .info => (bytes "log_info", 220)
  | .warn => (bytes "log_warn", 227)
  | .error => (bytes "log_error", 234)
  | .fatal => (bytes "log_fatal", 241)

/-- The level of a call that logs. -/
def LogCall.level : LogCall → LogLevel
  | .message level _ | .context level _ _ _ _ => level
  | .performance .. => .debug

/-- The record of a call that logs. -/
def LogCall.record (m : Moment) (c : LogCall) (s : Logger) : List UInt8 :=
  match c with
  | .message level text =>
      messageRecord s m level sourceFile level.function.2 level.function.1
        (cstr (snprintf maxLogLength text))
  | .context level component function line text =>
      contextRecord s m level component function line (cstr (snprintf maxLogLength text))
  | .performance operation negative durationMs =>
      performanceRecord s m operation negative durationMs

/-- The calls that log differ in the level and the record. -/
lemma LogCall.code_eq (m : Moment) (c : LogCall) : c.code m = logRecord c.level (c.record m) := by
  cases c with
  | message level text => cases level <;> rfl
  | context level component function line text => rfl
  | performance operation negative durationMs => rfl

/-- A call that logs is one of the records. -/
lemma code_eq_logRecord (m : Moment) (c : LogCall) :
    ∃ level record, c.code m = logRecord level record := ⟨_, _, c.code_eq m⟩

/-! ## One call alone -/

/-- The logger after a program, where `opened` says whether `fopen` succeeds. -/
def Logger.after (opened : Bool) (p : Prog Logger Unit) (s : Logger) : Logger :=
  (p.run opened id s).1

/-- The logger after the test of the size. -/
def Logger.rotated (opened : Bool) (s : Logger) : Logger := s.after opened rotateLogIfNeeded

section alone

variable (opened : Bool) (s : Logger)

/-- A log file below the limit stays. -/
lemma rotated_of_lt {path : List UInt8} (hfile : s.logFile = some path)
    (h : s.size path < logFileSizeLimit) : s.rotated opened = s := by
  simp only [Logger.rotated, Logger.after, rotateLogIfNeeded, read_bind, Prog.run, hfile]
  rw [if_neg (Nat.not_le.mpr h)]
  rfl

/-- A log file of the limit or more becomes a backup. -/
lemma rotated_of_le {path : List UInt8} (hfile : s.logFile = some path)
    (h : logFileSizeLimit ≤ s.size path) :
    s.rotated opened = s.moveFiles.openFile s.logPath.text opened := by
  simp only [Logger.rotated, Logger.after, rotateLogIfNeeded, read_bind, Prog.run, hfile]
  rw [if_pos h]
  rfl

/-- Without a log file nothing happens. -/
lemma rotated_of_none (hfile : s.logFile = none) : s.rotated opened = s := by
  simp only [Logger.rotated, Logger.after, rotateLogIfNeeded, read_bind, Prog.run, hfile]
  rfl

/-- A rotation prints nothing. -/
lemma printed_rotated : (s.rotated opened).printed = s.printed := by
  cases hfile : s.logFile with
  | none => rw [rotated_of_none opened s hfile]
  | some path =>
      rcases Nat.lt_or_ge (s.size path) logFileSizeLimit with h | h
      · rw [rotated_of_lt opened s hfile h]
      · rw [rotated_of_le opened s hfile h]
        cases opened <;> rfl

/-- The test leaves the logger alone. -/
lemma run_filtered (level : LogLevel) :
    (filtered level).run opened id s = (s, !s.logs level) := by
  rw [filtered_eq, Prog.run, Logger.logs]
  cases hinit : s.initialized with
  | false => rfl
  | true =>
      have hlevel : decide (level.number < s.currentLevel.number) =
          !decide (s.currentLevel.number ≤ level.number) := by
        rw [← decide_not]
        exact decide_eq_decide.mpr Nat.not_le.symm
      show (s, decide (level.number < s.currentLevel.number)) = _
      rw [hlevel]
      rfl

/-- **A call that logs** prints its record and rotates, or does nothing. -/
lemma after_logRecord (level : LogLevel) (record : Logger → List UInt8) :
    s.after opened (logRecord level record) =
      if s.logs level then (s.print (record s)).rotated opened else s := by
  rw [Logger.after, logRecord, run_bind, run_filtered]
  cases hlogs : s.logs level with
  | false => rfl
  | true =>
      simp only [Bool.not_true, if_true, acquire_bind, read_bind, update_bind]
      show (((rotateLogIfNeeded >>= fun _ => release).run opened id (s.print (record s))).1) = _
      rw [run_bind]
      rfl

end alone

end ProcessMonitor.Integration
