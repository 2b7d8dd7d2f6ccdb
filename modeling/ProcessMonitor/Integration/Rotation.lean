import ProcessMonitor.Integration.ConfigRoundTrip
import ProcessMonitor.Integration.Logger
import ProcessMonitor.Lib.Machine

/-!
# What a rotation loses

`rotate_log_if_needed` of `src/04-integration/logger.c` seen as the rotation of a log in
generations: the backups `.0` to `.4` are the kept generations, the newest first
(`Logger.Represents`). `history_kept` is the answer: from no log files on, the backups from the
oldest to the newest and the current file are the records written, less the oldest ones, all of
them while there were at most five rotations, and each file has the size it should have.

`printed_history` says which records these are, and `length_logPath_load` that the path `main`
passes to `logger_init` fits in the logger's array.
-/

namespace ProcessMonitor.Integration

open CString Decimal Logger Prog Scanf

/-! ## The files of the logger -/

namespace Logger

variable (s : Logger)

/-- What is in a backup, nothing when there is none. -/
def backup (i : ℕ) : List UInt8 := (s.files (backupName s.logPath i)).getD []

/-- What is in the current file. -/
def current : List UInt8 := (s.files s.logPath.text).getD []

/-- The backups, the oldest first, and the current file. -/
def onDisk : List UInt8 :=
  s.backup 4 ++ s.backup 3 ++ s.backup 2 ++ s.backup 1 ++ s.backup 0 ++ s.current

end Logger

/-- The bytes of the longest record. -/
def longest (records : List (List UInt8)) : ℕ := (records.map List.length).foldr max 0

lemma length_le_longest {records : List (List UInt8)} {r : List UInt8} (h : r ∈ records) :
    r.length ≤ longest records := by
  induction records with
  | nil => cases h
  | cons x records ih =>
      have hcons : longest (x :: records) = max x.length (longest records) := rfl
      rw [hcons]
      rcases List.mem_cons.mp h with rfl | hmem
      · exact le_max_left _ _
      · exact le_max_of_le_right (ih hmem)

/-! ## The names -/

section names

variable (path : LogPath)

/-- A name is printed whole. -/
lemma backupName_eq {i : ℕ} (h : i < logFilesToKeep) :
    backupName path i = path.text ++ (46 :: natText i) := by
  have hi : i < 10 ^ 1 := lt_trans h (by decide)
  have hdigits := length_natText_le Nat.one_pos hi
  have hpath := path.length_lt
  have htext : path.text ++ bytes "." ++ natText i = path.text ++ (46 :: natText i) :=
    List.append_assoc ..
  rw [backupName, htext, snprintf_eq_self]
  rw [List.length_append, List.length_cons]
  omega

lemma backupName_ne {i : ℕ} (h : i < logFilesToKeep) : backupName path i ≠ path.text := by
  rw [backupName_eq path h]
  intro heq
  have hlength := congrArg List.length heq
  rw [List.length_append, List.length_cons] at hlength
  omega

lemma backupName_injOn : Set.InjOn (backupName path) (Set.Iio logFilesToKeep) := by
  intro i hi j hj heq
  rw [backupName_eq path hi, backupName_eq path hj] at heq
  have htext : natText i = natText j := (List.cons.inj (List.append_cancel_left heq)).2
  rw [← digitsVal_natText i, htext, digitsVal_natText]

end names

/-! ## The generations of the logger -/

/-- A current file of the limit or more. -/
def fullFile (records : List (List UInt8)) : Bool := logFileSizeLimit ≤ records.flatten.length

lemma fullFile_nil : fullFile [] = false := rfl

/-- The files are the generations, and the ghosts say what was written and how often the log was
rotated. -/
structure Logger.Represents (s : Logger) (g : Generations (List UInt8)) : Prop where
  file : s.logFile = some s.logPath.text
  holds : Holds (backupName s.logPath) s.logPath.text logFilesToKeep s.files g
  filled : g.Filled logFilesToKeep fullFile
  printed : g.all = s.printed
  rotations : g.rotations = s.rotations

section represents

variable {s : Logger} {g : Generations (List UInt8)} (h : s.Represents g)
include h

/-- **A record is a record of the generations.** -/
lemma represents_record (r : List UInt8) :
    ((s.print r).rotated true).Represents (g.push logFilesToKeep fullFile r) := by
  have hcurrent : ∀ i < logFilesToKeep, backupName s.logPath i ≠ s.logPath.text :=
    fun i hi => backupName_ne s.logPath hi
  have hprint : s.print r = { s with
      files := extend s.files s.logPath.text r
      printed := s.printed ++ [r] } := by
    rw [print, h.file]
  have hwrite := h.holds.write hcurrent r
  have hfilled := Generations.filled_push fullFile_nil h.filled r
  have hall : (g.push logFilesToKeep fullFile r).all = s.printed ++ [r] := by
    rw [Generations.all_push, h.printed]
  have hsize : (s.print r).size s.logPath.text = (g.write r).current.flatten.length := by
    rw [hprint]
    show ((extend s.files s.logPath.text r s.logPath.text).getD []).length = _
    rw [hwrite.current]
    rfl
  have hfile : (s.print r).logFile = some s.logPath.text := by
    rw [hprint]
    exact h.file
  by_cases hfull : fullFile (g.write r).current = true
  · have hle : logFileSizeLimit ≤ (s.print r).size s.logPath.text := by
      rw [hsize]
      exact of_decide_eq_true hfull
    rw [rotated_of_le true (s.print r) hfile hle, hprint]
    rw [Generations.push, if_pos hfull] at hfilled hall ⊢
    exact ⟨rfl, holds_rotateStore hcurrent (backupName_injOn s.logPath) (by decide) hwrite,
      hfilled, hall, congrArg (· + 1) h.rotations⟩
  · have hlt : (s.print r).size s.logPath.text < logFileSizeLimit := by
      rw [hsize]
      exact Nat.lt_of_not_le fun hle => hfull (decide_eq_true hle)
    rw [rotated_of_lt true (s.print r) hfile hlt, hprint]
    rw [Generations.push, if_neg hfull] at hfilled hall ⊢
    exact ⟨h.file, hwrite, hfilled, hall, h.rotations⟩

/-- A call that logs writes a record or nothing. -/
lemma represents_logRecord (level : LogLevel) (record : Logger → List UInt8) :
    ∃ g', (s.after true (logRecord level record)).Represents g' := by
  rw [after_logRecord]
  split_ifs
  · exact ⟨_, represents_record h (record s)⟩
  · exact ⟨g, h⟩

end represents

/-! ## Sequences of calls -/

/-- The call is neither `logger_init` nor `logger_cleanup`. -/
def LoggerCall.keepsFile : LoggerCall → Bool
  | .init .. | .cleanup => false
  | _ => true

/-- The calls one after another, with every `fopen` succeeding. -/
def logging : Machine Logger (Moment × LoggerCall) Unit where
  step s x := (s.after true (x.2.code x.1), ())

/-- **A call keeps the generations.** -/
lemma represented_step {s : Logger} (h : ∃ g, s.Represents g) (m : Moment) (c : LoggerCall)
    (hc : c.keepsFile = true) : ∃ g, (s.after true (c.code m)).Represents g := by
  obtain ⟨g, hg⟩ := h
  cases c with
  | init path level structured => cases hc
  | log c =>
      obtain ⟨level, record, hcode⟩ := code_eq_logRecord m c
      rw [LoggerCall.code, hcode]
      exact represents_logRecord hg level record
  | setLevel level => exact ⟨g, hg.file, hg.holds, hg.filled, hg.printed, hg.rotations⟩
  | setStructuredMode enable => exact ⟨g, hg.file, hg.holds, hg.filled, hg.printed, hg.rotations⟩
  | cleanup => cases hc

/-- A path that fits is copied whole. -/
lemma LogPath.text_copy {path : List UInt8} (h : (cstr path).length < 256) :
    (LogPath.copy path).text = cstr path := List.take_of_length_le (by omega)

/-- There are no log files of this path. -/
def NoLogFiles (files : List UInt8 → Option (List UInt8)) (path : List UInt8) : Prop :=
  files (cstr path) = none ∧ ∀ i < logFilesToKeep, files (backupName (.copy path) i) = none

/-- The logger when `logger_init` has opened the log and is to log that. -/
def Logger.opened (files : List UInt8 → Option (List UInt8)) (path : List UInt8) (level : LogLevel)
    (structured : ℤ) : Logger where
  logFile := some (cstr path)
  logPath := .copy path
  currentLevel := level
  initialized := true
  structuredMode := structured
  files := extend files (cstr path) []
  printed := []
  rotations := 0

/-- What `logger_init` does. -/
lemma after_init (files : List UInt8 → Option (List UInt8)) (path : List UInt8) (m : Moment)
    (level : LogLevel) (structured : ℤ) :
    (static files).after true ((LoggerCall.init path level structured).code m) =
      (Logger.opened files path level structured).after true
        (logInfo m (initText path level structured)) := by
  have hlocked : (loggerInit m path level structured).run true id (static files) =
      (logInfo m (initText path level structured) >>= fun _ => Prog.ret 0).run true id
        (.opened files path level structured) := by
    rw [loggerInit_eq]
    rfl
  rw [LoggerCall.code, after, Prog.run_bind, hlocked, Prog.run_bind]
  rfl

/-- **`logger_init` starts the generations.** -/
lemma represented_init {files : List UInt8 → Option (List UInt8)} {path : List UInt8}
    (hpath : (cstr path).length < 256) (hfiles : NoLogFiles files path) (m : Moment)
    (level : LogLevel) (structured : ℤ) :
    ∃ g, ((static files).after true ((LoggerCall.init path level structured).code m)).Represents
      g := by
  have htext := LogPath.text_copy hpath
  have hopened : (Logger.opened files path level structured).Represents .empty := by
    refine ⟨congrArg some htext.symm, ⟨?_, ?_⟩, Generations.filled_empty fullFile_nil, rfl, rfl⟩
    · intro i hi
      have hne := backupName_ne (.copy path) hi
      rw [htext] at hne
      show extend files (cstr path) [] (backupName (.copy path) i) = none
      rw [extend_of_ne files hne]
      exact hfiles.2 i hi
    · show extend files (cstr path) [] (LogPath.copy path).text = some []
      rw [htext, extend_self, hfiles.1]
      rfl
  rw [after_init]
  exact represents_logRecord hopened _ _

/-! ## What is on disk -/

section disk

variable {s : Logger} {g : Generations (List UInt8)} (h : s.Represents g)
include h

lemma backup_eq {i : ℕ} (hi : i < logFilesToKeep) :
    s.backup i = (g.kept[i]?.map List.flatten).getD [] := by
  rw [backup, h.holds.kept i hi]

/-- The files are the records that are still there. -/
lemma onDisk_eq : s.onDisk = g.present.flatten := by
  have hcurrent : s.current = g.current.flatten := by
    rw [current, h.holds.current, Option.getD_some]
  have hlength := h.filled.length_kept
  rw [onDisk, hcurrent, Generations.present, List.flatten_append, backup_eq h (by decide),
    backup_eq h (by decide), backup_eq h (by decide), backup_eq h (by decide),
    backup_eq h (by decide)]
  -- at most five generations are kept
  generalize g.kept = kept at hlength ⊢
  rcases kept with _ | ⟨a, _ | ⟨b, _ | ⟨c, _ | ⟨d, _ | ⟨e, _ | ⟨f, rest⟩⟩⟩⟩⟩⟩
  case cons.cons.cons.cons.cons.cons =>
    simp only [List.length_cons, logFilesToKeep] at hlength
    omega
  all_goals simp

/-- The current file is below the limit. -/
lemma length_current_lt : s.current.length < logFileSizeLimit := by
  rw [current, h.holds.current, Option.getD_some]
  exact Nat.lt_of_not_le (of_decide_eq_false h.filled.current)

/-- A backup has the limit or more, and had less before its last record. -/
lemma length_backup {i : ℕ} (hi : i < logFilesToKeep) {content : List UInt8}
    (hcontent : s.files (backupName s.logPath i) = some content) :
    logFileSizeLimit ≤ content.length ∧
      content.length < logFileSizeLimit + longest s.printed := by
  rw [h.holds.kept i hi, Option.map_eq_some_iff] at hcontent
  obtain ⟨records, hrecords, rfl⟩ := hcontent
  have hmem : records ∈ g.kept := List.mem_of_getElem? hrecords
  obtain ⟨hfull, init, r, rfl, hinit⟩ := h.filled.kept records hmem
  have hr : r ∈ s.printed := by
    rw [← h.printed, Generations.all, Generations.present]
    refine List.mem_append_right _ (List.mem_append_left _ ?_)
    rw [List.mem_flatten]
    exact ⟨init ++ [r], List.mem_reverse.mpr hmem, by simp⟩
  have hlongest := length_le_longest hr
  have hlt := of_decide_eq_false hinit
  refine ⟨of_decide_eq_true hfull, ?_⟩
  rw [List.flatten_append, List.length_append, List.flatten_singleton]
  omega

end disk

/-- **Rotation loses only the oldest generations.** From no log files on, after `logger_init` and
any calls that log or change the settings: the backups and the current file are the records written
from some record on, from the first on while there were at most five rotations; the current file is
below the limit, and each backup has the limit or more, by less than the longest record. -/
theorem history_kept (files : List UInt8 → Option (List UInt8)) (path : List UInt8)
    (level : LogLevel) (structured : ℤ) (m : Moment) (calls : List (Moment × LoggerCall))
    (hpath : (cstr path).length < 256) (hfiles : NoLogFiles files path)
    (hcalls : ∀ x ∈ calls, x.2.keepsFile = true) :
    ∀ s ∈ logging.states (static files) ((m, .init path level structured) :: calls),
      (∃ k, s.onDisk = (s.printed.drop k).flatten ∧ (s.rotations ≤ 5 → k = 0)) ∧
        s.current.length < 10485760 ∧
        ∀ i < 5, ∀ content, s.files (backupName s.logPath i) = some content →
          10485760 ≤ content.length ∧ content.length < 10485760 + longest s.printed := by
  have hinit := represented_init hpath hfiles m level structured
  have hall : ∀ s ∈ logging.states (static files) ((m, .init path level structured) :: calls),
      ∃ g, s.Represents g := by
    rw [Machine.states, List.forall_mem_cons]
    refine ⟨hinit, logging.states_of_trace (C := fun _ x => x.2.keepsFile = true) ?_ hinit ?_⟩
    · intro s x hs hx
      exact represented_step hs x.1 x.2 hx
    · intro x hx
      exact hcalls x.2 (logging.mem_of_mem_trace hx)
  intro s hs
  obtain ⟨g, hg⟩ := hall s hs
  refine ⟨⟨g.lost.length, ?_, ?_⟩, length_current_lt hg, fun i hi content hcontent =>
    length_backup hg hi hcontent⟩
  · rw [onDisk_eq hg, Generations.present_eq_drop, hg.printed]
  · intro hrotations
    rw [← hg.rotations] at hrotations
    rw [(hg.filled.lost hrotations).1, List.length_nil]

/-! ## What is written -/

/-- The records that a call writes, with every `fopen` succeeding: the one of a call that logs,
where its level is written, and the one of `logger_init`. -/
def LoggerCall.records (m : Moment) (s : Logger) : LoggerCall → List (List UInt8)
  | .log c => if s.logs c.level then [c.record m s] else []
  | .init path level structured =>
      let s' : Logger := .opened s.files path level structured
      let c : LogCall := .message .info (initText path level structured)
      if s'.logs c.level then [c.record m s'] else []
  | _ => []

/-- What a call that logs prints to an open log. -/
lemma printed_logRecord {s : Logger} (h : s.logFile.isSome = true) (m : Moment) (c : LogCall) :
    (s.after true (c.code m)).printed =
      s.printed ++ if s.logs c.level then [c.record m s] else [] := by
  obtain ⟨path, hpath⟩ := Option.isSome_iff_exists.mp h
  rw [c.code_eq, after_logRecord]
  split_ifs
  · rw [printed_rotated, print, hpath]
  · rw [List.append_nil]

/-- What a call prints to an open log. -/
lemma printed_step {s : Logger} (h : s.logFile.isSome = true) (m : Moment) (c : LoggerCall)
    (hc : c.keepsFile = true) :
    (s.after true (c.code m)).printed = s.printed ++ c.records m s := by
  cases c with
  | init path level structured => cases hc
  | log c => exact printed_logRecord h m c
  | setLevel level => exact (List.append_nil _).symm
  | setStructuredMode enable => exact (List.append_nil _).symm
  | cleanup => cases hc

/-- What any number of calls print. -/
lemma printed_run {s : Logger} (h : ∃ g, s.Represents g) {calls : List (Moment × LoggerCall)}
    (hcalls : ∀ x ∈ calls, x.2.keepsFile = true) :
    (logging.run s calls).1.printed =
      s.printed ++ (logging.trace s calls).flatMap fun x => x.2.2.records x.2.1 x.1 := by
  induction calls generalizing s with
  | nil => exact (List.append_nil _).symm
  | cons x calls ih =>
      rw [List.forall_mem_cons] at hcalls
      have hopen : s.logFile.isSome = true := by
        obtain ⟨g, hg⟩ := h
        rw [hg.file]
        rfl
      rw [Machine.run_cons, Machine.trace, List.flatMap_cons, ← List.append_assoc,
        ← printed_step hopen x.1 x.2 hcalls.1]
      exact ih (represented_step h x.1 x.2 hcalls.1) hcalls.2

/-- **What is printed** are the records of the calls whose level is written, each as the logger was
set when it was called. -/
lemma printed_history {files : List UInt8 → Option (List UInt8)} {path : List UInt8}
    (hpath : (cstr path).length < 256) (hfiles : NoLogFiles files path) (m : Moment)
    (level : LogLevel) (structured : ℤ) {calls : List (Moment × LoggerCall)}
    (hcalls : ∀ x ∈ calls, x.2.keepsFile = true) :
    (logging.run (static files) ((m, .init path level structured) :: calls)).1.printed =
      (logging.trace (static files) ((m, .init path level structured) :: calls)).flatMap
        fun x => x.2.2.records x.2.1 x.1 := by
  have hinit : ((static files).after true
      ((LoggerCall.init path level structured).code m)).printed =
      (LoggerCall.init path level structured).records m (static files) := by
    rw [after_init]
    exact (printed_logRecord (s := .opened files path level structured) rfl m
      (.message .info (initText path level structured))).trans (List.nil_append _)
  rw [Machine.run_cons, Machine.trace, List.flatMap_cons, ← hinit]
  exact printed_run (represented_init hpath hfiles m level structured) hcalls

/-- A record of the limit or more makes a rotation. -/
lemma rotations_of_long {s : Logger} (h : s.logFile.isSome = true) (m : Moment) {c : LogCall}
    (hlogs : s.logs c.level = true) (hlong : logFileSizeLimit ≤ (c.record m s).length) :
    (s.after true (c.code m)).rotations = s.rotations + 1 := by
  obtain ⟨path, hpath⟩ := Option.isSome_iff_exists.mp h
  have hfile : (s.print (c.record m s)).logFile = some path := by rw [print, hpath]
  have hsize : logFileSizeLimit ≤ (s.print (c.record m s)).size path := by
    rw [print, hpath]
    show logFileSizeLimit ≤ ((extend s.files path (c.record m s) path).getD []).length
    rw [extend_self, Option.getD_some, List.length_append]
    omega
  rw [c.code_eq, after_logRecord, if_pos hlogs, rotated_of_le true _ hfile hsize, print, hpath]
  rfl

/-- The component stands whole in the record of `log_with_context`. -/
lemma length_le_contextRecord (s : Logger) (m : Moment) (level : LogLevel)
    (component function : List UInt8) (line : ℤ) (message : List UInt8) :
    (cstr component).length ≤ (contextRecord s m level component function line message).length := by
  unfold contextRecord
  split_ifs <;> simp only [List.length_append] <;> omega

/-- The first second of a year. -/
def newYear : Moment := ⟨⟨2024, 1, 1, 0, 0, 0⟩, 1, 0⟩

/-- The default path, and a call of `log_with_context`. -/
def contextCalls (component : List UInt8) : List (Moment × LoggerCall) :=
  [(newYear, .init defaultLogFile .info 1), (newYear, .log (.context .warn component [] 0 []))]

/-- After `logger_init` on the default path the log is open, and has not been rotated. -/
lemma init_default :
    let s := (static fun _ => none).after true
      ((LoggerCall.init defaultLogFile .info 1).code newYear)
    s.logFile.isSome = true ∧ s.logs .warn = true ∧ s.rotations = 0 := by
  decide +kernel

/-- With a component of ten megabytes the log is rotated. -/
lemma rotations_contextCalls {component : List UInt8}
    (h : logFileSizeLimit ≤ (cstr component).length) :
    (logging.run (static fun _ => none) (contextCalls component)).1.rotations = 1 := by
  simp only [contextCalls, Machine.run_cons, Machine.run_nil, logging]
  obtain ⟨hopen, hlogs, hrotations⟩ := init_default
  generalize (static fun _ => none).after true _ = s at hopen hlogs hrotations ⊢
  have hlast := rotations_of_long (c := .context .warn component [] 0 []) hopen newYear hlogs
    (h.trans (length_le_contextRecord ..))
  rw [hrotations] at hlast
  exact hlast

lemma length_cstr_replicate (n : ℕ) : (cstr (List.replicate n 120)).length = n := by
  simp [cstr]

/-- Such a call. -/
theorem history_kept_rotated :
    (logging.run (static fun _ => none) (contextCalls (List.replicate 10485760 120))).1.rotations
        = 1 ∧
      ∀ s ∈ logging.states (static fun _ => none) (contextCalls (List.replicate 10485760 120)),
        (∃ k, s.onDisk = (s.printed.drop k).flatten ∧ (s.rotations ≤ 5 → k = 0)) ∧
          s.current.length < 10485760 ∧
          ∀ i < 5, ∀ content, s.files (backupName s.logPath i) = some content →
            10485760 ≤ content.length ∧ content.length < 10485760 + longest s.printed := by
  have hlength := length_cstr_replicate 10485760
  generalize List.replicate 10485760 (120 : UInt8) = component at hlength ⊢
  refine ⟨rotations_contextCalls hlength.ge, ?_⟩
  refine history_kept (fun _ => none) defaultLogFile .info 1 _ _ (by decide)
    ⟨rfl, fun _ _ => rfl⟩ fun x hx => ?_
  rw [List.mem_singleton.mp hx]
  rfl

/-! ## The path of the daemon -/

/-- A value of the configuration file has at most 255 bytes. -/
lemma length_value_le {line k v : List UInt8} (h : parseLine line = some (k, v)) :
    v.length ≤ 255 := by
  unfold parseLine at h
  split at h
  · rename_i key value hscan
    cases h
    have hmem : Val.bytes value ∈ [Val.bytes key, Val.bytes value] :=
      List.mem_cons_of_mem _ (List.mem_cons_self ..)
    rw [← hscan, sscanf] at hmem
    exact (List.dropWhile_suffix _).length_le.trans (length_of_mem_scan id (by decide) hmem)
  · cases h

variable {H : Header}

/-- A copy into the whole array is no longer than its source. -/
lemma length_cstr_copy_le {dst src : List UInt8} {n : ℕ} (h : dst.length = n) :
    (cstr (strncpy dst src n)).length ≤ src.length := by
  rw [cstr_strncpy_length h]
  exact ((List.take_prefix _ _).trans (List.takeWhile_prefix _)).length_le

/-- A line keeps the log path below 256 bytes. -/
lemma length_logPath_loadLine {c : Config} (hsized : c.Sized H)
    (h : (cstr c.logPath).length < 256) (line : List UInt8) :
    (cstr (loadLine H c line).logPath).length < 256 := by
  unfold loadLine assign
  split
  · rename_i k v hline
    have hv := length_value_le hline
    split
    · rename_i key _
      cases key with
      | logPath => exact (length_cstr_copy_le hsized.logPath).trans_lt (by omega)
      | _ => exact h
    · exact h
  · exact h

/-- **The path that `main` passes to `logger_init`** fits in the logger's array. -/
theorem length_logPath_load (file : Option (List UInt8)) :
    (cstr (loadConfiguration H file (Config.zero H)).logPath).length < 256 := by
  have hzero : (cstr (Config.zero H).logPath).length < 256 := by
    simp only [Config.zero, cstr_replicate_zero, List.length_nil]
    decide
  cases file with
  | none =>
      have hdefault : defaultLogFile.length < 256 := by decide
      exact (length_cstr_copy_le (sized_zero (H := H)).logPath).trans_lt hdefault
  | some content =>
      have hlines (lines : List (List UInt8)) {c : Config} (hsized : c.Sized H)
          (h : (cstr c.logPath).length < 256) :
          (cstr (lines.foldl (loadLine H) c).logPath).length < 256 := by
        induction lines generalizing c with
        | nil => exact h
        | cons line lines ih =>
            exact ih (hsized.foldl [line]) (length_logPath_loadLine hsized h line)
      exact hlines (fgetsAll 512 content) sized_zero hzero

end ProcessMonitor.Integration
