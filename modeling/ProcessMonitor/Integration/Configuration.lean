import ProcessMonitor.Lib.Fgets
import ProcessMonitor.Lib.Scanf
import ProcessMonitor.Integration.State

/-!
# The configuration file

`load_configuration` of `src/04-integration/main_daemon.c`: the defaults it assigns when there is
no file, and the lines of a file, each read by one `sscanf` and compared with ten keys. Line 41 of
the source, `g daemon_state.config.max_clients`, is read as `g_daemon_state.config.max_clients`.

`Key` names the ten keys; `Key.set` is the branch of a key and `Config.field` the field it assigns.
`unset_default_iff` is the answer about the defaults: the keys a file does not set have them only
if there is no file, or no such key.
-/

namespace ProcessMonitor.Integration

open CString Decimal Scanf

variable (H : Header)

/-! ## Log levels -/

/-- Source: `logger.c`, `level_strings` -/
def LogLevel.text : LogLevel → List UInt8
  | .trace => bytes "TRACE"
  | .debug => bytes "DEBUG"
  | .info => bytes "INFO"
  | .warn => bytes "WARN"
  | .error => bytes "ERROR"
  | .fatal => bytes "FATAL"

/-- The levels in the order of their numbers. -/
def LogLevel.all : List LogLevel := [.trace, .debug, .info, .warn, .error, .fatal]

/-- Source: `logger.c`, `log_level_from_string`, on a pointer that is not `NULL` -/
def logLevelFromString (levelStr : List UInt8) : LogLevel :=
  (LogLevel.all.find? fun l => strcasecmp levelStr l.text = 0).getD .info

/-! ## The constants of `main_daemon.h` -/

/-- `DEFAULT_LOG_FILE` -/
def defaultLogFile : List UInt8 := bytes "logs/monitor.log"
/-- `DEFAULT_PID_FILE` -/
def defaultPidFile : List UInt8 := bytes "/tmp/monitor_daemon.pid"
/-- `DEFAULT_PORT` -/
def defaultPort : ℤ := 8080
/-- `DEFAULT_MAX_ROOMS` -/
def defaultMaxRooms : ℤ := 10
/-- `DEFAULT_MAX_CLIENTS` -/
def defaultMaxClients : ℤ := 50
/-- `DEFAULT_COLLECTION_INTERVAL` -/
def defaultCollectionInterval : ℤ := 5

/-! ## The ten keys -/

/-- The keys that `load_configuration` knows. -/
inductive Key
  | logPath | logLevel | structuredLogging | daemonPort | maxRooms | maxClients
  | collectionInterval | fifoPath | procfsPath | pidFile
deriving DecidableEq, Repr

/-- The text of a key. -/
def Key.name : Key → List UInt8
  | .logPath => bytes "log_path"
  | .logLevel => bytes "log_level"
  | .structuredLogging => bytes "structured_logging"
  | .daemonPort => bytes "daemon_port"
  | .maxRooms => bytes "max_rooms"
  | .maxClients => bytes "max_clients"
  | .collectionInterval => bytes "collection_interval"
  | .fifoPath => bytes "fifo_path"
  | .procfsPath => bytes "procfs_path"
  | .pidFile => bytes "pid_file"

/-- The keys in the order in which they are compared. -/
def Key.all : List Key :=
  [.logPath, .logLevel, .structuredLogging, .daemonPort, .maxRooms, .maxClients,
   .collectionInterval, .fifoPath, .procfsPath, .pidFile]

/-- The branch of a key, with `v` for the value. -/
def Key.set (v : List UInt8) (c : Config) : Key → Config
  | .logPath => { c with logPath := strncpy c.logPath v H.logPathSize }
  | .logLevel => { c with logLevel := logLevelFromString v }
  | .structuredLogging =>
      { c with structuredLogging := if strcasecmp v (bytes "true") = 0 then 1 else 0 }
  | .daemonPort => { c with daemonPort := atoi v }
  | .maxRooms => { c with maxRooms := atoi v }
  | .maxClients => { c with maxClients := atoi v }
  | .collectionInterval => { c with collectionInterval := atoi v }
  | .fifoPath => { c with fifoPath := strncpy c.fifoPath v H.fifoPathSize }
  | .procfsPath => { c with procfsPath := strncpy c.procfsPath v H.procfsPathSize }
  | .pidFile => { c with pidFile := strncpy c.pidFile v H.pidFileSize }

/-! ## Loading -/

/-- A blank or a tab, which the loops after the `sscanf` skip. -/
def isblank (b : UInt8) : Bool := b == 32 || b == 9

/-- The key and the value of a line, if the `sscanf` finds both: the pointers `k` and `v`. -/
def parseLine (line : List UInt8) : Option (List UInt8 × List UInt8) :=
  -- " %127[^=] = %255[^\"]"
  match sscanf id [.space, .set 127 (· ≠ 61), .space, .lit 61, .space, .set 255 (· ≠ 34)] line with
  | [.bytes key, .bytes value] => some (key.dropWhile isblank, value.dropWhile isblank)
  | _ => none

/-- The chain of comparisons: the branch of the first key that `k` matches. -/
def assign (k v : List UInt8) (c : Config) : Config :=
  match Key.all.find? fun key => strcasecmp k key.name = 0 with
  | some key => key.set H v c
  | none => c

/-- The body of the reading loop. -/
def loadLine (c : Config) (line : List UInt8) : Config :=
  match parseLine line with
  | some (k, v) => assign H k v c
  | none => c

/-- Source: `main_daemon.c`, `load_configuration`; the file is `none` when `fopen` fails. -/
def loadConfiguration (file : Option (List UInt8)) (c : Config) : Config :=
  match file with
  | none =>
      { logPath := strncpy c.logPath defaultLogFile H.logPathSize
        logLevel := .info
        structuredLogging := 1
        daemonPort := defaultPort
        maxRooms := defaultMaxRooms
        maxClients := defaultMaxClients
        collectionInterval := defaultCollectionInterval
        fifoPath := strncpy c.fifoPath H.defaultFifoPath H.fifoPathSize
        procfsPath := strncpy c.procfsPath H.defaultProcfsPath H.procfsPathSize
        pidFile := strncpy c.pidFile defaultPidFile H.pidFileSize }
  | some content => (fgetsAll 512 content).foldl (loadLine H) c

/-! ## Fields and kinds -/

/-- What a value is for a key. -/
inductive Kind
  | path (size : ℕ) | level | bool | int

/-- The kind of a key's value. -/
def Key.kind : Key → Kind
  | .logPath => .path H.logPathSize
  | .logLevel => .level
  | .structuredLogging => .bool
  | .daemonPort | .maxRooms | .maxClients | .collectionInterval => .int
  | .fifoPath => .path H.fifoPathSize
  | .procfsPath => .path H.procfsPathSize
  | .pidFile => .path H.pidFileSize

/-- What a field holds: the string in an array, a level, or a number. -/
inductive FieldVal
  | path (s : List UInt8) | level (l : LogLevel) | int (z : ℤ)
deriving DecidableEq

/-- The field of a key. -/
def Config.field (c : Config) : Key → FieldVal
  | .logPath => .path (cstr c.logPath)
  | .logLevel => .level c.logLevel
  | .structuredLogging => .int c.structuredLogging
  | .daemonPort => .int c.daemonPort
  | .maxRooms => .int c.maxRooms
  | .maxClients => .int c.maxClients
  | .collectionInterval => .int c.collectionInterval
  | .fifoPath => .path (cstr c.fifoPath)
  | .procfsPath => .path (cstr c.procfsPath)
  | .pidFile => .path (cstr c.pidFile)

/-- What the branch of a kind makes of a value. -/
def Kind.read (v : List UInt8) : Kind → FieldVal
  | .path size => .path ((cstr v).take size)
  | .level => .level (logLevelFromString v)
  | .bool => .int (if strcasecmp v (bytes "true") = 0 then 1 else 0)
  | .int => .int (atoi v)

lemma Key.mem_all (key : Key) : key ∈ Key.all := by cases key <;> decide

/-- The keys' texts differ, letter case aside. -/
lemma Key.name_injective {key key' : Key} (h : key.name.map tolower = key'.name.map tolower) :
    key = key' := by
  have hall : ∀ a ∈ Key.all, ∀ b ∈ Key.all, a.name.map tolower = b.name.map tolower → a = b := by
    decide
  exact hall key key.mem_all key' key'.mem_all h

/-- What the code relies on in the texts of the keys. -/
lemma Key.name_wf (key : Key) :
    key.name ≠ [] ∧ key.name.length < 20 ∧
      ∀ b ∈ key.name, b ≠ 0 ∧ b ≠ 10 ∧ b ≠ 61 ∧ isspace b = false ∧ isblank b = false := by
  have hall : ∀ a ∈ Key.all, a.name ≠ [] ∧ a.name.length < 20 ∧
      ∀ b ∈ a.name, b ≠ 0 ∧ b ≠ 10 ∧ b ≠ 61 ∧ isspace b = false ∧ isblank b = false := by
    decide
  exact hall key key.mem_all

/-- A text matches one key at most. -/
lemma Key.eq_of_strcasecmp {k : List UInt8} {key key' : Key} (h : strcasecmp k key.name = 0)
    (h' : strcasecmp k key'.name = 0) : key = key' := by
  have hname (key : Key) : cstr key.name = key.name :=
    cstr_eq_self fun hz => (key.name_wf.2.2 0 hz).1 rfl
  rw [strcasecmp_eq_zero_iff, hname] at h h'
  exact Key.name_injective (h.symm.trans h')

/-- A text that matches a key runs the branch of that key. -/
lemma assign_of_eq {k : List UInt8} {key : Key} (h : strcasecmp k key.name = 0)
    (v : List UInt8) (c : Config) : assign H k v c = key.set H v c := by
  have hfind : Key.all.find? (fun key => strcasecmp k key.name = 0) = some key := by
    cases hf : Key.all.find? (fun key => strcasecmp k key.name = 0) with
    | none => exact absurd h (by simpa using List.find?_eq_none.mp hf key key.mem_all)
    | some key' =>
        have h' : strcasecmp k key'.name = 0 := by simpa using List.find?_some hf
        rw [Key.eq_of_strcasecmp h h']
  rw [assign, hfind]

/-- A line can only change the field of the key it matches. -/
lemma field_assign_of_ne {k : List UInt8} {key : Key} (h : strcasecmp k key.name ≠ 0)
    (v : List UInt8) (c : Config) : (assign H k v c).field key = c.field key := by
  unfold assign
  cases hf : Key.all.find? (fun key => strcasecmp k key.name = 0) with
  | none => rfl
  | some key' =>
      have h' : strcasecmp k key'.name = 0 := by simpa using List.find?_some hf
      have hne : key' ≠ key := fun e => h (e ▸ h')
      cases key <;> cases key' <;> first | rfl | exact absurd rfl hne

/-! ## The keys a file does not set -/

/-- The keys of the lines in which the `sscanf` finds a key and a value. -/
def keysOf (lines : List (List UInt8)) : List (List UInt8) :=
  lines.filterMap fun line => (parseLine line).map Prod.fst

/-- A line of the file sets the key. -/
def Sets (content : List UInt8) (key : Key) : Prop :=
  ∃ k ∈ keysOf (fgetsAll 512 content), strcasecmp k key.name = 0

instance (content : List UInt8) (key : Key) : Decidable (Sets content key) :=
  inferInstanceAs (Decidable (∃ k ∈ keysOf (fgetsAll 512 content), strcasecmp k key.name = 0))

/-- Lines that do not set a key leave its field alone. -/
lemma field_foldl_of_unset {lines : List (List UInt8)} {key : Key}
    (h : ∀ k ∈ keysOf lines, strcasecmp k key.name ≠ 0) (c : Config) :
    (lines.foldl (loadLine H) c).field key = c.field key := by
  induction lines generalizing c with
  | nil => rfl
  | cons line lines ih =>
      rw [List.foldl_cons, loadLine]
      cases hp : parseLine line with
      | none =>
          simp only [keysOf, List.filterMap_cons, hp, Option.map_none] at h
          exact ih h c
      | some kv =>
          simp only [keysOf, List.filterMap_cons, hp, Option.map_some, List.forall_mem_cons] at h
          rw [ih h.2]
          exact field_assign_of_ne H h.1 kv.2 c

/-- The string in an array that `strncpy` has filled from its start. -/
lemma cstr_strncpy_length {dst : List UInt8} {n : ℕ} (h : dst.length = n) (src : List UInt8) :
    cstr (strncpy dst src n) = (cstr src).take n := by
  rcases Nat.lt_or_ge (cstr src).length n with hlt | hge
  · rw [cstr_strncpy_of_lt dst hlt, List.take_of_length_le hlt.le]
  · rw [cstr_strncpy_of_ge dst hge, List.drop_of_length_le h.le]
    exact List.append_nil _

/-- No field of the zeroed configuration has its default. -/
lemma field_zero_ne_default (key : Key) :
    (Config.zero H).field key ≠ (loadConfiguration H none (.zero H)).field key := by
  have hpath {size : ℕ} {dflt : List UInt8} (hsize : 0 < size) (hd : cstr dflt ≠ []) :
      FieldVal.path (cstr (List.replicate size 0)) ≠
        .path (cstr (strncpy (List.replicate size 0) dflt size)) := by
    rw [cstr_strncpy_length (List.length_replicate), cstr_replicate_zero]
    intro h
    rcases List.take_eq_nil_iff.mp (FieldVal.path.inj h).symm with h0 | h0
    · omega
    · exact hd h0
  cases key with
  | logPath => exact hpath H.logPathSize_pos (by decide)
  | fifoPath => exact hpath H.fifoPathSize_pos H.defaultFifoPath_ne
  | procfsPath => exact hpath H.procfsPathSize_pos H.defaultProcfsPath_ne
  | pidFile => exact hpath H.pidFileSize_pos (by decide)
  | _ =>
      simp [Config.field, Config.zero, loadConfiguration, defaultPort, defaultMaxRooms,
        defaultMaxClients, defaultCollectionInterval]

/-- A key that an existing file does not set keeps its zero. -/
lemma field_load_of_unset {content : List UInt8} {key : Key} (h : ¬ Sets content key)
    (c : Config) : (loadConfiguration H (some content) c).field key = c.field key :=
  field_foldl_of_unset H (fun k hk hkey => h ⟨k, hk, hkey⟩) c

/-- **The defaults.** After `load_configuration` on the zeroed state, the keys that the file does
not set have the values they have without a file if and only if there is no file, or it sets all
ten keys. -/
theorem unset_default_iff (file : Option (List UInt8)) :
    (∀ key, (∀ content ∈ file, ¬ Sets content key) →
        (loadConfiguration H file (.zero H)).field key =
          (loadConfiguration H none (.zero H)).field key) ↔
      ∀ content ∈ file, ∀ key, Sets content key := by
  cases file with
  | none => simp
  | some content =>
      simp only [Option.mem_def, Option.some.injEq, forall_eq']
      constructor
      · intro h key
        by_contra hkey
        exact field_zero_ne_default H key ((field_load_of_unset H hkey _).symm.trans (h key hkey))
      · intro h key hkey
        exact absurd (h key) hkey

/-- A file that only chooses a port leaves `max_clients` at 0, not at 50. -/
theorem portOnly_maxClients :
    ¬ ∀ key, (∀ content ∈ some (bytes "daemon_port=9000\n"), ¬ Sets content key) →
      (loadConfiguration .plain (some (bytes "daemon_port=9000\n")) (.zero .plain)).field key =
        (loadConfiguration .plain none (.zero .plain)).field key := by
  intro h
  have hmax := h .maxClients fun content hc => by
    obtain rfl : bytes "daemon_port=9000\n" = content := Option.some.inj hc
    decide
  exact absurd hmax (by decide)

end ProcessMonitor.Integration
