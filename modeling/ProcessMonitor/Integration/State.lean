import ProcessMonitor.Lib.CString
import ProcessMonitor.Kernel.ProcMonitor

/-!
# The integration daemon's data

The structures of `src/04-integration` as far as the modelled functions read them. The header
`commom/data_structures.h`, which declares them, is an empty file in the repository: what the
code takes from it as a constant is a field of `Header`, with what any such header satisfies
(arrays are not empty, the default paths are not empty strings).

A `room_info_t *` is the index of its slot in `g_daemon_state.rooms`. `World` is everything the
threads of the daemon share: the two globals, the monitor threads the operating system runs for
the rooms, the clock, and the kernel module behind `/proc/sysmonitor`.
-/

namespace ProcessMonitor.Integration

open CString Kernel

/-! ## What the missing header declares -/

/-- The constants of `commom/data_structures.h`. -/
structure Header where
  /-- `MAX_ROOM_NAME` -/
  maxRoomName : ℕ
  /-- `MAX_MESSAGE_SIZE` -/
  maxMessageSize : ℕ
  /-- `sizeof(response->message)` -/
  messageSize : ℕ
  /-- `sizeof(response->data)` -/
  dataSize : ℕ
  /-- `sizeof(config.log_path)` -/
  logPathSize : ℕ
  /-- `sizeof(config.fifo_path)` -/
  fifoPathSize : ℕ
  /-- `sizeof(config.procfs_path)` -/
  procfsPathSize : ℕ
  /-- `sizeof(config.pid_file)` -/
  pidFileSize : ℕ
  /-- `DEFAULT_FIFO_PATH` -/
  defaultFifoPath : List UInt8
  /-- `DEFAULT_PROCFS_PATH` -/
  defaultProcfsPath : List UInt8
  logPathSize_pos : 0 < logPathSize
  fifoPathSize_pos : 0 < fifoPathSize
  procfsPathSize_pos : 0 < procfsPathSize
  pidFileSize_pos : 0 < pidFileSize
  defaultFifoPath_ne : cstr defaultFifoPath ≠ []
  defaultProcfsPath_ne : cstr defaultProcfsPath ≠ []

/-- A header as the rest of the code would have it: 64-byte names as in the communication daemon,
256-byte paths as in the logger, and the paths that `ipc_handler.c` writes out. -/
def Header.plain : Header where
  maxRoomName := 64
  maxMessageSize := 1024
  messageSize := 256
  dataSize := 1024
  logPathSize := 256
  fifoPathSize := 256
  procfsPathSize := 256
  pidFileSize := 256
  defaultFifoPath := bytes "/tmp/monitor_fifo"
  defaultProcfsPath := bytes "/proc/sysmonitor"
  logPathSize_pos := by decide
  fifoPathSize_pos := by decide
  procfsPathSize_pos := by decide
  pidFileSize_pos := by decide
  defaultFifoPath_ne := by decide
  defaultProcfsPath_ne := by decide

/-! ## Configuration -/

/-- Source: `logger.h`, `log_level_t` -/
inductive LogLevel
  | trace | debug | info | warn | error | fatal
deriving DecidableEq, Repr

/-- Source: the fields of `g_daemon_state.config` that `main_daemon.c` uses -/
structure Config where
  logPath : List UInt8
  logLevel : LogLevel
  structuredLogging : ℤ
  daemonPort : ℤ
  maxRooms : ℤ
  maxClients : ℤ
  collectionInterval : ℤ
  fifoPath : List UInt8
  procfsPath : List UInt8
  pidFile : List UInt8
deriving DecidableEq, Repr

/-- The configuration of the zeroed `g_daemon_state`. -/
def Config.zero (H : Header) : Config where
  logPath := List.replicate H.logPathSize 0
  logLevel := .trace
  structuredLogging := 0
  daemonPort := 0
  maxRooms := 0
  maxClients := 0
  collectionInterval := 0
  fifoPath := List.replicate H.fifoPathSize 0
  procfsPath := List.replicate H.procfsPathSize 0
  pidFile := List.replicate H.pidFileSize 0

/-! ## Rooms -/

/-- Source: the `ROOM_STATE_*` constants of `main_daemon.c` -/
inductive RoomState
  | inactive | created | running | error
deriving DecidableEq, Repr

/-- Source: the fields of `monitor_data_t` that `ipc_handler.c` and `main_daemon.c` use -/
structure MonitorData where
  roomName : List UInt8 := []
  cpuUsage : ℚ := 0
  memoryUsage : ℚ := 0
  memoryFree : ℕ := 0
  processCount : ℤ := 0
  timestamp : ℤ := 0
  valid : ℤ := 0

/-- Source: the fields of `room_info_t` that `main_daemon.c` uses. `monitorThread` is an index
into `World.threads`; a zeroed handle names no thread, nor does one that a failing
`pthread_create` has left undefined. -/
structure RoomInfo where
  name : List UInt8
  state : RoomState
  createdTime : ℤ
  lastUpdate : ℤ
  collectionInterval : ℤ
  active : Bool
  errorCount : ℤ
  monitorThread : Option ℕ
  latestData : MonitorData

/-- A slot as `memset(room, 0, sizeof(room_info_t))` and the assignment of `ROOM_STATE_INACTIVE`
leave it. -/
def RoomInfo.cleared (H : Header) : RoomInfo where
  name := List.replicate H.maxRoomName 0
  state := .inactive
  createdTime := 0
  lastUpdate := 0
  collectionInterval := 0
  active := false
  errorCount := 0
  monitorThread := none
  latestData := {}

/-- The name of a slot, as far as the comparisons read it. -/
def RoomInfo.key (H : Header) (r : RoomInfo) : List UInt8 := (cstr r.name).take H.maxRoomName

/-! ## The shared state -/

/-- Source: the fields of `daemon_state_t` that the room functions use -/
structure DaemonState where
  config : Config
  rooms : List RoomInfo
  roomCount : ℤ
  running : Bool
  startTime : ℤ

/-- Source: the fields of `daemon_stats_t` that `main_daemon.c` uses -/
structure DaemonStats where
  roomsCreated : ℕ
  roomsDeleted : ℕ
  commandsProcessed : ℕ
  dataPointsCollected : ℕ

/-- A monitor thread, as the operating system keeps it: the slot it was started for, whether it
has returned and whether it has been joined. -/
structure MonitorThread where
  slot : ℕ
  ended : Bool
  joined : Bool
deriving DecidableEq, Repr

/-- What the daemon's threads share. -/
structure World where
  daemon : DaemonState
  stats : DaemonStats
  threads : List MonitorThread
  kernel : ProcMonitor
  procfsWritable : Bool
  now : ℤ

namespace World

/-- Change the slot `i`. -/
def updRoom (w : World) (i : ℕ) (f : RoomInfo → RoomInfo) : World :=
  { w with daemon := { w.daemon with rooms := w.daemon.rooms.modify i f } }

/-- Change the thread behind the handle `h`. -/
def updThread (w : World) (h : Option ℕ) (f : MonitorThread → MonitorThread) : World :=
  match h with
  | some t => { w with threads := w.threads.modify t f }
  | none => w

/-- The state of the slot `i`. -/
def roomState (w : World) (i : ℕ) : RoomState :=
  match w.daemon.rooms[i]? with
  | some r => r.state
  | none => .inactive

/-- The thread handle in the slot `i`. -/
def roomThread (w : World) (i : ℕ) : Option ℕ :=
  match w.daemon.rooms[i]? with
  | some r => r.monitorThread
  | none => none

/-- Whether `pthread_join` on the handle `h` returns: its thread has returned, or `h` names no
thread that runs. -/
def threadEnded (w : World) (h : Option ℕ) : Bool :=
  match h.bind (w.threads[·]?) with
  | some t => t.ended
  | none => true

/-- Before the first command: `max_rooms` is `n` and there are `n` cleared slots, nothing is
counted, the module is as loaded. -/
def initial (H : Header) (config : Config) (n : ℕ) : World where
  daemon :=
    { config := { config with maxRooms := n }, rooms := List.replicate n (RoomInfo.cleared H),
      roomCount := 0, running := true, startTime := 0 }
  stats := ⟨0, 0, 0, 0⟩
  threads := []
  kernel := ProcMonitor.loaded
  procfsWritable := true
  now := 0

section fields

variable (w : World) (i : ℕ) (f : RoomInfo → RoomInfo)

@[simp] lemma rooms_updRoom : (w.updRoom i f).daemon.rooms = w.daemon.rooms.modify i f := rfl
@[simp] lemma roomCount_updRoom : (w.updRoom i f).daemon.roomCount = w.daemon.roomCount := rfl
@[simp] lemma config_updRoom : (w.updRoom i f).daemon.config = w.daemon.config := rfl
@[simp] lemma stats_updRoom : (w.updRoom i f).stats = w.stats := rfl
@[simp] lemma kernel_updRoom : (w.updRoom i f).kernel = w.kernel := rfl
@[simp] lemma procfsWritable_updRoom : (w.updRoom i f).procfsWritable = w.procfsWritable := rfl

variable (h : Option ℕ) (g : MonitorThread → MonitorThread)

@[simp] lemma daemon_updThread : (w.updThread h g).daemon = w.daemon := by cases h <;> rfl
@[simp] lemma stats_updThread : (w.updThread h g).stats = w.stats := by cases h <;> rfl
@[simp] lemma kernel_updThread : (w.updThread h g).kernel = w.kernel := by cases h <;> rfl
@[simp] lemma procfsWritable_updThread :
    (w.updThread h g).procfsWritable = w.procfsWritable := by cases h <;> rfl

end fields

end World

end ProcessMonitor.Integration
