import ProcessMonitor.Integration.Commands
import ProcessMonitor.Integration.CpuUsage
import ProcessMonitor.Integration.KernelData
import ProcessMonitor.Lib.Invariants

/-!
# What the daemon shows of its rooms

Any number of clients send commands to `process_command`, with `rooms_mutex` taken as recursive,
while the monitor threads read what is under `/proc` and other processes write to the kernel module.
A property of the rooms that every single assignment of the room functions keeps is a property of
every state (`Assignments` says which assignments these are), and of what `CMD_SHOW_ROOM` shows.

* `shown_memory`: no room is ever shown with a memory usage other than zero. Neither branch of
  `ipc_read_kernel_data` assigns it.
* `shown_zero`: while the kernel module is loaded, no room is ever shown with any figure other than
  zero. The module does not give what the function looks for, and as its file can be opened the
  function does not turn to `/proc/stat`, `/proc/meminfo` and `/proc/loadavg`.
-/

namespace ProcessMonitor.Integration

open CString Decimal Kernel Prog

variable (H : Header)

/-! ## Assignments -/

/-- A property that each assignment of the room functions keeps. -/
structure Assignments (I : World → Prop) : Prop where
  addRoom : ∀ {w : World}, I w → ∀ name ci i, I (w.addRoom H name ci i)
  removeRoom : ∀ {w : World}, I w → ∀ i, I (w.removeRoom H i)
  flags : ∀ {w : World}, I w → ∀ i (active : RoomInfo → Bool) (state : RoomInfo → RoomState),
    I (w.updRoom i fun r => { r with active := active r, state := state r })
  spawn : ∀ {w : World}, I w → ∀ i, I (w.spawn i)
  spawnFailed : ∀ {w : World}, I w → ∀ i, I (w.spawnFailed i)
  updThread : ∀ {w : World}, I w → ∀ h f, I (w.updThread h f)
  switch : ∀ {w : World}, I w → ∀ buf,
    I { w with kernel := (monitorWrite false buf w.kernel).2 }
  counted : ∀ {w : World}, I w →
    I { w with stats := { w.stats with commandsProcessed := w.stats.commandsProcessed + 1 } }

/-- The figures of a room, as `CMD_SHOW_ROOM` prints them. -/
def figuresText (data : MonitorData) : List UInt8 :=
  snprintf H.dataSize (bytes "CPU: " ++ fixed2Text data.cpuUsage ++ bytes "%, Memory: " ++
    fixed2Text data.memoryUsage ++ bytes "%, Processes: " ++ intText data.processCount)

/-- A reply to `CMD_SHOW_ROOM` that is a success shows the figures of a room of some state. -/
def ShowsRoom (I : World → Prop) (command : Command) (response : Response) : Prop :=
  command.type = .showRoom → response.type = .success →
    ∃ w, I w ∧ ∃ r ∈ w.daemon.rooms, response.data = figuresText H r.latestData

section code

variable {H} {I : World → Prop}

/-- `find_room` assigns nothing. -/
lemma preserves_findRoom (name : Option (List UInt8)) :
    Preserves I (fun _ => True) (findRoom H name) := by
  cases name with
  | none => trivial
  | some name =>
      unfold findRoom
      simp only [acquire_bind, read_bind]
      intro w _
      cases hs : w.daemon.search H name <;> simp only [hs] <;> trivial

variable (hI : Assignments H I)
include hI

/-- `ipc_write_kernel_control` -/
lemma Assignments.kernelControl (name : Option (List UInt8)) (enable : Bool) :
    Preserves I (fun _ => True) (ipcWriteKernelControl name enable) := by
  cases name with
  | none => trivial
  | some name =>
      unfold ipcWriteKernelControl
      simp only [read_bind, update_bind]
      intro w _
      by_cases hw : w.procfsWritable
      · simp only [hw, if_true]
        exact ⟨fun _ hw => hI.switch hw _, trivial⟩
      · simp only [if_neg hw]
        trivial

/-- `pthread_join` -/
lemma Assignments.join (i : ℕ) : Preserves I (fun _ => True) (pthreadJoin i) :=
  fun _ _ => ⟨fun _ hw => hI.updThread hw _ _, trivial⟩

/-- `create_room` -/
lemma Assignments.createRoom (name : Option (List UInt8)) (ci : ℤ) :
    Preserves I (fun _ => True) (createRoom H name ci) := by
  cases name with
  | none => trivial
  | some name =>
      unfold Integration.createRoom
      simp only [acquire_bind, read_bind]
      intro w _
      cases hs : w.daemon.search H name with
      | some i =>
          simp only [hs]
          trivial
      | none =>
          cases hf : w.daemon.freeSlot with
          | none =>
              simp only [hs, hf]
              trivial
          | some i =>
              simp only [hs, hf]
              exact ⟨fun _ hw => hI.addRoom hw _ _ _, trivial⟩

/-- `start_room` -/
lemma Assignments.startRoom (name : Option (List UInt8)) :
    Preserves I (fun _ => True) (startRoom H name) := by
  refine Preserves.bind (p := findRoom H name) ((preserves_findRoom name).mono fun room _ => ?_)
  cases room with
  | none => trivial
  | some i =>
      simp only [read_bind]
      intro w _
      by_cases hrunning : w.roomState i = .running
      · simp only [if_pos hrunning]
        trivial
      · simp only [if_neg hrunning]
        refine ⟨fun _ hw => hI.flags hw i (fun _ => true) fun _ => .running, fun ok => ?_⟩
        cases ok with
        | true =>
            refine ⟨fun _ hw => hI.spawn hw i, ?_⟩
            exact Preserves.bind (p := ipcWriteKernelControl name true)
              ((hI.kernelControl name true).mono fun _ _ => trivial)
        | false =>
            exact ⟨fun _ hw => hI.spawnFailed hw i,
              fun _ hw => hI.flags hw i (fun r => r.active) fun _ => .error, trivial⟩

/-- `stop_room` -/
lemma Assignments.stopRoom (name : Option (List UInt8)) :
    Preserves I (fun _ => True) (stopRoom H name) := by
  refine Preserves.bind (p := findRoom H name) ((preserves_findRoom name).mono fun room _ => ?_)
  cases room with
  | none => trivial
  | some i =>
      simp only [read_bind]
      intro w _
      by_cases hrunning : w.roomState i = .running
      · simp only [hrunning, ne_eq, not_true_eq_false, if_false]
        refine ⟨fun _ hw => hI.flags hw i (fun _ => false) fun r => r.state, ?_⟩
        refine Preserves.bind (p := pthreadJoin i) ((hI.join i).mono fun _ _ => ?_)
        refine ⟨fun _ hw => hI.flags hw i (fun r => r.active) fun _ => .created, ?_⟩
        exact Preserves.bind (p := ipcWriteKernelControl name false)
          ((hI.kernelControl name false).mono fun _ _ => trivial)
      · simp only [ne_eq, hrunning, not_false_eq_true, if_true]
        trivial

/-- `delete_room` -/
lemma Assignments.deleteRoom (name : Option (List UInt8)) :
    Preserves I (fun _ => True) (deleteRoom H name) := by
  refine Preserves.bind (p := findRoom H name) ((preserves_findRoom name).mono fun room _ => ?_)
  cases room with
  | none => trivial
  | some i =>
      simp only [read_bind]
      intro w _
      by_cases hrunning : w.roomState i = .running
      · simp only [if_pos hrunning]
        refine ⟨fun _ hw => hI.flags hw i (fun _ => false) fun r => r.state, ?_⟩
        refine Preserves.bind (p := pthreadJoin i) ((hI.join i).mono fun _ _ => ?_)
        exact ⟨fun _ hw => hI.removeRoom hw i, trivial⟩
      · simp only [if_neg hrunning]
        exact ⟨fun _ hw => hI.removeRoom hw i, trivial⟩

omit hI in
/-- `CMD_SHOW_ROOM` -/
lemma preserves_showRoom {command : Command} (now : ℤ) :
    Preserves I (ShowsRoom H I command) (showRoom H command.roomName now) := by
  refine Preserves.bind (p := findRoom H (some command.roomName))
    ((preserves_findRoom _).mono fun room _ => ?_)
  simp only [read_bind]
  intro w hw _ hsuccess
  cases hr : room.bind (w.daemon.rooms[·]?) with
  | none =>
      simp only [hr, showRoom.notFound] at hsuccess
      cases hsuccess
  | some r =>
      simp only [hr] at hsuccess ⊢
      by_cases hactive : r.state = .inactive
      · rw [if_neg (by simpa using hactive)] at hsuccess
        cases hsuccess
      · rw [if_pos hactive]
        obtain ⟨i, -, hi⟩ := Option.bind_eq_some_iff.mp hr
        exact ⟨w, hw, r, List.mem_of_getElem? hi, rfl⟩

/-- The `switch` of `process_command`. -/
lemma Assignments.dispatch (command : Command) (now : ℤ) :
    Preserves I (ShowsRoom H I command) (dispatch H command now) := by
  have hother (htype : command.type ≠ .showRoom) (response : Response) :
      ShowsRoom H I command response := fun heq => absurd heq htype
  unfold Integration.dispatch
  cases htype : command.type with
  | createRoom =>
      exact Preserves.bind ((hI.createRoom _ _).mono fun _ _ => hother (by simp [htype]) _)
  | startRoom => exact Preserves.bind ((hI.startRoom _).mono fun _ _ => hother (by simp [htype]) _)
  | stopRoom => exact Preserves.bind ((hI.stopRoom _).mono fun _ _ => hother (by simp [htype]) _)
  | deleteRoom =>
      exact Preserves.bind ((hI.deleteRoom _).mono fun _ _ => hother (by simp [htype]) _)
  | showRoom => exact preserves_showRoom now
  | listRooms => exact fun _ _ => hother (by simp [htype]) _
  | status => exact fun _ _ => hother (by simp [htype]) _
  | other => exact hother (by simp [htype]) _

/-- **`process_command`** keeps the property, and shows figures of states that have it. -/
lemma Assignments.processCommand (command : Command) :
    Preserves I (ShowsRoom H I command) (processCommand H command) := by
  unfold Integration.processCommand
  simp only [read_bind]
  intro w _
  refine Preserves.bind ((hI.dispatch command w.now).mono fun response hresponse => ?_)
  exact ⟨fun _ hw => hI.counted hw, hresponse⟩

end code

/-! ## The readings -/

/-- What `ipc_read_kernel_data` finds: the content of `/proc/sysmonitor`, or, where that cannot be
opened, what the three other readers see and return. -/
inductive Found
  | sysmonitor (content : List UInt8)
  | fallback (stat : Option CpuStat) (memoryFree : ℕ) (processCount : ℤ) (statics : CpuStatics)

/-- What happens beside the client threads: the monitor thread `t` ends a reading or leaves its
loop, a process writes to `/proc/sysmonitor`, or time passes. -/
inductive ProcEvent
  | iterate (t : ℕ) (found : Found)
  | leave (t : ℕ)
  | write (fault : Bool) (buf : List UInt8)
  | tick (now : ℤ)

variable (F : FloatShare) (atof : List UInt8 → ℚ) (nameSize : ℕ)

/-- What the function leaves in `*data`, for a name that is not `NULL`.
Source: `ipc_handler.c`, `ipc_read_kernel_data` -/
def Found.data (name : List UInt8) (now : ℤ) : Found → MonitorData
  | .sysmonitor content => kernelData atof nameSize name content now
  | .fallback stat memoryFree processCount statics =>
      (fallbackData F ((cstr name).take (nameSize - 1)) stat memoryFree processCount now statics).2

/-- A step beside the client threads. Source: `main_daemon.c`, `room_monitor_thread`;
`proc_monitor.c`, `monitor_write` -/
def procStep (e : ProcEvent) (w : World) : World :=
  match e with
  | .iterate t found =>
      match w.threads[t]? with
      | some th =>
          let name := (w.roomName th.slot).getD []
          monitorStep (.iterate t (found.data F atof nameSize name w.now)) w
      | none => w
  | .leave t => monitorStep (.leave t) w
  | .write fault buf => { w with kernel := (monitorWrite fault buf w.kernel).2 }
  | .tick now => monitorStep (.tick now) w

/-- The client threads, with the command that each is at. -/
abbrev Commanders := Pool.Called World Response Command

/-- The client threads, beside the monitor threads and the kernel module. -/
def commanders : Machine Commanders (Sched Command ProcEvent) Unit :=
  Pool.Called.machine (processCommand H) (procStep F atof nameSize)

/-- Before the first command. -/
def Commanders.initial (config : Config) (n : ℕ) : Commanders :=
  ⟨⟨World.initial H config n, fun _ => .ret (invalidReply H 0)⟩, fun _ => none⟩

/-- If the step is a reading, it finds what the loaded module gives. -/
def ModuleLoaded (s : Commanders) : Sched Command ProcEvent → Prop
  | .env (.iterate _ (.sysmonitor content)) => content = monitorRead s.pool.world.kernel
  | .env (.iterate _ (.fallback ..)) => False
  | _ => True

instance (s : Commanders) (l : Sched Command ProcEvent) : Decidable (ModuleLoaded s l) :=
  match l with
  | .env (.iterate _ (.sysmonitor content)) =>
      inferInstanceAs (Decidable (content = monitorRead s.pool.world.kernel))
  | .env (.iterate _ (.fallback ..)) => isFalse nofun
  | .env (.leave _) => isTrue trivial
  | .env (.write ..) => isTrue trivial
  | .env (.tick _) => isTrue trivial
  | .call .. => isTrue trivial
  | .go .. => isTrue trivial

/-! ## Figures of all rooms -/

/-- The figures of all rooms have the property, and the module's switch is on or off. -/
structure FiguresAre (P : MonitorData → Prop) (w : World) : Prop where
  rooms : ∀ r ∈ w.daemon.rooms, P r.latestData
  switch : w.kernel.monitorEnabled = 0 ∨ w.kernel.monitorEnabled = 1

section figures

variable {H} {P : MonitorData → Prop} {w : World}

/-- An assignment to a slot. -/
lemma FiguresAre.updRoom (h : FiguresAre P w) (i : ℕ) {f : RoomInfo → RoomInfo}
    (hf : ∀ r, P r.latestData → P (f r).latestData) : FiguresAre P (w.updRoom i f) :=
  ⟨Slots.forall_mem_modify hf h.rooms i, h.switch⟩

/-- **The room functions assign no figures**, except that `delete_room` clears them. -/
lemma figures_assignments (hzero : P {}) : Assignments H (FiguresAre P) where
  addRoom {w} h name ci i :=
    ⟨(h.updRoom i (f := RoomInfo.fill H name ci w.daemon.config.collectionInterval w.now)
      fun _ hr => hr).rooms, h.switch⟩
  removeRoom h i := ⟨(h.updRoom i fun _ _ => hzero).rooms, h.switch⟩
  flags h i _ _ := h.updRoom i fun _ hr => hr
  spawn {w} h i :=
    ⟨(h.updRoom i (f := fun r => { r with monitorThread := some w.threads.length })
      fun _ hr => hr).rooms, h.switch⟩
  spawnFailed h i := h.updRoom i fun _ hr => hr
  updThread h t _ := by cases t <;> exact ⟨h.rooms, h.switch⟩
  switch h buf := ⟨h.rooms, monitorWrite_switch h.switch false buf⟩
  counted h := ⟨h.rooms, h.switch⟩

variable {F atof nameSize}

/-- A step of a monitor thread or of the clock keeps them, if what is read has the property. -/
lemma FiguresAre.monitorStep (h : FiguresAre P w) {e : MonitorEvent}
    (hdata : ∀ t data, e = .iterate t data → P data) : FiguresAre P (monitorStep e w) := by
  cases e with
  | iterate t data =>
      simp only [Integration.monitorStep]
      split
      · split
        · exact h
        · exact ⟨(h.updRoom _ fun _ _ => hdata t data rfl).rooms, h.switch⟩
      · exact h
  | leave t =>
      simp only [Integration.monitorStep]
      split
      · split
        · exact h
        · exact ⟨h.rooms, h.switch⟩
      · exact h
  | tick now => exact ⟨h.rooms, h.switch⟩

/-- So does every step beside the client threads. -/
lemma FiguresAre.procStep (h : FiguresAre P w) {e : ProcEvent}
    (hdata : ∀ t found, e = .iterate t found → ∀ name, P (found.data F atof nameSize name w.now)) :
    FiguresAre P (procStep F atof nameSize e w) := by
  cases e with
  | iterate t found =>
      simp only [Integration.procStep]
      split
      · refine h.monitorStep fun t' data he => ?_
        cases he
        exact hdata t found rfl _
      · exact h
  | leave t => exact FiguresAre.monitorStep (e := .leave t) h nofun
  | write fault buf => exact ⟨h.rooms, monitorWrite_switch h.switch fault buf⟩
  | tick now => exact FiguresAre.monitorStep (e := .tick now) h nofun

/-- At first all figures are zero, and the switch is off. -/
lemma figures_initial (hzero : P {}) (config : Config) (n : ℕ) :
    FiguresAre P (World.initial H config n) :=
  ⟨fun _ hr => List.eq_of_mem_replicate hr ▸ hzero, Or.inl rfl⟩

/-- **What is shown** of a room are figures with the property, in every run in which all that is
read has it. -/
lemma shown_figures (hzero : P {}) {C : Commanders → Sched Command ProcEvent → Prop}
    (hread : ∀ s t found, C s (.env (.iterate t found)) → FiguresAre P s.pool.world →
      ∀ name, P (found.data F atof nameSize name s.pool.world.now))
    (config : Config) (n : ℕ) {schedule : List (Sched Command ProcEvent)}
    (hC : ∀ x ∈ (commanders H F atof nameSize).trace (.initial H config n) schedule, C x.1 x.2)
    {s : Commanders}
    (hs : s ∈ Commanders.initial H config n ::
      (commanders H F atof nameSize).states (.initial H config n) schedule)
    {t : ℕ} {command : Command} {response : Response} (hop : s.op t = some command)
    (hret : s.pool.prog t = .ret response) (hshow : command.type = .showRoom)
    (hsuccess : response.type = .success) :
    ∃ data, P data ∧ response.data = figuresText H data := by
  have hinitial : (Commanders.initial H config n).AllPreserve (FiguresAre P)
      (ShowsRoom H (FiguresAre P)) :=
    ⟨figures_initial hzero config n, nofun, fun _ => ⟨_, rfl⟩⟩
  have hall := Pool.Called.preserves_states (C := C) (figures_assignments hzero).processCommand
    (fun s e hl hw => hw.procStep fun t found he name => hread s t found (he ▸ hl) hw name) hinitial
    hC s hs
  obtain ⟨w, hw, r, hr, hdata⟩ := hall.result hop hret hshow hsuccess
  exact ⟨r.latestData, hw.rooms r hr, hdata⟩

end figures

/-! ## The two theorems -/

section shown

variable {H F atof nameSize}

/-- `%.2f` of zero -/
lemma fixed2Text_zero : fixed2Text 0 = bytes "0.00" := by decide +kernel

/-- Neither branch assigns the memory usage. -/
lemma memoryUsage_data (found : Found) (name : List UInt8) (now : ℤ) :
    (found.data F atof nameSize name now).memoryUsage = 0 := by
  cases found with
  | sysmonitor content =>
      simp only [Found.data, kernelData]
      split
      · rfl
      · exact kernelLine_memoryUsage atof _ _
  | fallback stat memoryFree processCount statics => rfl

/-- No figure is assigned from a line of which no token has one of the keys. -/
lemma kernelLine_of_no_key {line : List UInt8}
    (h : ∀ token ∈ strtok 32 (cstr line), ∀ key ∈ [bytes "cpu_usage:", bytes "memory_free:",
      bytes "processes:"], hasKey key token = false) (data : MonitorData) :
    kernelLine atof line data = data := by
  rw [kernelLine]
  generalize strtok 32 (cstr line) = tokens at h
  induction tokens with
  | nil => rfl
  | cons token tokens ih =>
      rw [List.forall_mem_cons] at h
      have hnone : kernelField atof data token = data := by
        have hkeys := h.1
        simp only [List.forall_mem_cons] at hkeys
        obtain ⟨hcpu, hfree, hproc, -⟩ := hkeys
        simp [kernelField_eq, hcpu, hfree, hproc]
      rw [List.foldl_cons, hnone]
      exact ih h.2

/-- All figures that are shown are zero. -/
structure ZeroFigures (data : MonitorData) : Prop where
  cpuUsage : data.cpuUsage = 0
  memoryUsage : data.memoryUsage = 0
  processCount : data.processCount = 0

/-- The text of three figures of which the second is zero. -/
lemma figuresText_of_memory {data : MonitorData} (h : data.memoryUsage = 0) :
    figuresText H data = snprintf H.dataSize (bytes "CPU: " ++ fixed2Text data.cpuUsage ++
      bytes "%, Memory: 0.00%, Processes: " ++ intText data.processCount) := by
  have htext : bytes "%, Memory: " ++ bytes "0.00" ++ bytes "%, Processes: " =
      bytes "%, Memory: 0.00%, Processes: " := by decide
  rw [figuresText, h, fixed2Text_zero, ← htext]
  simp only [List.append_assoc]

/-- The text of three zeros. -/
lemma figuresText_of_zero {data : MonitorData} (h : ZeroFigures data) :
    figuresText H data =
      snprintf H.dataSize (bytes "CPU: 0.00%, Memory: 0.00%, Processes: 0") := by
  rw [figuresText_of_memory h.memoryUsage, h.cpuUsage, h.processCount, fixed2Text_zero]
  exact congrArg (snprintf H.dataSize) (by decide)

/-- The text of the module has none of them. -/
lemma zeroFigures_monitorRead {m : ProcMonitor}
    (h : m.monitorEnabled = 0 ∨ m.monitorEnabled = 1) (name : List UInt8) (now : ℤ) :
    ZeroFigures (kernelData atof nameSize name (monitorRead m) now) := by
  have hline (text : List UInt8) (hfirst : kernelFirstLine text = some text)
      (hkeys : ∀ token ∈ strtok 32 (cstr text), ∀ key ∈ [bytes "cpu_usage:", bytes "memory_free:",
        bytes "processes:"], hasKey key token = false) :
      ZeroFigures (kernelData atof nameSize name text now) := by
    simp only [kernelData, hfirst, kernelLine_of_no_key hkeys]
    exact ⟨rfl, rfl, rfl⟩
  obtain ⟨enabled⟩ := m
  rcases h with rfl | rfl
  · exact hline (bytes "Monitor: 0\n") (by decide) (by decide)
  · exact hline (bytes "Monitor: 1\n") (by decide) (by decide)

/-- Nor has what is read while the module is loaded. -/
lemma zeroFigures_of_loaded {s : Commanders} {t : ℕ} {found : Found}
    (hl : ModuleLoaded s (.env (.iterate t found)))
    (hswitch : s.pool.world.kernel.monitorEnabled = 0 ∨ s.pool.world.kernel.monitorEnabled = 1)
    (name : List UInt8) : ZeroFigures (found.data F atof nameSize name s.pool.world.now) := by
  cases found with
  | sysmonitor content =>
      obtain rfl : content = monitorRead s.pool.world.kernel := hl
      exact zeroFigures_monitorRead hswitch name _
  | fallback => cases hl

variable (H F atof nameSize)

/-- **The memory usage is never shown.** Whatever is under `/proc`, and however the clients, the
monitor threads and the writers of the module's file interleave, a room's data are shown with a
memory usage of zero. -/
theorem shown_memory (config : Config) (n : ℕ) (schedule : List (Sched Command ProcEvent))
    (s : Commanders)
    (hs : s ∈ Commanders.initial H config n ::
      (commanders H F atof nameSize).states (.initial H config n) schedule)
    (t : ℕ) (command : Command) (response : Response) (hop : s.op t = some command)
    (hret : s.pool.prog t = .ret response) (hshow : command.type = .showRoom)
    (hsuccess : response.type = .success) :
    ∃ cpuUsage processCount, response.data =
      snprintf H.dataSize (bytes "CPU: " ++ fixed2Text cpuUsage ++
        bytes "%, Memory: 0.00%, Processes: " ++ intText processCount) := by
  obtain ⟨data, hmemory, hdata⟩ :=
    shown_figures (P := fun data => data.memoryUsage = 0) (C := fun _ _ => True) rfl
      (fun _ _ found _ _ name => memoryUsage_data found name _) config n (fun _ _ => trivial) hs hop
      hret hshow hsuccess
  exact ⟨data.cpuUsage, data.processCount, hdata.trans (figuresText_of_memory hmemory)⟩

/-- **Nothing is shown while the module is loaded.** In every run in which `/proc/sysmonitor` can
be opened whenever a monitor thread reads, a room's data are shown as zeros. -/
theorem shown_zero (config : Config) (n : ℕ) (schedule : List (Sched Command ProcEvent))
    (hloaded : ∀ x ∈ (commanders H F atof nameSize).trace (.initial H config n) schedule,
      ModuleLoaded x.1 x.2)
    (s : Commanders)
    (hs : s ∈ Commanders.initial H config n ::
      (commanders H F atof nameSize).states (.initial H config n) schedule)
    (t : ℕ) (command : Command) (response : Response) (hop : s.op t = some command)
    (hret : s.pool.prog t = .ret response) (hshow : command.type = .showRoom)
    (hsuccess : response.type = .success) :
    response.data = snprintf H.dataSize (bytes "CPU: 0.00%, Memory: 0.00%, Processes: 0") := by
  obtain ⟨data, hzero, hdata⟩ :=
    shown_figures (P := ZeroFigures) (C := ModuleLoaded) ⟨rfl, rfl, rfl⟩
      (fun s t found hl hw name => zeroFigures_of_loaded hl hw.switch name) config n hloaded hs hop
      hret hshow hsuccess
  exact hdata.trans (figuresText_of_zero hzero)

end shown

/-! ## Two runs -/

/-- A command for the room `cpu`. -/
def commandFor (type : CommandType) : Command := ⟨type, bytes "cpu", 5, 0, 0⟩

/-- A client creates a room and starts it, the monitor thread ends a reading, and the client asks
for the room's data. -/
def createStartShow (found : Found) : List (Sched Command ProcEvent) :=
  .call 0 (commandFor .createRoom) :: List.replicate 3 (.go 0 true) ++
    .call 0 (commandFor .startRoom) :: List.replicate 5 (.go 0 true) ++
    .env (.iterate 0 found) :: .call 0 (commandFor .showRoom) :: List.replicate 3 (.go 0 true)

/-- Where that ends. -/
def shownRoom (found : Found) : Commanders :=
  ((commanders .plain .exact (fun _ => 0) 64).run (.initial .plain (.zero .plain) 4)
    (createStartShow found)).1

/-- A reply with a room's data. -/
def dataReply (data : String) : Response := ⟨.success, bytes "Room 'cpu' data", bytes data, 0⟩

/-- A reading without the module: the process count is shown, the memory usage is not. -/
theorem shown_memory_fallback :
    ∃ cpuUsage processCount, (dataReply "CPU: 0.00%, Memory: 0.00%, Processes: 97").data =
      snprintf Header.plain.dataSize (bytes "CPU: " ++ fixed2Text cpuUsage ++
        bytes "%, Memory: 0.00%, Processes: " ++ intText processCount) :=
  shown_memory .plain .exact (fun _ => 0) 64 (.zero .plain) 4 _
    (shownRoom (.fallback none 2048 97 .zero)) (Machine.run_mem_states _ _ _) 0
    (commandFor .showRoom) (dataReply "CPU: 0.00%, Memory: 0.00%, Processes: 97") rfl
    (eq_ret_of_result (by decide +kernel)) rfl rfl

/-- A reading with the module: nothing is shown. -/
theorem shown_zero_enabled :
    (dataReply "CPU: 0.00%, Memory: 0.00%, Processes: 0").data =
      snprintf Header.plain.dataSize (bytes "CPU: 0.00%, Memory: 0.00%, Processes: 0") :=
  shown_zero .plain .exact (fun _ => 0) 64 (.zero .plain) 4
    (createStartShow (.sysmonitor (bytes "Monitor: 1\n"))) (by decide +kernel) (shownRoom _)
    (Machine.run_mem_states _ _ _) 0 (commandFor .showRoom)
    (dataReply "CPU: 0.00%, Memory: 0.00%, Processes: 0") rfl
    (eq_ret_of_result (by decide +kernel)) rfl rfl

end ProcessMonitor.Integration
