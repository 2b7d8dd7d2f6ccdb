import ProcessMonitor.Integration.Sections

/-!
# The monitor threads

`room_monitor_thread` of `src/04-integration/main_daemon.c` as the steps it takes beside the
client threads. What `ipc_read_kernel_data` reads under `/proc` is left open; that it returns 0
for every room, whatever it reads, decides which branch of the loop runs.

A monitor thread writes to its room's data only: `Quiet` says what such a step leaves alone, and
`monitorStep_quiet` that every step of the monitor threads is one.
-/

namespace ProcessMonitor.Integration

open CString

/-! ## The loop -/

namespace World

/-- The locked section of an iteration, after a reading. -/
def collect (i : ℕ) (data : MonitorData) (w : World) : World :=
  let w' := w.updRoom i fun r => { r with latestData := data, lastUpdate := w.now }
  { w' with
    stats := { w'.stats with dataPointsCollected := w'.stats.dataPointsCollected + 1 } }

/-- The error count of the slot `i`. -/
def roomErrors (w : World) (i : ℕ) : ℤ :=
  match w.daemon.rooms[i]? with
  | some r => r.errorCount
  | none => 0

/-- The other branch of an iteration of the thread `t`, when the reading fails: more than ten
errors end the thread. -/
def readFailed (t i : ℕ) (w : World) : World :=
  let w' := w.updRoom i fun r => { r with errorCount := r.errorCount + 1 }
  if w'.roomErrors i > 10 then
    (w'.updRoom i fun r => { r with state := .error }).updThread (some t)
      fun th => { th with ended := true }
  else w'

/-- The test of the loop: `g_daemon_state.running && room->active`. -/
def monitors (w : World) (i : ℕ) : Bool :=
  w.daemon.running && match w.daemon.rooms[i]? with
    | some r => r.active
    | none => false

end World

/-- The result of a reading, with `found` for what is under `/proc`.
Source: `ipc_handler.c`, `ipc_read_kernel_data` -/
def ipcReadKernelData (roomName : Option (List UInt8)) (found : MonitorData) : ℤ × MonitorData :=
  match roomName with
  | none => (-1, {})
  | some _ => (0, found)

/-- The name that the thread of the slot `i` passes: the array in the slot. -/
def World.roomName (w : World) (i : ℕ) : Option (List UInt8) :=
  some (match w.daemon.rooms[i]? with
    | some r => r.name
    | none => [])

/-- What happens beside the client threads: the monitor thread `t` ends a reading or leaves its
loop, or time passes. -/
inductive MonitorEvent
  | iterate (t : ℕ) (found : MonitorData)
  | leave (t : ℕ)
  | tick (now : ℤ)

/-- A step of the monitor threads or of the clock. A thread that has tested the flags finishes its
iteration even if they change meanwhile; it leaves when it finds them changed.
Source: `main_daemon.c`, `room_monitor_thread` -/
def monitorStep (e : MonitorEvent) (w : World) : World :=
  match e with
  | .iterate t found =>
      match w.threads[t]? with
      | some th =>
          if th.ended then w
          else
            let (result, data) := ipcReadKernelData (w.roomName th.slot) found
            if result = 0 then w.collect th.slot data else w.readFailed t th.slot
      | none => w
  | .leave t =>
      match w.threads[t]? with
      | some th =>
          if w.monitors th.slot then w
          else w.updThread (some t) fun th => { th with ended := true }
      | none => w
  | .tick now => { w with now := now }

/-! ## What a monitor thread leaves alone -/

/-- The step from `w` to `w'` leaves the names, states and intervals of the slots, the counts,
the configuration and the kernel module alone. -/
structure Quiet (w w' : World) : Prop where
  shapes_eq : w'.daemon.rooms.map RoomInfo.shape = w.daemon.rooms.map RoomInfo.shape
  roomCount_eq : w'.daemon.roomCount = w.daemon.roomCount
  config_eq : w'.daemon.config = w.daemon.config
  roomsCreated_eq : w'.stats.roomsCreated = w.stats.roomsCreated
  roomsDeleted_eq : w'.stats.roomsDeleted = w.stats.roomsDeleted
  kernel_eq : w'.kernel = w.kernel
  procfsWritable_eq : w'.procfsWritable = w.procfsWritable

lemma Quiet.refl (w : World) : Quiet w w := ⟨rfl, rfl, rfl, rfl, rfl, rfl, rfl⟩

lemma Quiet.trans {w w' w'' : World} (h : Quiet w w') (h' : Quiet w' w'') : Quiet w w'' :=
  ⟨h'.1.trans h.1, h'.2.trans h.2, h'.3.trans h.3, h'.4.trans h.4, h'.5.trans h.5,
    h'.6.trans h.6, h'.7.trans h.7⟩

/-- Assigning to other fields of a slot is quiet. -/
lemma quiet_updRoom (w : World) (i : ℕ) {f : RoomInfo → RoomInfo}
    (hf : ∀ r, (f r).shape = r.shape) : Quiet w (w.updRoom i f) :=
  ⟨Slots.map_modify_of_comp hf _ _, rfl, rfl, rfl, rfl, rfl, rfl⟩

/-- The first section of `stop_room` and `delete_room` is quiet. -/
lemma quiet_deactivate (w : World) (i : ℕ) : Quiet w (w.deactivate i) :=
  quiet_updRoom w i fun _ => rfl

/-- What only concerns the handles and the ends of monitor threads is quiet. -/
lemma quiet_updThread (w : World) (h : Option ℕ) (f : MonitorThread → MonitorThread) :
    Quiet w (w.updThread h f) := by
  cases h <;> exact ⟨rfl, rfl, rfl, rfl, rfl, rfl, rfl⟩

/-- Storing a reading is quiet. -/
lemma quiet_collect (w : World) (i : ℕ) (data : MonitorData) : Quiet w (w.collect i data) := by
  have h := quiet_updRoom w i (f := fun r => { r with latestData := data, lastUpdate := w.now })
    fun _ => rfl
  exact ⟨h.shapes_eq, rfl, rfl, rfl, rfl, rfl, rfl⟩

/-- **The monitor threads are quiet.** -/
theorem monitorStep_quiet (e : MonitorEvent) (w : World) : Quiet w (monitorStep e w) := by
  cases e with
  | iterate t found =>
      simp only [monitorStep]
      split
      · split
        · exact .refl w
        · -- the reading succeeds, so this is the branch that stores it
          exact quiet_collect w _ found
      · exact .refl w
  | leave t =>
      simp only [monitorStep]
      split
      · split
        · exact .refl w
        · exact quiet_updThread w (some t) _
      · exact .refl w
  | tick now => exact ⟨rfl, rfl, rfl, rfl, rfl, rfl, rfl⟩

/-- Any number of steps of the monitor threads. -/
def monitorSteps (es : List MonitorEvent) (w : World) : World :=
  es.foldl (fun w e => monitorStep e w) w

lemma monitorSteps_quiet (es : List MonitorEvent) (w : World) : Quiet w (monitorSteps es w) := by
  induction es generalizing w with
  | nil => exact .refl w
  | cons e es ih => exact (monitorStep_quiet e w).trans (ih (monitorStep e w))

section quiet

variable {w w' : World} (h : Quiet w w')
include h

/-- A quiet step keeps the table. -/
lemma Quiet.entries_eq (H : Header) : w'.daemon.entries H = w.daemon.entries H :=
  tableOf_congr H h.shapes_eq

/-- A quiet step keeps the size of the array. -/
lemma Quiet.sized {n : ℕ} (hd : w.daemon.Sized n) : w'.daemon.Sized n := by
  have hlen := congrArg List.length h.shapes_eq
  rw [List.length_map, List.length_map] at hlen
  exact ⟨hlen.trans hd.length_rooms, by rw [h.config_eq]; exact hd.maxRooms_eq⟩

/-- An array cut at a slot can still be cut there, and the parts have the shapes they had. -/
lemma Quiet.split {l₁ l₂ : List RoomInfo} {r : RoomInfo} (hl : w.daemon.rooms = l₁ ++ r :: l₂) :
    ∃ l₁' r' l₂', w'.daemon.rooms = l₁' ++ r' :: l₂' ∧ l₁'.length = l₁.length ∧
      l₁'.map RoomInfo.shape = l₁.map RoomInfo.shape ∧ r'.shape = r.shape ∧
      l₂'.map RoomInfo.shape = l₂.map RoomInfo.shape := by
  have hs := h.shapes_eq
  rw [hl, List.map_append, List.map_cons, List.map_eq_append_iff] at hs
  obtain ⟨l₁', l', hrooms, h₁, hs⟩ := hs
  obtain ⟨r', l₂', rfl, hr, h₂⟩ := List.map_eq_cons_iff.mp hs
  have hlen := congrArg List.length h₁
  rw [List.length_map, List.length_map] at hlen
  exact ⟨l₁', r', l₂', hrooms, hlen, h₁, hr, h₂⟩

end quiet

end ProcessMonitor.Integration
