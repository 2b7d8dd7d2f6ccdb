import ProcessMonitor.Integration.Commands

/-!
# `rooms_mutex` is not recursive

`main` initialises `rooms_mutex` with default attributes. `find_room` takes the mutex, and
`start_room`, `stop_room`, `delete_room` and the branch of `CMD_SHOW_ROOM` call it with the mutex
held; `create_room`, which searches the table in place, does not. So the discipline holds for
exactly the commands that do not go through `find_room` (`processCommand_neverBad_iff`).
-/

namespace ProcessMonitor.Integration

open CString Prog

variable (H : Header)

/-- The commands whose branch calls `find_room` with the mutex held. -/
def CommandType.callsFindRoom : CommandType → Bool
  | .startRoom | .stopRoom | .deleteRoom | .showRoom => true
  | .createRoom | .listRooms | .status | .other => false

/-- The commands whose branch takes the mutex. -/
def CommandType.takesMutex : CommandType → Bool
  | .status | .other => false
  | .createRoom | .startRoom | .stopRoom | .deleteRoom | .listRooms | .showRoom => true

/-- With the mutex held, `find_room` waits for itself. -/
lemma not_safe_findRoom_held (name : List UInt8) (Q : Option ℕ → Bool → Prop) :
    ¬ Safe (findRoom H (some name)) true Q := by
  intro h
  exact absurd h.1 (by decide)

/-- A function that takes the mutex and then calls `find_room` is not safe. -/
lemma not_safe_acquire_findRoom {α : Type} (name : List UInt8) (f : Option ℕ → Prog World α)
    (Q : α → Bool → Prop) :
    ¬ Safe (do acquire; let room ← findRoom H (some name); f room) false Q := by
  rw [acquire_bind]
  rintro ⟨-, h⟩
  rw [safe_bind] at h
  exact not_safe_findRoom_held H name _ h

/-- `create_room` keeps the discipline. -/
lemma safe_createRoom (name : List UInt8) (ci : ℤ) :
    Safe (createRoom H (some name) ci) false Released := by
  simp only [createRoom, acquire_bind, read_bind, Safe, true_and]
  intro w
  split
  · exact ⟨rfl, rfl⟩
  · split <;> exact ⟨rfl, rfl⟩

/-- The branch of `CMD_LIST_ROOMS` keeps the discipline. -/
lemma safe_listRooms (now : ℤ) : Safe (listRooms H now) false Released :=
  ⟨rfl, fun _ => ⟨rfl, rfl⟩⟩

/-- The `switch` keeps the discipline exactly when it does not call `find_room`. -/
lemma safe_dispatch_iff (command : Command) (now : ℤ) :
    Safe (dispatch H command now) false Released ↔ command.type.callsFindRoom = false := by
  unfold dispatch
  cases command.type with
  | createRoom =>
      simp only [CommandType.callsFindRoom, iff_true, safe_bind]
      exact (safe_createRoom H command.roomName command.param1).mono fun _ _ h => h
  | listRooms => simpa [CommandType.callsFindRoom] using safe_listRooms H now
  | status => simp [CommandType.callsFindRoom, Safe, Released]
  | other => simp [CommandType.callsFindRoom, Safe, Released]
  | showRoom =>
      simp only [CommandType.callsFindRoom, Bool.true_eq_false, iff_false]
      exact not_safe_acquire_findRoom H command.roomName _ _
  | _ =>
      simp only [CommandType.callsFindRoom, Bool.true_eq_false, iff_false, safe_bind]
      exact not_safe_acquire_findRoom H command.roomName _ _

/-- `process_command` keeps the discipline exactly when its branch does not call `find_room`. -/
lemma safe_processCommand_iff (command : Command) :
    Safe (processCommand H command) false Released ↔ command.type.callsFindRoom = false := by
  unfold processCommand
  simp only [read_bind, Safe, safe_bind]
  constructor
  · intro h
    exact (safe_dispatch_iff H command 0).mp ((h (.initial H (.zero H) 0)).mono fun _ _ h' => h')
  · intro h w
    exact ((safe_dispatch_iff H command w.now).mpr h).mono fun _ _ h' => h'

/-- **The lock discipline of `process_command`, exactly.** From every state of the daemon, with
other threads changing it at will, a thread that runs `process_command` never takes
`rooms_mutex` twice, never releases it without holding it and returns with it free, if and only
if the command is none of start, stop, delete and show. -/
theorem processCommand_neverBad_iff (w : World) (command : Command) :
    NeverBad w (processCommand H command) false ↔ command.type.callsFindRoom = false := by
  rw [← safe_iff_neverBad]
  exact safe_processCommand_iff H command

/-- A `start` command, on a daemon that has no room yet, locks itself out. -/
theorem startRoom_self_deadlock :
    ¬ NeverBad (World.initial .plain (.zero .plain) 10)
      (processCommand .plain ⟨.startRoom, bytes "cpu", 0, 0, 0⟩) false := by
  rw [← safe_iff_neverBad, safe_processCommand_iff]
  decide

end ProcessMonitor.Integration
