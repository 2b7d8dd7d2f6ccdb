import ProcessMonitor.Lib.LockProg
import ProcessMonitor.Integration.State

/-!
# The room functions of the integration daemon

`find_room`, `create_room`, `start_room`, `stop_room` and `delete_room` of
`src/04-integration/main_daemon.c`, each as the program of its steps on `World` under
`rooms_mutex`. `find_room` takes the mutex itself, and `start_room`, `stop_room` and
`delete_room` call it with the mutex held. Logging goes through another mutex and changes nothing
here; it is left out. A `const char *` that may be `NULL` is an `Option`.
-/

namespace ProcessMonitor.Integration

open CString Kernel Prog

variable (H : Header)

/-! ## The table -/

/-- The slots that the loops `for (i = 0; i < config.max_rooms; i++)` visit. -/
def DaemonState.slots (d : DaemonState) : List RoomInfo := d.rooms.take d.config.maxRooms.toNat

/-- The test of the search loops: the slot is in use and has this name. -/
def RoomInfo.hasName (name : List UInt8) (r : RoomInfo) : Bool :=
  r.state ≠ .inactive && strncmp r.name name H.maxRoomName = 0

/-- The search loop of `find_room` and `create_room`: the first slot in use with this name. -/
def DaemonState.search (d : DaemonState) (name : List UInt8) : Option ℕ :=
  d.slots.findIdx? (RoomInfo.hasName H name)

/-- The second loop of `create_room`: the first slot not in use. -/
def DaemonState.freeSlot (d : DaemonState) : Option ℕ :=
  d.slots.findIdx? fun r => r.state = .inactive

/-- Source: `main_daemon.c`, `find_room` -/
def findRoom (roomName : Option (List UInt8)) : Prog World (Option ℕ) :=
  match roomName with
  | none => pure none
  | some name => do
      acquire
      let w ← read
      match w.daemon.search H name with
      | some i =>
          release
          pure (some i)
      | none =>
          release
          pure none

/-! ## Creating -/

/-- The assignments to the new room's slot; the other fields keep what they had. -/
def RoomInfo.fill (name : List UInt8) (collectionInterval dflt now : ℤ) (r : RoomInfo) : RoomInfo :=
  { r with
    name := strncpy r.name name H.maxRoomName
    state := .created
    createdTime := now
    collectionInterval := if collectionInterval > 0 then collectionInterval else dflt
    active := false
    errorCount := 0 }

/-- What `create_room` does to the shared state once it has the slot. -/
def World.addRoom (name : List UInt8) (collectionInterval : ℤ) (slot : ℕ) (w : World) : World :=
  let w' := w.updRoom slot
    (RoomInfo.fill H name collectionInterval w.daemon.config.collectionInterval w.now)
  { w' with
    daemon := { w'.daemon with roomCount := w'.daemon.roomCount + 1 }
    stats := { w'.stats with roomsCreated := w'.stats.roomsCreated + 1 } }

/-- Source: `main_daemon.c`, `create_room` -/
def createRoom (roomName : Option (List UInt8)) (collectionInterval : ℤ) : Prog World ℤ :=
  match roomName with
  | none => pure (-1)
  | some name => do
      acquire
      let w ← read
      match w.daemon.search H name with
      | some _ =>
          release
          pure (-1)
      | none =>
          match w.daemon.freeSlot with
          | none =>
              release
              pure (-1)
          | some slot =>
              update (World.addRoom H name collectionInterval slot)
              release
              pure 0

/-! ## The kernel switch and the monitor threads -/

/-- Source: `ipc_handler.c`, `ipc_write_kernel_control`. One character goes through
`/proc/sysmonitor` when it can be opened for writing. -/
def ipcWriteKernelControl (roomName : Option (List UInt8)) (enable : Bool) : Prog World ℤ :=
  match roomName with
  | none => pure (-1)
  | some _ => do
      let w ← read
      if w.procfsWritable then
        update fun w =>
          { w with kernel := (monitorWrite false (bytes (if enable then "1" else "0")) w.kernel).2 }
        pure 0
      else
        pure (-1)

/-- A successful `pthread_create(&room->monitor_thread, NULL, room_monitor_thread, room)`. -/
def World.spawn (i : ℕ) (w : World) : World :=
  let w' := w.updRoom i fun r => { r with monitorThread := some w.threads.length }
  { w' with threads := w'.threads ++ [⟨i, false, false⟩] }

/-- A `pthread_create` that fails: no thread is created, and what it leaves in the handle is
undefined. The handle then names no thread, whatever it named before. -/
def World.spawnFailed (i : ℕ) (w : World) : World :=
  w.updRoom i fun r => { r with monitorThread := none }

/-- `pthread_join(room->monitor_thread, NULL)`, called without the mutex: the handle is read,
then the call waits for the thread. Its result is ignored by every caller. -/
def pthreadJoin (i : ℕ) : Prog World Unit := do
  let w ← read
  wait fun w' => w'.threadEnded (w.roomThread i)
  update fun w' => w'.updThread (w.roomThread i) fun t => { t with joined := true }

/-! ## Starting, stopping, deleting -/

/-- Source: `main_daemon.c`, `start_room` -/
def startRoom (roomName : Option (List UInt8)) : Prog World ℤ := do
  acquire
  let room ← findRoom H roomName
  match room with
  | none =>
      release
      pure (-1)
  | some i =>
      let w ← read
      if w.roomState i = .running then
        release
        pure 0
      else
        update fun w => w.updRoom i fun r => { r with active := true, state := .running }
        let ok ← outcome -- `pthread_create`
        if ok then
          update (World.spawn i)
          release
          let _ ← ipcWriteKernelControl roomName true
          pure 0
        else
          update (World.spawnFailed i)
          update fun w => w.updRoom i fun r => { r with state := .error }
          release
          pure (-1)

/-- `stop_room` from its second locked section on. -/
def stopTail (roomName : Option (List UInt8)) (i : ℕ) : Prog World ℤ := do
  acquire
  update fun w => w.updRoom i fun r => { r with state := .created }
  release
  let _ ← ipcWriteKernelControl roomName false
  pure 0

/-- Source: `main_daemon.c`, `stop_room` -/
def stopRoom (roomName : Option (List UInt8)) : Prog World ℤ := do
  acquire
  let room ← findRoom H roomName
  match room with
  | none =>
      release
      pure (-1)
  | some i =>
      let w ← read
      if w.roomState i ≠ .running then
        release
        pure 0
      else
        update fun w => w.updRoom i fun r => { r with active := false }
        release
        pthreadJoin i
        stopTail roomName i

/-- What `delete_room` does to the shared state: the slot is cleared and the room uncounted. -/
def World.removeRoom (i : ℕ) (w : World) : World :=
  let w' := w.updRoom i fun _ => RoomInfo.cleared H
  { w' with
    daemon := { w'.daemon with roomCount := w'.daemon.roomCount - 1 }
    stats := { w'.stats with roomsDeleted := w'.stats.roomsDeleted + 1 } }

/-- `delete_room` from the clearing of the slot on, with the mutex held. -/
def deleteClear (i : ℕ) : Prog World ℤ := do
  update (World.removeRoom H i)
  release
  pure 0

/-- `delete_room` from its second locked section on, when the room was running. -/
def deleteTail (i : ℕ) : Prog World ℤ := do
  acquire
  deleteClear H i

/-- Source: `main_daemon.c`, `delete_room` -/
def deleteRoom (roomName : Option (List UInt8)) : Prog World ℤ := do
  acquire
  let room ← findRoom H roomName
  match room with
  | none =>
      release
      pure (-1)
  | some i =>
      let w ← read
      if w.roomState i = .running then
        update fun w => w.updRoom i fun r => { r with active := false }
        release
        pthreadJoin i
        deleteTail H i
      else
        deleteClear H i

/-! ## The operations of a client -/

/-- A call of one of the four functions, with a name that is not `NULL`: `process_command` passes
the array in its command. -/
inductive RoomOp
  | create (name : List UInt8) (collectionInterval : ℤ)
  | start (name : List UInt8)
  | stop (name : List UInt8)
  | delete (name : List UInt8)
deriving DecidableEq, Repr

/-- The code that a call runs. -/
def RoomOp.code : RoomOp → Prog World ℤ
  | .create name ci => createRoom H (some name) ci
  | .start name => startRoom H (some name)
  | .stop name => stopRoom H (some name)
  | .delete name => deleteRoom H (some name)

end ProcessMonitor.Integration
