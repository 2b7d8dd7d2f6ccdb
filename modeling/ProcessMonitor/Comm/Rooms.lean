import ProcessMonitor.Lib.Decimal

/-!
# The room table of the communication daemon

`find_room`, `add_room`, `list_rooms` and the `cmd_*` functions of
`src/03-communication/daemon/command_handler.c`. Each `cmd_*` function holds `rooms_mutex` from
its first look at the table to its last, so that it is one step on the `Table`. Log messages are
left out.

A reply is the string left in `response`, an array of `response_size` bytes that is zeroed before
the call. `list_rooms` fills it piece by piece at offsets it counts itself; `Write` is one such
piece with the arguments it is written with.
-/

namespace ProcessMonitor.Comm

open CString Decimal

/-! ## Data -/

/-- `MAX_ROOMS` -/
def maxRooms : ℕ := 50
/-- `MAX_ROOM_NAME` -/
def maxRoomName : ℕ := 64
/-- `BUFFER_SIZE` -/
def bufferSize : ℕ := 1024

/-- Source: `daemon.h`, `room_status_t` -/
inductive RoomStatus
  | created | running | stopped
deriving DecidableEq, Repr

/-- Source: `daemon_main.c`, `room_status_string` -/
def RoomStatus.text : RoomStatus → List UInt8
  | .created => bytes "CREATED"
  | .running => bytes "RUNNING"
  | .stopped => bytes "STOPPED"

lemma RoomStatus.zero_notMem_text (status : RoomStatus) : (0 : UInt8) ∉ status.text := by
  cases status <;> decide

/-- Source: `daemon.h`, `room_t` -/
structure Room where
  name : List UInt8
  size : ℤ
  status : RoomStatus
  monitorPid : ℤ
  active : Bool
  name_length : name.length = maxRoomName

/-- A zeroed element of `rooms`. -/
def Room.zero : Room :=
  ⟨List.replicate maxRoomName 0, 0, .created, 0, false, List.length_replicate⟩

/-- Source: `daemon.h`, `rooms` and `room_count` -/
structure Table where
  rooms : List Room
  roomCount : ℤ
  length_rooms : rooms.length = maxRooms

/-- The table before the first command. -/
def Table.empty : Table := ⟨List.replicate maxRooms Room.zero, 0, List.length_replicate⟩

/-- The process the daemon runs as; `getpid` returns a positive `int`. -/
structure Host where
  pid : ℤ
  pid_pos : 0 < pid
  pid_isInt : IsInt pid

/-- A host for fixed inputs. -/
def Host.example : Host := ⟨4242, by decide, by unfold IsInt; decide⟩

/-- What a command function leaves and returns. -/
structure Outcome where
  table : Table
  result : ℤ
  response : List UInt8

/-! ## Room management -/

namespace Table

/-- Change the room `i`. -/
def updRoom (t : Table) (i : ℕ) (f : Room → Room) : Table :=
  { t with
    rooms := t.rooms.modify i f
    length_rooms := by rw [List.length_modify]; exact t.length_rooms }

/-- The rooms that the loops `for (i = 0; i < room_count; i++)` visit. -/
def visited (t : Table) : List Room := t.rooms.take t.roomCount.toNat

end Table

/-- The search of `find_room`: the first active room with this name. -/
def Table.search (roomName : List UInt8) (t : Table) : Option ℕ :=
  t.visited.findIdx? fun r => r.active && strcmp r.name roomName = 0

/-- The room that `find_room` points to, with its index.
Source: `command_handler.c`, `find_room` -/
def findRoom (roomName : List UInt8) (t : Table) : Option (ℕ × Room) :=
  (t.search roomName).bind fun i => (t.rooms[i]?).map fun r => (i, r)

/-- The assignments of `add_room` to the new element. -/
def Room.fill (roomName : List UInt8) (roomSize : ℤ) (r : Room) : Room where
  name := (strncpy r.name roomName (maxRoomName - 1)).set (maxRoomName - 1) 0
  size := roomSize
  status := .created
  monitorPid := 0
  active := true
  name_length := by
    rw [List.length_set, length_strncpy roomName (by rw [r.name_length]; decide), r.name_length]

/-- Source: `command_handler.c`, `add_room` -/
def addRoom (roomName : List UInt8) (roomSize : ℤ) (t : Table) : Table × ℤ :=
  if t.roomCount ≥ maxRooms then (t, -1)
  else
    let t' := t.updRoom t.roomCount.toNat (Room.fill roomName roomSize)
    ({ t' with roomCount := t'.roomCount + 1 }, 0)

/-! ## Commands -/

/-- Source: `command_handler.c`, `cmd_create_room` -/
def cmdCreateRoom (roomName : List UInt8) (roomSize : ℤ) (responseSize : ℕ) (t : Table) :
    Outcome :=
  if roomSize ≤ 0 ∨ roomSize > 10000 then
    ⟨t, 0, snprintf responseSize (bytes "ERROR Invalid room size (must be 1-10000)")⟩
  else
    match findRoom roomName t with
    | some _ =>
        ⟨t, 0, snprintf responseSize
          (bytes "ERROR Room '" ++ cstr roomName ++ bytes "' already exists")⟩
    | none =>
        let (t', result) := addRoom roomName roomSize t
        if result < 0 then
          ⟨t', 0, snprintf responseSize
            (bytes "ERROR Failed to create room '" ++ cstr roomName ++ bytes "'")⟩
        else
          ⟨t', 0, snprintf responseSize
            (bytes "OK Room '" ++ cstr roomName ++ bytes "' created with size " ++
              intText roomSize)⟩

/-- Source: `command_handler.c`, `cmd_start_room` -/
def cmdStartRoom (host : Host) (roomName : List UInt8) (responseSize : ℕ) (t : Table) : Outcome :=
  match findRoom roomName t with
  | none =>
      ⟨t, 0, snprintf responseSize (bytes "ERROR Room '" ++ cstr roomName ++ bytes "' not found")⟩
  | some (i, room) =>
      if room.status = .running then
        ⟨t, 0, snprintf responseSize
          (bytes "ERROR Room '" ++ cstr roomName ++ bytes "' is already running")⟩
      else
        ⟨t.updRoom i fun r => { r with status := .running, monitorPid := host.pid }, 0,
          snprintf responseSize
            (bytes "OK Room '" ++ cstr roomName ++ bytes "' monitoring started")⟩

/-- Source: `command_handler.c`, `cmd_stop_room` -/
def cmdStopRoom (roomName : List UInt8) (responseSize : ℕ) (t : Table) : Outcome :=
  match findRoom roomName t with
  | none =>
      ⟨t, 0, snprintf responseSize (bytes "ERROR Room '" ++ cstr roomName ++ bytes "' not found")⟩
  | some (i, room) =>
      if room.status ≠ .running then
        ⟨t, 0, snprintf responseSize
          (bytes "ERROR Room '" ++ cstr roomName ++ bytes "' is not running")⟩
      else
        ⟨t.updRoom i fun r =>
            { r with
              status := .stopped
              monitorPid := if r.monitorPid > 0 then 0 else r.monitorPid },
          0, snprintf responseSize
            (bytes "OK Room '" ++ cstr roomName ++ bytes "' monitoring stopped")⟩

/-- Source: `command_handler.c`, `cmd_show_room` -/
def cmdShowRoom (roomName : List UInt8) (responseSize : ℕ) (t : Table) : Outcome :=
  match findRoom roomName t with
  | none =>
      ⟨t, 0, snprintf responseSize (bytes "ERROR Room '" ++ cstr roomName ++ bytes "' not found")⟩
  | some (_, room) =>
      ⟨t, 0, snprintf responseSize
        (bytes "OK Room: " ++ cstr room.name ++ bytes ", Size: " ++ intText room.size ++
          bytes ", Status: " ++ room.status.text ++ bytes ", PID: " ++ intText room.monitorPid)⟩

/-- Source: `command_handler.c`, `cmd_exit_daemon` -/
def cmdExitDaemon (responseSize : ℕ) (t : Table) : Outcome :=
  ⟨t, 1, snprintf responseSize (bytes "OK Daemon shutting down")⟩

/-! ## The listing -/

/-- A call `snprintf(response + offset, size, ...)` and the text it formats. -/
structure Write where
  offset : ℤ
  size : ℕ
  text : List UInt8

/-- `response_size - offset`, in the type `size_t` of the first operand. -/
def roomLeft (responseSize : ℕ) (offset : ℤ) : ℕ := ((responseSize - offset) % 2 ^ 64).toNat

/-- The line of a room. -/
def listLine (r : Room) : List UInt8 :=
  bytes "  " ++ cstr r.name ++ bytes ": size=" ++ intText r.size ++ bytes ", status=" ++
    r.status.text ++ bytes "\n"

/-- The loop of `list_rooms`, from `offset` on. -/
def listLoop (responseSize : ℕ) : List Room → ℤ → List Write
  | [], _ => []
  | r :: rs, offset =>
      if offset < wrapInt responseSize - 1 then
        if r.active then
          ⟨offset, roomLeft responseSize offset, listLine r⟩ ::
            listLoop responseSize rs (offset + (listLine r).length)
        else listLoop responseSize rs offset
      else []

/-- Source: `command_handler.c`, `list_rooms`, as the calls it makes -/
def listRooms (responseSize : ℕ) (t : Table) : List Write :=
  let header := bytes "OK Rooms:\n"
  ⟨0, roomLeft responseSize 0, header⟩ ::
    if t.roomCount = 0 then
      [⟨header.length, roomLeft responseSize header.length, bytes "No rooms created"⟩]
    else listLoop responseSize t.visited header.length

/-- The string in `response` after a write: what is written behind its end does not show. -/
def Write.apply (w : Write) (response : List UInt8) : List UInt8 :=
  if w.offset ≤ response.length then response.take w.offset.toNat ++ snprintf w.size w.text
  else response

/-- The string in the zeroed `response` after a list of writes. -/
def written (ws : List Write) : List UInt8 := ws.foldl (fun response w => w.apply response) []

end ProcessMonitor.Comm
