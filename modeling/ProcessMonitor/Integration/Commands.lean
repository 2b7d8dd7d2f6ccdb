import ProcessMonitor.Lib.Decimal
import ProcessMonitor.Integration.Rooms

/-!
# `process_command`

The dispatcher of `src/04-integration/main_daemon.c` as a program under `rooms_mutex`, with the
whole reply it writes. `message` and `data` are the strings left in the arrays of `response_t`.
-/

namespace ProcessMonitor.Integration

open CString Decimal Prog

/-! ## Commands and replies -/

/-- Source: the `CMD_*` constants of `main_daemon.c`; `other` is any other value, which the
`default` branch takes. -/
inductive CommandType
  | createRoom | startRoom | stopRoom | deleteRoom | showRoom | listRooms | status | other
deriving DecidableEq, Repr

/-- Source: the fields of `command_t` that `main_daemon.c` uses -/
structure Command where
  type : CommandType
  roomName : List UInt8
  param1 : ℤ
  param2 : ℤ
  timestamp : ℤ
deriving DecidableEq, Repr

/-- Source: the `RESP_*` constants of `main_daemon.c` -/
inductive RespType
  | success | error | roomNotFound | invalidCommand
deriving DecidableEq, Repr

/-- Source: the fields of `response_t` that `main_daemon.c` uses -/
structure Response where
  type : RespType
  message : List UInt8
  data : List UInt8
  timestamp : ℤ
deriving DecidableEq, Repr

variable (H : Header)

/-! ## The branches -/

/-- The reply of the four branches that call a room function: `result` is what it returned,
`past` and `infinitive` are the words of the two messages. -/
def roomReply (past infinitive : String) (name : List UInt8) (now result : ℤ) : Response :=
  if result = 0 then
    { type := .success
      message := snprintf H.messageSize (bytes "Room '" ++ cstr name ++ bytes ("' " ++ past))
      data := [], timestamp := now }
  else
    { type := .error
      message := snprintf H.messageSize
        (bytes ("Failed to " ++ infinitive ++ " room '") ++ cstr name ++ bytes "'")
      data := [], timestamp := now }

/-- The branch of `CMD_SHOW_ROOM`. -/
def showRoom (name : List UInt8) (now : ℤ) : Prog World Response := do
  acquire
  let room ← findRoom H (some name)
  let w ← read
  let reply : Response :=
    match room.bind (w.daemon.rooms[·]?) with
    | some r =>
        if r.state ≠ .inactive then
          { type := .success
            message := snprintf H.messageSize (bytes "Room '" ++ cstr name ++ bytes "' data")
            data := snprintf H.dataSize
              (bytes "CPU: " ++ fixed2Text r.latestData.cpuUsage ++ bytes "%, Memory: " ++
                fixed2Text r.latestData.memoryUsage ++ bytes "%, Processes: " ++
                intText r.latestData.processCount)
            timestamp := now }
        else notFound
    | none => notFound
  release
  pure reply
where
  /-- The reply to an unknown name. -/
  notFound : Response :=
    { type := .roomNotFound
      message := snprintf H.messageSize (bytes "Room '" ++ cstr name ++ bytes "' not found")
      data := [], timestamp := now }

/-- One slot's text in the listing, as `tmp[128]` holds it. -/
def listItem (r : RoomInfo) : List UInt8 :=
  snprintf 128 (cstr r.name ++ bytes " (" ++
    bytes (if r.state = .running then "running" else "stopped") ++ bytes "), ")

/-- The loop of `CMD_LIST_ROOMS`: `strncat` of each slot in use, as far as the array goes. -/
def roomList (d : DaemonState) : List UInt8 :=
  d.slots.foldl (fun acc r =>
    if r.state ≠ .inactive then acc ++ (listItem r).take (H.maxMessageSize - acc.length - 1)
    else acc) []

/-- The branch of `CMD_LIST_ROOMS`. -/
def listRooms (now : ℤ) : Prog World Response := do
  acquire
  let w ← read
  let list := roomList H w.daemon
  release
  pure
    { type := .success, message := snprintf H.messageSize (bytes "Active rooms")
      data := list.take H.dataSize, timestamp := now }

/-- The branch of `CMD_STATUS`. -/
def statusReply (w : World) (now : ℤ) : Response :=
  { type := .success
    message := snprintf H.messageSize (bytes "Daemon status")
    data := snprintf H.dataSize
      (bytes "Uptime: " ++ intText (w.now - w.daemon.startTime) ++ bytes " seconds, Rooms: " ++
        intText w.daemon.roomCount ++ bytes ", Commands processed: " ++
        natText w.stats.commandsProcessed)
    timestamp := now }

/-- The `default` branch. -/
def invalidReply (now : ℤ) : Response :=
  { type := .invalidCommand, message := snprintf H.messageSize (bytes "Invalid command")
    data := [], timestamp := now }

/-- The `switch` of `process_command`. -/
def dispatch (command : Command) (now : ℤ) : Prog World Response :=
  let name := command.roomName
  match command.type with
  | .createRoom => do
      let result ← createRoom H (some name) command.param1
      pure (roomReply H "created" "create" name now result)
  | .startRoom => do
      let result ← startRoom H (some name)
      pure (roomReply H "started" "start" name now result)
  | .stopRoom => do
      let result ← stopRoom H (some name)
      pure (roomReply H "stopped" "stop" name now result)
  | .deleteRoom => do
      let result ← deleteRoom H (some name)
      pure (roomReply H "deleted" "delete" name now result)
  | .showRoom => showRoom H name now
  | .listRooms => listRooms H now
  | .status => do
      let w ← read
      pure (statusReply H w now)
  | .other => pure (invalidReply H now)

/-- Source: `main_daemon.c`, `process_command`, on pointers that are not `NULL` -/
def processCommand (command : Command) : Prog World Response := do
  let w ← read
  let response ← dispatch H command w.now
  update fun w =>
    { w with stats := { w.stats with commandsProcessed := w.stats.commandsProcessed + 1 } }
  pure response

end ProcessMonitor.Integration
