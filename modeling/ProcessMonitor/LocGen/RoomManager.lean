import ProcessMonitor.Lib.Decimal
import ProcessMonitor.Lib.Machine
import ProcessMonitor.Lib.Slots

/-!
# The room manager of `loc_gen`

`src/02-loc-gen/room_manager.c`: an array of ten rooms of which the first `room_count` are in use.
A room's id is its index. `delete_room` shifts the later rooms down and renumbers them.

The abstract model is a list of at most ten items without ids (`RoomList`). `manager_refines` says
that every run of calls does to the array what it does to the list, and gives the same results.
-/

namespace ProcessMonitor.LocGen

open CString Decimal

/-! ## Data -/

/-- `MAX_ROOMS` -/
def maxRooms : ℕ := 10

/-- Source: `room_manager.h`, `room_type_t` -/
inductive RoomType
  | cpuRoom | memoryRoom | infStatsRoom
deriving DecidableEq, Repr

/-- Source: `room_manager.c`, `room_t` -/
structure Room where
  id : ℤ
  type : RoomType
  intervalMs : ℤ
  running : Bool
deriving DecidableEq, Repr

/-- Source: `room_manager.c`, `rooms` and `room_count` -/
structure Table where
  rooms : List Room
  roomCount : ℤ
  length_rooms : rooms.length = maxRooms

/-- The zeroed table. -/
def Table.zero : Table :=
  ⟨List.replicate maxRooms ⟨0, .cpuRoom, 0, false⟩, 0, List.length_replicate⟩

/-- What a function leaves, returns and prints. -/
structure Outcome where
  table : Table
  result : ℤ
  printed : List UInt8

/-- What the three functions of `data_collector.c` print. -/
structure Readings where
  cpuStats : List UInt8
  memoryStats : List UInt8
  ioStats : List UInt8

namespace Table

/-- Change the room `i`. -/
def updRoom (t : Table) (i : ℕ) (f : Room → Room) : Table :=
  { t with
    rooms := t.rooms.modify i f
    length_rooms := by rw [List.length_modify]; exact t.length_rooms }

/-- The guard of the functions that take an id. -/
def badId (t : Table) (roomId : ℤ) : Bool := roomId < 0 || roomId ≥ t.roomCount

end Table

/-! ## The functions -/

/-- The type that a text names; `none` for the result -1.
Source: `room_manager.c`, `str_to_room_type` -/
def strToRoomType (typeStr : List UInt8) : Option RoomType :=
  if strcmp typeStr (bytes "cpu-room") = 0 then some .cpuRoom
  else if strcmp typeStr (bytes "memory-room") = 0 then some .memoryRoom
  else if strcmp typeStr (bytes "inf-stats-room") = 0 then some .infStatsRoom
  else none

/-- Source: `room_manager.c`, `create_room` -/
def createRoom (roomTypeStr : List UInt8) (interval : ℤ) (t : Table) : Outcome :=
  if t.roomCount ≥ maxRooms then ⟨t, -1, bytes "Max rooms reached\n"⟩
  else
    match strToRoomType roomTypeStr with
    | none => ⟨t, -1, bytes "Invalid room type " ++ cstr roomTypeStr ++ bytes "\n"⟩
    | some type =>
        let t' := t.updRoom t.roomCount.toNat fun _ => ⟨t.roomCount, type, interval, false⟩
        ⟨{ t' with roomCount := t'.roomCount + 1 }, t.roomCount,
          bytes "Created room id " ++ intText t.roomCount ++ bytes " type " ++ cstr roomTypeStr ++
            bytes " interval " ++ intText interval ++ bytes "ms\n"⟩

/-- The loop of `delete_room`: each room from `room_id` on is overwritten with the next one, whose
id becomes its new index. -/
def closeGap (roomId : ℤ) (t : Table) : Table :=
  { t with
    rooms := Slots.shiftDown (fun i r => { r with id := i }) roomId.toNat
      (t.roomCount - 1 - roomId).toNat t.rooms
    length_rooms := by rw [Slots.length_shiftDown]; exact t.length_rooms }

/-- Source: `room_manager.c`, `delete_room` -/
def deleteRoom (roomId : ℤ) (t : Table) : Outcome :=
  if t.badId roomId then ⟨t, -1, bytes "Invalid room id\n"⟩
  else
    let t' := closeGap roomId t
    ⟨{ t' with roomCount := t'.roomCount - 1 }, 0,
      bytes "Deleted room id " ++ intText roomId ++ bytes "\n"⟩

/-- Whether the room `i` is running. -/
def Table.running (t : Table) (i : ℕ) : Bool :=
  match t.rooms[i]? with
  | some r => r.running
  | none => false

/-- Source: `room_manager.c`, `start_monitoring` -/
def startMonitoring (roomId : ℤ) (t : Table) : Outcome :=
  if t.badId roomId then ⟨t, -1, bytes "Invalid room id\n"⟩
  else if t.running roomId.toNat then
    ⟨t, -1, bytes "Room id " ++ intText roomId ++ bytes " already running\n"⟩
  else
    ⟨t.updRoom roomId.toNat fun r => { r with running := true }, 0,
      bytes "Started monitoring room id " ++ intText roomId ++ bytes "\n"⟩

/-- Source: `room_manager.c`, `stop_monitoring` -/
def stopMonitoring (roomId : ℤ) (t : Table) : Outcome :=
  if t.badId roomId then ⟨t, -1, bytes "Invalid room id\n"⟩
  else if !t.running roomId.toNat then
    ⟨t, -1, bytes "Room id " ++ intText roomId ++ bytes " is not running\n"⟩
  else
    ⟨t.updRoom roomId.toNat fun r => { r with running := false }, 0,
      bytes "Stopped monitoring room id " ++ intText roomId ++ bytes "\n"⟩

/-- What `read_cpu_stats`, `read_memory_stats` or `read_io_stats` prints for a type. -/
def Readings.of (readings : Readings) : RoomType → List UInt8
  | .cpuRoom => readings.cpuStats
  | .memoryRoom => readings.memoryStats
  | .infStatsRoom => readings.ioStats

/-- What is printed; the function returns nothing and assigns nothing.
Source: `room_manager.c`, `show_room_data` -/
def showRoomData (readings : Readings) (roomId : ℤ) (t : Table) : List UInt8 :=
  if t.badId roomId then bytes "Invalid room id\n"
  else
    match t.rooms[roomId.toNat]? with
    | some room =>
        bytes "Displaying data for room id " ++ intText room.id ++ bytes "\n" ++
          readings.of room.type
    | none => []

/-! ## Calls -/

/-- A call of one of the five functions. -/
inductive Call
  | create (roomTypeStr : List UInt8) (interval : ℤ)
  | delete (roomId : ℤ)
  | start (roomId : ℤ)
  | stop (roomId : ℤ)
  | showData (roomId : ℤ)
deriving DecidableEq, Repr

/-- The table after a call and what it returned, if it returns anything. -/
def Call.run (t : Table) : Call → Table × Option ℤ
  | .create typeStr interval =>
      ((createRoom typeStr interval t).table, some (createRoom typeStr interval t).result)
  | .delete roomId => ((deleteRoom roomId t).table, some (deleteRoom roomId t).result)
  | .start roomId => ((startMonitoring roomId t).table, some (startMonitoring roomId t).result)
  | .stop roomId => ((stopMonitoring roomId t).table, some (stopMonitoring roomId t).result)
  | .showData _ => (t, none)

/-- The room manager under a sequence of calls. -/
def manager : Machine Table Call (Option ℤ) := ⟨Call.run⟩

/-! ## The list -/

/-- What a room is, besides its id. -/
structure Item where
  type : RoomType
  intervalMs : ℤ
  running : Bool
deriving DecidableEq, Repr

/-- At most ten items. -/
structure RoomList where
  items : List Item
  length_le : items.length ≤ maxRooms

/-- The empty list. -/
def RoomList.empty : RoomList := ⟨[], by decide⟩

namespace RoomList

variable (l : RoomList)

/-- The item under an id: the ids are the positions. -/
def get? (roomId : ℤ) : Option Item := if roomId < 0 then none else l.items[roomId.toNat]?

/-- Set or clear `running` at an id. -/
def setRunning (roomId : ℤ) (b : Bool) : RoomList where
  items := l.items.modify roomId.toNat fun x => { x with running := b }
  length_le := by rw [List.length_modify]; exact l.length_le

/-- Remove the item at an id; the later ones move up unchanged. -/
def remove (roomId : ℤ) : RoomList where
  items := l.items.eraseIdx roomId.toNat
  length_le := (List.length_eraseIdx_le _ _).trans l.length_le

/-- The operations on the list. -/
def apply : Call → RoomList × Option ℤ
  | .create typeStr interval =>
      match strToRoomType typeStr with
      | none => (l, some (-1))
      | some type =>
          if h : l.items.length < maxRooms then
            (⟨l.items ++ [⟨type, interval, false⟩],
              by rw [List.length_append, List.length_singleton]; exact h⟩,
              some l.items.length)
          else (l, some (-1))
  | .delete roomId =>
      match l.get? roomId with
      | none => (l, some (-1))
      | some _ => (l.remove roomId, some 0)
  | .start roomId =>
      match l.get? roomId with
      | none => (l, some (-1))
      | some x => if x.running then (l, some (-1)) else (l.setRunning roomId true, some 0)
  | .stop roomId =>
      match l.get? roomId with
      | none => (l, some (-1))
      | some x => if x.running then (l.setRunning roomId false, some 0) else (l, some (-1))
  | .showData _ => (l, none)

end RoomList

/-- The list as a machine on the same calls. -/
def roomList : Machine RoomList Call (Option ℤ) := ⟨RoomList.apply⟩

/-! ## The array holds the list -/

/-- The room at index `i` for an item. -/
def Item.room (i : ℕ) (x : Item) : Room := ⟨i, x.type, x.intervalMs, x.running⟩

/-- The first `room_count` rooms are the items of the list, each under its index. -/
structure Holds (t : Table) (l : RoomList) : Prop where
  count_eq : t.roomCount = (l.items.length : ℤ)
  rooms_eq : t.rooms.take l.items.length = l.items.mapIdx Item.room

/-- Whether the room of an item is running. -/
lemma Table.running_eq {t : Table} {i : ℕ} {x : Item} (hx : t.rooms[i]? = some (x.room i)) :
    t.running i = x.running := by
  rw [Table.running, hx]
  rfl

section holds

variable {t : Table} {l : RoomList} (h : Holds t l)
include h

/-- The room at an index in use. -/
lemma Holds.getElem?_rooms {i : ℕ} (hi : i < l.items.length) :
    t.rooms[i]? = (l.items[i]?).map (Item.room i) := by
  rw [← List.getElem?_mapIdx, ← h.rooms_eq, List.getElem?_take_of_lt hi]

/-- An id is refused, or it is the position of an item. -/
lemma Holds.id_cases (roomId : ℤ) :
    (t.badId roomId = true ∧ l.get? roomId = none) ∨
      ∃ (i : ℕ) (x : Item), roomId = i ∧ t.badId roomId = false ∧ l.get? roomId = some x ∧
        l.items[i]? = some x ∧ t.rooms[i]? = some (x.room i) := by
  unfold Table.badId RoomList.get?
  rw [h.count_eq]
  by_cases hneg : roomId < 0
  · exact Or.inl ⟨by simp [hneg], if_pos hneg⟩
  · obtain ⟨i, rfl⟩ := Int.eq_ofNat_of_zero_le (not_lt.mp hneg)
    rw [if_neg hneg, Int.toNat_natCast]
    by_cases hi : i < l.items.length
    · obtain ⟨x, hx⟩ : ∃ x, l.items[i]? = some x := ⟨_, List.getElem?_eq_getElem hi⟩
      have hroom := h.getElem?_rooms hi
      rw [hx, Option.map_some] at hroom
      exact Or.inr ⟨i, x, rfl, by simp [hi], hx, hx, hroom⟩
    · exact Or.inl ⟨by simp [not_lt.mp hi], List.getElem?_eq_none (not_lt.mp hi)⟩

/-- Assigning to `running` of one room. -/
lemma Holds.setRunning (i : ℕ) (b : Bool) :
    Holds (t.updRoom i fun r => { r with running := b }) (l.setRunning i b) where
  count_eq := by
    rw [RoomList.setRunning, List.length_modify]
    exact h.count_eq
  rooms_eq := by
    simp only [RoomList.setRunning, Table.updRoom, Int.toNat_natCast, List.length_modify]
    refine List.ext_getElem? fun j => ?_
    rw [List.getElem?_mapIdx, List.getElem?_modify]
    by_cases hj : j < l.items.length
    · rw [List.getElem?_take_of_lt hj, List.getElem?_modify, h.getElem?_rooms hj]
      cases l.items[j]? with
      | none => rfl
      | some x => by_cases hij : i = j <;> simp [hij, Item.room]
    · rw [List.getElem?_eq_none (by rw [List.length_take]; omega),
        List.getElem?_eq_none (not_lt.mp hj)]
      rfl

/-- `create_room` appends. -/
lemma Holds.create (typeStr : List UInt8) (interval : ℤ) :
    Holds (Call.run t (.create typeStr interval)).1 (l.apply (.create typeStr interval)).1 ∧
      (Call.run t (.create typeStr interval)).2 = (l.apply (.create typeStr interval)).2 := by
  simp only [Call.run, RoomList.apply, createRoom, h.count_eq]
  by_cases hfull : (l.items.length : ℤ) ≥ maxRooms
  · rw [if_pos hfull]
    have hno : ¬ l.items.length < maxRooms := by omega
    cases strToRoomType typeStr with
    | none => exact ⟨h, rfl⟩
    | some type =>
        simp only [dif_neg hno]
        exact ⟨h, trivial⟩
  · rw [if_neg hfull]
    have hroom : l.items.length < maxRooms := by omega
    cases strToRoomType typeStr with
    | none => exact ⟨h, rfl⟩
    | some type =>
        simp only [dif_pos hroom, Int.toNat_natCast]
        refine ⟨⟨?_, ?_⟩, trivial⟩
        · simp only [Table.updRoom, List.length_append, List.length_singleton, h.count_eq]
          rfl
        · have hlen : l.items.length < t.rooms.length := by rw [t.length_rooms]; exact hroom
          simp only [Table.updRoom, List.length_append, List.length_singleton]
          refine List.ext_getElem? fun j => ?_
          rw [List.getElem?_mapIdx]
          rcases Nat.lt_trichotomy j l.items.length with hj | rfl | hj
          · have hne : l.items.length ≠ j := by omega
            rw [List.getElem?_take_of_lt (by omega), List.getElem?_modify, h.getElem?_rooms hj,
              List.getElem?_append_left hj]
            simp [hne]
          · rw [List.getElem?_take_of_lt (by omega), List.getElem?_modify,
              List.getElem?_eq_getElem hlen, List.getElem?_concat_length]
            simp [Item.room]
          · rw [List.getElem?_eq_none (by rw [List.length_take]; omega),
              List.getElem?_eq_none (by rw [List.length_append, List.length_singleton]; omega),
              Option.map_none]

/-- `delete_room` removes. -/
lemma Holds.delete (roomId : ℤ) :
    Holds (Call.run t (.delete roomId)).1 (l.apply (.delete roomId)).1 ∧
      (Call.run t (.delete roomId)).2 = (l.apply (.delete roomId)).2 := by
  simp only [Call.run, RoomList.apply, deleteRoom]
  rcases h.id_cases roomId with ⟨hbad, hget⟩ | ⟨i, x, rfl, hok, hget, hx, -⟩
  · simp only [hbad, hget, if_true]
    exact ⟨h, trivial⟩
  · have hi : i < l.items.length := (List.getElem?_eq_some_iff.mp hx).1
    simp only [hok, hget, Bool.false_eq_true, if_false]
    refine ⟨⟨?_, ?_⟩, trivial⟩
    · simp only [closeGap, RoomList.remove, Int.toNat_natCast, List.length_eraseIdx_of_lt hi,
        h.count_eq]
      omega
    · have hn : (t.roomCount - 1 - (i : ℤ)).toNat = l.items.length - 1 - i := by
        rw [h.count_eq]
        omega
      simp only [closeGap, RoomList.remove, Int.toNat_natCast, List.length_eraseIdx_of_lt hi, hn]
      exact Slots.take_shiftDown (fun i (r : Room) => { r with id := i }) (fun _ _ _ => rfl)
        h.rooms_eq hi

/-- `start_monitoring` sets `running` of a room that is not running. -/
lemma Holds.start (roomId : ℤ) :
    Holds (Call.run t (.start roomId)).1 (l.apply (.start roomId)).1 ∧
      (Call.run t (.start roomId)).2 = (l.apply (.start roomId)).2 := by
  simp only [Call.run, RoomList.apply, startMonitoring]
  rcases h.id_cases roomId with ⟨hbad, hget⟩ | ⟨i, x, rfl, hok, hget, -, hroom⟩
  · simp only [hbad, hget, if_true]
    exact ⟨h, trivial⟩
  · simp only [hok, hget, Int.toNat_natCast, Table.running_eq hroom, Bool.false_eq_true, if_false]
    by_cases hrun : x.running = true
    · simp only [hrun, if_true]
      exact ⟨h, trivial⟩
    · simp only [Bool.not_eq_true] at hrun
      simp only [hrun, Bool.false_eq_true, if_false]
      exact ⟨h.setRunning i true, trivial⟩

/-- `stop_monitoring` clears `running` of a room that is running. -/
lemma Holds.stop (roomId : ℤ) :
    Holds (Call.run t (.stop roomId)).1 (l.apply (.stop roomId)).1 ∧
      (Call.run t (.stop roomId)).2 = (l.apply (.stop roomId)).2 := by
  simp only [Call.run, RoomList.apply, stopMonitoring]
  rcases h.id_cases roomId with ⟨hbad, hget⟩ | ⟨i, x, rfl, hok, hget, -, hroom⟩
  · simp only [hbad, hget, if_true]
    exact ⟨h, trivial⟩
  · simp only [hok, hget, Int.toNat_natCast, Table.running_eq hroom, Bool.false_eq_true, if_false]
    by_cases hrun : x.running = true
    · simp only [hrun, Bool.not_true, Bool.false_eq_true, if_false, if_true]
      exact ⟨h.setRunning i false, trivial⟩
    · simp only [Bool.not_eq_true] at hrun
      simp only [hrun, Bool.not_false, Bool.false_eq_true, if_true, if_false]
      exact ⟨h, trivial⟩

/-- **One call** does to the array what it does to the list, and returns the same. -/
theorem Holds.step (call : Call) :
    Holds (call.run t).1 (l.apply call).1 ∧ (call.run t).2 = (l.apply call).2 := by
  cases call with
  | create typeStr interval => exact h.create typeStr interval
  | delete roomId => exact h.delete roomId
  | start roomId => exact h.start roomId
  | stop roomId => exact h.stop roomId
  | showData roomId => exact ⟨h, rfl⟩

/-- A call that returns -1, or nothing, leaves the whole array as it was. -/
lemma Holds.unchanged (call : Call)
    (hfail : (call.run t).2 = some (-1) ∨ (call.run t).2 = none) : (call.run t).1 = t := by
  cases call with
  | create typeStr interval =>
      simp only [Call.run, Option.some.injEq, reduceCtorEq, or_false] at hfail ⊢
      unfold createRoom at hfail ⊢
      split
      · rfl
      · rw [if_neg ‹_›] at hfail
        split at hfail
        · rfl
        · have hcount := h.count_eq
          simp only at hfail
          omega
  | delete roomId =>
      simp only [Call.run, deleteRoom, Option.some.injEq, reduceCtorEq, or_false] at hfail ⊢
      split at hfail
      · rw [if_pos ‹_›]
      · norm_num at hfail
  | start roomId =>
      simp only [Call.run, Option.some.injEq, reduceCtorEq, or_false] at hfail ⊢
      unfold startMonitoring at hfail ⊢
      split
      · rfl
      · split
        · rfl
        · rw [if_neg ‹_›, if_neg ‹_›] at hfail
          norm_num at hfail
  | stop roomId =>
      simp only [Call.run, Option.some.injEq, reduceCtorEq, or_false] at hfail ⊢
      unfold stopMonitoring at hfail ⊢
      split
      · rfl
      · split
        · rfl
        · rw [if_neg ‹_›, if_neg ‹_›] at hfail
          norm_num at hfail
  | showData roomId => rfl

end holds

/-- The zeroed table holds the empty list. -/
lemma holds_zero : Holds Table.zero RoomList.empty := ⟨rfl, rfl⟩

/-- **The room manager is a list.** After every sequence of calls from the zeroed table, the
results are those of the operations on the list, and the first `room_count` rooms are its items,
each under its index. From there, a call that returns -1 or nothing changes nothing. -/
theorem manager_refines (calls : List Call) :
    let c := manager.run Table.zero calls
    let a := roomList.run RoomList.empty calls
    c.2 = a.2 ∧ c.1.roomCount = (a.1.items.length : ℤ) ∧
      c.1.rooms.take c.1.roomCount.toNat = a.1.items.mapIdx Item.room ∧
      ∀ call : Call, (call.run c.1).2 = some (-1) ∨ (call.run c.1).2 = none →
        (call.run c.1).1 = c.1 := by
  obtain ⟨h, hout⟩ := manager.run_simulation roomList (R := Holds)
    (fun _ _ call h => h.step call) holds_zero calls
  refine ⟨hout, h.count_eq, ?_, fun call hfail => h.unchanged call hfail⟩
  rw [h.count_eq, Int.toNat_natCast]
  exact h.rooms_eq

end ProcessMonitor.LocGen
