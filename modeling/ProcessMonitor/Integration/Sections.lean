import ProcessMonitor.Lib.Slots
import ProcessMonitor.Integration.Rooms

/-!
# The locked sections of the room functions

With `rooms_mutex` taken as recursive, each room function is one locked section or, for a running
room, two with the join between them. The equations here (`createRoom_next` to `deleteTail_next`)
say what each section does to the shared state and where the thread stands after it; everything
proved about the room functions over that reading of the mutex starts from them.

`DaemonState.entries` is the table the slots in use make up, as a list of named entries.
-/

namespace ProcessMonitor.Integration

open CString Kernel Prog

variable (H : Header)

/-! ## The table in the slots -/

/-- A name, as far as the comparisons read it. -/
def cut (name : List UInt8) : List UInt8 := (cstr name).take H.maxRoomName

/-- What the table knows about a room besides its name. -/
structure Entry where
  state : RoomState
  interval : ℤ
deriving DecidableEq, Repr

/-- The slot holds a room. -/
def RoomInfo.used (r : RoomInfo) : Bool := r.state ≠ .inactive

/-- The named entry of a slot. -/
def RoomInfo.entry (r : RoomInfo) : List UInt8 × Entry :=
  (r.key H, ⟨r.state, r.collectionInterval⟩)

/-- The entries of the slots in use, in slot order. -/
def tableOf (rooms : List RoomInfo) : List (List UInt8 × Entry) :=
  Slots.entries RoomInfo.used (RoomInfo.entry H) rooms

/-- What the table depends on in a slot. -/
def RoomInfo.shape (r : RoomInfo) : List UInt8 × RoomState × ℤ :=
  (r.name, r.state, r.collectionInterval)

/-- Slots of one shape are in use alike, under the same entry. -/
lemma used_eq_of_shape {r r' : RoomInfo} (h : r'.shape = r.shape) : r'.used = r.used := by
  simp only [RoomInfo.shape, Prod.mk.injEq] at h
  rw [RoomInfo.used, RoomInfo.used, h.2.1]

lemma entry_eq_of_shape {r r' : RoomInfo} (h : r'.shape = r.shape) : r'.entry H = r.entry H := by
  simp only [RoomInfo.shape, Prod.mk.injEq] at h
  obtain ⟨hn, hs, hi⟩ := h
  simp only [RoomInfo.entry, RoomInfo.key, hn, hs, hi]

/-- Arrays whose slots have the same shapes hold the same table. -/
lemma tableOf_congr {l l' : List RoomInfo} (h : l'.map RoomInfo.shape = l.map RoomInfo.shape) :
    tableOf H l' = tableOf H l := by
  have hshape (l : List RoomInfo) :
      tableOf H l = Slots.entries (fun s => decide (s.2.1 ≠ .inactive))
        (fun s => ((cstr s.1).take H.maxRoomName, (⟨s.2.1, s.2.2⟩ : Entry)))
        (l.map RoomInfo.shape) := by
    rw [← Slots.entries_comp]
    rfl
  rw [hshape, hshape, h]

/-- The daemon's table. -/
def DaemonState.entries (d : DaemonState) : List (List UInt8 × Entry) := tableOf H d.rooms

/-- The array has `n` slots and the loops visit them all. -/
structure DaemonState.Sized (n : ℕ) (d : DaemonState) : Prop where
  length_rooms : d.rooms.length = n
  maxRooms_eq : d.config.maxRooms = n

lemma RoomInfo.used_iff (r : RoomInfo) : r.used = true ↔ r.state ≠ .inactive := by
  simp [RoomInfo.used]

lemma RoomInfo.used_eq_false_iff (r : RoomInfo) : r.used = false ↔ r.state = .inactive := by
  simp [RoomInfo.used]

/-- Assigning to a slot keeps the size. -/
lemma DaemonState.Sized.updRoom {n : ℕ} {w : World} (h : w.daemon.Sized n) (i : ℕ)
    (f : RoomInfo → RoomInfo) : (w.updRoom i f).daemon.Sized n :=
  ⟨by simpa using h.length_rooms, h.maxRooms_eq⟩

/-- The loops visit the whole array. -/
lemma DaemonState.Sized.slots_eq {n : ℕ} {d : DaemonState} (h : d.Sized n) : d.slots = d.rooms := by
  unfold DaemonState.slots
  rw [h.maxRooms_eq, Int.toNat_natCast, List.take_of_length_le h.length_rooms.le]

/-- A slot has the name searched for exactly when it is in use under that name. -/
lemma RoomInfo.hasName_iff (name : List UInt8) (r : RoomInfo) :
    r.hasName H name = true ↔ r.used = true ∧ r.key H = cut H name := by
  unfold RoomInfo.hasName RoomInfo.key cut
  rw [Bool.and_eq_true, decide_eq_true_eq, decide_eq_true_eq, strncmp_eq_zero_iff,
    RoomInfo.used_iff]

section search

variable {H} {n : ℕ} {d : DaemonState} {name : List UInt8} {i : ℕ}

/-- The search finds a slot in use with that name. -/
lemma DaemonState.Sized.of_search (hd : d.Sized n) (h : d.search H name = some i) :
    ∃ l₁ r l₂, d.rooms = l₁ ++ r :: l₂ ∧ l₁.length = i ∧ r.used = true ∧
      r.key H = cut H name := by
  unfold DaemonState.search at h
  rw [hd.slots_eq] at h
  obtain ⟨l₁, r, l₂, hl, hi, hr⟩ := Slots.exists_split_of_findIdx? h
  exact ⟨l₁, r, l₂, hl, hi, (r.hasName_iff H name).mp hr⟩

/-- The search fails exactly when the name is not in the table. -/
lemma DaemonState.Sized.search_eq_none_iff (hd : d.Sized n) :
    d.search H name = none ↔ cut H name ∉ (d.entries H).map Prod.fst := by
  unfold DaemonState.search DaemonState.entries tableOf
  rw [hd.slots_eq, List.findIdx?_eq_none_iff, List.mem_map]
  constructor
  · rintro h ⟨e, he, hk⟩
    obtain ⟨r, hr, hu, rfl⟩ := (Slots.mem_entries _ _).mp he
    have hn : r.hasName H name = true := (r.hasName_iff H name).mpr ⟨hu, hk⟩
    rw [h r hr] at hn
    exact absurd hn (by decide)
  · intro h r hr
    by_contra hn
    obtain ⟨hu, hk⟩ := (r.hasName_iff H name).mp (by simpa using hn)
    exact h ⟨r.entry H, (Slots.mem_entries _ _).mpr ⟨r, hr, hu, rfl⟩, hk⟩

/-- The second loop of `create_room` finds a slot that is not in use. -/
lemma DaemonState.Sized.of_freeSlot (hd : d.Sized n) (h : d.freeSlot = some i) :
    ∃ l₁ r l₂, d.rooms = l₁ ++ r :: l₂ ∧ l₁.length = i ∧ r.used = false := by
  unfold DaemonState.freeSlot at h
  rw [hd.slots_eq] at h
  obtain ⟨l₁, r, l₂, hl, hi, hr⟩ := Slots.exists_split_of_findIdx? h
  exact ⟨l₁, r, l₂, hl, hi, by simpa [RoomInfo.used] using hr⟩

/-- The second loop of `create_room` fails exactly when all slots are in use. -/
lemma DaemonState.Sized.freeSlot_eq_none_iff (hd : d.Sized n) :
    d.freeSlot = none ↔ (d.entries H).length = n := by
  unfold DaemonState.freeSlot DaemonState.entries tableOf
  rw [hd.slots_eq, List.findIdx?_eq_none_iff, Slots.length_entries, ← hd.length_rooms,
    List.countP_eq_length]
  simp [RoomInfo.used]

end search

/-! ## The sections -/

/-- What a successful `start_room` does in its section. -/
def World.startOk (i : ℕ) (w : World) : World :=
  (w.updRoom i fun r => { r with active := true, state := .running }).spawn i

/-- What a `start_room` whose `pthread_create` fails does in its section. -/
def World.startFailed (i : ℕ) (w : World) : World :=
  ((w.updRoom i fun r => { r with active := true, state := .running }).spawnFailed i).updRoom i
    fun r => { r with state := .error }

/-- What the first section of `stop_room` and of `delete_room` does to a running room. -/
def World.deactivate (i : ℕ) (w : World) : World :=
  w.updRoom i fun r => { r with active := false }

/-- What the second section of `stop_room` does. -/
def World.markCreated (i : ℕ) (w : World) : World :=
  w.updRoom i fun r => { r with state := .created }

/-- What a write to `/proc/sysmonitor` does. -/
def World.control (enable : Bool) (w : World) : World :=
  { w with kernel := (monitorWrite false (bytes (if enable then "1" else "0")) w.kernel).2 }

/-- The end of `start_room` and `stop_room`: the call of `ipc_write_kernel_control`, whose result
is ignored. -/
def afterControl (name : Option (List UInt8)) (enable : Bool) : Prog World ℤ := do
  let _ ← ipcWriteKernelControl name enable
  pure 0

/-- The same step by step. -/
lemma afterControl_eq (name : List UInt8) (enable : Bool) :
    afterControl (some name) enable =
      .get fun w =>
        if w.procfsWritable then .modify (World.control enable) (.ret 0) else .ret 0 := by
  simp only [afterControl, ipcWriteKernelControl, read_bind, get_bind]
  congr 1
  funext w
  split <;> rfl

section sized

variable {n : ℕ} {w : World} (h : w.daemon.Sized n) (i : ℕ)
include h

lemma DaemonState.Sized.addRoom (name : List UInt8) (ci : ℤ) :
    (w.addRoom H name ci i).daemon.Sized n := ⟨(h.updRoom i _).length_rooms, h.maxRooms_eq⟩

lemma DaemonState.Sized.startOk : (w.startOk i).daemon.Sized n := (h.updRoom i _).updRoom i _

lemma DaemonState.Sized.startFailed : (w.startFailed i).daemon.Sized n :=
  ((h.updRoom i _).updRoom i _).updRoom i _

lemma DaemonState.Sized.deactivate : (w.deactivate i).daemon.Sized n := h.updRoom i _

lemma DaemonState.Sized.markCreated : (w.markCreated i).daemon.Sized n := h.updRoom i _

lemma DaemonState.Sized.removeRoom : (w.removeRoom H i).daemon.Sized n :=
  ⟨(h.updRoom i _).length_rooms, h.maxRooms_eq⟩

end sized

section equations

variable (ok : Bool) (w : World) (name : List UInt8) (i : ℕ)

lemma createRoom_next (ci : ℤ) :
    (createRoom H (some name) ci).next ok w = some (
      match w.daemon.search H name, w.daemon.freeSlot with
      | none, some i => (w.addRoom H name ci i, .ret 0)
      | _, _ => (w, .ret (-1))) := by
  simp only [createRoom, acquire_bind, read_bind, next, lockedSection]
  cases w.daemon.search H name with
  | some i => rfl
  | none => cases w.daemon.freeSlot <;> rfl

lemma startRoom_next :
    (startRoom H (some name)).next ok w = some (
      match w.daemon.search H name with
      | none => (w, .ret (-1))
      | some i =>
          if w.roomState i = .running then (w, .ret 0)
          else if ok then (w.startOk i, afterControl (some name) true)
          else (w.startFailed i, .ret (-1))) := by
  simp only [startRoom, findRoom, acquire_bind, read_bind, next, lockedSection, lock_bind, get_bind]
  cases w.daemon.search H name with
  | none => rfl
  | some i =>
      simp only [release_bind, unlock_bind, pure_eq, ret_bind, lockedSection]
      by_cases hr : w.roomState i = .running
      · simp [hr, lockedSection]
      · cases ok <;>
          simp [hr, lockedSection, World.startOk, World.startFailed, afterControl]

lemma stopRoom_next :
    (stopRoom H (some name)).next ok w = some (
      match w.daemon.search H name with
      | none => (w, .ret (-1))
      | some i =>
          if w.roomState i = .running then
            (w.deactivate i, do pthreadJoin i; stopTail (some name) i)
          else (w, .ret 0)) := by
  simp only [stopRoom, findRoom, acquire_bind, read_bind, next, lockedSection, lock_bind, get_bind]
  cases w.daemon.search H name with
  | none => rfl
  | some i =>
      simp only [release_bind, unlock_bind, pure_eq, ret_bind, lockedSection]
      by_cases hr : w.roomState i = .running
      · simp [hr, lockedSection, World.deactivate]
      · simp [hr, lockedSection]

lemma stopTail_next :
    (stopTail (some name) i).next ok w =
      some (w.markCreated i, afterControl (some name) false) := rfl

lemma deleteRoom_next :
    (deleteRoom H (some name)).next ok w = some (
      match w.daemon.search H name with
      | none => (w, .ret (-1))
      | some i =>
          if w.roomState i = .running then
            (w.deactivate i, do pthreadJoin i; deleteTail H i)
          else (w.removeRoom H i, .ret 0)) := by
  simp only [deleteRoom, findRoom, acquire_bind, read_bind, next, lockedSection, lock_bind,
    get_bind]
  cases w.daemon.search H name with
  | none => rfl
  | some i =>
      simp only [release_bind, unlock_bind, pure_eq, ret_bind, lockedSection]
      by_cases hr : w.roomState i = .running
      · simp [hr, lockedSection, World.deactivate]
      · simp [hr, lockedSection, deleteClear]

lemma deleteTail_next :
    (deleteTail H i).next ok w = some (w.removeRoom H i, .ret 0) := rfl

end equations

/-! ## What the sections do to the table

Each section assigns to one slot. With the array cut at that slot, the array after the section is
the same with the slot's new contents between the parts. -/

section table

variable {H} {w : World} {l₁ l₂ : List RoomInfo} {r : RoomInfo}

/-- The table of an array cut at a slot in use. -/
lemma tableOf_split_of_used (hr : r.used = true) :
    tableOf H (l₁ ++ r :: l₂) = tableOf H l₁ ++ r.entry H :: tableOf H l₂ := by
  rw [tableOf, Slots.entries_append, Slots.entries_cons_of_used _ _ hr]
  rfl

/-- The table of an array cut at a slot not in use. -/
lemma tableOf_split_of_unused (hr : r.used = false) :
    tableOf H (l₁ ++ r :: l₂) = tableOf H l₁ ++ tableOf H l₂ := by
  rw [tableOf, Slots.entries_append, Slots.entries_cons_of_unused _ _ hr]
  rfl

/-- A cleared slot is not in use. -/
@[simp] lemma used_cleared : (RoomInfo.cleared H).used = false := rfl

/-- A filled slot is in use. -/
@[simp] lemma used_fill (name : List UInt8) (ci dflt now : ℤ) :
    (r.fill H name ci dflt now).used = true := rfl

/-- The entry of a filled slot, whatever was in it before. -/
@[simp] lemma entry_fill (name : List UInt8) (ci dflt now : ℤ) :
    (r.fill H name ci dflt now).entry H =
      (cut H name, ⟨.created, if ci > 0 then ci else dflt⟩) := by
  simp only [RoomInfo.entry, RoomInfo.key, RoomInfo.fill, take_cstr_strncpy, cut]

variable (hl : w.daemon.rooms = l₁ ++ r :: l₂)
include hl

/-- The state of the slot at which the array is cut. -/
lemma roomState_split : w.roomState l₁.length = r.state := by
  rw [World.roomState, hl, Slots.getElem?_split]

lemma rooms_updRoom_split (f : RoomInfo → RoomInfo) :
    (w.updRoom l₁.length f).daemon.rooms = l₁ ++ f r :: l₂ := by
  rw [World.rooms_updRoom, hl, Slots.modify_split]

lemma rooms_addRoom (name : List UInt8) (ci : ℤ) :
    (w.addRoom H name ci l₁.length).daemon.rooms =
      l₁ ++ r.fill H name ci w.daemon.config.collectionInterval w.now :: l₂ :=
  rooms_updRoom_split hl _

lemma rooms_removeRoom :
    (w.removeRoom H l₁.length).daemon.rooms = l₁ ++ RoomInfo.cleared H :: l₂ :=
  rooms_updRoom_split hl _

lemma rooms_startOk :
    (w.startOk l₁.length).daemon.rooms =
      l₁ ++ { r with active := true, state := .running,
                     monitorThread := some w.threads.length } :: l₂ := by
  have hl' := rooms_updRoom_split hl fun r => { r with active := true, state := .running }
  exact rooms_updRoom_split hl' _

lemma rooms_startFailed :
    (w.startFailed l₁.length).daemon.rooms =
      l₁ ++ { r with active := true, state := .error, monitorThread := none } :: l₂ := by
  have hset := rooms_updRoom_split hl fun r => { r with active := true, state := .running }
  have hlost := rooms_updRoom_split hset fun r => { r with monitorThread := none }
  exact rooms_updRoom_split hlost _

lemma rooms_deactivate :
    (w.deactivate l₁.length).daemon.rooms = l₁ ++ { r with active := false } :: l₂ :=
  rooms_updRoom_split hl _

lemma rooms_markCreated :
    (w.markCreated l₁.length).daemon.rooms = l₁ ++ { r with state := .created } :: l₂ :=
  rooms_updRoom_split hl _

end table

end ProcessMonitor.Integration
