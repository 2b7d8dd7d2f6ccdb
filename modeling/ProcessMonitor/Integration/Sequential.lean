import ProcessMonitor.Lib.Machine
import ProcessMonitor.Lib.OrderedMap
import ProcessMonitor.Integration.Monitor

/-!
# The room functions called one after another

With one caller, `rooms_mutex` taken as recursive and every `pthread_create` succeeding, a room
function runs to its end; the monitor threads go on beside it, while it waits for one of them and
between two calls. The `_run` equations give each function's result and the state it leaves.

The table is then a bounded map from names to states and intervals. `BoundedMap` says what that
map does, and `sequential_refines` that every run of calls, for every number of slots, gives the
same results and ends with the same entries, `room_count` being their number and the difference
of the two counters.
-/

namespace ProcessMonitor.Integration

open CString Prog

variable (H : Header)

/-! ## Calls -/

/-- An event of a sequential run: a call, with what the monitor threads do while it waits, or a
step of theirs between two calls. -/
inductive SeqEvent
  | call (op : RoomOp) (waiting : List MonitorEvent)
  | monitor (e : MonitorEvent)

/-- A call from its beginning to its end. -/
def RoomOp.run (op : RoomOp) (waiting : List MonitorEvent) (w : World) : World × ℤ :=
  (op.code H).run true (monitorSteps waiting) w

/-- The daemon under one caller. -/
def sequential : Machine World SeqEvent (Option ℤ) where
  step w
    | .call op waiting => ((op.run H waiting w).1, some (op.run H waiting w).2)
    | .monitor e => (monitorStep e w, none)

/-- `ipc_write_kernel_control` as far as it gets. -/
def World.tryControl (enable : Bool) (w : World) : World :=
  if w.procfsWritable then w.control enable else w

/-- The kernel switch does not concern the daemon's state. -/
@[simp] lemma daemon_tryControl (w : World) (enable : Bool) :
    (w.tryControl enable).daemon = w.daemon := by
  unfold World.tryControl
  split <;> rfl

/-- The state in which a waiting call enters its second section. -/
def World.afterWait (i : ℕ) (waiting : List MonitorEvent) (w : World) : World :=
  (monitorSteps waiting (w.deactivate i)).updThread ((w.deactivate i).roomThread i)
    fun t => { t with joined := true }

section equations

variable (w : World) (name : List UInt8) (waiting : List MonitorEvent)

lemma afterControl_run (enable : Bool) (pause : World → World) :
    (afterControl (some name) enable).run true pause w = (w.tryControl enable, 0) := by
  rw [afterControl_eq, World.tryControl]
  simp only [Prog.run]
  split <;> rfl

lemma create_run (ci : ℤ) :
    (RoomOp.create name ci).run H waiting w =
      match w.daemon.search H name, w.daemon.freeSlot with
      | none, some i => (w.addRoom H name ci i, 0)
      | _, _ => (w, -1) := by
  refine (run_of_next (createRoom_next H true w name ci)).trans ?_
  cases w.daemon.search H name with
  | some i => rfl
  | none => cases w.daemon.freeSlot <;> rfl

lemma start_run :
    (RoomOp.start name).run H waiting w =
      match w.daemon.search H name with
      | none => (w, -1)
      | some i =>
          if w.roomState i = .running then (w, 0) else ((w.startOk i).tryControl true, 0) := by
  refine (run_of_next (startRoom_next H true w name)).trans ?_
  cases w.daemon.search H name with
  | none => rfl
  | some i =>
      by_cases hr : w.roomState i = .running
      · simp [hr, Prog.run]
      · simp [hr, afterControl_run]

lemma stop_run :
    (RoomOp.stop name).run H waiting w =
      match w.daemon.search H name with
      | none => (w, -1)
      | some i =>
          if w.roomState i = .running then
            (((w.afterWait i waiting).markCreated i).tryControl false, 0)
          else (w, 0) := by
  refine (run_of_next (stopRoom_next H true w name)).trans ?_
  cases w.daemon.search H name with
  | none => rfl
  | some i =>
      by_cases hr : w.roomState i = .running
      · simp only [hr, if_true]
        exact afterControl_run _ name false _
      · simp [hr, Prog.run]

lemma delete_run :
    (RoomOp.delete name).run H waiting w =
      match w.daemon.search H name with
      | none => (w, -1)
      | some i =>
          if w.roomState i = .running then ((w.afterWait i waiting).removeRoom H i, 0)
          else (w.removeRoom H i, 0) := by
  refine (run_of_next (deleteRoom_next H true w name)).trans ?_
  cases w.daemon.search H name with
  | none => rfl
  | some i =>
      by_cases hr : w.roomState i = .running
      · simp only [hr, if_true]
        rfl
      · simp [hr, Prog.run]

end equations

/-- Waiting is quiet. -/
lemma quiet_afterWait (i : ℕ) (waiting : List MonitorEvent) (w : World) :
    Quiet w (w.afterWait i waiting) :=
  ((quiet_deactivate w i).trans (monitorSteps_quiet waiting _)).trans (quiet_updThread ..)

/-! ## The bounded map -/

/-- What a table of rooms is for: names, in the order of creation, with states and intervals. -/
abbrev RoomMap := OrderedMap (List UInt8) Entry

/-- The operations of a map of at most `n` rooms, `configured` being the interval of a room that
is created without one; the number is 0 for a success and -1 for a failure. Names are compared on
their first `MAX_ROOM_NAME` bytes. -/
def RoomMap.apply (n : ℕ) (configured : ℤ) (m : RoomMap) : RoomOp → RoomMap × ℤ
  | .create name ci =>
      if m.lookup (cut H name) ≠ none ∨ m.size = n then (m, -1)
      else (m.insert (cut H name) ⟨.created, if ci > 0 then ci else configured⟩, 0)
  | .start name =>
      if m.lookup (cut H name) = none then (m, -1)
      else (m.modify (cut H name) fun e => { e with state := .running }, 0)
  | .stop name =>
      match m.lookup (cut H name) with
      | none => (m, -1)
      | some e =>
          if e.state = .running then
            (m.modify (cut H name) fun e => { e with state := .created }, 0)
          else (m, 0)
  | .delete name =>
      if m.lookup (cut H name) = none then (m, -1) else (m.erase (cut H name), 0)

/-- The map as a machine on the same events; the monitor threads do nothing to it. -/
def boundedMap (n : ℕ) (configured : ℤ) : Machine RoomMap SeqEvent (Option ℤ) where
  step m
    | .call op _ => ((m.apply H n configured op).1, some (m.apply H n configured op).2)
    | .monitor _ => (m, none)

/-- The slots hold the map: the same entries in another order, counted twice over. -/
structure Holds (n : ℕ) (configured : ℤ) (w : World) (m : RoomMap) : Prop where
  sized : w.daemon.Sized n
  interval_eq : w.daemon.config.collectionInterval = configured
  entries_perm : (w.daemon.entries H).Perm m.entries
  roomCount_eq : w.daemon.roomCount = (m.size : ℤ)
  counters_eq : w.daemon.roomCount = (w.stats.roomsCreated : ℤ) - w.stats.roomsDeleted

section refinement

variable {H} {n : ℕ} {configured : ℤ} {w w' : World} {m : RoomMap}

/-- The zeroed table holds the empty map. -/
lemma holds_initial (config : Config) :
    Holds H n config.collectionInterval (World.initial H config n) OrderedMap.empty where
  sized := ⟨List.length_replicate, rfl⟩
  interval_eq := rfl
  entries_perm := by
    simp [World.initial, DaemonState.entries, tableOf, Slots.entries, OrderedMap.empty]
  roomCount_eq := rfl
  counters_eq := rfl

/-- A quiet step does not concern the map. -/
lemma Holds.quiet (h : Holds H n configured w m) (hq : Quiet w w') :
    Holds H n configured w' m where
  sized := hq.sized h.sized
  interval_eq := by rw [hq.config_eq]; exact h.interval_eq
  entries_perm := by rw [hq.entries_eq H]; exact h.entries_perm
  roomCount_eq := by rw [hq.roomCount_eq]; exact h.roomCount_eq
  counters_eq := by rw [hq.roomCount_eq, hq.roomsCreated_eq, hq.roomsDeleted_eq]
                    exact h.counters_eq

/-- Nor does the kernel switch. -/
lemma Holds.tryControl (h : Holds H n configured w m) (enable : Bool) :
    Holds H n configured (w.tryControl enable) m := by
  unfold World.tryControl
  split
  · exact ⟨h.sized, h.interval_eq, h.entries_perm, h.roomCount_eq, h.counters_eq⟩
  · exact h

section find

variable (h : Holds H n configured w m) {name : List UInt8}
include h

/-- The search fails on the names that are not in the map. -/
lemma Holds.search_eq_none_iff :
    w.daemon.search H name = none ↔ m.lookup (cut H name) = none := by
  rw [h.sized.search_eq_none_iff, OrderedMap.lookup_eq_none_iff_of_perm h.entries_perm]

/-- There is no free slot exactly when the map is full. -/
lemma Holds.freeSlot_eq_none_iff : w.daemon.freeSlot = none ↔ m.size = n := by
  rw [h.sized.freeSlot_eq_none_iff, h.entries_perm.length_eq]
  rfl

end find

/-- The entries of an array cut at a slot in use, against those of the map. -/
lemma Holds.perm_split (h : Holds H n configured w m) {l₁ l₂ : List RoomInfo} {r : RoomInfo}
    (hl : w.daemon.rooms = l₁ ++ r :: l₂) (hr : r.used = true) :
    (tableOf H l₁ ++ r.entry H :: tableOf H l₂).Perm m.entries := by
  have hp := h.entries_perm
  rwa [DaemonState.entries, hl, tableOf_split_of_used hr] at hp

/-- The search finds a slot with what the map has under the name. -/
lemma Holds.of_search (h : Holds H n configured w m) {name : List UInt8} {i : ℕ}
    (hs : w.daemon.search H name = some i) :
    ∃ l₁ r l₂, w.daemon.rooms = l₁ ++ r :: l₂ ∧ l₁.length = i ∧ r.used = true ∧
      r.entry H = (cut H name, ⟨r.state, r.collectionInterval⟩) ∧
      m.lookup (cut H name) = some ⟨r.state, r.collectionInterval⟩ := by
  obtain ⟨l₁, r, l₂, hl, hi, hr, hk⟩ := h.sized.of_search hs
  have he : r.entry H = (cut H name, ⟨r.state, r.collectionInterval⟩) := by
    rw [RoomInfo.entry, hk]
  have hp := h.perm_split hl hr
  rw [he] at hp
  exact ⟨l₁, r, l₂, hl, hi, hr, he, OrderedMap.lookup_of_perm_split hp⟩

/-- `create_room` fills a slot: the map gets the new name. -/
lemma Holds.addRoom (h : Holds H n configured w m) {name : List UInt8} {i : ℕ} (ci : ℤ)
    (hs : w.daemon.search H name = none) (hf : w.daemon.freeSlot = some i) :
    Holds H n configured (w.addRoom H name ci i)
      (m.insert (cut H name) ⟨.created, if ci > 0 then ci else configured⟩) := by
  obtain ⟨l₁, r, l₂, hl, rfl, hr⟩ := h.sized.of_freeSlot hf
  have hp := h.entries_perm
  rw [DaemonState.entries, hl, tableOf_split_of_unused hr] at hp
  have hnone := h.search_eq_none_iff.mp hs
  have hp' :=
    OrderedMap.perm_insert (⟨.created, if ci > 0 then ci else configured⟩ : Entry) hp hnone
  have hc : (w.addRoom H name ci l₁.length).daemon.roomCount = w.daemon.roomCount + 1 := rfl
  refine ⟨h.sized.addRoom H _ name ci, h.interval_eq, ?_, ?_, ?_⟩
  · rwa [DaemonState.entries, rooms_addRoom hl name ci, tableOf_split_of_used (used_fill ..),
      entry_fill, h.interval_eq]
  · rw [hc, h.roomCount_eq, OrderedMap.size, OrderedMap.size, OrderedMap.entries_insert hnone,
      List.length_append]
    rfl
  · have hcr : (w.addRoom H name ci l₁.length).stats.roomsCreated = w.stats.roomsCreated + 1 := rfl
    have hde : (w.addRoom H name ci l₁.length).stats.roomsDeleted = w.stats.roomsDeleted := rfl
    rw [hc, hcr, hde, h.counters_eq]
    omega

/-- `delete_room` clears a slot: the map loses the name. -/
lemma Holds.removeRoom (h : Holds H n configured w m) {l₁ l₂ : List RoomInfo} {r : RoomInfo}
    {k : List UInt8} {e : Entry} (hl : w.daemon.rooms = l₁ ++ r :: l₂) (hr : r.used = true)
    (he : r.entry H = (k, e)) :
    Holds H n configured (w.removeRoom H l₁.length) (m.erase k) := by
  have hp := h.perm_split hl hr
  rw [he] at hp
  have hp' := OrderedMap.perm_erase_split hp
  have hlen := hp.length_eq
  have hlen' := hp'.length_eq
  rw [List.length_append, List.length_cons] at hlen
  rw [List.length_append] at hlen'
  have hc : (w.removeRoom H l₁.length).daemon.roomCount = w.daemon.roomCount - 1 := rfl
  refine ⟨h.sized.removeRoom H _, h.interval_eq, ?_, ?_, ?_⟩
  · rwa [DaemonState.entries, rooms_removeRoom hl, tableOf_split_of_unused used_cleared]
  · rw [hc, h.roomCount_eq, OrderedMap.size, OrderedMap.size]
    omega
  · have hcr : (w.removeRoom H l₁.length).stats.roomsCreated = w.stats.roomsCreated := rfl
    have hde : (w.removeRoom H l₁.length).stats.roomsDeleted = w.stats.roomsDeleted + 1 := rfl
    rw [hc, hcr, hde, h.counters_eq]
    omega

/-- `start_room` and `stop_room` change the state of a slot: the map changes the value. -/
lemma Holds.setState (h : Holds H n configured w m) {l₁ l₂ : List RoomInfo} {r r' : RoomInfo}
    {k : List UInt8} {s : RoomState} (hl : w.daemon.rooms = l₁ ++ r :: l₂) (hr : r.used = true)
    (he : r.entry H = (k, ⟨r.state, r.collectionInterval⟩))
    (hl' : w'.daemon.rooms = l₁ ++ r' :: l₂) (hs : s ≠ .inactive)
    (hr' : r'.shape = (r.name, s, r.collectionInterval)) (hw' : w'.daemon.Sized n)
    (hi : w'.daemon.config = w.daemon.config) (hc : w'.daemon.roomCount = w.daemon.roomCount)
    (hst : w'.stats = w.stats) :
    Holds H n configured w' (m.modify k fun e => { e with state := s }) := by
  have hp := h.perm_split hl hr
  rw [he] at hp
  have hp' := OrderedMap.perm_modify_split hp fun e => { e with state := s }
  simp only [RoomInfo.shape, Prod.mk.injEq] at hr'
  obtain ⟨hname, hstate, hival⟩ := hr'
  have hk : r.key H = k := congrArg Prod.fst he
  have hu : r'.used = true := (RoomInfo.used_iff r').mpr (hstate ▸ hs)
  have he' : r'.entry H = (k, ⟨s, r.collectionInterval⟩) := by
    rw [RoomInfo.entry, hstate, hival, RoomInfo.key, hname, ← RoomInfo.key, hk]
  refine ⟨hw', by rw [hi]; exact h.interval_eq, ?_, ?_, by rw [hc, hst]; exact h.counters_eq⟩
  · rwa [DaemonState.entries, hl', tableOf_split_of_used hu, he']
  · rw [hc, h.roomCount_eq, OrderedMap.size, OrderedMap.size, OrderedMap.entries_modify,
      OrderedMap.length_modifyKey]

/-! ## The calls refine the operations -/

/-- `create_room` refines the insertion. -/
lemma Holds.create (h : Holds H n configured w m) (name : List UInt8) (ci : ℤ)
    (waiting : List MonitorEvent) :
    Holds H n configured ((RoomOp.create name ci).run H waiting w).1
        (m.apply H n configured (.create name ci)).1 ∧
      ((RoomOp.create name ci).run H waiting w).2 =
        (m.apply H n configured (.create name ci)).2 := by
  rw [create_run, RoomMap.apply]
  cases hs : w.daemon.search H name with
  | some i =>
      obtain ⟨l₁, r, l₂, -, -, -, -, hlook⟩ := h.of_search hs
      simp only [hlook, ne_eq, reduceCtorEq, not_false_eq_true, true_or, if_true]
      exact ⟨h, trivial⟩
  | none =>
      have hlook := h.search_eq_none_iff.mp hs
      cases hf : w.daemon.freeSlot with
      | none =>
          simp only [h.freeSlot_eq_none_iff.mp hf, or_true, if_true]
          exact ⟨h, trivial⟩
      | some i =>
          have hroom : m.size ≠ n := by
            rw [ne_eq, ← h.freeSlot_eq_none_iff, hf]
            simp
          simp only [hlook, hroom, ne_eq, not_true_eq_false, or_self, if_false]
          exact ⟨h.addRoom ci hs hf, trivial⟩

/-- `start_room` refines the change to `RUNNING`. -/
lemma Holds.start (h : Holds H n configured w m) (name : List UInt8)
    (waiting : List MonitorEvent) :
    Holds H n configured ((RoomOp.start name).run H waiting w).1
        (m.apply H n configured (.start name)).1 ∧
      ((RoomOp.start name).run H waiting w).2 = (m.apply H n configured (.start name)).2 := by
  rw [start_run, RoomMap.apply]
  cases hs : w.daemon.search H name with
  | none =>
      simp only [h.search_eq_none_iff.mp hs, if_true]
      exact ⟨h, trivial⟩
  | some i =>
      obtain ⟨l₁, r, l₂, hl, rfl, hr, he, hlook⟩ := h.of_search hs
      have hrun : RoomState.running ≠ .inactive := by decide
      simp only [hlook, reduceCtorEq, if_false, roomState_split hl]
      by_cases hstate : r.state = .running
      · -- the room runs already: the map writes the state it has
        simp only [hstate, if_true, and_true]
        exact h.setState hl hr he hl hrun (by rw [RoomInfo.shape, hstate]) h.sized rfl rfl rfl
      · simp only [hstate, if_false, and_true]
        exact (h.setState hl hr he (rooms_startOk hl) hrun rfl (h.sized.startOk _) rfl rfl
          rfl).tryControl true

/-- `stop_room` refines the change of a running room to `CREATED`. -/
lemma Holds.stop (h : Holds H n configured w m) (name : List UInt8)
    (waiting : List MonitorEvent) :
    Holds H n configured ((RoomOp.stop name).run H waiting w).1
        (m.apply H n configured (.stop name)).1 ∧
      ((RoomOp.stop name).run H waiting w).2 = (m.apply H n configured (.stop name)).2 := by
  rw [stop_run, RoomMap.apply]
  cases hs : w.daemon.search H name with
  | none =>
      simp only [h.search_eq_none_iff.mp hs]
      exact ⟨h, trivial⟩
  | some i =>
      obtain ⟨l₁, r, l₂, hl, rfl, hr, he, hlook⟩ := h.of_search hs
      simp only [hlook, roomState_split hl]
      by_cases hstate : r.state = .running
      · simp only [hstate, if_true, and_true]
        -- the wait leaves the table as it is
        have hq := quiet_afterWait l₁.length waiting w
        generalize w.afterWait l₁.length waiting = w₁ at hq ⊢
        obtain ⟨l₁', r', l₂', hl', hlen, -, hshape, -⟩ := hq.split hl
        have hr' : r'.used = true := (used_eq_of_shape hshape).trans hr
        have he' : r'.entry H = (cut H name, ⟨r'.state, r'.collectionInterval⟩) := by
          have hk := congrArg Prod.fst ((entry_eq_of_shape H hshape).trans he)
          exact Prod.ext hk rfl
        have hcreated : RoomState.created ≠ .inactive := by decide
        rw [← hlen]
        exact ((h.quiet hq).setState hl' hr' he' (rooms_markCreated hl') hcreated rfl
          ((h.quiet hq).sized.markCreated _) rfl rfl rfl).tryControl false
      · simp only [hstate, if_false, and_true]
        exact h

/-- `delete_room` refines the removal. -/
lemma Holds.delete (h : Holds H n configured w m) (name : List UInt8)
    (waiting : List MonitorEvent) :
    Holds H n configured ((RoomOp.delete name).run H waiting w).1
        (m.apply H n configured (.delete name)).1 ∧
      ((RoomOp.delete name).run H waiting w).2 = (m.apply H n configured (.delete name)).2 := by
  rw [delete_run, RoomMap.apply]
  cases hs : w.daemon.search H name with
  | none =>
      simp only [h.search_eq_none_iff.mp hs, if_true]
      exact ⟨h, trivial⟩
  | some i =>
      obtain ⟨l₁, r, l₂, hl, rfl, hr, he, hlook⟩ := h.of_search hs
      simp only [hlook, reduceCtorEq, if_false, roomState_split hl]
      by_cases hstate : r.state = .running
      · simp only [hstate, if_true, and_true]
        have hq := quiet_afterWait l₁.length waiting w
        generalize w.afterWait l₁.length waiting = w₁ at hq ⊢
        obtain ⟨l₁', r', l₂', hl', hlen, -, hshape, -⟩ := hq.split hl
        have hr' : r'.used = true := (used_eq_of_shape hshape).trans hr
        rw [← hlen]
        exact (h.quiet hq).removeRoom hl' hr' ((entry_eq_of_shape H hshape).trans he)
      · simp only [hstate, if_false, and_true]
        exact h.removeRoom hl hr he

/-- **One event** keeps the slots and the map together and gives the same result. -/
lemma Holds.step (h : Holds H n configured w m) (e : SeqEvent) :
    Holds H n configured ((sequential H).step w e).1 ((boundedMap H n configured).step m e).1 ∧
      ((sequential H).step w e).2 = ((boundedMap H n configured).step m e).2 := by
  cases e with
  | monitor e => exact ⟨h.quiet (monitorStep_quiet e w), rfl⟩
  | call op waiting =>
      have hop : Holds H n configured (op.run H waiting w).1 (m.apply H n configured op).1 ∧
          (op.run H waiting w).2 = (m.apply H n configured op).2 := by
        cases op with
        | create name ci => exact h.create name ci waiting
        | start name => exact h.start name waiting
        | stop name => exact h.stop name waiting
        | delete name => exact h.delete name waiting
      exact ⟨hop.1, congrArg some hop.2⟩

end refinement

/-- **The room functions, called one after another, are a bounded map.** For every number of
slots and every sequence of calls, with the monitor threads storing readings at any time, the
results are those of the map, the slots in use hold its entries, and `room_count` is the number of
entries and the difference of the counters. -/
theorem sequential_refines (config : Config) (n : ℕ) (events : List SeqEvent) :
    let c := (sequential H).run (World.initial H config n) events
    let a := (boundedMap H n config.collectionInterval).run OrderedMap.empty events
    c.2 = a.2 ∧ (c.1.daemon.entries H).Perm a.1.entries ∧
      c.1.daemon.roomCount = (c.1.stats.roomsCreated : ℤ) - c.1.stats.roomsDeleted ∧
      c.1.daemon.roomCount = (a.1.size : ℤ) := by
  obtain ⟨h, hout⟩ := (sequential H).run_simulation (boundedMap H n config.collectionInterval)
    (R := Holds H n config.collectionInterval) (fun _ _ e h => h.step e) (holds_initial config)
    events
  exact ⟨hout, h.entries_perm, h.counters_eq, h.roomCount_eq⟩

end ProcessMonitor.Integration
