import ProcessMonitor.Lib.OrderedMap
import ProcessMonitor.Lib.Slots
import ProcessMonitor.Comm.Commands

/-!
# The room table is a map

`RoomMap` is what the table is for: names, in the order of their creation, with a size and a
status. `RoomMap.apply` says what the four operations do to it and what they answer, and
`Represents` ties it to the array of 50 rooms, its count and the pid fields.

`exec_represents` is the step: on the names that the parser can store, the command functions do to
the array what the operations do to the map. `handleCommand_refines` follows for runs of
well-formed lines of any length, replies included.
-/

namespace ProcessMonitor.Comm

open CString Decimal Scanf

/-! ## The map -/

/-- What the table knows about a room besides its name. -/
structure RoomData where
  size : ℤ
  status : RoomStatus
deriving DecidableEq, Repr

/-- The rooms in the order of their creation. -/
abbrev RoomMap := OrderedMap (List UInt8) RoomData

/-- The answers to an operation. -/
inductive Reply
  | badSize
  | alreadyExists (name : List UInt8)
  | full (name : List UInt8)
  | created (name : List UInt8) (size : ℤ)
  | notFound (name : List UInt8)
  | alreadyRunning (name : List UInt8)
  | started (name : List UInt8)
  | notRunning (name : List UInt8)
  | stopped (name : List UInt8)
  | shown (name : List UInt8) (size : ℤ) (status : RoomStatus) (pid : ℤ)

/-- Whether an answer is an `ERROR`. -/
def Reply.isError : Reply → Bool
  | .badSize | .alreadyExists _ | .full _ | .notFound _ | .alreadyRunning _ | .notRunning _ => true
  | .created _ _ | .started _ | .stopped _ | .shown _ _ _ _ => false

/-- The text of an answer. -/
def Reply.text : Reply → List UInt8
  | .badSize => bytes "ERROR Invalid room size (must be 1-10000)"
  | .alreadyExists n => bytes "ERROR Room '" ++ n ++ bytes "' already exists"
  | .full n => bytes "ERROR Failed to create room '" ++ n ++ bytes "'"
  | .created n s => bytes "OK Room '" ++ n ++ bytes "' created with size " ++ intText s
  | .notFound n => bytes "ERROR Room '" ++ n ++ bytes "' not found"
  | .alreadyRunning n => bytes "ERROR Room '" ++ n ++ bytes "' is already running"
  | .started n => bytes "OK Room '" ++ n ++ bytes "' monitoring started"
  | .notRunning n => bytes "ERROR Room '" ++ n ++ bytes "' is not running"
  | .stopped n => bytes "OK Room '" ++ n ++ bytes "' monitoring stopped"
  | .shown n s st pid =>
      bytes "OK Room: " ++ n ++ bytes ", Size: " ++ intText s ++ bytes ", Status: " ++ st.text ++
        bytes ", PID: " ++ intText pid

/-- The texts tell the errors from the others by their first word. -/
lemma Reply.prefix_text (r : Reply) :
    (if r.isError then bytes "ERROR " else bytes "OK ") <+: r.text := by
  cases r <;> exact ⟨_, rfl⟩

/-- The pid that belongs to a status: the daemon's own while the room is running. -/
def Host.pidOf (host : Host) (status : RoomStatus) : ℤ :=
  if status = .running then host.pid else 0

/-- The operations on the map. -/
def RoomMap.apply (host : Host) (m : RoomMap) : RoomOp → RoomMap × Reply
  | .create n s =>
      if s < 1 ∨ 10000 < s then (m, .badSize)
      else if m.lookup n ≠ none then (m, .alreadyExists n)
      else if m.size = maxRooms then (m, .full n)
      else (m.insert n ⟨s, .created⟩, .created n s)
  | .start n =>
      match m.lookup n with
      | none => (m, .notFound n)
      | some d =>
          if d.status = .running then (m, .alreadyRunning n)
          else (m.modify n fun d => { d with status := .running }, .started n)
  | .stop n =>
      match m.lookup n with
      | none => (m, .notFound n)
      | some d =>
          if d.status = .running then
            (m.modify n fun d => { d with status := .stopped }, .stopped n)
          else (m, .notRunning n)
  | .showRoom n =>
      match m.lookup n with
      | none => (m, .notFound n)
      | some d => (m, .shown n d.size d.status (host.pidOf d.status))

/-! ## The array represents the map -/

/-- The entry of a room. -/
def Room.entry (r : Room) : List UInt8 × RoomData := (cstr r.name, ⟨r.size, r.status⟩)

/-- The array begins with the rooms `l`, all active and as many as counted, with the pids that
belong to their statuses; the rooms `free` behind them are not active. -/
structure Holds (host : Host) (t : Table) (l free : List Room) : Prop where
  rooms_eq : t.rooms = l ++ free
  count_eq : t.roomCount = (l.length : ℤ)
  active : ∀ r ∈ l, r.active = true
  pid_eq : ∀ r ∈ l, r.monitorPid = host.pidOf r.status
  inactive : ∀ r ∈ free, r.active = false

/-- The table holds the entries of the map, in the map's order. -/
def Represents (host : Host) (t : Table) (m : RoomMap) : Prop :=
  ∃ l free, Holds host t l free ∧ l.map Room.entry = m.entries

/-- The entries of the active rooms. -/
def Table.entries (t : Table) : List (List UInt8 × RoomData) :=
  Slots.entries Room.active Room.entry t.rooms

section holds

variable {host : Host} {t : Table} {l free : List Room} (h : Holds host t l free)
include h

/-- The loops visit the active rooms. -/
lemma Holds.visited_eq : t.visited = l := by
  rw [Table.visited, h.count_eq, Int.toNat_natCast, h.rooms_eq, List.take_left]

/-- The entries of the active rooms are those of `l`. -/
lemma Holds.entries_eq : t.entries = l.map Room.entry := by
  have hl : l.filter Room.active = l := List.filter_eq_self.mpr h.active
  have hfree : free.filter Room.active = [] := by
    rw [List.filter_eq_nil_iff]
    exact fun r hr => by simp [h.inactive r hr]
  rw [Table.entries, h.rooms_eq, Slots.entries_append, Slots.entries, Slots.entries, hl, hfree,
    List.map_nil, List.append_nil]

/-- There are at most `MAX_ROOMS` active rooms. -/
lemma Holds.length_le : l.length ≤ maxRooms := by
  have hlen := t.length_rooms
  rw [h.rooms_eq, List.length_append] at hlen
  omega

/-- The search of `find_room`, over the active rooms. -/
lemma Holds.search_eq (n : List UInt8) :
    t.search n = l.findIdx? fun r => decide (cstr r.name = cstr n) := by
  rw [Table.search, h.visited_eq]
  refine Slots.findIdx?_congr fun r hr => ?_
  simp only [h.active r hr, Bool.true_and, strcmp_eq_zero_iff]

/-- `find_room` finds an active room with the name, or there is none. -/
lemma Holds.findRoom_cases (n : List UInt8) :
    (findRoom n t = none ∧ cstr n ∉ (l.map Room.entry).map Prod.fst) ∨
      ∃ l₁ r l₂, findRoom n t = some (l₁.length, r) ∧ l = l₁ ++ r :: l₂ ∧
        cstr r.name = cstr n := by
  rw [findRoom, h.search_eq]
  cases hf : l.findIdx? fun r => decide (cstr r.name = cstr n) with
  | none =>
      refine Or.inl ⟨rfl, fun hmem => ?_⟩
      rw [List.map_map, List.mem_map] at hmem
      obtain ⟨r, hr, hn⟩ := hmem
      have hne := List.findIdx?_eq_none_iff.mp hf r hr
      simp only [decide_eq_false_iff_not] at hne
      exact hne hn
  | some i =>
      obtain ⟨l₁, r, l₂, hl, rfl, hr⟩ := Slots.exists_split_of_findIdx? hf
      refine Or.inr ⟨l₁, r, l₂, ?_, hl, by simpa using hr⟩
      rw [Option.bind_some, h.rooms_eq, hl, List.append_assoc, List.cons_append,
        Slots.getElem?_split]
      rfl

/-- Changing one active room. -/
lemma Holds.updRoom {l₁ l₂ : List Room} {r : Room} (hl : l = l₁ ++ r :: l₂) {f : Room → Room}
    (hactive : (f r).active = true) (hpid : (f r).monitorPid = host.pidOf (f r).status) :
    Holds host (t.updRoom l₁.length f) (l₁ ++ f r :: l₂) free where
  rooms_eq := by
    simp only [Table.updRoom, h.rooms_eq, hl, List.append_assoc, List.cons_append,
      Slots.modify_split]
  count_eq := by
    simp only [Table.updRoom, h.count_eq, hl, List.length_append, List.length_cons]
  active := by
    have ha := h.active
    simp only [hl, List.forall_mem_append, List.forall_mem_cons] at ha ⊢
    exact ⟨ha.1, hactive, ha.2.2⟩
  pid_eq := by
    have hp := h.pid_eq
    simp only [hl, List.forall_mem_append, List.forall_mem_cons] at hp ⊢
    exact ⟨hp.1, hpid, hp.2.2⟩
  inactive := h.inactive

end holds

/-- The name of a new room. -/
lemma cstr_name_fill {n : List UInt8} (hn : NameOk n) (s : ℤ) (r : Room) :
    cstr (r.fill n s).name = n := by
  have hlen : n.length ≤ 63 := hn.token.length_le
  refine (cstr_strncpy_set n (by rw [r.name_length]; decide)).trans ?_
  rw [cstr_eq_self hn.zero_notMem]
  exact List.take_of_length_le hlen

/-- A table that is not full has a slot for another room, which `add_room` fills. -/
lemma Holds.addRoom_slot {host : Host} {t : Table} {l free : List Room}
    (h : Holds host t l free) (n : List UInt8) (s : ℤ) (hroom : l.length < maxRooms) :
    ∃ r free', free = r :: free' ∧ (Comm.addRoom n s t).2 = 0 ∧
      (Comm.addRoom n s t).1.rooms = t.rooms.modify l.length (Room.fill n s) ∧
      (Comm.addRoom n s t).1.roomCount = t.roomCount + 1 := by
  have hlen := t.length_rooms
  rw [h.rooms_eq, List.length_append] at hlen
  obtain ⟨r, free', rfl⟩ := List.exists_cons_of_length_pos (l := free) (by omega)
  have hcount : ¬ t.roomCount ≥ (maxRooms : ℤ) := by
    rw [h.count_eq]
    omega
  refine ⟨r, free', rfl, ?_⟩
  rw [Comm.addRoom, if_neg hcount, h.count_eq, Int.toNat_natCast]
  exact ⟨rfl, rfl, congrArg (· + 1) h.count_eq⟩

/-- Adding a room to a table that is not full. -/
lemma Holds.addRoom {host : Host} {t : Table} {l free : List Room} (h : Holds host t l free)
    {n : List UInt8} (hn : NameOk n) (s : ℤ) (hroom : l.length < maxRooms) :
    (addRoom n s t).2 = 0 ∧ ∃ l' free', Holds host (addRoom n s t).1 l' free' ∧
      l'.map Room.entry = l.map Room.entry ++ [(n, ⟨s, .created⟩)] := by
  obtain ⟨r, free', rfl, hzero, hrooms, hcount⟩ := h.addRoom_slot n s hroom
  refine ⟨hzero, l ++ [r.fill n s], free', ?_, ?_⟩
  · have hin := h.inactive
    rw [List.forall_mem_cons] at hin
    exact
      { rooms_eq := by
          rw [hrooms, h.rooms_eq, Slots.modify_split, List.append_assoc, List.singleton_append]
        count_eq := by
          rw [hcount, h.count_eq, List.length_append, List.length_singleton, Nat.cast_succ]
        active := by
          simp only [List.forall_mem_append, List.forall_mem_singleton]
          exact ⟨h.active, rfl⟩
        pid_eq := by
          simp only [List.forall_mem_append, List.forall_mem_singleton]
          exact ⟨h.pid_eq, rfl⟩
        inactive := hin.2 }
  · rw [List.map_append, List.map_singleton, Room.entry, cstr_name_fill hn]
    rfl

/-! ## One command -/

/-- What a command function leaves and returns is what the operation does and answers. -/
structure Agrees (host : Host) (responseSize : ℕ) (o : Outcome) (a : RoomMap × Reply) : Prop where
  represents : Represents host o.table a.1
  result_eq : o.result = 0
  response_eq : o.response = snprintf responseSize a.2.text

/-- A change of the status of one room is a change of one value of the map. -/
lemma represents_setStatus {host : Host} {t : Table} {m : RoomMap} {n : List UInt8}
    {l₁ l₂ free : List Room} {r : Room} (hh : Holds host t (l₁ ++ r :: l₂) free)
    (hm : m.entries = l₁.map Room.entry ++ (n, ⟨r.size, r.status⟩) :: l₂.map Room.entry)
    {f : Room → Room} {st : RoomStatus} (hf : Room.entry (f r) = (n, ⟨r.size, st⟩))
    (hactive : (f r).active = true) (hpid : (f r).monitorPid = host.pidOf st) :
    Represents host (t.updRoom l₁.length f) (m.modify n fun d => { d with status := st }) := by
  have hst : (f r).status = st := congrArg (fun e => e.2.status) hf
  refine ⟨l₁ ++ f r :: l₂, free, hh.updRoom rfl hactive (hst ▸ hpid), ?_⟩
  have hnd := m.nodup
  rw [hm] at hnd
  rw [OrderedMap.entries_modify, hm, OrderedMap.modifyKey_split _ hnd, List.map_append,
    List.map_cons, hf]

section commands

variable {host : Host} {t : Table} {m : RoomMap} (h : Represents host t m) {n : List UInt8}
  (hn : NameOk n) (responseSize : ℕ)
include h hn

/-- `find_room` and the map's lookup agree: both know the name, or neither does. -/
lemma Represents.find_cases :
    (findRoom n t = none ∧ m.lookup n = none) ∨
      ∃ l₁ r l₂ free, findRoom n t = some (l₁.length, r) ∧ Holds host t (l₁ ++ r :: l₂) free ∧
        cstr r.name = n ∧ m.lookup n = some ⟨r.size, r.status⟩ ∧
        m.entries = l₁.map Room.entry ++ (n, ⟨r.size, r.status⟩) :: l₂.map Room.entry := by
  obtain ⟨l, free, hh, hm⟩ := h
  have hc : cstr n = n := cstr_eq_self hn.zero_notMem
  rcases hh.findRoom_cases n with ⟨hf, hnot⟩ | ⟨l₁, r, l₂, hf, rfl, hr⟩
  · rw [hc, hm] at hnot
    exact Or.inl ⟨hf, (m.lookup_eq_none_iff n).mpr hnot⟩
  · rw [hc] at hr
    rw [List.map_append, List.map_cons, Room.entry, hr] at hm
    refine Or.inr ⟨l₁, r, l₂, free, hf, hh, hr, ?_, hm.symm⟩
    exact OrderedMap.lookup_of_perm_split (List.Perm.of_eq hm)

/-- `cmd_create_room` is the insertion. -/
lemma Represents.create (s : ℤ) :
    Agrees host responseSize (cmdCreateRoom n s responseSize t) (m.apply host (.create n s)) := by
  have hc : cstr n = n := cstr_eq_self hn.zero_notMem
  simp only [cmdCreateRoom, RoomMap.apply]
  by_cases hs : s < 1 ∨ 10000 < s
  · rw [if_pos (show s ≤ 0 ∨ s > 10000 by omega), if_pos hs]
    exact ⟨h, rfl, rfl⟩
  rw [if_neg (show ¬ (s ≤ 0 ∨ s > 10000) by omega), if_neg hs, hc]
  rcases h.find_cases hn with ⟨hf, hlook⟩ | ⟨l₁, r, l₂, free, hf, -, -, hlook, -⟩
  · obtain ⟨l, free, hh, hm⟩ := h
    have hsize : m.size = l.length := by rw [OrderedMap.size, ← hm, List.length_map]
    simp only [hf, hlook, ne_eq, not_true_eq_false, if_false, hsize]
    by_cases hroom : l.length < maxRooms
    · obtain ⟨hzero, l', free', hh', hl'⟩ := hh.addRoom hn s hroom
      rw [if_neg hroom.ne, hzero, if_neg (by decide)]
      refine ⟨⟨l', free', hh', ?_⟩, rfl, rfl⟩
      rw [hl', hm, OrderedMap.entries_insert hlook]
    · have hfull : l.length = maxRooms := le_antisymm hh.length_le (not_lt.mp hroom)
      have hadd : addRoom n s t = (t, -1) := by
        rw [addRoom, if_pos (by rw [hh.count_eq, hfull])]
      rw [if_pos hfull, hadd, if_pos (show (-1 : ℤ) < 0 by decide)]
      exact ⟨⟨l, free, hh, hm⟩, rfl, rfl⟩
  · simp only [hf, hlook, ne_eq, reduceCtorEq, not_false_eq_true, if_true]
    exact ⟨h, rfl, rfl⟩

/-- `cmd_start_room` is the change to `RUNNING`. -/
lemma Represents.start :
    Agrees host responseSize (cmdStartRoom host n responseSize t) (m.apply host (.start n)) := by
  have hc : cstr n = n := cstr_eq_self hn.zero_notMem
  unfold cmdStartRoom RoomMap.apply
  rcases h.find_cases hn with ⟨hf, hlook⟩ | ⟨l₁, r, l₂, free, hf, hh, hr, hlook, hm⟩
  · simp only [hf, hlook, hc]
    exact ⟨h, rfl, rfl⟩
  · simp only [hf, hlook, hc]
    split_ifs
    · exact ⟨h, rfl, rfl⟩
    · have hactive : r.active = true := hh.active r (by simp)
      exact ⟨represents_setStatus hh hm (by simp only [Room.entry, hr]) hactive rfl, rfl, rfl⟩

/-- `cmd_stop_room` is the change of a running room to `STOPPED`. -/
lemma Represents.stop :
    Agrees host responseSize (cmdStopRoom n responseSize t) (m.apply host (.stop n)) := by
  have hc : cstr n = n := cstr_eq_self hn.zero_notMem
  unfold cmdStopRoom RoomMap.apply
  rcases h.find_cases hn with ⟨hf, hlook⟩ | ⟨l₁, r, l₂, free, hf, hh, hr, hlook, hm⟩
  · simp only [hf, hlook, hc]
    exact ⟨h, rfl, rfl⟩
  · simp only [hf, hlook, hc]
    by_cases hst : r.status = .running
    · have hactive : r.active = true := hh.active r (by simp)
      -- a running room has the daemon's pid, which is positive, so that it is set to 0
      have hpid : (if r.monitorPid > 0 then 0 else r.monitorPid) = host.pidOf .stopped := by
        rw [hh.pid_eq r (by simp), hst]
        exact if_pos host.pid_pos
      rw [if_neg (not_not.mpr hst), if_pos hst]
      exact ⟨represents_setStatus hh hm (by simp only [Room.entry, hr]) hactive hpid, rfl, rfl⟩
    · rw [if_pos hst, if_neg hst]
      exact ⟨h, rfl, rfl⟩

/-- `cmd_show_room` is the lookup. -/
lemma Represents.showRoom :
    Agrees host responseSize (cmdShowRoom n responseSize t) (m.apply host (.showRoom n)) := by
  have hc : cstr n = n := cstr_eq_self hn.zero_notMem
  unfold cmdShowRoom RoomMap.apply
  rcases h.find_cases hn with ⟨hf, hlook⟩ | ⟨l₁, r, l₂, free, hf, hh, hr, hlook, hm⟩
  · simp only [hf, hlook, hc]
    exact ⟨h, rfl, rfl⟩
  · simp only [hf, hlook, hr, hh.pid_eq r (by simp)]
    exact ⟨h, rfl, rfl⟩

end commands

/-- **One operation.** On names that the parser can store, the command functions do to the table
what the operations do to the map, and answer the same. -/
theorem exec_represents {host : Host} {t : Table} {m : RoomMap} (h : Represents host t m)
    {op : RoomOp} (hn : NameOk op.name) (responseSize : ℕ) :
    Agrees host responseSize (op.exec host responseSize t) (m.apply host op) := by
  cases op with
  | create n s => exact h.create hn responseSize s
  | start n => exact h.start hn responseSize
  | stop n => exact h.stop hn responseSize
  | showRoom n => exact h.showRoom hn responseSize

/-! ## What the map can hold -/

/-- The names are tokens and the sizes in range. -/
def RoomMap.Ok (m : RoomMap) : Prop :=
  ∀ e ∈ m.entries, NameOk e.1 ∧ 1 ≤ e.2.size ∧ e.2.size ≤ 10000

/-- A change of status concerns neither. -/
lemma RoomMap.Ok.modify {m : RoomMap} (h : m.Ok) (n : List UInt8) (st : RoomStatus) :
    RoomMap.Ok (m.modify n fun d => { d with status := st }) := by
  intro e he
  rw [OrderedMap.entries_modify, OrderedMap.modifyKey, List.mem_map] at he
  obtain ⟨p, hp, rfl⟩ := he
  split <;> exact h p hp

/-- The operations keep the map so. -/
lemma RoomMap.Ok.apply {m : RoomMap} (h : m.Ok) (host : Host) {op : RoomOp}
    (hn : NameOk op.name) : RoomMap.Ok (m.apply host op).1 := by
  cases op with
  | create n s =>
      simp only [RoomMap.apply]
      split_ifs with hs hlook hsize
      · exact h
      · exact h
      · exact h
      · rw [RoomMap.Ok, OrderedMap.entries_insert (not_not.mp hlook)]
        simp only [List.forall_mem_append, List.forall_mem_singleton]
        exact ⟨h, hn, by omega, by omega⟩
  | start n =>
      simp only [RoomMap.apply]
      split
      · exact h
      · split_ifs
        · exact h
        · exact h.modify n .running
  | stop n =>
      simp only [RoomMap.apply]
      split
      · exact h
      · split_ifs
        · exact h.modify n .stopped
        · exact h
  | showRoom n =>
      simp only [RoomMap.apply]
      split <;> exact h

/-- A size in range is an `int`. -/
lemma isInt_of_size {s : ℤ} (h1 : 1 ≤ s) (h2 : s ≤ 10000) : IsInt s := ⟨by omega, by omega⟩

/-- The pid that is shown is an `int`. -/
lemma Host.isInt_pidOf (host : Host) (status : RoomStatus) : IsInt (host.pidOf status) := by
  unfold Host.pidOf
  split
  · exact host.pid_isInt
  · exact ⟨by decide, by decide⟩

/-- The parts of an answer that vary are short. -/
def Reply.Short : Reply → Prop
  | .badSize => True
  | .alreadyExists n | .full n | .notFound n | .alreadyRunning n | .started n | .notRunning n
  | .stopped n => n.length ≤ 63
  | .created n s => n.length ≤ 63 ∧ IsInt s
  | .shown n s _ pid => n.length ≤ 63 ∧ IsInt s ∧ IsInt pid

/-- Such an answer fits into the response buffer. -/
lemma Reply.Short.length_lt {r : Reply} (h : r.Short) : r.text.length < bufferSize := by
  have hstatus (st : RoomStatus) : st.text.length = 7 := by cases st <;> rfl
  unfold bufferSize
  cases r with
  | badSize => decide
  | created n s =>
      have hs := length_intText_le h.2
      have hn := h.1
      simp [Reply.text, bytes]
      omega
  | shown n s st pid =>
      have hs := length_intText_le h.2.1
      have hpid := length_intText_le h.2.2
      have hn := h.1
      simp [Reply.text, bytes, hstatus]
      omega
  | _ n =>
      have hn : n.length ≤ 63 := h
      simp [Reply.text, bytes]
      omega

/-- The answers of the operations are short. -/
lemma short_apply {m : RoomMap} (h : m.Ok) (host : Host) {op : RoomOp} (hn : NameOk op.name) :
    (m.apply host op).2.Short := by
  have hname : op.name.length ≤ 63 := hn.token.length_le
  cases op with
  | create n s =>
      simp only [RoomMap.apply]
      split_ifs with hs
      · trivial
      · exact hname
      · exact hname
      · exact ⟨hname, isInt_of_size (by omega) (by omega)⟩
  | start n =>
      simp only [RoomMap.apply]
      split
      · exact hname
      · split_ifs <;> exact hname
  | stop n =>
      simp only [RoomMap.apply]
      split
      · exact hname
      · split_ifs <;> exact hname
  | showRoom n =>
      simp only [RoomMap.apply]
      split
      · exact hname
      · rename_i d hlook
        obtain ⟨-, h1, h2⟩ := h _ ((m.lookup_eq_some_iff n d).mp hlook)
        exact ⟨hname, isInt_of_size h1 h2, host.isInt_pidOf d.status⟩

/-! ## Runs of well-formed lines -/

/-- A room name in a line: 1 to 63 bytes, no white space, no NUL. -/
structure Name where
  text : List UInt8
  ok : NameOk text

/-- A 32-bit integer in decimal. -/
structure IntText where
  text : List UInt8
  value : ℤ
  numeral : Numeral text value
  isInt : IsInt value

/-- A well-formed command line. -/
inductive Line
  | create (n : Name) (s : IntText)
  | start (n : Name)
  | stop (n : Name)
  | showRoom (n : Name)

/-- The bytes of a line. -/
def Line.text : Line → List UInt8
  | .create n s => bytes "CREATE" ++ 32 :: (n.text ++ 32 :: s.text)
  | .start n => bytes "START" ++ 32 :: n.text
  | .stop n => bytes "STOP" ++ 32 :: n.text
  | .showRoom n => bytes "SHOW" ++ 32 :: n.text

/-- The operation that a line stands for. -/
def Line.op : Line → RoomOp
  | .create n s => .create n.text s.value
  | .start n => .start n.text
  | .stop n => .stop n.text
  | .showRoom n => .showRoom n.text

/-- The daemon on well-formed lines, with the response buffer of `handle_client`. -/
def lineDaemon (host : Host) (scan : ScanInt) : Machine Table Line (ℤ × List UInt8) where
  step t line :=
    let o := handleCommand host scan line.text bufferSize t
    (o.table, (o.result, o.response))

/-- The map under the same lines. -/
def roomMap (host : Host) : Machine RoomMap Line Reply where
  step m line := m.apply host line.op

/-- The operation of a line has the line's name. -/
lemma Line.nameOk (line : Line) : NameOk line.op.name := by
  cases line with
  | create n s => exact n.ok
  | start n | stop n | showRoom n => exact n.ok

/-- The daemon reads from a line the operation it stands for. -/
lemma requestOf_line (scan : ScanInt) (line : Line) :
    requestOf scan line.text = .room line.op := by
  cases line with
  | create n s => exact requestOf_create scan n.ok s.numeral s.isInt s.numeral.zero_notMem
  | start n => exact requestOf_start scan n.ok
  | stop n => exact requestOf_stop scan n.ok
  | showRoom n => exact requestOf_showRoom scan n.ok

/-- The empty table represents the empty map. -/
lemma represents_empty (host : Host) : Represents host Table.empty OrderedMap.empty := by
  refine ⟨[], List.replicate maxRooms Room.zero, ?_, rfl⟩
  exact
    { rooms_eq := rfl
      count_eq := rfl
      active := by simp
      pid_eq := by simp
      inactive := fun r hr => by rw [List.eq_of_mem_replicate hr]; rfl }

/-- **The communication daemon is a map.** For every sequence of well-formed lines from the empty
table, `handle_command` returns 0 and replies with the text of the map's answer, and the active
rooms are the map's entries in the order of their creation. -/
theorem handleCommand_refines (host : Host) (scan : ScanInt) (lines : List Line) :
    let c := (lineDaemon host scan).run Table.empty lines
    let a := (roomMap host).run OrderedMap.empty lines
    c.2 = a.2.map (fun reply => (0, reply.text)) ∧ c.1.entries = a.1.entries := by
  obtain ⟨⟨⟨l, free, hh, hm⟩, -⟩, hout⟩ :=
    (lineDaemon host scan).run_simulation_map (roomMap host) (fun reply => (0, reply.text))
      (R := fun t m => Represents host t m ∧ RoomMap.Ok m)
      (fun t m line ⟨hrep, hok⟩ => by
        have hstep : handleCommand host scan line.text bufferSize t =
            line.op.exec host bufferSize t := by
          rw [handleCommand_eq host scan _ (by decide), requestOf_line]
          rfl
        have h := exec_represents hrep line.nameOk bufferSize
        have hfit := (short_apply hok host line.nameOk).length_lt
        simp only [lineDaemon, roomMap, hstep]
        refine ⟨⟨h.represents, hok.apply host line.nameOk⟩, ?_⟩
        rw [h.result_eq, h.response_eq, snprintf_eq_self hfit])
      ⟨represents_empty host, fun e he => absurd he (by simp [OrderedMap.empty])⟩ lines
  exact ⟨hout, hh.entries_eq.trans hm⟩

end ProcessMonitor.Comm
