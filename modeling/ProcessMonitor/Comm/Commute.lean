import ProcessMonitor.Comm.Invariant

/-!
# Commands on different rooms

What an operation does to the map, and what it answers, depends on the value under its own name
and, for a creation, on whether the map is full (`RoomOp.act`, `apply_eq_act`). So two operations
on different names get in each other's way only over the last free slot (`act_after`).

`lines_commute_iff` carries this to the command lines: two lines for different rooms can be
exchanged, except where both would create a room and one slot is free. The arrays that the two
orders leave differ in the order of their slots; `Table.view` is what they have in common.
-/

namespace ProcessMonitor.Comm

open CString Decimal Scanf

/-! ## One operation, seen from its name -/

/-- What an operation makes of the value under its name, and its answer; `full` says that no slot
is free. -/
def RoomOp.act (host : Host) (old : Option RoomData) (full : Bool) :
    RoomOp → Option RoomData × Reply
  | .create n s =>
      if s < 1 ∨ 10000 < s then (old, .badSize)
      else if old ≠ none then (old, .alreadyExists n)
      else if full then (old, .full n)
      else (some ⟨s, .created⟩, .created n s)
  | .start n =>
      match old with
      | none => (none, .notFound n)
      | some d =>
          if d.status = .running then (some d, .alreadyRunning n)
          else (some { d with status := .running }, .started n)
  | .stop n =>
      match old with
      | none => (none, .notFound n)
      | some d =>
          if d.status = .running then (some { d with status := .stopped }, .stopped n)
          else (some d, .notRunning n)
  | .showRoom n =>
      match old with
      | none => (none, .notFound n)
      | some d => (some d, .shown n d.size d.status (host.pidOf d.status))

/-- The operation is a creation that only a full map can refuse. -/
def RoomOp.NeedsSlot (old : Option RoomData) : RoomOp → Prop
  | .create _ s => 1 ≤ s ∧ s ≤ 10000 ∧ old = none
  | _ => False

/-- Only such a creation asks whether the map is full. -/
lemma RoomOp.act_congr (host : Host) {op : RoomOp} {old : Option RoomData}
    (h : ¬ op.NeedsSlot old) (full full' : Bool) :
    op.act host old full = op.act host old full' := by
  cases op with
  | create n s =>
      by_cases hs : s < 1 ∨ 10000 < s
      · rw [RoomOp.act, RoomOp.act, if_pos hs, if_pos hs]
      · have hold : old ≠ none := by
          intro hold
          exact h ⟨by omega, by omega, hold⟩
        rw [RoomOp.act, RoomOp.act, if_neg hs, if_neg hs, if_pos hold, if_pos hold]
  | start n => rfl
  | stop n => rfl
  | showRoom n => rfl

namespace RoomMap

variable (host : Host) (m : RoomMap)

/-- No slot is free. -/
def isFull : Bool := m.size = maxRooms

/-- A change of the value under one key, seen from the keys. -/
lemma lookup_modify_of_some {n : List UInt8} {d : RoomData} (h : m.lookup n = some d)
    (f : RoomData → RoomData) (k : List UInt8) :
    OrderedMap.lookup (m.modify n f) k = if k = n then some (f d) else m.lookup k := by
  rw [OrderedMap.lookup_modify]
  by_cases hk : k = n
  · rw [if_pos hk, if_pos hk, hk, h, Option.map_some]
  · rw [if_neg hk, if_neg hk]

/-- Writing back what a key has changes nothing. -/
lemma lookup_same {n : List UInt8} {old : Option RoomData} (h : m.lookup n = old)
    (k : List UInt8) : m.lookup k = if k = n then old else m.lookup k := by
  split_ifs with hk
  · rw [hk, h]
  · rfl

/-- **An operation acts on its own name only**, and its answer depends on no other. -/
lemma apply_eq_act (op : RoomOp) :
    (m.apply host op).2 = (op.act host (m.lookup op.name) m.isFull).2 ∧
      ∀ k, (m.apply host op).1.lookup k =
        if k = op.name then (op.act host (m.lookup op.name) m.isFull).1 else m.lookup k := by
  cases op with
  | create n s =>
      simp only [apply, RoomOp.act, RoomOp.name, isFull, decide_eq_true_eq]
      split_ifs with hs hlook hsize
      · exact ⟨rfl, m.lookup_same rfl⟩
      · exact ⟨rfl, m.lookup_same rfl⟩
      · exact ⟨rfl, m.lookup_same rfl⟩
      · exact ⟨rfl, OrderedMap.lookup_insert (not_not.mp hlook) _⟩
  | start n =>
      rw [apply, RoomOp.name]
      cases hlook : m.lookup n with
      | none => exact ⟨rfl, m.lookup_same hlook⟩
      | some d =>
          simp only [RoomOp.act]
          split_ifs
          · exact ⟨rfl, m.lookup_same hlook⟩
          · exact ⟨rfl, m.lookup_modify_of_some hlook _⟩
  | stop n =>
      rw [apply, RoomOp.name]
      cases hlook : m.lookup n with
      | none => exact ⟨rfl, m.lookup_same hlook⟩
      | some d =>
          simp only [RoomOp.act]
          split_ifs
          · exact ⟨rfl, m.lookup_modify_of_some hlook _⟩
          · exact ⟨rfl, m.lookup_same hlook⟩
  | showRoom n =>
      rw [apply, RoomOp.name]
      cases hlook : m.lookup n with
      | none => exact ⟨rfl, m.lookup_same hlook⟩
      | some d => exact ⟨rfl, m.lookup_same hlook⟩

/-- A change of a value keeps the number of entries. -/
lemma size_modify (n : List UInt8) (f : RoomData → RoomData) :
    OrderedMap.size (m.modify n f) = m.size := by
  rw [OrderedMap.size, OrderedMap.entries_modify, OrderedMap.length_modifyKey, OrderedMap.size]

/-- **The number of rooms** grows by a creation that finds a slot, and by nothing else. -/
lemma size_apply (op : RoomOp) :
    ((m.apply host op).1.size = m.size + 1 ∧
        op.NeedsSlot (m.lookup op.name) ∧ m.size ≠ maxRooms) ∨
      ((m.apply host op).1.size = m.size ∧
        ¬ (op.NeedsSlot (m.lookup op.name) ∧ m.size ≠ maxRooms)) := by
  cases op with
  | create n s =>
      simp only [apply, RoomOp.NeedsSlot, RoomOp.name]
      by_cases hs : s < 1 ∨ 10000 < s
      · rw [if_pos hs]
        exact Or.inr ⟨rfl, by omega⟩
      by_cases hlook : m.lookup n = none
      · by_cases hsize : m.size = maxRooms
        · rw [if_neg hs, if_neg (not_not.mpr hlook), if_pos hsize]
          exact Or.inr ⟨rfl, fun h => h.2 hsize⟩
        · rw [if_neg hs, if_neg (not_not.mpr hlook), if_neg hsize]
          refine Or.inl ⟨?_, ⟨by omega, by omega, hlook⟩, hsize⟩
          rw [OrderedMap.size, OrderedMap.entries_insert hlook, List.length_append,
            List.length_singleton, OrderedMap.size]
      · rw [if_neg hs, if_pos hlook]
        exact Or.inr ⟨rfl, fun h => hlook h.1.2.2⟩
  | start n =>
      refine Or.inr ⟨?_, fun h => h.1⟩
      simp only [apply]
      split
      · rfl
      · split_ifs
        · rfl
        · exact m.size_modify _ _
  | stop n =>
      refine Or.inr ⟨?_, fun h => h.1⟩
      simp only [apply]
      split
      · rfl
      · split_ifs
        · exact m.size_modify _ _
        · rfl
  | showRoom n =>
      refine Or.inr ⟨?_, fun h => h.1⟩
      simp only [apply]
      split <;> rfl

/-- **After an operation on another name**, an operation does and answers what it would have,
unless the first has taken the last slot and it needs one. -/
lemma act_after {op₁ op₂ : RoomOp} (hne : op₁.name ≠ op₂.name)
    (h : ¬ (op₁.NeedsSlot (m.lookup op₁.name) ∧ op₂.NeedsSlot (m.lookup op₂.name) ∧
      m.size + 1 = maxRooms)) :
    op₂.act host ((m.apply host op₁).1.lookup op₂.name) (m.apply host op₁).1.isFull =
      op₂.act host (m.lookup op₂.name) m.isFull := by
  rw [(m.apply_eq_act host op₁).2 op₂.name, if_neg hne.symm]
  by_cases hneeds : op₂.NeedsSlot (m.lookup op₂.name)
  · have hfull : (m.apply host op₁).1.isFull = m.isFull := by
      rcases m.size_apply host op₁ with ⟨hsize, h₁, hmax⟩ | ⟨hsize, -⟩
      · have hlast : m.size + 1 ≠ maxRooms := fun hlast => h ⟨h₁, hneeds, hlast⟩
        simp only [isFull, hsize, hlast, hmax]
      · rw [isFull, hsize, isFull]
    rw [hfull]
  · exact RoomOp.act_congr host hneeds _ _

/-- **Two operations on different names**, in either order: the same answers, and the same value
under every name. -/
theorem apply_comm {op₁ op₂ : RoomOp} (hne : op₁.name ≠ op₂.name)
    (h : ¬ (op₁.NeedsSlot (m.lookup op₁.name) ∧ op₂.NeedsSlot (m.lookup op₂.name) ∧
      m.size + 1 = maxRooms)) :
    ((m.apply host op₁).1.apply host op₂).2 = (m.apply host op₂).2 ∧
      ((m.apply host op₂).1.apply host op₁).2 = (m.apply host op₁).2 ∧
      ∀ k, ((m.apply host op₁).1.apply host op₂).1.lookup k =
        ((m.apply host op₂).1.apply host op₁).1.lookup k := by
  have h₂ := m.act_after host hne h
  have h₁ := m.act_after host hne.symm fun ⟨ha, hb, hc⟩ => h ⟨hb, ha, hc⟩
  refine ⟨?_, ?_, ?_⟩
  · rw [((m.apply host op₁).1.apply_eq_act host op₂).1, h₂, (m.apply_eq_act host op₂).1]
  · rw [((m.apply host op₂).1.apply_eq_act host op₁).1, h₁, (m.apply_eq_act host op₁).1]
  · intro k
    rw [((m.apply host op₁).1.apply_eq_act host op₂).2, h₂, (m.apply_eq_act host op₁).2,
      ((m.apply host op₂).1.apply_eq_act host op₁).2, h₁, (m.apply_eq_act host op₂).2]
    split_ifs with hk₂ hk₁
    · exact absurd (hk₁.symm.trans hk₂) hne
    · rfl
    · rfl
    · rfl

/-- Over the last slot the two orders differ: the room that comes second is not there. -/
lemma lookup_apply_last {op₁ op₂ : RoomOp} (hne : op₁.name ≠ op₂.name)
    (h₁ : op₁.NeedsSlot (m.lookup op₁.name)) (h₂ : op₂.NeedsSlot (m.lookup op₂.name))
    (hlast : m.size + 1 = maxRooms) :
    ((m.apply host op₁).1.apply host op₂).1.lookup op₂.name = none := by
  rw [((m.apply host op₁).1.apply_eq_act host op₂).2, if_pos rfl,
    (m.apply_eq_act host op₁).2 op₂.name, if_neg hne.symm]
  have hfull : (m.apply host op₁).1.isFull = true := by
    rcases m.size_apply host op₁ with ⟨hsize, -⟩ | ⟨-, hno⟩
    · rw [isFull, hsize, hlast]
      exact decide_eq_true rfl
    · exact absurd ⟨h₁, by omega⟩ hno
  cases op₂ with
  | create n s =>
      obtain ⟨hmin, hmax, hnone⟩ := h₂
      rw [hfull, hnone, RoomOp.act, if_neg (by omega), if_neg (fun h => h rfl), if_pos rfl]
  | start n => exact h₂.elim
  | stop n => exact h₂.elim
  | showRoom n => exact h₂.elim

/-- A creation that needs a slot and finds one is in the map afterwards. -/
lemma lookup_apply_of_needsSlot {op : RoomOp} (h : op.NeedsSlot (m.lookup op.name))
    (hsize : m.size ≠ maxRooms) : (m.apply host op).1.lookup op.name ≠ none := by
  rw [(m.apply_eq_act host op).2, if_pos rfl]
  cases op with
  | create n s =>
      obtain ⟨hmin, hmax, hnone⟩ := h
      rw [hnone, RoomOp.act, if_neg (by omega), if_neg (fun h => h rfl),
        if_neg (by simpa [isFull] using hsize)]
      simp
  | start n => exact h.elim
  | stop n => exact h.elim
  | showRoom n => exact h.elim

end RoomMap

/-! ## The table, seen from the names -/

/-- Size, status and pid of the active room with a name, in whatever slot it is. -/
def Table.view (t : Table) (name : List UInt8) : Option (ℤ × RoomStatus × ℤ) :=
  (t.rooms.find? fun r => r.active && strcmp r.name name = 0).map fun r =>
    (r.size, r.status, r.monitorPid)

section represents

variable {host : Host} {t : Table} {m : RoomMap} (h : Represents host t m)
include h

/-- The view of the table is the map, with the pid of each status. -/
lemma Represents.view_eq (n : List UInt8) :
    t.view n = (m.lookup (cstr n)).map fun d => (d.size, d.status, host.pidOf d.status) := by
  obtain ⟨l, free, hh, hm⟩ := h
  have hfree : free.find? (fun r => r.active && strcmp r.name n = 0) = none := by
    rw [List.find?_eq_none]
    intro r hr
    simp [hh.inactive r hr]
  have hfind : l.find? (fun r => r.active && strcmp r.name n = 0) =
      l.find? fun r => r.entry.1 = cstr n := by
    refine List.find?_congr ?_
    intro r hr
    rw [hh.active r hr, Bool.true_and]
    exact decide_eq_decide.mpr (strcmp_eq_zero_iff _ _)
  rw [Table.view, hh.rooms_eq, List.find?_append, hfree, Option.or_none, hfind,
    OrderedMap.lookup_of_map hm]
  cases hr : l.find? fun r => r.entry.1 = cstr n with
  | none => rfl
  | some r =>
      have hpid := hh.pid_eq r (List.mem_of_find?_eq_some hr)
      simp only [Option.map_some, Room.entry, hpid]

/-- The table counts the rooms of the map. -/
lemma Represents.roomCount_eq : t.roomCount = (m.size : ℤ) := by
  obtain ⟨l, free, hh, hm⟩ := h
  rw [hh.count_eq, OrderedMap.size, ← hm, List.length_map]

/-- A line that asks for an operation. -/
lemma Represents.step_room {c : Received} {op : RoomOp} (hsize : c.responseSize ≠ 0)
    (hreq : requestOf c.scan c.command = .room op) :
    Represents host ((daemon host).step t c).1 (m.apply host op).1 ∧
      ((daemon host).step t c).2 = (0, snprintf c.responseSize (m.apply host op).2.text) := by
  have hagrees := exec_represents h (nameOk_of_requestOf hreq) c.responseSize
  simp only [daemon]
  rw [handleCommand_eq host c.scan c.command hsize, hreq, Request.exec]
  exact ⟨hagrees.represents, by rw [hagrees.result_eq, hagrees.response_eq]⟩

end represents

/-! ## Two lines -/

/-- The parsed room name of a `CREATE`, `START`, `STOP` or `SHOW` line that has one. -/
def Received.roomName (c : Received) : Option (List UInt8) :=
  let p := parse c.scan.conv c.command
  if 2 ≤ p.parsed ∧ p.cmd ∈ [bytes "CREATE", bytes "START", bytes "STOP", bytes "SHOW"] then
    some p.roomName
  else none

/-- The line, alone, adds a room to the table. -/
def Creates (host : Host) (c : Received) (t : Table) : Prop :=
  ((daemon host).step t c).1.roomCount = t.roomCount + 1

/-- Such a line asks for an operation on its room, or it is refused. -/
lemma request_of_roomName {c : Received} {n : List UInt8} (h : c.roomName = some n) :
    (∃ op, requestOf c.scan c.command = .room op ∧ op.name = n) ∨
      ∃ text, requestOf c.scan c.command = .refused text := by
  simp only [Received.roomName] at h
  rw [requestOf]
  generalize parse c.scan.conv c.command = p at h ⊢
  split_ifs at h with hp
  obtain ⟨hparsed, hcmd⟩ := hp
  obtain rfl : p.roomName = n := Option.some.inj h
  have hzero : p.parsed ≠ 0 := by omega
  simp only [List.mem_cons, List.not_mem_nil, or_false] at hcmd
  unfold Parsed.request
  rw [if_neg hzero]
  rcases hcmd with hcmd | hcmd | hcmd | hcmd <;> rw [hcmd]
  · by_cases hthree : p.parsed < 3
    · exact Or.inr ⟨_, by rw [if_pos (by decide), if_pos hthree]⟩
    · exact Or.inl ⟨_, by rw [if_pos (by decide), if_neg hthree], rfl⟩
  · refine Or.inl ⟨.start p.roomName, ?_, rfl⟩
    rw [if_neg (by decide), if_pos (by decide), if_neg (Nat.not_lt.mpr hparsed)]
  · refine Or.inl ⟨.stop p.roomName, ?_, rfl⟩
    rw [if_neg (by decide), if_neg (by decide), if_pos (by decide),
      if_neg (Nat.not_lt.mpr hparsed)]
  · refine Or.inl ⟨.showRoom p.roomName, ?_, rfl⟩
    rw [if_neg (by decide), if_neg (by decide), if_neg (by decide), if_pos (by decide),
      if_neg (Nat.not_lt.mpr hparsed)]

/-- A line with a room name either leaves every table alone, with the same reply always, or asks
for an operation on its room. -/
lemma idle_or_room (host : Host) {c : Received} {n : List UInt8} (h : c.roomName = some n) :
    (∃ out, ∀ t, (daemon host).step t c = (t, out)) ∨
      ∃ op, c.responseSize ≠ 0 ∧ requestOf c.scan c.command = .room op ∧ op.name = n := by
  by_cases hsize : c.responseSize = 0
  · refine Or.inl ⟨(-1, []), ?_⟩
    intro t
    simp only [daemon]
    rw [handleCommand, if_pos hsize]
  rcases request_of_roomName h with ⟨op, hreq, hn⟩ | ⟨text, hreq⟩
  · exact Or.inr ⟨op, hsize, hreq, hn⟩
  · refine Or.inl ⟨(0, snprintf c.responseSize text), ?_⟩
    intro t
    simp only [daemon]
    rw [handleCommand_eq host c.scan c.command hsize, hreq, Request.exec]

/-- Among operations, exactly a creation that finds a slot adds a room. -/
lemma creates_iff {host : Host} {t : Table} {m : RoomMap} (h : Represents host t m) {c : Received}
    {op : RoomOp} (hsize : c.responseSize ≠ 0) (hreq : requestOf c.scan c.command = .room op) :
    Creates host c t ↔ op.NeedsSlot (m.lookup op.name) ∧ m.size ≠ maxRooms := by
  rw [Creates, (h.step_room hsize hreq).1.roomCount_eq, h.roomCount_eq]
  rcases m.size_apply host op with ⟨hgrows, hyes⟩ | ⟨hsame, hno⟩
  · exact iff_of_true (by omega) hyes
  · exact iff_of_false (by omega) hno

/-- A line that leaves every table alone adds no room. -/
lemma not_creates_of_idle {host : Host} {c : Received} {out : ℤ × List UInt8}
    (hidle : ∀ t, (daemon host).step t c = (t, out)) (t : Table) : ¬ Creates host c t := by
  intro h
  rw [Creates, hidle] at h
  have h : t.roomCount = t.roomCount + 1 := h
  omega

/-- Over the last slot the second room is there only where its line comes first. -/
lemma view_ne_of_last {host : Host} {t₁₂ t₂₁ : Table} {m : RoomMap} {op₁ op₂ : RoomOp}
    (hrep₁₂ : Represents host t₁₂ ((m.apply host op₁).1.apply host op₂).1)
    (hrep₂₁ : Represents host t₂₁ ((m.apply host op₂).1.apply host op₁).1)
    (hname : NameOk op₂.name) (hne : op₁.name ≠ op₂.name)
    (hneeds₁ : op₁.NeedsSlot (m.lookup op₁.name)) (hneeds₂ : op₂.NeedsSlot (m.lookup op₂.name))
    (hmax : m.size ≠ maxRooms) (hlast : m.size + 1 = maxRooms) : t₁₂.view ≠ t₂₁.view := by
  intro hview
  have hview := congrFun hview op₂.name
  rw [hrep₁₂.view_eq, hrep₂₁.view_eq, cstr_eq_self hname.zero_notMem,
    m.lookup_apply_last host hne hneeds₁ hneeds₂ hlast,
    ((m.apply host op₂).1.apply_eq_act host op₁).2, if_neg hne.symm] at hview
  have hthere := m.lookup_apply_of_needsSlot host hneeds₂ hmax
  cases hlook : (m.apply host op₂).1.lookup op₂.name with
  | none => exact hthere hlook
  | some d =>
      rw [hlook] at hview
      cases hview

/-- **Lines for different rooms commute.** After every sequence of lines from the empty table, two
lines with different room names get the same replies in either order, and leave the same sizes,
statuses and pids under the same names, if and only if it is not so that each of them alone would
create a room and one slot is free. -/
theorem lines_commute_iff (host : Host) (received : List Received) (c₁ c₂ : Received)
    (n₁ n₂ : List UInt8) (h₁ : c₁.roomName = some n₁) (h₂ : c₂.roomName = some n₂)
    (hne : n₁ ≠ n₂) :
    let t := ((daemon host).run Table.empty received).1
    let first := (daemon host).run t [c₁, c₂]
    let second := (daemon host).run t [c₂, c₁]
    (first.2 = second.2.reverse ∧ first.1.view = second.1.view) ↔
      ¬ (Creates host c₁ t ∧ Creates host c₂ t ∧ t.roomCount + 1 = maxRooms) := by
  obtain ⟨hrep, -⟩ := represents_run host received
  generalize ((daemon host).run Table.empty received).1 = t at hrep
  generalize received.foldl (RoomMap.receive host) OrderedMap.empty = m at hrep
  simp only [Machine.run_cons, Machine.run_nil, List.reverse_cons, List.reverse_nil,
    List.nil_append, List.singleton_append, List.cons.injEq, and_true]
  rcases idle_or_room host h₁ with ⟨out, hidle⟩ | ⟨op₁, hsize₁, hreq₁, rfl⟩
  · simp only [hidle, and_self, true_iff]
    intro hlast
    exact not_creates_of_idle hidle t hlast.1
  rcases idle_or_room host h₂ with ⟨out, hidle⟩ | ⟨op₂, hsize₂, hreq₂, rfl⟩
  · simp only [hidle, and_self, true_iff]
    intro hlast
    exact not_creates_of_idle hidle t hlast.2.1
  obtain ⟨hrep₁, hout₁⟩ := hrep.step_room hsize₁ hreq₁
  obtain ⟨hrep₂, hout₂⟩ := hrep.step_room hsize₂ hreq₂
  obtain ⟨hrep₁₂, hout₁₂⟩ := hrep₁.step_room hsize₂ hreq₂
  obtain ⟨hrep₂₁, hout₂₁⟩ := hrep₂.step_room hsize₁ hreq₁
  rw [creates_iff hrep hsize₁ hreq₁, creates_iff hrep hsize₂ hreq₂, hrep.roomCount_eq,
    hout₁, hout₂, hout₁₂, hout₂₁]
  constructor
  · rintro ⟨-, hview⟩ ⟨⟨hneeds₁, -⟩, ⟨hneeds₂, hmax⟩, hlast⟩
    have hlast : m.size + 1 = maxRooms := by exact_mod_cast hlast
    exact view_ne_of_last hrep₁₂ hrep₂₁ (nameOk_of_requestOf hreq₂) hne hneeds₁ hneeds₂ hmax hlast
      hview
  · intro h
    have hok : ¬ (op₁.NeedsSlot (m.lookup op₁.name) ∧ op₂.NeedsSlot (m.lookup op₂.name) ∧
        m.size + 1 = maxRooms) := by
      rintro ⟨ha, hb, hlast⟩
      exact h ⟨⟨ha, by omega⟩, ⟨hb, by omega⟩, by exact_mod_cast hlast⟩
    obtain ⟨hreply₂, hreply₁, hlook⟩ := m.apply_comm host hne hok
    refine ⟨⟨by rw [hreply₁], by rw [hreply₂]⟩, ?_⟩
    funext n
    rw [hrep₁₂.view_eq, hrep₂₁.view_eq, hlook]

/-- A creation and a start of different rooms can be exchanged. -/
theorem createStart_commute :
    let t := ((daemon .example).run Table.empty
      [⟨bytes "CREATE disk 5", bufferSize, .strtol⟩]).1
    let create : Received := ⟨bytes "CREATE cpu 10", bufferSize, .strtol⟩
    let start : Received := ⟨bytes "START disk", bufferSize, .strtol⟩
    (((daemon .example).run t [create, start]).2 =
        ((daemon .example).run t [start, create]).2.reverse ∧
      ((daemon .example).run t [create, start]).1.view =
        ((daemon .example).run t [start, create]).1.view) ↔
      ¬ (Creates .example create t ∧ Creates .example start t ∧ t.roomCount + 1 = maxRooms) :=
  lines_commute_iff .example [⟨bytes "CREATE disk 5", bufferSize, .strtol⟩]
    ⟨bytes "CREATE cpu 10", bufferSize, .strtol⟩ ⟨bytes "START disk", bufferSize, .strtol⟩
    (bytes "cpu") (bytes "disk") (by decide) (by decide) (by decide)

end ProcessMonitor.Comm
