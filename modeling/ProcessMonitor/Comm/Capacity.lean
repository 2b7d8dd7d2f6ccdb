import ProcessMonitor.Lib.Machine
import ProcessMonitor.Lib.Slots
import ProcessMonitor.Comm.Rooms

/-!
# The capacity of the room table

`add_room` and `remove_room` of `src/03-communication/daemon/command_handler.c`, called in any order
with any names. `add_room` takes the slot behind the last one ever taken, and tests the number of
these; `remove_room` clears the flag of its room and leaves the number as it is. A slot is never
taken again.

`addRoom_capacity_iff` says when `add_room` succeeds exactly while a slot of the table is free.
-/

namespace ProcessMonitor.Comm

open CString

/-! ## Calls -/

/-- Source: `command_handler.c`, `remove_room` -/
def removeRoom (roomName : List UInt8) (t : Table) : Table × ℤ :=
  match findRoom roomName t with
  | none => (t, -1)
  | some (i, _) => (t.updRoom i fun r => { r with active := false }, 0)

/-- A call that changes the table. -/
inductive TableCall
  | add (name : List UInt8) (size : ℤ)
  | remove (name : List UInt8)

/-- The calls one after another, with what they return. -/
def tableCalls : Machine Table TableCall ℤ where
  step t
    | .add name size => addRoom name size t
    | .remove name => removeRoom name t

/-- The call is one of `add_room`. -/
def TableCall.isAdd : TableCall → Bool
  | .add _ _ => true
  | .remove _ => false

/-- The call finds a room to remove. -/
def Removes (t : Table) : TableCall → Bool
  | .add _ _ => false
  | .remove name => (findRoom name t).isSome

/-- The name of a call of `add_room` is not active. -/
def Fresh (t : Table) : TableCall → Bool
  | .add name _ => (findRoom name t).isNone
  | .remove _ => true

/-- The number of active rooms. -/
def Table.activeCount (t : Table) : ℕ := t.rooms.countP Room.active

/-! ## One call -/

/-- After `added` calls of `add_room` and `removed` removals: the first calls have taken a slot
each, the slots behind them are free, and each removal has freed one. -/
structure Filled (added removed : ℕ) (t : Table) : Prop where
  roomCount_eq : t.roomCount = (min added maxRooms : ℕ)
  activeCount_eq : t.activeCount + removed = min added maxRooms
  inactive : ∀ (i : ℕ) (r : Room), t.rooms[i]? = some r → min added maxRooms ≤ i → r.active = false

/-- `remove_room` returns -1 and leaves the table alone, or clears the flag of an active room. -/
lemma removeRoom_cases (name : List UInt8) (t : Table) :
    (findRoom name t = none ∧ removeRoom name t = (t, -1)) ∨
      ∃ l₁ r l₂, (findRoom name t).isSome = true ∧ t.rooms = l₁ ++ r :: l₂ ∧ r.active = true ∧
        (removeRoom name t).1.rooms = l₁ ++ { r with active := false } :: l₂ ∧
        (removeRoom name t).1.roomCount = t.roomCount ∧ (removeRoom name t).2 = 0 := by
  cases hsearch : t.search name with
  | none =>
      have hfind : findRoom name t = none := by rw [findRoom, hsearch, Option.bind_none]
      exact Or.inl ⟨hfind, by rw [removeRoom, hfind]⟩
  | some i =>
      right
      obtain ⟨l₁, r, l₂, hvisited, hi, hr⟩ := Slots.exists_split_of_findIdx? hsearch
      obtain ⟨l₂', hrooms⟩ : ∃ l₂', t.rooms = l₁ ++ r :: l₂' := by
        refine ⟨l₂ ++ t.rooms.drop t.roomCount.toNat, ?_⟩
        have hsplit := List.take_append_drop t.roomCount.toNat t.rooms
        rw [Table.visited] at hvisited
        rw [hvisited, List.append_assoc, List.cons_append] at hsplit
        exact hsplit.symm
      have hget : t.rooms[i]? = some r := by rw [hrooms, ← hi, Slots.getElem?_split]
      have hfind : findRoom name t = some (i, r) := by
        rw [findRoom, hsearch, Option.bind_some, hget, Option.map_some]
      have hremove : removeRoom name t = (t.updRoom i fun r => { r with active := false }, 0) := by
        rw [removeRoom, hfind]
      rw [Bool.and_eq_true] at hr
      refine ⟨l₁, r, l₂', by rw [hfind]; rfl, hrooms, hr.1, ?_, by rw [hremove]; rfl,
        by rw [hremove]⟩
      rw [hremove]
      simp only [Table.updRoom]
      rw [hrooms, ← hi, Slots.modify_split]

/-- **A removal** frees a slot. -/
lemma Filled.remove {added removed : ℕ} {t : Table} (h : Filled added removed t)
    (name : List UInt8) :
    Filled added (removed + if Removes t (.remove name) then 1 else 0) (removeRoom name t).1 := by
  rcases removeRoom_cases name t with
    ⟨hfind, hremove⟩ | ⟨l₁, r, l₂, hfind, hrooms, hactive, hrooms', hcount', -⟩
  · rw [Removes, hfind, hremove]
    exact h
  · rw [Removes, hfind]
    refine ⟨by rw [hcount']; exact h.roomCount_eq, ?_, ?_⟩
    · have hcount := h.activeCount_eq
      rw [Table.activeCount, hrooms, List.countP_append, List.countP_cons_of_pos hactive] at hcount
      rw [Table.activeCount, hrooms', List.countP_append,
        List.countP_cons_of_neg (by exact Bool.false_ne_true)]
      simp only [if_true]
      omega
    · intro i r' hi hle
      rw [hrooms'] at hi
      by_cases hl : i = l₁.length
      · rw [hl, Slots.getElem?_split, Option.some.injEq] at hi
        rw [← hi]
      · rw [Slots.getElem?_split_ne hl _ r, ← hrooms] at hi
        exact h.inactive i r' hi hle

/-- **An addition** takes the next slot, if one has never been taken. -/
lemma Filled.add {added removed : ℕ} {t : Table} (h : Filled added removed t)
    (name : List UInt8) (size : ℤ) : Filled (added + 1) removed (addRoom name size t).1 := by
  have hcount := h.roomCount_eq
  have hactive := h.activeCount_eq
  rw [addRoom]
  by_cases hfull : t.roomCount ≥ maxRooms
  · have hmin : min (added + 1) maxRooms = min added maxRooms := by omega
    rw [if_pos hfull]
    exact ⟨by rw [hmin]; exact hcount, by rw [hmin]; exact hactive, by rw [hmin]; exact h.inactive⟩
  · rw [if_neg hfull]
    have hlt : added < maxRooms := by omega
    have hslot : t.roomCount.toNat = added := by omega
    have hmin : min (added + 1) maxRooms = added + 1 := by omega
    obtain ⟨r, hget⟩ : ∃ r, t.rooms[added]? = some r := by
      have hlength : added < t.rooms.length := t.length_rooms.symm ▸ hlt
      exact ⟨_, List.getElem?_eq_getElem hlength⟩
    obtain ⟨l₁, l₂, hrooms, hl⟩ := Slots.exists_split_of_getElem? hget
    have hr : r.active = false := by
      refine h.inactive added r ?_ (Nat.min_le_left _ _)
      rw [hrooms, ← hl, Slots.getElem?_split]
    have hrooms' : t.rooms.modify t.roomCount.toNat (Room.fill name size) =
        l₁ ++ Room.fill name size r :: l₂ := by
      rw [hslot, hrooms, ← hl, Slots.modify_split]
    have hnew : (Room.fill name size r).active = true := rfl
    refine ⟨?_, ?_, ?_⟩
    · show t.roomCount + 1 = _
      rw [hmin, hcount]
      push_cast
      omega
    · show (t.rooms.modify t.roomCount.toNat (Room.fill name size)).countP Room.active + removed = _
      rw [Table.activeCount, hrooms, List.countP_append,
        List.countP_cons_of_neg (by rw [hr]; exact Bool.false_ne_true)] at hactive
      rw [hrooms', List.countP_append, List.countP_cons_of_pos hnew, hmin]
      omega
    · intro i r' hi hle
      rw [hmin] at hle
      have hi : (t.rooms.modify t.roomCount.toNat (Room.fill name size))[i]? = some r' := hi
      rw [hrooms', Slots.getElem?_split_ne (by omega) _ r, ← hrooms] at hi
      exact h.inactive i r' hi (by omega)

/-! ## Any number of calls -/

/-- The removals of a run. -/
def removals (t : Table) (calls : List TableCall) : ℕ :=
  (tableCalls.trace t calls).countP fun x => Removes x.1 x.2

/-- **A run** adds its calls of `add_room` and its removals. -/
lemma Filled.run {added removed : ℕ} {t : Table} (h : Filled added removed t)
    (calls : List TableCall) :
    Filled (added + calls.countP TableCall.isAdd) (removed + removals t calls)
      (tableCalls.run t calls).1 := by
  induction calls generalizing t added removed with
  | nil => exact h
  | cons c calls ih =>
      rw [Machine.run_cons, removals, Machine.trace, List.countP_cons, List.countP_cons]
      cases c with
      | add name size =>
          have hrest := ih (h.add name size)
          rw [Nat.add_right_comm] at hrest
          exact hrest
      | remove name =>
          have hrest := ih (h.remove name)
          rw [Nat.add_assoc removed, Nat.add_comm (ite _ 1 0)] at hrest
          exact hrest

/-- The table before the first call. -/
lemma filled_empty : Filled 0 0 Table.empty := by
  refine ⟨rfl, rfl, ?_⟩
  intro i r hr _
  rw [List.eq_of_mem_replicate (List.mem_of_getElem? hr)]
  rfl

/-- `add_room` looks at the number of slots taken. -/
lemma addRoom_eq_zero_iff (name : List UInt8) (size : ℤ) (t : Table) :
    (addRoom name size t).2 = 0 ↔ t.roomCount < maxRooms := by
  rw [addRoom]
  split_ifs with hfull
  · exact iff_of_false (neg_ne_zero.mpr one_ne_zero) (by omega)
  · exact iff_of_true rfl (by omega)

/-- **The capacity of the table.** After any calls from the empty table, `add_room` succeeds exactly
while fewer than `MAX_ROOMS` rooms are active, if and only if fewer than `MAX_ROOMS` of the calls
are of `add_room`, or none of them removes a room. -/
theorem addRoom_capacity_iff (calls : List TableCall) (name : List UInt8) (size : ℤ) :
    let t := (tableCalls.run Table.empty calls).1
    ((addRoom name size t).2 = 0 ↔ t.activeCount < maxRooms) ↔
      calls.countP TableCall.isAdd < maxRooms ∨
        ∀ x ∈ tableCalls.trace Table.empty calls, Removes x.1 x.2 = false := by
  intro t
  have h : Filled (0 + calls.countP TableCall.isAdd) (0 + removals Table.empty calls) t :=
    filled_empty.run calls
  have hcount := h.roomCount_eq
  have hactive := h.activeCount_eq
  have hremovals : (∀ x ∈ tableCalls.trace Table.empty calls, Removes x.1 x.2 = false) ↔
      removals Table.empty calls = 0 := by
    rw [removals, List.countP_eq_zero]
    simp only [Bool.not_eq_true]
  rw [addRoom_eq_zero_iff, hremovals]
  omega

/-- Fifty rooms with different names. -/
def fiftyRooms : List TableCall :=
  (List.range 50).map fun i => .add [UInt8.ofNat (65 + i)] 1

/-- One of fifty rooms is removed, and cannot be added again. -/
theorem removed_place_lost :
    let calls := fiftyRooms ++ [.remove (bytes "A")]
    let t := (tableCalls.run Table.empty calls).1
    (tableCalls.trace Table.empty (calls ++ [.add (bytes "A") 1])).all (fun x => Fresh x.1 x.2) =
        true ∧
      ¬ ((addRoom (bytes "A") 1 t).2 = 0 ↔ t.activeCount < maxRooms) := by
  decide +kernel

end ProcessMonitor.Comm
