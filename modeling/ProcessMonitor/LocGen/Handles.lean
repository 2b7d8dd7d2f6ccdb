import ProcessMonitor.LocGen.RoomManager
import ProcessMonitor.Lib.OrderedMap
import ProcessMonitor.Lib.Tickets

/-!
# Room ids as handles

`create_room` returns an index and `delete_room` moves the later rooms down, so that an index may
name different rooms at different times. `Tracked` is the array with a ticket for each of its
rooms: which room a slot holds is then a matter of the tickets, which no call changes.

`handle_moves_down` says what a returned id is worth later: the room is to be found as many places
further down as rooms before it have been deleted.
-/

namespace ProcessMonitor.LocGen

open OrderedMap CString Decimal

/-! ## Rooms with tickets -/

/-- What a slot holds besides the id. -/
def Room.item (r : Room) : Item := ⟨r.type, r.intervalMs, r.running⟩

/-- The array and the tickets of its rooms, in slot order. -/
structure Tracked where
  table : Table
  tickets : Tickets

namespace Tracked

/-- The zeroed table. -/
def zero : Tracked := ⟨Table.zero, Tickets.empty⟩

variable (s : Tracked)

/-- The rooms in use, by ticket. -/
def rooms : List (ℕ × Item) := s.tickets.held.zip (s.table.rooms.map Room.item)

/-- The tickets after a call: a created room comes at the end, a deleted one leaves. -/
def ticketsAfter (call : Call) : Tickets :=
  match call with
  | .create _ _ => if (call.run s.table).2 = some (-1) then s.tickets else s.tickets.issue
  | .delete roomId =>
      if (call.run s.table).2 = some 0 then s.tickets.retire roomId.toNat else s.tickets
  | _ => s.tickets

/-- The ticket of the room that a call deletes. -/
def removed (call : Call) : Option ℕ :=
  match call with
  | .delete roomId =>
      if (call.run s.table).2 = some 0 then s.tickets.held[roomId.toNat]? else none
  | _ => none

/-- A call: its result, and the ticket of the room it deletes. -/
def step (call : Call) : Tracked × (Option ℤ × Option ℕ) :=
  (⟨(call.run s.table).1, s.ticketsAfter call⟩, ((call.run s.table).2, s.removed call))

/-- What a call does to the rooms, and what it returns. -/
def effect (call : Call) : List (ℕ × Item) × Option ℤ :=
  ((s.step call).1.rooms, (call.run s.table).2)

end Tracked

/-- The room manager with tickets. -/
def tracked : Machine Tracked Call (Option ℤ × Option ℕ) := ⟨Tracked.step⟩

/-- The calls with the id `roomId` act on exactly the room with the ticket `k`, which is `x`. -/
structure ActsOn (s : Tracked) (roomId : ℤ) (k : ℕ) (x : Item) : Prop where
  room : (k, x) ∈ s.rooms
  start : s.effect (.start roomId) =
    (modifyKey k (fun y => { y with running := true }) s.rooms,
      some (if x.running then -1 else 0))
  stop : s.effect (.stop roomId) =
    (modifyKey k (fun y => { y with running := false }) s.rooms,
      some (if x.running then 0 else -1))
  delete : s.effect (.delete roomId) = (eraseKey k s.rooms, some 0)
  showData : ∀ readings : Readings, showRoomData readings roomId s.table =
    bytes "Displaying data for room id " ++ intText roomId ++ bytes "\n" ++ readings.of x.type

/-! ## The list at an index -/

section list

variable (l : RoomList) (i : ℕ)

@[simp] lemma RoomList.get?_natCast : l.get? i = l.items[i]? := by simp [RoomList.get?]

@[simp] lemma RoomList.items_setRunning (b : Bool) :
    (l.setRunning i b).items = l.items.modify i fun y => { y with running := b } := rfl

@[simp] lemma RoomList.items_remove : (l.remove i).items = l.items.eraseIdx i := rfl

/-- Setting `running` to what it is. -/
lemma RoomList.setRunning_self {l : RoomList} {i : ℕ} {x : Item} (hx : l.items[i]? = some x) :
    (l.setRunning i x.running).items = l.items := by
  obtain ⟨l₁, l₂, hitems, rfl⟩ := Slots.exists_split_of_getElem? hx
  rw [RoomList.items_setRunning, hitems, Slots.modify_split]

end list

/-! ## Tickets and items stand side by side -/

/-- The array holds a list with as many items as there are tickets. -/
structure Tracked.Holds (s : Tracked) (l : RoomList) : Prop where
  table : LocGen.Holds s.table l
  length_eq : s.tickets.held.length = l.items.length

section tracked

variable {s : Tracked} {l : RoomList} (h : s.Holds l)
include h

/-- The rooms are the items of the list. -/
lemma Tracked.Holds.rooms_eq : s.rooms = s.tickets.held.zip l.items := by
  have hitems : (s.table.rooms.map Room.item).take l.items.length = l.items := by
    rw [← List.map_take, h.table.rooms_eq]
    refine List.ext_getElem? fun i => ?_
    rw [List.getElem?_map, List.getElem?_mapIdx, Option.map_map]
    exact congrFun Option.map_id _
  have hlen : l.items.length ≤ (s.table.rooms.map Room.item).length := by
    rw [List.length_map, s.table.length_rooms]
    exact l.length_le
  rw [Tracked.rooms, List.zip_eq_zip_take_min, h.length_eq, Nat.min_eq_left hlen, hitems,
    List.take_of_length_le h.length_eq.le]

/-- One call keeps the items and the tickets side by side. -/
lemma Tracked.Holds.step (call : Call) : (s.step call).1.Holds (l.apply call).1 := by
  obtain ⟨htable, hresult⟩ := h.table.step call
  refine ⟨htable, ?_⟩
  have hlen := h.length_eq
  simp only [Tracked.step, Tracked.ticketsAfter, hresult]
  cases call with
  | create typeStr interval =>
      cases htype : strToRoomType typeStr with
      | none => simp [RoomList.apply, htype, hlen]
      | some type =>
          by_cases hroom : l.items.length < maxRooms
          · have hne : (l.items.length : ℤ) ≠ -1 := by omega
            simp [RoomList.apply, htype, hroom, hne, Tickets.issue, hlen]
          · simp [RoomList.apply, htype, hroom, hlen]
  | delete roomId =>
      cases hget : l.get? roomId with
      | none => simp [RoomList.apply, hget, hlen]
      | some x =>
          simp [RoomList.apply, hget, Tickets.retire, RoomList.remove, List.length_eraseIdx, hlen]
  | start roomId =>
      simp only [RoomList.apply]
      split
      · exact hlen
      · split
        · exact hlen
        · rw [RoomList.setRunning, List.length_modify]
          exact hlen
  | stop roomId =>
      simp only [RoomList.apply]
      split
      · exact hlen
      · split
        · rw [RoomList.setRunning, List.length_modify]
          exact hlen
        · exact hlen
  | showData roomId => exact hlen

/-- What a call does to the rooms, in terms of the list. -/
lemma Tracked.Holds.effect_eq (call : Call) :
    s.effect call = ((s.ticketsAfter call).held.zip (l.apply call).1.items, (l.apply call).2) := by
  rw [Tracked.effect, (h.step call).rooms_eq, (h.table.step call).2]
  rfl

/-- An id with an item: the tickets, the items and the rooms cut at the slot. -/
lemma Tracked.Holds.exists_split {i k : ℕ} (hk : s.tickets.held[i]? = some k) :
    ∃ (k₁ k₂ : List ℕ) (x : Item) (l₁ l₂ : List Item),
      s.tickets.held = k₁ ++ k :: k₂ ∧ l.items = l₁ ++ x :: l₂ ∧ k₁.length = i ∧
        l₁.length = i ∧ s.rooms = k₁.zip l₁ ++ (k, x) :: k₂.zip l₂ := by
  obtain ⟨k₁, k₂, hheld, rfl⟩ := Slots.exists_split_of_getElem? hk
  have hi : k₁.length < l.items.length := by
    rw [← h.length_eq, hheld]
    simp
  obtain ⟨x, hx⟩ : ∃ x, l.items[k₁.length]? = some x := ⟨_, List.getElem?_eq_getElem hi⟩
  obtain ⟨l₁, l₂, hitems, hlen⟩ := Slots.exists_split_of_getElem? hx
  refine ⟨k₁, k₂, x, l₁, l₂, hheld, hitems, rfl, hlen, ?_⟩
  rw [h.rooms_eq, hheld, hitems, List.zip_append hlen.symm, List.zip_cons_cons]

/-- No two rooms have the same ticket. -/
lemma Tracked.Holds.nodup_rooms : (s.rooms.map Prod.fst).Nodup := by
  rw [h.rooms_eq, List.map_fst_zip h.length_eq.le]
  exact s.tickets.nodup_held

/-- Setting `running` of the item with the ticket `k`. -/
lemma Tracked.Holds.zip_setRunning {i k : ℕ} (hk : s.tickets.held[i]? = some k) (b : Bool) :
    s.tickets.held.zip (l.setRunning i b).items =
      modifyKey k (fun y => { y with running := b }) s.rooms := by
  obtain ⟨k₁, k₂, x, l₁, l₂, hheld, hitems, hk₁, hl₁, hrooms⟩ := h.exists_split hk
  have hnd := h.nodup_rooms
  rw [hrooms] at hnd
  rw [hrooms, modifyKey_split _ hnd, RoomList.items_setRunning, hheld, hitems, ← hl₁,
    Slots.modify_split, List.zip_append (hk₁.trans hl₁.symm), List.zip_cons_cons]

/-- Removing the item with the ticket `k`. -/
lemma Tracked.Holds.zip_remove {i k : ℕ} (hk : s.tickets.held[i]? = some k) :
    (s.tickets.retire i).held.zip (l.remove i).items = eraseKey k s.rooms := by
  obtain ⟨k₁, k₂, x, l₁, l₂, hheld, hitems, rfl, hl₁, hrooms⟩ := h.exists_split hk
  have hnd := h.nodup_rooms
  rw [hrooms] at hnd
  rw [hrooms, eraseKey_split hnd, Tickets.held_retire_split hheld, RoomList.items_remove, hitems,
    List.eraseIdx_append_of_length_le hl₁.le, hl₁, Nat.sub_self, List.eraseIdx_cons_zero,
    List.zip_append hl₁.symm]

/-- The item of a ticket. -/
lemma Tracked.Holds.exists_item {i k : ℕ} (hk : s.tickets.held[i]? = some k) :
    ∃ x, (k, x) ∈ s.rooms ∧ l.items[i]? = some x := by
  obtain ⟨k₁, k₂, x, l₁, l₂, -, hitems, -, rfl, hrooms⟩ := h.exists_split hk
  exact ⟨x, by simp [hrooms], by rw [hitems, Slots.getElem?_split]⟩

/-- The calls with an index act on the room whose ticket is there. -/
lemma Tracked.Holds.actsOn {i k : ℕ} (hk : s.tickets.held[i]? = some k) :
    ∃ x, ActsOn s i k x := by
  obtain ⟨x, hx, hitem⟩ := h.exists_item hk
  have hget : l.get? i = some x := by rw [RoomList.get?_natCast, hitem]
  have hsame := RoomList.setRunning_self hitem
  refine ⟨x, hx, ?_, ?_, ?_, ?_⟩
  · rw [h.effect_eq, ← h.zip_setRunning hk true]
    cases hrun : x.running with
    | true =>
        rw [hrun] at hsame
        rw [hsame]
        simp [RoomList.apply, hget, hrun, Tracked.ticketsAfter]
    | false => simp [RoomList.apply, hget, hrun, Tracked.ticketsAfter]
  · rw [h.effect_eq, ← h.zip_setRunning hk false]
    cases hrun : x.running with
    | true => simp [RoomList.apply, hget, hrun, Tracked.ticketsAfter]
    | false =>
        rw [hrun] at hsame
        rw [hsame]
        simp [RoomList.apply, hget, hrun, Tracked.ticketsAfter]
  · have hresult := (h.table.step (.delete i)).2
    rw [h.effect_eq, ← h.zip_remove hk]
    simp [RoomList.apply, hget, Tracked.ticketsAfter, hresult]
  · intro readings
    rcases h.table.id_cases i with ⟨-, hnone⟩ | ⟨j, y, hj, hok, hy, -, hroom⟩
    · rw [hget] at hnone
      cases hnone
    · rw [hget] at hy
      cases hy
      rw [Int.natCast_inj] at hj
      subst hj
      simp [showRoomData, hok, hroom, Item.room]

/-- The calls with an id act on the room with the ticket `k` only if the id is the index where
that ticket is. -/
lemma Tracked.Holds.actsOn_iff (roomId : ℤ) (k : ℕ) :
    (∃ x, ActsOn s roomId k x) ↔ ∃ i : ℕ, roomId = i ∧ s.tickets.held[i]? = some k := by
  constructor
  · rintro ⟨x, hacts⟩
    have hdelete := hacts.delete
    rcases h.table.id_cases roomId with ⟨-, hnone⟩ | ⟨i, y, rfl, -, -, hy, -⟩
    · rw [h.effect_eq] at hdelete
      simp [RoomList.apply, hnone] at hdelete
    · have hi : i < s.tickets.held.length := by
        rw [h.length_eq]
        exact (List.getElem?_eq_some_iff.mp hy).1
      obtain ⟨j, hj⟩ : ∃ j, s.tickets.held[i]? = some j := ⟨_, List.getElem?_eq_getElem hi⟩
      refine ⟨i, rfl, ?_⟩
      by_cases hjk : j = k
      · rw [← hjk]
        exact hj
      · -- the room with the ticket `k` would still be there after the call
        obtain ⟨z, hz⟩ := h.actsOn hj
        have herase : eraseKey k s.rooms = eraseKey j s.rooms :=
          (congrArg Prod.fst hdelete).symm.trans (congrArg Prod.fst hz.delete)
        have hmem : (k, x) ∈ eraseKey j s.rooms := by
          simp [eraseKey, hacts.room, Ne.symm hjk]
        rw [← herase] at hmem
        simp [eraseKey] at hmem
  · rintro ⟨i, rfl, hk⟩
    exact h.actsOn hk

/-- What one call does to the place of a room that it does not delete: the room moves down by one
if the call deletes an earlier one. -/
lemma Tracked.Holds.rank_step (call : Call) {k : ℕ} (hk : k ∈ s.tickets.held)
    (hkeep : s.removed call ≠ some k) :
    k ∈ (s.step call).1.tickets.held ∧
      (s.step call).1.tickets.rank k + (s.removed call).toList.countP (· < k) =
        s.tickets.rank k := by
  change k ∈ (s.ticketsAfter call).held ∧ (s.ticketsAfter call).rank k + _ = _
  cases call with
  | create typeStr interval =>
      have hlt := s.tickets.lt_next k hk
      simp only [Tracked.ticketsAfter, Tracked.removed]
      split
      · exact ⟨hk, rfl⟩
      · exact ⟨(Tickets.mem_held_issue hlt).mpr hk, Tickets.rank_issue hlt⟩
  | delete roomId =>
      have hresult := (h.table.step (.delete roomId)).2
      simp only [Tracked.ticketsAfter, Tracked.removed] at hkeep ⊢
      rcases h.table.id_cases roomId with ⟨-, hnone⟩ | ⟨i, x, rfl, -, hget, hx, -⟩
      · rw [RoomList.apply, hnone] at hresult
        rw [hresult]
        exact ⟨hk, rfl⟩
      · have hi : i < s.tickets.held.length := by
          rw [h.length_eq]
          exact (List.getElem?_eq_some_iff.mp hx).1
        obtain ⟨j, hj⟩ : ∃ j, s.tickets.held[i]? = some j := ⟨_, List.getElem?_eq_getElem hi⟩
        rw [RoomList.apply, hget] at hresult
        simp only [hresult, if_true, Int.toNat_natCast, hj] at hkeep ⊢
        have hne : k ≠ j := fun e => hkeep (congrArg some e.symm)
        refine ⟨(Tickets.mem_held_retire hj k).mpr ⟨hk, hne⟩, ?_⟩
        rw [← Tickets.rank_retire hj k, Option.toList_some, List.countP_singleton]
        simp only [decide_eq_true_eq]
  | start roomId => exact ⟨hk, rfl⟩
  | stop roomId => exact ⟨hk, rfl⟩
  | showData roomId => exact ⟨hk, rfl⟩

end tracked

/-- The tickets of the rooms that a run deletes. -/
def deleted (outputs : List (Option ℤ × Option ℕ)) : List ℕ := outputs.filterMap Prod.snd

@[simp] lemma deleted_cons (o : Option ℤ × Option ℕ) (os : List (Option ℤ × Option ℕ)) :
    deleted (o :: os) = o.2.toList ++ deleted os := by
  unfold deleted
  rw [List.filterMap_cons]
  cases o.2 <;> rfl

/-- The same over a run. -/
lemma Tracked.Holds.rank_run {s : Tracked} {l : RoomList} (h : s.Holds l) (calls : List Call)
    {k : ℕ} (hk : k ∈ s.tickets.held) (hkeep : k ∉ deleted (tracked.run s calls).2) :
    k ∈ (tracked.run s calls).1.tickets.held ∧
      (tracked.run s calls).1.tickets.rank k +
        (deleted (tracked.run s calls).2).countP (· < k) = s.tickets.rank k := by
  induction calls generalizing s l with
  | nil => exact ⟨hk, rfl⟩
  | cons call calls ih =>
      rw [Machine.run_cons, deleted_cons, List.mem_append, not_or] at hkeep
      have hfirst : s.removed call ≠ some k := by
        intro e
        refine hkeep.1 ?_
        change k ∈ (s.removed call).toList
        simp [e]
      obtain ⟨hk', hrank⟩ := h.rank_step call hk hfirst
      obtain ⟨hmem, hrun⟩ := ih (h.step call) hk' hkeep.2
      refine ⟨hmem, ?_⟩
      rw [← hrank, ← hrun, Machine.run_cons, deleted_cons, List.countP_append]
      change _ + (List.countP _ (s.removed call).toList + _) = _
      rw [Nat.add_assoc, Nat.add_comm (List.countP _ (s.removed call).toList)]
      rfl

/-- A run keeps the items and the tickets side by side. -/
lemma Tracked.Holds.run {s : Tracked} {l : RoomList} (h : s.Holds l) (calls : List Call) :
    ∃ l', (tracked.run s calls).1.Holds l' := by
  have hall := tracked.states_invariant (I := fun s => ∃ l, s.Holds l)
    (fun s call ⟨l, h⟩ => ⟨_, h.step call⟩) ⟨l, h⟩ calls
  rcases List.mem_cons.mp (tracked.run_mem_states s calls) with heq | hmem
  · rw [heq]
    exact ⟨l, h⟩
  · exact hall _ hmem

/-- The zeroed table with no tickets. -/
lemma holds_tracked_zero : Tracked.zero.Holds RoomList.empty := ⟨holds_zero, rfl⟩

/-- A successful `create_room` returns the number of rooms and gives out the next ticket. -/
lemma Tracked.Holds.created {s : Tracked} {l : RoomList} (h : s.Holds l) {typeStr : List UInt8}
    {interval id : ℤ} (hid : (Call.run s.table (.create typeStr interval)).2 = some id)
    (hne : id ≠ -1) :
    id = s.tickets.held.length ∧ s.ticketsAfter (.create typeStr interval) = s.tickets.issue := by
  constructor
  · rw [(h.table.step (.create typeStr interval)).2] at hid
    simp only [RoomList.apply] at hid
    split at hid
    · exact absurd (Option.some.inj hid).symm hne
    · split at hid
      · rw [h.length_eq]
        exact (Option.some.inj hid).symm
      · exact absurd (Option.some.inj hid).symm hne
  · have hok : (Call.run s.table (.create typeStr interval)).2 ≠ some (-1) := by
      rw [hid]
      exact fun e => hne (Option.some.inj e)
    rw [Tracked.ticketsAfter, if_neg hok]

/-- **A returned id moves down.** Let a run of calls from the zeroed table end in a `create_room`
that returns the id `h`, and let later calls not delete that room. Then the room is acted on under
the id `h - d`, where `d` of the rooms deleted since are older than it, and under `h` itself only
if `d` is 0. -/
theorem handle_moves_down (before after : List Call) (typeStr : List UInt8) (interval h : ℤ) :
    let s := (tracked.run Tracked.zero before).1
    let created := tracked.step s (.create typeStr interval)
    let later := tracked.run created.1 after
    let k := s.tickets.next
    let d := (deleted later.2).countP (· < k)
    created.2.1 = some h → h ≠ -1 → k ∉ deleted later.2 →
      (∃ x, ActsOn later.1 (h - d) k x) ∧ ((∃ x, ActsOn later.1 h k x) ↔ d = 0) := by
  intro s created later k d hid hne hkeep
  obtain ⟨l, hs⟩ := holds_tracked_zero.run before
  obtain ⟨hlen, htickets⟩ := hs.created hid hne
  have hcreated := hs.step (.create typeStr interval)
  have hheld : created.1.tickets = s.tickets.issue := htickets
  have hk : k ∈ created.1.tickets.held := by
    rw [hheld]
    simp [Tickets.issue, k]
  obtain ⟨hmem, hrank⟩ := hcreated.rank_run after hk hkeep
  obtain ⟨l', hlater⟩ := hcreated.run after
  have hplace : (later.1.tickets.rank k : ℤ) + d = h := by
    have hcast := congrArg (Nat.cast (R := ℤ)) hrank
    rw [Nat.cast_add] at hcast
    refine hcast.trans ?_
    change ((created.1.tickets.rank s.tickets.next : ℕ) : ℤ) = h
    rw [hheld, Tickets.rank_issue_next, hlen]
  have hiff (roomId : ℤ) : (∃ x, ActsOn later.1 roomId k x) ↔
      roomId = later.1.tickets.rank k := by
    refine (hlater.actsOn_iff roomId k).trans ?_
    constructor
    · rintro ⟨i, rfl, hi⟩
      exact congrArg Nat.cast ((later.1.tickets.getElem?_held_iff i k).mp hi).2
    · intro e
      exact ⟨_, e, (later.1.tickets.getElem?_held_iff _ k).mpr ⟨hmem, rfl⟩⟩
  rw [hiff, hiff]
  omega

/-- The hypotheses can be met: of three rooms the second is asked for after the first is gone. -/
theorem handle_moves_down_example :
    let later := tracked.run
      (tracked.step (tracked.run Tracked.zero [.create (bytes "cpu-room") 1000]).1
        (.create (bytes "memory-room") 2000)).1
      [.create (bytes "inf-stats-room") 3000, .delete 0]
    (∃ x, ActsOn later.1 0 1 x) ∧ ((∃ x, ActsOn later.1 1 1 x) ↔ 1 = 0) :=
  handle_moves_down [.create (bytes "cpu-room") 1000]
    [.create (bytes "inf-stats-room") 3000, .delete 0] (bytes "memory-room") 2000 1
    (by decide) (by decide) (by decide)

/-- An id does not stay with its room: two rooms are created, the first is deleted, and the id
returned for the second is refused. -/
theorem handle_goes_stale :
    let created := tracked.run Tracked.zero
      [.create (bytes "cpu-room") 1000, .create (bytes "memory-room") 2000]
    let later := tracked.run created.1 [.delete 0]
    created.2.map Prod.fst = [some 0, some 1] ∧ deleted later.2 = [0] ∧
      ¬ ∃ x, ActsOn later.1 1 1 x := by
  refine ⟨by decide, by decide, ?_⟩
  rintro ⟨x, hacts⟩
  have hresult := congrArg Prod.snd hacts.delete
  exact absurd hresult (by decide)

end ProcessMonitor.LocGen
