import ProcessMonitor.Integration.Concurrent

/-!
# What `room_count` counts

Under any number of clients `room_count` can go wrong, in the stale steps that `Concurrent` is
about. It goes wrong by one in each, and always to the same side: `run_excess` says that the slots
in use are as many more than `room_count` as there have been stale steps. The count does not
recover, so that `CMD_STATUS` tells too few rooms ever after, even a negative number.
-/

namespace ProcessMonitor.Integration

open CString Prog

variable (H : Header)

/-! ## The excess -/

/-- The number of slots in use that `room_count` does not count. -/
def DaemonState.excess (d : DaemonState) : ℤ := (d.rooms.countP RoomInfo.used : ℤ) - d.roomCount

section excess

variable {H} {n : ℕ} {w : World}

/-- The excess after a section that assigns to one slot. -/
lemma excess_split {l₁ l₂ : List RoomInfo} {r r' : RoomInfo} {d d' : DaemonState}
    (hl : d.rooms = l₁ ++ r :: l₂) (hl' : d'.rooms = l₁ ++ r' :: l₂) :
    d'.excess = d.excess + (if r'.used then 1 else 0) - (if r.used then 1 else 0) -
      (d'.roomCount - d.roomCount) := by
  unfold DaemonState.excess
  rw [hl, hl']
  simp only [List.countP_append, List.countP_cons]
  split_ifs <;> push_cast <;> ring

/-- A section that leaves a slot in use and the count as they are. -/
lemma excess_of_used {l₁ l₂ : List RoomInfo} {r r' : RoomInfo} {d d' : DaemonState}
    (hl : d.rooms = l₁ ++ r :: l₂) (hl' : d'.rooms = l₁ ++ r' :: l₂) (hr : r.used = true)
    (hr' : r'.used = true) (hc : d'.roomCount = d.roomCount) : d'.excess = d.excess := by
  rw [excess_split hl hl', hr, hr', hc]
  ring

/-- Clearing a slot uncounts a room too many if the slot is not in use. -/
lemma excess_removeRoom {l₁ l₂ : List RoomInfo} {r : RoomInfo}
    (hl : w.daemon.rooms = l₁ ++ r :: l₂) :
    (w.removeRoom H l₁.length).daemon.excess = w.daemon.excess + if r.used then 0 else 1 := by
  have hc : (w.removeRoom H l₁.length).daemon.roomCount = w.daemon.roomCount - 1 := rfl
  rw [excess_split hl (rooms_removeRoom hl), used_cleared, hc]
  cases r.used <;> simp

/-- Marking a slot as created makes a room that is not counted if the slot is not in use. -/
lemma excess_markCreated {l₁ l₂ : List RoomInfo} {r : RoomInfo}
    (hl : w.daemon.rooms = l₁ ++ r :: l₂) :
    (w.markCreated l₁.length).daemon.excess = w.daemon.excess + if r.used then 0 else 1 := by
  have hc : (w.markCreated l₁.length).daemon.roomCount = w.daemon.roomCount := rfl
  have hcreated : RoomInfo.used { r with state := .created } = true := rfl
  rw [excess_split hl (rooms_markCreated hl), hcreated, hc]
  cases r.used <;> simp

/-- **The first sections** keep the excess. -/
lemma excess_code_next (hw : w.daemon.Sized n) {op : RoomOp} {ok : Bool} {w' : World}
    {p' : Prog World ℤ} (h : (op.code H).next ok w = some (w', p')) :
    w'.daemon.excess = w.daemon.excess := by
  cases firstSection_of_next h with
  | idle => rfl
  | @added name i ci hs hf =>
      obtain ⟨l₁, r, l₂, hl, rfl, hr⟩ := hw.of_freeSlot hf
      have hc : (w.addRoom H name ci l₁.length).daemon.roomCount = w.daemon.roomCount + 1 := rfl
      rw [excess_split hl (rooms_addRoom hl name ci), used_fill, hr, hc]
      simp
  | started hs =>
      obtain ⟨l₁, r, l₂, hl, rfl, hr, -⟩ := hw.of_search hs
      exact excess_of_used hl (rooms_startOk hl) hr rfl rfl
  | startFailed hs =>
      obtain ⟨l₁, r, l₂, hl, rfl, hr, -⟩ := hw.of_search hs
      exact excess_of_used hl (rooms_startFailed hl) hr rfl rfl
  | stopping hs =>
      obtain ⟨l₁, r, l₂, hl, rfl, hr, -⟩ := hw.of_search hs
      exact excess_of_used hl (rooms_deactivate hl) hr hr rfl
  | deleting hs =>
      obtain ⟨l₁, r, l₂, hl, rfl, hr, -⟩ := hw.of_search hs
      exact excess_of_used hl (rooms_deactivate hl) hr hr rfl
  | deleted hs =>
      obtain ⟨l₁, r, l₂, hl, rfl, hr, -⟩ := hw.of_search hs
      rw [excess_removeRoom hl, if_pos hr, add_zero]

/-- What the monitor threads do keeps it too. -/
lemma Quiet.excess_eq {w' : World} (h : Quiet w w') : w'.daemon.excess = w.daemon.excess := by
  have hcount (l : List RoomInfo) :
      l.countP RoomInfo.used = (l.map RoomInfo.shape).countP fun s => s.2.1 ≠ .inactive := by
    rw [List.countP_map]
    rfl
  rw [DaemonState.excess, DaemonState.excess, hcount, hcount, h.shapes_eq, h.roomCount_eq]

end excess

/-! ## All schedules -/

open Classical in
/-- The step is stale. -/
noncomputable def isStale (s : Clients) (l : Sched RoomOp MonitorEvent) : Bool :=
  decide (Stale H s l)

open Classical in
lemma isStale_iff (s : Clients) (l : Sched RoomOp MonitorEvent) :
    isStale H s l = true ↔ Stale H s l := by
  unfold isStale
  exact decide_eq_true_iff

section steps

variable {H} {n : ℕ} {s : Clients} (l : Sched RoomOp MonitorEvent)

/-- A stale step adds one. -/
lemma excess_of_stale (hst : Stale H s l) :
    ((clients H).step s l).1.world.daemon.excess = s.world.daemon.excess + 1 := by
  obtain ⟨t, ok, i, r, rfl, hi, hr, hprog⟩ := hst
  obtain ⟨l₁, l₂, hl, rfl⟩ := Slots.exists_split_of_getElem? hi
  have hu : r.used = false := r.used_eq_false_iff.mpr hr
  rcases hprog with ⟨name, hp⟩ | hp
  · have hnext : (s.prog t).next ok s.world = _ := hp ▸ stopTail_next ok s.world name l₁.length
    have hstep := Pool.world_step_go (RoomOp.code H) monitorStep hnext
    change (Pool.step (RoomOp.code H) monitorStep s (.go t ok)).world.daemon.excess = _
    rw [hstep, excess_markCreated hl, hu]
    rfl
  · have hnext : (s.prog t).next ok s.world = _ := hp ▸ deleteTail_next H ok s.world l₁.length
    have hstep := Pool.world_step_go (RoomOp.code H) monitorStep hnext
    change (Pool.step (RoomOp.code H) monitorStep s (.go t ok)).world.daemon.excess = _
    rw [hstep, excess_removeRoom hl, hu]
    rfl

/-- No other step changes it. -/
lemma excess_of_not_stale (hs : s.Wf H n) (hst : ¬ Stale H s l) :
    ((clients H).step s l).1.world.daemon.excess = s.world.daemon.excess := by
  change (Pool.step (RoomOp.code H) monitorStep s l).world.daemon.excess = _
  rcases Pool.step_cases SameDaemon.refl (RoomOp.code H) monitorStep
    hs.between l with ⟨e, -, hw⟩ | hw | ⟨t, ok, w', p', rfl, hp, hnext, hw⟩
  · rw [hw, (monitorStep_quiet e s.world).excess_eq]
  · exact congrArg DaemonState.excess hw
  · rw [hw]
    -- a slot that a second section still points to is in use, or the step would be stale
    have hsplit {i : ℕ} (hi : i < n) (hprog : (∃ name, s.prog t = stopTail (some name) i) ∨
        s.prog t = deleteTail H i) :
        ∃ l₁ r l₂, s.world.daemon.rooms = l₁ ++ r :: l₂ ∧ l₁.length = i ∧ r.used = true := by
      rw [← hs.sized.length_rooms] at hi
      have hr := List.getElem?_eq_getElem hi
      obtain ⟨l₁, l₂, hl, hlen⟩ := Slots.exists_split_of_getElem? hr
      refine ⟨l₁, _, l₂, hl, hlen, (RoomInfo.used_iff _).mpr fun hin => ?_⟩
      exact hst ⟨t, ok, i, _, rfl, hr, hin, hprog⟩
    generalize hprog : s.prog t = p at hp hnext hsplit
    cases hp with
    | call op => exact excess_code_next hs.sized hnext
    | stopTail name hi =>
        obtain ⟨l₁, r, l₂, hl, rfl, hr⟩ := hsplit hi (Or.inl ⟨name, rfl⟩)
        rw [stopTail_next, Option.some.injEq] at hnext
        cases hnext
        rw [excess_markCreated hl, if_pos hr, add_zero]
    | deleteTail hi =>
        obtain ⟨l₁, r, l₂, hl, rfl, hr⟩ := hsplit hi (Or.inr rfl)
        rw [deleteTail_next, Option.some.injEq] at hnext
        cases hnext
        rw [excess_removeRoom hl, if_pos hr, add_zero]

end steps

/-- **The count and the slots in use**, after any schedule of any number of clients: the slots in
use are more than `room_count` by the number of stale steps so far. -/
theorem run_excess (config : Config) (n : ℕ) (schedule : List (Sched RoomOp MonitorEvent)) :
    let s := ((clients H).run (Clients.initial H config n) schedule).1
    (s.world.daemon.rooms.countP RoomInfo.used : ℤ) = s.world.daemon.roomCount +
      (((clients H).trace (Clients.initial H config n) schedule).countP
        fun x => isStale H x.1 x.2 : ℕ) := by
  intro s
  have hstep (s : Clients) (l : Sched RoomOp MonitorEvent) (hs : s.Wf H n) :
      ((clients H).step s l).1.world.daemon.excess =
        s.world.daemon.excess + if isStale H s l then 1 else 0 := by
    by_cases hst : Stale H s l
    · rw [excess_of_stale l hst, if_pos ((isStale_iff H s l).mpr hst)]
    · rw [excess_of_not_stale l hs hst, if_neg (mt (isStale_iff H s l).mp hst), add_zero]
  have hcount : s.world.daemon.excess = _ :=
    (clients H).run_count (I := Clients.Wf H n) (f := fun s => s.world.daemon.excess)
      (fun _ l hs => wf_step l hs) hstep (wf_initial config) schedule
  have hinitial : (Clients.initial H config n).world.daemon.excess = 0 := by
    rw [DaemonState.excess, (tableOk_initial (H := H) (n := n) config).roomCount_eq, sub_self]
  rw [hinitial, zero_add, DaemonState.excess] at hcount
  omega

end ProcessMonitor.Integration
