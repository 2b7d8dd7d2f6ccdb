import ProcessMonitor.Integration.Sequential

/-!
# The kernel module's switch and the running rooms

The module has one switch for all rooms. `start_room` turns it on and `stop_room` turns it off,
whatever the other rooms do, and `delete_room` does not touch it. `states_switchAgrees_iff` says
for which runs of calls the switch is on exactly while some room is running: those that stop a
running room only as the last one, and delete a running room only when another one is left.
-/

namespace ProcessMonitor.Integration

open CString Kernel

variable (H : Header)

/-! ## The agreement -/

/-- Some slot of the array is in the state `RUNNING`. -/
def SomeRunning (rooms : List RoomInfo) : Prop := ∃ r ∈ rooms, r.state = .running

instance (rooms : List RoomInfo) : Decidable (SomeRunning rooms) :=
  inferInstanceAs (Decidable (∃ r ∈ rooms, r.state = .running))

/-- The switch is on if and only if some room is running. -/
def SwitchAgrees (w : World) : Prop :=
  w.kernel.monitorEnabled = 1 ↔ SomeRunning w.daemon.rooms

/-- A room other than that of the slot `i` is running. -/
def World.OtherRunning (w : World) (i : ℕ) : Prop :=
  ∃ j r, j ≠ i ∧ w.daemon.rooms[j]? = some r ∧ r.state = .running

/-- The calls after which the switch still agrees: a running room is stopped only while no other
room is running, and deleted only while another room is. -/
def KeepsSwitch (w : World) : SeqEvent → Prop
  | .call (.stop name) _ => ∀ i, w.daemon.search H name = some i → w.roomState i = .running →
      ¬ w.OtherRunning i
  | .call (.delete name) _ => ∀ i, w.daemon.search H name = some i → w.roomState i = .running →
      w.OtherRunning i
  | _ => True

/-! ## Running rooms -/

/-- Arrays of one shape have running slots alike. -/
lemma someRunning_congr {l l' : List RoomInfo}
    (h : l'.map RoomInfo.shape = l.map RoomInfo.shape) : SomeRunning l' ↔ SomeRunning l := by
  have hmem (l : List RoomInfo) :
      SomeRunning l ↔ RoomState.running ∈ (l.map RoomInfo.shape).map fun s => s.2.1 := by
    simp [SomeRunning, RoomInfo.shape]
  rw [hmem, hmem, h]

/-- The running slots of an array cut at a slot. -/
lemma someRunning_split (l₁ l₂ : List RoomInfo) (r : RoomInfo) :
    SomeRunning (l₁ ++ r :: l₂) ↔ r.state = .running ∨ SomeRunning l₁ ∨ SomeRunning l₂ := by
  simp only [SomeRunning, List.mem_append, List.mem_cons, or_and_right, exists_or,
    exists_eq_left]
  exact or_left_comm

section world

variable {w w' : World}

/-- The other running rooms of an array cut at a slot. -/
lemma otherRunning_split {l₁ l₂ : List RoomInfo} {r : RoomInfo}
    (hl : w.daemon.rooms = l₁ ++ r :: l₂) :
    w.OtherRunning l₁.length ↔ SomeRunning l₁ ∨ SomeRunning l₂ := by
  rw [World.OtherRunning, hl, Slots.exists_other_split]
  rfl

/-- What is quiet keeps the agreement. -/
lemma Quiet.switchAgrees_iff (h : Quiet w w') : SwitchAgrees w' ↔ SwitchAgrees w := by
  rw [SwitchAgrees, SwitchAgrees, h.kernel_eq, someRunning_congr h.shapes_eq]

/-- The write that turns the switch on. -/
lemma tryControl_true (h : w.procfsWritable = true) :
    (w.tryControl true).kernel.monitorEnabled = 1 := by
  rw [World.tryControl, if_pos h]
  rfl

/-- The write that turns it off. -/
lemma tryControl_false (h : w.procfsWritable = true) :
    (w.tryControl false).kernel.monitorEnabled = 0 := by
  rw [World.tryControl, if_pos h]
  rfl

@[simp] lemma procfsWritable_tryControl (w : World) (enable : Bool) :
    (w.tryControl enable).procfsWritable = w.procfsWritable := by
  unfold World.tryControl
  split <;> rfl

/-- Changing one slot, the switch left alone. -/
lemma switchAgrees_of_split {l₁ l₂ : List RoomInfo} {r r' : RoomInfo}
    (hl : w.daemon.rooms = l₁ ++ r :: l₂) (hl' : w'.daemon.rooms = l₁ ++ r' :: l₂)
    (hr : r'.state = .running ↔ r.state = .running) (hk : w'.kernel = w.kernel) :
    SwitchAgrees w' ↔ SwitchAgrees w := by
  rw [SwitchAgrees, SwitchAgrees, hk, hl, hl', someRunning_split, someRunning_split, hr]

end world

/-! ## The calls -/

/-- What the calls need to find: the array has its size and the module can be written to. -/
structure SwitchReady (n : ℕ) (w : World) : Prop where
  sized : w.daemon.Sized n
  writable : w.procfsWritable = true

section calls

variable {H} {n : ℕ} {w : World} (h : SwitchReady n w) (name : List UInt8)
  (waiting : List MonitorEvent)

lemma SwitchReady.quiet {w' : World} (h : SwitchReady n w) (hq : Quiet w w') : SwitchReady n w' :=
  ⟨hq.sized h.sized, hq.procfsWritable_eq.trans h.writable⟩

include h

lemma SwitchReady.tryControl (enable : Bool) : SwitchReady n (w.tryControl enable) :=
  ⟨by simpa using h.sized, by simpa using h.writable⟩

/-- A call leaves the state ready for the next one. -/
lemma SwitchReady.run (op : RoomOp) : SwitchReady n (op.run H waiting w).1 := by
  have hwait (i : ℕ) := h.quiet (quiet_afterWait i waiting w)
  cases op with
  | create name ci =>
      rw [create_run]
      split
      · exact ⟨h.sized.addRoom H _ name ci, h.writable⟩
      · exact h
  | start name =>
      rw [start_run]
      split
      · exact h
      · split
        · exact h
        · exact SwitchReady.tryControl (w := w.startOk _) ⟨h.sized.startOk _, h.writable⟩ true
  | stop name =>
      rw [stop_run]
      split
      · exact h
      · rename_i i _
        split
        · exact SwitchReady.tryControl (w := (w.afterWait i waiting).markCreated i)
            ⟨(hwait i).sized.markCreated i, (hwait i).writable⟩ false
        · exact h
  | delete name =>
      rw [delete_run]
      split
      · exact h
      · rename_i i _
        split
        · exact ⟨(hwait i).sized.removeRoom H i, (hwait i).writable⟩
        · exact ⟨h.sized.removeRoom H i, h.writable⟩

variable (hw : SwitchAgrees w)
include hw

/-- `create_room` keeps the agreement. -/
lemma switchAgrees_create (ci : ℤ) :
    SwitchAgrees ((RoomOp.create name ci).run H waiting w).1 := by
  rw [create_run]
  split
  · rename_i i _ hf
    obtain ⟨l₁, r, l₂, hl, rfl, hr⟩ := h.sized.of_freeSlot hf
    have hin := r.used_eq_false_iff.mp hr
    refine (switchAgrees_of_split hl (rooms_addRoom hl name ci) ?_ rfl).mpr hw
    simp [RoomInfo.fill, hin]
  · exact hw

/-- `start_room` keeps the agreement. -/
lemma switchAgrees_start : SwitchAgrees ((RoomOp.start name).run H waiting w).1 := by
  rw [start_run]
  split
  · exact hw
  · rename_i i hs
    obtain ⟨l₁, r, l₂, hl, rfl, -⟩ := h.sized.of_search hs
    split
    · exact hw
    · -- the switch is on and the room is running
      have hon : ((w.startOk l₁.length).tryControl true).kernel.monitorEnabled = 1 :=
        tryControl_true (w := w.startOk l₁.length) h.writable
      rw [SwitchAgrees, hon, daemon_tryControl, rooms_startOk hl, someRunning_split]
      simp

/-- `stop_room` keeps the agreement exactly when it stops the last running room, or none. -/
lemma switchAgrees_stop :
    SwitchAgrees ((RoomOp.stop name).run H waiting w).1 ↔
      KeepsSwitch H w (.call (.stop name) waiting) := by
  rw [stop_run, KeepsSwitch]
  cases hs : w.daemon.search H name with
  | none => simp [hw]
  | some i =>
      obtain ⟨l₁, r, l₂, hl, rfl, -⟩ := h.sized.of_search hs
      simp only [Option.some.injEq, forall_eq', roomState_split hl]
      by_cases hr : r.state = .running
      · simp only [hr, if_true, true_imp_iff]
        rw [otherRunning_split hl]
        have hq := quiet_afterWait l₁.length waiting w
        generalize w.afterWait l₁.length waiting = w₁ at hq ⊢
        obtain ⟨l₁', r', l₂', hl', hlen, h₁, -, h₂⟩ := hq.split hl
        rw [← hlen]
        -- the switch is off, so no room may be running any more
        have hoff : ((w₁.markCreated l₁'.length).tryControl false).kernel.monitorEnabled = 0 :=
          tryControl_false (w := w₁.markCreated l₁'.length) (h.quiet hq).writable
        rw [SwitchAgrees, hoff, daemon_tryControl, rooms_markCreated hl', someRunning_split,
          someRunning_congr h₁, someRunning_congr h₂]
        simp
      · simp [hr, hw]

/-- `delete_room` keeps the agreement exactly when it deletes a room that is not running, or a
running one and not the last. -/
lemma switchAgrees_delete :
    SwitchAgrees ((RoomOp.delete name).run H waiting w).1 ↔
      KeepsSwitch H w (.call (.delete name) waiting) := by
  rw [delete_run, KeepsSwitch]
  cases hs : w.daemon.search H name with
  | none => simp [hw]
  | some i =>
      obtain ⟨l₁, r, l₂, hl, rfl, -⟩ := h.sized.of_search hs
      simp only [Option.some.injEq, forall_eq', roomState_split hl]
      by_cases hr : r.state = .running
      · simp only [hr, if_true, true_imp_iff]
        rw [otherRunning_split hl]
        have hon : w.kernel.monitorEnabled = 1 :=
          hw.mpr (hl ▸ (someRunning_split l₁ l₂ r).mpr (Or.inl hr))
        have hq := quiet_afterWait l₁.length waiting w
        generalize w.afterWait l₁.length waiting = w₁ at hq ⊢
        obtain ⟨l₁', r', l₂', hl', hlen, h₁, -, h₂⟩ := hq.split hl
        rw [← hlen]
        -- the switch stays on, so another room must be running
        have hon' : (w₁.removeRoom H l₁'.length).kernel.monitorEnabled = 1 := by
          rw [← hon, ← hq.kernel_eq]
          rfl
        rw [SwitchAgrees, hon', rooms_removeRoom hl', someRunning_split, someRunning_congr h₁,
          someRunning_congr h₂]
        simp [RoomInfo.cleared]
      · simp only [hr, if_false, false_imp_iff, iff_true]
        refine (switchAgrees_of_split hl (rooms_removeRoom hl) ?_ rfl).mpr hw
        simp [RoomInfo.cleared, hr]

/-- **One event** keeps the agreement exactly when it is one of `KeepsSwitch`. -/
lemma switchAgrees_step (e : SeqEvent) :
    SwitchAgrees ((sequential H).step w e).1 ↔ KeepsSwitch H w e := by
  cases e with
  | monitor e => exact iff_of_true ((monitorStep_quiet e w).switchAgrees_iff.mpr hw) trivial
  | call op waiting =>
      cases op with
      | create name ci => exact iff_of_true (switchAgrees_create h name waiting hw ci) trivial
      | start name => exact iff_of_true (switchAgrees_start h name waiting hw) trivial
      | stop name => exact switchAgrees_stop h name waiting hw
      | delete name => exact switchAgrees_delete h name waiting hw

end calls

/-! ## All runs -/

/-- The switch agrees with the zeroed table. -/
lemma switchAgrees_initial (config : Config) (n : ℕ) :
    SwitchAgrees (World.initial H config n) := by
  refine iff_of_false (by simp [World.initial, ProcMonitor.loaded]) ?_
  rintro ⟨r, hr, hrun⟩
  rw [List.eq_of_mem_replicate hr] at hrun
  simp [RoomInfo.cleared] at hrun

/-- **The switch over a run of calls.** For any number of slots and every run of calls from the
zeroed table, the switch agrees with the running rooms after every event if and only if every
call that stops a running room stops the last one and every call that deletes a running room
leaves another one running. -/
theorem states_switchAgrees_iff (config : Config) (n : ℕ) (events : List SeqEvent) :
    (∀ w ∈ World.initial H config n :: (sequential H).states (.initial H config n) events,
        SwitchAgrees w) ↔
      ∀ x ∈ (sequential H).trace (.initial H config n) events, KeepsSwitch H x.1 x.2 := by
  rw [List.forall_mem_cons, and_iff_right (switchAgrees_initial H config n)]
  refine (sequential H).states_iff_trace (I := SwitchReady n) (C := KeepsSwitch H)
    (fun w e h _ => ?_) (fun w e h hw => switchAgrees_step h hw e)
    ⟨⟨List.length_replicate, rfl⟩, rfl⟩ (switchAgrees_initial H config n) events
  cases e with
  | monitor e => exact h.quiet (monitorStep_quiet e w)
  | call op waiting => exact h.run waiting op

/-- Two rooms are running and one of them is stopped. -/
def stopOneOfTwo : List SeqEvent :=
  [.call (.create (bytes "cpu") 5) [], .call (.create (bytes "disk") 5) [],
   .call (.start (bytes "cpu")) [], .call (.start (bytes "disk")) [],
   .call (.stop (bytes "cpu")) [.leave 0]]

/-- The other room is still running and the switch is off. -/
theorem stopOneOfTwo_not_switchAgrees :
    ¬ ∀ w ∈ World.initial .plain (.zero .plain) 10 ::
        (sequential .plain).states (.initial .plain (.zero .plain) 10) stopOneOfTwo,
      SwitchAgrees w := by
  intro h
  have hlast := h _ ((sequential .plain).run_mem_states _ _)
  revert hlast
  unfold SwitchAgrees
  decide

end ProcessMonitor.Integration
