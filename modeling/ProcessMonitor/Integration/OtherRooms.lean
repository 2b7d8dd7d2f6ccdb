import ProcessMonitor.Integration.Concurrent

/-!
# Which slots a call may change

A call with a name should leave the rooms of other names alone, and only `create_room` should take
a free slot into use (`OwnRoom`). The first section of each function keeps to this, since it looks
its slot up under the mutex. The second sections of `stop_room` and `delete_room` write through the
pointer from before the wait: by then the slot may be free, or hold a room created since.

`trace_ownRoom_iff` says which second sections go `Astray` so, and that in every schedule these are
exactly the steps that change what is not theirs.
-/

namespace ProcessMonitor.Integration

open CString Prog

variable (H : Header)

/-! ## The property -/

/-- The name with which an operation is called. -/
def RoomOp.name : RoomOp → List UInt8
  | .create name _ => name
  | .start name => name
  | .stop name => name
  | .delete name => name

/-- What a step of `op` from `w` to `w'` should leave alone. -/
structure OwnRoom (op : RoomOp) (w w' : World) : Prop where
  /-- A room of another name keeps all its fields. -/
  frame : ∀ (i : ℕ) (r : RoomInfo), w.daemon.rooms[i]? = some r → r.used = true →
    r.hasName H op.name = false → w'.daemon.rooms[i]? = some r
  /-- A free slot stays free, unless the operation creates. -/
  free : (∀ name ci, op ≠ .create name ci) → ∀ (i : ℕ) (r : RoomInfo),
    w.daemon.rooms[i]? = some r → r.used = false →
      ∃ r' : RoomInfo, w'.daemon.rooms[i]? = some r' ∧ r'.used = false

/-- The client threads, with the call that each is in. -/
abbrev Callers := Pool.Called World ℤ RoomOp

/-- The clients as a machine that remembers the calls. -/
def callers : Machine Callers (Sched RoomOp MonitorEvent) Unit :=
  Pool.Called.machine (RoomOp.code H) monitorStep

/-- The daemon before the first call. -/
def Callers.initial (config : Config) (n : ℕ) : Callers :=
  ⟨Clients.initial H config n, fun _ => none⟩

/-- If the step is a thread's, it keeps to the room that its call names. -/
def StepOwnRoom (s : Callers) (l : Sched RoomOp MonitorEvent) : Prop :=
  ∀ t ok op, l = .go t ok → s.op t = some op →
    OwnRoom H op s.pool.world ((callers H).step s l).1.pool.world

/-- A thread is about to enter the second section of `stop_room` with a slot that is free, or in
use under another name and not in the state `ROOM_STATE_CREATED` which the section assigns; or the
second section of `delete_room` with a slot that is in use under another name. -/
def Astray (s : Callers) (l : Sched RoomOp MonitorEvent) : Prop :=
  ∃ t ok i r, l = .go t ok ∧ s.pool.world.daemon.rooms[i]? = some r ∧
    ((∃ name, s.op t = some (.stop name) ∧ s.pool.prog t = stopTail (some name) i ∧
        r.hasName H name = false ∧ r.state ≠ .created) ∨
      (∃ name, s.op t = some (.delete name) ∧ s.pool.prog t = deleteTail H i ∧
        r.hasName H name = false ∧ r.used = true))

/-! ## One section -/

section sections

variable {H} {n : ℕ} {op : RoomOp} {w w' : World}

/-- A step that leaves the slots alone. -/
lemma OwnRoom.of_rooms_eq (h : w'.daemon.rooms = w.daemon.rooms) : OwnRoom H op w w' where
  frame i r hr _ _ := by rw [h, hr]
  free _ i r hr hu := ⟨r, by rw [h, hr], hu⟩

/-- A step that assigns to one slot. -/
lemma ownRoom_split_iff {l₁ l₂ : List RoomInfo} {r r' : RoomInfo}
    (hl : w.daemon.rooms = l₁ ++ r :: l₂) (hl' : w'.daemon.rooms = l₁ ++ r' :: l₂) :
    OwnRoom H op w w' ↔
      (r.used = true → r.hasName H op.name = false → r' = r) ∧
        ((∀ name ci, op ≠ .create name ci) → r.used = false → r'.used = false) := by
  have hat : w.daemon.rooms[l₁.length]? = some r := by rw [hl, Slots.getElem?_split]
  have hat' : w'.daemon.rooms[l₁.length]? = some r' := by rw [hl', Slots.getElem?_split]
  constructor
  · intro h
    constructor
    · intro hu hn
      have hsame := h.frame _ r hat hu hn
      rw [hat', Option.some.injEq] at hsame
      exact hsame
    · intro hop hu
      obtain ⟨r'', hr'', hu''⟩ := h.free hop _ r hat hu
      rw [hat', Option.some.injEq] at hr''
      exact hr'' ▸ hu''
  · rintro ⟨hframe, hfree⟩
    have hother {j : ℕ} (hj : j ≠ l₁.length) : w'.daemon.rooms[j]? = w.daemon.rooms[j]? := by
      rw [hl, hl', Slots.getElem?_split_ne hj]
    constructor
    · intro j x hx hu hn
      by_cases hj : j = l₁.length
      · subst hj
        rw [hat, Option.some.injEq] at hx
        subst hx
        rw [hat', hframe hu hn]
      · rw [hother hj, hx]
    · intro hop j x hx hu
      by_cases hj : j = l₁.length
      · subst hj
        rw [hat, Option.some.injEq] at hx
        subst hx
        exact ⟨r', hat', hfree hop hu⟩
      · exact ⟨x, by rw [hother hj, hx], hu⟩

/-- A step that assigns to the slot in use under the name of the call. -/
lemma OwnRoom.of_hasName {l₁ l₂ : List RoomInfo} {r r' : RoomInfo}
    (hl : w.daemon.rooms = l₁ ++ r :: l₂) (hl' : w'.daemon.rooms = l₁ ++ r' :: l₂)
    (hu : r.used = true) (hkey : r.key H = cut H op.name) : OwnRoom H op w w' := by
  have hname : r.hasName H op.name = true := (r.hasName_iff H op.name).mpr ⟨hu, hkey⟩
  refine (ownRoom_split_iff hl hl').mpr ⟨fun _ hn => ?_, fun _ hfree => ?_⟩
  · rw [hname] at hn
    cases hn
  · rw [hu] at hfree
    cases hfree

/-- **The first sections keep to the room that the call names.** -/
lemma ownRoom_code_next (hw : w.daemon.Sized n) {ok : Bool} {p' : Prog World ℤ}
    (h : (op.code H).next ok w = some (w', p')) : OwnRoom H op w w' := by
  cases firstSection_of_next h with
  | idle => exact .of_rooms_eq rfl
  | @added name i ci hs hf =>
      obtain ⟨l₁, r, l₂, hl, rfl, hr⟩ := hw.of_freeSlot hf
      refine (ownRoom_split_iff hl (rooms_addRoom hl name ci)).mpr ⟨fun hu => ?_, fun hop => ?_⟩
      · rw [hr] at hu
        cases hu
      · exact absurd rfl (hop name ci)
  | started hs =>
      obtain ⟨l₁, r, l₂, hl, rfl, hu, hkey⟩ := hw.of_search hs
      exact .of_hasName hl (rooms_startOk hl) hu hkey
  | startFailed hs =>
      obtain ⟨l₁, r, l₂, hl, rfl, hu, hkey⟩ := hw.of_search hs
      exact .of_hasName hl (rooms_startFailed hl) hu hkey
  | stopping hs =>
      obtain ⟨l₁, r, l₂, hl, rfl, hu, hkey⟩ := hw.of_search hs
      exact .of_hasName hl (rooms_deactivate hl) hu hkey
  | deleting hs =>
      obtain ⟨l₁, r, l₂, hl, rfl, hu, hkey⟩ := hw.of_search hs
      exact .of_hasName hl (rooms_deactivate hl) hu hkey
  | deleted hs =>
      obtain ⟨l₁, r, l₂, hl, rfl, hu, hkey⟩ := hw.of_search hs
      exact .of_hasName hl (rooms_removeRoom hl) hu hkey

/-- The second section of `stop_room` changes what is not its own if the slot is free or holds a
room of another name in another state. -/
lemma ownRoom_markCreated_iff {name : List UInt8} {l₁ l₂ : List RoomInfo} {r : RoomInfo}
    (hl : w.daemon.rooms = l₁ ++ r :: l₂) :
    OwnRoom H (.stop name) w (w.markCreated l₁.length) ↔
      ¬ (r.hasName H name = false ∧ r.state ≠ .created) := by
  rw [ownRoom_split_iff hl (rooms_markCreated hl)]
  constructor
  · rintro ⟨hframe, hfree⟩ ⟨hn, hs⟩
    cases hu : r.used with
    | true =>
        have hsame := congrArg RoomInfo.state (hframe hu hn)
        exact hs hsame.symm
    | false =>
        have hfree' := hfree (fun _ _ => nofun) hu
        rw [RoomInfo.used_eq_false_iff] at hfree'
        cases hfree'
  · intro h
    constructor
    · intro hu hn
      have hs : r.state = .created := by
        by_contra hs
        exact h ⟨hn, hs⟩
      rw [← hs]
    · intro _ hu
      have hin := (RoomInfo.used_eq_false_iff r).mp hu
      refine absurd ⟨?_, ?_⟩ h
      · simp [RoomInfo.hasName, hin]
      · simp [hin]

/-- The second section of `delete_room` changes what is not its own if the slot holds a room of
another name. -/
lemma ownRoom_removeRoom_iff {name : List UInt8} {l₁ l₂ : List RoomInfo} {r : RoomInfo}
    (hl : w.daemon.rooms = l₁ ++ r :: l₂) :
    OwnRoom H (.delete name) w (w.removeRoom H l₁.length) ↔
      ¬ (r.hasName H name = false ∧ r.used = true) := by
  rw [ownRoom_split_iff hl (rooms_removeRoom hl)]
  constructor
  · rintro ⟨hframe, -⟩ ⟨hn, hu⟩
    have hsame := hframe hu hn
    rw [← hsame, used_cleared] at hu
    cases hu
  · intro h
    exact ⟨fun hu hn => absurd ⟨hn, hu⟩ h, fun _ _ => used_cleared⟩

end sections

/-! ## One step -/

/-- The array has its size and no client thread is inside a section. -/
structure Callers.Wf (n : ℕ) (s : Callers) : Prop where
  sized : s.pool.world.daemon.Sized n
  between : s.AllBetween SameDaemon (EntersSectionOf H n)

section steps

variable {H} {n : ℕ} {s : Callers} (l : Sched RoomOp MonitorEvent)

/-- The initial state is well formed. -/
lemma callersWf_initial (config : Config) : (Callers.initial H config n).Wf H n where
  sized := ⟨List.length_replicate, rfl⟩
  between := fun _ => ⟨0, rfl⟩

/-- A step keeps the client threads well formed. -/
lemma callersWf_step (hs : s.Wf H n) : ((callers H).step s l).1.Wf H n where
  between := Pool.Called.step_between SameDaemon.refl (RoomOp.code H) monitorStep
    (J := fun w => w.daemon.Sized n) (betweenOf_code H n)
    (fun _ _ _ _ _ _ hw hp h => (next_of_entersSectionOf hw hp h).2) hs.sized hs.between l
  sized := by
    cases l with
    | call t op =>
        have hsame : ((callers H).step s (.call t op)).1.pool.world = s.pool.world := by
          simp only [callers, Pool.Called.machine, Pool.Called.step, Pool.step]
          split <;> rfl
        exact hsame ▸ hs.sized
    | go t ok =>
        rcases Pool.Called.go_cases SameDaemon.refl (RoomOp.code H) monitorStep hs.between t ok
          with hw | ⟨op, w', p', -, hp, hnext, hw⟩
        · exact hw.symm ▸ hs.sized
        · exact hw.symm ▸ (next_of_entersSectionOf hs.sized hp hnext).1
    | env e => exact (monitorStep_quiet e s.pool.world).sized hs.sized

/-- **Exactly the stray steps change what is not theirs.** -/
lemma stepOwnRoom_iff (hs : s.Wf H n) : StepOwnRoom H s l ↔ ¬ Astray H s l := by
  constructor
  · rintro hown ⟨t, ok, i, r, rfl, hi, hastray⟩
    obtain ⟨l₁, l₂, hl, rfl⟩ := Slots.exists_split_of_getElem? hi
    rcases hastray with ⟨name, hop, hp, hbad⟩ | ⟨name, hop, hp, hbad⟩
    · have hnext : (s.pool.prog t).next ok s.pool.world = _ :=
        hp ▸ stopTail_next ok s.pool.world name l₁.length
      have hstep := hown t ok _ rfl hop
      rw [show ((callers H).step s (.go t ok)).1.pool.world = _ from
        Pool.world_step_go (RoomOp.code H) monitorStep hnext] at hstep
      exact (ownRoom_markCreated_iff hl).mp hstep hbad
    · have hnext : (s.pool.prog t).next ok s.pool.world = _ :=
        hp ▸ deleteTail_next H ok s.pool.world l₁.length
      have hstep := hown t ok _ rfl hop
      rw [show ((callers H).step s (.go t ok)).1.pool.world = _ from
        Pool.world_step_go (RoomOp.code H) monitorStep hnext] at hstep
      exact (ownRoom_removeRoom_iff hl).mp hstep hbad
  · rintro hno t ok op rfl hop
    rcases Pool.Called.go_cases SameDaemon.refl (RoomOp.code H) monitorStep hs.between t ok
      with hw | ⟨op', w', p', hop', hp, hnext, hw⟩
    · exact .of_rooms_eq (congrArg DaemonState.rooms hw)
    · change OwnRoom H op s.pool.world (Pool.Called.step (RoomOp.code H) monitorStep s
        (.go t ok)).pool.world
      rw [hop, Option.some.injEq] at hop'
      subst hop'
      rw [hw]
      have hslot {i : ℕ} (hi : i < n) : ∃ l₁ r l₂,
          s.pool.world.daemon.rooms = l₁ ++ r :: l₂ ∧ l₁.length = i := by
        rw [← hs.sized.length_rooms] at hi
        obtain ⟨l₁, l₂, hl, hlen⟩ :=
          Slots.exists_split_of_getElem? (List.getElem?_eq_getElem hi)
        exact ⟨l₁, _, l₂, hl, hlen⟩
      generalize hprog : s.pool.prog t = p at hp hnext
      cases hp with
      | code => exact ownRoom_code_next hs.sized hnext
      | stopTail name hi =>
          obtain ⟨l₁, r, l₂, hl, rfl⟩ := hslot hi
          rw [stopTail_next, Option.some.injEq] at hnext
          cases hnext
          refine (ownRoom_markCreated_iff hl).mpr fun hbad => hno ?_
          exact ⟨t, ok, l₁.length, r, rfl, by rw [hl, Slots.getElem?_split],
            Or.inl ⟨name, hop, hprog, hbad⟩⟩
      | deleteTail name hi =>
          obtain ⟨l₁, r, l₂, hl, rfl⟩ := hslot hi
          rw [deleteTail_next, Option.some.injEq] at hnext
          cases hnext
          refine (ownRoom_removeRoom_iff hl).mpr fun hbad => hno ?_
          exact ⟨t, ok, l₁.length, r, rfl, by rw [hl, Slots.getElem?_split],
            Or.inr ⟨name, hop, hprog, hbad⟩⟩

end steps

/-- **Other rooms under any schedule.** For any number of slots and of clients and every schedule
of their sections, every step keeps to the room that its call names, in all of the run, if and only
if no step goes astray. -/
theorem trace_ownRoom_iff (config : Config) (n : ℕ)
    (schedule : List (Sched RoomOp MonitorEvent)) :
    (∀ x ∈ (callers H).trace (.initial H config n) schedule, StepOwnRoom H x.1 x.2) ↔
      ∀ x ∈ (callers H).trace (.initial H config n) schedule, ¬ Astray H x.1 x.2 := by
  have hwf := (callers H).trace_invariant (I := Callers.Wf H n)
    (fun s l hs => callersWf_step l hs) (callersWf_initial config) schedule
  exact forall₂_congr fun x hx => stepOwnRoom_iff x.2 (hwf x hx)

/-- Two clients delete the same running room; after one of them has cleared the slot, a third
creates another room in it. -/
def deleteInReuse : List (Sched RoomOp MonitorEvent) :=
  let room := bytes "cpu"
  [.call 0 (.create room 5), .go 0 true, .call 0 (.start room), .go 0 true, .go 0 true, .go 0 true,
   .call 1 (.delete room), .go 1 true, .call 2 (.delete room), .go 2 true, .env (.leave 0),
   .go 1 true, .go 1 true, .go 1 true, .go 1 true,
   .call 3 (.create (bytes "disk") 5), .go 3 true, .go 2 true, .go 2 true, .go 2 true]

/-- The second client then clears the room of the third. -/
theorem deleteInReuse_not_ownRoom :
    ¬ ∀ x ∈ (callers .plain).trace (.initial .plain (.zero .plain) 10)
        (deleteInReuse ++ [.go 2 true]), StepOwnRoom .plain x.1 x.2 := by
  intro h
  have hlast := h _ ((callers .plain).mem_trace_concat _ _ _)
  have hown := hlast 2 true (.delete (bytes "cpu")) rfl (by decide)
  have hbefore : ((((callers .plain).run (.initial .plain (.zero .plain) 10)
      deleteInReuse).1.pool.world.daemon.rooms[0]?).any fun r =>
        r.used && !r.hasName .plain (bytes "cpu")) = true := by decide
  obtain ⟨r, hr, hbad⟩ := (Option.any_eq_true _ _).mp hbefore
  rw [Bool.and_eq_true, Bool.not_eq_true'] at hbad
  have hafter := congrArg (Option.map RoomInfo.used) (hown.frame 0 r hr hbad.1 hbad.2)
  rw [Option.map_some, hbad.1] at hafter
  revert hafter
  decide

end ProcessMonitor.Integration
