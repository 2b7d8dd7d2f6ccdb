import ProcessMonitor.Lib.Pool
import ProcessMonitor.Integration.Monitor

/-!
# The room table under any number of clients

Client threads call the four room functions in any order and are interleaved at their locked
sections, `rooms_mutex` being taken as recursive; the monitor threads run beside them.

`stop_room` and `delete_room` keep a pointer to their room's slot while they wait, without the
mutex, for its monitor thread. A second `delete_room` of the room can get as far in the meantime,
and the one that comes last then clears, and uncounts, a slot that is not in use any more. Such a
step is `Stale`, and `states_tableOk_iff` says that in every schedule the count and the names of
the table are right in all states exactly when no step is stale.
-/

namespace ProcessMonitor.Integration

open CString Prog

variable (H : Header)

/-! ## What the table should satisfy -/

/-- `room_count` counts the slots in use, and their names differ from each other. -/
structure TableOk (d : DaemonState) : Prop where
  roomCount_eq : d.roomCount = (d.rooms.countP RoomInfo.used : ℤ)
  names_ne : d.rooms.Pairwise fun r r' =>
    r.used → r'.used → strncmp r.name r'.name H.maxRoomName ≠ 0

/-- The names in the table. -/
def DaemonState.names (d : DaemonState) : List (List UInt8) := (d.entries H).map Prod.fst

/-- The same for the names read off the slots. -/
lemma tableOk_iff (d : DaemonState) :
    TableOk H d ↔ d.roomCount = ((d.names H).length : ℤ) ∧ (d.names H).Nodup := by
  have hnames : (d.names H).Nodup ↔ d.rooms.Pairwise fun r r' =>
      r.used → r'.used → strncmp r.name r'.name H.maxRoomName ≠ 0 := by
    unfold DaemonState.names DaemonState.entries tableOf Slots.entries
    rw [List.map_map, List.nodup_iff_pairwise_ne, List.pairwise_map, List.pairwise_filter]
    simp only [Function.comp_apply, RoomInfo.entry, RoomInfo.key, ne_eq, strncmp_eq_zero_iff]
  rw [hnames, DaemonState.names, List.length_map, DaemonState.entries, tableOf,
    Slots.length_entries]
  exact ⟨fun h => ⟨h.roomCount_eq, h.names_ne⟩, fun h => ⟨h.1, h.2⟩⟩

/-- A table with the same names and the same count is as good. -/
lemma tableOk_congr {d d' : DaemonState} (hn : d'.names H = d.names H)
    (hc : d'.roomCount = d.roomCount) : TableOk H d' ↔ TableOk H d := by
  rw [tableOk_iff, tableOk_iff, hn, hc]

section split

variable {H} {d : DaemonState} {l₁ l₂ : List RoomInfo} {r : RoomInfo}

/-- The names of an array cut at a slot in use. -/
lemma names_split_of_used (hd : d.rooms = l₁ ++ r :: l₂) (hr : r.used = true) :
    d.names H = (tableOf H l₁).map Prod.fst ++ r.key H :: (tableOf H l₂).map Prod.fst := by
  rw [DaemonState.names, DaemonState.entries, hd, tableOf_split_of_used hr, List.map_append,
    List.map_cons]
  rfl

/-- The names of an array cut at a slot not in use. -/
lemma names_split_of_unused (hd : d.rooms = l₁ ++ r :: l₂) (hr : r.used = false) :
    d.names H = (tableOf H l₁).map Prod.fst ++ (tableOf H l₂).map Prod.fst := by
  rw [DaemonState.names, DaemonState.entries, hd, tableOf_split_of_unused hr, List.map_append]

end split

/-! ## The first section of a call -/

section first

variable (w : World)

/-- What the first section of a call does to the state, and what is left of the call behind it. -/
inductive FirstSection : RoomOp → World → Prog World ℤ → Prop
  | idle (op : RoomOp) (result : ℤ) : FirstSection op w (.ret result)
  | added {name : List UInt8} {i : ℕ} (ci : ℤ) (hs : w.daemon.search H name = none)
      (hf : w.daemon.freeSlot = some i) :
      FirstSection (.create name ci) (w.addRoom H name ci i) (.ret 0)
  | started {name : List UInt8} {i : ℕ} (hs : w.daemon.search H name = some i) :
      FirstSection (.start name) (w.startOk i) (afterControl (some name) true)
  | startFailed {name : List UInt8} {i : ℕ} (hs : w.daemon.search H name = some i) :
      FirstSection (.start name) (w.startFailed i) (.ret (-1))
  | stopping {name : List UInt8} {i : ℕ} (hs : w.daemon.search H name = some i) :
      FirstSection (.stop name) (w.deactivate i) (do pthreadJoin i; stopTail (some name) i)
  | deleting {name : List UInt8} {i : ℕ} (hs : w.daemon.search H name = some i) :
      FirstSection (.delete name) (w.deactivate i) (do pthreadJoin i; deleteTail H i)
  | deleted {name : List UInt8} {i : ℕ} (hs : w.daemon.search H name = some i) :
      FirstSection (.delete name) (w.removeRoom H i) (.ret 0)

variable {H} {w}

/-- **The first section** of every call is one of these. -/
lemma firstSection_of_next {op : RoomOp} {ok : Bool} {w' : World} {p' : Prog World ℤ}
    (h : (op.code H).next ok w = some (w', p')) : FirstSection H w op w' p' := by
  cases op with
  | create name ci =>
      rw [RoomOp.code, createRoom_next, Option.some.injEq] at h
      split at h
      · rename_i i hs hf
        cases h
        exact .added ci hs hf
      · cases h
        exact .idle _ _
  | start name =>
      rw [RoomOp.code, startRoom_next, Option.some.injEq] at h
      split at h
      · cases h
        exact .idle _ _
      · rename_i i hs
        split_ifs at h <;> cases h
        · exact .idle _ _
        · exact .started hs
        · exact .startFailed hs
  | stop name =>
      rw [RoomOp.code, stopRoom_next, Option.some.injEq] at h
      split at h
      · cases h
        exact .idle _ _
      · rename_i i hs
        split_ifs at h <;> cases h
        · exact .stopping hs
        · exact .idle _ _
  | delete name =>
      rw [RoomOp.code, deleteRoom_next, Option.some.injEq] at h
      split at h
      · cases h
        exact .idle _ _
      · rename_i i hs
        split_ifs at h <;> cases h
        · exact .deleting hs
        · exact .deleted hs

end first

/-! ## The sections and the table -/

section sections

variable {H} {n : ℕ} {w : World} (hw : w.daemon.Sized n) (hok : TableOk H w.daemon)

/-- Changing a slot in use without renaming or freeing it keeps the table as good as it was. -/
lemma tableOk_updRoom {l₁ l₂ : List RoomInfo} {r r' : RoomInfo} {d : DaemonState}
    (hl : w.daemon.rooms = l₁ ++ r :: l₂) (hd : d.rooms = l₁ ++ r' :: l₂) (hr : r.used = true)
    (hr' : r'.used = true) (hname : r'.name = r.name) (hc : d.roomCount = w.daemon.roomCount) :
    TableOk H d ↔ TableOk H w.daemon := by
  refine tableOk_congr H ?_ hc
  rw [names_split_of_used hd hr', names_split_of_used hl hr, RoomInfo.key, RoomInfo.key, hname]

include hok

/-- Clearing a slot in use, and uncounting it, keeps the table right. -/
lemma tableOk_removeRoom {l₁ l₂ : List RoomInfo} {r : RoomInfo}
    (hl : w.daemon.rooms = l₁ ++ r :: l₂) (hr : r.used = true) :
    TableOk H (w.removeRoom H l₁.length).daemon := by
  obtain ⟨hc, hnd⟩ := (tableOk_iff H _).mp hok
  rw [names_split_of_used hl hr] at hc hnd
  have hc' : (w.removeRoom H l₁.length).daemon.roomCount = w.daemon.roomCount - 1 := rfl
  rw [tableOk_iff, names_split_of_unused (rooms_removeRoom hl) used_cleared, hc', hc]
  refine ⟨by simp only [List.length_append, List.length_cons]; omega, ?_⟩
  exact (List.nodup_middle.mp hnd).of_cons

/-- Clearing a slot that is not in use uncounts a room too many. -/
lemma not_tableOk_removeRoom {l₁ l₂ : List RoomInfo} {r : RoomInfo}
    (hl : w.daemon.rooms = l₁ ++ r :: l₂) (hr : r.used = false) :
    ¬ TableOk H (w.removeRoom H l₁.length).daemon := by
  obtain ⟨hc, -⟩ := (tableOk_iff H _).mp hok
  rw [names_split_of_unused hl hr] at hc
  have hc' : (w.removeRoom H l₁.length).daemon.roomCount = w.daemon.roomCount - 1 := rfl
  rw [tableOk_iff, names_split_of_unused (rooms_removeRoom hl) used_cleared, hc', hc]
  omega

/-- Marking a slot that is not in use as created makes a room that is not counted. -/
lemma not_tableOk_markCreated {l₁ l₂ : List RoomInfo} {r : RoomInfo}
    (hl : w.daemon.rooms = l₁ ++ r :: l₂) (hr : r.used = false) :
    ¬ TableOk H (w.markCreated l₁.length).daemon := by
  obtain ⟨hc, -⟩ := (tableOk_iff H _).mp hok
  rw [names_split_of_unused hl hr, List.length_append] at hc
  have hc' : (w.markCreated l₁.length).daemon.roomCount = w.daemon.roomCount := rfl
  rw [tableOk_iff, names_split_of_used (rooms_markCreated hl) rfl, hc', hc, List.length_append,
    List.length_cons]
  omega

include hw

/-- Filling a free slot under a name that the search did not find keeps the table right. -/
lemma tableOk_addRoom {name : List UInt8} {i : ℕ} (ci : ℤ)
    (hs : w.daemon.search H name = none) (hf : w.daemon.freeSlot = some i) :
    TableOk H (w.addRoom H name ci i).daemon := by
  obtain ⟨l₁, r, l₂, hl, rfl, hr⟩ := hw.of_freeSlot hf
  obtain ⟨hc, hnd⟩ := (tableOk_iff H _).mp hok
  have hnew : cut H name ∉ w.daemon.names H := hw.search_eq_none_iff.mp hs
  rw [names_split_of_unused hl hr] at hc hnd hnew
  have hc' : (w.addRoom H name ci l₁.length).daemon.roomCount = w.daemon.roomCount + 1 := rfl
  have hkey := congrArg Prod.fst
    (entry_fill (H := H) (r := r) name ci w.daemon.config.collectionInterval w.now)
  rw [tableOk_iff, names_split_of_used (rooms_addRoom hl name ci) (used_fill ..), hc', hc]
  simp only [RoomInfo.entry] at hkey
  refine ⟨by simp only [List.length_append, List.length_cons]; omega, ?_⟩
  rw [hkey, List.nodup_middle, List.nodup_cons]
  exact ⟨hnew, hnd⟩

/-- **The first sections keep the table right**, whatever happened between the others. -/
lemma tableOk_code_next {op : RoomOp} {ok : Bool} {w' : World} {p' : Prog World ℤ}
    (h : (op.code H).next ok w = some (w', p')) : TableOk H w'.daemon := by
  cases firstSection_of_next h with
  | idle => exact hok
  | added ci hs hf => exact tableOk_addRoom hw hok ci hs hf
  | started hs =>
      obtain ⟨l₁, r, l₂, hl, rfl, hr, -⟩ := hw.of_search hs
      exact (tableOk_updRoom hl (rooms_startOk hl) hr rfl rfl rfl).mpr hok
  | startFailed hs =>
      obtain ⟨l₁, r, l₂, hl, rfl, hr, -⟩ := hw.of_search hs
      exact (tableOk_updRoom hl (rooms_startFailed hl) hr rfl rfl rfl).mpr hok
  | stopping hs =>
      obtain ⟨l₁, r, l₂, hl, rfl, hr, -⟩ := hw.of_search hs
      exact (tableOk_updRoom hl (rooms_deactivate hl) hr hr rfl rfl).mpr hok
  | deleting hs =>
      obtain ⟨l₁, r, l₂, hl, rfl, hr, -⟩ := hw.of_search hs
      exact (tableOk_updRoom hl (rooms_deactivate hl) hr hr rfl rfl).mpr hok
  | deleted hs =>
      obtain ⟨l₁, r, l₂, hl, rfl, hr, -⟩ := hw.of_search hs
      exact tableOk_removeRoom hok hl hr

end sections

/-! ## The interleavings -/

/-- The code with which a thread enters a locked section: a call, or what is left of one after
the wait for a monitor thread. -/
inductive EntersSection (n : ℕ) : Prog World ℤ → Prop
  | call (op : RoomOp) : EntersSection n (op.code H)
  | stopTail (name : List UInt8) {i : ℕ} (hi : i < n) : EntersSection n (stopTail (some name) i)
  | deleteTail {i : ℕ} (hi : i < n) : EntersSection n (deleteTail H i)

/-- The same for a thread in the call `op`. -/
inductive EntersSectionOf (n : ℕ) : RoomOp → Prog World ℤ → Prop
  | code (op : RoomOp) : EntersSectionOf n op (op.code H)
  | stopTail (name : List UInt8) {i : ℕ} (hi : i < n) :
      EntersSectionOf n (.stop name) (stopTail (some name) i)
  | deleteTail (name : List UInt8) {i : ℕ} (hi : i < n) :
      EntersSectionOf n (.delete name) (deleteTail H i)

/-- A step outside the sections leaves the daemon's state alone. -/
def SameDaemon (w w' : World) : Prop := w'.daemon = w.daemon

lemma SameDaemon.refl (w : World) : SameDaemon w w := rfl

/-- A client thread that is not inside a section. -/
abbrev BetweenSections (n : ℕ) : Prog World ℤ → Prop := Between SameDaemon (EntersSection H n)

/-- The same for a thread in the call `op`. -/
abbrev BetweenSectionsOf (n : ℕ) (op : RoomOp) : Prog World ℤ → Prop :=
  Between SameDaemon (EntersSectionOf H n op)

section between

variable (n : ℕ)

lemma betweenOf_code (op : RoomOp) : BetweenSectionsOf H n op (op.code H) := by
  have h := EntersSectionOf.code (H := H) (n := n) op
  cases op <;> exact Between.enter h

lemma betweenOf_afterControl (op : RoomOp) (name : List UInt8) (enable : Bool) :
    BetweenSectionsOf H n op (afterControl (some name) enable) := by
  rw [afterControl_eq]
  refine .get fun w => ?_
  split
  · exact .modify (fun _ => rfl) (.ret 0)
  · exact .ret 0

lemma betweenOf_join (op : RoomOp) (i : ℕ) {p : Prog World ℤ} (hp : BetweenSectionsOf H n op p) :
    BetweenSectionsOf H n op (do pthreadJoin i; p) :=
  .get fun _ => .await (.modify (fun _ => World.daemon_updThread ..) hp)

variable {H n}

/-- **A section keeps the size of the array and ends between two sections** of the same call. -/
lemma next_of_entersSectionOf {op : RoomOp} {p p' : Prog World ℤ} {w w' : World} {ok : Bool}
    (hw : w.daemon.Sized n) (hp : EntersSectionOf H n op p) (h : p.next ok w = some (w', p')) :
    w'.daemon.Sized n ∧ BetweenSectionsOf H n op p' := by
  have hlt {name : List UInt8} {i : ℕ} (hs : w.daemon.search H name = some i) : i < n := by
    obtain ⟨l₁, r, l₂, hl, rfl, -⟩ := hw.of_search hs
    rw [← hw.length_rooms, hl]
    simp
  cases hp with
  | code =>
      cases firstSection_of_next h with
      | idle => exact ⟨hw, .ret _⟩
      | added ci => exact ⟨hw.addRoom H _ _ ci, .ret _⟩
      | started => exact ⟨hw.startOk _, betweenOf_afterControl H n _ _ true⟩
      | startFailed => exact ⟨hw.startFailed _, .ret _⟩
      | stopping hs =>
          exact ⟨hw.deactivate _, betweenOf_join H n _ _ (.enter (.stopTail _ (hlt hs)))⟩
      | deleting hs =>
          exact ⟨hw.deactivate _, betweenOf_join H n _ _ (.enter (.deleteTail _ (hlt hs)))⟩
      | deleted => exact ⟨hw.removeRoom H _, .ret _⟩
  | stopTail name hi =>
      rw [stopTail_next, Option.some.injEq] at h
      cases h
      exact ⟨hw.markCreated _, betweenOf_afterControl H n _ name false⟩
  | deleteTail name hi =>
      rw [deleteTail_next, Option.some.injEq] at h
      cases h
      exact ⟨hw.removeRoom H _, .ret _⟩

/-- The sections of one call are sections of the clients. -/
lemma EntersSectionOf.entersSection {op : RoomOp} {p : Prog World ℤ}
    (hp : EntersSectionOf H n op p) : EntersSection H n p := by
  cases hp with
  | code => exact .call op
  | stopTail name hi => exact .stopTail name hi
  | deleteTail name hi => exact .deleteTail hi

/-- Every section of the clients is one of a call. -/
lemma EntersSection.exists_op {p : Prog World ℤ} (hp : EntersSection H n p) :
    ∃ op, EntersSectionOf H n op p := by
  cases hp with
  | call op => exact ⟨op, .code op⟩
  | stopTail name hi => exact ⟨_, .stopTail name hi⟩
  | deleteTail hi => exact ⟨_, .deleteTail [] hi⟩

lemma between_code (op : RoomOp) : BetweenSections H n (op.code H) :=
  (betweenOf_code H n op).mono fun _ => EntersSectionOf.entersSection

/-- A section keeps the size of the array and ends between two sections. -/
lemma next_of_entersSection {p p' : Prog World ℤ} {w w' : World} {ok : Bool}
    (hw : w.daemon.Sized n) (hp : EntersSection H n p) (h : p.next ok w = some (w', p')) :
    w'.daemon.Sized n ∧ BetweenSections H n p' := by
  obtain ⟨op, hop⟩ := hp.exists_op
  obtain ⟨hsized, hbetween⟩ := next_of_entersSectionOf hw hop h
  exact ⟨hsized, hbetween.mono fun _ => EntersSectionOf.entersSection⟩

end between

/-- The client threads of the daemon. -/
abbrev Clients := Pool World ℤ

/-- The client threads, calling any of the four functions at any time, beside the monitor
threads. -/
def clients : Machine Clients (Sched RoomOp MonitorEvent) Unit :=
  Pool.machine (RoomOp.code H) monitorStep

/-- The daemon before the first call: `n` slots not in use, all client threads free. -/
def Clients.initial (config : Config) (n : ℕ) : Clients :=
  ⟨World.initial H config n, fun _ => .ret 0⟩

/-- The array has its size and no client thread is inside a section. -/
structure Clients.Wf (n : ℕ) (s : Clients) : Prop where
  sized : s.world.daemon.Sized n
  between : s.AllBetween SameDaemon (EntersSection H n)

/-- A thread enters the second section of `stop_room` or `delete_room` and the slot it has kept a
pointer to is not in use. -/
def Stale (s : Clients) (l : Sched RoomOp MonitorEvent) : Prop :=
  ∃ t ok i r, l = .go t ok ∧ s.world.daemon.rooms[i]? = some r ∧ r.state = .inactive ∧
    ((∃ name, s.prog t = stopTail (some name) i) ∨ s.prog t = deleteTail H i)

section steps

variable {H} {n : ℕ} {s : Clients} (l : Sched RoomOp MonitorEvent)

/-- The initial state is well formed. -/
lemma wf_initial (config : Config) : (Clients.initial H config n).Wf H n where
  sized := ⟨List.length_replicate, rfl⟩
  between := fun _ => .ret 0

/-- The initial table is right. -/
lemma tableOk_initial (config : Config) :
    TableOk H (Clients.initial H config n).world.daemon where
  roomCount_eq := by simp [Clients.initial, World.initial, List.countP_replicate]
  names_ne := List.pairwise_of_forall_mem_list fun r hr _ _ hu _ => by
    rw [List.eq_of_mem_replicate hr, used_cleared] at hu
    exact absurd hu (by decide)

/-- **A step keeps the client threads well formed.** -/
theorem wf_step (hs : s.Wf H n) : ((clients H).step s l).1.Wf H n where
  between := Pool.step_between SameDaemon.refl (RoomOp.code H) monitorStep
    (J := fun w => w.daemon.Sized n) between_code
    (fun _ _ _ _ _ hw hp h => (next_of_entersSection hw hp h).2) hs.sized hs.between l
  sized := by
    rcases Pool.step_cases SameDaemon.refl (RoomOp.code H) monitorStep
      hs.between l with ⟨e, -, hw⟩ | hw | ⟨t, ok, w', p', -, hp, hnext, hw⟩
    · have hq := (monitorStep_quiet e s.world).sized hs.sized
      rwa [← hw] at hq
    · exact hw.symm ▸ hs.sized
    · exact hw.symm ▸ (next_of_entersSection hs.sized hp hnext).1

/-- A stale step breaks the table. -/
lemma not_tableOk_of_stale (hok : TableOk H s.world.daemon) (hst : Stale H s l) :
    ¬ TableOk H ((clients H).step s l).1.world.daemon := by
  obtain ⟨t, ok, i, r, rfl, hi, hr, hprog⟩ := hst
  obtain ⟨l₁, l₂, hl, rfl⟩ := Slots.exists_split_of_getElem? hi
  have hu : r.used = false := r.used_eq_false_iff.mpr hr
  rcases hprog with ⟨name, hp⟩ | hp
  · have hnext : (s.prog t).next ok s.world = _ := hp ▸ stopTail_next ok s.world name l₁.length
    have hstep := Pool.world_step_go (RoomOp.code H) monitorStep hnext
    exact hstep.symm ▸ not_tableOk_markCreated hok hl hu
  · have hnext : (s.prog t).next ok s.world = _ := hp ▸ deleteTail_next H ok s.world l₁.length
    have hstep := Pool.world_step_go (RoomOp.code H) monitorStep hnext
    exact hstep.symm ▸ not_tableOk_removeRoom hok hl hu

/-- Every other step keeps it right. -/
lemma tableOk_of_not_stale (hs : s.Wf H n) (hok : TableOk H s.world.daemon)
    (hst : ¬ Stale H s l) : TableOk H ((clients H).step s l).1.world.daemon := by
  rcases Pool.step_cases SameDaemon.refl (RoomOp.code H) monitorStep
    hs.between l with ⟨e, -, hw⟩ | hw | ⟨t, ok, w', p', rfl, hp, hnext, hw⟩
  · have hq := monitorStep_quiet e s.world
    have hnames : (monitorStep e s.world).daemon.names H = s.world.daemon.names H :=
      congrArg (List.map Prod.fst) (hq.entries_eq H)
    exact hw.symm ▸ (tableOk_congr H hnames hq.roomCount_eq).mpr hok
  · exact hw.symm ▸ hok
  · change TableOk H ((Pool.step (RoomOp.code H) monitorStep s (.go t ok)).world.daemon)
    rw [hw]
    -- a slot that a second section still points to is in use, or the step would be stale
    have hsplit {i : ℕ} (hi : i < n) (hprog : (∃ name, s.prog t = stopTail (some name) i) ∨
        s.prog t = deleteTail H i) :
        ∃ l₁ r l₂, s.world.daemon.rooms = l₁ ++ r :: l₂ ∧ l₁.length = i ∧ r.used = true := by
      rw [← hs.sized.length_rooms] at hi
      have hr := List.getElem?_eq_getElem hi
      obtain ⟨l₁, l₂, hl, hlen⟩ := Slots.exists_split_of_getElem? hr
      refine ⟨l₁, _, l₂, hl, hlen, (RoomInfo.used_iff _).mpr fun hin => ?_⟩
      exact hst ⟨t, ok, i, _, rfl, hr, hin, hprog⟩
    generalize hprog : s.prog t = p at hp hnext hsplit
    cases hp with
    | call op => exact tableOk_code_next hs.sized hok hnext
    | stopTail name hi =>
        obtain ⟨l₁, r, l₂, hl, rfl, hr⟩ := hsplit hi (Or.inl ⟨name, rfl⟩)
        rw [stopTail_next, Option.some.injEq] at hnext
        cases hnext
        exact (tableOk_updRoom hl (rooms_markCreated hl) hr rfl rfl rfl).mpr hok
    | deleteTail hi =>
        obtain ⟨l₁, r, l₂, hl, rfl, hr⟩ := hsplit hi (Or.inr rfl)
        rw [deleteTail_next, Option.some.injEq] at hnext
        cases hnext
        exact tableOk_removeRoom hok hl hr

end steps

/-! ## All schedules -/

/-- **The table under any schedule.** For any number of slots and of clients and every schedule
of their sections, the count and the names of the table are right in every state of the run if
and only if no thread ever enters the second section of `stop_room` or `delete_room` with a
pointer to a slot that is not in use any more. -/
theorem states_tableOk_iff (config : Config) (n : ℕ) (schedule : List (Sched RoomOp MonitorEvent)) :
    (∀ s ∈ Clients.initial H config n :: (clients H).states (.initial H config n) schedule,
        TableOk H s.world.daemon) ↔
      ∀ x ∈ (clients H).trace (.initial H config n) schedule, ¬ Stale H x.1 x.2 := by
  rw [List.forall_mem_cons, and_iff_right (tableOk_initial config)]
  refine (clients H).states_iff_trace (I := Clients.Wf H n) (C := fun s l => ¬ Stale H s l)
    (fun s l hs _ => wf_step l hs) (fun s l hs hok => ?_) (wf_initial config)
    (tableOk_initial config) schedule
  exact ⟨fun h hst => not_tableOk_of_stale l hok hst h, tableOk_of_not_stale l hs hok⟩

/-- Two clients delete the same running room: both find it, wait for its monitor thread, and
clear its slot. -/
def doubleDelete : List (Sched RoomOp MonitorEvent) :=
  let room := bytes "cpu"
  [.call 0 (.create room 5), .go 0 true, .call 0 (.start room), .go 0 true, .go 0 true, .go 0 true,
   .call 1 (.delete room), .go 1 true, .call 2 (.delete room), .go 2 true, .env (.leave 0),
   .go 1 true, .go 1 true, .go 1 true, .go 1 true, .go 2 true, .go 2 true, .go 2 true, .go 2 true]

/-- After it, no slot is in use and `room_count` is -1. -/
theorem doubleDelete_not_tableOk :
    ¬ ∀ s ∈ Clients.initial .plain (.zero .plain) 10 ::
        (clients .plain).states (.initial .plain (.zero .plain) 10) doubleDelete,
      TableOk .plain s.world.daemon := by
  intro h
  have hlast := h _ ((clients .plain).run_mem_states _ _)
  have hcount := hlast.roomCount_eq
  revert hcount
  decide

end ProcessMonitor.Integration
