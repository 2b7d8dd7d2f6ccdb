import ProcessMonitor.Integration.Concurrent
import ProcessMonitor.Integration.LockDiscipline
import ProcessMonitor.Integration.MonitorThreads
import ProcessMonitor.Lib.Protected

/-!
# The daemon under the mutex that `main` initialises

`main` initialises `rooms_mutex` with default attributes, so that a thread which takes it twice
waits for itself. Here any number of handler threads run `process_command` under such a mutex, on
any commands, beside the clock, the signals and `cleanup_on_exit`.

* `only_created`: no room is ever started in any run, since `start_room` does not get past
  `find_room`, and no command that calls `find_room` is ever answered.
* `first_find_freezes`: from the moment such a command holds the mutex, the table stays as it is and
  no command that takes the mutex is answered any more, nor does `cleanup_on_exit` get past it.
-/

namespace ProcessMonitor.Integration

open CString Kernel Prog Signals Protected

variable (H : Header)

/-! ## The threads -/

/-- The loop of `cleanup_on_exit` over the rooms, from the slot `i` on. -/
def stopMonitors : ℕ → ℕ → Prog World Unit
  | _, 0 => pure ()
  | i, slots + 1 => do
      let w ← read
      if w.roomActive i then
        update (World.deactivate i)
        pthreadJoin i
      stopMonitors (i + 1) slots

/-- Source: `main_daemon.c`, `cleanup_on_exit`, up to the rooms -/
def cleanupOnExit : Prog World Unit := do
  update fun w => { w with daemon := { w.daemon with running := false } }
  acquire
  let w ← read
  stopMonitors 0 w.daemon.config.maxRooms.toNat
  release

/-- What a thread of the daemon does: a handler thread processes a command, the main thread exits.
The clock and a signal are calls of one step. -/
inductive DaemonCall
  | process (command : Command)
  | cleanup
  | signal
  | tick (now : ℤ)

/-- The code of a call; `client_handler_thread` does not look at what `process_command` returns. -/
def DaemonCall.code : DaemonCall → Prog World Unit
  | .process command => do let _ ← processCommand H command
  | .cleanup => cleanupOnExit
  | .signal => update fun w => { w with daemon := { w.daemon with running := false } }
  | .tick now => update fun w => { w with now := now }

/-- The threads of the daemon. -/
abbrev DaemonThreads := Threads World DaemonCall Empty

/-- The daemon before the first connection. -/
def DaemonThreads.initial (config : Config) (n : ℕ) : DaemonThreads :=
  .idle (World.initial H config n)

/-- The daemon under a schedule. -/
def daemonThreads : Machine DaemonThreads (Event DaemonCall Empty) Unit :=
  threads (DaemonCall.code H)

/-- The thread has processed the command and goes on to the reply. -/
def Answers (s : DaemonThreads) (t : ℕ) (command : Command) : Prop :=
  ∃ a, s.stack t = [⟨.inl (.process command), .ret a⟩]

/-- The thread is in `process_command` on this command. -/
def Processes (s : DaemonThreads) (t : ℕ) (command : Command) : Prop :=
  ∃ p, s.stack t = [⟨.inl (.process command), p⟩]

/-- The calls that take `rooms_mutex`. -/
def DaemonCall.takesMutex : DaemonCall → Bool
  | .process command => command.type.takesMutex
  | .cleanup => true
  | .signal | .tick _ => false

/-! ## What holds in every state -/

/-- What `rooms_mutex` protects, and what a started room would change besides. -/
structure RoomsPart where
  rooms : List RoomInfo
  roomCount : ℤ
  config : Config
  roomsCreated : ℕ
  roomsDeleted : ℕ
  threads : List MonitorThread
  kernel : ProcMonitor

/-- This part of the state. -/
def World.roomsPart (w : World) : RoomsPart :=
  ⟨w.daemon.rooms, w.daemon.roomCount, w.daemon.config, w.stats.roomsCreated, w.stats.roomsDeleted,
    w.threads, w.kernel⟩

/-- Rooms have been created and that is all: none runs or has an error, there is no monitor thread,
and the kernel module is as loaded. -/
structure OnlyCreated (n : ℕ) (w : World) : Prop where
  sized : w.daemon.Sized n
  tableOk : TableOk H w.daemon
  state : ∀ r ∈ w.daemon.rooms, r.state = .inactive ∨ r.state = .created
  active : ∀ r ∈ w.daemon.rooms, r.active = false
  created_eq : (w.stats.roomsCreated : ℤ) = w.daemon.roomCount
  deleted_eq : w.stats.roomsDeleted = 0
  threads_eq : w.threads = []
  kernel_eq : w.kernel = ProcMonitor.loaded

/-- Which calls may come to their end. -/
def DaemonCall.returns : DaemonCall → Prop
  | .process command => command.type.callsFindRoom = false
  | _ => True

variable {H} {n : ℕ}

/-- This depends on the part alone. -/
lemma OnlyCreated.of_part_eq {w w' : World} (h : OnlyCreated H n w)
    (hpart : w'.roomsPart = w.roomsPart) : OnlyCreated H n w' := by
  unfold World.roomsPart at hpart
  simp only [RoomsPart.mk.injEq] at hpart
  obtain ⟨hrooms, hcount, hconfig, hcreated, hdeleted, hthreads, hkernel⟩ := hpart
  refine ⟨⟨?_, ?_⟩, ⟨?_, ?_⟩, ?_, ?_, ?_, ?_, ?_, ?_⟩
  · rw [hrooms]
    exact h.sized.length_rooms
  · rw [hconfig]
    exact h.sized.maxRooms_eq
  · rw [hcount, hrooms]
    exact h.tableOk.roomCount_eq
  · rw [hrooms]
    exact h.tableOk.names_ne
  · rw [hrooms]
    exact h.state
  · rw [hrooms]
    exact h.active
  · rw [hcreated, hcount]
    exact h.created_eq
  · rw [hdeleted, h.deleted_eq]
  · rw [hthreads, h.threads_eq]
  · rw [hkernel, h.kernel_eq]

/-- A new room keeps it. -/
lemma OnlyCreated.addRoom {w : World} (h : OnlyCreated H n w) {name : List UInt8} {i : ℕ} (ci : ℤ)
    (hs : w.daemon.search H name = none) (hf : w.daemon.freeSlot = some i) :
    OnlyCreated H n (w.addRoom H name ci i) := by
  obtain ⟨l₁, r, l₂, hl, rfl, -⟩ := h.sized.of_freeSlot hf
  have hstate := h.state
  have hactive := h.active
  rw [hl] at hstate hactive
  simp only [List.forall_mem_append, List.forall_mem_cons] at hstate hactive
  refine ⟨h.sized.addRoom H _ name ci, tableOk_addRoom h.sized h.tableOk ci hs hf, ?_, ?_, ?_,
    h.deleted_eq, h.threads_eq, h.kernel_eq⟩
  · rw [rooms_addRoom hl name ci]
    simp only [List.forall_mem_append, List.forall_mem_cons]
    exact ⟨hstate.1, Or.inr rfl, hstate.2.2⟩
  · rw [rooms_addRoom hl name ci]
    simp only [List.forall_mem_append, List.forall_mem_cons]
    exact ⟨hactive.1, rfl, hactive.2.2⟩
  · change ((w.stats.roomsCreated + 1 : ℕ) : ℤ) = w.daemon.roomCount + 1
    rw [Nat.cast_succ, h.created_eq]

/-- Before the first command. -/
lemma onlyCreated_initial (config : Config) : OnlyCreated H n (World.initial H config n) where
  sized := (wf_initial (H := H) config).sized
  tableOk := tableOk_initial config
  state := by
    intro r hr
    rw [List.eq_of_mem_replicate hr]
    exact Or.inl rfl
  active := by
    intro r hr
    rw [List.eq_of_mem_replicate hr]
    rfl
  created_eq := rfl
  deleted_eq := rfl
  threads_eq := rfl
  kernel_eq := rfl

/-! ## The calls keep it -/

/-- The search of `create_room` depends on the part alone. -/
lemma search_of_part_eq (H : Header) {w w' : World} (h : w'.roomsPart = w.roomsPart)
    (name : List UInt8) :
    w'.daemon.search H name = w.daemon.search H name ∧
      w'.daemon.freeSlot = w.daemon.freeSlot := by
  unfold World.roomsPart at h
  simp only [RoomsPart.mk.injEq] at h
  obtain ⟨hrooms, -, hconfig, -⟩ := h
  unfold DaemonState.search DaemonState.freeSlot DaemonState.slots
  rw [hrooms, hconfig]
  exact ⟨rfl, rfl⟩

/-- A function that takes the mutex and then calls `find_room` does not get further. -/
lemma keeps_acquire_findRoom {α : Type} (name : List UInt8) (f : Option ℕ → Prog World α)
    (Q : α → Option RoomsPart → Prop) :
    Keeps (OnlyCreated H n) World.roomsPart
      (do acquire; let room ← findRoom H (some name); f room) none Q := by
  intro w _
  trivial

/-- `create_room`. -/
lemma keeps_createRoom (name : List UInt8) (ci : ℤ) :
    Keeps (OnlyCreated H n) World.roomsPart (createRoom H (some name) ci) none
      fun _ h => h = none := by
  unfold createRoom
  simp only [acquire_bind, read_bind]
  intro w₀ _ w hw hpart
  cases hs : w.daemon.search H name with
  | some i =>
      simp only [hs]
      rfl
  | none =>
      cases hf : w.daemon.freeSlot with
      | none =>
          simp only [hs, hf]
          rfl
      | some i =>
          simp only [hs, hf]
          intro w' hw' hpart'
          obtain ⟨hsearch, hfree⟩ := search_of_part_eq H (hpart'.trans hpart.symm) name
          exact ⟨hw'.addRoom ci (hsearch.trans hs) (hfree.trans hf), rfl⟩

/-- The `switch` of `process_command`. -/
lemma keeps_dispatch (command : Command) (now : ℤ) :
    Keeps (OnlyCreated H n) World.roomsPart (dispatch H command now) none
      fun _ h => h = none ∧ command.type.callsFindRoom = false := by
  unfold dispatch
  cases htype : command.type with
  | createRoom =>
      refine Keeps.bind ((keeps_createRoom command.roomName command.param1).mono ?_)
      intro a h hh
      exact ⟨hh, rfl⟩
  | listRooms =>
      intro w₀ _ w _ _
      exact ⟨rfl, rfl⟩
  | status =>
      intro w _
      exact ⟨rfl, rfl⟩
  | other => exact ⟨rfl, rfl⟩
  | showRoom => exact keeps_acquire_findRoom command.roomName _ _
  | _ => exact Keeps.bind (keeps_acquire_findRoom command.roomName _ _)

/-- The loop of `cleanup_on_exit` finds no room to stop. -/
lemma keeps_stopMonitors (slots i : ℕ) (x : RoomsPart) :
    Keeps (OnlyCreated H n) World.roomsPart (stopMonitors i slots) (some x)
      fun _ h => h = some x := by
  induction slots generalizing i with
  | zero => rfl
  | succ slots ih =>
      intro w hw _
      have hidle : w.roomActive i = false := by
        unfold World.roomActive
        cases hr : w.daemon.rooms[i]? with
        | none => rfl
        | some r => exact hw.active r (List.mem_of_getElem? hr)
      refine Keeps.bind ?_
      change Keeps _ _ (if w.roomActive i = true then _ else stopMonitors (i + 1) slots) _ _
      rw [hidle]
      exact ih (i + 1)

/-- An assignment outside the part. -/
lemma keeps_update {f : World → World} {Q : Unit → Option RoomsPart → Prop}
    (hf : ∀ w, (f w).roomsPart = w.roomsPart) (hQ : Q () none) :
    Keeps (OnlyCreated H n) World.roomsPart (update f) none Q :=
  ⟨fun w hw => ⟨hw.of_part_eq (hf w), hf w⟩, hQ⟩

/-- **All calls keep the invariant**, and those that call `find_room` do not return. -/
lemma keeps_code (c : DaemonCall) :
    Keeps (OnlyCreated H n) World.roomsPart (c.code H) none (Done c.returns) := by
  unfold DaemonCall.code
  cases c with
  | process command =>
      refine Keeps.bind ?_
      unfold processCommand
      simp only [read_bind]
      intro w _
      refine Keeps.bind ((keeps_dispatch command w.now).mono ?_)
      rintro response h ⟨rfl, hfind⟩
      exact Keeps.bind (keeps_update (fun _ => rfl) ⟨rfl, hfind⟩)
  | cleanup =>
      refine Keeps.bind (keeps_update (fun _ => rfl) ?_)
      simp only [acquire_bind, read_bind]
      intro w₀ _ w _ _
      refine Keeps.bind ((keeps_stopMonitors _ 0 _).mono ?_)
      rintro - h rfl
      exact ⟨rfl, trivial⟩
  | signal => exact keeps_update (fun _ => rfl) ⟨rfl, trivial⟩
  | tick now => exact keeps_update (fun _ => rfl) ⟨rfl, trivial⟩

/-- **No room is ever started.** Whatever commands the handler threads are given and however they,
the clock, the signals and `cleanup_on_exit` interleave, in every state no room is in another state
than `ROOM_STATE_CREATED`, none is marked active, there is no monitor thread and the kernel module
is as loaded; `room_count` is the number of rooms and of those ever created, whose names differ.
And no start, stop, delete or show command is ever answered. -/
theorem only_created (config : Config) (n : ℕ) (events : List (Event DaemonCall Empty)) :
    ∀ s ∈ DaemonThreads.initial H config n ::
        (daemonThreads H).states (DaemonThreads.initial H config n) events,
      OnlyCreated H n s.world ∧
        ∀ t command, command.type.callsFindRoom = true → ¬ Answers s t command := by
  intro s hs
  have hsound := sound_run keeps_code (onlyCreated_initial (H := H) config) events s hs
  refine ⟨hsound.state, ?_⟩
  rintro t command hfind ⟨a, hstack⟩
  have hreturns : command.type.callsFindRoom = false := hsound.returns_of_ret hstack
  rw [hfind] at hreturns
  cases hreturns

/-- A room has been created, and a start command for it has taken the mutex. -/
def startTaken : DaemonThreads :=
  ((daemonThreads .plain).run (.initial .plain (.zero .plain) 10)
    (.call 0 (.process ⟨.createRoom, bytes "cpu", 5, 0, 0⟩) :: List.replicate 7 (.step 0 true) ++
      [.call 0 (.process ⟨.startRoom, bytes "cpu", 0, 0, 0⟩), .step 0 true, .step 0 true])).1

/-- The room is there, and has not been started. -/
theorem only_created_startTaken :
    startTaken.world.daemon.roomCount = 1 ∧ OnlyCreated .plain 10 startTaken.world ∧
      ∀ t command, command.type.callsFindRoom = true → ¬ Answers startTaken t command :=
  ⟨rfl, only_created (.zero .plain) 10 _ _ (Machine.run_mem_states _ _ _)⟩

/-! ## After the first of these commands -/

/-- The calls that take the mutex do so before they end. -/
lemma asksFirst_code {c : DaemonCall} (h : c.takesMutex = true) : AsksFirst (c.code H) := by
  cases c with
  | process command =>
      obtain ⟨type, name, param1, param2, timestamp⟩ := command
      cases type with
      | status => cases h
      | other => cases h
      | _ => exact fun _ => trivial
  | cleanup => trivial
  | signal => cases h
  | tick now => cases h

/-- Those that call `find_room` ask for it twice. -/
lemma asksTwice_code {command : Command} (h : command.type.callsFindRoom = true) :
    AsksTwice (DaemonCall.code H (.process command)) := by
  obtain ⟨type, name, param1, param2, timestamp⟩ := command
  cases type with
  | startRoom => exact fun _ => trivial
  | stopRoom => exact fun _ => trivial
  | deleteRoom => exact fun _ => trivial
  | showRoom => exact fun _ => trivial
  | _ => cases h

/-- **The first of these commands freezes the table.** In any run, from a state on in which a
handler thread holds `rooms_mutex` in a start, stop, delete or show command: in all later states the
rooms, their count and the monitor threads are what they were, and the thread is in that command and
holds the mutex. And no thread that is behind the mutex in one of these states, idle or in a call
that has not taken it, ever comes to the end of a call that takes it (of no create or list command,
nor of `cleanup_on_exit`). -/
theorem first_find_freezes (config : Config) (n : ℕ) (events later : List (Event DaemonCall Empty))
    {s : DaemonThreads} (hs : s ∈ DaemonThreads.initial H config n ::
      (daemonThreads H).states (DaemonThreads.initial H config n) events)
    {t : ℕ} {command : Command} (hfind : command.type.callsFindRoom = true)
    (hin : Processes s t command) (hholds : s.owner = some t) :
    ∀ s' ∈ s :: (daemonThreads H).states s later,
      s'.world.roomsPart = s.world.roomsPart ∧ s'.owner = some t ∧ Processes s' t command ∧
        ∀ u, Behind s' u → ∀ after, ∀ s'' ∈ (daemonThreads H).states s' after,
          ∀ c a, c.takesMutex = true → s''.stack u ≠ [⟨.inl c, .ret a⟩] := by
  obtain ⟨p, hstack⟩ := hin
  have hinit := onlyCreated_initial (H := H) (n := n) config
  have hsound := sound_run keeps_code hinit events s hs
  have hlocked := selfLocked_of_asksTwice keeps_code hinit events s hs t _ p hstack
    (asksTwice_code hfind) hholds
  intro s' hs'
  obtain ⟨⟨hsound', hlocked'⟩, hstack', hfrozen⟩ :=
    frozen_run keeps_code hsound hlocked later s' hs'
  refine ⟨hfrozen.part_eq, hlocked'.owner, ⟨p, hstack'.trans hstack⟩, ?_⟩
  intro u hu after s'' hs'' c a htakes hret
  obtain ⟨-, -, hfrozen'⟩ := frozen_run keeps_code hsound' hlocked' after s'' (.tail _ hs'')
  exact hfrozen'.behind u hu c _ hret (asksFirst_code htakes)

/-- Another thread is then asked for the status, and after that given a create command. -/
def createBehind : List (Event DaemonCall Empty) :=
  [.call 1 (.process ⟨.status, [], 0, 0, 0⟩), .step 1 true, .step 1 true, .step 1 true,
    .step 1 true, .call 1 (.process ⟨.createRoom, bytes "mem", 5, 0, 0⟩), .step 1 true,
    .step 1 true]

/-- Where that ends. -/
def createWaits : DaemonThreads := ((daemonThreads .plain).run startTaken createBehind).1

/-- The table is as it was and the start command holds the mutex; the create command is not
answered, whatever comes. -/
theorem first_find_freezes_createWaits :
    createWaits.world.roomsPart = startTaken.world.roomsPart ∧ createWaits.owner = some 0 ∧
      Processes createWaits 0 ⟨.startRoom, bytes "cpu", 0, 0, 0⟩ ∧
      ∀ u, Behind createWaits u → ∀ after, ∀ s'' ∈ (daemonThreads .plain).states createWaits after,
        ∀ c a, c.takesMutex = true → s''.stack u ≠ [⟨.inl c, .ret a⟩] := by
  have hlast : createWaits ∈ startTaken :: (daemonThreads .plain).states startTaken createBehind :=
    Machine.run_mem_states _ _ _
  exact first_find_freezes (.zero .plain) 10 _ createBehind (Machine.run_mem_states _ _ _)
    (by decide) ⟨_, rfl⟩ rfl createWaits hlast

end ProcessMonitor.Integration
