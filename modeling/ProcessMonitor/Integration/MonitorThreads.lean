import ProcessMonitor.Integration.Sequential

/-!
# Active flags, thread handles and joins

Here `pthread_create` may fail and a reading of the kernel's data may return anything, so that a
monitor thread may give up and leave its room in the state `ROOM_STATE_ERROR`. The calls come one
after another, `rooms_mutex` being taken as recursive, and a wait for a monitor thread ends only
when the thread has returned.

`ThreadsOk` is what the flag `active`, the handle `monitor_thread` and the joins should satisfy
between two calls. `start_room` leaves the flag set when `pthread_create` fails, and a room in the
state `ROOM_STATE_ERROR` has a thread that nobody has joined, which `start_room`, whether its
`pthread_create` succeeds or not, and `delete_room` forget. `states_threadsOk_iff` says that these
are the only ways to break it.
-/

namespace ProcessMonitor.Integration

open CString Prog

variable (H : Header)

/-! ## Monitor threads whose readings may fail -/

/-- What happens beside the calls: the thread `t` ends a reading, with the result of
`ipc_read_kernel_data`, or leaves its loop, or time passes. -/
inductive ReadEvent
  | iterate (t : ℕ) (result : ℤ) (data : MonitorData)
  | leave (t : ℕ)
  | tick (now : ℤ)

/-- The rest of an iteration of the thread `t` of the slot `i`, after the reading. -/
def World.iterate (t i : ℕ) (result : ℤ) (data : MonitorData) (w : World) : World :=
  if result = 0 then w.collect i data else w.readFailed t i

/-- A step of a monitor thread or of the clock.
Source: `main_daemon.c`, `room_monitor_thread` -/
def readStep (e : ReadEvent) (w : World) : World :=
  match e with
  | .iterate t result data =>
      match w.threads[t]? with
      | some th => if th.ended then w else w.iterate t th.slot result data
      | none => w
  | .leave t => monitorStep (.leave t) w
  | .tick now => monitorStep (.tick now) w

/-- Any number of such steps. -/
def readSteps (es : List ReadEvent) (w : World) : World := es.foldl (fun w e => readStep e w) w

/-! ## Calls one after another -/

/-- A call, with the outcome of `pthread_create` and with what the monitor threads do while it
waits, or a step of theirs between two calls. -/
inductive ThreadEvent
  | call (op : RoomOp) (ok : Bool) (waiting : List ReadEvent)
  | monitor (e : ReadEvent)

/-- The daemon under one caller. A call whose wait would not end is no event. -/
def threaded : Machine World ThreadEvent (Option ℤ) where
  step w
    | .call op ok waiting =>
        match (op.code H).runAwait ok (readSteps waiting) w with
        | some (w', result) => (w', some result)
        | none => (w, none)
    | .monitor e => (readStep e w, none)

/-! ## Joins -/

/-- The handle names a monitor thread that has been created and not joined. -/
def World.Joinable (w : World) (h : Option ℕ) : Prop :=
  ∃ (t : ℕ) (th : MonitorThread), h = some t ∧ w.threads[t]? = some th ∧ th.joined = false

/-- The slot owns a monitor thread that has been created and not joined. -/
def World.Owns (w : World) (i : ℕ) : Prop :=
  ∃ (t : ℕ) (th : MonitorThread), w.threads[t]? = some th ∧ th.slot = i ∧ th.joined = false

/-- The calls of `pthread_join` in a call of a room function: the state and the handle. -/
def RoomOp.joins (op : RoomOp) (w : World) : List (World × Option ℕ) :=
  match op with
  | .stop name | .delete name =>
      match w.daemon.search H name with
      | some i =>
          if w.roomState i = .running then [(w.deactivate i, (w.deactivate i).roomThread i)] else []
      | none => []
  | _ => []

/-- The flag `active` of the slot `i`. -/
def World.roomActive (w : World) (i : ℕ) : Bool :=
  match w.daemon.rooms[i]? with
  | some r => r.active
  | none => false

/-- The state after the `pthread_join` on the handle in the slot `i`, with `waiting` for what the
monitor threads do meanwhile. -/
def World.afterJoin (i : ℕ) (waiting : List ReadEvent) (w : World) : World :=
  (readSteps waiting w).updThread (w.roomThread i) fun t => { t with joined := true }

/-- The loop over the rooms in `cleanup_on_exit`, with the states and the handles of its calls of
`pthread_join`. -/
def World.cleanupRooms (waiting : ℕ → List ReadEvent) :
    List ℕ → World → World × List (World × Option ℕ)
  | [], w => (w, [])
  | i :: is, w =>
      if w.roomActive i then
        let w' := w.deactivate i
        let rest := cleanupRooms waiting is (w'.afterJoin i (waiting i))
        (rest.1, (w', w'.roomThread i) :: rest.2)
      else cleanupRooms waiting is w

/-- The function up to the end of this loop; it goes on to close the sockets.
Source: `main_daemon.c`, `cleanup_on_exit` -/
def World.cleanupOnExit (waiting : ℕ → List ReadEvent) (w : World) :
    World × List (World × Option ℕ) :=
  ({ w with daemon := { w.daemon with running := false } } : World).cleanupRooms waiting
    (List.range w.daemon.config.maxRooms.toNat)

/-! ## What should hold between two calls -/

/-- The flags, the handles and the threads are in step. -/
structure ThreadsOk (w : World) : Prop where
  /-- `active` is set exactly for the slots that own a thread. -/
  active_iff : ∀ (i : ℕ) (r : RoomInfo), w.daemon.rooms[i]? = some r →
    (r.active = true ↔ w.Owns i)
  /-- No handle has been overwritten or cleared while its thread was not joined. -/
  named : ∀ (t : ℕ) (th : MonitorThread), w.threads[t]? = some th → th.joined = false →
    w.roomThread th.slot = some t
  /-- What the next call joins has been created and not joined. -/
  joins : ∀ op : RoomOp, ∀ x ∈ op.joins H w, x.1.Joinable x.2
  /-- So has what `cleanup_on_exit` joins. -/
  cleanup : ∀ waiting, ∀ x ∈ (w.cleanupOnExit waiting).2, x.1.Joinable x.2

/-- A `start_room` that finds its room in `ROOM_STATE_CREATED` has its `pthread_create` succeed,
and no `start_room` or `delete_room` finds its room in `ROOM_STATE_ERROR`. -/
def Orderly (w : World) : ThreadEvent → Prop
  | .call (.start name) ok _ => ∀ i, w.daemon.search H name = some i →
      (w.roomState i = .created → ok = true) ∧ w.roomState i ≠ .error
  | .call (.delete name) _ _ => ∀ i, w.daemon.search H name = some i → w.roomState i ≠ .error
  | _ => True

/-! ## What a monitor thread changes -/

/-- What the threads' bookkeeping depends on in a slot. -/
def RoomInfo.handle (r : RoomInfo) : Bool × Option ℕ := (r.active, r.monitorThread)

/-- What it depends on in a thread. -/
def MonitorThread.owner (th : MonitorThread) : ℕ × Bool := (th.slot, th.joined)

/-- The step from `w` to `w'` leaves flags, handles, owners and joins alone; it gives a slot the
state `ROOM_STATE_ERROR` only if a thread of the slot is running, and no thread runs again. -/
structure Beside (w w' : World) : Prop where
  handles_eq : w'.daemon.rooms.map RoomInfo.handle = w.daemon.rooms.map RoomInfo.handle
  owners_eq : w'.threads.map MonitorThread.owner = w.threads.map MonitorThread.owner
  config_eq : w'.daemon.config = w.daemon.config
  state : ∀ (i : ℕ) (r r' : RoomInfo), w.daemon.rooms[i]? = some r →
    w'.daemon.rooms[i]? = some r' → r'.state = r.state ∨ r'.state = .error ∧
      ∃ (t : ℕ) (th : MonitorThread), w.threads[t]? = some th ∧ th.slot = i ∧ th.ended = false
  ended : ∀ (t : ℕ) (th th' : MonitorThread), w.threads[t]? = some th →
    w'.threads[t]? = some th' → th.ended = true → th'.ended = true

namespace Beside

variable {w w' w'' : World}

lemma refl (w : World) : Beside w w where
  handles_eq := rfl
  owners_eq := rfl
  config_eq := rfl
  state i r r' hr hr' := by
    rw [hr, Option.some.injEq] at hr'
    exact Or.inl (congrArg RoomInfo.state hr'.symm)
  ended t th th' h h' he := by
    rw [h, Option.some.injEq] at h'
    exact h' ▸ he

section beside

variable (h : Beside w w')
include h

/-- A slot after the step was there before, with the same flag and handle. -/
lemma exists_room {i : ℕ} {r' : RoomInfo} (hr' : w'.daemon.rooms[i]? = some r') :
    ∃ r, w.daemon.rooms[i]? = some r ∧ r'.active = r.active ∧
      r'.monitorThread = r.monitorThread := by
  have hmap := congrArg (·[i]?) h.handles_eq
  simp only [List.getElem?_map, hr', Option.map_some] at hmap
  obtain ⟨r, hr, heq⟩ := Option.map_eq_some_iff.mp hmap.symm
  simp only [RoomInfo.handle, Prod.mk.injEq] at heq
  exact ⟨r, hr, heq.1.symm, heq.2.symm⟩

/-- A thread after the step was there before, with the same slot and as joined or not. -/
lemma exists_thread {t : ℕ} {th' : MonitorThread} (ht' : w'.threads[t]? = some th') :
    ∃ th, w.threads[t]? = some th ∧ th'.slot = th.slot ∧ th'.joined = th.joined := by
  have hmap := congrArg (·[t]?) h.owners_eq
  simp only [List.getElem?_map, ht', Option.map_some] at hmap
  obtain ⟨th, ht, heq⟩ := Option.map_eq_some_iff.mp hmap.symm
  simp only [MonitorThread.owner, Prod.mk.injEq] at heq
  exact ⟨th, ht, heq.1.symm, heq.2.symm⟩

/-- The handles are the same. -/
lemma roomThread_eq (i : ℕ) : w'.roomThread i = w.roomThread i := by
  have hmap := congrArg (·[i]?) h.handles_eq
  simp only [List.getElem?_map] at hmap
  unfold World.roomThread
  cases hr' : w'.daemon.rooms[i]? with
  | some r' =>
      obtain ⟨r, hr, -, heq⟩ := h.exists_room hr'
      simp only [hr, heq]
  | none =>
      rw [hr', Option.map_none] at hmap
      rw [Option.map_eq_none_iff.mp hmap.symm]

end beside

lemma trans (h : Beside w w') (h' : Beside w' w'') : Beside w w'' where
  handles_eq := h'.handles_eq.trans h.handles_eq
  owners_eq := h'.owners_eq.trans h.owners_eq
  config_eq := h'.config_eq.trans h.config_eq
  state i r r'' hr hr'' := by
    obtain ⟨r', hr', -, -⟩ := h'.exists_room hr''
    rcases h'.state i r' r'' hr' hr'' with heq | ⟨heq, t, th', ht', hslot, hrun⟩
    · rw [heq]
      exact h.state i r r' hr hr'
    · -- a thread that runs after the first step was running before it
      obtain ⟨th, ht, hs, -⟩ := h.exists_thread ht'
      refine Or.inr ⟨heq, t, th, ht, hs ▸ hslot, ?_⟩
      by_contra hended
      rw [Bool.not_eq_false] at hended
      rw [h.ended t th th' ht ht' hended] at hrun
      cases hrun
  ended t th th'' ht ht'' hended := by
    obtain ⟨th', ht', -, -⟩ := h'.exists_thread ht''
    exact h'.ended t th' th'' ht' ht'' (h.ended t th th' ht ht' hended)

/-- Assigning to other fields of a slot. -/
lemma updRoom (w : World) (i : ℕ) {f : RoomInfo → RoomInfo} (hf : ∀ r, (f r).handle = r.handle)
    (hs : ∀ r, (f r).state = r.state ∨ (f r).state = .error ∧
      ∃ (t : ℕ) (th : MonitorThread), w.threads[t]? = some th ∧ th.slot = i ∧ th.ended = false) :
    Beside w (w.updRoom i f) where
  handles_eq := Slots.map_modify_of_comp hf _ _
  owners_eq := rfl
  config_eq := rfl
  state j r r' hr hr' := by
    rw [World.rooms_updRoom, List.getElem?_modify, hr] at hr'
    simp only [Option.map_eq_map, Option.map_some, Option.some.injEq] at hr'
    subst hr'
    by_cases hij : i = j
    · subst hij
      rw [if_pos rfl]
      exact hs r
    · rw [if_neg hij]
      exact Or.inl rfl
  ended t th th' ht ht' he := by
    change w.threads[t]? = some th' at ht'
    rw [ht, Option.some.injEq] at ht'
    exact ht' ▸ he

/-- A thread returns. -/
lemma leave (w : World) (t : ℕ) :
    Beside w (w.updThread (some t) fun th => { th with ended := true }) where
  handles_eq := rfl
  owners_eq := Slots.map_modify_of_comp
    (g := fun th : MonitorThread => { th with ended := true }) (fun _ => rfl) w.threads t
  config_eq := rfl
  state i r r' hr hr' := by
    change w.daemon.rooms[i]? = some r' at hr'
    rw [hr, Option.some.injEq] at hr'
    exact Or.inl (congrArg RoomInfo.state hr'.symm)
  ended u th th' hu hu' he := by
    change (w.threads.modify t _)[u]? = some th' at hu'
    rw [List.getElem?_modify, hu] at hu'
    simp only [Option.map_eq_map, Option.map_some, Option.some.injEq] at hu'
    subst hu'
    split
    · rfl
    · exact he

end Beside

/-- **The monitor threads keep to this**, whatever their readings return. -/
lemma readStep_beside (e : ReadEvent) (w : World) : Beside w (readStep e w) := by
  cases e with
  | iterate t result data =>
      simp only [readStep]
      cases ht : w.threads[t]? with
      | none => exact .refl w
      | some th =>
          by_cases hended : th.ended = true
          · simp only [hended, if_true]
            exact .refl w
          · rw [Bool.not_eq_true] at hended
            simp only [hended, Bool.false_eq_true, if_false]
            unfold World.iterate
            split
            · have h := Beside.updRoom w th.slot
                (f := fun r => { r with latestData := data, lastUpdate := w.now })
                (fun _ => rfl) (fun _ => Or.inl rfl)
              exact ⟨h.handles_eq, h.owners_eq, h.config_eq, h.state, h.ended⟩
            · have h := Beside.updRoom w th.slot
                (f := fun r => { r with errorCount := r.errorCount + 1 })
                (fun _ => rfl) (fun _ => Or.inl rfl)
              simp only [World.readFailed]
              split
              · have h' := Beside.updRoom
                  (w.updRoom th.slot fun r => { r with errorCount := r.errorCount + 1 }) th.slot
                  (f := fun r => { r with state := .error }) (fun _ => rfl)
                  (fun _ => Or.inr ⟨rfl, t, th, ht, rfl, hended⟩)
                exact (h.trans h').trans (.leave _ t)
              · exact h
  | leave t =>
      simp only [readStep, monitorStep]
      split
      · split
        · exact .refl w
        · exact .leave w t
      · exact .refl w
  | tick now =>
      have h := Beside.refl w
      exact ⟨rfl, rfl, rfl, h.state, h.ended⟩

/-- Nor does any number of steps do more. -/
lemma readSteps_beside (es : List ReadEvent) (w : World) : Beside w (readSteps es w) := by
  induction es generalizing w with
  | nil => exact .refl w
  | cons e es ih => exact (readStep_beside e w).trans (ih (readStep e w))

/-- Owning a thread is a matter of the owners. -/
lemma owns_iff_mem (w : World) (i : ℕ) :
    w.Owns i ↔ (i, false) ∈ w.threads.map MonitorThread.owner := by
  rw [List.mem_map]
  constructor
  · rintro ⟨t, th, ht, hslot, hj⟩
    exact ⟨th, List.mem_of_getElem? ht, Prod.ext hslot hj⟩
  · rintro ⟨th, hth, heq⟩
    obtain ⟨t, ht⟩ := List.mem_iff_getElem?.mp hth
    exact ⟨t, th, ht, congrArg Prod.fst heq, congrArg Prod.snd heq⟩

/-- The kernel switch does not concern the threads. -/
@[simp] lemma threads_tryControl (w : World) (enable : Bool) :
    (w.tryControl enable).threads = w.threads := by
  unfold World.tryControl
  split <;> rfl

/-! ## The invariant -/

/-- The room is running, or its thread has given up: it has a thread that nobody has joined. -/
def RoomInfo.Threaded (r : RoomInfo) : Prop := r.state = .running ∨ r.state = .error

/-- The states, the flags and the handles are in step with the threads, except that the flag of
the slot `stopping` has been cleared already. -/
structure InStep (n : ℕ) (stopping : Option ℕ) (w : World) : Prop where
  sized : w.daemon.Sized n
  threaded_iff : ∀ (i : ℕ) (r : RoomInfo), w.daemon.rooms[i]? = some r →
    (r.Threaded ↔ w.Owns i)
  active_iff : ∀ (i : ℕ) (r : RoomInfo), w.daemon.rooms[i]? = some r → stopping ≠ some i →
    (r.active = true ↔ r.Threaded)
  named : ∀ (t : ℕ) (th : MonitorThread), w.threads[t]? = some th → th.joined = false →
    w.roomThread th.slot = some t
  ended : ∀ (t : ℕ) (th : MonitorThread), w.threads[t]? = some th → th.joined = true →
    th.ended = true

/-- Clearing a flag leaves the handles alone. -/
lemma roomThread_deactivate (w : World) (i j : ℕ) :
    (w.deactivate i).roomThread j = w.roomThread j := by
  unfold World.roomThread
  rw [World.deactivate, World.rooms_updRoom, List.getElem?_modify]
  cases w.daemon.rooms[j]? with
  | none => rfl
  | some r => by_cases hij : i = j <;> simp [hij]

namespace InStep

variable {n : ℕ} {stopping : Option ℕ} {w w' : World}

/-- The handle of a slot that owns a thread names one that is not joined. -/
lemma joinable (h : InStep n stopping w) (i : ℕ) :
    w.Owns i → w.Joinable (w.roomThread i) := by
  rintro ⟨t, th, ht, rfl, hj⟩
  exact ⟨t, th, h.named t th ht hj, ht, hj⟩

/-- Steps of the monitor threads keep everything in step. -/
lemma beside (h : InStep n stopping w) (hb : Beside w w') : InStep n stopping w' := by
  have howns (i : ℕ) : w'.Owns i ↔ w.Owns i := by
    rw [owns_iff_mem, owns_iff_mem, hb.owners_eq]
  -- only a slot with a thread that runs gets into the state of an error
  have hthreaded (i : ℕ) (r r' : RoomInfo) (hr : w.daemon.rooms[i]? = some r)
      (hr' : w'.daemon.rooms[i]? = some r') : r'.Threaded ↔ r.Threaded := by
    rcases hb.state i r r' hr hr' with heq | ⟨heq, t, th, ht, hslot, hrun⟩
    · unfold RoomInfo.Threaded
      rw [heq]
    · have hj : th.joined = false := by
        by_contra hj
        rw [h.ended t th ht (by simpa using hj)] at hrun
        cases hrun
      have hbefore : r.Threaded := (h.threaded_iff i r hr).mpr ⟨t, th, ht, hslot, hj⟩
      exact ⟨fun _ => hbefore, fun _ => Or.inr heq⟩
  constructor
  · have hlen := congrArg List.length hb.handles_eq
    rw [List.length_map, List.length_map] at hlen
    exact ⟨hlen.trans h.sized.length_rooms, by rw [hb.config_eq]; exact h.sized.maxRooms_eq⟩
  · intro i r' hr'
    obtain ⟨r, hr, -, -⟩ := hb.exists_room hr'
    rw [hthreaded i r r' hr hr', howns]
    exact h.threaded_iff i r hr
  · intro i r' hr' hstop
    obtain ⟨r, hr, hactive, -⟩ := hb.exists_room hr'
    rw [hthreaded i r r' hr hr', hactive]
    exact h.active_iff i r hr hstop
  · intro t th' ht' hj
    obtain ⟨th, ht, hslot, hjoined⟩ := hb.exists_thread ht'
    rw [hb.roomThread_eq, hslot]
    exact h.named t th ht (hjoined ▸ hj)
  · intro t th' ht' hj
    obtain ⟨th, ht, -, hjoined⟩ := hb.exists_thread ht'
    exact hb.ended t th th' ht ht' (h.ended t th ht (hjoined ▸ hj))

/-- The first section of `stop_room` and `delete_room`. -/
lemma deactivate (h : InStep n none w) (i : ℕ) : InStep n (some i) (w.deactivate i) := by
  have hroom (j : ℕ) (r' : RoomInfo) (hr' : (w.deactivate i).daemon.rooms[j]? = some r') :
      ∃ r, w.daemon.rooms[j]? = some r ∧ r'.state = r.state ∧
        (some i ≠ some j → r'.active = r.active) := by
    rw [World.deactivate, World.rooms_updRoom, List.getElem?_modify] at hr'
    obtain ⟨r, hr, rfl⟩ := Option.map_eq_some_iff.mp hr'
    refine ⟨r, hr, by split <;> rfl, fun hne => ?_⟩
    rw [if_neg fun e => hne (congrArg some e)]
  constructor
  · exact h.sized.deactivate i
  · intro j r' hr'
    obtain ⟨r, hr, hstate, -⟩ := hroom j r' hr'
    rw [RoomInfo.Threaded, hstate]
    exact h.threaded_iff j r hr
  · intro j r' hr' hstop
    obtain ⟨r, hr, hstate, hactive⟩ := hroom j r' hr'
    rw [hactive hstop, RoomInfo.Threaded, hstate]
    exact h.active_iff j r hr (by simp)
  · intro t th ht hj
    rw [roomThread_deactivate]
    exact h.named t th ht hj
  · exact h.ended

/-- A change of one slot and of the threads that concerns only the threads of that slot. -/
lemma updSlot (h : InStep n stopping w) {l₁ l₂ : List RoomInfo} {r r' : RoomInfo}
    (hl : w.daemon.rooms = l₁ ++ r :: l₂) (hl' : w'.daemon.rooms = l₁ ++ r' :: l₂)
    (hsized : w'.daemon.Sized n) (hstop : stopping = none ∨ stopping = some l₁.length)
    (hthreads : ∀ (t : ℕ) (th : MonitorThread), th.slot ≠ l₁.length →
      (w'.threads[t]? = some th ↔ w.threads[t]? = some th))
    (hthreaded : r'.Threaded ↔ w'.Owns l₁.length) (hactive : r'.active = true ↔ r'.Threaded)
    (hnamed : ∀ (t : ℕ) (th : MonitorThread), w'.threads[t]? = some th → th.slot = l₁.length →
      th.joined = false → r'.monitorThread = some t)
    (hended : ∀ (t : ℕ) (th : MonitorThread), w'.threads[t]? = some th → th.slot = l₁.length →
      th.joined = true → th.ended = true) :
    InStep n none w' := by
  have hat : w'.daemon.rooms[l₁.length]? = some r' := by rw [hl', Slots.getElem?_split]
  have hother {j : ℕ} (hj : j ≠ l₁.length) : w'.daemon.rooms[j]? = w.daemon.rooms[j]? := by
    rw [hl, hl', Slots.getElem?_split_ne hj]
  have howns {j : ℕ} (hj : j ≠ l₁.length) : w'.Owns j ↔ w.Owns j := by
    constructor
    · rintro ⟨t, th, ht, rfl, hjoined⟩
      exact ⟨t, th, (hthreads t th hj).mp ht, rfl, hjoined⟩
    · rintro ⟨t, th, ht, rfl, hjoined⟩
      exact ⟨t, th, (hthreads t th hj).mpr ht, rfl, hjoined⟩
  constructor
  · exact hsized
  · intro j x hx
    by_cases hj : j = l₁.length
    · subst hj
      rw [hat, Option.some.injEq] at hx
      exact hx ▸ hthreaded
    · rw [howns hj]
      exact h.threaded_iff j x (hother hj ▸ hx)
  · intro j x hx _
    by_cases hj : j = l₁.length
    · subst hj
      rw [hat, Option.some.injEq] at hx
      exact hx ▸ hactive
    · refine h.active_iff j x (hother hj ▸ hx) ?_
      rcases hstop with rfl | rfl
      · exact nofun
      · exact fun e => hj (Option.some.inj e).symm
  · intro t th ht hjoined
    by_cases hj : th.slot = l₁.length
    · rw [hj, World.roomThread, hat]
      exact hnamed t th ht hj hjoined
    · rw [World.roomThread, hother hj]
      exact h.named t th ((hthreads t th hj).mp ht) hjoined
  · intro t th ht hjoined
    by_cases hj : th.slot = l₁.length
    · exact hended t th ht hj hjoined
    · exact h.ended t th ((hthreads t th hj).mp ht) hjoined

section slot

variable (h : InStep n none w) {l₁ l₂ : List RoomInfo} {r r' : RoomInfo}
  (hl : w.daemon.rooms = l₁ ++ r :: l₂) (hl' : w'.daemon.rooms = l₁ ++ r' :: l₂)
  (hsized : w'.daemon.Sized n)
include h hl hl' hsized

/-- A slot without a thread gets contents without a thread. -/
lemma idle (hr : ¬ r.Threaded) (hr' : ¬ r'.Threaded) (hactive : r'.active = false)
    (hthreads : w'.threads = w.threads) : InStep n none w' := by
  have hat : w.daemon.rooms[l₁.length]? = some r := by rw [hl, Slots.getElem?_split]
  have hno : ¬ w.Owns l₁.length := fun howns => hr ((h.threaded_iff _ r hat).mpr howns)
  refine h.updSlot hl hl' hsized (Or.inl rfl) (fun t th _ => by rw [hthreads])
    ⟨fun ht => absurd ht hr', ?_⟩ ⟨fun ha => ?_, fun ht => absurd ht hr'⟩ ?_ ?_
  · rintro ⟨t, th, ht, hslot, hj⟩
    exact absurd ⟨t, th, hthreads ▸ ht, hslot, hj⟩ hno
  · rw [hactive] at ha
    cases ha
  · intro t th ht hslot hj
    exact absurd ⟨t, th, hthreads ▸ ht, hslot, hj⟩ hno
  · intro t th ht _ hj
    exact h.ended t th (hthreads ▸ ht) hj

/-- A slot without a thread gets one. -/
lemma spawned (hr : ¬ r.Threaded) (hr' : r'.Threaded) (hactive : r'.active = true)
    (hhandle : r'.monitorThread = some w.threads.length)
    (hthreads : w'.threads = w.threads ++ [⟨l₁.length, false, false⟩]) : InStep n none w' := by
  have hat : w.daemon.rooms[l₁.length]? = some r := by rw [hl, Slots.getElem?_split]
  have hno : ¬ w.Owns l₁.length := fun howns => hr ((h.threaded_iff _ r hat).mpr howns)
  have hcases {t : ℕ} {th : MonitorThread} (ht : w'.threads[t]? = some th) :
      w.threads[t]? = some th ∨ t = w.threads.length ∧ th = ⟨l₁.length, false, false⟩ := by
    rw [hthreads, List.getElem?_append] at ht
    split at ht
    · exact Or.inl ht
    · rw [List.getElem?_singleton] at ht
      split at ht
      · exact Or.inr ⟨by omega, (Option.some.inj ht).symm⟩
      · cases ht
  refine h.updSlot hl hl' hsized (Or.inl rfl) ?_ ⟨fun _ => ?_, fun _ => hr'⟩
    ⟨fun _ => hr', fun _ => hactive⟩ ?_ ?_
  · intro t th hslot
    refine ⟨fun ht => ?_, fun ht => ?_⟩
    · rcases hcases ht with hold | ⟨-, rfl⟩
      · exact hold
      · exact absurd rfl hslot
    · rw [hthreads, List.getElem?_append_left (List.getElem?_eq_some_iff.mp ht).1, ht]
  · exact ⟨w.threads.length, _, by rw [hthreads, List.getElem?_concat_length], rfl, rfl⟩
  · intro t th ht hslot hj
    rcases hcases ht with hold | ⟨rfl, -⟩
    · exact absurd ⟨t, th, hold, hslot, hj⟩ hno
    · exact hhandle
  · intro t th ht _ hj
    rcases hcases ht with hold | ⟨-, rfl⟩
    · exact h.ended t th hold hj
    · cases hj

end slot

/-- The thread of the slot whose flag has been cleared is joined, and the slot gets contents
without a thread. -/
lemma joined {l₁ l₂ : List RoomInfo} {r r' : RoomInfo} (h : InStep n (some l₁.length) w)
    (hl : w.daemon.rooms = l₁ ++ r :: l₂) (hl' : w'.daemon.rooms = l₁ ++ r' :: l₂)
    (hsized : w'.daemon.Sized n) {t : ℕ} {th : MonitorThread} (ht : w.threads[t]? = some th)
    (hslot : th.slot = l₁.length) (hj : th.joined = false) (hend : th.ended = true)
    (hthreads : w'.threads = w.threads.modify t fun th => { th with joined := true })
    (hr' : ¬ r'.Threaded) (hactive : r'.active = false) : InStep n none w' := by
  have hcases {u : ℕ} {x : MonitorThread} (hu : w'.threads[u]? = some x) :
      (u = t ∧ x = { th with joined := true }) ∨ (u ≠ t ∧ w.threads[u]? = some x) := by
    rw [hthreads, List.getElem?_modify] at hu
    by_cases htu : t = u
    · subst htu
      rw [ht] at hu
      simp only [if_true, Option.map_eq_map, Option.map_some, Option.some.injEq] at hu
      exact Or.inl ⟨rfl, hu.symm⟩
    · simp only [htu, if_false, Option.map_eq_map, Option.map_id'] at hu
      exact Or.inr ⟨fun e => htu e.symm, hu⟩
  -- the handle named one thread only
  have hno : ¬ w'.Owns l₁.length := by
    rintro ⟨u, x, hu, hxslot, hxj⟩
    rcases hcases hu with ⟨-, rfl⟩ | ⟨hne, hold⟩
    · cases hxj
    · have h₁ := h.named u x hold hxj
      have h₂ := h.named t th ht hj
      rw [hxslot] at h₁
      rw [hslot, h₁, Option.some.injEq] at h₂
      exact hne h₂
  refine h.updSlot hl hl' hsized (Or.inr rfl) ?_
    ⟨fun hth => absurd hth hr', fun ho => absurd ho hno⟩
    ⟨fun ha => ?_, fun hth => absurd hth hr'⟩ ?_ ?_
  · intro u x hx
    refine ⟨fun hu => ?_, fun hu => ?_⟩
    · rcases hcases hu with ⟨-, rfl⟩ | ⟨-, hold⟩
      · exact absurd hslot hx
      · exact hold
    · have hne : t ≠ u := by
        rintro rfl
        rw [ht, Option.some.injEq] at hu
        exact hx (hu ▸ hslot)
      rw [hthreads, List.getElem?_modify, hu]
      simp [hne]
  · rw [hactive] at ha
    cases ha
  · intro u x hu hxslot hxj
    exact absurd ⟨u, x, hu, hxslot, hxj⟩ hno
  · intro u x hu _ hxj
    rcases hcases hu with ⟨-, rfl⟩ | ⟨-, hold⟩
    · exact hend
    · exact h.ended u x hold hxj

/-- The kernel switch does not concern the threads. -/
lemma tryControl (h : InStep n none w) (enable : Bool) : InStep n none (w.tryControl enable) := by
  unfold World.tryControl
  split
  · exact ⟨h.sized, h.threaded_iff, h.active_iff, h.named, h.ended⟩
  · exact h

end InStep

/-! ## The calls -/

section calls

variable (ok : Bool) (waiting : List ReadEvent) (w : World) (name : List UInt8)

lemma afterControl_runAwait (enable : Bool) (pause : World → World) :
    (afterControl (some name) enable).runAwait ok pause w = some (w.tryControl enable, 0) := by
  rw [afterControl_eq, World.tryControl]
  simp only [Prog.runAwait]
  split <;> rfl

lemma create_runAwait (ci : ℤ) :
    ((RoomOp.create name ci).code H).runAwait ok (readSteps waiting) w = some (
      match w.daemon.search H name, w.daemon.freeSlot with
      | none, some i => (w.addRoom H name ci i, 0)
      | _, _ => (w, -1)) := by
  refine (runAwait_of_next (createRoom_next H ok w name ci)).trans ?_
  cases w.daemon.search H name with
  | some i => rfl
  | none => cases w.daemon.freeSlot <;> rfl

lemma start_runAwait :
    ((RoomOp.start name).code H).runAwait ok (readSteps waiting) w = some (
      match w.daemon.search H name with
      | none => (w, -1)
      | some i =>
          if w.roomState i = .running then (w, 0)
          else if ok then ((w.startOk i).tryControl true, 0) else (w.startFailed i, -1)) := by
  refine (runAwait_of_next (startRoom_next H ok w name)).trans ?_
  cases w.daemon.search H name with
  | none => rfl
  | some i =>
      by_cases hr : w.roomState i = .running
      · simp [hr, Prog.runAwait]
      · cases ok <;> simp [hr, afterControl_runAwait, Prog.runAwait]

lemma stop_runAwait :
    ((RoomOp.stop name).code H).runAwait ok (readSteps waiting) w =
      match w.daemon.search H name with
      | none => some (w, -1)
      | some i =>
          if w.roomState i = .running then
            if (readSteps waiting (w.deactivate i)).threadEnded ((w.deactivate i).roomThread i) then
              some ((((w.deactivate i).afterJoin i waiting).markCreated i).tryControl false, 0)
            else none
          else some (w, 0) := by
  refine (runAwait_of_next (stopRoom_next H ok w name)).trans ?_
  cases w.daemon.search H name with
  | none => rfl
  | some i =>
      by_cases hr : w.roomState i = .running
      · simp only [hr, if_true]
        change (if _ then (afterControl (some name) false).runAwait ok _ _ else none) = _
        rw [afterControl_runAwait]
        rfl
      · simp [hr, Prog.runAwait]

lemma delete_runAwait :
    ((RoomOp.delete name).code H).runAwait ok (readSteps waiting) w =
      match w.daemon.search H name with
      | none => some (w, -1)
      | some i =>
          if w.roomState i = .running then
            if (readSteps waiting (w.deactivate i)).threadEnded ((w.deactivate i).roomThread i) then
              some (((w.deactivate i).afterJoin i waiting).removeRoom H i, 0)
            else none
          else some (w.removeRoom H i, 0) := by
  refine (runAwait_of_next (deleteRoom_next H ok w name)).trans ?_
  cases w.daemon.search H name with
  | none => rfl
  | some i =>
      by_cases hr : w.roomState i = .running
      · simp only [hr, if_true]
        rfl
      · simp [hr, Prog.runAwait]

end calls

/-! ## One event -/

section events

variable {H} {n : ℕ} {w : World} (h : InStep n none w)
include h

/-- After the wait of `stop_room` or `delete_room` the slot gets contents without a thread. -/
lemma InStep.afterJoin {i : ℕ} {r : RoomInfo} (hi : w.daemon.rooms[i]? = some r)
    (hr : r.Threaded) {waiting : List ReadEvent}
    (hended : (readSteps waiting (w.deactivate i)).threadEnded ((w.deactivate i).roomThread i) =
      true)
    {f : RoomInfo → RoomInfo} (hf : ∀ x, ¬ (f x).Threaded)
    (hfa : ∀ x, x.active = false → (f x).active = false) {w' : World}
    (hconfig : w'.daemon.config = ((w.deactivate i).afterJoin i waiting).daemon.config)
    (hrooms : w'.daemon.rooms = ((w.deactivate i).afterJoin i waiting).daemon.rooms.modify i f)
    (hthreads : w'.threads = ((w.deactivate i).afterJoin i waiting).threads) :
    InStep n none w' := by
  have hb := readSteps_beside waiting (w.deactivate i)
  have hw := (h.deactivate i).beside hb
  -- the handle still names the thread that has not been joined
  have howns : (readSteps waiting (w.deactivate i)).Owns i := by
    rw [owns_iff_mem, hb.owners_eq, ← owns_iff_mem]
    exact (h.threaded_iff i r hi).mp hr
  obtain ⟨t, th, ht, hslot, hj⟩ := howns
  have hhandle : (w.deactivate i).roomThread i = some t := by
    have hnamed := hw.named t th ht hj
    rwa [hslot, hb.roomThread_eq] at hnamed
  have hend : th.ended = true := by
    rw [hhandle] at hended
    simpa [World.threadEnded, ht] using hended
  have hlt : i < (readSteps waiting (w.deactivate i)).daemon.rooms.length := by
    rw [hw.sized.length_rooms, ← h.sized.length_rooms]
    exact (List.getElem?_eq_some_iff.mp hi).1
  obtain ⟨r', hr'⟩ : ∃ r', (readSteps waiting (w.deactivate i)).daemon.rooms[i]? = some r' :=
    ⟨_, List.getElem?_eq_getElem hlt⟩
  have hactive : r'.active = false := by
    obtain ⟨r₁, hr₁, hsame, -⟩ := hb.exists_room hr'
    rw [World.deactivate, World.rooms_updRoom, List.getElem?_modify, hi] at hr₁
    simp only [if_true, Option.map_eq_map, Option.map_some, Option.some.injEq] at hr₁
    rw [hsame, ← hr₁]
  obtain ⟨l₁, l₂, hl, rfl⟩ := Slots.exists_split_of_getElem? hr'
  have hsized : w'.daemon.Sized n := by
    constructor
    · rw [hrooms, List.length_modify, World.afterJoin, World.daemon_updThread]
      exact hw.sized.length_rooms
    · rw [hconfig, World.afterJoin, World.daemon_updThread]
      exact hw.sized.maxRooms_eq
  refine hw.joined hl ?_ hsized ht hslot hj hend ?_ (hf r') (hfa r' hactive)
  · rw [hrooms, World.afterJoin, World.daemon_updThread, hl, Slots.modify_split]
  · rw [hthreads, World.afterJoin, hhandle]
    rfl

/-- What `create_room` leaves. -/
lemma InStep.create {name : List UInt8} {i : ℕ} (ci : ℤ) (hf : w.daemon.freeSlot = some i) :
    InStep n none (w.addRoom H name ci i) := by
  obtain ⟨l₁, r, l₂, hl, rfl, hr⟩ := h.sized.of_freeSlot hf
  have hin := (RoomInfo.used_eq_false_iff r).mp hr
  refine h.idle hl (rooms_addRoom hl name ci) (h.sized.addRoom H _ name ci) ?_ ?_ rfl rfl
  · simp [RoomInfo.Threaded, hin]
  · simp [RoomInfo.Threaded, RoomInfo.fill]

/-- What a successful `start_room` leaves of a room without a thread. -/
lemma InStep.startOk {l₁ l₂ : List RoomInfo} {r : RoomInfo}
    (hl : w.daemon.rooms = l₁ ++ r :: l₂) (hr : ¬ r.Threaded) :
    InStep n none (w.startOk l₁.length) :=
  h.spawned hl (rooms_startOk hl) (h.sized.startOk _) hr (Or.inl rfl) rfl rfl rfl

/-- What `delete_room` leaves of a room without a thread. -/
lemma InStep.remove {l₁ l₂ : List RoomInfo} {r : RoomInfo}
    (hl : w.daemon.rooms = l₁ ++ r :: l₂) (hr : ¬ r.Threaded) :
    InStep n none (w.removeRoom H l₁.length) := by
  refine h.idle hl (rooms_removeRoom hl) (h.sized.removeRoom H _) hr ?_ rfl rfl
  simp [RoomInfo.Threaded, RoomInfo.cleared]

/-- `create_room` keeps everything in step. -/
lemma InStep.step_create (name : List UInt8) (ci : ℤ) (ok : Bool) (waiting : List ReadEvent) :
    InStep n none ((threaded H).step w (.call (.create name ci) ok waiting)).1 := by
  simp only [threaded]
  rw [create_runAwait]
  cases hs : w.daemon.search H name with
  | some i => exact h
  | none =>
      cases hf : w.daemon.freeSlot with
      | none => exact h
      | some i => exact h.create ci hf

/-- `start_room` does, where its outcome fits the state of the room. -/
lemma InStep.step_start {name : List UInt8} {ok : Bool} (waiting : List ReadEvent)
    (he : Orderly H w (.call (.start name) ok waiting)) :
    InStep n none ((threaded H).step w (.call (.start name) ok waiting)).1 := by
  simp only [threaded]
  rw [start_runAwait]
  cases hs : w.daemon.search H name with
  | none => exact h
  | some i =>
      obtain ⟨hcreated, herror⟩ := he i hs
      obtain ⟨l₁, r, l₂, hl, rfl, hu, -⟩ := h.sized.of_search hs
      rw [roomState_split hl] at hcreated herror
      simp only [roomState_split hl]
      by_cases hrun : r.state = .running
      · simp only [hrun, if_true]
        exact h
      · simp only [hrun, if_false]
        have hstate : r.state = .created := by
          have hne := (RoomInfo.used_iff r).mp hu
          cases hstate : r.state with
          | inactive => exact absurd hstate hne
          | created => rfl
          | running => exact absurd hstate hrun
          | error => exact absurd hstate herror
        have hr : ¬ r.Threaded := by
          rintro (hr | hr)
          · exact hrun hr
          · exact herror hr
        simp only [hcreated hstate, if_true]
        exact (h.startOk hl hr).tryControl true

/-- `stop_room` does, whatever happens while it waits. -/
lemma InStep.step_stop (name : List UInt8) (ok : Bool) (waiting : List ReadEvent) :
    InStep n none ((threaded H).step w (.call (.stop name) ok waiting)).1 := by
  simp only [threaded]
  rw [stop_runAwait]
  cases hs : w.daemon.search H name with
  | none => exact h
  | some i =>
      obtain ⟨l₁, r, l₂, hl, rfl, -, -⟩ := h.sized.of_search hs
      have hat : w.daemon.rooms[l₁.length]? = some r := by rw [hl, Slots.getElem?_split]
      simp only [roomState_split hl]
      by_cases hrun : r.state = .running
      · simp only [hrun, if_true]
        split
        · rename_i hsome
          split at hsome
          · rename_i hended
            cases hsome
            have hstopped : InStep n none
                (((w.deactivate l₁.length).afterJoin l₁.length waiting).markCreated l₁.length) :=
              h.afterJoin hat (Or.inl hrun) hended (f := fun r => { r with state := .created })
                (fun _ => by simp [RoomInfo.Threaded]) (fun _ hx => hx) rfl rfl rfl
            exact hstopped.tryControl false
          · cases hsome
        · exact h
      · simp only [hrun, if_false]
        exact h

/-- `delete_room` does, unless the room's thread has given up. -/
lemma InStep.step_delete {name : List UInt8} {ok : Bool} {waiting : List ReadEvent}
    (he : Orderly H w (.call (.delete name) ok waiting)) :
    InStep n none ((threaded H).step w (.call (.delete name) ok waiting)).1 := by
  simp only [threaded]
  rw [delete_runAwait]
  cases hs : w.daemon.search H name with
  | none => exact h
  | some i =>
      have herror := he i hs
      obtain ⟨l₁, r, l₂, hl, rfl, -, -⟩ := h.sized.of_search hs
      have hat : w.daemon.rooms[l₁.length]? = some r := by rw [hl, Slots.getElem?_split]
      rw [roomState_split hl] at herror
      simp only [roomState_split hl]
      by_cases hrun : r.state = .running
      · simp only [hrun, if_true]
        split
        · rename_i hsome
          split at hsome
          · rename_i hended
            cases hsome
            exact h.afterJoin hat (Or.inl hrun) hended (f := fun _ => RoomInfo.cleared H)
              (fun _ => by simp [RoomInfo.Threaded, RoomInfo.cleared]) (fun _ _ => rfl)
              rfl rfl rfl
          · cases hsome
        · exact h
      · simp only [hrun, if_false]
        refine h.remove hl ?_
        rintro (hr | hr)
        · exact hrun hr
        · exact herror hr

/-- **An orderly event keeps everything in step.** -/
lemma InStep.step (e : ThreadEvent) (he : Orderly H w e) :
    InStep n none ((threaded H).step w e).1 := by
  cases e with
  | monitor e => exact h.beside (readStep_beside e w)
  | call op ok waiting =>
      cases op with
      | create name ci => exact h.step_create name ci ok waiting
      | start name => exact h.step_start waiting he
      | stop name => exact h.step_stop name ok waiting
      | delete name => exact h.step_delete he

end events

/-! ## Shutdown -/

/-- Every slot with its flag set names a thread of its own that has not been joined. -/
def FlagsNamed (w : World) : Prop :=
  ∀ i, w.roomActive i = true →
    ∃ t, w.roomThread i = some t ∧ (w.threads.map MonitorThread.owner)[t]? = some (i, false)

section shutdown

variable {w w' : World}

/-- The slots are as in `FlagsNamed` what a handle has to name to be joined. -/
lemma FlagsNamed.joinable (h : FlagsNamed w) {i : ℕ} (hi : w.roomActive i = true) :
    w.Joinable (w.roomThread i) := by
  obtain ⟨t, hhandle, howner⟩ := h i hi
  rw [List.getElem?_map, Option.map_eq_some_iff] at howner
  obtain ⟨th, ht, heq⟩ := howner
  exact ⟨t, th, hhandle, ht, congrArg Prod.snd heq⟩

/-- The flags are as before a step of the monitor threads. -/
lemma Beside.roomActive_eq (h : Beside w w') (i : ℕ) : w'.roomActive i = w.roomActive i := by
  have hmap := congrArg (·[i]?) h.handles_eq
  simp only [List.getElem?_map] at hmap
  unfold World.roomActive
  cases hr' : w'.daemon.rooms[i]? with
  | some r' =>
      obtain ⟨r, hr, heq, -⟩ := h.exists_room hr'
      simp only [hr, heq]
  | none =>
      rw [hr', Option.map_none] at hmap
      rw [Option.map_eq_none_iff.mp hmap.symm]

/-- The flags after one has been cleared. -/
lemma roomActive_deactivate (w : World) (i j : ℕ) :
    (w.deactivate i).roomActive j = true ↔ i ≠ j ∧ w.roomActive j = true := by
  unfold World.roomActive
  rw [World.deactivate, World.rooms_updRoom, List.getElem?_modify]
  cases w.daemon.rooms[j]? with
  | none => simp
  | some r => by_cases hij : i = j <;> simp [hij]

/-- Clearing a flag and joining the thread of its slot. -/
lemma FlagsNamed.afterJoin (h : FlagsNamed w) {i : ℕ} (hi : w.roomActive i = true)
    (waiting : List ReadEvent) : FlagsNamed ((w.deactivate i).afterJoin i waiting) := by
  have hb := readSteps_beside waiting (w.deactivate i)
  obtain ⟨t, hhandle, howner⟩ := h i hi
  have hjoin : (w.deactivate i).afterJoin i waiting =
      (readSteps waiting (w.deactivate i)).updThread (some t)
        fun th => { th with joined := true } := by
    rw [World.afterJoin, roomThread_deactivate, hhandle]
  intro j hj
  rw [hjoin] at hj ⊢
  change (readSteps waiting (w.deactivate i)).roomActive j = true at hj
  rw [hb.roomActive_eq, roomActive_deactivate] at hj
  obtain ⟨u, hu, huowner⟩ := h j hj.2
  refine ⟨u, ?_, ?_⟩
  · change (readSteps waiting (w.deactivate i)).roomThread j = some u
    rw [hb.roomThread_eq, roomThread_deactivate, hu]
  · -- the thread of another slot is another thread
    have hne : t ≠ u := by
      rintro rfl
      rw [howner, Option.some.injEq, Prod.mk.injEq] at huowner
      exact hj.1 huowner.1
    have hsame := congrArg (·[u]?) hb.owners_eq
    change ((readSteps waiting (w.deactivate i)).threads.map MonitorThread.owner)[u]? =
      (w.threads.map MonitorThread.owner)[u]? at hsame
    change (((readSteps waiting (w.deactivate i)).threads.modify t _).map
      MonitorThread.owner)[u]? = some (j, false)
    rw [List.getElem?_map, List.getElem?_modify_ne (h := hne), ← List.getElem?_map, hsame,
      huowner]

/-- **What the loop of `cleanup_on_exit` joins** has been created and not joined. -/
lemma FlagsNamed.cleanupRooms (h : FlagsNamed w) (waiting : ℕ → List ReadEvent) (is : List ℕ) :
    ∀ x ∈ (w.cleanupRooms waiting is).2, x.1.Joinable x.2 := by
  induction is generalizing w with
  | nil => exact fun x hx => absurd hx List.not_mem_nil
  | cons i is ih =>
      unfold World.cleanupRooms
      split
      · rename_i hi
        intro x hx
        rcases List.mem_cons.mp hx with rfl | hx
        · have hjoin := h.joinable hi
          rwa [← roomThread_deactivate w i i] at hjoin
        · exact ih (h.afterJoin hi (waiting i)) x hx
      · exact ih h

end shutdown

/-! ## All runs -/

section runs

variable {H} {n : ℕ} {w : World}

/-- **In step, the flags, the handles and the joins are right.** -/
lemma InStep.threadsOk (h : InStep n none w) : ThreadsOk H w where
  active_iff i r hr := (h.active_iff i r hr nofun).trans (h.threaded_iff i r hr)
  named := h.named
  joins op x hx := by
    have hjoin {name : List UInt8} {i : ℕ} (hs : w.daemon.search H name = some i)
        (hrun : w.roomState i = .running) :
        (w.deactivate i).Joinable ((w.deactivate i).roomThread i) := by
      obtain ⟨l₁, r, l₂, hl, rfl, -, -⟩ := h.sized.of_search hs
      rw [roomState_split hl] at hrun
      refine (h.deactivate l₁.length).joinable l₁.length ?_
      exact (h.threaded_iff _ r (by rw [hl, Slots.getElem?_split])).mp (Or.inl hrun)
    have hname {name : List UInt8} (hx : x ∈ RoomOp.joins H (.stop name) w) :
        x.1.Joinable x.2 := by
      simp only [RoomOp.joins] at hx
      split at hx
      · rename_i i hs
        split at hx
        · rename_i hrun
          rw [List.mem_singleton.mp hx]
          exact hjoin hs hrun
        · exact absurd hx List.not_mem_nil
      · exact absurd hx List.not_mem_nil
    cases op with
    | create name ci => exact absurd hx List.not_mem_nil
    | start name => exact absurd hx List.not_mem_nil
    | stop name => exact hname hx
    | delete name => exact hname hx
  cleanup waiting x hx := by
    have hflags : FlagsNamed w := by
      intro i hi
      unfold World.roomActive at hi
      split at hi
      · rename_i r hr
        obtain ⟨t, th, ht, rfl, hj⟩ :=
          (h.threaded_iff i r hr).mp ((h.active_iff i r hr nofun).mp hi)
        refine ⟨t, h.named t th ht hj, ?_⟩
        rw [List.getElem?_map, ht, Option.map_some, MonitorThread.owner, hj]
      · cases hi
    exact FlagsNamed.cleanupRooms
      (w := { w with daemon := { w.daemon with running := false } }) hflags waiting _ x hx

/-- A `start_room` that leaves the threads in order had the outcome that fits the room. -/
lemma InStep.orderly_start (h : InStep n none w) {name : List UInt8} {ok : Bool}
    {waiting : List ReadEvent}
    (hok : ThreadsOk H ((threaded H).step w (.call (.start name) ok waiting)).1) :
    Orderly H w (.call (.start name) ok waiting) := by
  intro i hs
  simp only [threaded] at hok
  rw [start_runAwait] at hok
  obtain ⟨l₁, r, l₂, hl, rfl, -, -⟩ := h.sized.of_search hs
  have hat : w.daemon.rooms[l₁.length]? = some r := by rw [hl, Slots.getElem?_split]
  simp only [hs, roomState_split hl] at hok ⊢
  constructor
  · intro hcreated
    by_contra hfailed
    -- the flag is set and there is no thread
    rw [Bool.not_eq_true] at hfailed
    simp only [hcreated, hfailed, reduceCtorEq, Bool.false_eq_true, if_false] at hok
    have hat' : (w.startFailed l₁.length).daemon.rooms[l₁.length]? =
        some { r with active := true, state := .error, monitorThread := none } := by
      rw [rooms_startFailed hl, Slots.getElem?_split]
    have howns : w.Owns l₁.length := (hok.active_iff _ _ hat').mp rfl
    rcases (h.threaded_iff _ r hat).mpr howns with hr | hr
    · rw [hcreated] at hr
      cases hr
    · rw [hcreated] at hr
      cases hr
  · intro herror
    obtain ⟨t, th, ht, hslot, hj⟩ := (h.threaded_iff _ r hat).mp (Or.inr herror)
    simp only [herror, reduceCtorEq, if_false] at hok
    cases ok with
    | true =>
        -- the new handle has replaced that of a thread nobody has joined
        rw [if_pos rfl] at hok
        have hlt := (List.getElem?_eq_some_iff.mp ht).1
        have ht' : ((w.startOk l₁.length).tryControl true).threads[t]? = some th := by
          rw [threads_tryControl]
          change (w.threads ++ [_])[t]? = some th
          rw [List.getElem?_append_left hlt, ht]
        have hnamed := hok.named t th ht' hj
        rw [World.roomThread, daemon_tryControl, hslot, rooms_startOk hl,
          Slots.getElem?_split, Option.some.injEq] at hnamed
        omega
    | false =>
        -- the failed call has lost the handle of that thread
        rw [if_neg Bool.false_ne_true] at hok
        have hnamed := hok.named t th ht hj
        rw [World.roomThread, hslot, rooms_startFailed hl, Slots.getElem?_split] at hnamed
        cases hnamed

/-- A `delete_room` that leaves them in order had no thread to forget. -/
lemma InStep.orderly_delete (h : InStep n none w) {name : List UInt8} {ok : Bool}
    {waiting : List ReadEvent}
    (hok : ThreadsOk H ((threaded H).step w (.call (.delete name) ok waiting)).1) :
    Orderly H w (.call (.delete name) ok waiting) := by
  intro i hs herror
  simp only [threaded] at hok
  rw [delete_runAwait] at hok
  obtain ⟨l₁, r, l₂, hl, rfl, -, -⟩ := h.sized.of_search hs
  have hat : w.daemon.rooms[l₁.length]? = some r := by rw [hl, Slots.getElem?_split]
  rw [roomState_split hl] at herror
  simp only [hs, roomState_split hl, herror, reduceCtorEq, if_false] at hok
  -- the cleared handle was that of a thread nobody has joined
  obtain ⟨t, th, ht, hslot, hj⟩ := (h.threaded_iff _ r hat).mp (Or.inr herror)
  have hnamed := hok.named t th ht hj
  rw [World.roomThread, hslot, rooms_removeRoom hl, Slots.getElem?_split] at hnamed
  cases hnamed

/-- **A disorderly event breaks them.** -/
lemma InStep.not_threadsOk (h : InStep n none w) (e : ThreadEvent) (he : ¬ Orderly H w e) :
    ¬ ThreadsOk H ((threaded H).step w e).1 := by
  intro hok
  refine he ?_
  cases e with
  | monitor e => trivial
  | call op ok waiting =>
      cases op with
      | create name ci => trivial
      | stop name => trivial
      | start name => exact h.orderly_start hok
      | delete name => exact h.orderly_delete hok

/-- The zeroed table is in step. -/
lemma inStep_initial (config : Config) : InStep n none (World.initial H config n) where
  sized := ⟨List.length_replicate, rfl⟩
  threaded_iff i r hr := by
    rw [List.eq_of_mem_replicate (List.mem_of_getElem? hr)]
    simp [RoomInfo.Threaded, RoomInfo.cleared, World.Owns, World.initial]
  active_iff i r hr _ := by
    rw [List.eq_of_mem_replicate (List.mem_of_getElem? hr)]
    simp [RoomInfo.Threaded, RoomInfo.cleared]
  named t th ht _ := by simp [World.initial] at ht
  ended t th ht _ := by simp [World.initial] at ht

end runs

/-- **Flags, handles and joins over a run of calls.** For any number of slots and every run of
calls from the zeroed table, with every outcome of `pthread_create` and of the readings, the flags,
the handles and the joins are right between all calls if and only if every event is orderly. -/
theorem states_threadsOk_iff (config : Config) (n : ℕ) (events : List ThreadEvent) :
    (∀ w ∈ World.initial H config n :: (threaded H).states (.initial H config n) events,
        ThreadsOk H w) ↔
      ∀ x ∈ (threaded H).trace (.initial H config n) events, Orderly H x.1 x.2 := by
  have hinit : InStep n none (World.initial H config n) := inStep_initial config
  rw [List.forall_mem_cons, and_iff_right hinit.threadsOk]
  refine (threaded H).states_iff_trace (I := InStep n none) (C := Orderly H)
    (fun w e h he => h.step e he) (fun w e h _ => ?_) hinit hinit.threadsOk events
  refine ⟨fun hok => ?_, fun he => (h.step e he).threadsOk⟩
  by_contra he
  exact h.not_threadsOk e he hok

/-- The monitor thread of a new room cannot be created. -/
def startWithoutThread : List ThreadEvent :=
  [.call (.create (bytes "cpu") 5) true [], .call (.start (bytes "cpu")) false []]

/-- The flag is set all the same. -/
theorem startWithoutThread_not_threadsOk :
    ¬ ∀ w ∈ World.initial .plain (.zero .plain) 10 ::
        (threaded .plain).states (.initial .plain (.zero .plain) 10) startWithoutThread,
      ThreadsOk .plain w := by
  intro h
  have hlast := h _ ((threaded .plain).run_mem_states _ _)
  have hflag : (((threaded .plain).run (.initial .plain (.zero .plain) 10)
      startWithoutThread).1.daemon.rooms[0]?).any RoomInfo.active = true := by decide
  obtain ⟨r, hr, hactive⟩ := (Option.any_eq_true _ _).mp hflag
  obtain ⟨t, th, ht, -, -⟩ := (hlast.active_iff 0 r hr).mp hactive
  have hnone : ((threaded .plain).run (.initial .plain (.zero .plain) 10)
      startWithoutThread).1.threads = [] := by decide
  rw [hnone] at ht
  cases ht

end ProcessMonitor.Integration
