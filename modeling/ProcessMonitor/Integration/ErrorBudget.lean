import ProcessMonitor.Integration.MonitorThreads

/-!
# The error budget of a room

`room_monitor_thread` of `src/04-integration/main_daemon.c` counts the readings that fail, and gives
its room up after more than ten. `create_room` sets the count to zero; `start_room`, which sets the
other fields that a run of the thread depends on, does not.

`History` is what happens to one slot in a run of calls and of monitor threads: its room is created
or deleted, started, and a reading fails. `budgetKept_iff` says on which runs the room is given up
exactly when more than ten readings have failed since it was started.
-/

namespace ProcessMonitor.Integration

open CString

variable (H : Header)

/-! ## What happens to a slot -/

/-- The slot is filled or cleared, its room is started, or a reading for it fails, after which the
thread has given the room up or has not. -/
inductive Happening
  | replaced
  | started
  | failed (givenUp : Bool)
deriving DecidableEq

/-- The step is a reading of a thread of the slot `i` that fails. -/
def ReadEvent.fails (w : World) (i : ℕ) : ReadEvent → Bool
  | .iterate t result _ =>
      match w.threads[t]? with
      | some th => !th.ended && th.slot = i && result ≠ 0
      | none => false
  | _ => false

/-- After the step its thread has returned, with the room in the state `ROOM_STATE_ERROR`. -/
def ReadEvent.givesUp (w : World) (i : ℕ) : ReadEvent → Bool
  | .iterate t result data =>
      let w' := readStep (.iterate t result data) w
      w'.threadEnded (some t) && w'.roomState i = .error
  | _ => false

/-- What the steps of the monitor threads do to the slot. -/
def readHappenings (i : ℕ) : List ReadEvent → World → List Happening
  | [], _ => []
  | e :: es, w =>
      (if e.fails w i then [.failed (e.givesUp w i)] else []) ++
        readHappenings i es (readStep e w)

/-- What a call does to the slot, where its wait ends. -/
def callHappenings (i : ℕ) (w : World) (op : RoomOp) (ok : Bool) (waiting : List ReadEvent) :
    List Happening :=
  let waited (j : ℕ) : List Happening :=
    if w.roomState j = .running then readHappenings i waiting (w.deactivate j) else []
  match op with
  | .create name _ =>
      if w.daemon.search H name = none ∧ w.daemon.freeSlot = some i then [.replaced] else []
  | .start name =>
      if w.daemon.search H name = some i ∧ w.roomState i ≠ .running ∧ ok = true then [.started]
      else []
  | .stop name =>
      match w.daemon.search H name with
      | some j => waited j
      | none => []
  | .delete name =>
      match w.daemon.search H name with
      | some j => waited j ++ if j = i then [.replaced] else []
      | none => []

/-- What an event does to the slot. A call whose wait would not end is no event. -/
def happenings (i : ℕ) (w : World) : ThreadEvent → List Happening
  | .call op ok waiting =>
      if ((threaded H).step w (.call op ok waiting)).2.isSome then
        callHappenings H i w op ok waiting
      else []
  | .monitor e => readHappenings i [e] w

/-- What a run does to the slot. -/
def history (i : ℕ) : List ThreadEvent → World → List Happening
  | [], _ => []
  | e :: es, w => happenings H i w e ++ history i es ((threaded H).step w e).1

/-! ## The budget -/

/-- The readings that have failed since the last happening with `restart`. -/
def failedSince (restart : Happening → Bool) (hs : List Happening) : ℕ :=
  hs.foldl (fun k h => if restart h then 0 else match h with | .failed _ => k + 1 | _ => k) 0

/-- Filling and clearing the slot. -/
def Happening.isReplaced : Happening → Bool
  | .replaced => true
  | _ => false

/-- Starting the room, or filling and clearing the slot. -/
def Happening.isRestart : Happening → Bool
  | .replaced | .started => true
  | .failed _ => false

/-- The room is given up exactly when more than ten readings have failed since the last happening
with `restart`. -/
def BudgetKept (restart : Happening → Bool) (hs : List Happening) : Prop :=
  ∀ (before after : List Happening) (givenUp : Bool), hs = before ++ .failed givenUp :: after →
    (givenUp = true ↔ 10 < failedSince restart before + 1)

/-- At each reading that fails, at most ten have failed since the room was created, or more than ten
since it was started. -/
def BudgetFull (hs : List Happening) : Prop :=
  ∀ (before after : List Happening) (givenUp : Bool), hs = before ++ .failed givenUp :: after →
    failedSince Happening.isReplaced before + 1 ≤ 10 ∨
      10 < failedSince Happening.isRestart before + 1

section budget

variable (restart : Happening → Bool)

/-- One more happening. -/
lemma failedSince_concat (hs : List Happening) (h : Happening) :
    failedSince restart (hs ++ [h]) =
      if restart h then 0
      else match h with
        | .failed _ => failedSince restart hs + 1
        | _ => failedSince restart hs := by
  rw [failedSince, List.foldl_append]
  rfl

/-- The room has been started since it was created, so that fewer readings have failed since. -/
lemma failedSince_isRestart_le (hs : List Happening) :
    failedSince Happening.isRestart hs ≤ failedSince Happening.isReplaced hs := by
  induction hs using List.reverseRecOn with
  | nil => exact le_rfl
  | append_singleton hs h ih =>
      rw [failedSince_concat, failedSince_concat]
      cases h with
      | replaced => exact le_rfl
      | started => exact Nat.zero_le _
      | failed givenUp => exact Nat.succ_le_succ ih

lemma budgetKept_nil : BudgetKept restart [] := by
  intro before after givenUp h
  exact absurd h.symm (List.append_ne_nil_of_right_ne_nil _ (List.cons_ne_nil _ _))

/-- A happening that is no failed reading. -/
lemma BudgetKept.concat {restart : Happening → Bool} {hs : List Happening}
    (hkept : BudgetKept restart hs) {h : Happening}
    (hlast : ∀ givenUp, h = .failed givenUp →
      (givenUp = true ↔ 10 < failedSince restart hs + 1)) :
    BudgetKept restart (hs ++ [h]) := by
  intro before after givenUp hsplit
  rcases List.eq_nil_or_concat after with rfl | ⟨after, last, rfl⟩
  · obtain ⟨rfl, hh⟩ := List.append_inj' hsplit rfl
    exact hlast givenUp (List.cons.inj hh).1
  · rw [List.concat_eq_append, ← List.cons_append, ← List.append_assoc] at hsplit
    exact hkept before after givenUp (List.append_inj' hsplit rfl).1

/-- **The two budgets.** Where the room is given up by the failures since its creation, it is by
those since its start if and only if the budget is full at each failed reading. -/
lemma budgetKept_isRestart_iff {hs : List Happening} (h : BudgetKept Happening.isReplaced hs) :
    BudgetKept Happening.isRestart hs ↔ BudgetFull hs := by
  constructor
  · intro hrestart before after givenUp hsplit
    have h₁ := h before after givenUp hsplit
    have h₂ := hrestart before after givenUp hsplit
    rw [h₁] at h₂
    omega
  · intro hfull before after givenUp hsplit
    have h₁ := h before after givenUp hsplit
    have h₂ := hfull before after givenUp hsplit
    have hle := failedSince_isRestart_le before
    rw [h₁]
    omega

end budget

/-! ## The count in the slot -/

section count

variable (w : World) (i : ℕ)

/-- A field that is not assigned to, or not in this slot. -/
lemma map_updRoom {α : Type} (g : RoomInfo → α) (j : ℕ) {f : RoomInfo → RoomInfo}
    (hf : j = i → ∀ r, g (f r) = g r) :
    (w.updRoom j f).daemon.rooms[i]?.map g = w.daemon.rooms[i]?.map g := by
  rw [World.rooms_updRoom, List.getElem?_modify]
  cases hr : w.daemon.rooms[i]? with
  | none => rfl
  | some r =>
      by_cases hij : j = i
      · simp only [hij, if_true, Option.map_eq_map, Option.map_some, hf hij r]
      · simp only [hij, if_false, Option.map_eq_map, Option.map_some]

/-- Assigning to other fields, or to other slots, leaves the count. -/
lemma roomErrors_updRoom (j : ℕ) {f : RoomInfo → RoomInfo}
    (hf : j = i → ∀ r, (f r).errorCount = r.errorCount) :
    (w.updRoom j f).roomErrors i = w.roomErrors i := by
  have hcount (w : World) :
      w.roomErrors i = (w.daemon.rooms[i]?.map RoomInfo.errorCount).getD 0 := by
    rw [World.roomErrors]
    cases w.daemon.rooms[i]? <;> rfl
  rw [hcount, hcount, map_updRoom w i RoomInfo.errorCount j hf]

/-- Assigning a count to the slot. -/
lemma roomErrors_updRoom_self (hi : i < w.daemon.rooms.length) {f : RoomInfo → RoomInfo} {c : ℤ}
    (hf : ∀ r, (f r).errorCount = c) : (w.updRoom i f).roomErrors i = c := by
  simp only [World.roomErrors, World.rooms_updRoom, List.getElem?_modify,
    List.getElem?_eq_getElem hi, if_true, Option.map_eq_map, Option.map_some]
  exact hf _

/-- A failed reading is counted. -/
lemma roomErrors_count (hi : i < w.daemon.rooms.length) :
    (w.updRoom i fun r => { r with errorCount := r.errorCount + 1 }).roomErrors i =
      w.roomErrors i + 1 := by
  simp only [World.roomErrors, World.rooms_updRoom, List.getElem?_modify,
    List.getElem?_eq_getElem hi, if_true, Option.map_eq_map, Option.map_some]

/-- The branch of a failed reading counts it in its slot. -/
lemma roomErrors_readFailed (hi : i < w.daemon.rooms.length) (t j : ℕ) :
    (w.readFailed t j).roomErrors i = w.roomErrors i + if j = i then 1 else 0 := by
  have hcount : (w.updRoom j fun r => { r with errorCount := r.errorCount + 1 }).roomErrors i =
      w.roomErrors i + if j = i then 1 else 0 := by
    by_cases hij : j = i
    · rw [hij, if_pos rfl]
      exact roomErrors_count w i hi
    · rw [if_neg hij, add_zero]
      exact roomErrors_updRoom w i j fun h => absurd h hij
  rw [← hcount, World.readFailed]
  split_ifs
  · exact roomErrors_updRoom _ i j fun _ _ => rfl
  · rfl

/-- A reading that fails is the branch for it. -/
lemma ReadEvent.fails_cases {w : World} {i : ℕ} {e : ReadEvent} (h : e.fails w i = true) :
    ∃ t result data th, e = .iterate t result data ∧ w.threads[t]? = some th ∧ th.ended = false ∧
      readStep e w = w.readFailed t i := by
  cases e with
  | iterate t result data =>
      cases hth : w.threads[t]? with
      | none => simp [ReadEvent.fails, hth] at h
      | some th =>
          simp only [ReadEvent.fails, hth, Bool.and_eq_true, Bool.not_eq_true',
            decide_eq_true_eq] at h
          obtain ⟨⟨hended, hslot⟩, hresult⟩ := h
          refine ⟨t, result, data, th, rfl, hth, hended, ?_⟩
          simp only [readStep, hth, hended, World.iterate, hslot]
          rw [if_neg hresult]
          rfl
  | leave t => cases h
  | tick now => cases h

/-- **A step of a monitor thread** counts the failed readings of the slot. -/
lemma roomErrors_readStep (hi : i < w.daemon.rooms.length) (e : ReadEvent) :
    (readStep e w).roomErrors i = w.roomErrors i + if e.fails w i then 1 else 0 := by
  cases e with
  | iterate t result data =>
      cases hth : w.threads[t]? with
      | none => simp [readStep, ReadEvent.fails, hth]
      | some th =>
          cases hended : th.ended with
          | true => simp [readStep, ReadEvent.fails, hth, hended]
          | false =>
              simp only [readStep, ReadEvent.fails, hth, hended, World.iterate]
              by_cases hresult : result = 0
              · have hcollect : (w.collect th.slot data).roomErrors i = w.roomErrors i :=
                  roomErrors_updRoom w i th.slot fun _ _ => rfl
                simp [hresult, hcollect]
              · simp [hresult, roomErrors_readFailed w i hi]
  | leave t =>
      have hfails : (ReadEvent.leave t).fails w i = false := rfl
      rw [hfails, if_neg Bool.false_ne_true, add_zero]
      simp only [readStep, monitorStep]
      split
      · split <;> rfl
      · rfl
  | tick now => exact (add_zero _).symm

/-- **The room is given up** by a failed reading that is the eleventh at least. -/
lemma givesUp_iff (hi : i < w.daemon.rooms.length) {e : ReadEvent} (h : e.fails w i = true) :
    e.givesUp w i = true ↔ 10 < w.roomErrors i + 1 := by
  obtain ⟨t, result, data, th, rfl, hth, hended, hstep⟩ := ReadEvent.fails_cases h
  have hcount := roomErrors_count w i hi
  simp only [ReadEvent.givesUp, hstep, World.readFailed, hcount]
  split_ifs with hmany
  · refine iff_of_true ?_ hmany
    rw [Bool.and_eq_true, decide_eq_true_eq]
    constructor
    · simp [World.threadEnded, World.updThread, World.updRoom, hth]
    · simp [World.roomState, hi]
  · refine iff_of_false ?_ hmany
    simp [World.threadEnded, World.updRoom, hth, hended]

end count

/-! ## Runs -/

/-- After this history: the count in the slot is that of the failed readings since the slot was
filled or cleared, and by them the room has been given up. -/
structure Tracks (i : ℕ) (hs : List Happening) (w : World) : Prop where
  lt : i < w.daemon.rooms.length
  errors_eq : w.roomErrors i = failedSince Happening.isReplaced hs
  kept : BudgetKept Happening.isReplaced hs

namespace Tracks

variable {i : ℕ} {hs : List Happening} {w w' : World} (h : Tracks i hs w)
include h

/-- What leaves the count alone. -/
lemma congr (hlength : w'.daemon.rooms.length = w.daemon.rooms.length)
    (herrors : w'.roomErrors i = w.roomErrors i) : Tracks i hs w' :=
  ⟨hlength.symm ▸ h.lt, herrors.trans h.errors_eq, h.kept⟩

/-- Assigning to other fields of a slot. -/
lemma updRoom (j : ℕ) {f : RoomInfo → RoomInfo} (hf : ∀ r, (f r).errorCount = r.errorCount) :
    Tracks i hs (w.updRoom j f) :=
  h.congr (by rw [World.rooms_updRoom, List.length_modify])
    (roomErrors_updRoom w i j fun _ => hf)

/-- What has nothing to do with the rooms. -/
lemma of_daemon_eq (hd : w'.daemon = w.daemon) : Tracks i hs w' :=
  h.congr (by rw [hd]) (by rw [World.roomErrors, World.roomErrors, hd])

/-- The room is started. -/
lemma started : Tracks i (hs ++ [.started]) w := by
  refine ⟨h.lt, ?_, h.kept.concat fun givenUp heq => by cases heq⟩
  rw [failedSince_concat]
  exact h.errors_eq

/-- The slot is filled or cleared. -/
lemma replaced (hlength : w'.daemon.rooms.length = w.daemon.rooms.length)
    (herrors : w'.roomErrors i = 0) : Tracks i (hs ++ [.replaced]) w' := by
  refine ⟨hlength.symm ▸ h.lt, ?_, h.kept.concat fun givenUp heq => by cases heq⟩
  rw [failedSince_concat]
  exact herrors

/-- **A step of a monitor thread.** -/
lemma readStep (e : ReadEvent) : Tracks i (hs ++ readHappenings i [e] w) (readStep e w) := by
  have hlength : (Integration.readStep e w).daemon.rooms.length = w.daemon.rooms.length := by
    have hmap := congrArg List.length (readStep_beside e w).handles_eq
    rwa [List.length_map, List.length_map] at hmap
  have herrors := roomErrors_readStep w i h.lt e
  rw [readHappenings, readHappenings, List.append_nil]
  cases hfails : e.fails w i with
  | false =>
      rw [hfails, if_neg Bool.false_ne_true, add_zero] at herrors
      rw [if_neg Bool.false_ne_true, List.append_nil]
      exact h.congr hlength herrors
  | true =>
      rw [hfails, if_pos rfl, h.errors_eq] at herrors
      rw [if_pos rfl]
      refine ⟨hlength.symm ▸ h.lt, ?_, h.kept.concat ?_⟩
      · rw [failedSince_concat, herrors]
        exact (Nat.cast_succ _).symm
      · intro givenUp heq
        rw [← Happening.failed.inj heq, givesUp_iff w i h.lt hfails, h.errors_eq]
        omega

/-- Any number of steps of the monitor threads. -/
lemma readSteps (es : List ReadEvent) :
    Tracks i (hs ++ readHappenings i es w) (readSteps es w) := by
  induction es generalizing hs w with
  | nil =>
      rw [readHappenings, List.append_nil]
      exact h
  | cons e es ih =>
      have hrest := ih (h.readStep e)
      rw [readHappenings, readHappenings, List.append_nil, List.append_assoc] at hrest
      exact hrest

/-- The wait of a call. -/
lemma waited (j : ℕ) (waiting : List ReadEvent) :
    Tracks i (hs ++ readHappenings i waiting (w.deactivate j))
      ((w.deactivate j).afterJoin j waiting) := by
  have hreads := (h.updRoom j (f := fun r => { r with active := false }) fun _ => rfl).readSteps
    waiting
  exact hreads.of_daemon_eq (World.daemon_updThread _ _ _)

variable {H}

/-- `create_room` -/
lemma create (name : List UInt8) (ci : ℤ) (ok : Bool) (waiting : List ReadEvent) :
    Tracks i (hs ++ happenings H i w (.call (.create name ci) ok waiting))
      ((threaded H).step w (.call (.create name ci) ok waiting)).1 := by
  simp only [happenings, callHappenings, threaded, create_runAwait]
  cases hsearch : w.daemon.search H name with
  | some j => simpa using h
  | none =>
      cases hf : w.daemon.freeSlot with
      | none => simpa using h
      | some j =>
          by_cases hj : j = i
          · subst hj
            have hadd : (w.addRoom H name ci j).roomErrors j = 0 :=
              roomErrors_updRoom_self w j h.lt fun _ => rfl
            have hnew : Tracks j (hs ++ [.replaced]) (w.addRoom H name ci j) :=
              h.replaced (List.length_modify _ _ _) hadd
            simpa using hnew
          · have hadd : (w.addRoom H name ci j).roomErrors i = w.roomErrors i :=
              roomErrors_updRoom w i j fun heq => absurd heq hj
            have hsame : Tracks i hs (w.addRoom H name ci j) :=
              h.congr (List.length_modify _ _ _) hadd
            simpa [hj] using hsame

/-- The section of a `start_room` whose thread cannot be created. -/
lemma startFailed (j : ℕ) : Tracks i hs (w.startFailed j) := by
  have hset := h.updRoom j (f := fun r => { r with active := true, state := .running })
    fun _ => rfl
  have hlost := hset.updRoom j (f := fun r => { r with monitorThread := none }) fun _ => rfl
  exact hlost.updRoom j fun _ => rfl

/-- The section of a `start_room` whose thread is created. -/
lemma startOk (j : ℕ) : Tracks i hs (w.startOk j) := by
  have hset := h.updRoom j (f := fun r => { r with active := true, state := .running })
    fun _ => rfl
  have hhandle := hset.updRoom j (f := fun r => { r with monitorThread := some w.threads.length })
    fun _ => rfl
  exact hhandle.of_daemon_eq rfl

/-- `start_room` -/
lemma start (name : List UInt8) (ok : Bool) (waiting : List ReadEvent) :
    Tracks i (hs ++ happenings H i w (.call (.start name) ok waiting))
      ((threaded H).step w (.call (.start name) ok waiting)).1 := by
  simp only [happenings, callHappenings, threaded, start_runAwait]
  cases hsearch : w.daemon.search H name with
  | none => simpa using h
  | some j =>
      by_cases hr : w.roomState j = .running
      · have hnot : ¬ (j = i ∧ w.roomState i ≠ .running ∧ ok = true) := by
          rintro ⟨rfl, hne, -⟩
          exact hne hr
        simpa [hr, hnot] using h
      · cases ok with
        | false => simpa [hr] using h.startFailed j
        | true =>
            have hspawned : Tracks i hs ((w.startOk j).tryControl true) :=
              (h.startOk j).of_daemon_eq (daemon_tryControl _ true)
            by_cases hj : j = i
            · subst hj
              simpa [hr] using hspawned.started
            · simpa [hr, hj] using hspawned

/-- `stop_room` -/
lemma stop (name : List UInt8) (ok : Bool) (waiting : List ReadEvent) :
    Tracks i (hs ++ happenings H i w (.call (.stop name) ok waiting))
      ((threaded H).step w (.call (.stop name) ok waiting)).1 := by
  simp only [happenings, callHappenings, threaded, stop_runAwait]
  cases hsearch : w.daemon.search H name with
  | none => simpa using h
  | some j =>
      by_cases hr : w.roomState j = .running
      · simp only [hr, if_true]
        by_cases hended : (Integration.readSteps waiting (w.deactivate j)).threadEnded
            ((w.deactivate j).roomThread j) = true
        · simp only [hended, if_true, Option.isSome_some]
          refine Tracks.of_daemon_eq ?_ (daemon_tryControl _ false)
          exact (h.waited j waiting).updRoom j fun _ => rfl
        · simpa [hended] using h
      · simpa [hr] using h

/-- `delete_room` -/
lemma delete (name : List UInt8) (ok : Bool) (waiting : List ReadEvent) :
    Tracks i (hs ++ happenings H i w (.call (.delete name) ok waiting))
      ((threaded H).step w (.call (.delete name) ok waiting)).1 := by
  have hremove {hs : List Happening} {w : World} (h : Tracks i hs w) (j : ℕ) :
      Tracks i (hs ++ if j = i then [.replaced] else []) (w.removeRoom H j) := by
    have hlength : (w.removeRoom H j).daemon.rooms.length = w.daemon.rooms.length :=
      List.length_modify _ _ _
    split_ifs with hj
    · subst hj
      exact h.replaced hlength (roomErrors_updRoom_self w j h.lt fun _ => rfl)
    · rw [List.append_nil]
      exact h.congr hlength (roomErrors_updRoom w i j fun heq => absurd heq hj)
  simp only [happenings, callHappenings, threaded, delete_runAwait]
  cases hsearch : w.daemon.search H name with
  | none => simpa using h
  | some j =>
      by_cases hr : w.roomState j = .running
      · simp only [hr, if_true]
        by_cases hended : (Integration.readSteps waiting (w.deactivate j)).threadEnded
            ((w.deactivate j).roomThread j) = true
        · simp only [hended, if_true, Option.isSome_some]
          rw [← List.append_assoc]
          exact hremove (h.waited j waiting) j
        · simpa [hended] using h
      · simpa [hr] using hremove h j

/-- **One event.** -/
lemma event (e : ThreadEvent) :
    Tracks i (hs ++ happenings H i w e) ((threaded H).step w e).1 := by
  cases e with
  | call op ok waiting =>
      cases op with
      | create name ci => exact h.create name ci ok waiting
      | start name => exact h.start name ok waiting
      | stop name => exact h.stop name ok waiting
      | delete name => exact h.delete name ok waiting
  | monitor e => exact h.readStep e

/-- **A run.** -/
lemma run (events : List ThreadEvent) :
    Tracks i (hs ++ history H i events w) ((threaded H).run w events).1 := by
  induction events generalizing hs w with
  | nil =>
      rw [history, List.append_nil]
      exact h
  | cons e events ih =>
      rw [history, ← List.append_assoc]
      exact ih (h.event e)

end Tracks

/-- Before the first call. -/
lemma tracks_initial (config : Config) {n i : ℕ} (hi : i < n) :
    Tracks i [] (World.initial H config n) := by
  have hrooms : (World.initial H config n).daemon.rooms[i]? = some (RoomInfo.cleared H) :=
    List.getElem?_replicate_of_lt hi
  refine ⟨?_, ?_, budgetKept_nil _⟩
  · exact hi.trans_eq List.length_replicate.symm
  · rw [World.roomErrors, hrooms]
    rfl

/-- **The error budget.** In every run of calls and of monitor threads, the room in a slot is given
up exactly when more than ten readings have failed since it was started, if and only if at each
failed reading at most ten have failed since the room was created, or more than ten since it was
started. -/
theorem budgetKept_iff (config : Config) (n : ℕ) (i : Fin n) (events : List ThreadEvent) :
    BudgetKept Happening.isRestart (history H i events (World.initial H config n)) ↔
      BudgetFull (history H i events (World.initial H config n)) :=
  budgetKept_isRestart_iff ((tracks_initial H config i.isLt).run events).kept

/-- A room is started, and six readings fail; it is stopped and started again, and five fail. -/
def startedTwice : List ThreadEvent :=
  [[.call (.create (bytes "cpu") 5) true [], .call (.start (bytes "cpu")) true []],
    List.replicate 6 (.monitor (.iterate 0 (-1) {})),
    [.call (.stop (bytes "cpu")) true [.leave 0], .call (.start (bytes "cpu")) true []],
    List.replicate 5 (.monitor (.iterate 1 (-1) {}))].flatten

/-- The room is given up after the fifth failure since its second start. -/
theorem startedTwice_not_budgetKept :
    let w := World.initial .plain (.zero .plain) 10
    (((threaded .plain).run w startedTwice).1.roomState 0 = .error) ∧
      ¬ BudgetKept Happening.isRestart (history .plain 0 startedTwice w) := by
  intro w
  refine ⟨by decide +kernel, ?_⟩
  intro h
  let before : List Happening := [[.replaced, .started], List.replicate 6 (.failed false),
    [.started], List.replicate 4 (.failed false)].flatten
  have hsplit : history .plain 0 startedTwice w = before ++ [Happening.failed true] := by
    decide +kernel
  exact absurd ((h before [] true hsplit).mp rfl) (by decide)

end ProcessMonitor.Integration
