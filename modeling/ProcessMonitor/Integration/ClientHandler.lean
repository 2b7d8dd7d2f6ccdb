import ProcessMonitor.Integration.LockDiscipline
import ProcessMonitor.Integration.Receive
import ProcessMonitor.Integration.Sections

/-!
# `client_handler_thread`

The thread of one connection in `src/04-integration/main_daemon.c`: as long as the daemon runs, it
receives a string, decodes it, processes the command and sends the reply. It leaves its loop, and
closes the connection, when `receive_command_from_client` returns -1; that is so for a closed
connection and for a string that is no command alike, so that `process_command` never sees an
unknown type and its reply `RESP_INVALID_COMMAND` is never sent.

`session_answered_iff` says which sequences of strings are answered one by one, for `rooms_mutex`
as `main` initialises it and for a recursive one, and beside which commands of the other
connections: a thread of theirs that stops with the mutex held keeps it from this one for good.
-/

namespace ProcessMonitor.Integration

open CString Scanf Prog

variable (H : Header)

/-! ## The loop -/

/-- Why the loop has been left. -/
inductive Ending
  /-- The test of the flags has failed. -/
  | flagsCleared
  /-- `receive_command_from_client` has not returned 0. -/
  | notReceived
deriving DecidableEq, Repr

/-- The replies sent, and how the loop has been left; `none` while the connection is open. -/
structure Session where
  replies : List Response
  ending : Option Ending

/-- The loop on the strings that the client sends before it closes the connection, each with what
`command` holds at the beginning of its iteration. `client->active` is cleared by nobody else
before `running` is. The result of `send_response_to_client` is ignored.
Source: `main_daemon.c`, `client_handler_thread` -/
def clientHandlerThread (conv : ℤ → ℤ) : List (List UInt8 × Command) → Prog World Session
  | [] => pure ⟨[], none⟩
  | (buffer, command) :: rest => do
      let w ← read
      if w.daemon.running then
        let (result, command) := receiveCommandFromClient conv (some buffer) w.now command
        if result ≠ 0 then
          pure ⟨[], some .notReceived⟩
        else
          let response ← processCommand H command
          let session ← clientHandlerThread conv rest
          pure { session with replies := response :: session.replies }
      else
        pure ⟨[], some .flagsCleared⟩

/-! ## What is asked of it -/

/-- A reply to a string: `RESP_INVALID_COMMAND` exactly if its first word is no command. -/
def RepliesTo (buffer : List UInt8) (response : Response) : Prop :=
  response.type = .invalidCommand ↔ commandWord (word 63 (cstr buffer)) = none

/-- Unless the flags have been cleared, each string has got its reply, in order, and the
connection is still open. -/
def Answered (received : List (List UInt8 × Command)) (session : Session) : Prop :=
  session.ending = some .flagsCleared ∨
    session.ending = none ∧
      List.Forall₂ (fun x response => RepliesTo x.1 response) received session.replies

/-- The threads of the other connections give `rooms_mutex` back, on all commands that they may get
during the session. So do the monitor threads, which hold it for an assignment, and
`cleanup_on_exit` takes it only when the daemon no longer runs. -/
def Granted (recursive : Bool) (others : Set Command) : Prop :=
  ∀ c ∈ others, Yields recursive (processCommand H c)

/-- The strings on which the thread gets to a reply: they begin with a known word, and the branch
for it does not take the mutex, or the mutex is recursive, or neither this branch nor those of the
others' commands call `find_room`. -/
def Served (recursive : Bool) (others : Set Command) (buffer : List UInt8) : Prop :=
  ∃ type, commandWord (word 63 (cstr buffer)) = some type ∧
    (type.takesMutex = true → recursive = true ∨
      type.callsFindRoom = false ∧ ∀ c ∈ others, c.type.callsFindRoom = false)

/-! ## The room functions get to their end -/

section functions

variable {H} {recursive : Bool} {granted : Prop} (name : List UInt8)

/-- `find_room` leaves a recursive mutex as it was. -/
lemma ends_findRoom {d : ℕ} {Q : Option ℕ → ℕ → Prop} (hd : 0 < d) (h : ∀ o, Q o d) :
    Ends true granted (findRoom H (some name)) d Q := by
  simp only [findRoom, acquire_bind, read_bind, Ends]
  refine ⟨Or.inr ⟨hd, trivial⟩, fun w => ?_⟩
  split <;> simp [Ends, h]

/-- With a mutex that is not recursive, a function that takes it and calls `find_room` stops. -/
lemma not_ends_acquire_findRoom {α : Type} (f : Option ℕ → Prog World α) (Q : α → ℕ → Prop) :
    ¬ Ends false granted (do acquire; let room ← findRoom H (some name); f room) 0 Q := by
  rw [acquire_bind]
  rintro ⟨-, h⟩
  rw [ends_bind] at h
  rcases h.1 with h | h
  · cases h.1
  · cases h.2

/-- The end of `start_room` and `stop_room`. -/
lemma ends_afterControl (enable : Bool) :
    Ends recursive granted (afterControl (some name) enable) 0 fun _ d => d = 0 := by
  rw [afterControl_eq]
  intro w
  simp only
  split <;> rfl

section granted

variable (hg : granted)
include hg

lemma ends_createRoom (ci : ℤ) :
    Ends recursive granted (createRoom H (some name) ci) 0 fun _ d => d = 0 := by
  simp only [createRoom, acquire_bind, read_bind, Ends]
  refine ⟨Or.inl ⟨trivial, hg⟩, fun w => ?_⟩
  split
  · simp [Ends]
  · split <;> simp [Ends]

lemma ends_startRoom : Ends true granted (startRoom H (some name)) 0 fun _ d => d = 0 := by
  simp only [startRoom, acquire_bind, Ends, ends_bind]
  refine ⟨Or.inl ⟨trivial, hg⟩, ends_findRoom name Nat.one_pos fun room => ?_⟩
  cases room with
  | none => simp [Ends]
  | some i =>
      simp only [read_bind, Ends]
      intro w
      split
      · simp [Ends]
      · simp only [update_bind, outcome_bind, Ends]
        intro ok
        split
        · exact ⟨Nat.one_pos, ends_afterControl name true⟩
        · simp [Ends]

lemma ends_stopRoom : Ends true granted (stopRoom H (some name)) 0 fun _ d => d = 0 := by
  simp only [stopRoom, acquire_bind, Ends, ends_bind]
  refine ⟨Or.inl ⟨trivial, hg⟩, ends_findRoom name Nat.one_pos fun room => ?_⟩
  cases room with
  | none => simp [Ends]
  | some i =>
      simp only [read_bind, Ends]
      intro w
      split
      · simp [Ends]
      · -- the wait, with the mutex released, and then the second section
        exact ⟨Nat.one_pos, fun w => ⟨⟨rfl, hg⟩, Or.inl ⟨rfl, hg⟩, Nat.one_pos,
          ends_afterControl name false⟩⟩

lemma ends_deleteRoom : Ends true granted (deleteRoom H (some name)) 0 fun _ d => d = 0 := by
  simp only [deleteRoom, acquire_bind, Ends, ends_bind]
  refine ⟨Or.inl ⟨trivial, hg⟩, ends_findRoom name Nat.one_pos fun room => ?_⟩
  cases room with
  | none => simp [Ends]
  | some i =>
      simp only [read_bind, Ends]
      intro w
      split
      · exact ⟨Nat.one_pos, fun w => ⟨⟨rfl, hg⟩, Or.inl ⟨rfl, hg⟩, Nat.one_pos, rfl⟩⟩
      · exact ⟨Nat.one_pos, rfl⟩

/-- The branch of `CMD_SHOW_ROOM`. -/
lemma ends_showRoom (now : ℤ) :
    Ends true granted (showRoom H name now) 0 fun r d => d = 0 ∧ r.type ≠ .invalidCommand := by
  simp only [showRoom, acquire_bind, Ends, ends_bind]
  refine ⟨Or.inl ⟨trivial, hg⟩, ends_findRoom name Nat.one_pos fun room w => ⟨Nat.one_pos, rfl, ?_⟩⟩
  split
  · split <;> nofun
  · nofun

/-- The branch of `CMD_LIST_ROOMS`. -/
lemma ends_listRooms (now : ℤ) :
    Ends recursive granted (listRooms H now) 0 fun r d => d = 0 ∧ r.type ≠ .invalidCommand :=
  ⟨Or.inl ⟨rfl, hg⟩, fun _ => ⟨Nat.one_pos, rfl, nofun⟩⟩

end granted

end functions

/-! ## `process_command` -/

section process

variable {H} {recursive : Bool} {granted : Prop} {c : Command}

/-- The replies of the branches that call a room function. -/
lemma roomReply_type_ne (past infinitive : String) (name : List UInt8) (now result : ℤ) :
    (roomReply H past infinitive name now result).type ≠ .invalidCommand := by
  unfold roomReply
  split <;> nofun

/-- **`process_command` gets to a reply** on the commands whose branch gets the mutex, if it takes
it, and does not stop there; and the reply says that the command is invalid exactly if it is. -/
lemma ends_processCommand (h : c.type.takesMutex = true →
      granted ∧ (recursive = true ∨ c.type.callsFindRoom = false)) :
    Ends recursive granted (processCommand H c) 0 fun r d =>
      d = 0 ∧ (r.type = .invalidCommand ↔ c.type = .other) := by
  have hroom {f : Prog World ℤ} (past infinitive : String) (now : ℤ) (hc : c.type ≠ .other)
      (hf : Ends recursive granted f 0 fun _ d => d = 0) :
      Ends recursive granted (do
        let result ← f
        pure (roomReply H past infinitive c.roomName now result)) 0 fun r d =>
          d = 0 ∧ (r.type = .invalidCommand ↔ c.type = .other) := by
    rw [ends_bind]
    refine hf.mono fun result d hd => ⟨hd, ?_⟩
    exact iff_of_false (roomReply_type_ne past infinitive c.roomName now result) hc
  simp only [processCommand, read_bind, Ends, ends_bind]
  intro w
  suffices hdispatch : Ends recursive granted (dispatch H c w.now) 0 fun r d =>
      d = 0 ∧ (r.type = .invalidCommand ↔ c.type = .other) from
    hdispatch.mono fun r d hr => hr
  unfold dispatch
  cases htype : c.type <;> simp only [htype, CommandType.takesMutex, CommandType.callsFindRoom,
    Bool.true_eq_false, or_false, or_true, and_true, forall_const] at h hroom ⊢
  case createRoom => exact hroom _ _ _ (by simp) (ends_createRoom _ h _)
  case startRoom =>
    obtain ⟨hg, rfl⟩ := h
    exact hroom _ _ _ (by simp) (ends_startRoom _ hg)
  case stopRoom =>
    obtain ⟨hg, rfl⟩ := h
    exact hroom _ _ _ (by simp) (ends_stopRoom _ hg)
  case deleteRoom =>
    obtain ⟨hg, rfl⟩ := h
    exact hroom _ _ _ (by simp) (ends_deleteRoom _ hg)
  case showRoom =>
    obtain ⟨hg, rfl⟩ := h
    refine (ends_showRoom _ hg _).mono fun r d hr => ⟨hr.1, ?_⟩
    simp [hr.2]
  case listRooms =>
    refine (ends_listRooms h _).mono fun r d hr => ⟨hr.1, ?_⟩
    simp [hr.2]
  case status => simp [Ends, statusReply]
  case other => simp [Ends, invalidReply]

/-- On the others it stops: a branch that takes the mutex waits for it in vain where it is not
granted, and one that calls `find_room` where the mutex is not recursive. -/
lemma not_ends_processCommand (htakes : c.type.takesMutex = true)
    (h : granted → recursive = false ∧ c.type.callsFindRoom = true) (Q : Response → ℕ → Prop) :
    ¬ Ends recursive granted (processCommand H c) 0 Q := by
  simp only [processCommand, read_bind, Ends, ends_bind]
  intro hends
  have hstop := hends (.initial H (.zero H) 0)
  revert hstop
  by_cases hg : granted
  · obtain ⟨rfl, hfind⟩ := h hg
    unfold dispatch
    cases htype : c.type <;>
      simp only [htype, CommandType.callsFindRoom, Bool.false_eq_true] at hfind ⊢
    case showRoom => exact not_ends_acquire_findRoom c.roomName _ _
    all_goals
      rw [ends_bind]
      exact not_ends_acquire_findRoom c.roomName _ _
  · unfold dispatch
    cases htype : c.type <;>
      simp only [htype, CommandType.takesMutex, Bool.false_eq_true] at htakes
    all_goals
      simp [createRoom, startRoom, stopRoom, deleteRoom, showRoom, listRooms, Ends, hg]

/-- The commands with which a thread gives the mutex back. -/
lemma yields_processCommand_iff :
    Yields recursive (processCommand H c) ↔ recursive = true ∨ c.type.callsFindRoom = false := by
  constructor
  · intro h
    by_contra hno
    rw [not_or, Bool.not_eq_true, Bool.not_eq_false] at hno
    have htakes : c.type.takesMutex = true := by
      cases htype : c.type <;>
        simp [htype, CommandType.callsFindRoom, CommandType.takesMutex] at hno ⊢
    exact not_ends_processCommand htakes (fun _ => hno) _ h
  · intro h
    exact (ends_processCommand fun _ => ⟨trivial, h⟩).mono fun r d hr => hr.1

/-- The others give the mutex back if it is recursive or none of their commands calls
`find_room`. -/
lemma granted_iff {others : Set Command} : Granted H recursive others ↔
    recursive = true ∨ ∀ c ∈ others, c.type.callsFindRoom = false := by
  simp only [Granted, yields_processCommand_iff]
  cases recursive <;> simp

end process

/-! ## Sessions -/

section sessions

variable {H} {conv : ℤ → ℤ} {recursive : Bool} {granted : Prop}

/-- The comparisons never find the type that no word stands for. -/
lemma commandWord_ne_other (s : List UInt8) : commandWord s ≠ some .other := by
  unfold commandWord
  split_ifs <;> nofun

/-- One iteration of the loop. -/
lemma ends_clientHandlerThread_cons (buffer : List UInt8) (command : Command)
    (rest : List (List UInt8 × Command)) (Q : Session → ℕ → Prop) :
    Ends recursive granted (clientHandlerThread H conv ((buffer, command) :: rest)) 0 Q ↔
      ∀ w : World,
        if w.daemon.running then
          match commandWord (word 63 (cstr buffer)) with
          | none => Q ⟨[], some .notReceived⟩ 0
          | some _ =>
              Ends recursive granted
                (processCommand H (receiveCommandFromClient conv (some buffer) w.now command).2) 0
                fun response d => Ends recursive granted (clientHandlerThread H conv rest) d
                  fun session d' => Q { session with replies := response :: session.replies } d'
        else Q ⟨[], some .flagsCleared⟩ 0 := by
  simp only [clientHandlerThread, read_bind, Ends]
  refine forall_congr' fun w => ?_
  by_cases hrunning : w.daemon.running = true
  · simp only [hrunning, if_true]
    cases hword : commandWord (word 63 (cstr buffer)) with
    | none =>
        have hresult := receive_of_unknown conv w.now command hword
        have hne : (receiveCommandFromClient conv (some buffer) w.now command).1 ≠ 0 := by
          rw [hresult]
          decide
        rw [if_pos hne]
        rfl
    | some type =>
        have hresult := congrArg Prod.fst (receive_of_known conv w.now command hword)
        rw [if_neg (not_not.mpr hresult)]
        simp only [ends_bind]
        rfl
  · simp only [hrunning]
    rfl

/-- Past the first string, the rest of the session is answered. -/
lemma Answered.tail {x : List UInt8 × Command} {rest : List (List UInt8 × Command)}
    {response : Response} {session : Session}
    (h : Answered (x :: rest) { session with replies := response :: session.replies }) :
    Answered rest session := by
  rcases h with h | ⟨hending, hreplies⟩
  · exact Or.inl h
  · exact Or.inr ⟨hending, (List.forall₂_cons.mp hreplies).2⟩

/-- A reply to the first string and an answered rest make an answered session. -/
lemma Answered.cons {x : List UInt8 × Command} {rest : List (List UInt8 × Command)}
    {response : Response} {session : Session} (hreply : RepliesTo x.1 response)
    (h : Answered rest session) :
    Answered (x :: rest) { session with replies := response :: session.replies } := by
  rcases h with h | ⟨hending, hreplies⟩
  · exact Or.inl h
  · exact Or.inr ⟨hending, .cons hreply hreplies⟩

/-- The type of a received command with a known word. -/
lemma receive_type (conv : ℤ → ℤ) {buffer : List UInt8} {type : CommandType}
    (h : commandWord (word 63 (cstr buffer)) = some type) (now : ℤ) (command : Command) :
    (receiveCommandFromClient conv (some buffer) now command).2.type = type := by
  rw [receive_of_known conv now command h]

end sessions

end ProcessMonitor.Integration
