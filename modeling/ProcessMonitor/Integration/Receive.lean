import ProcessMonitor.Lib.Scanf
import ProcessMonitor.Integration.Commands

/-!
# `receive_command_from_client`

The parser of `src/04-integration/main_daemon.c`: one `sscanf` into a `command_t` that nobody has
initialised, then a chain of comparisons. `sscanf` assigns as many fields as the line has tokens
for, and the others keep what the object held before.

`process_command` reads a command's type and the fields in `Command.consumed` (`dispatch_congr`).
`receive_independent_iff` says for which lines these do not depend on the previous contents.
-/

namespace ProcessMonitor.Integration

open CString Decimal Scanf Prog

/-! ## Receiving -/

/-- What `sscanf` stores in a `char` array: the bytes and a NUL, before what was there. -/
def storeStr (s prior : List UInt8) : List UInt8 := s ++ 0 :: prior.drop (s.length + 1)

/-- The assignments to `command->room_name`, `command->param1` and `command->param2`. -/
def storeFields : List Val → Command → Command
  | [.bytes name], c => { c with roomName := storeStr name c.roomName }
  | [.bytes name, .int p1], c => { c with roomName := storeStr name c.roomName, param1 := p1 }
  | [.bytes name, .int p1, .int p2], c =>
      { c with roomName := storeStr name c.roomName, param1 := p1, param2 := p2 }
  | _, c => c

/-- The comparisons of `cmd_str` with the seven words. -/
def commandWord (cmdStr : List UInt8) : Option CommandType :=
  if strcmp cmdStr (bytes "create") = 0 then some .createRoom
  else if strcmp cmdStr (bytes "start") = 0 then some .startRoom
  else if strcmp cmdStr (bytes "stop") = 0 then some .stopRoom
  else if strcmp cmdStr (bytes "delete") = 0 then some .deleteRoom
  else if strcmp cmdStr (bytes "show") = 0 then some .showRoom
  else if strcmp cmdStr (bytes "list") = 0 then some .listRooms
  else if strcmp cmdStr (bytes "status") = 0 then some .status
  else none

/-- `"%63s %63s %d %d"` -/
def commandFormat : List Directive := [.str 63, .space, .str 63, .space, .int, .space, .int]

/-- The result, and what the function leaves in the command; `received` is `none` when `recv`
returns 0 or less, and `conv` is the `int` that `%d` stores for a numeral.
Source: `main_daemon.c`, `receive_command_from_client` -/
def receiveCommandFromClient (conv : ℤ → ℤ) (received : Option (List UInt8)) (now : ℤ)
    (command : Command) : ℤ × Command :=
  match received with
  | none => (-1, command)
  | some buffer =>
      match sscanf conv commandFormat buffer with
      | .bytes cmdStr :: fields =>
          let command := storeFields fields command
          match commandWord cmdStr with
          | some type => (0, { command with type := type, timestamp := now })
          | none => (-1, command)
      | _ => (-1, command)

/-! ## What `process_command` reads -/

/-- The fields that `process_command` reads for the type of a command: the string in `room_name`
and `param1`. -/
def Command.consumed (c : Command) : Option (List UInt8) × Option ℤ :=
  match c.type with
  | .createRoom => (some (cstr c.roomName), some c.param1)
  | .startRoom | .stopRoom | .deleteRoom | .showRoom => (some (cstr c.roomName), none)
  | .listRooms | .status | .other => (none, none)

section congr

variable (H : Header) {name name' : List UInt8} (h : cstr name = cstr name')
include h

/-- The searches read a name as a string. -/
lemma search_congr (d : DaemonState) : d.search H name = d.search H name' := by
  unfold DaemonState.search RoomInfo.hasName strncmp
  rw [h]

lemma findRoom_congr : findRoom H (some name) = findRoom H (some name') := by
  unfold findRoom
  simp only [search_congr H h]

lemma createRoom_congr (ci : ℤ) : createRoom H (some name) ci = createRoom H (some name') ci := by
  have hadd : World.addRoom H name ci = World.addRoom H name' ci := by
    unfold World.addRoom RoomInfo.fill strncpy
    rw [h]
  unfold createRoom
  simp only [search_congr H h, hadd]

lemma startRoom_congr : startRoom H (some name) = startRoom H (some name') := by
  unfold startRoom
  rw [findRoom_congr H h]
  rfl

lemma stopRoom_congr : stopRoom H (some name) = stopRoom H (some name') := by
  unfold stopRoom
  rw [findRoom_congr H h]
  rfl

lemma deleteRoom_congr : deleteRoom H (some name) = deleteRoom H (some name') := by
  unfold deleteRoom
  rw [findRoom_congr H h]

lemma showRoom_congr (now : ℤ) : showRoom H name now = showRoom H name' now := by
  unfold showRoom showRoom.notFound
  rw [findRoom_congr H h, h]

lemma roomReply_congr (past infinitive : String) (now result : ℤ) :
    roomReply H past infinitive name now result = roomReply H past infinitive name' now result := by
  unfold roomReply
  rw [h]

end congr

/-- **Two commands of one type with the same consumed fields are processed alike.** -/
theorem dispatch_congr (H : Header) {c c' : Command} (htype : c.type = c'.type)
    (hfields : c.consumed = c'.consumed) (now : ℤ) : dispatch H c now = dispatch H c' now := by
  unfold Command.consumed at hfields
  unfold dispatch
  rw [← htype] at hfields ⊢
  cases ht : c.type <;> simp only [ht, Prod.mk.injEq, Option.some.injEq] at hfields ⊢
  case createRoom =>
    rw [createRoom_congr H hfields.1, hfields.2]
    simp only [roomReply_congr H hfields.1]
  case startRoom =>
    rw [startRoom_congr H hfields.1]
    simp only [roomReply_congr H hfields.1]
  case stopRoom =>
    rw [stopRoom_congr H hfields.1]
    simp only [roomReply_congr H hfields.1]
  case deleteRoom =>
    rw [deleteRoom_congr H hfields.1]
    simp only [roomReply_congr H hfields.1]
  case showRoom => exact showRoom_congr H hfields.1 now

/-! ## What a line fills -/

/-- The format behind the command word. -/
def fieldFormat : List Directive := [.space, .str 63, .space, .int, .space, .int]

section fields

variable (conv : ℤ → ℤ) (s : List UInt8) (c : Command)

/-- The string in `room_name` is the line's next word, or else the old one. -/
lemma cstr_roomName_storeFields (hs : (0 : UInt8) ∉ s) :
    cstr (storeFields (scan conv fieldFormat s) c).roomName =
      if word 63 s = [] then cstr c.roomName else word 63 s := by
  have hword : (0 : UInt8) ∉ word 63 s := fun h => hs (mem_of_mem_word h)
  simp only [fieldFormat, scan_space, scan_str, word_dropWhile, afterWord_dropWhile, scan_int,
    scanInt_dropWhile]
  by_cases hw : word 63 s = []
  · simp only [hw, if_true]
    rfl
  · simp only [hw, if_false]
    split
    · exact cstr_append_zero hword _
    · split
      · exact cstr_append_zero hword _
      · exact cstr_append_zero hword _

/-- `param1` is the number behind that word, or else the old one. -/
lemma param1_storeFields :
    (storeFields (scan conv fieldFormat s) c).param1 =
      if word 63 s = [] then c.param1
      else
        match scanInt (afterWord 63 s) with
        | none => c.param1
        | some (z, _) => conv z := by
  simp only [fieldFormat, scan_space, scan_str, word_dropWhile, afterWord_dropWhile, scan_int,
    scanInt_dropWhile]
  by_cases hw : word 63 s = []
  · simp only [hw, if_true]
    rfl
  · simp only [hw, if_false]
    cases scanInt (afterWord 63 s) with
    | none => rfl
    | some zr =>
        simp only
        split <;> rfl

end fields

section received

variable (conv : ℤ → ℤ) {buffer : List UInt8} (now : ℤ) (c : Command)

/-- A string whose first word is no command is refused. -/
lemma receive_of_unknown (h : commandWord (word 63 (cstr buffer)) = none) :
    (receiveCommandFromClient conv (some buffer) now c).1 = -1 := by
  have hscan : sscanf conv commandFormat buffer =
      scan conv (.str 63 :: fieldFormat) (cstr buffer) := rfl
  simp only [receiveCommandFromClient, hscan, scan_str]
  by_cases hw : word 63 (cstr buffer) = []
  · simp only [hw, if_true]
  · simp only [hw, if_false, h]

/-- **What a string with a command word does**: the rest of the line fills the fields. -/
lemma receive_of_known {type : CommandType}
    (h : commandWord (word 63 (cstr buffer)) = some type) :
    receiveCommandFromClient conv (some buffer) now c =
      (0, { storeFields (scan conv fieldFormat (afterWord 63 (cstr buffer))) c with
        type := type, timestamp := now }) := by
  have hscan : sscanf conv commandFormat buffer =
      scan conv (.str 63 :: fieldFormat) (cstr buffer) := rfl
  have hw : word 63 (cstr buffer) ≠ [] := by
    intro hw
    rw [hw] at h
    exact absurd h (by decide +revert)
  simp only [receiveCommandFromClient, hscan, scan_str, hw, if_false, h]

end received

/-- The consumed fields after a call with the command word of `type` do not depend on the previous
contents, for the rest `s` of the line. -/
def FillsConsumed (type : CommandType) (s : List UInt8) : Prop :=
  match type with
  | .createRoom => word 63 s ≠ [] ∧ (scanInt (afterWord 63 s)).isSome = true
  | .startRoom | .stopRoom | .deleteRoom | .showRoom => word 63 s ≠ []
  | .listRooms | .status | .other => True

/-- The line is refused, or it has the tokens that its command needs: a second word for all
commands on one room, and behind it a number for `create`. -/
def Complete (line : List UInt8) : Prop :=
  ∀ type ∈ commandWord (word 63 line), FillsConsumed type (afterWord 63 line)

/-- The result of a call, and the type and the consumed fields after a success, do not depend on
what the command held before. -/
def Independent (conv : ℤ → ℤ) (received : Option (List UInt8)) : Prop :=
  ∀ (now : ℤ) (prior prior' : Command),
    let r := receiveCommandFromClient conv received now prior
    let r' := receiveCommandFromClient conv received now prior'
    r.1 = r'.1 ∧ (r.1 = 0 → r.2.type = r'.2.type ∧ r.2.consumed = r'.2.consumed)

/-- The consumed fields of two previous contents agree exactly when the line fills them. -/
lemma consumed_agree_iff (conv : ℤ → ℤ) (type : CommandType) {s : List UInt8}
    (hs : (0 : UInt8) ∉ s) (now : ℤ) :
    (∀ prior prior' : Command,
      Command.consumed { storeFields (scan conv fieldFormat s) prior with
          type := type, timestamp := now } =
        Command.consumed { storeFields (scan conv fieldFormat s) prior' with
          type := type, timestamp := now }) ↔ FillsConsumed type s := by
  -- two contents that differ in both fields
  obtain ⟨a, b, hab, hab'⟩ : ∃ a b : Command,
      cstr a.roomName ≠ cstr b.roomName ∧ a.param1 ≠ b.param1 :=
    ⟨⟨.other, bytes "a", 0, 0, 0⟩, ⟨.other, bytes "b", 1, 0, 0⟩, by decide, by decide⟩
  have hname (prior : Command) := cstr_roomName_storeFields conv s prior hs
  have hparam (prior : Command) := param1_storeFields conv s prior
  have hneed (h : ∀ prior prior' : Command,
      cstr (storeFields (scan conv fieldFormat s) prior).roomName =
        cstr (storeFields (scan conv fieldFormat s) prior').roomName) : word 63 s ≠ [] := by
    intro hw
    have hbad := h a b
    rw [hname, hname, if_pos hw, if_pos hw] at hbad
    exact hab hbad
  cases type with
  | createRoom =>
      simp only [Command.consumed, FillsConsumed, Prod.mk.injEq, Option.some.injEq]
      constructor
      · intro h
        have hw := hneed fun prior prior' => (h prior prior').1
        refine ⟨hw, ?_⟩
        have hbad := (h a b).2
        rw [hparam, hparam, if_neg hw, if_neg hw] at hbad
        cases hint : scanInt (afterWord 63 s) with
        | none =>
            rw [hint] at hbad
            exact absurd hbad hab'
        | some zr => rfl
      · rintro ⟨hw, hint⟩ prior prior'
        obtain ⟨zr, hzr⟩ := Option.isSome_iff_exists.mp hint
        rw [hname, hname, hparam, hparam, if_neg hw, if_neg hw, if_neg hw, if_neg hw, hzr]
        exact ⟨rfl, rfl⟩
  | listRooms => simp [Command.consumed, FillsConsumed]
  | status => simp [Command.consumed, FillsConsumed]
  | other => simp [Command.consumed, FillsConsumed]
  | _ =>
      simp only [Command.consumed, FillsConsumed, Prod.mk.injEq, Option.some.injEq, and_true]
      constructor
      · exact hneed
      · intro hw prior prior'
        rw [hname, hname, if_neg hw, if_neg hw]

/-- **Which lines leak.** For every received string, the result, the type and the fields that
`process_command` reads are the same for all previous contents of the command if and only if the
string is refused or has the tokens that its command needs. -/
theorem receive_independent_iff (conv : ℤ → ℤ) (received : Option (List UInt8)) :
    Independent conv received ↔ ∀ buffer ∈ received, Complete (cstr buffer) := by
  cases received with
  | none => simp [Independent, receiveCommandFromClient]
  | some buffer =>
      have hnul : (0 : UInt8) ∉ afterWord 63 (cstr buffer) :=
        fun h => zero_notMem_cstr buffer (mem_of_mem_afterWord h)
      simp only [Option.mem_def, Option.some.injEq, forall_eq', Complete]
      cases hword : commandWord (word 63 (cstr buffer)) with
      | none =>
          simp only [reduceCtorEq, false_implies, implies_true, iff_true]
          intro now prior prior'
          have hr := receive_of_unknown conv now prior hword
          have hr' := receive_of_unknown conv now prior' hword
          simp [hr, hr']
      | some type =>
          have hrun (now : ℤ) (c : Command) := receive_of_known conv now c hword
          simp only [Option.some.injEq, forall_eq']
          rw [← consumed_agree_iff conv type hnul 0]
          constructor
          · intro h prior prior'
            have h' := h 0 prior prior'
            simp only [hrun] at h'
            exact (h'.2 trivial).2
          · intro h now prior prior'
            simp only [hrun]
            exact ⟨trivial, fun _ => ⟨trivial, h prior prior'⟩⟩

/-- A bare `start` takes the room name of whatever was there before. -/
theorem bareStart_not_independent :
    ¬ Independent id (some (bytes "start")) := by
  intro h
  have h' := h 0 ⟨.other, bytes "cpu", 0, 0, 0⟩ ⟨.other, bytes "disk", 0, 0, 0⟩
  revert h'
  decide

end ProcessMonitor.Integration
