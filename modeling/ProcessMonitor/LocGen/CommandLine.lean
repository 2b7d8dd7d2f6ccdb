import ProcessMonitor.LocGen.RoomManager

/-!
# The command line of `loc_gen`

`src/02-loc-gen/main.c`: one command line is one call of the room manager, or an error. The rooms
are static variables, so that every invocation of the program begins with none.

`invocations_eq_iff` compares the invocations with the same calls in one process. They show the
same until a room has been created; from then on as long as no command line creates another room
or names the first one.
-/

namespace ProcessMonitor.LocGen

open CString Decimal

/-! ## The program -/

/-- One invocation: its arguments, the program's name among them, and what is read meanwhile. -/
structure Invocation where
  argv : List (List UInt8)
  readings : Readings

/-- A command with a room id for its only argument. -/
def withRoomId (usage : List UInt8) (args : List (List UInt8)) (t : Table)
    (call : ℤ → Table × List UInt8) : Outcome :=
  match args with
  | [roomId] => ⟨(call (atoi roomId)).1, 0, (call (atoi roomId)).2⟩
  | _ => ⟨t, 1, usage⟩

/-- The result is the exit status. Source: `main.c`, `main` -/
def main (invocation : Invocation) (t : Table) : Outcome :=
  match invocation.argv with
  | _ :: cmd :: args =>
      if strcmp cmd (bytes "create") = 0 then
        match args with
        | [roomType, interval] =>
            let o := createRoom roomType (atoi interval) t
            ⟨o.table, 0, o.printed⟩
        | _ => ⟨t, 1, bytes "Usage: ./loc_gen create <room_type> <interval_ms>\n"⟩
      else if strcmp cmd (bytes "delete") = 0 then
        withRoomId (bytes "Usage: ./loc_gen delete <room_id>\n") args t fun id =>
          ((deleteRoom id t).table, (deleteRoom id t).printed)
      else if strcmp cmd (bytes "start") = 0 then
        withRoomId (bytes "Usage: ./loc_gen start <room_id>\n") args t fun id =>
          ((startMonitoring id t).table, (startMonitoring id t).printed)
      else if strcmp cmd (bytes "stop") = 0 then
        withRoomId (bytes "Usage: ./loc_gen stop <room_id>\n") args t fun id =>
          ((stopMonitoring id t).table, (stopMonitoring id t).printed)
      else if strcmp cmd (bytes "show") = 0 then
        withRoomId (bytes "Usage: ./loc_gen show <room_id>\n") args t fun id =>
          (t, showRoomData invocation.readings id t)
      else ⟨t, 1, bytes "Unknown command " ++ cstr cmd ++ bytes "\n"⟩
  | _ => ⟨t, 1, bytes "Usage: ./loc_gen <command> [args...]\n"⟩

/-- What an invocation shows: its exit status and what it prints. -/
def Invocation.shown (invocation : Invocation) : ℤ × List UInt8 :=
  let o := main invocation Table.zero
  (o.result, o.printed)

/-! ## Command lines as calls -/

/-- The call that a command line asks for, or the text of its error. -/
def callOf (argv : List (List UInt8)) : Except (List UInt8) Call :=
  match argv with
  | _ :: cmd :: args =>
      if strcmp cmd (bytes "create") = 0 then
        match args with
        | [roomType, interval] => .ok (.create roomType (atoi interval))
        | _ => .error (bytes "Usage: ./loc_gen create <room_type> <interval_ms>\n")
      else if strcmp cmd (bytes "delete") = 0 then
        match args with
        | [roomId] => .ok (.delete (atoi roomId))
        | _ => .error (bytes "Usage: ./loc_gen delete <room_id>\n")
      else if strcmp cmd (bytes "start") = 0 then
        match args with
        | [roomId] => .ok (.start (atoi roomId))
        | _ => .error (bytes "Usage: ./loc_gen start <room_id>\n")
      else if strcmp cmd (bytes "stop") = 0 then
        match args with
        | [roomId] => .ok (.stop (atoi roomId))
        | _ => .error (bytes "Usage: ./loc_gen stop <room_id>\n")
      else if strcmp cmd (bytes "show") = 0 then
        match args with
        | [roomId] => .ok (.showData (atoi roomId))
        | _ => .error (bytes "Usage: ./loc_gen show <room_id>\n")
      else .error (bytes "Unknown command " ++ cstr cmd ++ bytes "\n")
  | _ => .error (bytes "Usage: ./loc_gen <command> [args...]\n")

/-- What a call prints. -/
def Call.printed (readings : Readings) (t : Table) : Call → List UInt8
  | .create typeStr interval => (createRoom typeStr interval t).printed
  | .delete roomId => (deleteRoom roomId t).printed
  | .start roomId => (startMonitoring roomId t).printed
  | .stop roomId => (stopMonitoring roomId t).printed
  | .showData roomId => showRoomData readings roomId t

/-- The calls of the command lines, in one process. -/
def oneProcess : Machine Table Invocation (ℤ × List UInt8) where
  step t invocation :=
    match callOf invocation.argv with
    | .ok call => ((call.run t).1, (0, call.printed invocation.readings t))
    | .error text => (t, (1, text))

/-- `main` makes the call of its command line. -/
lemma main_eq (invocation : Invocation) (t : Table) :
    main invocation t =
      match callOf invocation.argv with
      | .ok call => ⟨(call.run t).1, 0, call.printed invocation.readings t⟩
      | .error text => ⟨t, 1, text⟩ := by
  unfold main callOf withRoomId
  split
  · rename_i cmd args hargv
    split_ifs
    · split <;> rfl
    · split <;> rfl
    · split <;> rfl
    · split <;> rfl
    · split <;> rfl
    · rfl
  · rfl

/-! ## What depends on the rooms -/

/-- The call creates a room where there is space. -/
def Call.Creates : Call → Prop
  | .create typeStr _ => strToRoomType typeStr ≠ none
  | _ => False

/-- The room id in a call. -/
def Call.roomId : Call → Option ℤ
  | .create _ _ => none
  | .delete roomId | .start roomId | .stop roomId | .showData roomId => some roomId

/-- Without rooms every id is refused. -/
lemma badId_of_none {t : Table} (ht : t.roomCount = 0) (roomId : ℤ) : t.badId roomId = true := by
  rw [Table.badId, ht]
  rcases lt_or_ge roomId 0 with hlt | hge
  · simp [hlt]
  · simp [hge]

/-- With one room, every id is refused but 0. -/
lemma badId_of_one {t : Table} (ht : t.roomCount = 1) (roomId : ℤ) :
    t.badId roomId = true ↔ roomId ≠ 0 := by
  rw [Table.badId, ht, Bool.or_eq_true, decide_eq_true_eq, decide_eq_true_eq]
  omega

/-- A call with an id that is refused. -/
lemma Call.run_of_badId {t : Table} {call : Call} {roomId : ℤ} (hid : call.roomId = some roomId)
    (hbad : t.badId roomId = true) (readings : Readings) :
    call.printed readings t = bytes "Invalid room id\n" ∧ (call.run t).1 = t := by
  cases call with
  | create typeStr interval => cases hid
  | delete id =>
      cases hid
      rw [Call.printed, Call.run, deleteRoom, if_pos hbad]
      exact ⟨rfl, rfl⟩
  | start id =>
      cases hid
      rw [Call.printed, Call.run, startMonitoring, if_pos hbad]
      exact ⟨rfl, rfl⟩
  | stop id =>
      cases hid
      rw [Call.printed, Call.run, stopMonitoring, if_pos hbad]
      exact ⟨rfl, rfl⟩
  | showData id =>
      cases hid
      rw [Call.printed, Call.run, showRoomData, if_pos hbad]
      exact ⟨rfl, rfl⟩

/-- A call with the id of a room prints another text. -/
lemma Call.head_printed {t : Table} {call : Call} {roomId : ℤ} (hid : call.roomId = some roomId)
    (hgood : t.badId roomId = false) (readings : Readings) :
    (call.printed readings t).head? ≠ some 73 := by
  have hbad : ¬ t.badId roomId = true := by rw [hgood]; exact Bool.false_ne_true
  cases call with
  | create typeStr interval => cases hid
  | delete id =>
      cases hid
      rw [Call.printed, deleteRoom, if_neg hbad]
      exact fun h => absurd (Option.some.inj h) (by decide)
  | start id =>
      cases hid
      rw [Call.printed, startMonitoring, if_neg hbad]
      split_ifs
      · exact fun h => absurd (Option.some.inj h) (by decide)
      · exact fun h => absurd (Option.some.inj h) (by decide)
  | stop id =>
      cases hid
      rw [Call.printed, stopMonitoring, if_neg hbad]
      split_ifs
      · exact fun h => absurd (Option.some.inj h) (by decide)
      · exact fun h => absurd (Option.some.inj h) (by decide)
  | showData id =>
      cases hid
      rw [Call.printed, showRoomData, if_neg hbad]
      split
      · exact fun h => absurd (Option.some.inj h) (by decide)
      · exact fun h => absurd h (by decide)

/-- A call either creates, or names a room, or fails on its room type. -/
lemma Call.cases_roomId (call : Call) :
    (∃ typeStr interval, call = .create typeStr interval) ∨
      ∃ roomId, call.roomId = some roomId := by
  cases call with
  | create typeStr interval => exact Or.inl ⟨typeStr, interval, rfl⟩
  | delete id => exact Or.inr ⟨id, rfl⟩
  | start id => exact Or.inr ⟨id, rfl⟩
  | stop id => exact Or.inr ⟨id, rfl⟩
  | showData id => exact Or.inr ⟨id, rfl⟩

/-- Only a creation creates. -/
lemma Call.not_creates {call : Call} {roomId : ℤ} (hid : call.roomId = some roomId) :
    ¬ call.Creates := by
  cases call with
  | create typeStr interval => cases hid
  | delete id => exact False.elim
  | start id => exact False.elim
  | stop id => exact False.elim
  | showData id => exact False.elim

/-- A creation where there is space, seen from the number of rooms. -/
lemma createRoom_of_space {t : Table} (ht : t.roomCount < maxRooms) (typeStr : List UInt8)
    (interval : ℤ) :
    (createRoom typeStr interval t).printed =
        (match strToRoomType typeStr with
        | none => bytes "Invalid room type " ++ cstr typeStr ++ bytes "\n"
        | some _ => bytes "Created room id " ++ intText t.roomCount ++ bytes " type " ++
            cstr typeStr ++ bytes " interval " ++ intText interval ++ bytes "ms\n") ∧
      (createRoom typeStr interval t).table.roomCount =
        if strToRoomType typeStr = none then t.roomCount else t.roomCount + 1 := by
  rw [createRoom, if_neg (not_le.mpr ht)]
  cases strToRoomType typeStr with
  | none => exact ⟨rfl, rfl⟩
  | some type => exact ⟨rfl, rfl⟩

/-- **A call where there are no rooms** prints what it prints in a fresh process, and leaves a room
if it is a creation. -/
lemma Call.run_none {t : Table} (ht : t.roomCount = 0) (call : Call) (readings : Readings) :
    call.printed readings t = call.printed readings Table.zero ∧
      (call.Creates → (call.run t).1.roomCount = 1) ∧
      (¬ call.Creates → (call.run t).1.roomCount = 0) := by
  rcases call.cases_roomId with ⟨typeStr, interval, rfl⟩ | ⟨roomId, hid⟩
  · have hspace : t.roomCount < maxRooms := by rw [ht]; decide
    obtain ⟨hprinted, hcount⟩ := createRoom_of_space hspace typeStr interval
    obtain ⟨hfresh, -⟩ := createRoom_of_space (t := Table.zero) (by decide) typeStr interval
    rw [Call.printed, Call.printed, Call.run, hprinted, hfresh, hcount, ht, Call.Creates]
    refine ⟨rfl, ?_, ?_⟩
    · intro h
      rw [if_neg h, zero_add]
    · intro h
      rw [if_pos (not_not.mp h)]
  · obtain ⟨hprinted, hsame⟩ := Call.run_of_badId hid (badId_of_none ht roomId) readings
    obtain ⟨hfresh, -⟩ := Call.run_of_badId hid (badId_of_none rfl roomId : Table.zero.badId roomId)
      readings
    rw [hprinted, hfresh, hsame]
    exact ⟨rfl, fun h => absurd h (Call.not_creates hid), fun _ => ht⟩

/-- **A call where there is one room** prints what it prints in a fresh process if and only if it is
no creation and does not name the room; then the room stays as it is. -/
lemma Call.run_one {t : Table} (ht : t.roomCount = 1) (call : Call) (readings : Readings) :
    (call.printed readings t = call.printed readings Table.zero ↔
        ¬ (call.Creates ∨ call.roomId = some 0)) ∧
      (¬ (call.Creates ∨ call.roomId = some 0) → (call.run t).1.roomCount = 1) := by
  rcases call.cases_roomId with ⟨typeStr, interval, rfl⟩ | ⟨roomId, hid⟩
  · have hspace : t.roomCount < maxRooms := by rw [ht]; decide
    obtain ⟨hprinted, hcount⟩ := createRoom_of_space hspace typeStr interval
    obtain ⟨hfresh, -⟩ := createRoom_of_space (t := Table.zero) (by decide) typeStr interval
    rw [Call.printed, Call.printed, Call.run, hprinted, hfresh, hcount, ht, Call.Creates,
      Call.roomId]
    cases strToRoomType typeStr with
    | none => exact ⟨by simp, fun _ => rfl⟩
    | some type =>
        refine ⟨iff_of_false (fun h => ?_) (by simp), fun h => absurd (Or.inl (by simp)) h⟩
        -- the texts differ in the id
        have hid := congrArg (fun text => text[16]?) h
        exact absurd (Option.some.inj hid) (by decide)
  · obtain ⟨hfresh, -⟩ := Call.run_of_badId hid (badId_of_none rfl roomId : Table.zero.badId roomId)
      readings
    by_cases hzero : roomId = 0
    · subst hzero
      have hgood : t.badId 0 = false := by
        rw [← Bool.not_eq_true, badId_of_one ht]
        exact fun h => h rfl
      have hhead := Call.head_printed hid hgood readings
      refine ⟨iff_of_false (fun h => ?_) (fun h => h (Or.inr hid)), fun h => absurd (Or.inr hid) h⟩
      rw [h, hfresh] at hhead
      exact hhead rfl
    · obtain ⟨hprinted, hsame⟩ :=
        Call.run_of_badId hid ((badId_of_one ht roomId).mpr hzero) readings
      have hno : ¬ (call.Creates ∨ call.roomId = some 0) := by
        rintro (hcreates | hid')
        · exact Call.not_creates hid hcreates
        · exact hzero (Option.some.inj (hid.symm.trans hid'))
      rw [hsame, hprinted, hfresh]
      exact ⟨iff_of_true rfl hno, fun _ => ht⟩

/-! ## Invocations -/

namespace Invocation

/-- The command line is a well-formed `create` with one of the three room types. -/
def Creates (invocation : Invocation) : Prop :=
  ∃ call, callOf invocation.argv = .ok call ∧ call.Creates

/-- The command line is a well-formed `start`, `stop`, `show` or `delete` with the room id 0. -/
def NamesFirst (invocation : Invocation) : Prop :=
  ∃ call, callOf invocation.argv = .ok call ∧ call.roomId = some 0

/-- What an invocation shows is what its call prints in a fresh process. -/
lemma shown_eq (invocation : Invocation) :
    invocation.shown =
      match callOf invocation.argv with
      | .ok call => (0, call.printed invocation.readings Table.zero)
      | .error text => (1, text) := by
  rw [shown, main_eq]
  cases callOf invocation.argv with
  | ok call => rfl
  | error text => rfl

/-- **One command line without rooms.** -/
lemma step_none {t : Table} (ht : t.roomCount = 0) (invocation : Invocation) :
    (oneProcess.step t invocation).2 = invocation.shown ∧
      (invocation.Creates → (oneProcess.step t invocation).1.roomCount = 1) ∧
      (¬ invocation.Creates → (oneProcess.step t invocation).1.roomCount = 0) := by
  rw [shown_eq]
  simp only [oneProcess, Creates]
  cases callOf invocation.argv with
  | error text => exact ⟨rfl, fun ⟨_, h, _⟩ => absurd h (by simp), fun _ => ht⟩
  | ok call =>
      obtain ⟨hprinted, hcreates, hnot⟩ := Call.run_none ht call invocation.readings
      refine ⟨congrArg (Prod.mk 0) hprinted, ?_, fun h => hnot fun hc => h ⟨call, rfl, hc⟩⟩
      rintro ⟨_, hcall, hc⟩
      cases hcall
      exact hcreates hc

/-- **One command line with one room.** -/
lemma step_one {t : Table} (ht : t.roomCount = 1) (invocation : Invocation) :
    ((oneProcess.step t invocation).2 = invocation.shown ↔
        ¬ (invocation.Creates ∨ invocation.NamesFirst)) ∧
      (¬ (invocation.Creates ∨ invocation.NamesFirst) →
        (oneProcess.step t invocation).1.roomCount = 1) := by
  rw [shown_eq]
  simp only [oneProcess, Creates, NamesFirst]
  cases callOf invocation.argv with
  | error text =>
      refine ⟨iff_of_true rfl ?_, fun _ => ht⟩
      rintro (⟨_, h, _⟩ | ⟨_, h, _⟩)
      · cases h
      · cases h
  | ok call =>
      obtain ⟨hiff, hkeeps⟩ := Call.run_one ht call invocation.readings
      have hcall : ((∃ c, (Except.ok call : Except (List UInt8) Call) = .ok c ∧ c.Creates) ∨
          ∃ c, (Except.ok call : Except (List UInt8) Call) = .ok c ∧ c.roomId = some 0) ↔
          call.Creates ∨ call.roomId = some 0 := by
        simp only [Except.ok.injEq, exists_eq_left']
      rw [hcall, ← hiff, Prod.mk.injEq]
      exact ⟨and_iff_right rfl, fun h => hkeeps (hiff.mp h)⟩

end Invocation

/-- With one room, the rest of the invocations agree as long as none creates a room or names it. -/
lemma run_one_iff {t : Table} (ht : t.roomCount = 1) (invocations : List Invocation) :
    (oneProcess.run t invocations).2 = invocations.map Invocation.shown ↔
      ∀ i ∈ invocations, ¬ (i.Creates ∨ i.NamesFirst) := by
  induction invocations generalizing t with
  | nil => simp
  | cons i is ih =>
      obtain ⟨hiff, hkeeps⟩ := i.step_one ht
      rw [Machine.run_cons, List.map_cons, List.cons.injEq, List.forall_mem_cons, hiff]
      refine and_congr_right ?_
      intro h
      exact ih (hkeeps h)

/-- Without rooms, they agree up to the first creation and then as after it. -/
lemma run_none_iff {t : Table} (ht : t.roomCount = 0) (invocations : List Invocation) :
    (oneProcess.run t invocations).2 = invocations.map Invocation.shown ↔
      invocations.Pairwise fun i j => i.Creates → ¬ (j.Creates ∨ j.NamesFirst) := by
  induction invocations generalizing t with
  | nil => simp
  | cons i is ih =>
      obtain ⟨hshown, hone, hnone⟩ := i.step_none ht
      rw [Machine.run_cons, List.map_cons, List.cons.injEq, List.pairwise_cons, hshown]
      by_cases hcreates : i.Creates
      · rw [run_one_iff (hone hcreates)]
        simp only [true_and, hcreates, true_implies]
        refine ⟨fun h => ⟨h, ?_⟩, fun h => h.1⟩
        -- nothing later creates a room, so that nothing later is asked for
        exact List.pairwise_of_forall_mem_list fun j hj k _ hc => absurd (Or.inl hc) (h j hj)
      · rw [ih (hnone hcreates)]
        simp only [true_and, hcreates, false_implies, implies_true]

/-- **Invocations and one process.** What a sequence of invocations shows, each run as its own
process, is what the same calls show in one process, if and only if after an invocation that creates
a room none creates a room or names the room id 0. -/
theorem invocations_eq_iff (invocations : List Invocation) :
    (oneProcess.run Table.zero invocations).2 = invocations.map Invocation.shown ↔
      invocations.Pairwise fun i j => i.Creates → ¬ (j.Creates ∨ j.NamesFirst) :=
  run_none_iff rfl invocations

/-- The id that `create` reports is refused by the next invocation. -/
theorem reported_id_refused :
    let readings : Readings := ⟨[], [], []⟩
    let create : Invocation :=
      ⟨[bytes "./loc_gen", bytes "create", bytes "cpu-room", bytes "1000"], readings⟩
    let start : Invocation := ⟨[bytes "./loc_gen", bytes "start", bytes "0"], readings⟩
    (oneProcess.run Table.zero [create, start]).2 =
        [(0, bytes "Created room id 0 type cpu-room interval 1000ms\n"),
          (0, bytes "Started monitoring room id 0\n")] ∧
      [create, start].map Invocation.shown =
        [(0, bytes "Created room id 0 type cpu-room interval 1000ms\n"),
          (0, bytes "Invalid room id\n")] ∧
      (oneProcess.run Table.zero [create, start]).2 ≠ [create, start].map Invocation.shown := by
  decide

end ProcessMonitor.LocGen
