import ProcessMonitor.Integration.State
import ProcessMonitor.Lib.Decimal
import ProcessMonitor.Lib.Strtok

/-!
# The FIFO

`ipc_receive_data` of `src/04-integration/ipc_handler.c` reads what is in the FIFO, up to 1023
bytes, and takes it for one message `DATA:room|CPU:x|MEM:y|PROC:n`. The same FIFO carries the lines
that `ipc_send_command` writes.

The tokens of all that was read are looked at, so that a later message overwrites the figures of the
first one; and every read that is not empty returns 0. `receive_faithful_iff` says what has to be in
the FIFO for the first message to be read, or refused, as it is.

`atof` is a parameter with rational results: infinities and NaN are left out.
-/

namespace ProcessMonitor.Integration

open CString Decimal

/-! ## The functions -/

/-- What `ipc_send_command` writes. Source: `ipc_handler.c`, `ipc_send_command` -/
def commandLine (type : ℤ) (roomName : List UInt8) (param1 : ℤ) (paramStr : List UInt8) :
    List UInt8 :=
  bytes "CMD:" ++ intText type ++ bytes "|ROOM:" ++ cstr roomName ++ bytes "|PARAM1:" ++
    intText param1 ++ bytes "|PARAM2:" ++ cstr paramStr ++ bytes "\n"

/-- The body of the loop over the tokens behind the room's name. -/
def receiveField (atof : List UInt8 → ℚ) (data : MonitorData) (token : List UInt8) : MonitorData :=
  if strncmp token (bytes "CPU:") 4 = 0 then { data with cpuUsage := atof (token.drop 4) }
  else if strncmp token (bytes "MEM:") 4 = 0 then { data with memoryUsage := atof (token.drop 4) }
  else if strncmp token (bytes "PROC:") 5 = 0 then { data with processCount := atoi (token.drop 5) }
  else data

/-- The first token becomes the name, as far as the array of `nameSize` bytes holds it. -/
def receiveRoom (nameSize : ℕ) (data : MonitorData) (tokens : List (List UInt8)) : MonitorData :=
  match tokens with
  | [] => data
  | token :: _ => { data with roomName := token.take (nameSize - 1) }

/-- The branch for a buffer that begins with `DATA:`. -/
def receiveLine (atof : List UInt8 → ℚ) (nameSize : ℕ) (now : ℤ) (line : List UInt8)
    (data : MonitorData) : MonitorData :=
  let tokens := strtok 124 (cstr line)
  let data := tokens.tail.foldl (receiveField atof) (receiveRoom nameSize data tokens)
  { data with timestamp := now, valid := 1 }

/-- `received` is `none` where the FIFO cannot be opened, and empty where `read` returns no bytes.
The names are as they are stored, up to the NUL. Source: `ipc_handler.c`, `ipc_receive_data` -/
def ipcReceiveData (atof : List UInt8 → ℚ) (nameSize : ℕ) (now : ℤ) (initialized : Bool)
    (received : Option (List UInt8)) (data : MonitorData) : ℤ × MonitorData :=
  if !initialized then (-1, data)
  else
    match received with
    | none => (-1, data)
    | some bytesRead =>
        if bytesRead = [] then (-1, data)
        else
          let buffer := bytesRead ++ [0]
          if strncmp buffer (bytes "DATA:") 5 = 0 then
            (0, receiveLine atof nameSize now (buffer.drop 5) data)
          else (0, data)

/-! ## Messages -/

/-- A decimal number: a sign or none, digits, and a point with more digits or none. -/
structure DecimalText (t : List UInt8) : Prop where
  exists_parts : ∃ sign whole frac : List UInt8,
    (sign = [] ∨ sign = [43] ∨ sign = [45]) ∧ whole ≠ [] ∧ (∀ b ∈ whole ++ frac, isdigit b = true) ∧
      (t = sign ++ whole ∧ frac = [] ∨ t = sign ++ whole ++ 46 :: frac ∧ frac ≠ [])

/-- A complete message: a room's name and three figures. -/
structure DataMessage where
  room : List UInt8
  cpu : List UInt8
  mem : List UInt8
  proc : List UInt8
  count : ℤ
  room_ne : room ≠ []
  room_bytes : ∀ b ∈ room, b ≠ 0 ∧ b ≠ 124 ∧ b ≠ 10
  cpu_decimal : DecimalText cpu
  mem_decimal : DecimalText mem
  proc_numeral : Numeral proc count

namespace DataMessage

variable (m : DataMessage)

/-- The message as it is written. -/
def text : List UInt8 :=
  bytes "DATA:" ++ m.room ++ bytes "|CPU:" ++ m.cpu ++ bytes "|MEM:" ++ m.mem ++ bytes "|PROC:" ++
    m.proc ++ bytes "\n"

/-- The data holds the room and the figures of the message. -/
structure HeldIn (atof : List UInt8 → ℚ) (data : MonitorData) : Prop where
  roomName_eq : data.roomName = m.room
  cpuUsage_eq : data.cpuUsage = atof m.cpu
  memoryUsage_eq : data.memoryUsage = atof m.mem
  processCount_eq : data.processCount = m.count

end DataMessage

/-- What is read is a complete message, and its figures are those left in `*data`, or it is refused,
and `*data` is as it was. -/
structure ReceiveFaithful (atof : List UInt8 → ℚ) (nameSize : ℕ) (now : ℤ)
    (received : List UInt8) (data : MonitorData) : Prop where
  accepted : ∀ m : DataMessage, m.text <+: received →
    (ipcReceiveData atof nameSize now true (some received) data).1 = 0 ∧
      m.HeldIn atof (ipcReceiveData atof nameSize now true (some received) data).2
  refused : (¬ ∃ m : DataMessage, m.text <+: received) →
    ipcReceiveData atof nameSize now true (some received) data = (-1, data)

/-- The tokens that the loop looks at behind a message, in what follows it: those behind the first
delimiter. -/
def laterTokens (rest : List UInt8) : List (List UInt8) :=
  strtok 124 ((cstr rest).dropWhile (· ≠ 124))

/-- The name and the count of the message fit, and what follows it does not change its figures. -/
structure DataMessage.Alone (atof : List UInt8 → ℚ) (nameSize : ℕ) (m : DataMessage)
    (rest : List UInt8) : Prop where
  room_lt : m.room.length < nameSize
  count_isInt : IsInt m.count
  cpu_same : ∀ v, lastWith (bytes "CPU:") (laterTokens rest) = some v → atof v = atof m.cpu
  mem_same : ∀ v, lastWith (bytes "MEM:") (laterTokens rest) = some v → atof v = atof m.mem
  proc_same : ∀ v, lastWith (bytes "PROC:") (laterTokens rest) = some v → atoi v = m.count

/-! ## The fields -/

/-- The NUL that the buffer is closed with. -/
lemma cstr_concat_zero (s : List UInt8) : cstr (s ++ [0]) = cstr s := by
  induction s with
  | nil => rfl
  | cons b s ih =>
      rw [cstr, cstr] at ih ⊢
      rw [List.cons_append, List.takeWhile_cons, List.takeWhile_cons, ih]

section fields

variable (atof : List UInt8 → ℚ) (d : MonitorData) (token : List UInt8)

/-- The body of the loop, with the tests as keys. -/
lemma receiveField_eq : receiveField atof d token =
    if hasKey (bytes "CPU:") token then { d with cpuUsage := atof (token.drop 4) }
    else if hasKey (bytes "MEM:") token then { d with memoryUsage := atof (token.drop 4) }
    else if hasKey (bytes "PROC:") token then { d with processCount := atoi (token.drop 5) }
    else d := by
  simp only [receiveField, ← strncmp_key_iff]
  rfl

/-- A token has one key at most. -/
lemma receiveField_keys :
    (hasKey (bytes "CPU:") token = true →
        hasKey (bytes "MEM:") token = false ∧ hasKey (bytes "PROC:") token = false) ∧
      (hasKey (bytes "MEM:") token = true → hasKey (bytes "PROC:") token = false) := by
  refine ⟨fun h => ⟨?_, ?_⟩, fun h => ?_⟩ <;>
  · exact hasKey_unique (by decide) (by decide) h (by decide) (by decide)

/-- The usage is assigned from a token with its key. -/
lemma receiveField_cpuUsage : (receiveField atof d token).cpuUsage =
    if hasKey (bytes "CPU:") token then atof (token.drop 4) else d.cpuUsage := by
  rw [receiveField_eq]
  split_ifs <;> rfl

/-- The memory is assigned from a token with its key. -/
lemma receiveField_memoryUsage : (receiveField atof d token).memoryUsage =
    if hasKey (bytes "MEM:") token then atof (token.drop 4) else d.memoryUsage := by
  have hkeys := (receiveField_keys token).1
  rw [receiveField_eq]
  split_ifs with hcpu hmem
  · rw [(hkeys hcpu).1] at hmem
    cases hmem
  all_goals rfl

/-- The count is assigned from a token with its key. -/
lemma receiveField_processCount : (receiveField atof d token).processCount =
    if hasKey (bytes "PROC:") token then atoi (token.drop 5) else d.processCount := by
  obtain ⟨hkeys, hkeys'⟩ := receiveField_keys token
  rw [receiveField_eq]
  split_ifs with hcpu hproc hmem hproc
  · rw [(hkeys hcpu).2] at hproc
    cases hproc
  · rfl
  · rw [hkeys' hmem] at hproc
    cases hproc
  all_goals rfl

/-- The loop leaves the name. -/
lemma foldl_receiveField_roomName (tokens : List (List UInt8)) :
    (tokens.foldl (receiveField atof) d).roomName = d.roomName := by
  induction tokens generalizing d with
  | nil => rfl
  | cons token tokens ih =>
      rw [List.foldl_cons, ih, receiveField_eq]
      split_ifs <;> rfl

end fields

/-! ## A complete message -/

/-- A decimal number has signs, digits and points only. -/
lemma DecimalText.notMem {t : List UInt8} (h : DecimalText t) {c : UInt8}
    (hc : isdigit c = false) (hplus : c ≠ 43) (hminus : c ≠ 45) (hpoint : c ≠ 46) : c ∉ t := by
  obtain ⟨sign, whole, frac, hsign, -, hdigits, htext⟩ := h.exists_parts
  have hparts : c ∉ whole ++ frac := by
    intro hmem
    rw [hdigits c hmem] at hc
    exact Bool.noConfusion hc
  rw [List.mem_append, not_or] at hparts
  have hs : c ∉ sign := by
    rcases hsign with rfl | rfl | rfl
    · exact List.not_mem_nil
    · exact List.not_mem_cons_of_ne_of_not_mem hplus List.not_mem_nil
    · exact List.not_mem_cons_of_ne_of_not_mem hminus List.not_mem_nil
  rcases htext with ⟨rfl, -⟩ | ⟨rfl, -⟩
  · simp [hs, hparts.1]
  · simp [hs, hparts.1, hparts.2, hpoint]

namespace DataMessage

variable (m : DataMessage)

/-- The message behind `DATA:`. -/
def body : List UInt8 :=
  m.room ++ 124 :: ((bytes "CPU:" ++ m.cpu) ++ 124 :: ((bytes "MEM:" ++ m.mem) ++
    124 :: (bytes "PROC:" ++ m.proc ++ [10])))

lemma text_eq : m.text = bytes "DATA:" ++ m.body := by
  simp [text, body, bytes]

/-- A message has no NUL. -/
lemma zero_notMem_body : (0 : UInt8) ∉ m.body := by
  have hroom : (0 : UInt8) ∉ m.room := by
    intro h
    exact (m.room_bytes 0 h).1 rfl
  have hcpu := m.cpu_decimal.notMem (c := 0) (by decide) (by decide) (by decide) (by decide)
  have hmem := m.mem_decimal.notMem (c := 0) (by decide) (by decide) (by decide) (by decide)
  have hproc := m.proc_numeral.zero_notMem
  simp [body, bytes, hroom, hcpu, hmem, hproc]

/-- The tokens of a message behind the room's name, with what `tail` adds to the last one. -/
def fields (tail : List UInt8) : List (List UInt8) :=
  [bytes "CPU:" ++ m.cpu, bytes "MEM:" ++ m.mem, bytes "PROC:" ++ (m.proc ++ tail)]

/-- **The tokens** of what begins with a message. -/
lemma strtok_body (rest : List UInt8) :
    strtok 124 (m.body ++ cstr rest) =
      m.room :: (m.fields (10 :: (cstr rest).takeWhile (· ≠ 124)) ++ laterTokens rest) := by
  have hroom : (124 : UInt8) ∉ m.room := by
    intro h
    exact (m.room_bytes 124 h).2.1 rfl
  have hcpu : (124 : UInt8) ∉ bytes "CPU:" ++ m.cpu := by
    have h := m.cpu_decimal.notMem (c := 124) (by decide) (by decide) (by decide) (by decide)
    simp [bytes, h]
  have hmem : (124 : UInt8) ∉ bytes "MEM:" ++ m.mem := by
    have h := m.mem_decimal.notMem (c := 124) (by decide) (by decide) (by decide) (by decide)
    simp [bytes, h]
  have hproc : (124 : UInt8) ∉ bytes "PROC:" ++ m.proc ++ [10] := by
    have h := m.proc_numeral.notMem (c := 124) (by decide) (by decide) (by decide)
    simp [bytes, h]
  have hlast : bytes "PROC:" ++ m.proc ++ [10] ++ cstr rest =
      bytes "PROC:" ++ (m.proc ++ 10 :: cstr rest) := by
    simp
  simp only [body, List.append_assoc, List.cons_append, List.nil_append]
  rw [strtok_append_cons m.room_ne hroom, ← List.append_assoc (bytes "CPU:"),
    strtok_append_cons (by simp [bytes]) hcpu, ← List.append_assoc (bytes "MEM:"),
    strtok_append_cons (by simp [bytes]) hmem, ← hlast, strtok_append (by simp [bytes]) hproc,
    laterTokens]
  simp only [fields, List.append_assoc, List.cons_append, List.nil_append]

/-- Each field has its own key. -/
lemma lastWith_fields (tail : List UInt8) :
    lastWith (bytes "CPU:") (m.fields tail) = some m.cpu ∧
      lastWith (bytes "MEM:") (m.fields tail) = some m.mem ∧
      lastWith (bytes "PROC:") (m.fields tail) = some (m.proc ++ tail) := by
  have hother {key key' t : List UInt8} (h0 : (0 : UInt8) ∉ key ∧ (0 : UInt8) ∉ key')
      (h : ¬ key <+: key' ∧ ¬ key' <+: key) : ¬ hasKey key' (key ++ t) = true :=
    Bool.eq_false_iff.mp (hasKey_unique h0.1 h0.2 (hasKey_append h0.1) h.1 h.2)
  refine ⟨?_, ?_, ?_⟩ <;>
  · rw [lastWith, fields, List.filter_cons, List.filter_cons, List.filter_cons, List.filter_nil,
      if_pos (hasKey_append (by decide)), if_neg (hother (by decide) (by decide)),
      if_neg (hother (by decide) (by decide))]
    rfl

/-- The string in the buffer behind `DATA:`. -/
lemma cstr_body (rest : List UInt8) : cstr (m.body ++ (rest ++ [0])) = m.body ++ cstr rest := by
  rw [cstr_append m.zero_notMem_body, cstr_concat_zero]

/-- A message is looked at. -/
lemma receive_text (atof : List UInt8 → ℚ) (nameSize : ℕ) (now : ℤ) (rest : List UInt8)
    (data : MonitorData) :
    ipcReceiveData atof nameSize now true (some (m.text ++ rest)) data =
      (0, receiveLine atof nameSize now (m.body ++ (rest ++ [0])) data) := by
  have hbuffer : m.text ++ rest ++ [0] = bytes "DATA:" ++ (m.body ++ (rest ++ [0])) := by
    rw [text_eq]
    simp only [List.append_assoc]
  have hne : m.text ++ rest ≠ [] := by simp [text_eq, bytes]
  have hkey : strncmp (m.text ++ rest ++ [0]) (bytes "DATA:") 5 = 0 := by
    rw [hbuffer]
    exact of_decide_eq_true (hasKey_append (by decide))
  have hdrop : (m.text ++ rest ++ [0]).drop 5 = m.body ++ (rest ++ [0]) := by
    rw [hbuffer]
    rfl
  simp only [ipcReceiveData, Bool.not_true, Bool.false_eq_true, if_false]
  rw [if_neg hne, if_pos hkey, hdrop]

/-- **What is received** of a message: its figures, where no later token has their keys. -/
lemma received_figures (atof : List UInt8 → ℚ) (nameSize : ℕ) (now : ℤ) (rest : List UInt8)
    (data : MonitorData) :
    let r := ipcReceiveData atof nameSize now true (some (m.text ++ rest)) data
    r.1 = 0 ∧ r.2.roomName = m.room.take (nameSize - 1) ∧
      r.2.cpuUsage = atof ((lastWith (bytes "CPU:") (laterTokens rest)).getD m.cpu) ∧
      r.2.memoryUsage = atof ((lastWith (bytes "MEM:") (laterTokens rest)).getD m.mem) ∧
      r.2.processCount = atoi ((lastWith (bytes "PROC:") (laterTokens rest)).getD
        (m.proc ++ 10 :: (cstr rest).takeWhile (· ≠ 124))) := by
  intro r
  have hr : r = (0, receiveLine atof nameSize now (m.body ++ (rest ++ [0])) data) :=
    m.receive_text atof nameSize now rest data
  have htokens : strtok 124 (cstr (m.body ++ (rest ++ [0]))) = _ :=
    (congrArg (strtok 124) (m.cstr_body rest)).trans (m.strtok_body rest)
  rw [hr]
  simp only [receiveLine, htokens]
  have hpick {α : Type} (x : Option (List UInt8)) (v : List UInt8) (conv : List UInt8 → α)
      (d : α) : ((x.or (some v)).map conv).getD d = conv (x.getD v) := by
    cases x <;> rfl
  obtain ⟨hcpu, hmem, hproc⟩ := m.lastWith_fields (10 :: (cstr rest).takeWhile (· ≠ 124))
  refine ⟨trivial, ?_, ?_, ?_, ?_⟩
  · rw [foldl_receiveField_roomName]
    rfl
  · rw [List.tail_cons, foldl_lastWith (receiveField_cpuUsage atof), lastWith_append, hcpu, hpick]
  · rw [List.tail_cons, foldl_lastWith (receiveField_memoryUsage atof), lastWith_append, hmem,
      hpick]
  · rw [List.tail_cons, foldl_lastWith (receiveField_processCount atof), lastWith_append, hproc,
      hpick]

/-- **The figures are its own** exactly if they fit and nothing that follows replaces them. -/
lemma heldIn_iff (atof : List UInt8 → ℚ) (nameSize : ℕ) (now : ℤ) (rest : List UInt8)
    (data : MonitorData) :
    m.HeldIn atof (ipcReceiveData atof nameSize now true (some (m.text ++ rest)) data).2 ↔
      m.Alone atof nameSize rest := by
  obtain ⟨-, hroom, hcpu, hmem, hproc⟩ := m.received_figures atof nameSize now rest data
  have hfits : m.room.take (nameSize - 1) = m.room ↔ m.room.length < nameSize := by
    have hpos := List.length_pos_iff.mpr m.room_ne
    rw [List.take_eq_self_iff]
    omega
  have hsame {α : Type} (x : Option (List UInt8)) (v : List UInt8) (conv : List UInt8 → α) :
      conv (x.getD v) = conv v ↔ ∀ u, x = some u → conv u = conv v := by
    cases x <;> simp
  have hcount : atoi (m.proc ++ 10 :: (cstr rest).takeWhile (· ≠ 124)) = m.count ↔
      IsInt m.count := by
    have hdigit : NoDigitHead (10 :: cstr ((cstr rest).takeWhile (· ≠ 124))) := by
      simp [NoDigitHead, isdigit]
    have hstring : cstr (m.proc ++ 10 :: (cstr rest).takeWhile (· ≠ 124)) =
        m.proc ++ 10 :: cstr ((cstr rest).takeWhile (· ≠ 124)) := by
      rw [cstr_append m.proc_numeral.zero_notMem]
      rfl
    rw [atoi, hstring, scanInt_numeral m.proc_numeral hdigit]
    exact wrapInt_clampLong_eq_iff m.count
  constructor
  · intro h
    have hcountEq := hproc.symm.trans h.processCount_eq
    refine ⟨hfits.mp (hroom.symm.trans h.roomName_eq), ?_,
      (hsame _ _ atof).mp (hcpu.symm.trans h.cpuUsage_eq),
      (hsame _ _ atof).mp (hmem.symm.trans h.memoryUsage_eq), ?_⟩
    · rw [← hcountEq]
      exact isInt_atoi _
    · intro v hv
      rw [hv] at hcountEq
      exact hcountEq
  · intro h
    refine ⟨hroom.trans (hfits.mpr h.room_lt), hcpu.trans ((hsame _ _ atof).mpr h.cpu_same),
      hmem.trans ((hsame _ _ atof).mpr h.mem_same), hproc.trans ?_⟩
    cases hlater : lastWith (bytes "PROC:") (laterTokens rest) with
    | none => exact hcount.mpr h.count_isInt
    | some v => exact h.proc_same v hlater

end DataMessage

/-! ## What is received -/

/-- A read that returns bytes is always a success. -/
lemma ipcReceiveData_eq_zero (atof : List UInt8 → ℚ) (nameSize : ℕ) (now : ℤ)
    {received : List UInt8} (hne : received ≠ []) (data : MonitorData) :
    (ipcReceiveData atof nameSize now true (some received) data).1 = 0 := by
  simp only [ipcReceiveData, Bool.not_true, Bool.false_eq_true, if_false]
  rw [if_neg hne]
  split_ifs <;> rfl

/-- **Reading the FIFO is faithful** on exactly these bytes: none, or a complete message whose name
and count fit, such that the tokens behind the first delimiter of what follows it have no key, or
end up with the same figures. -/
theorem receive_faithful_iff (atof : List UInt8 → ℚ) (nameSize : ℕ) (now : ℤ)
    (received : List UInt8) (data : MonitorData) :
    ReceiveFaithful atof nameSize now received data ↔
      received = [] ∨ (∃ m : DataMessage, m.text <+: received) ∧
        ∀ (m : DataMessage) (rest : List UInt8), received = m.text ++ rest →
          m.Alone atof nameSize rest := by
  by_cases hne : received = []
  · refine iff_of_true ?_ (Or.inl hne)
    refine ⟨?_, fun _ => by rw [hne]; rfl⟩
    intro m hm
    rw [hne, List.prefix_nil, m.text_eq] at hm
    exact absurd hm (by simp [bytes])
  · rw [or_iff_right hne]
    have hzero := ipcReceiveData_eq_zero atof nameSize now hne data
    constructor
    · intro h
      refine ⟨?_, ?_⟩
      · by_contra hnone
        rw [h.refused hnone] at hzero
        exact neg_ne_zero.mpr one_ne_zero hzero
      · rintro m rest rfl
        exact (m.heldIn_iff atof nameSize now rest data).mp
          (h.accepted m (List.prefix_append m.text rest)).2
    · rintro ⟨hsome, halone⟩
      refine ⟨?_, fun hnone => absurd hsome hnone⟩
      rintro m ⟨rest, rfl⟩
      exact ⟨hzero, (m.heldIn_iff atof nameSize now rest data).mpr (halone m rest rfl)⟩

/-- `atof`, on a text of digits. -/
def atofDigits (text : List UInt8) : ℚ := digitsVal (text.takeWhile isdigit)

/-- A digit is a decimal number. -/
lemma decimalText_digit {b : UInt8} (h : isdigit b = true) : DecimalText [b] := by
  refine ⟨[], [b], [], Or.inl rfl, List.cons_ne_nil b [], ?_, Or.inl ⟨rfl, rfl⟩⟩
  rw [List.append_nil, List.forall_mem_singleton]
  exact h

/-- `DATA:cpu|CPU:1|MEM:2|PROC:3` -/
def firstMessage : DataMessage where
  room := bytes "cpu"
  cpu := bytes "1"
  mem := bytes "2"
  proc := bytes "3"
  count := 3
  room_ne := by decide
  room_bytes := by decide
  cpu_decimal := decimalText_digit (by decide)
  mem_decimal := decimalText_digit (by decide)
  proc_numeral := Numeral.plain (List.cons_ne_nil 51 []) (by decide)

/-- Two messages in the FIFO: the figures are those of the second one. And a line written by
`ipc_send_command` is taken for a message received. -/
theorem receive_two_messages :
    let two := bytes "DATA:cpu|CPU:1|MEM:2|PROC:3\nDATA:disk|CPU:4|MEM:5|PROC:6\n"
    let command := commandLine 1 (bytes "cpu") 5 []
    ¬ ReceiveFaithful atofDigits 64 0 two {} ∧ ¬ ReceiveFaithful atofDigits 64 0 command {} := by
  intro two command
  constructor
  · intro h
    have hm : firstMessage.text <+: two := by decide
    have hcpu := (h.accepted _ hm).2.cpuUsage_eq
    have hread : (ipcReceiveData atofDigits 64 0 true (some two) {}).2.cpuUsage = 4 := by
      decide +kernel
    have hown : atofDigits firstMessage.cpu = 1 := by
      decide +kernel
    rw [hread, hown] at hcpu
    exact absurd hcpu (by norm_num)
  · intro h
    have hnone : ¬ ∃ m : DataMessage, m.text <+: command := by
      rintro ⟨m, hm⟩
      have hdata : bytes "DATA:" <+: command := by
        rw [m.text_eq] at hm
        exact (List.prefix_append _ _).trans hm
      exact absurd hdata (by decide)
    have hresult := congrArg Prod.fst (h.refused hnone)
    have hzero : (ipcReceiveData atofDigits 64 0 true (some command) {}).1 = 0 := by decide +kernel
    rw [hzero] at hresult
    exact absurd hresult (by decide)

end ProcessMonitor.Integration
