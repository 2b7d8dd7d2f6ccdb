import ProcessMonitor.Comm.Listing

/-!
# What the client makes of a reply

`client_receive_response` of `src/03-communication/client/socket_client.c` and the exit status that
`main` of `client_main.c` takes from it, on the replies of `handle_command`.

The client looks at the first bytes of a reply only. `Answers` says what stands behind them in the
daemon: every error exit leaves the table as it was and writes a text that begins with `ERROR `,
every other exit one that begins with `OK `. `received_reply` is the composition, for every line
and every table that lines can lead to.
-/

namespace ProcessMonitor.Comm

open CString Decimal Scanf

/-! ## The client -/

/-- Source: `client.h`, `response_t` -/
structure Response where
  status : ℤ
  message : List UInt8
  length_message : message.length = bufferSize

/-- The zeroed `message`. -/
def zeroMessage : List UInt8 := List.replicate bufferSize 0

lemma length_zeroMessage : zeroMessage.length = bufferSize := List.length_replicate

/-- The two branches that look behind a prefix: the text from `skip` on, or `otherwise` where
nothing follows. -/
def messageBehind (buffer : List UInt8) (skip : ℕ) (otherwise : List UInt8) : List UInt8 :=
  if strlen buffer > skip then strncpy zeroMessage (buffer.drop skip) (bufferSize - 1)
  else strcpy zeroMessage otherwise

/-- It fills the array. -/
lemma length_messageBehind (buffer : List UInt8) (skip : ℕ) {otherwise : List UInt8}
    (h : (cstr otherwise).length < bufferSize) :
    (messageBehind buffer skip otherwise).length = bufferSize := by
  unfold messageBehind
  split
  · rw [length_strncpy _ (by rw [length_zeroMessage]; decide), length_zeroMessage]
  · rw [length_strcpy (by rw [length_zeroMessage]; exact h), length_zeroMessage]

/-- The end of the function: the status, and the message with its last byte set. -/
def Response.make (status : ℤ) (message : List UInt8) (h : message.length = bufferSize) :
    Response :=
  ⟨status, message.set (bufferSize - 1) 0, by rw [List.length_set, h]⟩

/-- What the comparisons of `client_receive_response` make of the buffer. -/
def parseResponse (buffer : List UInt8) : Response :=
  if strncmp buffer (bytes "OK") 2 = 0 then
    .make 0 (messageBehind buffer 3 (bytes "Command executed successfully"))
      (length_messageBehind _ _ (by decide))
  else if strncmp buffer (bytes "ERROR") 5 = 0 then
    .make (-1) (messageBehind buffer 6 (bytes "Unknown error occurred"))
      (length_messageBehind _ _ (by decide))
  else
    .make (-1) (strncpy zeroMessage buffer (bufferSize - 1))
      (by rw [length_strncpy _ (by rw [length_zeroMessage]; decide), length_zeroMessage])

/-- What `client_receive_response` leaves in `resp` of the bytes that `recv` returns; `none` where
it returns -1, after an error or at the end of the connection.
Source: `socket_client.c`, `client_receive_response` -/
def clientReceiveResponse (received : List UInt8) : Option Response :=
  if received = [] then none
  else
    let bytesReceived := received.take (bufferSize - 1)
    some (parseResponse
      (bytesReceived ++ List.replicate (bufferSize - bytesReceived.length) 0))

/-- `EXIT_SUCCESS` -/
def exitSuccess : ℤ := 0
/-- `EXIT_FAILURE` -/
def exitFailure : ℤ := 1

/-- What `main` returns once the command is sent.
Source: `client_main.c`, `main` -/
def exitStatus : Option Response → ℤ
  | none => exitFailure
  | some response => if response.status = 0 then exitSuccess else exitFailure

/-! ## A tag and a message -/

/-- The two tags of a reply. -/
def okTag : List UInt8 := bytes "OK "
/-- The tag of an error. -/
def errorTag : List UInt8 := bytes "ERROR "

/-- The text is a tag with a message behind it, a C string. -/
def Tagged (tag text : List UInt8) : Prop :=
  ∃ message, message ≠ [] ∧ (0 : UInt8) ∉ message ∧ text = tag ++ message

/-- More text makes the message longer. -/
lemma Tagged.append {tag text : List UInt8} (h : Tagged tag text) {rest : List UInt8}
    (h0 : (0 : UInt8) ∉ rest) : Tagged tag (text ++ rest) := by
  obtain ⟨message, hne, hmessage, rfl⟩ := h
  exact ⟨message ++ rest, by simp [hne], by simp [hmessage, h0], List.append_assoc _ _ _⟩

/-- What `snprintf` leaves of a tagged text is tagged, unless the buffer is tiny. -/
lemma Tagged.snprintf {tag text : List UInt8} (h : Tagged tag text) {n : ℕ}
    (hn : tag.length + 1 < n) : Tagged tag (snprintf n text) := by
  obtain ⟨message, hne, h0, rfl⟩ := h
  have hpos : n - 1 - tag.length ≠ 0 := by omega
  refine ⟨message.take (n - 1 - tag.length), ?_, fun hmem => h0 (List.mem_of_mem_take hmem), ?_⟩
  · rw [ne_eq, List.take_eq_nil_iff]
    exact not_or.mpr ⟨hpos, hne⟩
  · rw [CString.snprintf, List.take_append, List.take_of_length_le (by omega)]

/-- The client finds the message behind a tag. -/
lemma cstr_messageBehind {tag message otherwise : List UInt8} (hne : message ≠ [])
    (h0 : (0 : UInt8) ∉ tag ++ message) (hlen : (tag ++ message).length ≤ bufferSize - 1)
    (k : ℕ) :
    cstr ((messageBehind (tag ++ message ++ List.replicate k 0) tag.length otherwise).set
      (bufferSize - 1) 0) = message := by
  have hmessage : (0 : UInt8) ∉ message := fun hmem => h0 (List.mem_append_right _ hmem)
  have hstrlen : strlen (tag ++ message ++ List.replicate k 0) > tag.length := by
    rw [strlen, cstr_append h0, cstr_replicate_zero, List.append_nil, List.length_append]
    have := List.length_pos_iff.mpr hne
    omega
  rw [List.length_append] at hlen
  rw [messageBehind, if_pos hstrlen, List.append_assoc, List.drop_left,
    cstr_strncpy_set _ (by rw [length_zeroMessage]; decide), cstr_append hmessage,
    cstr_replicate_zero, List.append_nil]
  exact List.take_of_length_le (by omega)

/-- The string that the client compares is the reply. -/
lemma cstr_buffer {response : List UInt8} (h0 : (0 : UInt8) ∉ response) (k : ℕ) :
    cstr (response ++ List.replicate k 0) = response := by
  rw [cstr_append h0, cstr_replicate_zero, List.append_nil]

/-- A reply that is not empty and fits is parsed whole. -/
lemma clientReceiveResponse_eq {response : List UInt8} (hne : response ≠ [])
    (hlen : response.length ≤ bufferSize - 1) :
    ∃ k, clientReceiveResponse response =
      some (parseResponse (response ++ List.replicate k 0)) := by
  rw [clientReceiveResponse, if_neg hne, List.take_of_length_le hlen]
  exact ⟨_, rfl⟩

/-- **A reply tagged `OK`** gives the status 0 and the message. -/
lemma receive_ok {response : List UInt8} (h : Tagged okTag response)
    (hlen : response.length ≤ bufferSize - 1) :
    ∃ resp, clientReceiveResponse response = some resp ∧ resp.status = 0 ∧
      response = okTag ++ cstr resp.message := by
  obtain ⟨message, hne, hmessage, rfl⟩ := h
  have h0 : (0 : UInt8) ∉ okTag ++ message := by
    rw [List.mem_append]
    exact not_or.mpr ⟨by decide, hmessage⟩
  obtain ⟨k, hk⟩ := clientReceiveResponse_eq (by simp [hne]) hlen
  have hok : strncmp (okTag ++ message ++ List.replicate k 0) (bytes "OK") 2 = 0 := by
    rw [strncmp_eq_zero_iff, cstr_buffer h0]
    rfl
  refine ⟨_, hk, ?_, ?_⟩
  · rw [parseResponse, if_pos hok]
    rfl
  · rw [parseResponse, if_pos hok]
    exact congrArg (okTag ++ ·) (cstr_messageBehind hne h0 hlen k).symm

/-- **A reply tagged `ERROR`** gives the status -1 and the message. -/
lemma receive_error {response : List UInt8} (h : Tagged errorTag response)
    (hlen : response.length ≤ bufferSize - 1) :
    ∃ resp, clientReceiveResponse response = some resp ∧ resp.status = -1 ∧
      response = errorTag ++ cstr resp.message := by
  obtain ⟨message, hne, hmessage, rfl⟩ := h
  have h0 : (0 : UInt8) ∉ errorTag ++ message := by
    rw [List.mem_append]
    exact not_or.mpr ⟨by decide, hmessage⟩
  obtain ⟨k, hk⟩ := clientReceiveResponse_eq (by simp [hne]) hlen
  have hok : ¬ strncmp (errorTag ++ message ++ List.replicate k 0) (bytes "OK") 2 = 0 := by
    rw [strncmp_eq_zero_iff, cstr_buffer h0]
    exact fun h => absurd h (by decide : bytes "ER" ≠ bytes "OK")
  have herror : strncmp (errorTag ++ message ++ List.replicate k 0) (bytes "ERROR") 5 = 0 := by
    rw [strncmp_eq_zero_iff, cstr_buffer h0]
    rfl
  refine ⟨_, hk, ?_, ?_⟩
  · rw [parseResponse, if_neg hok, if_pos herror]
    rfl
  · rw [parseResponse, if_neg hok, if_pos herror]
    exact congrArg (errorTag ++ ·) (cstr_messageBehind hne h0 hlen k).symm

/-! ## The table that a command leaves -/

/-- One room was inserted, in a slot that was not in use. -/
def Inserted (name : List UInt8) (size : ℤ) (t t' : Table) : Prop :=
  ∃ i r r', t.rooms[i]? = some r ∧ r.active = false ∧ t'.rooms = t.rooms.set i r' ∧
    t'.roomCount = t.roomCount + 1 ∧ r'.active = true ∧ r'.entry = (name, ⟨size, .created⟩) ∧
    r'.monitorPid = 0

/-- The status and the pid of one room were changed. -/
def Restated (t t' : Table) : Prop :=
  ∃ i r status pid, t.rooms[i]? = some r ∧ r.active = true ∧ status ≠ r.status ∧
    pid ≠ r.monitorPid ∧ t'.rooms = t.rooms.set i { r with status := status, monitorPid := pid } ∧
    t'.roomCount = t.roomCount

/-- A change of one room is a new value of its slot. -/
lemma modify_eq_set {rooms : List Room} {i : ℕ} {r : Room} (h : rooms[i]? = some r)
    (f : Room → Room) : rooms.modify i f = rooms.set i (f r) := by
  rw [List.modify_eq_set_getElem?, h]
  rfl

/-- `add_room` on a table that is not full inserts the room. -/
lemma Holds.inserted {host : Host} {t : Table} {l free : List Room} (h : Holds host t l free)
    {n : List UInt8} (hn : NameOk n) (s : ℤ) (hroom : l.length < maxRooms) :
    (Comm.addRoom n s t).2 = 0 ∧ Inserted n s t (Comm.addRoom n s t).1 := by
  obtain ⟨r, free', rfl, hzero, hrooms, hcount⟩ := h.addRoom_slot n s hroom
  have hslot : t.rooms[l.length]? = some r := by rw [h.rooms_eq, Slots.getElem?_split]
  refine ⟨hzero, l.length, r, r.fill n s, hslot, h.inactive r (by simp),
    hrooms.trans (modify_eq_set hslot _), hcount, rfl, ?_, rfl⟩
  rw [Room.entry, cstr_name_fill hn]
  rfl

/-- A new status and pid of an active room. -/
lemma Holds.restated {host : Host} {t : Table} {l₁ l₂ free : List Room} {r : Room}
    (h : Holds host t (l₁ ++ r :: l₂) free) {f : Room → Room} {status : RoomStatus} {pid : ℤ}
    (hf : f r = { r with status := status, monitorPid := pid }) (hstatus : status ≠ r.status)
    (hpid : pid ≠ r.monitorPid) : Restated t (t.updRoom l₁.length f) := by
  have hslot : t.rooms[l₁.length]? = some r := by
    rw [h.rooms_eq, List.append_assoc, List.cons_append, Slots.getElem?_split]
  refine ⟨l₁.length, r, status, pid, hslot, h.active r (by simp), hstatus, hpid, ?_, rfl⟩
  rw [← hf]
  exact modify_eq_set hslot f

/-! ## How the commands end -/

/-- A command ends with an error and leaves the table, or it ends with `OK` and leaves one as `Q`
says. -/
def Answers (t : Table) (Q : Table → Prop) (o : Outcome) : Prop :=
  (Tagged errorTag o.response ∧ o.table = t) ∨ (Tagged okTag o.response ∧ Q o.table)

/-- An error exit. -/
lemma answers_error {t : Table} {Q : Table → Prop} {result : ℤ} {text : List UInt8}
    (h : Tagged errorTag text) : Answers t Q ⟨t, result, snprintf bufferSize text⟩ :=
  Or.inl ⟨h.snprintf (by decide), rfl⟩

/-- An exit with `OK`. -/
lemma answers_ok {t t' : Table} {Q : Table → Prop} {result : ℤ} {text : List UInt8}
    (h : Tagged okTag text) (hQ : Q t') : Answers t Q ⟨t', result, snprintf bufferSize text⟩ :=
  Or.inr ⟨h.snprintf (by decide), hQ⟩

/-- The errors about a room. -/
lemma tagged_error_room (n : List UInt8) {rest : List UInt8} (h0 : (0 : UInt8) ∉ rest) :
    Tagged errorTag (bytes "ERROR Room '" ++ cstr n ++ rest) := by
  have h : Tagged errorTag (bytes "ERROR Room '") := ⟨bytes "Room '", by decide⟩
  exact (h.append (zero_notMem_cstr n)).append h0

/-- The confirmations about a room. -/
lemma tagged_ok_room (n : List UInt8) {rest : List UInt8} (h0 : (0 : UInt8) ∉ rest) :
    Tagged okTag (bytes "OK Room '" ++ cstr n ++ rest) := by
  have h : Tagged okTag (bytes "OK Room '") := ⟨bytes "Room '", by decide⟩
  exact (h.append (zero_notMem_cstr n)).append h0

section commands

variable {host : Host} {t : Table} {m : RoomMap} (h : Represents host t m) {n : List UInt8}
  (hn : NameOk n)
include h hn

/-- `cmd_create_room` inserts the room, or it refuses. -/
lemma answers_create (s : ℤ) :
    Answers t (Inserted n s t) (cmdCreateRoom n s bufferSize t) := by
  unfold cmdCreateRoom
  split_ifs
  · exact answers_error ⟨bytes "Invalid room size (must be 1-10000)", by decide⟩
  rcases h.find_cases hn with ⟨hf, -⟩ | ⟨l₁, r, l₂, free, hf, -, -, -, -⟩
  · obtain ⟨l, free, hh, -⟩ := h
    simp only [hf]
    by_cases hroom : l.length < maxRooms
    · obtain ⟨hzero, hins⟩ := hh.inserted hn s hroom
      rw [if_neg (by rw [hzero]; decide)]
      have htext : Tagged okTag (bytes "OK Room '" ++ cstr n ++ bytes "' created with size ") :=
        tagged_ok_room n (by decide)
      exact answers_ok (htext.append (zero_notMem_intText s)) hins
    · have hfull : t.roomCount ≥ maxRooms := by
        rw [hh.count_eq]
        exact_mod_cast not_lt.mp hroom
      have hadd : addRoom n s t = (t, -1) := by rw [addRoom, if_pos hfull]
      have htext : Tagged errorTag (bytes "ERROR Failed to create room '") :=
        ⟨bytes "Failed to create room '", by decide⟩
      rw [hadd, if_pos (show (-1 : ℤ) < 0 by decide)]
      exact answers_error ((htext.append (zero_notMem_cstr n)).append (by decide))
  · simp only [hf]
    exact answers_error (tagged_error_room n (by decide))

/-- `cmd_start_room` changes the status and the pid of the room, or it refuses. -/
lemma answers_start : Answers t (Restated t) (cmdStartRoom host n bufferSize t) := by
  unfold cmdStartRoom
  rcases h.find_cases hn with ⟨hf, -⟩ | ⟨l₁, r, l₂, free, hf, hh, -, -, -⟩
  · simp only [hf]
    exact answers_error (tagged_error_room n (by decide))
  · simp only [hf]
    split_ifs with hst
    · exact answers_error (tagged_error_room n (by decide))
    · have hpid : host.pid ≠ r.monitorPid := by
        rw [hh.pid_eq r (by simp), Host.pidOf, if_neg hst]
        exact host.pid_pos.ne'
      exact answers_ok (tagged_ok_room n (by decide)) (hh.restated rfl (Ne.symm hst) hpid)

/-- `cmd_stop_room` changes the status and the pid of the room, or it refuses. -/
lemma answers_stop : Answers t (Restated t) (cmdStopRoom n bufferSize t) := by
  unfold cmdStopRoom
  rcases h.find_cases hn with ⟨hf, -⟩ | ⟨l₁, r, l₂, free, hf, hh, -, -, -⟩
  · simp only [hf]
    exact answers_error (tagged_error_room n (by decide))
  · simp only [hf]
    by_cases hst : r.status = .running
    · have hpid : r.monitorPid = host.pid := by
        rw [hh.pid_eq r (by simp), Host.pidOf, if_pos hst]
      have hpos := host.pid_pos
      rw [if_neg (not_not.mpr hst)]
      refine answers_ok (tagged_ok_room n (by decide)) (hh.restated rfl (by simp [hst]) ?_)
      rw [hpid, if_pos hpos]
      exact hpos.ne
    · rw [if_pos hst]
      exact answers_error (tagged_error_room n (by decide))

/-- `cmd_show_room` leaves the table. -/
lemma answers_showRoom : Answers t (· = t) (cmdShowRoom n bufferSize t) := by
  unfold cmdShowRoom
  rcases h.find_cases hn with ⟨hf, -⟩ | ⟨l₁, r, l₂, free, hf, -, -, -, -⟩
  · simp only [hf]
    exact answers_error (tagged_error_room n (by decide))
  · have htext : Tagged okTag (bytes "OK Room: ") := ⟨bytes "Room: ", by decide⟩
    simp only [hf]
    refine answers_ok ?_ rfl
    refine Tagged.append (Tagged.append ?_ (by decide)) (zero_notMem_intText _)
    refine Tagged.append (Tagged.append ?_ (by decide)) (RoomStatus.zero_notMem_text _)
    exact ((htext.append (zero_notMem_cstr _)).append (by decide)).append (zero_notMem_intText _)

end commands

/-! ## Every line -/

/-- What a request that ends with `OK` does to the table; a refused line never ends so. -/
def Request.Effect (t : Table) : Request → Table → Prop
  | .room (.create n s), t' => Inserted n s t t'
  | .room (.start _), t' | .room (.stop _), t' => Restated t t'
  | .room (.showRoom _), t' | .list, t' | .exit, t' => t' = t
  | .refused _, _ => False

/-- The text of a refusal is an error. -/
lemma tagged_of_refused {scan : ScanInt} {command text : List UInt8}
    (h : requestOf scan command = .refused text) : Tagged errorTag text := by
  unfold requestOf Parsed.request at h
  split_ifs at h <;> cases h
  · exact ⟨bytes "Invalid command format", by decide⟩
  · exact ⟨bytes "CREATE requires room name and size", by decide⟩
  · exact ⟨bytes "START requires room name", by decide⟩
  · exact ⟨bytes "STOP requires room name", by decide⟩
  · have htext : Tagged errorTag (bytes "ERROR Unknown command: ") :=
      ⟨bytes "Unknown command: ", by decide⟩
    exact htext.append (zero_notMem_cstr _)

/-- The listing is tagged `OK`. -/
lemma tagged_listing {m : RoomMap} (hok : m.Ok) : Tagged okTag m.listing := by
  have hline : ∀ e ∈ m.entries, (0 : UInt8) ∉ entryLine e := by
    intro e he
    have hlit : (0 : UInt8) ∉ bytes "  " ∧ (0 : UInt8) ∉ bytes ": size=" ∧
        (0 : UInt8) ∉ bytes ", status=" ∧ (0 : UInt8) ∉ bytes "\n" := by decide
    simp [entryLine, hlit, (hok e he).1.zero_notMem, zero_notMem_intText,
      RoomStatus.zero_notMem_text]
  have hheader : Tagged okTag (bytes "OK Rooms:\n") := ⟨bytes "Rooms:\n", by decide⟩
  refine hheader.append ?_
  split_ifs
  · decide
  · rw [List.mem_flatten]
    rintro ⟨line, hmem, h0⟩
    obtain ⟨e, he, rfl⟩ := List.mem_map.mp hmem
    exact hline e he h0

section requests

variable {host : Host} {t : Table} {m : RoomMap} (h : Represents host t m) (hok : m.Ok)
  (scan : ScanInt) (command : List UInt8)
include h

/-- The reply fits into the client's buffer. -/
lemma length_response_le :
    ((requestOf scan command).exec host bufferSize t).response.length ≤ bufferSize - 1 := by
  cases hreq : requestOf scan command with
  | room op =>
      rw [Request.exec, (exec_represents h (nameOk_of_requestOf hreq) bufferSize).response_eq]
      exact length_snprintf_le _ _
  | list =>
      rw [Request.exec, written_listRooms (by decide) (by decide) h]
      exact List.length_take_le _ _
  | exit => exact length_snprintf_le _ _
  | refused text => exact length_snprintf_le _ _

include hok

/-- **Every line** ends with an error and the table as it was, or with `OK` and the effect of what
it asks for. -/
lemma answers_exec :
    Answers t ((requestOf scan command).Effect t)
      ((requestOf scan command).exec host bufferSize t) := by
  cases hreq : requestOf scan command with
  | room op =>
      have hn := nameOk_of_requestOf hreq
      cases op with
      | create n s => exact answers_create h hn s
      | start n => exact answers_start h hn
      | stop n => exact answers_stop h hn
      | showRoom n => exact answers_showRoom h hn
  | list =>
      refine Or.inr ⟨?_, rfl⟩
      rw [Request.exec, written_listRooms (by decide) (by decide) h]
      exact (tagged_listing hok).snprintf (n := bufferSize) (by decide)
  | exit => exact answers_ok ⟨bytes "Daemon shutting down", by decide⟩ rfl
  | refused text => exact answers_error (tagged_of_refused hreq)

end requests

/-- The word that the comparisons look at. -/
def commandWord (scan : ScanInt) (command : List UInt8) : List UInt8 :=
  (parse scan.conv command).cmd

/-- A line that begins with `CREATE` and is not refused inserts a room. -/
lemma inserted_of_create {scan : ScanInt} {command : List UInt8} {t t' : Table}
    (h : commandWord scan command = bytes "CREATE")
    (heffect : (requestOf scan command).Effect t t') : ∃ name size, Inserted name size t t' := by
  unfold requestOf Parsed.request at heffect
  unfold commandWord at h
  rw [h, if_pos (by decide : strcmp (bytes "CREATE") (bytes "CREATE") = 0)] at heffect
  split_ifs at heffect
  · exact heffect.elim
  · exact heffect.elim
  · exact ⟨_, _, heffect⟩

/-- A line that begins with `START` or `STOP` and is not refused changes a status and a pid. -/
lemma restated_of_start_stop {scan : ScanInt} {command : List UInt8} {t t' : Table}
    (h : commandWord scan command = bytes "START" ∨ commandWord scan command = bytes "STOP")
    (heffect : (requestOf scan command).Effect t t') : Restated t t' := by
  unfold requestOf Parsed.request at heffect
  unfold commandWord at h
  rcases h with h | h
  · rw [h, if_neg (by decide : ¬ strcmp (bytes "START") (bytes "CREATE") = 0),
      if_pos (by decide : strcmp (bytes "START") (bytes "START") = 0)] at heffect
    split_ifs at heffect
    · exact heffect.elim
    · exact heffect.elim
    · exact heffect
  · rw [h, if_neg (by decide : ¬ strcmp (bytes "STOP") (bytes "CREATE") = 0),
      if_neg (by decide : ¬ strcmp (bytes "STOP") (bytes "START") = 0),
      if_pos (by decide : strcmp (bytes "STOP") (bytes "STOP") = 0)] at heffect
    split_ifs at heffect
    · exact heffect.elim
    · exact heffect.elim
    · exact heffect

/-- **The client's exit status tells the truth.** For every table that calls of `handle_command`
lead to and every line, the client reads from the whole reply the status 0 or -1, exits
accordingly, and has the text behind `OK ` or `ERROR ` as its message. With the status -1 the table
is as before; with the status 0 a `CREATE` has inserted one room, and a `START` or `STOP` has
changed the status and the pid of one room. -/
theorem received_reply (host : Host) (received : List Received) (scan : ScanInt)
    (command : List UInt8) :
    let t := ((daemon host).run Table.empty received).1
    let o := handleCommand host scan command bufferSize t
    ∃ resp, clientReceiveResponse o.response = some resp ∧
      ((resp.status = 0 ∧ exitStatus (some resp) = exitSuccess ∧
          o.response = bytes "OK " ++ cstr resp.message) ∨
        (resp.status = -1 ∧ exitStatus (some resp) = exitFailure ∧
          o.response = bytes "ERROR " ++ cstr resp.message)) ∧
      (resp.status = -1 → o.table = t) ∧
      (commandWord scan command = bytes "CREATE" → resp.status = 0 →
        ∃ name size, Inserted name size t o.table) ∧
      (commandWord scan command = bytes "START" ∨ commandWord scan command = bytes "STOP" →
        resp.status = 0 → Restated t o.table) := by
  intro t o
  obtain ⟨hrep, hok⟩ := represents_run host received
  have ho : o = (requestOf scan command).exec host bufferSize t :=
    handleCommand_eq host scan command (by decide) t
  have hlen : o.response.length ≤ bufferSize - 1 := ho ▸ length_response_le hrep scan command
  have hanswers : Answers t ((requestOf scan command).Effect t) o :=
    ho ▸ answers_exec hrep hok scan command
  rcases hanswers with ⟨htag, htable⟩ | ⟨htag, heffect⟩
  · obtain ⟨resp, hresp, hstatus, hmessage⟩ := receive_error htag hlen
    have hexit : exitStatus (some resp) = exitFailure := by
      rw [exitStatus, hstatus, if_neg (by decide)]
    have hno : ¬ resp.status = 0 := by
      rw [hstatus]
      decide
    exact ⟨resp, hresp, Or.inr ⟨hstatus, hexit, hmessage⟩, fun _ => htable,
      fun _ h => absurd h hno, fun _ h => absurd h hno⟩
  · obtain ⟨resp, hresp, hstatus, hmessage⟩ := receive_ok htag hlen
    have hexit : exitStatus (some resp) = exitSuccess := by
      rw [exitStatus, hstatus, if_pos rfl]
    have hno : ¬ resp.status = -1 := by
      rw [hstatus]
      decide
    exact ⟨resp, hresp, Or.inl ⟨hstatus, hexit, hmessage⟩, fun h => absurd h hno,
      fun hword _ => inserted_of_create hword heffect,
      fun hword _ => restated_of_start_stop hword heffect⟩

end ProcessMonitor.Comm
