import ProcessMonitor.Comm.Linear
import ProcessMonitor.Lib.Words

/-!
# What the replies tell

A client of the communication daemon knows the rooms from the texts of the replies only. Names come
out of the parser as tokens, so that they have no blank and no newline in them, whatever else they
contain, and the texts can be cut at these again.

* `reply_tells`: two answers of the daemon to operations have the same text exactly if they are the
  same answer, about the same room with the same figures.
* `list_tells`: two listings that are not cut off are the same text exactly if they are about the
  same rooms, with the same sizes and statuses and in the same order.
-/

namespace ProcessMonitor.Comm

open CString Decimal Scanf Words

/-! ## Tokens and numerals -/

/-- A token has no white space. -/
lemma NameOk.notMem {n : List UInt8} (h : NameOk n) {b : UInt8} (hb : isspace b = true) :
    b ∉ n := by
  intro hmem
  rw [h.token.not_space b hmem] at hb
  cases hb

/-- Nor has a numeral. -/
lemma notMem_intText (z : ℤ) {b : UInt8} (hb : isspace b = true) : b ∉ intText z := by
  refine (numeral_intText z).notMem ?_ ?_ ?_
  · by_contra hdigit
    rw [Bool.not_eq_false] at hdigit
    rw [isspace_of_isdigit hdigit] at hb
    cases hb
  · rintro rfl
    cases hb
  · rintro rfl
    cases hb

/-- A numeral tells the number. -/
@[simp] lemma intText_inj {z z' : ℤ} : intText z = intText z' ↔ z = z' :=
  ⟨fun h => (numeral_intText z).unique (h ▸ numeral_intText z'), fun h => by rw [h]⟩

/-- The text of a status tells it. -/
@[simp] lemma RoomStatus.text_inj {st st' : RoomStatus} : st.text = st'.text ↔ st = st' := by
  cases st <;> cases st' <;> decide

/-- It is a token too. -/
lemma RoomStatus.notMem_text (st : RoomStatus) {b : UInt8} (hb : isspace b = true) :
    b ∉ st.text := by
  have hall : ∀ c ∈ st.text, isspace c = false := by cases st <;> decide
  intro hmem
  rw [hall b hmem] at hb
  cases hb

/-! ## Answers -/

/-- The name in an answer is a token. -/
def Reply.NameOk : Reply → Prop
  | .badSize => True
  | .alreadyExists n | .full n | .created n _ | .notFound n | .alreadyRunning n | .started n
  | .notRunning n | .stopped n | .shown n _ _ _ => Comm.NameOk n

/-- A name in quotes. -/
def quoted (n : List UInt8) : List UInt8 := bytes "'" ++ n ++ bytes "'"

/-- The quotes tell the name. -/
@[simp] lemma quoted_inj {n n' : List UInt8} : quoted n = quoted n' ↔ n = n' := by
  unfold quoted
  rw [List.append_cancel_right_eq, List.append_cancel_left_eq]

/-- The words of an answer. -/
def Reply.words : Reply → List (List UInt8)
  | .badSize => ["ERROR", "Invalid", "room", "size", "(must", "be", "1-10000)"].map bytes
  | .alreadyExists n => [bytes "ERROR", bytes "Room", quoted n, bytes "already", bytes "exists"]
  | .full n => [bytes "ERROR", bytes "Failed", bytes "to", bytes "create", bytes "room", quoted n]
  | .created n s =>
      [bytes "OK", bytes "Room", quoted n, bytes "created", bytes "with", bytes "size", intText s]
  | .notFound n => [bytes "ERROR", bytes "Room", quoted n, bytes "not", bytes "found"]
  | .alreadyRunning n =>
      [bytes "ERROR", bytes "Room", quoted n, bytes "is", bytes "already", bytes "running"]
  | .started n => [bytes "OK", bytes "Room", quoted n, bytes "monitoring", bytes "started"]
  | .notRunning n =>
      [bytes "ERROR", bytes "Room", quoted n, bytes "is", bytes "not", bytes "running"]
  | .stopped n => [bytes "OK", bytes "Room", quoted n, bytes "monitoring", bytes "stopped"]
  | .shown n s st pid =>
      [bytes "OK", bytes "Room:", n ++ bytes ",", bytes "Size:", intText s ++ bytes ",",
        bytes "Status:", st.text ++ bytes ",", bytes "PID:", intText pid]

/-- The text is that of the words. -/
lemma Reply.text_eq_joined (r : Reply) : r.text = joined 32 r.words := by
  cases r <;> simp [Reply.text, Reply.words, joined, quoted, List.intercalate, bytes]

/-- No word has a blank in it. -/
lemma Reply.free_words {r : Reply} (h : r.NameOk) : Free 32 r.words := by
  have hblank : isspace 32 = true := by decide
  have hquoted {n : List UInt8} (hn : Comm.NameOk n) : (32 : UInt8) ∉ quoted n := by
    simp [quoted, bytes, hn.notMem hblank]
  cases r with
  | badSize =>
      unfold Free Reply.words
      decide
  | created n s => simp [Free, Reply.words, bytes, hquoted h, notMem_intText s hblank]
  | shown n s st pid =>
      simp [Free, Reply.words, bytes, NameOk.notMem h hblank, notMem_intText _ hblank,
        st.notMem_text hblank]
  | _ => simp [Free, Reply.words, bytes, hquoted h]

/-- The words tell the answer. -/
lemma Reply.words_injective {r r' : Reply} (h : r.words = r'.words) : r = r' := by
  cases r <;> cases r' <;> simp_all [Reply.words, bytes]

/-- **The text of an answer tells the answer.** -/
lemma Reply.text_injective {r r' : Reply} (h : r.NameOk) (h' : r'.NameOk) (heq : r.text = r'.text) :
    r = r' := by
  have hne (r : Reply) : r.words ≠ [] := by cases r <;> simp [Reply.words]
  rw [r.text_eq_joined, r'.text_eq_joined] at heq
  have hwords := joined_injective (Reply.free_words h) (Reply.free_words h') (hne r) (hne r') heq
  exact Reply.words_injective hwords

/-- What an operation answers names the room it was called with. -/
lemma nameOk_apply (host : Host) (m : RoomMap) {op : RoomOp} (h : NameOk op.name) :
    (m.apply host op).2.NameOk := by
  cases op with
  | create n s =>
      simp only [RoomMap.apply]
      split_ifs
      · trivial
      · exact h
      · exact h
      · exact h
  | start n =>
      simp only [RoomMap.apply]
      split
      · exact h
      · split_ifs <;> exact h
  | stop n =>
      simp only [RoomMap.apply]
      split
      · exact h
      · split_ifs <;> exact h
  | showRoom n =>
      simp only [RoomMap.apply]
      split <;> exact h

/-! ## The listing -/

/-- The words of a line: two blanks in front of the name are two empty words. -/
def entryWords (e : List UInt8 × RoomData) : List (List UInt8) :=
  [[], [], e.1 ++ bytes ":", bytes "size=" ++ intText e.2.size ++ bytes ",",
    bytes "status=" ++ e.2.status.text]

/-- A line is that of its words, and a newline. -/
lemma entryLine_eq_joined (e : List UInt8 × RoomData) :
    entryLine e = joined 32 (entryWords e) ++ [10] := by
  simp [entryLine, entryWords, joined, List.intercalate, bytes]

section entry

variable {e e' : List UInt8 × RoomData}

/-- No white space is in a word of a line. -/
lemma notMem_entryWords (h : NameOk e.1) {b : UInt8} (hb : isspace b = true) :
    Free b (entryWords e) := by
  have hall {s : List UInt8} (hs : ∀ c ∈ s, isspace c = false) : b ∉ s := by
    intro hmem
    rw [hs b hmem] at hb
    cases hb
  have hcolon : b ∉ bytes ":" := hall (by decide)
  have hcomma : b ∉ bytes "," := hall (by decide)
  have hsize : b ∉ bytes "size=" := hall (by decide)
  have hstatus : b ∉ bytes "status=" := hall (by decide)
  simp [Free, entryWords, h.notMem hb, notMem_intText e.2.size hb, e.2.status.notMem_text hb,
    hcolon, hcomma, hsize, hstatus]

/-- **A line tells the entry.** -/
lemma entryWords_injective (h : NameOk e.1) (h' : NameOk e'.1)
    (heq : joined 32 (entryWords e) = joined 32 (entryWords e')) : e = e' := by
  have hblank : isspace 32 = true := by decide
  have hwords := joined_injective (notMem_entryWords h hblank) (notMem_entryWords h' hblank)
    (by simp [entryWords]) (by simp [entryWords]) heq
  obtain ⟨n, s, st⟩ := e
  obtain ⟨n', s', st'⟩ := e'
  simp [entryWords] at hwords
  obtain ⟨rfl, rfl, rfl⟩ := hwords
  rfl

end entry

/-- The lines of a listing tell the entries. -/
lemma lines_injective {es es' : List (List UInt8 × RoomData)} (h : ∀ e ∈ es, NameOk e.1)
    (h' : ∀ e ∈ es', NameOk e.1) (heq : (es.map entryLine).flatten = (es'.map entryLine).flatten) :
    es = es' := by
  have hlines (es : List (List UInt8 × RoomData)) : (es.map entryLine).flatten =
      ended 10 (es.map fun e => joined 32 (entryWords e)) := by
    rw [ended, List.map_map]
    exact congrArg List.flatten (List.map_congr_left fun e _ => entryLine_eq_joined e)
  have hfree {es : List (List UInt8 × RoomData)} (h : ∀ e ∈ es, NameOk e.1) :
      Free 10 (es.map fun e => joined 32 (entryWords e)) := by
    intro l hl
    obtain ⟨e, he, rfl⟩ := List.mem_map.mp hl
    exact notMem_joined (notMem_entryWords (h e he) (by decide)) (by decide)
  rw [hlines, hlines] at heq
  have hmaps := ended_injective (hfree h) (hfree h') heq
  clear heq
  induction es generalizing es' with
  | nil => exact (List.map_eq_nil_iff.mp hmaps.symm).symm
  | cons e es ih =>
      obtain ⟨e', rest, rfl, he, hrest⟩ := List.map_eq_cons_iff.mp hmaps.symm
      rw [List.forall_mem_cons] at h h'
      rw [entryWords_injective h.1 h'.1 he.symm, ih h.2 h'.2 hrest.symm]

/-- **The listing tells the rooms.** -/
lemma RoomMap.listing_injective {m m' : RoomMap} (h : m.Ok) (h' : m'.Ok)
    (heq : m.listing = m'.listing) : m.entries = m'.entries := by
  have hempty {es : List (List UInt8 × RoomData)} (hne : es ≠ []) :
      bytes "No rooms created" ≠ (es.map entryLine).flatten := by
    obtain ⟨e, rest, rfl⟩ := List.exists_cons_of_ne_nil hne
    simp [entryLine, bytes]
  unfold RoomMap.listing at heq
  rw [List.append_cancel_left_eq] at heq
  by_cases hm : m.entries = []
  · by_cases hm' : m'.entries = []
    · rw [hm, hm']
    · rw [if_pos hm, if_neg hm'] at heq
      exact absurd heq (hempty hm')
  · by_cases hm' : m'.entries = []
    · rw [if_neg hm, if_pos hm'] at heq
      exact absurd heq.symm (hempty hm)
    · rw [if_neg hm, if_neg hm'] at heq
      exact lines_injective (fun e he => (h e he).1) (fun e he => (h' e he).1) heq

/-! ## The daemon -/

section daemon

variable (host : Host) (received received' : List Received) (scan : ScanInt)

/-- The table after these calls of `handle_command`. -/
def tableAfter : Table := ((daemon host).run Table.empty received).1

/-- The map after them. -/
def mapAfter : RoomMap := received.foldl (RoomMap.receive host) OrderedMap.empty

/-- **What an answer tells.** After any two sequences of calls of `handle_command`, whatever the
bytes, the replies to two lines that ask for operations are the same text exactly if they are the
same answer: to the same effect, about the same room, with the same size, status and pid. -/
theorem reply_tells (command command' : List UInt8) (op op' : RoomOp)
    (h : requestOf scan command = .room op) (h' : requestOf scan command' = .room op') :
    (handleCommand host scan command bufferSize (tableAfter host received)).response =
        (handleCommand host scan command' bufferSize (tableAfter host received')).response ↔
      ((mapAfter host received).apply host op).2 =
        ((mapAfter host received').apply host op').2 := by
  have hresponse {received : List Received} {command : List UInt8} {op : RoomOp}
      (h : requestOf scan command = .room op) :
      (handleCommand host scan command bufferSize (tableAfter host received)).response =
        ((mapAfter host received).apply host op).2.text := by
    obtain ⟨hrep, hok⟩ := represents_run host received
    have hreply := (exec_respond hrep hok scan command).2.2
    rw [h] at hreply
    rw [handleCommand_eq host scan command (by decide), h]
    exact hreply
  rw [hresponse h, hresponse h']
  refine ⟨Reply.text_injective ?_ ?_, fun heq => by rw [heq]⟩
  · exact nameOk_apply host _ (nameOk_of_requestOf h)
  · exact nameOk_apply host _ (nameOk_of_requestOf h')

/-- **What a listing tells.** After any two sequences of calls, a listing that leaves a byte free in
the reply is the same text as another one exactly if the rooms are the same, with their sizes and
statuses and in the order of creation. -/
theorem list_tells (command : List UInt8) (h : requestOf scan command = .list)
    (hwhole : (handleCommand host scan command bufferSize
      (tableAfter host received)).response.length < bufferSize - 1) :
    (handleCommand host scan command bufferSize (tableAfter host received)).response =
        (handleCommand host scan command bufferSize (tableAfter host received')).response ↔
      (tableAfter host received).entries = (tableAfter host received').entries := by
  have hresponse (received : List Received) :
      (handleCommand host scan command bufferSize (tableAfter host received)).response =
        (mapAfter host received).listing.take (bufferSize - 1) := by
    obtain ⟨hrep, hok⟩ := represents_run host received
    have hreply := (exec_respond hrep hok scan command).2.2
    rw [h] at hreply
    rw [handleCommand_eq host scan command (by decide), h]
    exact hreply
  have hentries (received : List Received) :
      (tableAfter host received).entries = (mapAfter host received).entries := by
    obtain ⟨⟨l, free, hholds, hm⟩, -⟩ := represents_run host received
    exact hholds.entries_eq.trans hm
  have hshort {text : List UInt8} (hlt : (text.take (bufferSize - 1)).length < bufferSize - 1) :
      text.take (bufferSize - 1) = text := by
    rw [List.length_take] at hlt
    exact List.take_of_length_le (by omega)
  rw [hentries, hentries]
  constructor
  · intro heq
    have hwhole' := heq ▸ hwhole
    rw [hresponse] at hwhole hwhole'
    rw [hresponse, hresponse, hshort hwhole, hshort hwhole'] at heq
    exact RoomMap.listing_injective (represents_run host received).2
      (represents_run host received').2 heq
  · intro heq
    rw [hresponse, hresponse, RoomMap.listing, RoomMap.listing, heq]

end daemon

/-- A call with a whole reply buffer. -/
def receivedLine (line : String) : Received := ⟨bytes line, bufferSize, .strtol⟩

/-- A room that has been stopped is shown as another answer than a new one. -/
theorem reply_tells_stopped :
    let fresh := [receivedLine "CREATE cpu 1000"]
    let stopped := fresh ++ [receivedLine "START cpu", receivedLine "STOP cpu"]
    (handleCommand .example .strtol (bytes "SHOW cpu") bufferSize
          (tableAfter .example fresh)).response =
        (handleCommand .example .strtol (bytes "SHOW cpu") bufferSize
          (tableAfter .example stopped)).response ↔
      ((mapAfter .example fresh).apply .example (.showRoom (bytes "cpu"))).2 =
        ((mapAfter .example stopped).apply .example (.showRoom (bytes "cpu"))).2 :=
  reply_tells .example _ _ .strtol _ _ _ _ (by decide) (by decide)

/-- Two rooms are listed as other rooms in the other order. -/
theorem list_tells_order :
    let rooms := [receivedLine "CREATE cpu 1000", receivedLine "CREATE disk 1500"]
    (handleCommand .example .strtol (bytes "SHOW") bufferSize
          (tableAfter .example rooms)).response =
        (handleCommand .example .strtol (bytes "SHOW") bufferSize
          (tableAfter .example rooms.reverse)).response ↔
      (tableAfter .example rooms).entries = (tableAfter .example rooms.reverse).entries :=
  list_tells .example _ _ .strtol _ (by decide) (by decide +kernel)

end ProcessMonitor.Comm
