import ProcessMonitor.Comm.Commute
import ProcessMonitor.Comm.Response

/-!
# What `handle_command` makes of the tokens of a line

The formats of `handle_command` cut a token after 63 bytes and leave its tail to the next
directive, and `%d` stops at the first byte that is no digit. `requestOf_eq` says what request
comes out of the tokens of a line.

`WholeAnswer` is an answer that goes with the tokens as they stand: the room concerned is the one
named by the whole second token, and the size of a new room is the number that the whole third
token denotes. `tokens_whole_iff` says for which lines every table gets such an answer.
-/

namespace ProcessMonitor.Comm

open CString Decimal Scanf

/-! ## The request of the tokens -/

/-- The bytes that `%d` finds behind the name: the tail of a long name, or else the next token. -/
def sizeText (n : List UInt8) (rest : List (List UInt8)) : List UInt8 :=
  if n.length ≤ 63 then rest.headD [] else n.drop 63

/-- What a list of tokens asks for. -/
def requestOfTokens (conv : ℤ → ℤ) : List (List UInt8) → Request
  | [] => .refused (bytes "ERROR Invalid command format")
  | cmd :: args =>
      if cmd = bytes "CREATE" then
        match args with
        | [] => .refused (bytes "ERROR CREATE requires room name and size")
        | n :: rest =>
            match scanInt (sizeText n rest) with
            | none => .refused (bytes "ERROR CREATE requires room name and size")
            | some (z, _) => .room (.create (n.take 63) (conv z))
      else if cmd = bytes "START" then
        match args with
        | [] => .refused (bytes "ERROR START requires room name")
        | n :: _ => .room (.start (n.take 63))
      else if cmd = bytes "STOP" then
        match args with
        | [] => .refused (bytes "ERROR STOP requires room name")
        | n :: _ => .room (.stop (n.take 63))
      else if cmd = bytes "SHOW" then
        match args with
        | [] => .list
        | n :: _ => .room (.showRoom (n.take 63))
      else if cmd = bytes "EXIT" then .exit
      else .refused (bytes "ERROR Unknown command: " ++ cmd.take 63)

/-- The three attempts of `handle_command`, word by word. -/
lemma parse_eq (conv : ℤ → ℤ) (command : List UInt8) :
    parse conv command =
      if word 63 (cstr command) = [] then { parsed := 0 }
      else if word 63 (afterWord 63 (cstr command)) = [] then
        { parsed := 1, cmd := word 63 (cstr command) }
      else
        match scanInt (afterWord 63 (afterWord 63 (cstr command))) with
        | none =>
            { parsed := 2, cmd := word 63 (cstr command)
              roomName := word 63 (afterWord 63 (cstr command)) }
        | some (z, _) =>
            ⟨3, word 63 (cstr command), word 63 (afterWord 63 (cstr command)), conv z⟩ := by
  unfold parse sscanf
  simp only [scan_str, scan_space, word_dropWhile, afterWord_dropWhile, scan_int,
    scanInt_dropWhile]
  split_ifs with hcmd hname
  · rfl
  · rfl
  · cases scanInt (afterWord 63 (afterWord 63 (cstr command))) with
    | none => rfl
    | some zr => rfl

/-- The five words that `handle_command` compares with. -/
def commandWords : List (List UInt8) :=
  [bytes "CREATE", bytes "START", bytes "STOP", bytes "SHOW", bytes "EXIT"]

/-- The comparisons with the command words, on a text without a NUL. -/
lemma strcmp_word_iff {c w : List UInt8} (hc : (0 : UInt8) ∉ c) (hw : w ∈ commandWords) :
    strcmp c w = 0 ↔ c = w := by
  rw [strcmp_eq_zero_iff, cstr_eq_self hc, cstr_eq_self (nameOk_words w hw).zero_notMem]

/-- The number behind a name is read from its tail, or else from the next token. -/
lemma scanInt_sizeText {r : List UInt8} :
    (scanInt (afterWord 63 r)).map Prod.fst =
      (scanInt (sizeText (token r) (tokens (afterToken r)))).map Prod.fst := by
  rw [afterWord_eq, sizeText]
  split_ifs with hlen
  · rw [List.drop_of_length_le hlen, List.nil_append, ← scanInt_dropWhile, tokens_eq]
    split_ifs with hnone
    · rw [dropWhile_of_token_nil hnone]
      rfl
    · rw [← token_append_afterToken]
      exact scanInt_append hnone (fun b hb => isspace_of_mem_token hb) (spaceHead_afterToken _)
  · refine scanInt_append ?_ (fun b hb => isspace_of_mem_token (List.mem_of_mem_drop hb))
      (spaceHead_afterToken r)
    intro hnil
    rw [List.drop_eq_nil_iff] at hnil
    exact hlen hnil

/-- A command word is short. -/
lemma length_commandWord : ∀ w ∈ commandWords, w.length < 63 := by decide

/-- Cutting a token after 63 bytes makes it no command word. -/
lemma take_eq_word_iff {c w : List UInt8} (hw : w ∈ commandWords) : c.take 63 = w ↔ c = w := by
  have hshort := length_commandWord w hw
  rcases Nat.lt_or_ge c.length 63 with hlt | hge
  · rw [List.take_of_length_le hlt.le]
  · constructor
    · intro h
      have hlen := congrArg List.length h
      rw [List.length_take, Nat.min_eq_left hge] at hlen
      omega
    · intro h
      rw [h] at hge
      omega

/-- The request that the comparisons find for a command word. -/
lemma Parsed.request_eq {p : Parsed} (hparsed : p.parsed ≠ 0) (h0 : (0 : UInt8) ∉ p.cmd) :
    p.request =
      if p.cmd = bytes "CREATE" then
        if p.parsed < 3 then .refused (bytes "ERROR CREATE requires room name and size")
        else .room (.create p.roomName p.roomSize)
      else if p.cmd = bytes "START" then
        if p.parsed < 2 then .refused (bytes "ERROR START requires room name")
        else .room (.start p.roomName)
      else if p.cmd = bytes "STOP" then
        if p.parsed < 2 then .refused (bytes "ERROR STOP requires room name")
        else .room (.stop p.roomName)
      else if p.cmd = bytes "SHOW" then
        if p.parsed < 2 then .list else .room (.showRoom p.roomName)
      else if p.cmd = bytes "EXIT" then .exit
      else .refused (bytes "ERROR Unknown command: " ++ p.cmd) := by
  rw [Parsed.request, if_neg hparsed, cstr_eq_self h0]
  have hcmp (w : List UInt8) (hw : w ∈ commandWords) : strcmp p.cmd w = 0 ↔ p.cmd = w :=
    strcmp_word_iff h0 hw
  simp only [hcmp (bytes "CREATE") (by simp [commandWords]),
    hcmp (bytes "START") (by simp [commandWords]), hcmp (bytes "STOP") (by simp [commandWords]),
    hcmp (bytes "SHOW") (by simp [commandWords]), hcmp (bytes "EXIT") (by simp [commandWords])]

/-- Any other word is refused. -/
lemma Parsed.request_of_unknown {p : Parsed} (hparsed : p.parsed ≠ 0) (h0 : (0 : UInt8) ∉ p.cmd)
    (h : p.cmd ∉ commandWords) :
    p.request = .refused (bytes "ERROR Unknown command: " ++ p.cmd) := by
  simp only [commandWords, List.mem_cons, List.not_mem_nil, or_false, not_or] at h
  obtain ⟨h₁, h₂, h₃, h₄, h₅⟩ := h
  rw [Parsed.request_eq hparsed h0, if_neg h₁, if_neg h₂, if_neg h₃, if_neg h₄, if_neg h₅]

/-- So is a token that is none. -/
lemma requestOfTokens_of_unknown (conv : ℤ → ℤ) {c : List UInt8} (h : c ∉ commandWords)
    (args : List (List UInt8)) :
    requestOfTokens conv (c :: args) =
      .refused (bytes "ERROR Unknown command: " ++ c.take 63) := by
  simp only [commandWords, List.mem_cons, List.not_mem_nil, or_false, not_or] at h
  obtain ⟨h₁, h₂, h₃, h₄, h₅⟩ := h
  unfold requestOfTokens
  simp only [if_neg h₁, if_neg h₂, if_neg h₃, if_neg h₄, if_neg h₅]

/-- **The request of a line**, from its tokens. -/
theorem requestOf_eq (scan : ScanInt) (command : List UInt8) :
    requestOf scan command = requestOfTokens scan.conv (tokens (cstr command)) := by
  have hnul : (0 : UInt8) ∉ cstr command := zero_notMem_cstr command
  rw [requestOf, parse_eq]
  generalize cstr command = s at hnul
  rw [tokens_eq s]
  by_cases hcmd : token s = []
  · rw [if_pos (by rw [word_eq_take, hcmd]; rfl), if_pos hcmd]
    rfl
  have hcut {t : List UInt8} (h : t ≠ []) : t.take 63 ≠ [] := by
    rw [ne_eq, List.take_eq_nil_iff]
    exact not_or.mpr ⟨by decide, h⟩
  have h0 : (0 : UInt8) ∉ word 63 s := fun h => hnul (mem_of_mem_word h)
  rw [if_neg (by rw [word_eq_take]; exact hcut hcmd), if_neg hcmd]
  rcases Nat.lt_or_ge 63 (token s).length with hlong | hshort
  · -- what a `%63s` takes of a longer token is no command
    have hunknown : token s ∉ commandWords := by
      intro h
      have := length_commandWord _ h
      omega
    have hword : word 63 s ∉ commandWords := by
      intro h
      have heq : token s = word 63 s := (take_eq_word_iff h).mp rfl
      exact hunknown (heq ▸ h)
    rw [requestOfTokens_of_unknown _ hunknown, ← word_eq_take]
    split_ifs
    · exact Parsed.request_of_unknown (by simp) h0 hword
    · split
      · exact Parsed.request_of_unknown (by simp) h0 hword
      · exact Parsed.request_of_unknown (by simp) h0 hword
  · -- a command word is read whole
    have hwhole : word 63 s = token s := List.take_of_length_le hshort
    have htake : (token s).take 63 = token s := hwhole
    have hrest : afterWord 63 s = afterToken s := by
      rw [afterWord_eq, List.drop_of_length_le hshort, List.nil_append]
    rw [hwhole] at h0
    rw [hrest, hwhole, tokens_eq (afterToken s), word_eq_take]
    unfold requestOfTokens
    by_cases hname : token (afterToken s) = []
    · rw [hname, if_pos List.take_nil, if_pos rfl, Parsed.request_eq (by simp) h0]
      simp only [htake]
      rfl
    · rw [if_neg (hcut hname), if_neg hname]
      have hsize := scanInt_sizeText (r := afterToken s)
      cases hint : scanInt (afterWord 63 (afterToken s)) with
      | none =>
          rw [hint, Option.map_none, eq_comm, Option.map_eq_none_iff] at hsize
          rw [Parsed.request_eq (by simp) h0]
          simp only [hsize, htake]
          rfl
      | some zr =>
          rw [hint, Option.map_some, eq_comm, Option.map_eq_some_iff] at hsize
          obtain ⟨⟨z, r⟩, hzr, rfl⟩ := hsize
          rw [Parsed.request_eq (by simp) h0]
          simp only [hzr, htake]
          rfl

/-! ## Answers that go with the tokens -/

/-- The name `n` has the value `v` in `t'`, and every other name what it has in `t`. -/
def Updated (t t' : Table) (n : List UInt8) (v : ℤ × RoomStatus × ℤ) : Prop :=
  ∀ k, (0 : UInt8) ∉ k → t'.view k = if k = n then some v else t.view k

/-- The outcome `o` of a line in the table `t` goes with the tokens `ws` of the line. -/
inductive WholeAnswer (host : Host) (t : Table) (ws : List (List UInt8)) (o : Outcome) : Prop
  /-- An error, and no room changes. -/
  | error (htag : Tagged errorTag o.response) (htable : o.table = t)
  /-- A list of the rooms. -/
  | list (hws : ws = [bytes "SHOW"]) (htable : o.table = t)
  /-- The end of the daemon. -/
  | exit (hws : ws.head? = some (bytes "EXIT")) (htable : o.table = t)
  /-- A new room with the second token for its name and the number of the third for its size. -/
  | create {n s : List UInt8} {rest : List (List UInt8)} {z : ℤ}
      (hws : ws = bytes "CREATE" :: n :: s :: rest) (hz : Numeral s z)
      (htag : Tagged okTag o.response) (hold : t.view n = none)
      (hnew : Updated t o.table n (z, .created, 0))
  /-- The room named by the second token is started. -/
  | start {n : List UInt8} {rest : List (List UInt8)} {size pid : ℤ} {status : RoomStatus}
      (hws : ws = bytes "START" :: n :: rest) (htag : Tagged okTag o.response)
      (hold : t.view n = some (size, status, pid))
      (hnew : Updated t o.table n (size, .running, host.pid))
  /-- The room named by the second token is stopped. -/
  | stop {n : List UInt8} {rest : List (List UInt8)} {size pid : ℤ} {status : RoomStatus}
      (hws : ws = bytes "STOP" :: n :: rest) (htag : Tagged okTag o.response)
      (hold : t.view n = some (size, status, pid))
      (hnew : Updated t o.table n (size, .stopped, 0))
  /-- The room named by the second token is shown. -/
  | showRoom {n : List UInt8} {rest : List (List UInt8)} {size pid : ℤ} {status : RoomStatus}
      (hws : ws = bytes "SHOW" :: n :: rest) (hold : t.view n = some (size, status, pid))
      (htext : o.response = (Reply.shown n size status pid).text) (htable : o.table = t)

/-- The tokens are taken whole: names have at most 63 bytes, and where `%d` finds a number that is
a valid size, it is that of a complete numeral in the third token. -/
def TakenWhole : List (List UInt8) → Prop
  | cmd :: n :: rest =>
      (cmd = bytes "START" ∨ cmd = bytes "STOP" ∨ cmd = bytes "SHOW" → n.length ≤ 63) ∧
      (cmd = bytes "CREATE" → ∀ zr ∈ scanInt (sizeText n rest),
        1 ≤ ScanInt.strtol.conv zr.1 → ScanInt.strtol.conv zr.1 ≤ 10000 →
          n.length ≤ 63 ∧ Numeral (sizeText n rest) (ScanInt.strtol.conv zr.1))
  | _ => True

/-- The first byte tells the tags apart. -/
lemma Tagged.head_ok {text : List UInt8} (h : Tagged okTag text) : text.head? = some 79 := by
  obtain ⟨message, -, -, rfl⟩ := h
  rfl

lemma Tagged.head_error {text : List UInt8} (h : Tagged errorTag text) : text.head? = some 69 := by
  obtain ⟨message, -, -, rfl⟩ := h
  rfl

/-- It tells which answers are errors. -/
lemma Reply.head_text (r : Reply) : r.text.head? = if r.isError then some 69 else some 79 := by
  cases r <;> rfl

section operations

variable {host : Host} {t : Table} {m : RoomMap} (hrep : Represents host t m) (op : RoomOp)
  (hn : NameOk op.name)
include hrep hn

/-- What an operation leaves, seen from the names. -/
lemma view_exec {k : List UInt8} (hk : (0 : UInt8) ∉ k) :
    (op.exec host bufferSize t).table.view k =
      if k = op.name then
        (op.act host (m.lookup op.name) m.isFull).1.map
          fun d => (d.size, d.status, host.pidOf d.status)
      else t.view k := by
  rw [(exec_represents hrep hn bufferSize).represents.view_eq, hrep.view_eq, cstr_eq_self hk,
    (m.apply_eq_act host op).2]
  split_ifs <;> rfl

/-- The old value of the operation's room. -/
lemma view_name : t.view op.name =
    (m.lookup op.name).map fun d => (d.size, d.status, host.pidOf d.status) := by
  rw [hrep.view_eq, cstr_eq_self hn.zero_notMem]

variable (hok : m.Ok)
include hok

/-- An operation replies with the text of its answer. -/
lemma response_exec : (op.exec host bufferSize t).response =
    (op.act host (m.lookup op.name) m.isFull).2.text := by
  rw [(exec_represents hrep hn bufferSize).response_eq,
    snprintf_eq_self (short_apply hok host hn).length_lt, (m.apply_eq_act host op).1]

/-- It replies `OK` exactly if the answer is no error. -/
lemma isError_of_tagged (htag : Tagged okTag (op.exec host bufferSize t).response) :
    (op.act host (m.lookup op.name) m.isFull).2.isError = false := by
  have hhead := htag.head_ok
  rw [response_exec hrep op hn hok, Reply.head_text] at hhead
  split_ifs at hhead with herror
  · exact absurd hhead (by decide)
  · exact Bool.eq_false_iff.mpr herror

end operations

section answers

variable {host : Host} {t : Table} {m : RoomMap} (hrep : Represents host t m) (hok : m.Ok)
  {n : List UInt8} (hn : NameOk n)
include hrep hok hn

/-- A `CREATE` answered `OK`. -/
lemma created_of_ok {z : ℤ} (htag : Tagged okTag (cmdCreateRoom n z bufferSize t).response) :
    1 ≤ z ∧ z ≤ 10000 ∧ t.view n = none ∧
      Updated t (cmdCreateRoom n z bufferSize t).table n (z, .created, 0) := by
  have herror := isError_of_tagged hrep (.create n z) hn hok htag
  have hview := view_name hrep (.create n z) hn
  have hnew (k : List UInt8) (hk : (0 : UInt8) ∉ k) := view_exec hrep (.create n z) hn hk
  simp only [RoomOp.act, RoomOp.name] at herror hview hnew
  by_cases hs : z < 1 ∨ 10000 < z
  · rw [if_pos hs] at herror
    cases herror
  simp only [if_neg hs] at herror hnew
  cases hold : m.lookup n with
  | some d =>
      simp only [hold, ne_eq, reduceCtorEq, not_false_eq_true, if_true] at herror
      cases herror
  | none =>
      rw [hold, Option.map_none] at hview
      simp only [hold, ne_eq, not_true_eq_false, if_false] at herror hnew
      by_cases hfull : m.isFull = true
      · rw [if_pos hfull] at herror
        cases herror
      · simp only [if_neg hfull] at hnew
        exact ⟨by omega, by omega, hview, hnew⟩

/-- A `START` answered `OK`. -/
lemma started_of_ok (htag : Tagged okTag (cmdStartRoom host n bufferSize t).response) :
    ∃ size status pid, t.view n = some (size, status, pid) ∧
      Updated t (cmdStartRoom host n bufferSize t).table n (size, .running, host.pid) := by
  have herror := isError_of_tagged hrep (.start n) hn hok htag
  have hview := view_name hrep (.start n) hn
  have hnew (k : List UInt8) (hk : (0 : UInt8) ∉ k) := view_exec hrep (.start n) hn hk
  simp only [RoomOp.act, RoomOp.name] at herror hview hnew
  cases hlook : m.lookup n with
  | none =>
      rw [hlook] at herror
      cases herror
  | some d =>
      simp only [hlook] at herror hview hnew
      by_cases hd : d.status = .running
      · rw [if_pos hd] at herror
        cases herror
      · simp only [if_neg hd] at hnew
        exact ⟨d.size, d.status, host.pidOf d.status, hview, hnew⟩

/-- A `STOP` answered `OK`. -/
lemma stopped_of_ok (htag : Tagged okTag (cmdStopRoom n bufferSize t).response) :
    ∃ size status pid, t.view n = some (size, status, pid) ∧
      Updated t (cmdStopRoom n bufferSize t).table n (size, .stopped, 0) := by
  have herror := isError_of_tagged hrep (.stop n) hn hok htag
  have hview := view_name hrep (.stop n) hn
  have hnew (k : List UInt8) (hk : (0 : UInt8) ∉ k) := view_exec hrep (.stop n) hn hk
  simp only [RoomOp.act, RoomOp.name] at herror hview hnew
  cases hlook : m.lookup n with
  | none =>
      rw [hlook] at herror
      cases herror
  | some d =>
      simp only [hlook] at herror hview hnew
      by_cases hd : d.status = .running
      · simp only [if_pos hd] at hnew
        exact ⟨d.size, d.status, host.pidOf d.status, hview, hnew⟩
      · rw [if_neg hd] at herror
        cases herror

/-- A `SHOW` with a name, answered `OK`. -/
lemma shown_of_ok (htag : Tagged okTag (cmdShowRoom n bufferSize t).response) :
    ∃ size status pid, t.view n = some (size, status, pid) ∧
      (cmdShowRoom n bufferSize t).response = (Reply.shown n size status pid).text := by
  have herror := isError_of_tagged hrep (.showRoom n) hn hok htag
  have hview := view_name hrep (.showRoom n) hn
  have htext := response_exec hrep (.showRoom n) hn hok
  simp only [RoomOp.act, RoomOp.name] at herror hview htext
  cases hlook : m.lookup n with
  | none =>
      rw [hlook] at herror
      cases herror
  | some d =>
      simp only [hlook] at hview htext
      exact ⟨d.size, d.status, host.pidOf d.status, hview, htext⟩

end answers

/-! ## Lines taken whole -/

/-- What the tokens are for a request. -/
def Request.Asked (conv : ℤ → ℤ) (ws : List (List UInt8)) : Request → Prop
  | .room (.create name size) => ∃ n rest, ws = bytes "CREATE" :: n :: rest ∧ name = n.take 63 ∧
      ∃ zr ∈ scanInt (sizeText n rest), size = conv zr.1
  | .room (.start name) => ∃ n rest, ws = bytes "START" :: n :: rest ∧ name = n.take 63
  | .room (.stop name) => ∃ n rest, ws = bytes "STOP" :: n :: rest ∧ name = n.take 63
  | .room (.showRoom name) => ∃ n rest, ws = bytes "SHOW" :: n :: rest ∧ name = n.take 63
  | .list => ws = [bytes "SHOW"]
  | .exit => ws.head? = some (bytes "EXIT")
  | .refused _ => True

/-- Every request comes from tokens that ask for it. -/
lemma asked_requestOfTokens (conv : ℤ → ℤ) (ws : List (List UInt8)) :
    (requestOfTokens conv ws).Asked conv ws := by
  unfold requestOfTokens
  cases ws with
  | nil => trivial
  | cons cmd args =>
      dsimp only
      split_ifs with hcreate hstart hstop hshow hexit
      · subst hcreate
        cases args with
        | nil => trivial
        | cons n rest =>
            dsimp only
            split
            · trivial
            · rename_i z r hint
              exact ⟨n, rest, rfl, rfl, (z, r), hint, rfl⟩
      · subst hstart
        cases args with
        | nil => trivial
        | cons n rest => exact ⟨n, rest, rfl, rfl⟩
      · subst hstop
        cases args with
        | nil => trivial
        | cons n rest => exact ⟨n, rest, rfl, rfl⟩
      · subst hshow
        cases args with
        | nil => rfl
        | cons n rest => exact ⟨n, rest, rfl, rfl⟩
      · subst hexit
        rfl
      · trivial

/-- **Where the tokens are taken whole**, the answer goes with them. -/
lemma whole_of_takenWhole {host : Host} {t : Table} {m : RoomMap} (hrep : Represents host t m)
    (hok : m.Ok) {command : List UInt8} (h : TakenWhole (tokens (cstr command))) :
    WholeAnswer host t (tokens (cstr command))
      (handleCommand host .strtol command bufferSize t) := by
  rw [handleCommand_eq host .strtol command (by decide)]
  rcases answers_exec hrep hok .strtol command with ⟨htag, htable⟩ | ⟨htag, heffect⟩
  · exact .error htag htable
  have hasked := asked_requestOfTokens ScanInt.strtol.conv (tokens (cstr command))
  rw [← requestOf_eq] at hasked
  generalize tokens (cstr command) = ws at h hasked ⊢
  cases hreq : requestOf .strtol command with
  | refused text =>
      rw [hreq] at heffect
      exact heffect.elim
  | list =>
      rw [hreq] at hasked
      exact .list hasked rfl
  | exit =>
      rw [hreq] at hasked
      exact .exit hasked rfl
  | room op =>
      have hn := nameOk_of_requestOf hreq
      rw [hreq] at hasked htag heffect
      cases op with
      | create name size =>
          obtain ⟨n, rest, rfl, rfl, zr, hint, rfl⟩ := hasked
          obtain ⟨hmin, hmax, hold, hnew⟩ := created_of_ok hrep hok hn htag
          obtain ⟨hlen, hnum⟩ := h.2 rfl zr hint hmin hmax
          rw [sizeText, if_pos hlen] at hnum
          have htake : n.take 63 = n := List.take_of_length_le hlen
          rw [htake] at htag hold hnew
          cases rest with
          | nil => exact absurd rfl hnum.ne_nil
          | cons s rest =>
              refine .create rfl hnum ?_ hold ?_
              · rw [htake]
                exact htag
              · rw [htake]
                exact hnew
      | start name =>
          obtain ⟨n, rest, rfl, rfl⟩ := hasked
          have htake : n.take 63 = n := List.take_of_length_le (h.1 (Or.inl rfl))
          rw [htake] at hn htag ⊢
          obtain ⟨size, status, pid, hold, hnew⟩ := started_of_ok hrep hok hn htag
          exact .start rfl htag hold hnew
      | stop name =>
          obtain ⟨n, rest, rfl, rfl⟩ := hasked
          have htake : n.take 63 = n := List.take_of_length_le (h.1 (Or.inr (Or.inl rfl)))
          rw [htake] at hn htag ⊢
          obtain ⟨size, status, pid, hold, hnew⟩ := stopped_of_ok hrep hok hn htag
          exact .stop rfl htag hold hnew
      | showRoom name =>
          obtain ⟨n, rest, rfl, rfl⟩ := hasked
          have htake : n.take 63 = n := List.take_of_length_le (h.1 (Or.inr (Or.inr rfl)))
          rw [htake] at hn htag heffect ⊢
          obtain ⟨size, status, pid, hold, htext⟩ := shown_of_ok hrep hok hn htag
          exact .showRoom rfl hold htext heffect

section reached

variable (host : Host) {n : List UInt8} (hn : NameOk n)
include hn

/-- Lines that leave exactly the room `n`, with the status `created` or `running`. -/
lemma exists_received (running : Bool) : ∃ received m,
    Represents host ((daemon host).run Table.empty received).1 m ∧ m.Ok ∧
      m.lookup n = some ⟨1, if running then .running else .created⟩ := by
  have hone : Numeral (bytes "1") 1 := numeral_intText 1
  let create : Received := ⟨bytes "CREATE" ++ 32 :: (n ++ 32 :: bytes "1"), bufferSize, .strtol⟩
  let start : Received := ⟨bytes "START" ++ 32 :: n, bufferSize, .strtol⟩
  have hcreate (m : RoomMap) : m.receive host create = (m.apply host (.create n 1)).1 := by
    simp only [create, RoomMap.receive]
    rw [if_neg (by decide), requestOf_create .strtol hn hone (by unfold IsInt; decide) (by decide)]
  have hstart (m : RoomMap) : m.receive host start = (m.apply host (.start n)).1 := by
    simp only [start, RoomMap.receive]
    rw [if_neg (by decide), requestOf_start .strtol hn]
  have hcreated : OrderedMap.lookup (RoomMap.apply host OrderedMap.empty (.create n 1)).1 n =
      some ⟨1, .created⟩ := by
    rw [(RoomMap.apply_eq_act host OrderedMap.empty (.create n 1)).2 n, RoomOp.name, if_pos rfl]
    rfl
  cases running with
  | false =>
      obtain ⟨hrep, hok⟩ := represents_run host [create]
      refine ⟨[create], _, hrep, hok, ?_⟩
      rw [List.foldl_cons, List.foldl_nil, hcreate]
      exact hcreated
  | true =>
      obtain ⟨hrep, hok⟩ := represents_run host [create, start]
      refine ⟨[create, start], _, hrep, hok, ?_⟩
      rw [List.foldl_cons, List.foldl_cons, List.foldl_nil, hcreate, hstart,
        (RoomMap.apply_eq_act host _ (.start n)).2 n, RoomOp.name, if_pos rfl, hcreated]
      rfl

end reached

/-- No room has a name of more than 63 bytes. -/
lemma view_eq_none {host : Host} {t : Table} {m : RoomMap} (hrep : Represents host t m)
    (hok : m.Ok) {n : List UInt8} (h0 : (0 : UInt8) ∉ n) (hlong : 63 < n.length) :
    t.view n = none := by
  rw [hrep.view_eq, cstr_eq_self h0, Option.map_eq_none_iff]
  by_contra hsome
  obtain ⟨d, hd⟩ := Option.ne_none_iff_exists'.mp hsome
  have hshort : n.length ≤ 63 := (hok (n, d) ((m.lookup_eq_some_iff n d).mp hd)).1.token.length_le
  omega

/-- Where there is no room of that name, only an error goes with a `START`, `STOP` or `SHOW`. -/
lemma WholeAnswer.head_eq {host : Host} {t : Table} {cmd n : List UInt8}
    {rest : List (List UInt8)} {o : Outcome} (h : WholeAnswer host t (cmd :: n :: rest) o)
    (hcmd : cmd = bytes "START" ∨ cmd = bytes "STOP" ∨ cmd = bytes "SHOW")
    (hview : t.view n = none) : o.response.head? = some 69 := by
  cases h with
  | error htag _ => exact htag.head_error
  | list hws _ => cases hws
  | exit hws _ =>
      obtain rfl : cmd = bytes "EXIT" := Option.some.inj hws
      exact absurd hcmd (by decide)
  | create hws _ _ _ _ =>
      cases hws
      exact absurd hcmd (by decide)
  | start hws _ hold _ =>
      cases hws
      rw [hview] at hold
      cases hold
  | stop hws _ hold _ =>
      cases hws
      rw [hview] at hold
      cases hold
  | showRoom hws hold _ _ =>
      cases hws
      rw [hview] at hold
      cases hold

/-- What the first `CREATE` does, if it asks for a valid size. -/
lemma created_first (host : Host) {name : List UInt8} (hn : NameOk name) {size : ℤ}
    (hmin : 1 ≤ size) (hmax : size ≤ 10000) :
    (cmdCreateRoom name size bufferSize Table.empty).response.head? = some 79 ∧
      Updated Table.empty (cmdCreateRoom name size bufferSize Table.empty).table name
        (size, .created, 0) := by
  have hact : (RoomOp.create name size).act host
      (OrderedMap.lookup OrderedMap.empty (RoomOp.create name size).name)
      (RoomMap.isFull OrderedMap.empty) = (some ⟨size, .created⟩, .created name size) := by
    rw [RoomOp.act, if_neg (by omega), if_neg (fun h => h rfl)]
    rfl
  constructor
  · have hresponse := response_exec (represents_empty host) (.create name size) hn ok_empty
    rw [hact, RoomOp.exec] at hresponse
    rw [hresponse, Reply.head_text]
    rfl
  · intro k hk
    have hview := view_exec (represents_empty host) (.create name size) hn hk
    rw [hact] at hview
    exact hview

/-- An answer that goes with the tokens of the first `CREATE`: they have been taken whole. -/
lemma WholeAnswer.created {host : Host} {n : List UInt8} {rest : List (List UInt8)} {size : ℤ}
    (h : WholeAnswer host Table.empty (bytes "CREATE" :: n :: rest)
      (cmdCreateRoom (n.take 63) size bufferSize Table.empty))
    (hn : NameOk (n.take 63)) (hmin : 1 ≤ size) (hmax : size ≤ 10000) :
    n.length ≤ 63 ∧ Numeral (sizeText n rest) size := by
  obtain ⟨hhead, hupdated⟩ := created_first host hn hmin hmax
  cases h with
  | error htag _ => exact absurd (hhead.symm.trans htag.head_error) (by decide)
  | list hws _ => cases hws
  | exit hws _ => exact absurd (Option.some.inj hws) (by decide)
  | start hws _ _ _ => exact absurd (List.cons.inj hws).1 (by decide)
  | stop hws _ _ _ => exact absurd (List.cons.inj hws).1 (by decide)
  | showRoom hws _ _ _ => exact absurd (List.cons.inj hws).1 (by decide)
  | create hws hnum _ _ hnew =>
      cases hws
      -- the new room has the name that the answer goes with
      have h0 : (0 : UInt8) ∉ n.take 63 := hn.zero_notMem
      have hroom := hnew (n.take 63) h0
      have hempty : Table.empty.view (n.take 63) = none := by
        rw [(represents_empty host).view_eq]
        rfl
      rw [hupdated (n.take 63) h0, if_pos rfl, hempty] at hroom
      split_ifs at hroom with hcut
      · have hlen : n.length ≤ 63 := (List.take_eq_self_iff n).mp hcut
        rw [sizeText, if_pos hlen]
        cases hroom
        exact ⟨hlen, hnum⟩

/-- **Where every table gets an answer that goes with the tokens**, the tokens are taken whole. -/
lemma takenWhole_of_whole {host : Host} {command : List UInt8}
    (h : ∀ received : List Received,
      let t := ((daemon host).run Table.empty received).1
      WholeAnswer host t (tokens (cstr command))
        (handleCommand host .strtol command bufferSize t)) :
    TakenWhole (tokens (cstr command)) := by
  have hzero : ∀ w ∈ tokens (cstr command), (0 : UInt8) ∉ w := by
    intro w hw h0
    exact zero_notMem_cstr command (mem_of_mem_tokens hw h0)
  have hreq := requestOf_eq .strtol command
  have hname (op : RoomOp) (hop : requestOf .strtol command = .room op) : NameOk op.name :=
    nameOk_of_requestOf hop
  rw [hreq] at hname
  simp only [handleCommand_eq host .strtol command (by decide : bufferSize ≠ 0), hreq] at h
  generalize tokens (cstr command) = ws at h hzero hname ⊢
  match ws with
  | [] => trivial
  | [_] => trivial
  | cmd :: n :: rest =>
      have h0 : (0 : UInt8) ∉ n := hzero n (by simp)
      constructor
      · intro hcmd
        by_contra hlong
        rw [Nat.not_le] at hlong
        -- the room of the first 63 bytes is there, and no other
        have hrefute (op : RoomOp) (running : Bool) (hop : op.name = n.take 63)
            (hreq : requestOfTokens ScanInt.strtol.conv (cmd :: n :: rest) = .room op)
            (hact : ∀ full, (op.act host (some ⟨1, if running then .running else .created⟩)
              full).2.isError = false) : False := by
          have hn := hname op hreq
          obtain ⟨received, m, hrep, hok, hlook⟩ := exists_received host (hop ▸ hn) running
          have hwhole := (h received).head_eq hcmd (view_eq_none hrep hok h0 hlong)
          rw [hreq, Request.exec, response_exec hrep op hn hok, Reply.head_text, hop, hlook,
            hact] at hwhole
          cases hwhole
        rcases hcmd with rfl | rfl | rfl
        · exact hrefute (.start (n.take 63)) false rfl rfl fun _ => rfl
        · exact hrefute (.stop (n.take 63)) true rfl rfl fun _ => rfl
        · exact hrefute (.showRoom (n.take 63)) false rfl rfl fun _ => rfl
      · rintro rfl ⟨z, r⟩ hint hmin hmax
        have hop : requestOfTokens ScanInt.strtol.conv (bytes "CREATE" :: n :: rest) =
            .room (.create (n.take 63) (ScanInt.strtol.conv z)) := by
          have hint : scanInt (sizeText n rest) = some (z, r) := hint
          rw [requestOfTokens, if_pos rfl]
          simp only [hint]
        have hwhole := h []
        rw [hop] at hwhole
        exact hwhole.created (hname _ hop) hmin hmax

/-- **`handle_command` takes tokens whole** in every reachable table, if and only if the tokens of
the line are as `TakenWhole` says. -/
theorem tokens_whole_iff (host : Host) (command : List UInt8) :
    (∀ received : List Received,
      let t := ((daemon host).run Table.empty received).1
      WholeAnswer host t (tokens (cstr command))
        (handleCommand host .strtol command bufferSize t)) ↔
      TakenWhole (tokens (cstr command)) := by
  constructor
  · intro h
    exact takenWhole_of_whole h
  · intro h received
    obtain ⟨hrep, hok⟩ := represents_run host received
    exact whole_of_takenWhole hrep hok h

/-- `12abc` is no numeral, and the room gets the size 12. -/
theorem tail_dropped :
    ¬ WholeAnswer .example Table.empty (tokens (cstr (bytes "CREATE cpu 12abc")))
      (handleCommand .example .strtol (bytes "CREATE cpu 12abc") bufferSize Table.empty) := by
  have htokens : tokens (cstr (bytes "CREATE cpu 12abc")) =
      [bytes "CREATE", bytes "cpu", bytes "12abc"] := by decide
  have hreq : requestOf .strtol (bytes "CREATE cpu 12abc") =
      .room (.create ((bytes "cpu").take 63) 12) := by decide
  rw [handleCommand_eq .example .strtol _ (by decide), htokens, hreq, Request.exec, RoomOp.exec]
  intro h
  obtain ⟨-, hnum⟩ := h.created (nameOk_of_requestOf hreq) (by decide) (by decide)
  have hscan := scanInt_numeral hnum noDigitHead_nil
  exact absurd hscan (by decide)

end ProcessMonitor.Comm
