import ProcessMonitor.Lib.Machine
import ProcessMonitor.Lib.Scanf
import ProcessMonitor.Comm.Rooms

/-!
# `handle_command`

The command parser of `src/03-communication/daemon/command_handler.c`: up to three attempts of
`sscanf` on the line, then a chain of comparisons. `Request` is what a line asks for, refusals
included; `handleCommand_eq` splits `handle_command` into finding the request and executing it.
-/

namespace ProcessMonitor.Comm

open CString Decimal Scanf

/-! ## Parsing -/

/-- What `%d` stores for the number it reads: an `int`, and the number itself if that is one. -/
structure ScanInt where
  conv : ℤ → ℤ
  isInt_conv : ∀ z, IsInt (conv z)
  conv_eq : ∀ z, IsInt z → conv z = z

/-- The `%d` of a C library that reads with `strtol` and converts the `long` to `int`. -/
def ScanInt.strtol : ScanInt where
  conv z := wrapInt (clampLong z)
  isInt_conv z := isInt_wrapInt (clampLong z)
  conv_eq _ h := wrapInt_clampLong h

/-- The local variables of `handle_command` after the three attempts; a variable that no attempt
has filled is empty or 0 here, and is not used. -/
structure Parsed where
  parsed : ℕ
  cmd : List UInt8 := []
  roomName : List UInt8 := []
  roomSize : ℤ := 0
deriving DecidableEq, Repr

/-- The three attempts: `"%63s %63s %d"`, `"%63s %63s"`, `"%63s"`. -/
def parse (conv : ℤ → ℤ) (command : List UInt8) : Parsed :=
  match sscanf conv [.str 63, .space, .str 63, .space, .int] command with
  | [.bytes cmd, .bytes roomName, .int roomSize] => ⟨3, cmd, roomName, roomSize⟩
  | _ =>
      match sscanf conv [.str 63, .space, .str 63] command with
      | [.bytes cmd, .bytes roomName] => { parsed := 2, cmd := cmd, roomName := roomName }
      | _ =>
          match sscanf conv [.str 63] command with
          | [.bytes cmd] => { parsed := 1, cmd := cmd }
          | _ => { parsed := 0 }

/-! ## The command -/

/-- Source: `command_handler.c`, `handle_command`, on pointers that are not `NULL` -/
def handleCommand (host : Host) (scan : ScanInt) (command : List UInt8) (responseSize : ℕ)
    (t : Table) : Outcome :=
  let reply (text : List UInt8) : Outcome := ⟨t, 0, snprintf responseSize text⟩
  if responseSize = 0 then ⟨t, -1, []⟩
  else
    let p := parse scan.conv command
    if p.parsed = 0 then reply (bytes "ERROR Invalid command format")
    else if strcmp p.cmd (bytes "CREATE") = 0 then
      if p.parsed < 3 then reply (bytes "ERROR CREATE requires room name and size")
      else cmdCreateRoom p.roomName p.roomSize responseSize t
    else if strcmp p.cmd (bytes "START") = 0 then
      if p.parsed < 2 then reply (bytes "ERROR START requires room name")
      else cmdStartRoom host p.roomName responseSize t
    else if strcmp p.cmd (bytes "STOP") = 0 then
      if p.parsed < 2 then reply (bytes "ERROR STOP requires room name")
      else cmdStopRoom p.roomName responseSize t
    else if strcmp p.cmd (bytes "SHOW") = 0 then
      if p.parsed < 2 then ⟨t, 0, written (listRooms responseSize t)⟩
      else cmdShowRoom p.roomName responseSize t
    else if strcmp p.cmd (bytes "EXIT") = 0 then cmdExitDaemon responseSize t
    else reply (bytes "ERROR Unknown command: " ++ cstr p.cmd)

/-! ## Requests -/

/-- An operation on one room. -/
inductive RoomOp
  | create (name : List UInt8) (size : ℤ)
  | start (name : List UInt8)
  | stop (name : List UInt8)
  | showRoom (name : List UInt8)
deriving DecidableEq, Repr

/-- The name in an operation. -/
def RoomOp.name : RoomOp → List UInt8
  | .create n _ | .start n | .stop n | .showRoom n => n

/-- What a line asks for; `refused` carries the error text. -/
inductive Request
  | room (op : RoomOp)
  | list
  | exit
  | refused (text : List UInt8)
deriving DecidableEq, Repr

/-- The request that the comparisons find. -/
def Parsed.request (p : Parsed) : Request :=
  if p.parsed = 0 then .refused (bytes "ERROR Invalid command format")
  else if strcmp p.cmd (bytes "CREATE") = 0 then
    if p.parsed < 3 then .refused (bytes "ERROR CREATE requires room name and size")
    else .room (.create p.roomName p.roomSize)
  else if strcmp p.cmd (bytes "START") = 0 then
    if p.parsed < 2 then .refused (bytes "ERROR START requires room name")
    else .room (.start p.roomName)
  else if strcmp p.cmd (bytes "STOP") = 0 then
    if p.parsed < 2 then .refused (bytes "ERROR STOP requires room name")
    else .room (.stop p.roomName)
  else if strcmp p.cmd (bytes "SHOW") = 0 then
    if p.parsed < 2 then .list else .room (.showRoom p.roomName)
  else if strcmp p.cmd (bytes "EXIT") = 0 then .exit
  else .refused (bytes "ERROR Unknown command: " ++ cstr p.cmd)

/-- The request of a line. -/
def requestOf (scan : ScanInt) (command : List UInt8) : Request :=
  (parse scan.conv command).request

/-- The command function of an operation. -/
def RoomOp.exec (host : Host) (responseSize : ℕ) (t : Table) : RoomOp → Outcome
  | .create name size => cmdCreateRoom name size responseSize t
  | .start name => cmdStartRoom host name responseSize t
  | .stop name => cmdStopRoom name responseSize t
  | .showRoom name => cmdShowRoom name responseSize t

/-- What the daemon does for a request. -/
def Request.exec (host : Host) (responseSize : ℕ) (t : Table) : Request → Outcome
  | .room op => op.exec host responseSize t
  | .list => ⟨t, 0, written (listRooms responseSize t)⟩
  | .exit => cmdExitDaemon responseSize t
  | .refused text => ⟨t, 0, snprintf responseSize text⟩

/-- `handle_command` finds the request of the line and executes it. -/
lemma handleCommand_eq (host : Host) (scan : ScanInt) (command : List UInt8) {responseSize : ℕ}
    (h : responseSize ≠ 0) (t : Table) :
    handleCommand host scan command responseSize t =
      (requestOf scan command).exec host responseSize t := by
  unfold handleCommand requestOf Parsed.request
  simp only [if_neg h]
  split_ifs <;> rfl

/-! ## What the parser can find -/

/-- A name as the parser stores it: a token of at most 63 bytes, without a NUL. -/
structure NameOk (n : List UInt8) : Prop where
  token : Token 63 n
  zero_notMem : (0 : UInt8) ∉ n

/-- The second `%63s` of a format stores such a name. -/
lemma nameOk_of_sscanf {conv : ℤ → ℤ} {command n : List UInt8} {ds : List Directive} {c : Val}
    {vs : List Val}
    (h : sscanf conv (.str 63 :: .space :: .str 63 :: ds) command = c :: .bytes n :: vs) :
    NameOk n := by
  obtain ⟨-, r, -, -, -, hr, h⟩ := scan_str_eq_cons conv h
  rw [scan_space] at h
  obtain ⟨t, -, ht, htok, hmem, -, -⟩ := scan_str_eq_cons conv h
  cases ht
  refine ⟨htok, fun h0 => zero_notMem_cstr command ?_⟩
  exact hr.subset ((List.dropWhile_suffix _).subset (hmem 0 h0))

/-- What the three attempts leave: with two or three values the name is a token. -/
lemma parse_cases (conv : ℤ → ℤ) (command : List UInt8) :
    (NameOk (parse conv command).roomName ∧ 2 ≤ (parse conv command).parsed) ∨
      (parse conv command).parsed < 2 := by
  unfold parse
  split
  · rename_i h
    exact Or.inl ⟨nameOk_of_sscanf h, by simp⟩
  · split
    · rename_i h
      exact Or.inl ⟨nameOk_of_sscanf h, le_rfl⟩
    · split
      · exact Or.inr (by simp)
      · exact Or.inr (by simp)

/-- Whatever the line, the name that an operation is called with is such a token. -/
lemma nameOk_of_requestOf {scan : ScanInt} {command : List UInt8} {op : RoomOp}
    (h : requestOf scan command = .room op) : NameOk op.name := by
  unfold requestOf Parsed.request at h
  rcases parse_cases scan.conv command with ⟨hn, -⟩ | hlt
  · split_ifs at h
    all_goals cases h
    all_goals exact hn
  · split_ifs at h
    all_goals cases h
    all_goals omega

/-! ## Well-formed lines -/

section lines

variable {conv : ℤ → ℤ} {w n s : List UInt8} {z : ℤ}

/-- A blank, or nothing, ends a token. -/
lemma spaceHead_blank (r : List UInt8) : SpaceHead (32 :: r) := by
  intro b hb
  obtain rfl : 32 = b := Option.some.inj hb
  decide

lemma spaceHead_nil : SpaceHead [] := by simp [SpaceHead]

/-- The blanks of a format skip the blank in front of what follows. -/
lemma scan_space_blank (ds : List Directive) {r : List UInt8}
    (h : r.dropWhile isspace = r) : scan conv (.space :: ds) (32 :: r) = scan conv ds r := by
  have h32 : (32 :: r).dropWhile isspace = r := by
    rw [List.dropWhile_cons, if_pos (by decide), h]
  rw [scan_space, h32]

/-- A token has no white space in front. -/
lemma NameOk.dropWhile_isspace (hn : NameOk n) (r : List UInt8) :
    (n ++ r).dropWhile isspace = n ++ r := by
  obtain ⟨b, l, rfl⟩ := List.exists_cons_of_ne_nil hn.token.ne_nil
  rw [List.cons_append, List.dropWhile_cons, hn.token.not_space b List.mem_cons_self]
  rfl

/-- A word, a name and a number. -/
lemma parse_three (hw : NameOk w) (hn : NameOk n) (hs : Numeral s z) (h0 : (0 : UInt8) ∉ s) :
    parse conv (w ++ 32 :: (n ++ 32 :: s)) = ⟨3, w, n, conv z⟩ := by
  have hc : cstr (w ++ 32 :: (n ++ 32 :: s)) = w ++ 32 :: (n ++ 32 :: s) := by
    refine cstr_eq_self ?_
    simp [hw.zero_notMem, hn.zero_notMem, h0]
  have hsp : s.dropWhile isspace = s := by
    have h := hs.dropWhile_isspace []
    rwa [List.append_nil] at h
  have hint := read_int_numeral conv hs noDigitHead_nil
  rw [List.append_nil] at hint
  unfold parse sscanf
  rw [hc, scan_cons_val _ _ (read_str_token conv hw.token (spaceHead_blank _)),
    scan_space_blank _ (hn.dropWhile_isspace _),
    scan_cons_val _ _ (read_str_token conv hn.token (spaceHead_blank _)),
    scan_space_blank _ hsp, scan_cons_val _ _ hint, scan_nil]

/-- A word and a name. -/
lemma parse_two (hw : NameOk w) (hn : NameOk n) :
    parse conv (w ++ 32 :: n) = { parsed := 2, cmd := w, roomName := n } := by
  have hc : cstr (w ++ 32 :: n) = w ++ 32 :: n :=
    cstr_eq_self (by simp [hw.zero_notMem, hn.zero_notMem])
  have hnsp := hn.dropWhile_isspace []
  have hread := read_str_token conv hn.token spaceHead_nil
  rw [List.append_nil] at hnsp hread
  unfold parse sscanf
  simp only [hc, scan_cons_val _ _ (read_str_token conv hw.token (spaceHead_blank _)),
    scan_space_blank _ hnsp, scan_cons_val _ _ hread, scan_space, List.dropWhile_nil,
    scan_cons_none _ _ (read_int_nil conv), scan_nil]

/-- A word alone, whatever white space follows it. -/
lemma parse_one (hw : NameOk w) {ws : List UInt8} (hws : ∀ b ∈ ws, isspace b = true) :
    parse conv (w ++ ws) = { parsed := 1, cmd := w } := by
  have h0 : (0 : UInt8) ∉ ws := fun h => absurd (hws 0 h) (by decide)
  have hc : cstr (w ++ ws) = w ++ ws := cstr_eq_self (by simp [hw.zero_notMem, h0])
  have hread : (Directive.str 63).read conv (w ++ ws) = some (some (.bytes w), ws) :=
    read_str_token conv hw.token fun b hb => hws b (List.mem_of_mem_head? hb)
  have hnone : (Directive.str 63).read conv (ws.dropWhile isspace) = none := by
    rw [read_str_dropWhile, read_str_of_all_space conv hws]
  unfold parse sscanf
  simp only [hc, scan_cons_val _ _ hread, scan_space, scan_cons_none _ _ hnone, scan_nil]

end lines

/-- The words of the five commands are tokens. -/
lemma nameOk_words : ∀ w ∈ [bytes "CREATE", bytes "START", bytes "STOP", bytes "SHOW",
    bytes "EXIT"], NameOk w := by
  have h : ∀ w ∈ [bytes "CREATE", bytes "START", bytes "STOP", bytes "SHOW", bytes "EXIT"],
      w ≠ [] ∧ w.length ≤ 63 ∧ (∀ b ∈ w, isspace b = false) ∧ (0 : UInt8) ∉ w := by decide
  exact fun w hw => ⟨⟨(h w hw).1, (h w hw).2.1, (h w hw).2.2.1⟩, (h w hw).2.2.2⟩

section requests

variable (scan : ScanInt) {n s : List UInt8} {z : ℤ} (hn : NameOk n)
include hn

lemma requestOf_create (hs : Numeral s z) (hz : IsInt z) (h0 : (0 : UInt8) ∉ s) :
    requestOf scan (bytes "CREATE" ++ 32 :: (n ++ 32 :: s)) = .room (.create n z) := by
  rw [requestOf, parse_three (nameOk_words _ (by simp)) hn hs h0, scan.conv_eq z hz]
  rfl

lemma requestOf_start : requestOf scan (bytes "START" ++ 32 :: n) = .room (.start n) := by
  rw [requestOf, parse_two (nameOk_words _ (by simp)) hn]
  rfl

lemma requestOf_stop : requestOf scan (bytes "STOP" ++ 32 :: n) = .room (.stop n) := by
  rw [requestOf, parse_two (nameOk_words _ (by simp)) hn]
  rfl

lemma requestOf_showRoom : requestOf scan (bytes "SHOW" ++ 32 :: n) = .room (.showRoom n) := by
  rw [requestOf, parse_two (nameOk_words _ (by simp)) hn]
  rfl

end requests

end ProcessMonitor.Comm
