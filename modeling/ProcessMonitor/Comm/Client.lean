import ProcessMonitor.Comm.Commands

/-!
# The client

`parse_command` and `validate_command` of `src/03-communication/client/command_parser.c` and the
encoder `client_send_command` of `socket_client.c`, set against the decoder of the daemon.

The encoder puts a blank between the word, the name and the number, and the decoder takes every
run of white space as the end of a token, so that a name survives exactly if it has no white space.
`validate_command` asks only that the name is not empty.
-/

namespace ProcessMonitor.Comm

open CString Decimal Scanf

/-! ## Data -/

/-- Source: `client.h`, `command_type_t` -/
inductive CommandType
  | help | create | start | stop | showRoom | exit | unknown
deriving DecidableEq, Repr

/-- `MAX_ARGS` -/
def maxArgs : ℕ := 10

/-- An array `char[64]` of zeros. -/
def zeroName : List UInt8 := List.replicate 64 0

/-- Source: `client.h`, `command_t` -/
structure Command where
  type : CommandType
  roomName : List UInt8
  roomSize : ℤ
  args : List (List UInt8)
  argCount : ℕ
  name_length : roomName.length = 64
  length_args : args.length = maxArgs

/-! ## The parser of the command line -/

/-- `strncpy(cmd->room_name, name, sizeof(cmd->room_name) - 1)` -/
def Command.setName (cmd : Command) (name : List UInt8) : Command :=
  { cmd with
    roomName := strncpy cmd.roomName name 63
    name_length := by rw [length_strncpy name (by rw [cmd.name_length]; decide), cmd.name_length] }

/-- The loop that copies the arguments behind the command word. -/
def copyArgs (args : List (List UInt8)) : List (List UInt8) :=
  (args.map (fun a => (strncpy zeroName a 63).set 63 0) ++ List.replicate maxArgs zeroName).take
    maxArgs

/-- The structure after `memset` and the first assignments, with the copies that the loop at the
end makes: nothing in between looks at them. -/
def Command.init (args : List (List UInt8)) : Command where
  type := .unknown
  roomName := zeroName
  roomSize := 0
  args := copyArgs args
  argCount := args.length
  name_length := List.length_replicate
  length_args := by simp [copyArgs]

/-- The branches of `start`, `stop` and `show`. -/
def Command.withName (cmd : Command) (type : CommandType) (args : List (List UInt8)) : Command :=
  match args with
  | name :: _ => { cmd.setName name with type := type }
  | [] => { cmd with type := type }

/-- What the parser leaves in `cmd`; `none` where it returns without touching it. It returns the
`type`.
Source: `command_parser.c`, `parse_command` -/
def parseCommand : List (List UInt8) → Option Command
  | _ :: word :: args =>
      let cmd := Command.init args
      some <|
        if strcmp word (bytes "help") = 0 then { cmd with type := .help }
        else if strcmp word (bytes "create") = 0 then
          match args with
          | name :: size :: _ => { cmd.setName name with type := .create, roomSize := atoi size }
          | _ => { cmd with type := .create }
        else if strcmp word (bytes "start") = 0 then cmd.withName .start args
        else if strcmp word (bytes "stop") = 0 then cmd.withName .stop args
        else if strcmp word (bytes "show") = 0 then cmd.withName .showRoom args
        else if strcmp word (bytes "exit") = 0 then { cmd with type := .exit }
        else cmd
  | _ => none

/-- Source: `command_parser.c`, `validate_command` -/
def validateCommand (cmd : Command) : ℤ :=
  match cmd.type with
  | .create =>
      if strlen cmd.roomName = 0 then -1
      else if cmd.roomSize ≤ 0 then -1
      else if cmd.roomSize > 10000 then -1
      else 0
  | .start | .stop => if strlen cmd.roomName = 0 then -1 else 0
  | .showRoom => 0
  | .help | .exit => 0
  | .unknown => -1

/-! ## The encoder -/

/-- The bytes handed to `send`; `none` where it returns -1.
Source: `socket_client.c`, `client_send_command` -/
def clientSendCommand (cmd : Command) : Option (List UInt8) :=
  match cmd.type with
  | .create =>
      some (snprintf bufferSize
        (bytes "CREATE " ++ cstr cmd.roomName ++ bytes " " ++ intText cmd.roomSize))
  | .start => some (snprintf bufferSize (bytes "START " ++ cstr cmd.roomName))
  | .stop => some (snprintf bufferSize (bytes "STOP " ++ cstr cmd.roomName))
  | .showRoom => some (snprintf bufferSize (bytes "SHOW " ++ cstr cmd.roomName))
  | .exit => some (snprintf bufferSize (bytes "EXIT"))
  | .help | .unknown => none

/-- The request that a command stands for: the operation with this name and size; `show` without
a name asks for the listing. -/
def Command.request (cmd : Command) : Option Request :=
  match cmd.type with
  | .create => some (.room (.create (cstr cmd.roomName) cmd.roomSize))
  | .start => some (.room (.start (cstr cmd.roomName)))
  | .stop => some (.room (.stop (cstr cmd.roomName)))
  | .showRoom =>
      some (if cstr cmd.roomName = [] then .list else .room (.showRoom (cstr cmd.roomName)))
  | .exit => some .exit
  | .help | .unknown => none

/-! ## What the parser leaves -/

/-- The copy into a zeroed name keeps 63 bytes. -/
lemma cstr_setName_init (args : List (List UInt8)) (name : List UInt8) :
    cstr ((Command.init args).setName name).roomName = (cstr name).take 63 := by
  have hzero : cstr (zeroName.drop 63) = [] := by decide
  rcases Nat.lt_or_ge (cstr name).length 63 with hlt | hge
  · exact (cstr_strncpy_of_lt _ hlt).trans (List.take_of_length_le hlt.le).symm
  · refine (cstr_strncpy_of_ge _ hge).trans ?_
    rw [show (Command.init args).roomName = zeroName from rfl, hzero, List.append_nil]

/-- The name before any copy. -/
lemma cstr_init (args : List (List UInt8)) : cstr (Command.init args).roomName = [] :=
  show cstr zeroName = [] by decide

/-- The name of a command line: the first 63 bytes of the argument behind the word. -/
def nameArgument (argv : List (List UInt8)) : List UInt8 :=
  match argv[2]? with
  | some name => (cstr name).take 63
  | none => []

/-- The branches with a name store the name of the command line. -/
lemma cstr_withName (type : CommandType) (program word : List UInt8) (args : List (List UInt8)) :
    cstr ((Command.init args).withName type args).roomName =
      nameArgument (program :: word :: args) := by
  cases args with
  | nil => exact cstr_init []
  | cons name rest => exact cstr_setName_init _ name

lemma type_withName (cmd : Command) (type : CommandType) (args : List (List UInt8)) :
    (cmd.withName type args).type = type := by
  cases args <;> rfl

/-- `cmd` is `exit`, without a name, and comes from that word, or it holds the name of the command
line. -/
def HoldsName (argv : List (List UInt8)) (cmd : Command) : Prop :=
  (cmd.type = .exit ∧ (∃ word ∈ argv[1]?, strcmp word (bytes "exit") = 0) ∧
      cstr cmd.roomName = []) ∨
    (cmd.type ≠ .exit ∧ (¬ ∃ word ∈ argv[1]?, strcmp word (bytes "exit") = 0) ∧
      cstr cmd.roomName = nameArgument argv)

/-- A word that is another word is not `exit`. -/
lemma not_exit_of_strcmp (program : List UInt8) (args : List (List UInt8)) {word w : List UInt8}
    (h : strcmp word w = 0) (hw : cstr w ≠ cstr (bytes "exit")) :
    ¬ ∃ word' ∈ (program :: word :: args)[1]?, strcmp word' (bytes "exit") = 0 := by
  rintro ⟨word', hword, hexit⟩
  obtain rfl : word = word' := Option.some.inj hword
  rw [strcmp_eq_zero_iff] at h hexit
  exact hw (h.symm.trans hexit)

/-- **An accepted command**, `help` apart, holds the name of its command line. -/
lemma holdsName_of_accepted {argv : List (List UInt8)} {cmd : Command}
    (hparse : parseCommand argv = some cmd) (hvalid : validateCommand cmd = 0)
    (hhelp : cmd.type ≠ .help) : HoldsName argv cmd := by
  match argv, hparse with
  | program :: word :: args, hparse =>
    have hcmd := (Option.some.inj hparse).symm
    -- one case for each word, in the order of the comparisons
    split_ifs at hcmd with h₁ h₂ h₃ h₄ h₅ h₆
    · exact absurd (congrArg Command.type hcmd) hhelp
    · have hword := not_exit_of_strcmp program args h₂ (by decide)
      split at hcmd
      · rename_i name size rest
        subst hcmd
        exact Or.inr ⟨by simp, hword, cstr_setName_init _ name⟩
      · -- without a size the name stays empty, and the command is not accepted
        subst hcmd
        simp [validateCommand, strlen, cstr_init] at hvalid
    · subst hcmd
      exact Or.inr ⟨by simp [type_withName], not_exit_of_strcmp _ _ h₃ (by decide),
        cstr_withName _ _ _ _⟩
    · subst hcmd
      exact Or.inr ⟨by simp [type_withName], not_exit_of_strcmp _ _ h₄ (by decide),
        cstr_withName _ _ _ _⟩
    · subst hcmd
      exact Or.inr ⟨by simp [type_withName], not_exit_of_strcmp _ _ h₅ (by decide),
        cstr_withName _ _ _ _⟩
    · subst hcmd
      exact Or.inl ⟨rfl, ⟨word, rfl, h₆⟩, cstr_init args⟩
    · subst hcmd
      simp [validateCommand, Command.init] at hvalid

/-- A name of the command line has at most 63 bytes, none of them NUL. -/
lemma length_nameArgument_le (argv : List (List UInt8)) : (nameArgument argv).length ≤ 63 := by
  unfold nameArgument
  split
  · exact List.length_take_le _ _
  · simp

/-! ## Decoding -/

/-- A name that is not empty is one the decoder can store exactly if it has no white space. -/
lemma nameOk_iff {n : List UInt8} (hne : n ≠ []) (hlen : n.length ≤ 63) (h0 : (0 : UInt8) ∉ n) :
    NameOk n ↔ ∀ b ∈ n, isspace b = false :=
  ⟨fun h => h.token.not_space, fun h => ⟨⟨hne, hlen, h⟩, h0⟩⟩

/-- The encoder's buffer holds a word, a blank and a name. -/
lemma snprintf_word_name {w word n : List UInt8} (hw : w = word ++ [32])
    (hword : word.length ≤ 63) (hn : n.length ≤ 63) :
    snprintf bufferSize (w ++ n) = word ++ 32 :: n := by
  rw [hw, List.append_assoc, List.singleton_append]
  refine snprintf_eq_self ?_
  simp only [List.length_append, List.length_cons, bufferSize]
  omega

/-- A name with a white space never comes back, and one without comes back if the line that holds
it does. -/
lemma requestOf_eq_room_iff (scan : ScanInt) {text : List UInt8} {op : RoomOp}
    (hne : op.name ≠ []) (hlen : op.name.length ≤ 63) (h0 : (0 : UInt8) ∉ op.name)
    (h : NameOk op.name → requestOf scan text = .room op) :
    requestOf scan text = .room op ↔ ∀ b ∈ op.name, isspace b = false := by
  rw [← nameOk_iff hne hlen h0]
  exact ⟨nameOk_of_requestOf, h⟩

/-- **Encode, then decode.** An accepted command with a name of at most 63 bytes comes back as
itself exactly if it is `exit` or its name has no white space. -/
lemma decode_encode_iff (scan : ScanInt) {cmd : Command} (hvalid : validateCommand cmd = 0)
    (hhelp : cmd.type ≠ .help) (hlen : (cstr cmd.roomName).length ≤ 63) :
    (clientSendCommand cmd).map (requestOf scan) = cmd.request ↔
      cmd.type = .exit ∨ ∀ b ∈ cstr cmd.roomName, isspace b = false := by
  have h0 := zero_notMem_cstr cmd.roomName
  unfold validateCommand at hvalid
  unfold clientSendCommand Command.request
  cases htype : cmd.type with
  | help => exact absurd htype hhelp
  | create =>
      simp only [htype, strlen, List.length_eq_zero_iff] at hvalid
      split_ifs at hvalid with hne hlo hhi
      have hint : IsInt cmd.roomSize := ⟨by omega, by omega⟩
      have htext : snprintf bufferSize
          (bytes "CREATE " ++ cstr cmd.roomName ++ bytes " " ++ intText cmd.roomSize) =
          bytes "CREATE" ++ 32 :: (cstr cmd.roomName ++ 32 :: intText cmd.roomSize) := by
        refine (snprintf_eq_self ?_).trans (by simp [bytes])
        have hsize := length_intText_le hint
        have hword : (bytes "CREATE ").length = 7 ∧ (bytes " ").length = 1 := by decide
        simp only [List.length_append, hword, bufferSize]
        omega
      have hnum := numeral_intText cmd.roomSize
      simp only [htext, Option.map_some, Option.some.injEq, reduceCtorEq, false_or]
      exact requestOf_eq_room_iff scan hne hlen h0 fun hn =>
        requestOf_create scan hn hnum hint hnum.zero_notMem
  | start =>
      simp only [htype, strlen, List.length_eq_zero_iff] at hvalid
      split_ifs at hvalid with hne
      have htext := snprintf_word_name (show bytes "START " = bytes "START" ++ [32] by decide)
        (by decide) hlen
      simp only [htext, Option.map_some, Option.some.injEq, reduceCtorEq, false_or]
      exact requestOf_eq_room_iff scan hne hlen h0 fun hn => requestOf_start scan hn
  | stop =>
      simp only [htype, strlen, List.length_eq_zero_iff] at hvalid
      split_ifs at hvalid with hne
      have htext := snprintf_word_name (show bytes "STOP " = bytes "STOP" ++ [32] by decide)
        (by decide) hlen
      simp only [htext, Option.map_some, Option.some.injEq, reduceCtorEq, false_or]
      exact requestOf_eq_room_iff scan hne hlen h0 fun hn => requestOf_stop scan hn
  | showRoom =>
      have htext := snprintf_word_name (show bytes "SHOW " = bytes "SHOW" ++ [32] by decide)
        (by decide) hlen
      simp only [htext, Option.map_some, Option.some.injEq, reduceCtorEq, false_or]
      by_cases hne : cstr cmd.roomName = []
      · rw [hne, if_pos rfl]
        refine iff_of_true ?_ (by simp)
        rw [requestOf, parse_one (nameOk_words _ (by simp)) (by decide)]
        rfl
      · rw [if_neg hne]
        exact requestOf_eq_room_iff scan hne hlen h0 fun hn => requestOf_showRoom scan hn
  | exit =>
      refine iff_of_true ?_ (Or.inl rfl)
      have htext : snprintf bufferSize (bytes "EXIT") = bytes "EXIT" ++ [] := by decide
      rw [htext, Option.map_some, requestOf, parse_one (nameOk_words _ (by simp)) (by simp)]
      rfl
  | unknown => simp [htype] at hvalid

/-- **What the client accepts and the daemon understands.** For a command line that the client
parses and accepts, of any type but `help`, the text it sends decodes to the operation it stands
for, and the daemon executes that operation on whatever table it has, exactly if the word is `exit`
or the first 63 bytes of the name hold no white space. -/
theorem sent_command_iff (scan : ScanInt) (argv : List (List UInt8)) (cmd : Command)
    (hparse : parseCommand argv = some cmd) (hvalid : validateCommand cmd = 0)
    (hhelp : cmd.type ≠ .help) :
    ((clientSendCommand cmd).map (requestOf scan) = cmd.request ∧
        ∀ (host : Host) (t : Table),
          (clientSendCommand cmd).map (fun text => handleCommand host scan text bufferSize t) =
            cmd.request.map fun request => request.exec host bufferSize t) ↔
      (∃ word ∈ argv[1]?, strcmp word (bytes "exit") = 0) ∨
        ∀ b ∈ nameArgument argv, isspace b = false := by
  have hexec (h : (clientSendCommand cmd).map (requestOf scan) = cmd.request) (host : Host)
      (t : Table) :
      (clientSendCommand cmd).map (fun text => handleCommand host scan text bufferSize t) =
        cmd.request.map fun request => request.exec host bufferSize t := by
    rw [← h, Option.map_map]
    exact congrArg (fun f => (clientSendCommand cmd).map f)
      (funext fun text => handleCommand_eq host scan text (by decide) t)
  rw [and_iff_left_of_imp hexec]
  rcases holdsName_of_accepted hparse hvalid hhelp with
    ⟨hexit, hword, hname⟩ | ⟨hexit, hword, hname⟩
  · rw [decode_encode_iff scan hvalid hhelp (by simp [hname])]
    exact iff_of_true (Or.inl hexit) (Or.inl hword)
  · rw [decode_encode_iff scan hvalid hhelp (hname ▸ length_nameArgument_le argv), hname,
      or_iff_right hexit, or_iff_right hword]

/-- `client create web 100` comes back as itself. -/
theorem sent_command_web :
    ∃ cmd, parseCommand [bytes "client", bytes "create", bytes "web", bytes "100"] = some cmd ∧
      (clientSendCommand cmd).map (requestOf .strtol) = cmd.request :=
  ⟨_, rfl, ((sent_command_iff .strtol [bytes "client", bytes "create", bytes "web", bytes "100"] _
    rfl (by decide) (by decide)).mpr (Or.inr (by decide))).1⟩

/-- The name `a 5` with the size 100: the daemon would create a room `a` of size 5. -/
theorem blankInName_misread :
    ¬ ∀ (argv : List (List UInt8)) (cmd : Command), parseCommand argv = some cmd →
      validateCommand cmd = 0 → cmd.type ≠ .help →
        (clientSendCommand cmd).map (requestOf .strtol) = cmd.request := by
  intro h
  have hread := h [bytes "client", bytes "create", bytes "a 5", bytes "100"] _ rfl (by decide)
    (by decide)
  revert hread
  decide

end ProcessMonitor.Comm
