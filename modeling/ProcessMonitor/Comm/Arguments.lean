import ProcessMonitor.Comm.Client

/-!
# The arguments of the client

What `parse_command` and `validate_command` of `src/03-communication/client` make of the arguments
that they accept. The name goes through a copy of 63 bytes and the size through `atoi`, which stops
at the first byte that is no digit and wraps to 32 bits; the range check sees the number only.

`arguments_faithful_iff` says which command lines the client takes as they stand or refuses.
`argsReadable_iff` is about the copies of all arguments in the command, and their number.
-/

namespace ProcessMonitor.Comm

open CString Decimal

/-! ## The client up to the sending -/

/-- The bytes handed to `send`; `none` where the client stops before.
Source: `client_main.c`, `main`, with a daemon to connect to -/
def clientMain (argv : List (List UInt8)) : Option (List UInt8) :=
  match parseCommand argv with
  | none => none
  | some cmd =>
      if cmd.type = .unknown then none
      else if cmd.type = .help then none
      else if validateCommand cmd ≠ 0 then none
      else clientSendCommand cmd

/-- The parser and the check accept the command line as this command. -/
def AcceptedAs (argv : List (List UInt8)) (cmd : Command) : Prop :=
  parseCommand argv = some cmd ∧ validateCommand cmd = 0

/-- The commands with a room. -/
def CommandType.hasRoom : CommandType → Bool
  | .create | .start | .stop | .showRoom => true
  | _ => false

/-- The command has the name that the command line gives, whole, and the size that it gives. -/
structure Faithful (argv : List (List UInt8)) (cmd : Command) : Prop where
  name_eq : cstr cmd.roomName = (argv[2]?.map cstr).getD []
  size_eq : cmd.type = .create → ∃ size ∈ argv[3]?,
    Numeral (cstr size) cmd.roomSize ∧ 1 ≤ cmd.roomSize ∧ cmd.roomSize ≤ 10000

/-- A command with a room is taken as it stands, and nothing is sent but such a command or `exit`,
accepted. -/
structure FaithfulOrRefused (argv : List (List UInt8)) : Prop where
  faithful : ∀ cmd, AcceptedAs argv cmd → cmd.type.hasRoom = true → Faithful argv cmd
  refused : ∀ text, clientMain argv = some text →
    ∃ cmd, AcceptedAs argv cmd ∧ (cmd.type.hasRoom = true ∨ cmd.type = .exit)

/-- A name has at most 63 bytes; so has the name of a room to create, if there is one, and the size
is a complete numeral of what `atoi` makes of it, if that is a valid size. -/
def ArgumentsWhole : List (List UInt8) → Prop
  | _ :: word :: name :: rest =>
      (strcmp word (bytes "start") = 0 ∨ strcmp word (bytes "stop") = 0 ∨
          strcmp word (bytes "show") = 0 → (cstr name).length ≤ 63) ∧
        (strcmp word (bytes "create") = 0 → cstr name ≠ [] → ∀ size ∈ rest.head?,
          1 ≤ atoi size → atoi size ≤ 10000 →
            (cstr name).length ≤ 63 ∧ Numeral (cstr size) (atoi size))
  | _ => True

/-! ## What is accepted -/

/-- Nothing is sent that is not accepted. -/
lemma accepted_of_sent {argv : List (List UInt8)} {text : List UInt8}
    (h : clientMain argv = some text) :
    ∃ cmd, AcceptedAs argv cmd ∧ (cmd.type.hasRoom = true ∨ cmd.type = .exit) := by
  rw [clientMain] at h
  cases hparse : parseCommand argv with
  | none =>
      rw [hparse] at h
      cases h
  | some cmd =>
      simp only [hparse] at h
      split_ifs at h with hunknown hhelp hvalid
      refine ⟨cmd, ⟨hparse, not_not.mp hvalid⟩, ?_⟩
      cases htype : cmd.type with
      | unknown => exact absurd htype hunknown
      | help => exact absurd htype hhelp
      | exit => exact Or.inr rfl
      | _ => exact Or.inl rfl

section words

variable (program name size : List UInt8) (rest : List (List UInt8)) {word : List UInt8}

/-- The branch of `create`. -/
lemma parse_create (h : strcmp word (bytes "create") = 0) :
    parseCommand (program :: word :: name :: size :: rest) =
      some { (Command.init (name :: size :: rest)).setName name with
        type := .create, roomSize := atoi size } := by
  rw [strcmp_eq_zero_iff] at h
  simp only [parseCommand, strcmp_eq_zero_iff, h]
  rw [if_neg (by decide), if_pos trivial]

/-- The branches of `start`, `stop` and `show`. -/
lemma parse_withName (h : strcmp word (bytes "start") = 0 ∨ strcmp word (bytes "stop") = 0 ∨
    strcmp word (bytes "show") = 0) :
    ∃ type, (type = .start ∨ type = .stop ∨ type = .showRoom) ∧
      parseCommand (program :: word :: name :: rest) =
        some { (Command.init (name :: rest)).setName name with type := type } := by
  simp only [parseCommand, strcmp_eq_zero_iff] at h ⊢
  rcases h with h | h | h
  · refine ⟨.start, Or.inl rfl, ?_⟩
    rw [h, if_neg (by decide), if_neg (by decide), if_pos rfl]
    rfl
  · refine ⟨.stop, Or.inr (Or.inl rfl), ?_⟩
    rw [h, if_neg (by decide), if_neg (by decide), if_neg (by decide), if_pos rfl]
    rfl
  · refine ⟨.showRoom, Or.inr (Or.inr rfl), ?_⟩
    rw [h, if_neg (by decide), if_neg (by decide), if_neg (by decide), if_neg (by decide),
      if_pos rfl]
    rfl

end words

/-- The name of an accepted command is the first 63 bytes of the one given. -/
lemma name_of_accepted {argv : List (List UInt8)} {cmd : Command} (h : AcceptedAs argv cmd)
    (hroom : cmd.type.hasRoom = true) : cstr cmd.roomName = nameArgument argv := by
  have hhelp : cmd.type ≠ .help := by
    intro heq
    rw [heq] at hroom
    cases hroom
  rcases holdsName_of_accepted h.1 h.2 hhelp with ⟨hexit, -, -⟩ | ⟨-, -, hname⟩
  · rw [hexit] at hroom
    cases hroom
  · exact hname

/-- **An accepted command with a room** is a `create` with a name and a valid size, or one of the
others with the name or without. -/
lemma accepted_cases {argv : List (List UInt8)} {cmd : Command} (h : AcceptedAs argv cmd)
    (hroom : cmd.type.hasRoom = true) :
    (cmd.type ≠ .create ∧ ∃ program word args, argv = program :: word :: args ∧
        (strcmp word (bytes "start") = 0 ∨ strcmp word (bytes "stop") = 0 ∨
          strcmp word (bytes "show") = 0)) ∨
      ∃ program word name size rest, argv = program :: word :: name :: size :: rest ∧
        strcmp word (bytes "create") = 0 ∧ cstr name ≠ [] ∧ cmd.roomSize = atoi size ∧
          1 ≤ atoi size ∧ atoi size ≤ 10000 := by
  obtain ⟨hparse, hvalid⟩ := h
  match argv, hparse with
  | program :: word :: args, hparse =>
    have hcmd := (Option.some.inj hparse).symm
    -- one case for each word, in the order of the comparisons
    split_ifs at hcmd with h₁ h₂ h₃ h₄ h₅ h₆
    · subst hcmd
      cases hroom
    · right
      split at hcmd
      · rename_i name size rest
        subst hcmd
        simp only [validateCommand, strlen, List.length_eq_zero_iff] at hvalid
        split_ifs at hvalid with hname hlo hhi
        refine ⟨program, word, name, size, rest, rfl, h₂, ?_, rfl, by omega, by omega⟩
        intro hnil
        rw [cstr_setName_init, hnil, List.take_nil] at hname
        exact hname rfl
      · -- without a size the name stays empty, and the command is not accepted
        subst hcmd
        simp [validateCommand, strlen, cstr_init] at hvalid
    · subst hcmd
      exact Or.inl ⟨by simp [type_withName], program, word, args, rfl, Or.inl h₃⟩
    · subst hcmd
      exact Or.inl ⟨by simp [type_withName], program, word, args, rfl, Or.inr (Or.inl h₄)⟩
    · subst hcmd
      exact Or.inl ⟨by simp [type_withName], program, word, args, rfl, Or.inr (Or.inr h₅)⟩
    · subst hcmd
      cases hroom
    · subst hcmd
      cases hroom

/-- **Where the arguments are whole**, an accepted command is faithful. -/
lemma faithful_of_whole {argv : List (List UInt8)} {cmd : Command} (hwhole : ArgumentsWhole argv)
    (h : AcceptedAs argv cmd) (hroom : cmd.type.hasRoom = true) : Faithful argv cmd := by
  have hname := name_of_accepted h hroom
  rcases accepted_cases h hroom with
    ⟨hcreate, program, word, args, rfl, hword⟩ |
      ⟨program, word, name, size, rest, rfl, hword, hne, hsize, hmin, hmax⟩
  · refine ⟨?_, fun htype => absurd htype hcreate⟩
    cases args with
    | nil => exact hname
    | cons name rest => exact hname.trans (List.take_of_length_le (hwhole.1 hword))
  · obtain ⟨hlen, hnum⟩ := hwhole.2 hword hne size rfl hmin hmax
    refine ⟨hname.trans (List.take_of_length_le hlen), ?_⟩
    intro _
    rw [hsize]
    exact ⟨size, rfl, hnum, hmin, hmax⟩

section necessary

variable {program word name : List UInt8} {rest : List (List UInt8)}
  (h : FaithfulOrRefused (program :: word :: name :: rest))
include h

/-- A command that is accepted with a name has a short one. -/
lemma length_of_faithful {cmd : Command} (hcmd : AcceptedAs (program :: word :: name :: rest) cmd)
    (hroom : cmd.type.hasRoom = true) : (cstr name).length ≤ 63 := by
  have hfaithful : cstr cmd.roomName = cstr name := (h.faithful cmd hcmd hroom).name_eq
  have hname : cstr cmd.roomName = (cstr name).take 63 := name_of_accepted hcmd hroom
  exact (List.take_eq_self_iff _).mp (hname.symm.trans hfaithful)

/-- The names of `start`, `stop` and `show`. -/
lemma length_of_withName (hword : strcmp word (bytes "start") = 0 ∨
    strcmp word (bytes "stop") = 0 ∨ strcmp word (bytes "show") = 0) :
    (cstr name).length ≤ 63 := by
  by_cases hne : cstr name = []
  · rw [hne]
    exact Nat.zero_le _
  obtain ⟨type, htype, hparse⟩ := parse_withName program name rest hword
  have hlen : ¬ (cstr ((Command.init (name :: rest)).setName name).roomName).length = 0 := by
    rw [List.length_eq_zero_iff, cstr_setName_init, List.take_eq_nil_iff]
    rintro (h0 | h0)
    · cases h0
    · exact hne h0
  have hvalid : validateCommand
      { (Command.init (name :: rest)).setName name with type := type } = 0 := by
    rcases htype with rfl | rfl | rfl
    · exact if_neg hlen
    · exact if_neg hlen
    · rfl
  have hroom : type.hasRoom = true := by rcases htype with rfl | rfl | rfl <;> rfl
  exact length_of_faithful h ⟨hparse, hvalid⟩ hroom

/-- The arguments of `create`. -/
lemma whole_of_create (hword : strcmp word (bytes "create") = 0) (hne : cstr name ≠ [])
    {size : List UInt8} (hsize : size ∈ rest.head?) (hmin : 1 ≤ atoi size)
    (hmax : atoi size ≤ 10000) :
    (cstr name).length ≤ 63 ∧ Numeral (cstr size) (atoi size) := by
  obtain ⟨rest', rfl⟩ : ∃ rest', rest = size :: rest' := by
    cases rest with
    | nil => cases hsize
    | cons s rest' => exact ⟨rest', by rw [Option.some.inj hsize]⟩
  have hparse := parse_create program name size rest' hword
  have hlen : ¬ strlen ((Command.init (name :: size :: rest')).setName name).roomName = 0 := by
    rw [strlen, List.length_eq_zero_iff, cstr_setName_init, List.take_eq_nil_iff]
    rintro (h0 | h0)
    · cases h0
    · exact hne h0
  have hvalid : validateCommand
      { (Command.init (name :: size :: rest')).setName name with
        type := .create, roomSize := atoi size } = 0 := by
    simp only [validateCommand]
    rw [if_neg hlen, if_neg (by omega), if_neg (by omega)]
  refine ⟨length_of_faithful h ⟨hparse, hvalid⟩ rfl, ?_⟩
  obtain ⟨size', hsize', hnum, -⟩ := (h.faithful _ ⟨hparse, hvalid⟩ rfl).size_eq rfl
  obtain rfl : size = size' := Option.some.inj hsize'
  exact hnum

end necessary

/-- **Faithful or refused.** A command with a room that the client accepts has the whole name and
the size of the command line, and what the client does not accept it does not send, if and only if
the arguments are whole: names of at most 63 bytes, and for `create` a complete numeral where
`atoi` finds a valid size. -/
theorem arguments_faithful_iff (argv : List (List UInt8)) :
    FaithfulOrRefused argv ↔ ArgumentsWhole argv := by
  constructor
  · intro h
    match argv with
    | [] => trivial
    | [_] => trivial
    | [_, _] => trivial
    | program :: word :: name :: rest =>
      refine ⟨length_of_withName h, ?_⟩
      intro hword hne size hsize hmin hmax
      exact whole_of_create h hword hne hsize hmin hmax
  · intro h
    exact ⟨fun cmd hcmd hroom => faithful_of_whole h hcmd hroom,
      fun text htext => accepted_of_sent htext⟩

/-- The size 4294967297 is too large, and is taken as 1. -/
theorem hugeSize_accepted :
    ¬ FaithfulOrRefused [bytes "client", bytes "create", bytes "cpu", bytes "4294967297"] := by
  intro h
  have hsize : atoi (bytes "4294967297") = 1 := by decide
  have hwhole : (cstr (bytes "cpu")).length ≤ 63 ∧
      Numeral (cstr (bytes "4294967297")) (atoi (bytes "4294967297")) :=
    whole_of_create h (by decide) (by decide) rfl (by decide) (by decide)
  have hnum := hwhole.2
  rw [hsize] at hnum
  have hscan := scanInt_numeral hnum noDigitHead_nil
  exact absurd hscan (by decide)

/-! ## The copies of the arguments -/

/-- A consumer may read `args[0]` to `args[arg_count - 1]`: there are so many, and each is the
first 63 bytes of its argument, with a terminator. -/
structure ArgsReadable (args : List (List UInt8)) (cmd : Command) : Prop where
  count_le : cmd.argCount ≤ maxArgs
  copied : ∀ i < cmd.argCount, ∃ arg ∈ args[i]?, ∃ copy ∈ cmd.args[i]?,
    copy.length = 64 ∧ (0 : UInt8) ∈ copy ∧ cstr copy = (cstr arg).take 63

/-- Whatever the command is, the arguments are copied and counted. -/
lemma args_of_parse (program word : List UInt8) (args : List (List UInt8)) {cmd : Command}
    (h : parseCommand (program :: word :: args) = some cmd) :
    cmd.args = copyArgs args ∧ cmd.argCount = args.length := by
  -- the branches of a command with arguments ask how many there are
  rcases args with _ | ⟨name, _ | ⟨size, rest⟩⟩ <;>
  · simp only [parseCommand, Option.some.injEq] at h
    subst h
    split_ifs <;> exact ⟨rfl, rfl⟩

/-- The copy of an argument within the array. -/
lemma getElem?_copyArgs {args : List (List UInt8)} {i : ℕ} (hi : i < maxArgs)
    (hlt : i < args.length) :
    (copyArgs args)[i]? = some ((strncpy zeroName args[i] 63).set 63 0) := by
  rw [copyArgs, List.getElem?_take_of_lt hi, List.getElem?_append_left (by simpa using hlt),
    List.getElem?_map, List.getElem?_eq_getElem hlt]
  rfl

/-- **The arguments can be read** if and only if there are at most `MAX_ARGS` of them: the loop
that copies them stops there, and the count does not. -/
theorem argsReadable_iff (program word : List UInt8) (args : List (List UInt8)) :
    ∃ cmd, parseCommand (program :: word :: args) = some cmd ∧
      (ArgsReadable args cmd ↔ args.length ≤ maxArgs) := by
  refine ⟨_, rfl, ?_⟩
  obtain ⟨hargs, hcount⟩ := args_of_parse program word args rfl
  constructor
  · intro h
    have hle := h.count_le
    rwa [hcount] at hle
  · intro h
    refine ⟨hcount.trans_le h, ?_⟩
    intro i hi
    rw [hcount] at hi
    have hzero : zeroName.length = 64 := List.length_replicate
    refine ⟨args[i], List.getElem?_eq_getElem hi, _,
      (congrArg (fun l : List (List UInt8) => l[i]?) hargs).trans
        (getElem?_copyArgs (hi.trans_le h) hi), ?_, ?_, ?_⟩
    · rw [List.length_set, length_strncpy _ (by rw [hzero]; decide), hzero]
    · refine List.mem_set (by rw [length_strncpy _ (by rw [hzero]; decide), hzero]; decide) 0
    · exact cstr_strncpy_set _ (by rw [hzero]; decide)

/-- Eleven arguments: `arg_count` is 11. -/
theorem eleven_arguments :
    let args := List.replicate 11 (bytes "a")
    ¬ ∃ cmd, parseCommand (bytes "client" :: bytes "show" :: args) = some cmd ∧
      ArgsReadable args cmd := by
  rintro args ⟨cmd, hcmd, hreadable⟩
  have hle := hreadable.count_le
  rw [(args_of_parse _ _ args hcmd).2] at hle
  exact absurd hle (by decide)

end ProcessMonitor.Comm
