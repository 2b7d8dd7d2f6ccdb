import ProcessMonitor.Comm.Arguments
import ProcessMonitor.Comm.Linear

/-!
# The command line

`main` of `src/03-communication/client/client_main.c` against the daemon, one invocation after
another: each connects, sends its command, reads the reply, prints it and exits, while the daemon's
threads take the steps of `Server`.

`shell` is what a user is offered: a map of rooms, to which a command line is a request, until
`exit` ends it. `commandLine_refines` says that this is what the two programs amount to, down to the
exit status and the printed line, for command lines whose room names the wire can carry.
-/

namespace ProcessMonitor.Comm

open CString Decimal Scanf

/-! ## The end of an invocation -/

/-- What an invocation ends with: the exit status and the line that `print_response` prints, where
it gets that far. -/
structure Ending where
  status : ℤ
  line : Option (List UInt8)
deriving DecidableEq

/-- Source: `client_main.c`, `print_response` -/
def printResponse (resp : Response) : List UInt8 :=
  if resp.status = 0 then bytes "OK: " ++ cstr resp.message ++ bytes "\n"
  else bytes "ERROR: " ++ cstr resp.message ++ bytes "\n"

/-- The end of an invocation that has sent its command; `received` is empty where the daemon closes
the connection, or refuses it.
Source: `client_main.c`, `main`, from `client_connect` on -/
def clientEnd (received : List UInt8) : Ending :=
  let resp := clientReceiveResponse received
  ⟨exitStatus resp, resp.map printResponse⟩

/-- The end of an invocation that does not connect. -/
def localEnd (argv : List (List UInt8)) : Ending :=
  match parseCommand argv with
  | some cmd => if cmd.type = .help then ⟨exitSuccess, none⟩ else ⟨exitFailure, none⟩
  | none => ⟨exitFailure, none⟩

/-- What the daemon's threads do for one client, the `c`-th: the listener accepts it and goes back
to `accept`, and the client's thread runs until the client has left. -/
def visit (c : ℕ) (text : List UInt8) (scan : ScanInt) : List Event :=
  [.listen .connected, .listen .again, .client c {}, .client c { received := text },
    .client c { scan := scan }, .client c {}, .client c {}, .client c {}]

/-! ## Invocations -/

/-- The command is `exit`, or the name in it has no white space. -/
def NamePlain (argv : List (List UInt8)) : Prop :=
  (∃ word ∈ argv[1]?, strcmp word (bytes "exit") = 0) ∨
    ∀ b ∈ nameArgument argv, isspace b = false

/-- An invocation of the client, with what `%d` does in the daemon meanwhile; a name that it sends
is plain. -/
structure Invocation where
  argv : List (List UInt8)
  scan : ScanInt
  plain : clientMain argv ≠ none → NamePlain argv

/-- The client and the daemon, one invocation after another. -/
def commandLine (host : Host) : Machine Server Invocation Ending where
  step s i :=
    match clientMain i.argv with
    | none => (s, localEnd i.argv)
    | some text =>
        let c := s.clients.length
        let r := (server host).run s (visit c text i.scan)
        (r.1, clientEnd (r.2.filterMap (Seen.sentTo c)).flatten)

/-- The daemon waits for its first client. -/
def Server.ready : Server := { Server.init with listening := .accept }

/-! ## What it is for -/

/-- The request that a command line stands for, if it is accepted. -/
def asksFor (argv : List (List UInt8)) : Option Request :=
  match parseCommand argv with
  | some cmd => if validateCommand cmd = 0 then cmd.request else none
  | none => none

/-- What the user is told of an answer. -/
def told (reply : List UInt8) : Ending :=
  if okTag <+: reply then
    ⟨exitSuccess, some (bytes "OK: " ++ reply.drop okTag.length ++ bytes "\n")⟩
  else ⟨exitFailure, some (bytes "ERROR: " ++ reply.drop errorTag.length ++ bytes "\n")⟩

/-- A map of rooms under command lines, until `exit`. -/
def shell (host : Host) : Machine (RoomMap × Bool) Invocation Ending where
  step a i :=
    match asksFor i.argv with
    | none => (a, localEnd i.argv)
    | some request =>
        if a.2 then
          let r := a.1.respond host request
          ((r.1, request ≠ .exit), told r.2)
        else (a, ⟨exitFailure, none⟩)

/-! ## The client -/

/-- The client sends what it accepts, and nothing else. -/
lemma clientMain_eq (argv : List (List UInt8)) :
    clientMain argv = (parseCommand argv).bind fun cmd =>
      if validateCommand cmd = 0 then clientSendCommand cmd else none := by
  unfold clientMain
  cases parseCommand argv with
  | none => rfl
  | some cmd =>
      by_cases hvalid : validateCommand cmd = 0 <;>
        cases htype : cmd.type <;> simp [clientSendCommand, htype, hvalid]

/-- It sends something exactly where the command line asks for something. -/
lemma asksFor_eq_none_iff (argv : List (List UInt8)) :
    asksFor argv = none ↔ clientMain argv = none := by
  rw [clientMain_eq, asksFor]
  cases parseCommand argv with
  | none => simp
  | some cmd =>
      simp only [Option.bind_some]
      split_ifs
      · unfold Command.request clientSendCommand
        cases cmd.type <;> simp
      · simp

/-- What it sends is short, and not empty. -/
lemma sent_bounds {argv : List (List UInt8)} {text : List UInt8} (h : clientMain argv = some text) :
    text ≠ [] ∧ text.length ≤ bufferSize - 1 := by
  obtain ⟨cmd, -, hparse, hsend⟩ : ∃ cmd, True ∧ parseCommand argv = some cmd ∧
      clientSendCommand cmd = some text := by
    rw [clientMain_eq] at h
    obtain ⟨cmd, hparse, hcmd⟩ := Option.bind_eq_some_iff.mp h
    split_ifs at hcmd
    exact ⟨cmd, trivial, hparse, hcmd⟩
  -- the first letter of the word is always there
  have hletter {w rest : List UInt8} (hw : w ≠ []) :
      snprintf bufferSize (w ++ rest) ≠ [] ∧
        (snprintf bufferSize (w ++ rest)).length ≤ bufferSize - 1 := by
    refine ⟨?_, length_snprintf_le _ _⟩
    rw [snprintf, ne_eq, List.take_eq_nil_iff]
    simp [hw, bufferSize]
  unfold clientSendCommand at hsend
  cases htype : cmd.type with
  | create =>
      simp only [htype, Option.some.injEq, List.append_assoc] at hsend
      exact hsend ▸ hletter (by decide)
  | start =>
      simp only [htype, Option.some.injEq] at hsend
      exact hsend ▸ hletter (by decide)
  | stop =>
      simp only [htype, Option.some.injEq] at hsend
      exact hsend ▸ hletter (by decide)
  | showRoom =>
      simp only [htype, Option.some.injEq] at hsend
      exact hsend ▸ hletter (by decide)
  | exit =>
      simp only [htype, Option.some.injEq] at hsend
      exact hsend ▸ (by decide)
  | help => simp [htype] at hsend
  | unknown => simp [htype] at hsend

/-- **What is sent is what is asked for**, where the name is plain. -/
lemma requestOf_sent {argv : List (List UInt8)} {text : List UInt8} (scan : ScanInt)
    (h : clientMain argv = some text) (hplain : NamePlain argv) :
    asksFor argv = some (requestOf scan text) := by
  rw [clientMain_eq] at h
  obtain ⟨cmd, hparse, hcmd⟩ := Option.bind_eq_some_iff.mp h
  split_ifs at hcmd with hvalid
  have hhelp : cmd.type ≠ .help := by
    intro htype
    simp [clientSendCommand, htype] at hcmd
  have hsent := ((sent_command_iff scan argv cmd hparse hvalid hhelp).mpr hplain).1
  rw [hcmd, Option.map_some] at hsent
  simp only [asksFor, hparse, if_pos hvalid, hsent]

/-- **What the client tells** of a reply of the daemon. -/
lemma clientEnd_eq {reply : List UInt8} (h : Tagged okTag reply ∨ Tagged errorTag reply)
    (hlen : reply.length ≤ bufferSize - 1) : clientEnd reply = told reply := by
  rcases h with htag | htag
  · obtain ⟨resp, hresp, hstatus, hreply⟩ := receive_ok htag hlen
    have hprefix : okTag <+: reply := ⟨_, hreply.symm⟩
    rw [clientEnd, hresp, told, if_pos hprefix, hreply, List.drop_left]
    simp [exitStatus, printResponse, hstatus]
  · obtain ⟨resp, hresp, hstatus, hreply⟩ := receive_error htag hlen
    have hprefix : ¬ okTag <+: reply := by
      rintro ⟨rest, hrest⟩
      rw [hreply] at hrest
      exact absurd (congrArg (List.take 1) hrest) (by simp [okTag, errorTag, bytes])
    rw [clientEnd, hresp, told, if_neg hprefix, hreply, List.drop_left]
    simp [exitStatus, printResponse, hstatus]

/-! ## The visit -/

section visit

variable (host : Host) (t : Table) (cs : List Phase) (text : List UInt8) (scan : ScanInt)

/-- A step of the last client. -/
lemma step_last (running : Bool) (l : Listening) (p : Phase) (io : Io) :
    (server host).step ⟨t, running, l, cs ++ [p]⟩ (.client cs.length io) =
      Server.clientStep host ⟨t, running, l, cs ++ [p]⟩ cs.length io p := by
  simp [server]

/-- It goes on. -/
lemma goto_last (running : Bool) (l : Listening) (p q : Phase) :
    Server.goto ⟨t, running, l, cs ++ [p]⟩ cs.length q = ⟨t, running, l, cs ++ [q]⟩ := by
  simp [Server.goto]

/-- **A visit to a daemon that runs**: the command is handled and answered, and only `exit` ends
the daemon. -/
lemma run_visit_running (hne : text ≠ []) (hlen : text.length ≤ bufferSize - 1) :
    ((server host).run ⟨t, true, .accept, cs⟩ (visit cs.length text scan)).1 =
        ⟨((requestOf scan text).exec host bufferSize t).table, requestOf scan text ≠ .exit, .accept,
          cs ++ [.closed]⟩ ∧
      ((server host).run ⟨t, true, .accept, cs⟩ (visit cs.length text scan)).2.filterMap
          (Seen.sentTo cs.length) = [((requestOf scan text).exec host bufferSize t).response] := by
  have hconnect : (server host).step ⟨t, true, .accept, cs⟩ (.listen .connected) =
      (⟨t, true, .test, cs ++ [.test]⟩, .nothing) := rfl
  have hagain : (server host).step ⟨t, true, .test, cs ++ [.test]⟩ (.listen .again) =
      (⟨t, true, .accept, cs ++ [.test]⟩, .nothing) := rfl
  have heq := handleCommand_eq host scan text (show bufferSize ≠ 0 by decide) t
  have hone := result_exec_eq_one_iff host bufferSize t (requestOf scan text)
  simp only [visit, Machine.run_cons, Machine.run_nil, hconnect, hagain, step_last,
    Server.clientStep, goto_last, if_true, if_neg hne, List.take_of_length_le hlen, heq]
  by_cases hexit : requestOf scan text = .exit
  · simp only [if_pos (hone.mpr hexit), step_last, Server.clientStep]
    simp [hexit, List.filterMap, Seen.sentTo]
  · simp only [if_neg (mt hone.mp hexit), step_last, Server.clientStep, goto_last, if_true]
    simp [hexit, List.filterMap, Seen.sentTo]

/-- A visit to one that does not changes nothing, and nothing is sent. -/
lemma run_visit_stopped (l : Listening) :
    ((server host).run ⟨t, false, l, cs⟩ (visit cs.length text scan)).1.table = t ∧
      ((server host).run ⟨t, false, l, cs⟩ (visit cs.length text scan)).1.daemonRunning = false ∧
      ((server host).run ⟨t, false, l, cs⟩ (visit cs.length text scan)).2.filterMap
          (Seen.sentTo cs.length) = [] := by
  cases l with
  | accept =>
      have hconnect : (server host).step ⟨t, false, .accept, cs⟩ (.listen .connected) =
          (⟨t, false, .test, cs ++ [.test]⟩, .nothing) := rfl
      have hagain : (server host).step ⟨t, false, .test, cs ++ [.test]⟩ (.listen .again) =
          (⟨t, false, .returned, cs ++ [.test]⟩, .nothing) := rfl
      simp only [visit, Machine.run_cons, Machine.run_nil, hconnect, hagain, step_last,
        Server.clientStep, goto_last, Bool.false_eq_true, if_false]
      simp [Seen.sentTo]
  | _ => simp [visit, server, Server.listenStep, Seen.sentTo]

end visit

/-! ## Runs -/

/-- The daemon is where the shell is. -/
structure Serves (host : Host) (s : Server) (a : RoomMap × Bool) : Prop where
  represents : Represents host s.table a.1
  ok : RoomMap.Ok a.1
  running : s.daemonRunning = a.2
  listening : a.2 = true → s.listening = .accept

/-- **One invocation** is a step of the shell. -/
lemma serves_step {host : Host} {s : Server} {a : RoomMap × Bool} (h : Serves host s a)
    (i : Invocation) :
    Serves host ((commandLine host).step s i).1 ((shell host).step a i).1 ∧
      ((commandLine host).step s i).2 = ((shell host).step a i).2 := by
  obtain ⟨m, up⟩ := a
  obtain ⟨hrep, hok, hrunning, hlistening⟩ := h
  cases hmain : clientMain i.argv with
  | none =>
      have hasks := (asksFor_eq_none_iff i.argv).mpr hmain
      simp only [commandLine, shell, hmain, hasks]
      exact ⟨⟨hrep, hok, hrunning, hlistening⟩, trivial⟩
  | some text =>
      have hasks := requestOf_sent i.scan hmain (i.plain (by simp [hmain]))
      obtain ⟨hne, hlen⟩ := sent_bounds hmain
      obtain ⟨t, running, l, cs⟩ := s
      obtain rfl : running = up := hrunning
      simp only [commandLine, shell, hmain, hasks]
      cases running with
      | true =>
          obtain rfl : l = .accept := hlistening rfl
          obtain ⟨hstate, hsent⟩ := run_visit_running host t cs text i.scan hne hlen
          obtain ⟨hrep', hok', hreply⟩ := exec_respond hrep hok i.scan text
          rw [hsent, hstate, if_pos rfl, List.flatten_cons, List.flatten_nil, List.append_nil]
          refine ⟨⟨hrep', hok', rfl, fun _ => rfl⟩, ?_⟩
          rw [← hreply]
          refine clientEnd_eq ?_ (length_response_le hrep i.scan text)
          rcases answers_exec hrep hok i.scan text with ⟨herror, -⟩ | ⟨hgood, -⟩
          · exact Or.inr herror
          · exact Or.inl hgood
      | false =>
          obtain ⟨htable, hflag, hsent⟩ := run_visit_stopped host t cs text i.scan l
          rw [hsent]
          refine ⟨⟨?_, hok, hflag, fun h => by cases h⟩, rfl⟩
          rw [htable]
          exact hrep

/-- **The command line is a map of rooms.** For every sequence of invocations of the client, one
after another, each with any arguments of which a name that is sent has no white space: the exit
statuses and the lines printed are those of the shell. So an accepted command does to the map what
it says, with its answer printed and the exit status 0 exactly where this is not an error; a command
line that is not accepted fails and changes nothing; and after `exit` every command fails. -/
theorem commandLine_refines (host : Host) (invocations : List Invocation) :
    let c := (commandLine host).run .ready invocations
    let a := (shell host).run (OrderedMap.empty, true) invocations
    c.2 = a.2 ∧ Represents host c.1.table a.1.1 ∧ c.1.daemonRunning = a.1.2 := by
  have hready : Serves host .ready (OrderedMap.empty, true) :=
    ⟨represents_empty host, ok_empty, rfl, fun _ => rfl⟩
  obtain ⟨hserves, hout⟩ := (commandLine host).run_simulation (shell host) (R := Serves host)
    (fun _ _ i h => serves_step h i) hready invocations
  exact ⟨hout, hserves.represents, hserves.running⟩

end ProcessMonitor.Comm
