import ProcessMonitor.Comm.Shutdown

/-!
# What concurrent clients see

Any number of clients talk to the daemon at once, as in `Server`. `RoomMap.respond` is the service
they are offered: a request to the map of rooms, and the text of its answer.

* `server_linearizable`: whatever the interleaving, the replies are those of the map to the same
  requests one after another, in the order in which they are handled.
* `conversation`: each client is answered its own commands in the order in which it sent them. No
  reply is lost but the last one, where the connection breaks, none comes twice, and none goes to
  another client.
-/

namespace ProcessMonitor.Comm

open CString Decimal Scanf

/-! ## The service -/

/-- What a request does to the map, and its answer as the reply holds it. -/
def RoomMap.respond (host : Host) (m : RoomMap) : Request → RoomMap × List UInt8
  | .room op => ((m.apply host op).1, (m.apply host op).2.text)
  | .list => (m, m.listing.take (bufferSize - 1))
  | .exit => (m, exitReply)
  | .refused text => (m, text)

/-- The map under requests, one after another. -/
def service (host : Host) : Machine RoomMap Request (List UInt8) where
  step m request := m.respond host request

/-- The word of a line has at most 63 bytes. -/
lemma length_cmd_le (conv : ℤ → ℤ) (command : List UInt8) :
    (parse conv command).cmd.length ≤ 63 := by
  have htoken {ds : List Directive} {c : List UInt8} {vs : List Val}
      (h : sscanf conv (.str 63 :: ds) command = .bytes c :: vs) : c.length ≤ 63 := by
    obtain ⟨t, -, ht, htok, -⟩ := scan_str_eq_cons conv h
    cases ht
    exact htok.length_le
  unfold parse
  split
  · rename_i h
    exact htoken h
  · split
    · rename_i h
      exact htoken h
    · split
      · rename_i h
        exact htoken h
      · exact Nat.zero_le _

/-- The text of a refusal fits into the reply. -/
lemma length_lt_of_refused {scan : ScanInt} {command text : List UInt8}
    (h : requestOf scan command = .refused text) : text.length < bufferSize := by
  unfold requestOf Parsed.request at h
  split_ifs at h <;> cases h
  · decide
  · decide
  · decide
  · decide
  · have hcmd : (cstr (parse scan.conv command).cmd).length ≤ 63 :=
      (List.takeWhile_sublist _).length_le.trans (length_cmd_le scan.conv command)
    have htext : (bytes "ERROR Unknown command: ").length = 23 := by decide
    rw [List.length_append, htext]
    unfold bufferSize
    omega

/-- **`handle_command` gives the service.** -/
lemma exec_respond {host : Host} {t : Table} {m : RoomMap} (h : Represents host t m) (hok : m.Ok)
    (scan : ScanInt) (command : List UInt8) :
    Represents host ((requestOf scan command).exec host bufferSize t).table
        (m.respond host (requestOf scan command)).1 ∧
      RoomMap.Ok (m.respond host (requestOf scan command)).1 ∧
      ((requestOf scan command).exec host bufferSize t).response =
        (m.respond host (requestOf scan command)).2 := by
  cases hreq : requestOf scan command with
  | room op =>
      have hn := nameOk_of_requestOf hreq
      have hagrees := exec_represents h hn bufferSize
      have hfit := (short_apply hok host hn).length_lt
      refine ⟨hagrees.represents, hok.apply host hn, ?_⟩
      exact hagrees.response_eq.trans (snprintf_eq_self hfit)
  | list => exact ⟨h, hok, written_listRooms (by decide) (by decide) h⟩
  | exit => exact ⟨h, hok, snprintf_eq_self (by decide)⟩
  | refused text => exact ⟨h, hok, snprintf_eq_self (length_lt_of_refused hreq)⟩

/-! ## All interleavings -/

/-- The request that a step handles, and its reply. -/
def Seen.handling : Seen → Option (Request × List UInt8)
  | .handled _ request response => some (request, response)
  | _ => none

/-- **The daemon is linearizable.** For any number of clients and every interleaving of their
threads, the listener and the signals: the replies that `handle_command` writes are those of the map
to the same requests one after another, in the order in which they are handled, and the table that
is left represents the map that is left. -/
theorem server_linearizable (host : Host) (events : List Event) :
    let handled := ((server host).run .init events).2.filterMap Seen.handling
    handled.map Prod.snd = ((service host).run OrderedMap.empty (handled.map Prod.fst)).2 ∧
      Represents host (Server.init.after host events).table
        ((service host).run OrderedMap.empty (handled.map Prod.fst)).1 := by
  intro handled
  obtain ⟨⟨hrep, -⟩, hout⟩ := (server host).run_picks (service host) (f := Seen.handling)
    (R := fun s m => Represents host s.table m ∧ RoomMap.Ok m)
    (fun s m e ⟨hrep, hok⟩ hnone => by
      rcases server_table host s e with ⟨c, io, buffer, -, -, -, hseen⟩ | ⟨htable, -⟩
      · rw [hseen] at hnone
        cases hnone
      · rw [htable]
        exact ⟨hrep, hok⟩)
    (fun s m e request response ⟨hrep, hok⟩ hsome => by
      rcases server_table host s e with ⟨c, io, buffer, -, -, htable, hseen⟩ | ⟨-, hseen⟩
      · rw [hseen] at hsome
        cases hsome
        obtain ⟨hrep', hok', hreply⟩ := exec_respond hrep hok io.scan buffer
        rw [htable]
        exact ⟨⟨hrep', hok'⟩, hreply⟩
      · cases hs : ((server host).step s e).2 with
        | handled c request response => exact absurd hs (hseen c request response)
        | _ =>
            rw [hs] at hsome
            cases hsome)
    (s := .init) (t := OrderedMap.empty) ⟨represents_empty host, ok_empty⟩ events
  exact ⟨hout, hrep⟩

/-! ## One client -/

/-- The command that a step receives from the client `c`. -/
def Seen.receivedFrom (c : ℕ) : Seen → Option (List UInt8)
  | .received c' command => if c' = c then some command else none
  | _ => none

/-- The request of the client `c` that a step handles, and its reply. -/
def Seen.handlingOf (c : ℕ) : Seen → Option (Request × List UInt8)
  | .handled c' request response => if c' = c then some (request, response) else none
  | _ => none

/-- The reply that a step sends to the client `c`. -/
def Seen.sentTo (c : ℕ) : Seen → Option (List UInt8)
  | .sent c' response => if c' = c then some response else none
  | _ => none

/-- The command that a thread has received and not handled. -/
def Phase.held : Phase → List (List UInt8)
  | .handle buffer => [buffer]
  | _ => []

/-- The reply that a thread has not sent yet. -/
def Phase.unsent : Phase → List (List UInt8)
  | .send _ response => [response]
  | _ => []

/-- The request is what the line asks for. -/
def Reads (command : List UInt8) (handled : Request × List UInt8) : Prop :=
  ∃ scan, handled.1 = requestOf scan command

/-- What a client whose thread is at `p` has sent, what has been made of it and what it has been
answered. -/
structure Conversation (p : Phase) (received : List (List UInt8))
    (handled : List (Request × List UInt8)) (sent : List (List UInt8)) : Prop where
  /-- Its commands are handled in their order, all but one that the thread holds. -/
  handles : ∃ done, received = done ++ p.held ∧ List.Forall₂ Reads done handled
  /-- The replies are sent in their order, all but one that the thread still has or, where the
  connection is closed, may have lost. -/
  answers : ∃ lost : List (List UInt8), handled.map Prod.snd = sent ++ p.unsent ++ lost ∧
    lost.length ≤ 1 ∧ (p ≠ .closed → lost = [])

/-- What the outputs so far are to the client `c`. -/
def Converses (c : ℕ) (seen : List Seen) (s : Server) : Prop :=
  Conversation (s.clients[c]?.getD .test) (seen.filterMap (Seen.receivedFrom c))
    (seen.filterMap (Seen.handlingOf c)) (seen.filterMap (Seen.sentTo c))

/-- A step that shows nothing of the client adds nothing. -/
lemma filterMap_concat_of_none {α : Type} {f : Seen → Option α} {seen : List Seen} {x : Seen}
    (h : f x = none) : (seen ++ [x]).filterMap f = seen.filterMap f := by
  rw [List.filterMap_append, List.filterMap_cons_none h, List.filterMap_nil, List.append_nil]

/-- A step that shows something of it adds that. -/
lemma filterMap_concat_of_some {α : Type} {f : Seen → Option α} {seen : List Seen} {x : Seen}
    {a : α} (h : f x = some a) : (seen ++ [x]).filterMap f = seen.filterMap f ++ [a] := by
  rw [List.filterMap_append, List.filterMap_cons_some h, List.filterMap_nil]

/-- What a step shows of the client `c`, if nothing. -/
lemma Seen.none_of_client_ne {seen : Seen} {c : ℕ} (h : seen.client ≠ some c) :
    seen.receivedFrom c = none ∧ seen.handlingOf c = none ∧ seen.sentTo c = none := by
  cases seen with
  | nothing => exact ⟨rfl, rfl, rfl⟩
  | received c' command => exact ⟨if_neg fun heq => h (congrArg some heq), rfl, rfl⟩
  | handled c' request response => exact ⟨rfl, if_neg fun heq => h (congrArg some heq), rfl⟩
  | sent c' response => exact ⟨rfl, rfl, if_neg fun heq => h (congrArg some heq)⟩

section moves

variable {p : Phase} {received : List (List UInt8)} {handled : List (Request × List UInt8)}
  {sent : List (List UInt8)}

/-- The thread goes on without showing anything. -/
lemma Conversation.move (h : Conversation p received handled sent) {p' : Phase}
    (hheld : p'.held = p.held) (hunsent : p'.unsent = p.unsent) (hopen : p ≠ .closed ∨ p' = p) :
    Conversation p' received handled sent := by
  obtain ⟨hhandles, lost, hanswers, hlen, hlost⟩ := h
  refine ⟨hheld ▸ hhandles, lost, hunsent ▸ hanswers, hlen, fun hclosed => ?_⟩
  rcases hopen with hne | heq
  · exact hlost hne
  · exact hlost (heq ▸ hclosed)

/-- The thread receives a command. -/
lemma Conversation.receive (h : Conversation .recv received handled sent) (buffer : List UInt8) :
    Conversation (.handle buffer) (received ++ [buffer]) handled sent := by
  obtain ⟨⟨done, hdone, hreads⟩, lost, hanswers, hlen, hlost⟩ := h
  refine ⟨⟨done, ?_, hreads⟩, lost, hanswers, hlen, fun _ => hlost (by simp)⟩
  rw [hdone]
  simp [Phase.held]

/-- The thread handles its command. -/
lemma Conversation.handle {buffer : List UInt8}
    (h : Conversation (.handle buffer) received handled sent) (scan : ScanInt) (result : ℤ)
    (response : List UInt8) :
    Conversation (.send result response) received
      (handled ++ [(requestOf scan buffer, response)]) sent := by
  obtain ⟨⟨done, hdone, hreads⟩, lost, hanswers, -, hlost⟩ := h
  obtain rfl := hlost (by simp)
  refine ⟨⟨done ++ [buffer], ?_, ?_⟩, [], ?_, Nat.zero_le _, fun _ => rfl⟩
  · rw [hdone]
    simp [Phase.held]
  · exact List.rel_append hreads (.cons ⟨scan, rfl⟩ .nil)
  · rw [List.map_append, hanswers]
    simp [Phase.unsent]

/-- The thread sends its reply. -/
lemma Conversation.send {result : ℤ} {response : List UInt8}
    (h : Conversation (.send result response) received handled sent) {p' : Phase}
    (hheld : p'.held = []) (hunsent : p'.unsent = []) :
    Conversation p' received handled (sent ++ [response]) := by
  obtain ⟨⟨done, hdone, hreads⟩, lost, hanswers, -, hlost⟩ := h
  obtain rfl := hlost (by simp)
  refine ⟨⟨done, ?_, hreads⟩, [], ?_, Nat.zero_le _, fun _ => rfl⟩
  · rw [hdone, hheld]
    rfl
  · rw [hanswers, hunsent]
    simp [Phase.unsent]

/-- The connection breaks before the reply is sent. -/
lemma Conversation.lose {result : ℤ} {response : List UInt8}
    (h : Conversation (.send result response) received handled sent) :
    Conversation .closed received handled sent := by
  obtain ⟨⟨done, hdone, hreads⟩, lost, hanswers, -, hlost⟩ := h
  obtain rfl := hlost (by simp)
  refine ⟨⟨done, hdone, hreads⟩, [response], ?_, le_rfl, fun hne => absurd rfl hne⟩
  rw [hanswers]
  simp [Phase.unsent]

end moves

/-- **A step goes on with the conversation.** -/
lemma converses_step {host : Host} {c : ℕ} {seen : List Seen} {s : Server}
    (h : Converses c seen s) (e : Event) :
    Converses c (seen ++ [((server host).step s e).2]) ((server host).step s e).1 := by
  have hquiet {x : Seen} (hx : x.client ≠ some c) :
      (seen ++ [x]).filterMap (Seen.receivedFrom c) = seen.filterMap (Seen.receivedFrom c) ∧
        (seen ++ [x]).filterMap (Seen.handlingOf c) = seen.filterMap (Seen.handlingOf c) ∧
        (seen ++ [x]).filterMap (Seen.sentTo c) = seen.filterMap (Seen.sentTo c) := by
    obtain ⟨hr, hh, hs⟩ := Seen.none_of_client_ne hx
    exact ⟨filterMap_concat_of_none hr, filterMap_concat_of_none hh, filterMap_concat_of_none hs⟩
  unfold Converses at h ⊢
  rcases server_client host s e c with ⟨hsame, hseen⟩ | ⟨hnone, htest, hseen⟩ |
    ⟨io, p, rfl, hp, hstep⟩
  · obtain ⟨hr, hh, hs⟩ := hquiet hseen
    rw [hr, hh, hs, hsame]
    exact h
  · obtain ⟨hr, hh, hs⟩ := hquiet (x := ((server host).step s e).2) (by simp [hseen, Seen.client])
    rw [hr, hh, hs, htest]
    rw [hnone] at h
    exact h
  · obtain ⟨p', hp', hmove⟩ := phaseStep_clientStep host hp io
    rw [hp, Option.getD_some] at h
    rw [hstep, hp', Option.getD_some]
    generalize (s.clientStep host c io p).2 = x at hmove
    -- the steps that show nothing
    have hnothing : Seen.nothing.client ≠ some c := by simp [Seen.client]
    obtain ⟨hr, hh, hs⟩ := hquiet hnothing
    cases hmove with
    | receive buffer =>
        rw [filterMap_concat_of_some (a := buffer) (if_pos rfl), filterMap_concat_of_none rfl,
          filterMap_concat_of_none rfl]
        exact h.receive buffer
    | handle buffer o =>
        rw [filterMap_concat_of_none rfl,
          filterMap_concat_of_some (a := (requestOf io.scan buffer, o.response)) (if_pos rfl),
          filterMap_concat_of_none rfl]
        exact h.handle io.scan o.result o.response
    | exitSent response =>
        rw [filterMap_concat_of_none rfl, filterMap_concat_of_none rfl,
          filterMap_concat_of_some (a := response) (if_pos rfl)]
        exact h.send rfl rfl
    | sent response hne =>
        rw [filterMap_concat_of_none rfl, filterMap_concat_of_none rfl,
          filterMap_concat_of_some (a := response) (if_pos rfl)]
        exact h.send rfl rfl
    | unsent result response =>
        rw [hr, hh, hs]
        exact h.lose
    | closed =>
        rw [hr, hh, hs]
        exact h
    | _ =>
        rw [hr, hh, hs]
        exact h.move rfl rfl (Or.inl (by simp))

/-- **Every client is answered its own commands.** For any number of clients, every interleaving and
every client: what is handled for it are the commands received from it, in their order, each read as
what its line asks for, and all but one that its thread holds; and it is sent the replies to them,
in their order, all but one that its thread still has to send or, where the connection is closed,
may have lost. -/
theorem conversation (host : Host) (events : List Event) (c : ℕ) :
    let seen := ((server host).run .init events).2
    Conversation ((Server.init.after host events).clients[c]?.getD .test)
      (seen.filterMap (Seen.receivedFrom c)) (seen.filterMap (Seen.handlingOf c))
      (seen.filterMap (Seen.sentTo c)) := by
  have hinit : Converses c [] Server.init := by
    refine ⟨⟨[], rfl, .nil⟩, [], rfl, Nat.zero_le _, fun _ => rfl⟩
  exact (server host).run_outputs_invariant (J := Converses c)
    (fun _ _ e h => converses_step h e) hinit events

end ProcessMonitor.Comm
