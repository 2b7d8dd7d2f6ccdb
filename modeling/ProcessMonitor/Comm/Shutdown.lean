import ProcessMonitor.Comm.Server

/-!
# Shutting down

`EXIT` is answered first, and then its thread clears `daemon_running`. The other threads test the
flag before they wait for a command and not again before they handle it, so that a client whose
thread is waiting when the flag is cleared is served once more (`shutdown_not_final`).

`shutdown_bounded` says that this is all: from the step that clears the flag on, it stays cleared,
such a client has one command received and handled at most, every other one none, and once none is
left the table stays as it is.
-/

namespace ProcessMonitor.Comm

open CString Decimal Scanf

/-- The reply to `EXIT`. -/
def exitReply : List UInt8 := bytes "OK Daemon shutting down"

/-- The server after a list of events. -/
def Server.after (host : Host) (s : Server) (events : List Event) : Server :=
  ((server host).run s events).1

/-! ## One client in a step -/

/-- The client that a step shows something of. -/
def Seen.client : Seen → Option ℕ
  | .nothing => none
  | .received c _ | .handled c _ _ | .sent c _ => some c

/-- A thread that goes on stands where it goes. -/
lemma clients_goto {s : Server} {c : ℕ} {p : Phase} (h : s.clients[c]? = some p) (p' : Phase) :
    (s.goto c p').clients[c]? = some p' := by
  obtain ⟨hlt, -⟩ := List.getElem?_eq_some_iff.mp h
  exact List.getElem?_set_self hlt

/-- **What a thread's step can change**: the table, the flag behind `EXIT`, and where it stands. -/
lemma clientStep_eq (host : Host) {s : Server} {c : ℕ} {p : Phase} (h : s.clients[c]? = some p)
    (io : Io) :
    ∃ table p', (s.clientStep host c io p).1 =
      { s with
        table := table
        daemonRunning := s.daemonRunning && !decide (p = .stop)
        clients := s.clients.set c p' } := by
  have hkeep (table : Table) (p' : Phase) : ({ s with table := table } : Server).goto c p' =
      { s with
        table := table
        daemonRunning := s.daemonRunning && !false
        clients := s.clients.set c p' } := by
    rw [Bool.not_false, Bool.and_true]
    rfl
  cases p with
  | test => exact ⟨_, _, hkeep s.table _⟩
  | recv =>
      simp only [Server.clientStep]
      split_ifs <;> exact ⟨_, _, hkeep s.table _⟩
  | handle buffer => exact ⟨_, _, hkeep _ _⟩
  | send result response =>
      simp only [Server.clientStep]
      split_ifs <;> exact ⟨_, _, hkeep s.table _⟩
  | stop => exact ⟨s.table, .closed, by simp [Server.clientStep, Server.goto]⟩
  | closed =>
      obtain ⟨hlt, hget⟩ := List.getElem?_eq_some_iff.mp h
      have hsame : s.clients.set c .closed = s.clients := by
        rw [← hget, List.set_getElem_self]
      exact ⟨s.table, .closed, by simp [Server.clientStep, hsame]⟩

/-- The other threads stay where they are. -/
lemma clients_clientStep_ne (host : Host) {s : Server} {c c' : ℕ} {p : Phase}
    (hp : s.clients[c']? = some p) (io : Io) (h : c' ≠ c) :
    (s.clientStep host c' io p).1.clients[c]? = s.clients[c]? := by
  obtain ⟨table, p', heq⟩ := clientStep_eq host hp io
  rw [heq]
  exact List.getElem?_set_ne h

/-- A step of a client shows nothing of the others. -/
lemma client_clientStep (host : Host) (s : Server) (c : ℕ) (io : Io) (p : Phase) :
    ∀ c' ∈ (s.clientStep host c io p).2.client, c' = c := by
  cases p with
  | recv =>
      simp only [Server.clientStep]
      split_ifs <;> simp [Seen.client]
  | send result response =>
      simp only [Server.clientStep]
      split_ifs <;> simp [Seen.client]
  | _ => simp [Server.clientStep, Seen.client]

/-- **What a step is to one client**: nothing, its connection, or a step of its thread. -/
lemma server_client (host : Host) (s : Server) (e : Event) (c : ℕ) :
    (((server host).step s e).1.clients[c]? = s.clients[c]? ∧
        ((server host).step s e).2.client ≠ some c) ∨
      (s.clients[c]? = none ∧ ((server host).step s e).1.clients[c]? = some .test ∧
        ((server host).step s e).2 = .nothing) ∨
      ∃ io p, e = .client c io ∧ s.clients[c]? = some p ∧
        (server host).step s e = s.clientStep host c io p := by
  cases e with
  | client c' io =>
      cases hp : s.clients[c']? with
      | none => exact Or.inl ⟨by simp [server, hp], by simp [server, hp, Seen.client]⟩
      | some p =>
          have hstep : (server host).step s (.client c' io) = s.clientStep host c' io p := by
            simp only [server, hp]
          by_cases hc : c' = c
          · subst hc
            exact Or.inr (Or.inr ⟨io, p, rfl, hp, hstep⟩)
          · rw [hstep]
            exact Or.inl ⟨clients_clientStep_ne host hp io hc,
              fun h => hc (client_clientStep host s c' io p c h).symm⟩
  | listen accepted =>
      have hsame (s' : Server) (h : s'.clients = s.clients) :
          s'.clients[c]? = s.clients[c]? ∧ Seen.nothing.client ≠ some c :=
        ⟨by rw [h], by simp [Seen.client]⟩
      simp only [server, Server.listenStep]
      cases s.listening with
      | test => exact Or.inl (hsame _ rfl)
      | returned => exact Or.inl (hsame _ rfl)
      | accept =>
          cases accepted with
          | again => exact Or.inl (hsame _ rfl)
          | failed => exact Or.inl (hsame _ rfl)
          | connected =>
              rcases Nat.lt_trichotomy c s.clients.length with hc | rfl | hc
              · exact Or.inl ⟨List.getElem?_append_left hc, by simp [Seen.client]⟩
              · exact Or.inr (Or.inl ⟨by simp, by simp, trivial⟩)
              · refine Or.inl ⟨?_, by simp [Seen.client]⟩
                rw [List.getElem?_eq_none (by simp; omega), List.getElem?_eq_none (by omega)]
  | signal => exact Or.inl ⟨rfl, by simp [server, Seen.client]⟩

/-- Where a step takes a thread, and what it shows. -/
inductive PhaseStep (host : Host) (s : Server) (c : ℕ) (io : Io) : Phase → Phase → Seen → Prop
  | enter (h : s.daemonRunning = true) : PhaseStep host s c io .test .recv .nothing
  | leave (h : s.daemonRunning = false) : PhaseStep host s c io .test .closed .nothing
  | disconnect : PhaseStep host s c io .recv .closed .nothing
  | receive (buffer : List UInt8) :
      PhaseStep host s c io .recv (.handle buffer) (.received c buffer)
  | handle (buffer : List UInt8) (o : Outcome)
      (h : o = (requestOf io.scan buffer).exec host bufferSize s.table) :
      PhaseStep host s c io (.handle buffer) (.send o.result o.response)
        (.handled c (requestOf io.scan buffer) o.response)
  | exitSent (response : List UInt8) :
      PhaseStep host s c io (.send 1 response) .stop (.sent c response)
  | sent {result : ℤ} (response : List UInt8) (h : result ≠ 1) :
      PhaseStep host s c io (.send result response) .test (.sent c response)
  | unsent (result : ℤ) (response : List UInt8) :
      PhaseStep host s c io (.send result response) .closed .nothing
  | stop : PhaseStep host s c io .stop .closed .nothing
  | closed : PhaseStep host s c io .closed .closed .nothing

/-- The step of a thread is one of these. -/
lemma phaseStep_clientStep (host : Host) {s : Server} {c : ℕ} {p : Phase}
    (h : s.clients[c]? = some p) (io : Io) :
    ∃ p', (s.clientStep host c io p).1.clients[c]? = some p' ∧
      PhaseStep host s c io p p' (s.clientStep host c io p).2 := by
  cases p with
  | test =>
      cases hrun : s.daemonRunning with
      | true =>
          refine ⟨.recv, ?_, .enter hrun⟩
          rw [Server.clientStep, if_pos hrun]
          exact clients_goto h _
      | false =>
          refine ⟨.closed, ?_, .leave hrun⟩
          rw [Server.clientStep, if_neg (by simp [hrun])]
          exact clients_goto h _
  | recv =>
      by_cases hnone : io.received = []
      · rw [Server.clientStep, if_pos hnone]
        exact ⟨.closed, clients_goto h _, .disconnect⟩
      · rw [Server.clientStep, if_neg hnone]
        exact ⟨_, clients_goto h _, .receive _⟩
  | handle buffer =>
      have heq := handleCommand_eq host io.scan buffer (show bufferSize ≠ 0 by decide) s.table
      rw [Server.clientStep, heq]
      exact ⟨_, clients_goto (s := { s with table := _ }) h _, .handle buffer _ rfl⟩
  | send result response =>
      rw [Server.clientStep]
      by_cases hsent : io.sent = true
      · rw [if_pos hsent]
        by_cases hone : result = 1
        · subst hone
          exact ⟨.stop, clients_goto h _, .exitSent response⟩
        · rw [if_neg hone]
          exact ⟨.test, clients_goto h _, .sent response hone⟩
      · rw [if_neg hsent]
        exact ⟨.closed, clients_goto h _, .unsent result response⟩
  | stop =>
      exact ⟨.closed, clients_goto (s := { s with daemonRunning := false }) h _, .stop⟩
  | closed => exact ⟨.closed, h, .closed⟩

/-- A thread stays where it is while others take their steps. -/
lemma clients_after (host : Host) {s : Server} {c : ℕ} {p : Phase} (h : s.clients[c]? = some p)
    {events : List Event} (he : ∀ e ∈ events, ∀ io, e ≠ .client c io) :
    (s.after host events).clients[c]? = some p := by
  induction events generalizing s with
  | nil => exact h
  | cons e events ih =>
      rw [List.forall_mem_cons] at he
      refine ih ?_ he.2
      rcases server_client host s e c with ⟨hsame, -⟩ | ⟨hnone, -⟩ | ⟨io, -, hio, -⟩
      · rw [hsame, h]
      · rw [h] at hnone
        cases hnone
      · exact absurd hio (he.1 io)

/-! ## What is sent -/

/-- No other request is answered like `EXIT`. -/
lemma request_of_exitReply {host : Host} {t : Table} {m : RoomMap} (h : Represents host t m)
    {scan : ScanInt} {command : List UInt8}
    (hreply : ((requestOf scan command).exec host bufferSize t).response = exitReply) :
    requestOf scan command = .exit := by
  cases hreq : requestOf scan command with
  | room op =>
      rw [hreq, Request.exec, (exec_represents h (nameOk_of_requestOf hreq) bufferSize).response_eq]
        at hreply
      have hfour := congrArg (List.take 4) hreply
      rw [snprintf, List.take_take, show min 4 (bufferSize - 1) = 4 from rfl] at hfour
      exfalso
      revert hfour
      cases (m.apply host op).2 <;> simp [Reply.text, exitReply, bytes]
  | list =>
      rw [hreq, Request.exec, written_listRooms (by decide) (by decide) h, RoomMap.listing]
        at hreply
      have hfour := congrArg (List.take 4) hreply
      rw [List.take_take, List.take_append_of_le_length (by decide)] at hfour
      exact absurd hfour (by decide)
  | exit => rfl
  | refused text =>
      obtain ⟨message, -, -, rfl⟩ := tagged_of_refused hreq
      rw [hreq, Request.exec] at hreply
      have hone := congrArg (List.take 1) hreply
      rw [snprintf, List.take_take, List.take_append_of_le_length (by decide)] at hone
      exact absurd hone (by decide)

/-- A thread that is about to send the reply to `EXIT` has executed it. -/
def ExitSent (s : Server) : Prop :=
  ∀ (c : ℕ) (result : ℤ) (response : List UInt8), s.clients[c]? = some (.send result response) →
    response = exitReply → result = 1

/-- A step keeps it so. -/
lemma exitSent_step {host : Host} {s : Server} (hrep : RepresentsOk host s.table)
    (h : ExitSent s) (e : Event) : ExitSent ((server host).step s e).1 := by
  intro c result response hc hreply
  rcases server_client host s e c with ⟨hsame, -⟩ | ⟨-, htest, -⟩ | ⟨io, p, rfl, hp, hstep⟩
  · exact h c result response (hsame ▸ hc) hreply
  · rw [htest] at hc
    cases hc
  · obtain ⟨p', hp', hmove⟩ := phaseStep_clientStep host hp io
    rw [hstep, hp', Option.some.injEq] at hc
    subst hc
    generalize (s.clientStep host c io p).2 = seen at hmove
    cases hmove with
    | handle buffer o ho =>
        obtain ⟨m, hm, -⟩ := hrep
        have hexit := request_of_exitReply hm (ho ▸ hreply)
        rw [ho, hexit]
        rfl

/-- After every run, the reply to `EXIT` is sent by threads alone that have executed it. -/
lemma exitSent_after (host : Host) (events : List Event) :
    ExitSent (Server.init.after host events) :=
  ((server host).run_invariant (I := fun s => RepresentsOk host s.table ∧ ExitSent s)
    (fun _ e h => ⟨representsOk_step h.1 e, exitSent_step h.1 h.2 e⟩)
    ⟨⟨_, represents_empty host, ok_empty⟩, by simp [ExitSent, Server.init]⟩ events).2

/-! ## After the flag is cleared -/

/-- The step is one that clears `daemon_running`: a signal, or a thread's step behind `EXIT`. -/
def Server.asked (s : Server) : Event → Bool
  | .client c _ => s.clients[c]? = some .stop
  | .listen _ => false
  | .signal => true

/-- The flag after a step. -/
lemma daemonRunning_eq (host : Host) (s : Server) (e : Event) :
    ((server host).step s e).1.daemonRunning = (s.daemonRunning && !s.asked e) := by
  cases e with
  | client c io =>
      simp only [server, Server.asked]
      cases hp : s.clients[c]? with
      | none => simp
      | some p =>
          obtain ⟨table, p', heq⟩ := clientStep_eq host hp io
          simp [heq]
  | listen accepted =>
      rw [Server.asked, Bool.not_false, Bool.and_true]
      exact (listenStep_keeps s accepted).2
  | signal => simp [server, Server.asked]

/-- The flag is never set again. -/
lemma daemonRunning_step {host : Host} {s : Server} (h : s.daemonRunning = false) (e : Event) :
    ((server host).step s e).1.daemonRunning = false := by
  rw [daemonRunning_eq, h, Bool.false_and]

/-- A command of the client `c` is received. -/
def Seen.isReceived (c : ℕ) : Seen → Bool
  | .received c' _ => c' = c
  | _ => false

/-- A command of the client `c` is handled. -/
def Seen.isHandled (c : ℕ) : Seen → Bool
  | .handled c' _ _ => c' = c
  | _ => false

/-- 1 if the thread of the client `c` waits for a command. -/
def Server.waiting (s : Server) (c : ℕ) : ℕ := if s.clients[c]? = some .recv then 1 else 0

/-- 1 if the thread of the client `c` waits for a command or holds one. -/
def Server.pending (s : Server) (c : ℕ) : ℕ :=
  match s.clients[c]? with
  | some .recv | some (.handle _) => 1
  | _ => 0

/-- **Each command is paid for** by a thread that was waiting for it: without the flag, none begins
to wait. -/
lemma pay_step (host : Host) {s : Server} (h : s.daemonRunning = false) (c : ℕ) (e : Event) :
    (if ((server host).step s e).2.isReceived c then 1 else 0) +
        ((server host).step s e).1.waiting c ≤ s.waiting c ∧
      (if ((server host).step s e).2.isHandled c then 1 else 0) +
        ((server host).step s e).1.pending c ≤ s.pending c := by
  unfold Server.waiting Server.pending
  rcases server_client host s e c with
    ⟨hsame, hseen⟩ | ⟨hnone, htest, hseen⟩ | ⟨io, p, rfl, hp, hstep⟩
  · have hno : ((server host).step s e).2.isReceived c = false ∧
        ((server host).step s e).2.isHandled c = false := by
      cases hs : ((server host).step s e).2 <;>
        simp_all [Seen.client, Seen.isReceived, Seen.isHandled]
    rw [hsame, hno.1, hno.2]
    simp
  · rw [htest, hseen, hnone]
    simp [Seen.isReceived, Seen.isHandled]
  · obtain ⟨p', hp', hmove⟩ := phaseStep_clientStep host hp io
    rw [hstep, hp', hp]
    generalize (s.clientStep host c io p).2 = seen at hmove
    cases hmove with
    | enter hrun => simp [h] at hrun
    | _ => simp [Seen.isReceived, Seen.isHandled]

/-- Nobody has a command left: no step changes the table. -/
lemma table_step_of_idle {host : Host} {s : Server} (h : ∀ c, s.pending c = 0) (e : Event) :
    ((server host).step s e).1.table = s.table := by
  rcases server_table host s e with ⟨c, io, buffer, -, hp, -⟩ | ⟨htable, -⟩
  · have hc := h c
    simp [Server.pending, hp] at hc
  · exact htable

/-- The step of the thread that has sent the reply to `EXIT` clears the flag, whatever the others do
in between. -/
lemma exit_clears {host : Host} {before between : List Event} {a : ℕ} {io : Io}
    (hsent : ((server host).step (Server.init.after host before) (.client a io)).2 =
      .sent a exitReply)
    (hbetween : ∀ e ∈ between, ∀ io, e ≠ .client a io) (io' : Io) :
    ((server host).step
      (((server host).step (Server.init.after host before) (.client a io)).1.after host between)
      (.client a io')).1.daemonRunning = false := by
  have hstop : ((server host).step (Server.init.after host before)
      (.client a io)).1.clients[a]? = some .stop := by
    rcases server_client host (Server.init.after host before) (.client a io) a with
      ⟨-, hseen⟩ | ⟨-, -, hseen⟩ | ⟨io₀, p, hio, hp, hstep⟩
    · rw [hsent] at hseen
      exact absurd rfl hseen
    · rw [hsent] at hseen
      cases hseen
    · obtain ⟨p', hp', hmove⟩ := phaseStep_clientStep host hp io₀
      rw [← hstep, hsent] at hmove
      rw [hstep, hp']
      generalize hreply : exitReply = reply at hmove
      cases hmove with
      | exitSent _ => rfl
      | sent _ hne => exact absurd (exitSent_after host before a _ _ hp hreply.symm) hne
  have hstay := clients_after host hstop hbetween
  simp only [server] at hstay ⊢
  simp only [hstay]
  rfl

/-- The flag stays cleared. -/
lemma daemonRunning_after {host : Host} {s : Server} (h : s.daemonRunning = false)
    (events : List Event) : (s.after host events).daemonRunning = false :=
  (server host).run_invariant (I := fun s => s.daemonRunning = false)
    (fun _ e h => daemonRunning_step h e) h events

section cleared

variable (host : Host) {s : Server} (h : s.daemonRunning = false)
include h

/-- A client whose thread waits for a command has one received at most. -/
lemma received_after (events : List Event) (c : ℕ) :
    ((server host).run s events).2.countP (Seen.isReceived c) ≤ s.waiting c :=
  (server host).run_budget (p := Seen.isReceived c) (b := fun s => s.waiting c)
    (fun _ e h => daemonRunning_step h e) (fun _ e h => (pay_step host h c e).1) h events

/-- One whose thread waits for a command or holds one has one handled at most. -/
lemma handled_after (events : List Event) (c : ℕ) :
    ((server host).run s events).2.countP (Seen.isHandled c) ≤ s.pending c :=
  (server host).run_budget (p := Seen.isHandled c) (b := fun s => s.pending c)
    (fun _ e h => daemonRunning_step h e) (fun _ e h => (pay_step host h c e).2) h events

/-- Nobody has a command left: no run changes the table. -/
lemma table_after_of_idle (hidle : ∀ c, s.pending c = 0) (events : List Event) :
    (s.after host events).table = s.table := by
  have hkeep : ∀ s' e,
      (s'.daemonRunning = false ∧ (∀ c, s'.pending c = 0) ∧ s'.table = s.table) →
        ((server host).step s' e).1.daemonRunning = false ∧
          (∀ c, ((server host).step s' e).1.pending c = 0) ∧
          ((server host).step s' e).1.table = s.table := by
    rintro s' e ⟨hrun, hpending, htable⟩
    refine ⟨daemonRunning_step hrun e, fun c => ?_, (table_step_of_idle hpending e).trans htable⟩
    have hpay := (pay_step host hrun c e).2
    rw [hpending c] at hpay
    omega
  exact ((server host).run_invariant hkeep ⟨h, hidle, rfl⟩ events).2.2

end cleared

/-- **What is left to do after the shutdown.** In every run, once a client `a` has been sent the
reply to `EXIT`, its thread's next step clears `daemon_running`, and it is never set again. From
then on every client whose thread was waiting in `recv` at that moment has one command received at
most and every other client, connected by then or later, none; no more than that and the commands
that threads already held is handled; and from any later moment on at which nobody waits or holds
one, none is handled and the table stays as it is. -/
theorem shutdown_bounded (host : Host) (before between after : List Event) (a : ℕ) (io io' : Io)
    (hsent : ((server host).step (Server.init.after host before) (.client a io)).2 =
      .sent a exitReply)
    (hbetween : ∀ e ∈ between, ∀ io, e ≠ .client a io) :
    let sent := ((server host).step (Server.init.after host before) (.client a io)).1
    let cleared := ((server host).step (sent.after host between) (.client a io')).1
    let seen := ((server host).run cleared after).2
    (cleared.daemonRunning = false ∧ (cleared.after host after).daemonRunning = false) ∧
      (∀ c, seen.countP (Seen.isReceived c) ≤ cleared.waiting c) ∧
      (∀ c, seen.countP (Seen.isHandled c) ≤ cleared.pending c) ∧
      ∀ middle later, after = middle ++ later →
        (∀ c, (cleared.after host middle).pending c = 0) →
          (cleared.after host after).table = (cleared.after host middle).table ∧
            ∀ c, ((server host).run (cleared.after host middle) later).2.countP
              (Seen.isHandled c) = 0 := by
  intro sent cleared seen
  have hcleared : cleared.daemonRunning = false := exit_clears hsent hbetween io'
  refine ⟨⟨hcleared, daemonRunning_after hcleared after⟩, received_after host hcleared after,
    handled_after host hcleared after, ?_⟩
  intro middle later hafter hidle
  have hmiddle : (cleared.after host middle).daemonRunning = false :=
    daemonRunning_after hcleared middle
  constructor
  · have happend : cleared.after host after = (cleared.after host middle).after host later := by
      rw [hafter, Server.after, Machine.run_append]
      rfl
    rw [happend]
    exact table_after_of_idle host hmiddle hidle later
  · intro c
    have hhandled := handled_after host hmiddle later c
    rw [hidle c] at hhandled
    exact Nat.le_zero.mp hhandled

/-- Two clients connect and are waited for; the first one sends `EXIT`, which is handled. -/
def exitHandled : List Event :=
  [.listen .again, .listen .connected, .listen .again, .listen .connected,
   .client 0 {}, .client 1 {}, .client 0 { received := bytes "EXIT" }, .client 0 {}]

/-- The second client's thread is waiting when the flag is cleared, and it receives one command of
the two that are sent to it; after that nothing changes the table. -/
theorem exitHandled_bounded :
    let sent := ((server .example).step (Server.init.after .example exitHandled) (.client 0 {})).1
    let cleared := ((server .example).step sent (.client 0 {})).1
    let create : Io := { received := bytes "CREATE cpu 1000" }
    let served : List Event := [.client 1 create, .client 1 {}, .client 1 {}, .client 1 {}]
    let seen := ((server .example).run cleared (served ++ [.client 1 create])).2
    (cleared.after .example (served ++ [.client 1 create])).daemonRunning = false ∧
      seen.countP (Seen.isReceived 1) ≤ 1 ∧ seen.countP (Seen.isReceived 0) ≤ 0 ∧
      (cleared.after .example (served ++ [.client 1 create])).table =
        (cleared.after .example served).table := by
  intro sent cleared create served seen
  have h := shutdown_bounded .example exitHandled [] (served ++ [.client 1 create]) 0 {} {}
    (by decide) (by simp)
  have hclients : (cleared.after .example served).clients = [.closed, .closed] := by decide
  have hidle (c : ℕ) : (cleared.after .example served).pending c = 0 := by
    rw [Server.pending, hclients]
    match c with
    | 0 => rfl
    | 1 => rfl
    | c + 2 => rfl
  exact ⟨h.1.2, (h.2.1 1).trans (by decide), (h.2.1 0).trans (by decide),
    (h.2.2.2 served [.client 1 create] rfl hidle).1⟩

/-- A `CREATE` that the second client sends after the flag is cleared is received, changes the
table and is answered `OK`. -/
theorem shutdown_not_final :
    ¬ ∀ (before between rest : List Event) (a c : ℕ) (io io₁ io₂ : Io) (command : List UInt8)
      (op : RoomOp),
      let s := Server.init.after .example before
      let sent := ((server .example).step s (.client a io)).1
      let s₁ := sent.after .example between
      let received := ((server .example).step s₁ (.client c io₁)).1
      let s₂ := received.after .example rest
      ((server .example).step s (.client a io)).2 = .sent a exitReply →
        ((server .example).step s₁ (.client c io₁)).2 = .received c command →
        (∀ e ∈ rest, ∀ io, e ≠ .client c io) →
        requestOf io₂.scan command = .room op → op.verb ≠ none →
          ((server .example).step s₂ (.client c io₂)).1.table = s₂.table ∧
            ((server .example).step s₂ (.client c io₂)).2.accepted op.name = none := by
  intro h
  have hno := (h exitHandled [.client 0 {}] [] 0 1 {} { received := bytes "CREATE cpu 1000" } {}
    (bytes "CREATE cpu 1000") (.create (bytes "cpu") 1000) (by decide) (by decide) (by simp)
    (by decide) (by decide)).2
  revert hno
  decide

end ProcessMonitor.Comm
