import ProcessMonitor.Comm.Response

/-!
# All connections together

`server_listen` and any number of `handle_client` threads of
`src/03-communication/daemon/socket_server.c`, with the flag `daemon_running` that the loops test.
A step of a client's thread is one of the calls of its loop; `handle_command` is one step, since its
one locked section is all it does to the table. What the operating system decides (what arrives,
what `%d` stores, whether `send` succeeds, whom `accept` lets in, when a signal comes) is the
input, so that every list of events is an interleaving. The process may end at any time: a run is
what has happened until then.

`room_history` is about one room: whatever the clients do, the operations on it that are answered
`OK` are `CREATE`, `START`, `STOP`, `START`, `STOP` and so on. What carries it is that this history
tells the status stored for the room.
-/

namespace ProcessMonitor.Comm

open CString Decimal Scanf

/-! ## The threads -/

/-- Where a thread of `handle_client` stands, with what it holds. -/
inductive Phase
  /-- At the test of `daemon_running`. -/
  | test
  | recv
  | handle (buffer : List UInt8)
  | send (result : ℤ) (response : List UInt8)
  /-- Before `daemon_running = 0`. -/
  | stop
  | closed
deriving DecidableEq, Repr

/-- Where `server_listen` stands. -/
inductive Listening
  | test | accept | returned
deriving DecidableEq, Repr

/-- The daemon: the table, `daemon_running`, and its threads, the clients' in the order in which
they connected. -/
structure Server where
  table : Table
  daemonRunning : Bool
  listening : Listening
  clients : List Phase

/-- The daemon before `server_listen`. -/
def Server.init : Server := ⟨Table.empty, true, .test, []⟩

/-- What the calls of a thread come to: the bytes that arrive (none where `recv` returns 0 or -1),
what `%d` stores, and whether `send` succeeds. -/
structure Io where
  received : List UInt8 := []
  scan : ScanInt := .strtol
  sent : Bool := true

/-- What `accept` and the calls behind it come to. -/
inductive Accepted
  | connected
  /-- Interrupted, or no memory or no thread for the client, who is dropped. -/
  | again
  | failed
deriving DecidableEq, Repr

/-- What happens next. -/
inductive Event
  /-- The thread of the client `c` takes its next step. -/
  | client (c : ℕ) (io : Io)
  /-- The listener takes its next step. -/
  | listen (accepted : Accepted)
  /-- `SIGTERM` or `SIGINT`. -/
  | signal

/-- What a step shows. -/
inductive Seen
  | nothing
  | received (c : ℕ) (command : List UInt8)
  | handled (c : ℕ) (request : Request) (response : List UInt8)
  | sent (c : ℕ) (response : List UInt8)
deriving DecidableEq, Repr

namespace Server

/-- The thread of the client `c` goes on with `p`. -/
def goto (s : Server) (c : ℕ) (p : Phase) : Server := { s with clients := s.clients.set c p }

/-- One step of a client's thread.
Source: `socket_server.c`, `handle_client` -/
def clientStep (host : Host) (s : Server) (c : ℕ) (io : Io) : Phase → Server × Seen
  | .test => (s.goto c (if s.daemonRunning then .recv else .closed), .nothing)
  | .recv =>
      if io.received = [] then (s.goto c .closed, .nothing)
      else
        let buffer := io.received.take (bufferSize - 1)
        (s.goto c (.handle buffer), .received c buffer)
  | .handle buffer =>
      let o := handleCommand host io.scan buffer bufferSize s.table
      (({ s with table := o.table } : Server).goto c (.send o.result o.response),
        .handled c (requestOf io.scan buffer) o.response)
  | .send result response =>
      if io.sent then (s.goto c (if result = 1 then .stop else .test), .sent c response)
      else (s.goto c .closed, .nothing)
  | .stop => (({ s with daemonRunning := false } : Server).goto c .closed, .nothing)
  | .closed => (s, .nothing)

/-- One step of the listener.
Source: `socket_server.c`, `server_listen` -/
def listenStep (s : Server) (accepted : Accepted) : Server :=
  match s.listening with
  | .test => { s with listening := if s.daemonRunning then .accept else .returned }
  | .accept =>
      match accepted with
      | .connected => { s with listening := .test, clients := s.clients ++ [.test] }
      | .again => { s with listening := .test }
      | .failed => { s with listening := .returned }
  | .returned => s

end Server

/-- The daemon as a machine. -/
def server (host : Host) : Machine Server Event Seen where
  step s
    | .client c io =>
        match s.clients[c]? with
        | some p => s.clientStep host c io p
        | none => (s, .nothing)
    | .listen accepted => (s.listenStep accepted, .nothing)
    | .signal => ({ s with daemonRunning := false }, .nothing)

/-- The listener leaves the table and the flag as they are. -/
lemma listenStep_keeps (s : Server) (accepted : Accepted) :
    (s.listenStep accepted).table = s.table ∧
      (s.listenStep accepted).daemonRunning = s.daemonRunning := by
  unfold Server.listenStep
  split
  · exact ⟨rfl, rfl⟩
  · split <;> exact ⟨rfl, rfl⟩
  · exact ⟨rfl, rfl⟩

/-- **What a step can do to the table**: a client's command is handled, or nothing. -/
lemma server_table (host : Host) (s : Server) (e : Event) :
    (∃ c io buffer, e = .client c io ∧ s.clients[c]? = some (.handle buffer) ∧
        ((server host).step s e).1.table =
          ((requestOf io.scan buffer).exec host bufferSize s.table).table ∧
        ((server host).step s e).2 =
          .handled c (requestOf io.scan buffer)
            ((requestOf io.scan buffer).exec host bufferSize s.table).response) ∨
      (((server host).step s e).1.table = s.table ∧
        ∀ c request response, ((server host).step s e).2 ≠ .handled c request response) := by
  cases e with
  | client c io =>
      cases hp : s.clients[c]? with
      | none => exact Or.inr ⟨by simp [server, hp], by simp [server, hp]⟩
      | some p =>
          cases p with
          | handle buffer =>
              have heq := handleCommand_eq host io.scan buffer (show bufferSize ≠ 0 by decide)
                s.table
              refine Or.inl ⟨c, io, buffer, rfl, hp, ?_, ?_⟩ <;>
                simp only [server, hp, Server.clientStep, Server.goto, heq]
          | recv =>
              right
              simp only [server, hp, Server.clientStep]
              split_ifs <;> exact ⟨rfl, by simp⟩
          | send result response =>
              right
              simp only [server, hp, Server.clientStep]
              split_ifs <;> exact ⟨rfl, by simp⟩
          | _ => exact Or.inr ⟨by simp [server, hp, Server.clientStep, Server.goto],
              by simp [server, hp, Server.clientStep]⟩
  | listen accepted => exact Or.inr ⟨(listenStep_keeps s accepted).1, by simp [server]⟩
  | signal => exact Or.inr ⟨rfl, by simp [server]⟩

/-- A step keeps the table representing a map. -/
lemma representsOk_step {host : Host} {s : Server} (h : RepresentsOk host s.table) (e : Event) :
    RepresentsOk host ((server host).step s e).1.table := by
  rcases server_table host s e with ⟨c, io, buffer, -, -, htable, -⟩ | ⟨htable, -⟩
  · have hstep := represents_handleCommand h ⟨buffer, bufferSize, io.scan⟩
    simp only [daemon] at hstep
    rwa [handleCommand_eq host io.scan buffer (by decide), ← htable] at hstep
  · rwa [htable]

/-! ## The history of a room -/

/-- The operations that change a room. -/
inductive Verb
  | create | start | stop
deriving DecidableEq, Repr

/-- The verb of an operation. -/
def RoomOp.verb : RoomOp → Option Verb
  | .create _ _ => some .create
  | .start _ => some .start
  | .stop _ => some .stop
  | .showRoom _ => none

/-- The verb of a step that handles a `CREATE`, `START` or `STOP` of the room `n` and answers it
`OK`. -/
def Seen.accepted (n : List UInt8) : Seen → Option Verb
  | .handled _ (.room op) response =>
      if op.name = n ∧ strncmp response (bytes "OK") 2 = 0 then op.verb else none
  | _ => none

/-- Whose turn it is after `k` of them: `CREATE`, `START`, `STOP`, `START`, `STOP`, ... -/
def turn : ℕ → Verb
  | 0 => .create
  | k + 1 => if k % 2 = 0 then .start else .stop

/-- The status of the room then. -/
def statusAfter : ℕ → Option RoomStatus
  | 0 => none
  | 1 => some .created
  | k + 2 => if k % 2 = 0 then some .running else some .stopped

/-- The status of a room of the map. -/
def RoomMap.statusOf (m : RoomMap) (n : List UInt8) : Option RoomStatus :=
  (m.lookup n).map RoomData.status

/-- What a verb does to the status of a room. -/
inductive Moves : Verb → Option RoomStatus → Option RoomStatus → Prop
  | create : Moves .create none (some .created)
  | start {st : RoomStatus} (h : st ≠ .running) : Moves .start (some st) (some .running)
  | stop : Moves .stop (some .running) (some .stopped)

/-- The history tells the status, and the status tells whose turn it is. -/
lemma Moves.turn {k : ℕ} {v : Verb} {b : Option RoomStatus} (h : Moves v (statusAfter k) b) :
    v = Comm.turn k ∧ b = statusAfter (k + 1) := by
  match k with
  | 0 => cases h with
    | create => exact ⟨rfl, rfl⟩
  | 1 => cases h with
    | start _ => exact ⟨rfl, rfl⟩
  | k + 2 =>
      rcases Nat.mod_two_eq_zero_or_one k with hk | hk
      · have hk' : (k + 1) % 2 = 1 := by omega
        rw [statusAfter, if_pos hk] at h
        cases h with
        | start hne => exact absurd rfl hne
        | stop => simp [Comm.turn, statusAfter, hk']
      · have hk' : (k + 1) % 2 = 0 := by omega
        rw [statusAfter, if_neg (by omega)] at h
        cases h with
        | start _ => simp [Comm.turn, statusAfter, hk']

/-- The status of a stored room. -/
lemma statusOf_of_lookup {m : RoomMap} {n : List UInt8} {d : RoomData} (h : m.lookup n = some d) :
    m.statusOf n = some d.status := by
  rw [RoomMap.statusOf, h, Option.map_some]

/-- The statuses after an insertion. -/
lemma statusOf_insert {m : RoomMap} {n : List UInt8} (h : m.lookup n = none) (d : RoomData)
    (n' : List UInt8) :
    RoomMap.statusOf (m.insert n d) n' = if n' = n then some d.status else m.statusOf n' := by
  rw [RoomMap.statusOf, OrderedMap.lookup_insert h]
  split <;> rfl

/-- The statuses after a change of one. -/
lemma statusOf_modify {m : RoomMap} {n : List UInt8} {d : RoomData} (h : m.lookup n = some d)
    (st : RoomStatus) (n' : List UInt8) :
    RoomMap.statusOf (m.modify n fun d => { d with status := st }) n' =
      if n' = n then some st else m.statusOf n' := by
  rw [RoomMap.statusOf, OrderedMap.lookup_modify]
  by_cases hn : n' = n
  · subst hn
    rw [if_pos rfl, if_pos rfl, h]
    rfl
  · rw [if_neg hn, if_neg hn]
    rfl

/-- **One operation**: an error or a `SHOW` leaves the map; any other moves the status of its room
and leaves that of the others. -/
lemma apply_moves (host : Host) (m : RoomMap) (op : RoomOp) :
    ((m.apply host op).1 = m ∧ ((m.apply host op).2.isError = true ∨ op.verb = none)) ∨
      ∃ v b, op.verb = some v ∧ (m.apply host op).2.isError = false ∧
        Moves v (m.statusOf op.name) b ∧
        ∀ n, (m.apply host op).1.statusOf n = if n = op.name then b else m.statusOf n := by
  cases op with
  | create n s =>
      rw [RoomMap.apply]
      split_ifs with hs hlook hsize
      · exact Or.inl ⟨rfl, Or.inl rfl⟩
      · exact Or.inl ⟨rfl, Or.inl rfl⟩
      · exact Or.inl ⟨rfl, Or.inl rfl⟩
      · have hnone : m.lookup n = none := not_not.mp hlook
        have hstatus : m.statusOf n = none := by rw [RoomMap.statusOf, hnone, Option.map_none]
        refine Or.inr ⟨.create, _, rfl, rfl, ?_, statusOf_insert hnone _⟩
        rw [RoomOp.name, hstatus]
        exact .create
  | start n =>
      rw [RoomMap.apply]
      cases hlook : m.lookup n with
      | none => exact Or.inl ⟨rfl, Or.inl rfl⟩
      | some d =>
          simp only [RoomOp.name, statusOf_of_lookup hlook]
          split_ifs with hd
          · exact Or.inl ⟨rfl, Or.inl rfl⟩
          · exact Or.inr ⟨.start, _, rfl, rfl, .start hd, statusOf_modify hlook _⟩
  | stop n =>
      rw [RoomMap.apply]
      cases hlook : m.lookup n with
      | none => exact Or.inl ⟨rfl, Or.inl rfl⟩
      | some d =>
          simp only [RoomOp.name, statusOf_of_lookup hlook]
          split_ifs with hd
          · rw [hd]
            exact Or.inr ⟨.stop, _, rfl, rfl, .stop, statusOf_modify hlook _⟩
          · exact Or.inl ⟨rfl, Or.inl rfl⟩
  | showRoom n =>
      rw [RoomMap.apply]
      cases m.lookup n <;> exact Or.inl ⟨rfl, Or.inr rfl⟩

/-- A reply begins with `OK` exactly if it is no error. -/
lemma strncmp_ok_iff (r : Reply) :
    strncmp (snprintf bufferSize r.text) (bytes "OK") 2 = 0 ↔ r.isError = false := by
  obtain ⟨rest, hrest⟩ := r.prefix_text
  have hcut {tag : List UInt8} (h0 : (0 : UInt8) ∉ tag) (htag : tag.length ≤ bufferSize - 1) :
      cstr (snprintf bufferSize (tag ++ rest)) =
        tag ++ cstr (rest.take (bufferSize - 1 - tag.length)) := by
    rw [snprintf, List.take_append, List.take_of_length_le htag, cstr_append h0]
  rw [strncmp_eq_zero_iff, ← hrest]
  cases r.isError with
  | true =>
      rw [if_pos rfl, hcut (by decide) (by decide)]
      exact iff_of_false (fun h => absurd h (by decide : bytes "ER" ≠ bytes "OK")) (by decide)
  | false =>
      rw [if_neg (by decide), hcut (by decide) (by decide)]
      exact iff_of_true rfl rfl

/-- The state after `k` verbs of the room `n`. -/
def HistoryTells (host : Host) (n : List UInt8) (k : ℕ) (s : Server) : Prop :=
  ∃ m, Represents host s.table m ∧ RoomMap.Ok m ∧ m.statusOf n = statusAfter k

/-- **A step is the next verb of the room, or none.** -/
lemma historyTells_step {host : Host} {n : List UInt8} {k : ℕ} {s : Server}
    (h : HistoryTells host n k s) (e : Event) :
    (((server host).step s e).2.accepted n = none ∧
        HistoryTells host n k ((server host).step s e).1) ∨
      (((server host).step s e).2.accepted n = some (turn k) ∧
        HistoryTells host n (k + 1) ((server host).step s e).1) := by
  obtain ⟨m, hrep, hok, hstatus⟩ := h
  rcases server_table host s e with ⟨c, io, buffer, -, -, htable, hseen⟩ | ⟨htable, hseen⟩
  · rw [hseen]
    cases hreq : requestOf io.scan buffer with
    | room op =>
        have hn := nameOk_of_requestOf hreq
        have hagrees := exec_represents hrep hn bufferSize
        have hrep' : Represents host ((server host).step s e).1.table (m.apply host op).1 := by
          rw [htable, hreq]
          exact hagrees.represents
        have hok' := hok.apply host hn
        simp only [Seen.accepted, Request.exec, hagrees.response_eq, strncmp_ok_iff]
        rcases apply_moves host m op with ⟨hsame, hno⟩ | ⟨v, b, hverb, hno, hmoves, hall⟩
        · refine Or.inl ⟨?_, _, hrep', hok', by rw [hsame, hstatus]⟩
          rcases hno with herror | hverb
          · simp [herror]
          · simp [hverb]
        · by_cases hname : op.name = n
          · subst hname
            rw [hstatus] at hmoves
            obtain ⟨hturn, hb⟩ := hmoves.turn
            refine Or.inr ⟨by simp [hno, hverb, hturn], _, hrep', hok', ?_⟩
            rw [hall, if_pos rfl, hb]
          · refine Or.inl ⟨by simp [hname], _, hrep', hok', ?_⟩
            rw [hall, if_neg (Ne.symm hname), hstatus]
    | list => exact Or.inl ⟨rfl, m, by rw [htable, hreq]; exact hrep, hok, hstatus⟩
    | exit => exact Or.inl ⟨rfl, m, by rw [htable, hreq]; exact hrep, hok, hstatus⟩
    | refused text => exact Or.inl ⟨rfl, m, by rw [htable, hreq]; exact hrep, hok, hstatus⟩
  · refine Or.inl ⟨?_, m, by rw [htable]; exact hrep, hok, hstatus⟩
    cases hs : ((server host).step s e).2 with
    | handled c request response => exact absurd hs (hseen c request response)
    | _ => rfl

/-- The verbs of the room `n` that a run answers `OK`, in the order of the steps. -/
def roomHistory (host : Host) (n : List UInt8) (events : List Event) : List Verb :=
  ((server host).run .init events).2.filterMap (Seen.accepted n)

/-- Only the first turn is `CREATE`. -/
lemma turn_eq_create_iff (k : ℕ) : turn k = .create ↔ k = 0 := by
  cases k with
  | zero => simp [turn]
  | succ k =>
      rw [turn]
      split <;> simp

/-- No verb has two turns in a row. -/
lemma turn_succ_ne (k : ℕ) : turn (k + 1) ≠ turn k := by
  cases k with
  | zero => decide
  | succ k =>
      rcases Nat.mod_two_eq_zero_or_one k with hk | hk
      · have hk' : (k + 1) % 2 = 1 := by omega
        simp [turn, hk, hk']
      · have hk' : (k + 1) % 2 = 0 := by omega
        simp [turn, hk, hk']

/-- **The history of a room under concurrent clients.** For any number of clients, every
interleaving of their steps and every name, the operations on the room that are answered `OK`, in
the order in which they are executed, are the beginning of `CREATE`, `START`, `STOP`, `START`,
`STOP` and so on. So the room is created once at most, and it is neither started nor stopped twice
without the other in between. -/
theorem room_history (host : Host) (events : List Event) (n : List UInt8) :
    let history := roomHistory host n events
    history = (List.range history.length).map turn ∧
      (∀ i j : ℕ, history[i]? = some Verb.create → history[j]? = some Verb.create → i = j) ∧
      ∀ (i : ℕ) (v : Verb), history[i]? = some v → history[i + 1]? ≠ some v := by
  intro history
  have hinit : HistoryTells host n 0 Server.init :=
    ⟨OrderedMap.empty, represents_empty host, ok_empty, rfl⟩
  have hlaw : ∀ j v, history[j]? = some v → v = turn (0 + j) :=
    (server host).run_history (J := HistoryTells host n)
      (fun k s e hs hnone => by
        rcases historyTells_step hs e with ⟨-, h⟩ | ⟨hsome, -⟩
        · exact h
        · rw [hnone] at hsome
          cases hsome)
      (fun k s e v hs hsome => by
        rcases historyTells_step hs e with ⟨hnone, -⟩ | ⟨hsome', h⟩
        · rw [hsome] at hnone
          cases hnone
        · rw [hsome] at hsome'
          exact ⟨Option.some.inj hsome', h⟩)
      hinit events
  refine ⟨?_, fun i j hi hj => ?_, fun i v hi hi' => ?_⟩
  · refine List.ext_getElem? fun j => ?_
    rcases Nat.lt_or_ge j history.length with hj | hj
    · have hget := List.getElem?_eq_getElem hj
      rw [hget, List.getElem?_map, List.getElem?_range hj, hlaw j _ hget, Nat.zero_add]
      rfl
    · rw [List.getElem?_eq_none hj, List.getElem?_eq_none (by simpa using hj)]
  · have hi0 := (turn_eq_create_iff _).mp (hlaw i _ hi).symm
    have hj0 := (turn_eq_create_iff _).mp (hlaw j _ hj).symm
    omega
  · have hne := turn_succ_ne (0 + i)
    rw [← hlaw i v hi, Nat.add_assoc, ← hlaw (i + 1) v hi'] at hne
    exact hne rfl

end ProcessMonitor.Comm
