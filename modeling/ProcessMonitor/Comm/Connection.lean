import ProcessMonitor.Comm.Commands

/-!
# One connection

`handle_client` of `src/03-communication/daemon/socket_server.c`, on the chunks that successive
calls of `recv` return. There is no framing: no length and no delimiter is sent, and the daemon
takes what one `recv` returns as one command. The client and the tests send one command on a
connection and wait for its reply.

`handleClient_eq_serve` says what that amounts to: the chunks, decoded one by one up to the first
`EXIT`, are the requests that are served.
-/

namespace ProcessMonitor.Comm

open CString Decimal Scanf

/-! ## The loop -/

/-- What a connection leaves: the table, the replies sent, and `daemon_running`. -/
structure ClientRun where
  table : Table
  replies : List (List UInt8)
  daemonRunning : Bool

/-- The loop on the chunks left, until the client closes the connection or asks for `EXIT`; every
`send` succeeds.
Source: `socket_server.c`, `handle_client` -/
def handleClient (host : Host) (scan : ScanInt) : List (List UInt8) → Table → ClientRun
  | [], t => ⟨t, [], true⟩
  | chunk :: chunks, t =>
      let o := handleCommand host scan chunk bufferSize t
      if o.result = 1 then ⟨o.table, [o.response], false⟩
      else
        let run := handleClient host scan chunks o.table
        { run with replies := o.response :: run.replies }

/-! ## The requests served -/

/-- The requests that chunks decode to, one for each, up to the first `EXIT`. -/
def served (scan : ScanInt) : List (List UInt8) → List Request
  | [] => []
  | chunk :: chunks =>
      if requestOf scan chunk = .exit then [.exit] else requestOf scan chunk :: served scan chunks

/-- Execute requests one after another. -/
def serve (host : Host) : List Request → Table → ClientRun
  | [], t => ⟨t, [], true⟩
  | request :: requests, t =>
      let o := request.exec host bufferSize t
      let run := serve host requests o.table
      { table := run.table
        replies := o.response :: run.replies
        daemonRunning := request ≠ .exit && run.daemonRunning }

/-- An operation on a room returns 0. -/
lemma result_exec_room (host : Host) (responseSize : ℕ) (t : Table) (op : RoomOp) :
    (op.exec host responseSize t).result = 0 := by
  cases op with
  | create n s =>
      simp only [RoomOp.exec, cmdCreateRoom]
      by_cases hs : s ≤ 0 ∨ s > 10000
      · rw [if_pos hs]
      · rw [if_neg hs]
        cases findRoom n t with
        | some p => rfl
        | none => simp only [apply_ite Outcome.result, ite_self]
  | start n =>
      simp only [RoomOp.exec, cmdStartRoom]
      cases findRoom n t with
      | none => rfl
      | some p => simp only [apply_ite Outcome.result, ite_self]
  | stop n =>
      simp only [RoomOp.exec, cmdStopRoom]
      cases findRoom n t with
      | none => rfl
      | some p => simp only [apply_ite Outcome.result, ite_self]
  | showRoom n =>
      simp only [RoomOp.exec, cmdShowRoom]
      cases findRoom n t with
      | none => rfl
      | some p => rfl

/-- Only `EXIT` returns 1. -/
lemma result_exec_eq_one_iff (host : Host) (responseSize : ℕ) (t : Table) (request : Request) :
    (request.exec host responseSize t).result = 1 ↔ request = .exit := by
  cases request with
  | room op =>
      refine iff_of_false ?_ (by simp)
      rw [Request.exec, result_exec_room]
      decide
  | list => exact iff_of_false (by simp [Request.exec]) (by simp)
  | exit => exact iff_of_true rfl rfl
  | refused text => exact iff_of_false (by simp [Request.exec]) (by simp)

/-- **A connection serves its chunks**, one request for each. -/
lemma handleClient_eq_serve (host : Host) (scan : ScanInt) (chunks : List (List UInt8))
    (t : Table) : handleClient host scan chunks t = serve host (served scan chunks) t := by
  induction chunks generalizing t with
  | nil => rfl
  | cons chunk chunks ih =>
      rw [handleClient, served, handleCommand_eq host scan chunk (by decide)]
      by_cases hexit : requestOf scan chunk = .exit
      · rw [hexit]
        rfl
      · have hres : ¬ ((requestOf scan chunk).exec host bufferSize t).result = 1 := fun h =>
          hexit ((result_exec_eq_one_iff host _ t _).mp h)
        rw [if_neg hexit]
        simp only [if_neg hres, ih, serve, decide_eq_true hexit, Bool.true_and]

/-- There is one reply for each request served. -/
lemma length_replies_serve (host : Host) (requests : List Request) (t : Table) :
    (serve host requests t).replies.length = requests.length := by
  induction requests generalizing t with
  | nil => rfl
  | cons request requests ih => simp [serve, ih]

/-- **What a connection does with a stream cut anywhere.** For all commands sent and all chunks
received, the table and the replies are those of the requests that the chunks decode to one by
one, up to the first `EXIT`. So they are those of the commands received whole whenever the chunks
decode to the same requests, and there are as many replies as for the commands received whole only
if as many requests are served. -/
theorem handleClient_chunks (host : Host) (scan : ScanInt) (t : Table)
    (commands chunks : List (List UInt8)) :
    handleClient host scan chunks t = serve host (served scan chunks) t ∧
      (served scan chunks = served scan commands →
        handleClient host scan chunks t = handleClient host scan commands t) ∧
      ((handleClient host scan chunks t).replies = (handleClient host scan commands t).replies →
        (served scan chunks).length = (served scan commands).length) := by
  refine ⟨handleClient_eq_serve host scan chunks t, fun h => ?_, fun h => ?_⟩
  · rw [handleClient_eq_serve, handleClient_eq_serve, h]
  · have hlen := congrArg List.length h
    rwa [handleClient_eq_serve, handleClient_eq_serve, length_replies_serve,
      length_replies_serve] at hlen

/-- A `CREATE` that arrives in two pieces, cut inside its number: the first piece creates a room
of size 10 and the second one is refused. -/
theorem splitCreate_differs :
    ¬ ∀ (commands chunks : List (List UInt8)), chunks.flatten = commands.flatten →
      (∀ c ∈ chunks, 1 ≤ c.length ∧ c.length ≤ 1023) →
        (handleClient .example .strtol chunks .empty).table =
            (handleClient .example .strtol commands .empty).table ∧
          (handleClient .example .strtol chunks .empty).replies =
            (handleClient .example .strtol commands .empty).replies := by
  intro h
  have htable := (h [bytes "CREATE a 1000"] [bytes "CREATE a 10", bytes "00"] (by decide)
    (by decide)).1
  have hsizes := congrArg (fun t => t.rooms.map Room.size) htable
  revert hsizes
  decide

end ProcessMonitor.Comm
