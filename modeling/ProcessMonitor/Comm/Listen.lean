import ProcessMonitor.Comm.Shutdown

/-!
# What the end of `server_listen` tells

`server_listen` of `src/03-communication/daemon/socket_server.c` leaves its loop where the flag has
been cleared, and where `accept` fails for another reason than a signal. Both ways lead to the same
`return 0`, which `main` takes for a shutdown that was asked for. The machine here is that of
`Server`, with the calls of the listener told apart, and with a record of who asked for the
shutdown and of whether the listener gave up.

`endsOnRequest_iff`: the result tells the two ends apart in the runs in which no `accept` fails.
-/

namespace ProcessMonitor.Comm

/-! ## The calls of the listener -/

/-- `EINTR`. -/
def eintr : ℕ := 4

/-- What the calls of one round of the loop come to. -/
inductive Round
  /-- `accept` returns -1. -/
  | error (errno : ℕ)
  /-- `accept` returns a socket; whether `malloc` and `pthread_create` succeed. -/
  | accepted (allocated created : Bool)
deriving DecidableEq, Repr

/-- How the loop goes on.
Source: `socket_server.c`, `server_listen` -/
def Round.outcome : Round → Accepted
  | .error errno => if errno = eintr then .again else .failed
  | .accepted allocated created =>
      if !allocated then .again
      else if !created then .again
      else .connected

/-- What `server_listen` returns, once it has: `return 0` behind the loop.
Source: `socket_server.c`, `server_listen` -/
def Server.listenResult (s : Server) : Option ℤ :=
  match s.listening with
  | .test | .accept => none
  | .returned => some 0

/-- What `main` returns, from what its calls return; `daemonize` is called without `-f` only.
Source: `daemon_main.c`, `main` -/
def daemonMain (foreground : Bool) (daemonized serverFd listenResult : ℤ) : ℤ :=
  if !foreground && daemonized < 0 then exitFailure
  else if serverFd < 0 then exitFailure
  else if listenResult < 0 then exitFailure
  else exitSuccess

/-! ## Runs -/

/-- The daemon, with a record of whether the flag was cleared by `EXIT` or a signal, and whether the
listener gave up. -/
structure Process where
  server : Server
  requested : Bool
  gaveUp : Bool

/-- Before `server_listen`. -/
def Process.init : Process := ⟨.init, false, false⟩

/-- What happens next. -/
inductive Happening
  | client (c : ℕ) (io : Io)
  | listen (round : Round)
  | signal

/-- The event of the server. -/
def Happening.event : Happening → Event
  | .client c io => .client c io
  | .listen round => .listen round.outcome
  | .signal => .signal

/-- `accept` fails, and not for a signal. -/
def AcceptFails (p : Process) (h : Happening) : Prop :=
  p.server.listening = .accept ∧ ∃ errno, errno ≠ eintr ∧ h = .listen (.error errno)

/-- The listener takes the `break`. -/
def Server.breaks (s : Server) : Event → Bool
  | .listen accepted => s.listening = .accept && accepted = .failed
  | _ => false

/-- The daemon with the record. -/
def process (host : Host) : Machine Process Happening Seen where
  step p h :=
    ({ server := ((Comm.server host).step p.server h.event).1
       requested := p.requested || p.server.asked h.event
       gaveUp := p.gaveUp || p.server.breaks h.event },
      ((Comm.server host).step p.server h.event).2)

/-- `server_listen` ends on request only: it returns 0 if it was asked to end, and a negative value
if it gave up; and `main` returns `EXIT_SUCCESS` if a shutdown was asked for. -/
structure EndsOnRequest (p : Process) : Prop where
  zero : p.server.listenResult = some 0 → p.requested = true
  negative : p.gaveUp = true → ∃ r, p.server.listenResult = some r ∧ r < 0
  success : ∀ r, p.server.listenResult = some r → ∀ foreground daemonized serverFd,
    daemonMain foreground daemonized serverFd r = exitSuccess → p.requested = true

/-- As long as no `accept` fails, the flag tells whether a shutdown was asked for, and the listener
leaves its loop for that reason only. -/
structure OnRequest (p : Process) : Prop where
  flag : p.server.daemonRunning = !p.requested
  kept : p.gaveUp = false
  ended : p.server.listening = .returned → p.requested = true

/-- The listener breaks where `accept` fails. -/
lemma breaks_iff (p : Process) (h : Happening) :
    p.server.breaks h.event = true ↔ AcceptFails p h := by
  unfold AcceptFails
  cases h with
  | client c io => simp [Happening.event, Server.breaks]
  | signal => simp [Happening.event, Server.breaks]
  | listen round =>
      cases round with
      | error errno => simp [Happening.event, Server.breaks, Round.outcome]
      | accepted allocated created =>
          cases allocated <;> cases created <;>
            simp [Happening.event, Server.breaks, Round.outcome]

/-- **How the loop is left**: where the flag is cleared, or by the `break`. -/
lemma listening_returned {host : Host} {s : Server} {e : Event}
    (h : ((server host).step s e).1.listening = .returned) :
    s.listening = .returned ∨ s.daemonRunning = false ∨ s.breaks e = true := by
  cases e with
  | client c io =>
      left
      rw [← h]
      simp only [server]
      cases hp : s.clients[c]? with
      | none => rfl
      | some p =>
          obtain ⟨table, p', heq⟩ := clientStep_eq host hp io
          simp only [heq]
  | listen accepted =>
      simp only [server, Server.listenStep] at h
      cases hs : s.listening with
      | test =>
          cases hrun : s.daemonRunning with
          | true => simp [hs, hrun] at h
          | false => exact Or.inr (Or.inl rfl)
      | accept =>
          cases accepted with
          | failed => exact Or.inr (Or.inr (by simp [Server.breaks, hs]))
          | _ => simp [hs] at h
      | returned => exact Or.inl rfl
  | signal => exact Or.inl h

/-- A step without a failing `accept` keeps it so. -/
lemma OnRequest.step {host : Host} {p : Process} (h : OnRequest p) {e : Happening}
    (hgood : ¬ AcceptFails p e) : OnRequest ((process host).step p e).1 := by
  have hbreaks : p.server.breaks e.event = false := by
    rw [← Bool.not_eq_true, breaks_iff]
    exact hgood
  refine ⟨?_, ?_, ?_⟩
  · show ((server host).step p.server e.event).1.daemonRunning =
      !(p.requested || p.server.asked e.event)
    rw [daemonRunning_eq, h.flag, Bool.not_or]
  · show (p.gaveUp || p.server.breaks e.event) = false
    rw [h.kept, hbreaks]
    rfl
  · intro hreturned
    show (p.requested || p.server.asked e.event) = true
    rcases listening_returned hreturned with hs | hrun | hbreak
    · rw [h.ended hs, Bool.true_or]
    · have hrequested : p.requested = true := by
        rw [h.flag] at hrun
        exact (Bool.not_eq_false' ..).mp hrun
      rw [hrequested, Bool.true_or]
    · rw [hbreaks] at hbreak
      cases hbreak

/-- Then the results tell. -/
lemma OnRequest.endsOnRequest {p : Process} (h : OnRequest p) : EndsOnRequest p := by
  have hended : ∀ r, p.server.listenResult = some r → p.requested = true := by
    intro r hr
    refine h.ended ?_
    unfold Server.listenResult at hr
    cases hs : p.server.listening with
    | returned => rfl
    | _ => simp [hs] at hr
  refine ⟨hended 0, ?_, fun r hr _ _ _ _ => hended r hr⟩
  intro hgave
  rw [h.kept] at hgave
  cases hgave

/-- Where the listener has given up, the result does not tell. -/
lemma not_endsOnRequest {p : Process} (h : p.gaveUp = true) : ¬ EndsOnRequest p := by
  intro hends
  obtain ⟨r, hr, hneg⟩ := hends.negative h
  unfold Server.listenResult at hr
  cases hs : p.server.listening with
  | returned =>
      rw [hs] at hr
      have hzero : 0 = r := Option.some.inj hr
      omega
  | _ => simp [hs] at hr

/-- **The result tells why the loop was left**, in every state of a run, if and only if no `accept`
of the run fails for another reason than a signal. -/
theorem endsOnRequest_iff (host : Host) (happenings : List Happening) :
    (∀ p ∈ (process host).states .init happenings, EndsOnRequest p) ↔
      ∀ x ∈ (process host).trace .init happenings, ¬ AcceptFails x.1 x.2 := by
  have hinit : OnRequest .init := ⟨rfl, rfl, fun h => by cases h⟩
  refine (process host).states_iff_trace (I := OnRequest) (P := EndsOnRequest)
    (C := fun p e => ¬ AcceptFails p e) (fun _ _ hp hgood => hp.step hgood) ?_ hinit
    hinit.endsOnRequest happenings
  intro p e hp _
  constructor
  · intro hends hfails
    refine not_endsOnRequest ?_ hends
    show (p.gaveUp || p.server.breaks e.event) = true
    rw [(breaks_iff p e).mpr hfails, Bool.or_true]
  · intro hgood
    exact (hp.step hgood).endsOnRequest

/-- `ECONNABORTED`. -/
def econnaborted : ℕ := 103

/-- The first connection is aborted before it is accepted: the daemon ends with `EXIT_SUCCESS`, and
nobody has asked it to. -/
theorem aborted_connection :
    let aborted : Round := .error econnaborted
    -- the test of the flag, and the round
    let p := ((process .example).run .init [.listen aborted, .listen aborted]).1
    p.server.listenResult = some 0 ∧ daemonMain true 0 3 0 = exitSuccess ∧
      p.requested = false ∧ p.gaveUp = true ∧ ¬ EndsOnRequest p := by
  intro aborted p
  have hgave : p.gaveUp = true := by decide
  exact ⟨by decide, by decide, by decide, hgave, not_endsOnRequest hgave⟩

end ProcessMonitor.Comm
