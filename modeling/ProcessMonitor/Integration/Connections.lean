import ProcessMonitor.Integration.Clients
import ProcessMonitor.Lib.Handles

/-!
# The sockets of the integration daemon

`network_thread`, the `client_handler_thread`s and `cleanup_on_exit` of
`src/04-integration/main_daemon.c`, with the descriptors that they open and close. The slots and the
handlers are those of `Network`; the network thread and the main thread, which runs
`cleanup_on_exit`, work on them under `clients_mutex`, the handlers do not. The system may give a
number that has been closed to the next connection.

`cleanup_on_exit` closes the socket of each active client and then waits for its handler, which
closes it again behind its loop.

* `sockets_right_iff`: in which runs every socket used or closed is the one that is meant.
* `clean_exit_iff`: `cleanup_on_exit` ends without a wrong socket having been used or closed if and
  only if it finds no client, and the network thread does not call `accept` behind it; the socket of
  each client that it finds is closed twice.
-/

namespace ProcessMonitor.Integration

open Handles

/-! ## The threads -/

/-- What a descriptor stands for: the socket of `initialize_server_socket`, or a connection.
Connections are told apart by their order, whatever their numbers. -/
inductive Sock
  | listening
  | connection (serial : ℕ)
deriving DecidableEq, Repr

/-- Where `network_thread` is; inside `clients_mutex` the `NetworkPc` tells the rest. -/
inductive NetworkStage
  | testing
  /-- Before `accept`. -/
  | calling
  | accepting
  /-- Before the mutex, with the socket that `accept` has returned. -/
  | locking (clientSocket serial : ℕ)
  | inside (serial : ℕ)
  | ended
deriving DecidableEq, Repr

/-- Where the main thread is: in its loop, and then in `cleanup_on_exit` behind the rooms. -/
inductive ExitStage
  | looping
  /-- Before `close(server_socket)`. -/
  | closing
  | locking
  /-- Before the test of the slot `i`. -/
  | visiting (i : ℕ)
  /-- Before the `close` of its socket. -/
  | shutting (i : ℕ)
  /-- Before `active = 0`. -/
  | clearing (i : ℕ)
  /-- In `pthread_join`. -/
  | joining (i : ℕ)
  | unlocking
  | done
deriving DecidableEq, Repr

namespace ExitStage

/-- The main thread holds `clients_mutex`. -/
def holds : ExitStage → Bool
  | .visiting _ | .shutting _ | .clearing _ | .joining _ | .unlocking => true
  | _ => false

/-- It has closed the server socket. -/
def serverClosed : ExitStage → Bool
  | .looping | .closing => false
  | _ => true

/-- The slot whose socket it has closed, and whose handler it has not seen end. -/
def visited : ExitStage → Option ℕ
  | .clearing i | .joining i => some i
  | _ => none

end ExitStage

/-- The slots, the threads and the descriptors. `count` is the number of connections accepted, and
`serial` tells which of them was put into a slot; neither is in the source. -/
structure Connections where
  net : Network
  running : Bool
  stage : NetworkStage
  exit : ExitStage
  serverSocket : ℕ
  files : Issued Sock
  count : ℕ
  serial : ℕ → ℕ

/-- What happens next. -/
inductive ConnectionEvent
  /-- `accept` returns a descriptor. -/
  | accept (clientSocket : ℕ)
  /-- `accept` returns -1. -/
  | acceptFails
  /-- The network thread takes another step; `ok` is whether `pthread_create` succeeds. -/
  | network (ok : Bool)
  /-- A handler in its loop receives or sends. -/
  | use (k : ℕ)
  /-- A handler takes its next step behind its loop. -/
  | handler (k : ℕ)
  /-- The main thread takes its next step. -/
  | main
  | signal
deriving DecidableEq, Repr

/-- The use of a descriptor: what it is `meant` to stand for, and what it stands for. -/
structure Access where
  meant : Sock
  found : Option Sock
deriving DecidableEq, Repr

/-- The descriptor is the one that is meant. -/
def Access.Right (a : Access) : Prop := a.found = some a.meant

namespace Network

/-- The number in a slot. -/
def socketFd (s : Network) (i : ℕ) : ℕ :=
  match s.clients[i]? with
  | some c => c.socketFd.toNat
  | none => 0

end Network

namespace Connections

/-- After `initialize_server_socket`, with the network thread started. -/
def initial (maxClients : ℤ) (capacity : ℕ) (h : maxClients ≤ capacity) (serverSocket : ℕ) :
    Connections :=
  ⟨.initial maxClients capacity h, true, .testing, .looping, serverSocket,
    Issued.empty.opened serverSocket .listening, 0, fun _ => 0⟩

variable (s : Connections)

/-- The use of the socket of a slot. -/
def slotAccess (i : ℕ) : Access := ⟨.connection (s.serial i), s.files (s.net.socketFd i)⟩

/-- A step of the network thread that is not the return of `accept`.
Source: `main_daemon.c`, `network_thread` -/
def networkStep (ok : Bool) : Connections × List Access :=
  match s.stage with
  | .testing => ({ s with stage := if s.running then .calling else .ended }, [])
  | .calling => ({ s with stage := .accepting }, [⟨.listening, s.files s.serverSocket⟩])
  | .accepting => (s, [])
  | .locking clientSocket serial =>
      if s.exit.holds then (s, [])
      else ({ s with net := s.net.acceptStep clientSocket, stage := .inside serial }, [])
  | .inside serial =>
      let net := s.net.networkStep ok
      let s' := { s with
        net := net, stage := if net.pc = .accepting then .testing else .inside serial }
      match s.net.pc with
      | .searching clientSocket i =>
          if i < s.net.maxClients then
            if s.net.active i then (s', [])
            else ({ s' with serial := Function.update s.serial i serial }, [])
          else
            ({ s' with files := s.files.closed clientSocket.toNat },
              [⟨.connection serial, s.files clientSocket.toNat⟩])
      | .creating i =>
          if ok then (s', [])
          else ({ s' with files := s.files.closed (s.net.socketFd i) }, [s.slotAccess i])
      | _ => (s', [])
  | .ended => (s, [])

/-- A step of a handler behind its loop.
Source: `main_daemon.c`, `client_handler_thread` -/
def handlerStep (k : ℕ) : Connections × List Access :=
  let s' := { s with net := (s.net.handlerStep k).1 }
  match s.net.handlers[k]? with
  | some ⟨i, false⟩ =>
      ({ s' with files := s.files.closed (s.net.socketFd i) }, [s.slotAccess i])
  | _ => (s', [])

/-- A `recv` or `send` in the loop of a handler. -/
def handlerUse (k : ℕ) : List Access :=
  match s.net.handlers[k]? with
  | some ⟨i, false⟩ => [s.slotAccess i]
  | _ => []

/-- A step of the main thread.
Source: `main_daemon.c`, `main` and `cleanup_on_exit` behind the rooms -/
def mainStep : Connections × List Access :=
  match s.exit with
  | .looping => (if s.running then s else { s with exit := .closing }, [])
  | .closing =>
      ({ s with files := s.files.closed s.serverSocket, exit := .locking },
        [⟨.listening, s.files s.serverSocket⟩])
  | .locking => (if s.net.pc = .accepting then { s with exit := .visiting 0 } else s, [])
  | .visiting i =>
      if i < s.net.maxClients then
        ({ s with exit := if s.net.active i then .shutting i else .visiting (i + 1) }, [])
      else ({ s with exit := .unlocking }, [])
  | .shutting i =>
      ({ s with files := s.files.closed (s.net.socketFd i), exit := .clearing i }, [s.slotAccess i])
  | .clearing i =>
      ({ s with net := s.net.updClient i fun c => { c with active := false }, exit := .joining i },
        [])
  | .joining i =>
      (if i ∈ s.net.handlers.map Handler.slot then s else { s with exit := .visiting (i + 1) }, [])
  | .unlocking => ({ s with exit := .done }, [])
  | .done => (s, [])

end Connections

/-- The threads under a schedule. -/
def connections : Machine Connections ConnectionEvent (List Access) where
  step s
    | .accept clientSocket =>
        if s.stage = .accepting ∧ s.files clientSocket = none then
          ({ s with stage := .locking clientSocket s.count
                    files := s.files.opened clientSocket (.connection s.count)
                    count := s.count + 1 }, [])
        else (s, [])
    | .acceptFails => (if s.stage = .accepting then { s with stage := .testing } else s, [])
    | .network ok => s.networkStep ok
    | .use k => (s, s.handlerUse k)
    | .handler k => s.handlerStep k
    | .main => s.mainStep
    | .signal => ({ s with running := false }, [])

/-! ## Who sits where -/

namespace ExitStage

variable {e : ExitStage}

lemma visited_of_not_holds (h : e.holds = false) : e.visited = none := by
  cases e with
  | clearing i => cases h
  | joining i => cases h
  | _ => rfl

lemma ne_joining_of_not_holds (h : e.holds = false) (i : ℕ) : e ≠ .joining i := by
  rintro rfl
  cases h

lemma ne_shutting_of_not_holds (h : e.holds = false) (i : ℕ) : e ≠ .shutting i := by
  rintro rfl
  cases h

end ExitStage

namespace Network

variable {s : Network}

/-- The number in another slot stays. -/
lemma socketFd_updClient_ne {i j : ℕ} (h : i ≠ j) (f : ClientConnection → ClientConnection) :
    (s.updClient i f).socketFd j = s.socketFd j := by
  unfold socketFd updClient
  simp only [List.getElem?_modify, if_neg h, id_map']

/-- The number that is put into a slot. -/
lemma socketFd_updClient_eq {i : ℕ} (hi : (i : ℤ) < s.maxClients) (c : ClientConnection) :
    (s.updClient i fun _ => c).socketFd i = c.socketFd.toNat := by
  have hlt : i < s.clients.length := by have := s.fits; omega
  unfold socketFd updClient
  simp only [List.getElem?_modify, if_true, List.getElem?_eq_getElem hlt, Option.map_eq_map,
    Option.map_some]

/-- Clearing a flag leaves the numbers. -/
lemma socketFd_clear (i j : ℕ) :
    (s.updClient i fun c => { c with active := false }).socketFd j = s.socketFd j := by
  by_cases h : i = j
  · subst h
    unfold socketFd updClient
    simp only [List.getElem?_modify, if_true]
    cases s.clients[i]? <;> rfl
  · exact socketFd_updClient_ne h _

/-- A flag that has been cleared. -/
lemma active_clear (i : ℕ) :
    (s.updClient i fun c => { c with active := false }).active i = false := by
  unfold active updClient
  simp only [List.getElem?_modify, if_true]
  cases s.clients[i]? <;> rfl

end Network

/-- Every handler has a slot of its own, which is active until `cleanup_on_exit` waits for the
handler; the active slots are those of the handlers and the one just taken; and while the main
thread holds the mutex, the network thread does not. -/
structure Seated (net : Network) (exit : ExitStage) : Prop where
  nodup : net.slots.Nodup
  claimed_notMem : ∀ i ∈ net.pc.claimed, i ∉ net.slots
  active_iff : ∀ i, net.active i = true ↔
    i ∈ net.pc.claimed ∨ (i ∈ net.slots ∧ exit ≠ .joining i)
  exclusive : exit.holds = true → net.pc = .accepting

namespace Seated

variable {net : Network} {exit : ExitStage}

/-- In the mutex the main thread is not. -/
lemma not_holds (h : Seated net exit) (hpc : net.pc ≠ .accepting) : exit.holds = false := by
  cases hexit : exit.holds with
  | false => rfl
  | true => exact absurd (h.exclusive hexit) hpc

/-- The slot of a handler is not the one that the network thread has taken. -/
lemma notMem_claimed (h : Seated net exit) {i : ℕ} (hmem : i ∈ net.slots) :
    i ∉ net.pc.claimed ∧ net.pc ≠ .creating i := by
  refine ⟨fun hclaimed => h.claimed_notMem i hclaimed hmem, fun hpc => ?_⟩
  exact h.claimed_notMem i (by rw [hpc]; rfl) hmem

/-- The slot that the network thread has taken is nobody else's. -/
lemma notMem_of_claimed (h : Seated net exit) {i : ℕ} (hclaimed : i ∈ net.pc.claimed) :
    i ∉ net.slots ∧ (⟨i, false⟩ : Handler) ∉ net.handlers :=
  ⟨h.claimed_notMem i hclaimed, fun hmem =>
    h.claimed_notMem i hclaimed (List.mem_map_of_mem hmem)⟩

/-- Nor is a slot that is not active, while the network thread has the mutex. -/
lemma notMem_of_not_active (h : Seated net exit) {i : ℕ} (hfree : exit.holds = false)
    (hbusy : net.active i = false) : i ∉ net.slots := by
  intro hmem
  have hactive := (h.active_iff i).mpr (Or.inr ⟨hmem, ExitStage.ne_joining_of_not_holds hfree i⟩)
  rw [hbusy] at hactive
  cases hactive

/-- A slot that the main thread finds active has a handler. -/
lemma mem_slots_of_active (h : Seated net exit) {i : ℕ} (hpc : net.pc = .accepting)
    (hactive : net.active i = true) : i ∈ net.slots := by
  have hmem := (h.active_iff i).mp hactive
  rw [hpc] at hmem
  rcases hmem with hmem | hmem
  · cases hmem
  · exact hmem.1

/-- A handler among the others, which have other slots. -/
lemma exists_split (h : Seated net exit) {k i : ℕ} {closed : Bool}
    (hk : net.handlers[k]? = some ⟨i, closed⟩) :
    ∃ l₁ l₂, net.handlers = l₁ ++ ⟨i, closed⟩ :: l₂ ∧ k = l₁.length ∧
      net.slots = l₁.map Handler.slot ++ i :: l₂.map Handler.slot ∧
      i ∉ (l₁ ++ l₂).map Handler.slot ∧ ((l₁ ++ l₂).map Handler.slot).Nodup := by
  obtain ⟨l₁, l₂, hl, hlen⟩ := Slots.exists_split_of_getElem? hk
  have hslots : net.slots = l₁.map Handler.slot ++ i :: l₂.map Handler.slot := by
    rw [Network.slots, hl, List.map_append, List.map_cons]
  have hnodup := h.nodup
  rw [hslots, List.nodup_middle, List.nodup_cons, ← List.map_append] at hnodup
  exact ⟨l₁, l₂, hl, hlen.symm, hslots, hnodup.1, hnodup.2⟩

/-- **What a step about the slot `i` has to show** is about this slot only. -/
lemma touch (h : Seated net exit) {net' : Network} {exit' : ExitStage} {i : ℕ}
    (hslots : ∀ j, j ≠ i → (j ∈ net'.slots ↔ j ∈ net.slots))
    (hclaimed : ∀ j, j ≠ i → (j ∈ net'.pc.claimed ↔ j ∈ net.pc.claimed))
    (hactive : ∀ j, j ≠ i → net'.active j = net.active j)
    (hjoining : ∀ j, j ≠ i → (exit' = .joining j ↔ exit = .joining j))
    (hnodup : net'.slots.Nodup) (hnotMem : i ∈ net'.pc.claimed → i ∉ net'.slots)
    (hself : net'.active i = true ↔
      i ∈ net'.pc.claimed ∨ (i ∈ net'.slots ∧ exit' ≠ .joining i))
    (hexclusive : exit'.holds = true → net'.pc = .accepting) : Seated net' exit' where
  nodup := hnodup
  claimed_notMem j hj := by
    by_cases hji : j = i
    · exact hji ▸ hnotMem (hji ▸ hj)
    · rw [hslots j hji]
      exact h.claimed_notMem j ((hclaimed j hji).mp hj)
  active_iff j := by
    by_cases hji : j = i
    · exact hji ▸ hself
    · rw [hactive j hji, h.active_iff j, hclaimed j hji, hslots j hji]
      exact or_congr_right (and_congr_right fun _ => (hjoining j hji).not.symm)
  exclusive := hexclusive

/-- The network thread moves on, with the slot that it had. -/
lemma move (h : Seated net exit) {pc : NetworkPc} {count : ℤ} (hfree : exit.holds = false)
    (hclaimed : pc.claimed = net.pc.claimed) :
    Seated { net with pc := pc, clientCount := count } exit where
  nodup := h.nodup
  claimed_notMem i hi := h.claimed_notMem i (hclaimed ▸ hi)
  active_iff i := by
    simp only [hclaimed]
    exact h.active_iff i
  exclusive hexit := by
    rw [hfree] at hexit
    cases hexit

/-- It takes a free slot. -/
lemma claim (h : Seated net exit) {c : ℤ} {i : ℕ} (hpc : net.pc = .searching c i)
    (hi : (i : ℤ) < net.maxClients) (hbusy : net.active i = false) :
    Seated { net.updClient i fun _ => { socketFd := c, active := true } with pc := .creating i }
      exit := by
  have hfree := h.not_holds (by simp [hpc])
  refine h.touch (i := i) (fun _ _ => Iff.rfl) (fun j hj => ?_)
    (fun j hj => Network.active_updClient_ne (Ne.symm hj) _) (fun _ _ => Iff.rfl) h.nodup
    (fun _ => h.notMem_of_not_active hfree hbusy) ?_ fun hexit => ?_
  · simp [NetworkPc.claimed, hpc, Ne.symm hj]
  · exact iff_of_true (Network.active_updClient_eq hi fun _ => rfl) (Or.inl rfl)
  · rw [hfree] at hexit
    cases hexit

/-- The slot gets its handler. -/
lemma created (h : Seated net exit) {i : ℕ} (hpc : net.pc = .creating i) :
    Seated { net with handlers := net.handlers ++ [⟨i, false⟩], pc := .counting } exit := by
  have hfree := h.not_holds (by simp [hpc])
  have hclaimed : i ∈ net.pc.claimed := by rw [hpc]; rfl
  have hslots : Network.slots { net with
      handlers := net.handlers ++ [⟨i, false⟩], pc := .counting } = net.slots ++ [i] :=
    List.map_append ..
  refine h.touch (i := i) (fun j hj => ?_) (fun j hj => ?_) (fun _ _ => rfl) (fun _ _ => Iff.rfl)
    ?_ (by simp [NetworkPc.claimed]) ?_ fun hexit => ?_
  · rw [hslots, List.mem_append, List.mem_singleton]
    exact or_iff_left hj
  · simp [NetworkPc.claimed, hpc, Ne.symm hj]
  · rw [hslots, List.nodup_append]
    refine ⟨h.nodup, List.nodup_singleton i, fun j hj k hk hjk => ?_⟩
    obtain rfl : k = i := List.mem_singleton.mp hk
    exact h.claimed_notMem k hclaimed (hjk ▸ hj)
  · refine iff_of_true ((h.active_iff i).mpr (Or.inl hclaimed)) (Or.inr ⟨?_, ?_⟩)
    · rw [hslots]
      simp
    · exact ExitStage.ne_joining_of_not_holds hfree i
  · rw [hfree] at hexit
    cases hexit

/-- The slot is given back. -/
lemma undone (h : Seated net exit) {i : ℕ} (hpc : net.pc = .undoing i) :
    Seated { net.updClient i fun c => { c with active := false } with pc := .accepting } exit := by
  have hnotMem : i ∉ net.slots := h.claimed_notMem i (by rw [hpc]; rfl)
  refine h.touch (i := i) (fun _ _ => Iff.rfl) (fun j hj => ?_)
    (fun j hj => Network.active_updClient_ne (Ne.symm hj) _) (fun _ _ => Iff.rfl) h.nodup
    (fun _ => hnotMem) ?_ fun _ => rfl
  · simp [NetworkPc.claimed, hpc, Ne.symm hj]
  · have hclear : Network.active { net.updClient i fun c => { c with active := false } with
        pc := .accepting } i = false := Network.active_clear i
    rw [hclear]
    have hnone : i ∉ NetworkPc.accepting.claimed := by simp [NetworkPc.claimed]
    exact iff_of_false (by simp) (not_or.mpr ⟨hnone, fun hmem => hnotMem hmem.1⟩)

/-- **A step of the network thread.** -/
lemma networkStep (h : Seated net exit) (ok : Bool) : Seated (net.networkStep ok) exit := by
  unfold Network.networkStep
  cases hpc : net.pc with
  | accepting => exact h
  | searching c i =>
      simp only
      split_ifs with hi hbusy
      · exact h.move (h.not_holds (by simp [hpc])) (by simp [hpc, NetworkPc.claimed])
      · exact h.claim hpc hi (Bool.eq_false_iff.mpr hbusy)
      · exact h.move (h.not_holds (by simp [hpc])) (by simp [hpc, NetworkPc.claimed])
  | creating i =>
      simp only
      split_ifs
      · exact h.created hpc
      · exact h.move (h.not_holds (by simp [hpc])) (by simp [hpc, NetworkPc.claimed])
  | undoing i => exact h.undone hpc
  | counting => exact h.move (h.not_holds (by simp [hpc])) (by simp [hpc, NetworkPc.claimed])

/-- It takes the mutex. -/
lemma acceptStep (h : Seated net exit) (c : ℤ) (hfree : exit.holds = false) :
    Seated (net.acceptStep c) exit := by
  unfold Network.acceptStep
  cases hpc : net.pc with
  | accepting => exact h.move hfree (by simp [hpc, NetworkPc.claimed])
  | _ => exact h

/-- A handler closes its socket. -/
lemma close (h : Seated net exit) {k i : ℕ} (hk : net.handlers[k]? = some ⟨i, false⟩) :
    Seated { net with handlers := net.handlers.set k ⟨i, true⟩ } exit := by
  obtain ⟨l₁, l₂, hl, rfl, hslots, -⟩ := h.exists_split hk
  have hsame : Network.slots { net with handlers := net.handlers.set l₁.length ⟨i, true⟩ } =
      net.slots := by
    rw [hslots, Network.slots]
    simp [hl]
  refine ⟨hsame ▸ h.nodup, fun j hj => hsame ▸ h.claimed_notMem j hj, fun j => ?_, h.exclusive⟩
  rw [hsame]
  exact h.active_iff j

/-- It clears its flag and ends. -/
lemma gone (h : Seated net exit) {k i : ℕ} (hk : net.handlers[k]? = some ⟨i, true⟩) :
    Seated { net.updClient i fun c => { c with active := false } with
      handlers := net.handlers.eraseIdx k } exit := by
  obtain ⟨l₁, l₂, hl, rfl, hslots, hnotMem, hnodup⟩ := h.exists_split hk
  have hclaimed : i ∉ net.pc.claimed := (h.notMem_claimed (by simp [hslots])).1
  have hrest : Network.slots { net.updClient i fun c => { c with active := false } with
      handlers := net.handlers.eraseIdx l₁.length } = (l₁ ++ l₂).map Handler.slot := by
    rw [Network.slots, hl]
    simp [List.eraseIdx_append_of_length_le]
  have hclear : Network.active { net.updClient i fun c => { c with active := false } with
      handlers := net.handlers.eraseIdx l₁.length } i = false := Network.active_clear i
  refine h.touch (i := i) (fun j hj => ?_) (fun _ _ => Iff.rfl)
    (fun j hj => Network.active_updClient_ne (Ne.symm hj) _) (fun _ _ => Iff.rfl)
    (hrest ▸ hnodup) (fun hmem => absurd hmem hclaimed) ?_ h.exclusive
  · rw [hrest, hslots]
    simp [hj]
  · rw [hclear, hrest]
    exact iff_of_false (by simp) (not_or.mpr ⟨hclaimed, fun hmem => hnotMem hmem.1⟩)

/-- **A step of a handler.** -/
lemma handlerStep (h : Seated net exit) (k : ℕ) : Seated (net.handlerStep k).1 exit := by
  unfold Network.handlerStep
  cases hk : net.handlers[k]? with
  | none => exact h
  | some handler =>
      obtain ⟨i, closed⟩ := handler
      cases closed with
      | false => exact h.close hk
      | true => exact h.gone hk

/-- The main thread goes on; the handler that it has waited for is gone. -/
lemma exits (h : Seated net exit) {exit' : ExitStage}
    (hjoining : ∀ i ∈ net.slots, exit' = .joining i ↔ exit = .joining i)
    (hexclusive : exit'.holds = true → net.pc = .accepting) : Seated net exit' where
  nodup := h.nodup
  claimed_notMem := h.claimed_notMem
  active_iff i := by
    rw [h.active_iff i]
    exact or_congr_right (and_congr_right fun hmem => (hjoining i hmem).not.symm)
  exclusive := hexclusive

/-- It clears a flag. -/
lemma clear (h : Seated net exit) {i : ℕ} (hexit : exit = .clearing i) :
    Seated (net.updClient i fun c => { c with active := false }) (.joining i) := by
  have hpc : net.pc = .accepting := h.exclusive (by rw [hexit]; rfl)
  have hclaimed : i ∉ net.pc.claimed := by simp [hpc, NetworkPc.claimed]
  refine h.touch (i := i) (fun _ _ => Iff.rfl) (fun _ _ => Iff.rfl)
    (fun j hj => Network.active_updClient_ne (Ne.symm hj) _) (fun j hj => ?_) h.nodup
    (fun hmem => absurd hmem hclaimed) ?_ fun _ => hpc
  · simp [hexit, Ne.symm hj]
  · rw [Network.active_clear]
    exact iff_of_false (by simp) (not_or.mpr ⟨hclaimed, fun hmem => hmem.2 rfl⟩)

/-- **A step of the main thread.** -/
lemma mainStep {s : Connections} (h : Seated s.net s.exit) :
    Seated s.mainStep.1.net s.mainStep.1.exit := by
  unfold Connections.mainStep
  cases hexit : s.exit with
  | looping =>
      simp only
      split_ifs
      · exact h
      · exact h.exits (by simp [hexit]) (by simp [ExitStage.holds])
  | closing => exact h.exits (by simp [hexit]) (by simp [ExitStage.holds])
  | locking =>
      simp only
      split_ifs with hpc
      · exact h.exits (by simp [hexit]) fun _ => hpc
      · exact h
  | visiting i =>
      have hpc : s.net.pc = .accepting := h.exclusive (by rw [hexit]; rfl)
      simp only
      split_ifs <;> exact h.exits (by simp [hexit]) fun _ => hpc
  | shutting i => exact h.exits (by simp [hexit]) fun _ => h.exclusive (by rw [hexit]; rfl)
  | clearing i => exact h.clear hexit
  | joining i =>
      simp only
      split_ifs with hmem
      · exact h
      · refine h.exits (fun j hj => ?_) fun _ => h.exclusive (by rw [hexit]; rfl)
        have hij : i ≠ j := fun hij => hmem (hij ▸ hj)
        simp [hexit, hij]
  | unlocking => exact h.exits (by simp [hexit]) (by simp [ExitStage.holds])
  | done => exact h

/-- **Every step**, a late one too, keeps the handlers in slots of their own. -/
lemma step {s : Connections} (h : Seated s.net s.exit) (e : ConnectionEvent) :
    Seated (connections.step s e).1.net (connections.step s e).1.exit := by
  cases e with
  | accept c => simp only [connections]; split_ifs <;> exact h
  | acceptFails => simp only [connections]; split_ifs <;> exact h
  | network ok =>
      simp only [connections, Connections.networkStep]
      cases s.stage with
      | locking c serial =>
          simp only
          split_ifs with hholds
          · exact h
          · exact h.acceptStep c (Bool.eq_false_iff.mpr hholds)
      | inside serial =>
          have hnext := h.networkStep ok
          simp only
          split
          · split_ifs <;> exact hnext
          · split_ifs <;> exact hnext
          · exact hnext
      | _ => exact h
  | use k => exact h
  | handler k =>
      simp only [connections, Connections.handlerStep]
      split <;> exact h.handlerStep k
  | main => exact h.mainStep
  | signal => exact h

end Seated

/-! ## Who holds what -/

/-- Who may hold a descriptor: the main thread, the network thread, or the handler of a slot, for
which the network thread stands in until it has made one. -/
inductive Holder
  | main
  | network
  | slot (i : ℕ)

namespace Connections

/-- The socket in the slot `i` is to be closed by its handler yet. -/
def Holds (s : Connections) (i : ℕ) : Prop :=
  s.net.pc = .creating i ∨ (⟨i, false⟩ ∈ s.net.handlers ∧ s.exit.visited ≠ some i)

instance (s : Connections) (i : ℕ) : Decidable (s.Holds i) := inferInstanceAs (Decidable (_ ∨ _))

/-- The socket that the network thread has not put into a slot. -/
def pending (s : Connections) : Option (ℕ × Sock) :=
  match s.stage with
  | .locking clientSocket serial => some (clientSocket, .connection serial)
  | .inside serial =>
      match s.net.pc with
      | .searching clientSocket _ => some (clientSocket.toNat, .connection serial)
      | _ => none
  | _ => none

/-- Who holds which descriptor, and what for. -/
def file (s : Connections) : Holder → Option (ℕ × Sock)
  | .main => if s.exit.serverClosed then none else some (s.serverSocket, .listening)
  | .network => s.pending
  | .slot i => if s.Holds i then some (s.net.socketFd i, .connection (s.serial i)) else none

/-- A connection that has been accepted before the next. -/
def Serials (s : Connections) : Prop :=
  match s.stage with
  | .locking _ serial | .inside serial => serial < s.count
  | _ => True

/-- Every descriptor is with one who still needs it, and a number that a handler has let go does not
stand for its connection any more. -/
structure Held (s : Connections) : Prop extends Seated s.net s.exit where
  files : Owned s.file s.files
  inside_iff : (∃ serial, s.stage = .inside serial) ↔ s.net.pc ≠ .accepting
  serials : s.Serials
  serial_lt : ∀ i, (i ∈ s.net.slots ∨ i ∈ s.net.pc.claimed ∨ s.exit = .shutting i) →
    s.serial i < s.count
  let_go : ∀ i, (i ∈ s.net.slots ∨ s.exit = .shutting i) → ¬ s.Holds i →
    s.files (s.net.socketFd i) ≠ some (.connection (s.serial i))
  server : s.exit.serverClosed = true → s.files s.serverSocket ≠ some .listening

end Connections

/-- A socket is used or closed by one who does not hold it. -/
inductive Late (s : Connections) : ConnectionEvent → Prop
  /-- The network thread calls `accept` behind the `close` of `cleanup_on_exit`. -/
  | accept {ok : Bool} (hstage : s.stage = .calling) (hexit : s.exit.serverClosed = true) :
      Late s (.network ok)
  /-- A handler uses the socket that `cleanup_on_exit` has closed. -/
  | use {k i : ℕ} (hk : s.net.handlers[k]? = some ⟨i, false⟩) (hexit : s.exit.visited = some i) :
      Late s (.use k)
  /-- A handler closes it again. -/
  | close {k i : ℕ} (hk : s.net.handlers[k]? = some ⟨i, false⟩) (hexit : s.exit.visited = some i) :
      Late s (.handler k)
  /-- `cleanup_on_exit` closes the socket that the handler has closed. -/
  | again {i : ℕ} (hexit : s.exit = .shutting i) (hholds : ¬ s.Holds i) : Late s .main

namespace Connections

variable {s : Connections}

/-- What a slot holds is told by its handler, its number and its connection. -/
lemma file_slot_congr {s' : Connections} {i : ℕ} (hholds : s'.Holds i ↔ s.Holds i)
    (hfd : s'.net.socketFd i = s.net.socketFd i) (hserial : s'.serial i = s.serial i) :
    s'.file (.slot i) = s.file (.slot i) := by
  simp only [file, hholds, hfd, hserial]

/-- The network thread or the flag moves on, and nothing else. -/
lemma Held.restage (h : s.Held) {stage : NetworkStage} {running : Bool}
    (hnew : ∀ serial, stage ≠ .inside serial) (hold : ∀ serial, s.stage ≠ .inside serial)
    (hpending : ({ s with stage := stage, running := running } : Connections).pending = s.pending)
    (hserials : ({ s with stage := stage, running := running } : Connections).Serials) :
    ({ s with stage := stage, running := running } : Connections).Held where
  files := by
    refine h.files.congr fun i => ?_
    cases i with
    | network => exact hpending
    | _ => rfl
  toSeated := h.toSeated
  inside_iff := by
    refine (iff_of_false ?_ ?_).trans h.inside_iff
    · rintro ⟨serial, hserial⟩
      exact hnew serial hserial
    · rintro ⟨serial, hserial⟩
      exact hold serial hserial
  serials := hserials
  serial_lt := h.serial_lt
  let_go := h.let_go
  server := h.server

/-- `accept` returns. -/
lemma Held.accept (h : s.Held) {n : ℕ} (hstage : s.stage = .accepting) (hfree : s.files n = none) :
    ({ s with stage := .locking n s.count, files := s.files.opened n (.connection s.count),
              count := s.count + 1 } : Connections).Held where
  files := by
    refine h.files.opened (i := .network) hfree ?_ rfl fun i hi => ?_
    · simp only [file, pending, hstage]
    · cases i with
      | network => exact absurd rfl hi
      | _ => rfl
  toSeated := h.toSeated
  inside_iff := by
    refine (iff_of_false ?_ ?_).trans h.inside_iff
    · simp
    · simp [hstage]
  serials := Nat.lt_succ_self _
  serial_lt i hi := Nat.lt_succ_of_lt (h.serial_lt i hi)
  let_go i hi hholds := by
    have hlt : s.serial i < s.count := h.serial_lt i (hi.imp_right Or.inr)
    refine Issued.opened_ne_some (h.let_go i hi hholds) fun heq => ?_
    have hserial : s.count = s.serial i := Sock.connection.inj heq
    omega
  server hexit := Issued.opened_ne_some (h.server hexit) (by simp)

/-- A step that is about the slot `i`, or about none: the other slots, their handlers and their
descriptors are what they were. -/
structure Touches (s s' : Connections) (i : ℕ) : Prop where
  count_eq : s'.count = s.count
  serverSocket_eq : s'.serverSocket = s.serverSocket
  serverClosed_eq : s'.exit.serverClosed = s.exit.serverClosed
  files_ne : ∀ {m k}, s.files m ≠ some k → s'.files m ≠ some k
  slots_iff : ∀ {j}, j ≠ i → (j ∈ s'.net.slots ↔ j ∈ s.net.slots)
  claimed_iff : ∀ {j}, j ≠ i → (j ∈ s'.net.pc.claimed ↔ j ∈ s.net.pc.claimed)
  socketFd_eq : ∀ {j}, j ≠ i → s'.net.socketFd j = s.net.socketFd j
  serial_eq : ∀ {j}, j ≠ i → s'.serial j = s.serial j
  shutting_iff : ∀ {j}, j ≠ i → (s'.exit = .shutting j ↔ s.exit = .shutting j)
  holds_iff : ∀ {j}, j ≠ i → (s'.Holds j ↔ s.Holds j)

/-- The others hold what they held. -/
lemma Touches.file_eq {s' : Connections} {i : ℕ} (t : s.Touches s' i) {l : Holder}
    (hl : l ≠ .network) (hl' : l ≠ .slot i) : s'.file l = s.file l := by
  cases l with
  | main => simp only [file, t.serverClosed_eq, t.serverSocket_eq]
  | network => exact absurd rfl hl
  | slot j =>
      have hj : j ≠ i := fun heq => hl' (by rw [heq])
      exact file_slot_congr (t.holds_iff hj) (t.socketFd_eq hj) (t.serial_eq hj)

/-- **What such a step has to show** is about the slot `i` only. -/
lemma Held.touch (h : s.Held) {s' : Connections} {i : ℕ} (t : s.Touches s' i)
    (hseated : Seated s'.net s'.exit) (hfiles : Owned s'.file s'.files)
    (hinside : (∃ serial, s'.stage = .inside serial) ↔ s'.net.pc ≠ .accepting)
    (hserials : s'.Serials)
    (hserial : i ∈ s'.net.slots ∨ i ∈ s'.net.pc.claimed ∨ s'.exit = .shutting i →
      s'.serial i < s.count)
    (hlet_go : i ∈ s'.net.slots ∨ s'.exit = .shutting i → ¬ s'.Holds i →
      s'.files (s'.net.socketFd i) ≠ some (.connection (s'.serial i))) : s'.Held where
  toSeated := hseated
  files := hfiles
  inside_iff := hinside
  serials := hserials
  serial_lt j hj := by
    rw [t.count_eq]
    by_cases hji : j = i
    · exact hji ▸ hserial (hji ▸ hj)
    · rw [t.slots_iff hji, t.claimed_iff hji, t.shutting_iff hji] at hj
      exact (t.serial_eq hji).symm ▸ h.serial_lt j hj
  let_go j hj hholds := by
    by_cases hji : j = i
    · subst hji
      exact hlet_go hj hholds
    · rw [t.slots_iff hji, t.shutting_iff hji] at hj
      rw [t.socketFd_eq hji, t.serial_eq hji]
      exact t.files_ne (h.let_go j hj fun hold => hholds ((t.holds_iff hji).mpr hold))
  server hclosed := by
    rw [t.serverSocket_eq]
    exact t.files_ne (h.server (t.serverClosed_eq ▸ hclosed))

/-- A step that is about no slot. -/
lemma Held.pass (h : s.Held) {s' : Connections} (t : ∀ i, s.Touches s' i)
    (hseated : Seated s'.net s'.exit) (hfiles : Owned s'.file s'.files)
    (hinside : (∃ serial, s'.stage = .inside serial) ↔ s'.net.pc ≠ .accepting)
    (hserials : s'.Serials) : s'.Held := by
  -- what happens to the slot 0 is what happens beside the slot 1
  have hne : (0 : ℕ) ≠ 1 := by decide
  have hslots := (t 1).slots_iff hne
  have hclaimed := (t 1).claimed_iff hne
  have hshutting := (t 1).shutting_iff hne
  refine h.touch (t 0) hseated hfiles hinside hserials ?_ ?_
  · rw [hslots, hclaimed, hshutting, (t 1).serial_eq hne]
    exact h.serial_lt 0
  · rw [hslots, hshutting, (t 1).holds_iff hne, (t 1).socketFd_eq hne, (t 1).serial_eq hne]
    exact fun hmem hholds => (t 1).files_ne (h.let_go 0 hmem hholds)

/-- The network thread takes the mutex. -/
lemma Held.lock (h : s.Held) {n serial : ℕ} (hstage : s.stage = .locking n serial)
    (hfree : s.exit.holds = false) :
    ({ s with net := s.net.acceptStep n, stage := .inside serial } : Connections).Held := by
  have hpc : s.net.pc = .accepting := by
    by_contra hne
    obtain ⟨k, hk⟩ := h.inside_iff.mpr hne
    rw [hstage] at hk
    cases hk
  have hserials := h.serials
  rw [Serials, hstage] at hserials
  have hseated := h.toSeated.acceptStep n hfree
  simp only [Network.acceptStep, hpc] at hseated ⊢
  refine h.pass (fun i => ⟨rfl, rfl, rfl, id, fun _ => Iff.rfl, fun _ => ?_, fun _ => rfl,
    fun _ => rfl, fun _ => Iff.rfl, fun _ => ?_⟩) hseated (h.files.congr fun l => ?_) (by simp)
    hserials
  · simp [NetworkPc.claimed, hpc]
  · simp [Holds, hpc]
  · cases l with
    | main => rfl
    | network => simp [file, pending, hstage]
    | slot i => exact file_slot_congr (by simp [Holds, hpc]) rfl rfl

/-- It goes on where the slots and the descriptors are what they were. -/
lemma Held.advance (h : s.Held) {pc : NetworkPc} {stage : NetworkStage} {count : ℤ}
    (hpc : s.net.pc ≠ .accepting) (hclaimed : pc.claimed = s.net.pc.claimed)
    (hcreating : ∀ i, pc = .creating i ↔ s.net.pc = .creating i)
    (hpending : ({ s with net := { s.net with pc := pc, clientCount := count },
                          stage := stage } : Connections).pending = s.pending)
    (hinside : (∃ serial, stage = .inside serial) ↔ pc ≠ .accepting)
    (hserials : ({ s with stage := stage } : Connections).Serials) :
    ({ s with net := { s.net with pc := pc, clientCount := count },
              stage := stage } : Connections).Held := by
  refine h.pass (fun i => ⟨rfl, rfl, rfl, id, fun _ => Iff.rfl, fun _ => ?_, fun _ => rfl,
    fun _ => rfl, fun _ => Iff.rfl, fun _ => ?_⟩) (h.toSeated.move (h.not_holds hpc) hclaimed)
    (h.files.congr fun l => ?_) hinside hserials
  · simp only [hclaimed]
  · simp only [Holds, hcreating]
  · cases l with
    | main => rfl
    | network => exact hpending
    | slot i => exact file_slot_congr (by simp only [Holds, hcreating]) rfl rfl

/-- It turns a client away. -/
lemma Held.reject (h : s.Held) {c : ℤ} {i serial : ℕ} (hpc : s.net.pc = .searching c i)
    (hstage : s.stage = .inside serial) :
    ({ s with net := { s.net with pc := .accepting }, stage := .testing,
              files := s.files.closed c.toNat } : Connections).Held := by
  have hfile : s.file .network = some (c.toNat, .connection serial) := by
    simp [file, pending, hstage, hpc]
  have t (j : ℕ) : s.Touches { s with net := { s.net with pc := .accepting }, stage := .testing,
                                      files := s.files.closed c.toNat } j := by
    refine ⟨rfl, rfl, rfl, Issued.closed_ne_some, fun _ => Iff.rfl, fun _ => ?_, fun _ => rfl,
      fun _ => rfl, fun _ => Iff.rfl, fun _ => ?_⟩
    · simp [NetworkPc.claimed, hpc]
    · simp [Holds, hpc]
  have hseated : Seated { s.net with pc := .accepting } s.exit :=
    h.toSeated.move (h.not_holds (by simp [hpc])) (by simp [hpc, NetworkPc.claimed])
  refine h.pass t hseated (h.files.closed hfile rfl fun l hl => ?_) (by simp) trivial
  cases l with
  | main => rfl
  | network => exact absurd rfl hl
  | slot j => exact file_slot_congr (by simp [Holds, hpc]) rfl rfl

/-- It puts the socket into a free slot. -/
lemma Held.claim (h : s.Held) {c : ℤ} {i serial : ℕ} (hpc : s.net.pc = .searching c i)
    (hstage : s.stage = .inside serial) (hi : (i : ℤ) < s.net.maxClients)
    (hbusy : s.net.active i = false) {s' : Connections}
    (hs' : s' = { s with
      net := { s.net.updClient i fun _ => { socketFd := c, active := true } with pc := .creating i }
      serial := Function.update s.serial i serial }) : s'.Held := by
  have hserials := h.serials
  rw [Serials, hstage] at hserials
  -- the slot is nobody's
  have hopen : (⟨i, false⟩ : Handler) ∉ s.net.handlers := fun hmem =>
    h.notMem_of_not_active (h.not_holds (by simp [hpc])) hbusy (List.mem_map_of_mem hmem)
  have hpc' : s'.net.pc = .creating i := by rw [hs']
  have hfd : s'.net.socketFd i = c.toNat := by
    rw [hs']
    exact Network.socketFd_updClient_eq hi _
  have hserial : s'.serial i = serial := by
    rw [hs']
    exact Function.update_self ..
  have hstage' : s'.stage = .inside serial := by rw [hs']; exact hstage
  have hseated : Seated s'.net s'.exit := by
    subst hs'
    exact h.toSeated.claim hpc hi hbusy
  have t : s.Touches s' i := by
    subst hs'
    refine ⟨rfl, rfl, rfl, id, fun _ => Iff.rfl, fun {j} hj => ?_, fun {j} hj => ?_,
      fun {j} hj => ?_, fun _ => Iff.rfl, fun {j} hj => ?_⟩
    · simp [NetworkPc.claimed, hpc, Ne.symm hj]
    · exact Network.socketFd_updClient_ne (Ne.symm hj) _
    · exact Function.update_of_ne hj _ _
    · simp [Holds, hpc, Ne.symm hj, Network.updClient]
  refine h.touch t hseated ?_ ?_ ?_ ?_ ?_
  · rw [show s'.files = s.files by rw [hs']]
    refine h.files.moved (i := .network) (j := .slot i) (x := (c.toNat, .connection serial)) ?_ ?_
      ?_ ?_ fun l hl hl' => t.file_eq hl hl'
    · simp [file, pending, hstage, hpc]
    · simp [file, Holds, hpc, hopen]
    · simp [file, pending, hstage', hpc']
    · simp [file, Holds, hpc', hfd, hserial]
  · simp [hstage', hpc']
  · rw [Serials, hstage', t.count_eq]
    exact hserials
  · exact fun _ => hserial ▸ hserials
  · exact fun _ hholds => absurd (Or.inl hpc') hholds

/-- The slot gets its handler. -/
lemma Held.created (h : s.Held) {i : ℕ} (hpc : s.net.pc = .creating i) {s' : Connections}
    (hs' : s' = { s with
      net := { s.net with handlers := s.net.handlers ++ [⟨i, false⟩], pc := .counting } }) :
    s'.Held := by
  have hfree := h.not_holds (by simp [hpc])
  have hclaimed : i ∈ s.net.pc.claimed := by rw [hpc]; rfl
  have hslots : s'.net.slots = s.net.slots ++ [i] := by
    rw [hs']
    exact List.map_append ..
  have hinside : (∃ serial, s'.stage = .inside serial) ↔ s'.net.pc ≠ .accepting := by
    rw [hs']
    exact h.inside_iff.trans (by simp [hpc])
  have hholds (j : ℕ) : s'.Holds j ↔ s.Holds j := by
    subst hs'
    simp only [Holds, hpc, ExitStage.visited_of_not_holds hfree, List.mem_append,
      List.mem_singleton, Handler.mk.injEq]
    by_cases hj : j = i
    · simp [hj]
    · simp [hj, Ne.symm hj]
  have hseated : Seated s'.net s'.exit := by
    subst hs'
    exact h.toSeated.created hpc
  have t : s.Touches s' i := by
    refine ⟨by rw [hs'], by rw [hs'], by rw [hs'], by rw [hs']; exact id, fun {j} hj => ?_,
      fun {j} hj => ?_, fun _ => by rw [hs']; rfl, fun _ => by rw [hs'], fun _ => by rw [hs'],
      fun {j} _ => hholds j⟩
    · rw [hslots, List.mem_append, List.mem_singleton]
      exact or_iff_left hj
    · subst hs'
      simp [NetworkPc.claimed, hpc, Ne.symm hj]
  refine h.touch t hseated ?_ hinside ?_ ?_ ?_
  · rw [show s'.files = s.files by rw [hs']]
    refine h.files.congr fun l => ?_
    cases l with
    | main => exact t.file_eq (by simp) (by simp)
    | network =>
        subst hs'
        obtain ⟨serial, hstage⟩ := h.inside_iff.mpr (by simp [hpc])
        simp [file, pending, hstage, hpc]
    | slot j => exact file_slot_congr (hholds j) (by rw [hs']; rfl) (by rw [hs'])
  · have hserials := h.serials
    subst hs'
    exact hserials
  · rw [show s'.serial = s.serial by rw [hs']]
    exact fun _ => h.serial_lt i (Or.inr (Or.inl hclaimed))
  · exact fun _ hnot => absurd ((hholds i).mpr (Or.inl hpc)) hnot

/-- The slot gets none, and its socket is closed. -/
lemma Held.failed (h : s.Held) {i : ℕ} (hpc : s.net.pc = .creating i) {s' : Connections}
    (hs' : s' = { s with net := { s.net with pc := .undoing i },
                         files := s.files.closed (s.net.socketFd i) }) : s'.Held := by
  have hfree := h.not_holds (by simp [hpc])
  have hclaimed : i ∈ s.net.pc.claimed := by rw [hpc]; rfl
  obtain ⟨hnotMem, hopen⟩ := h.notMem_of_claimed hclaimed
  have hinside : (∃ serial, s'.stage = .inside serial) ↔ s'.net.pc ≠ .accepting := by
    rw [hs']
    exact h.inside_iff.trans (by simp [hpc])
  have hfile : s.file (.slot i) = some (s.net.socketFd i, .connection (s.serial i)) := by
    simp [file, Holds, hpc]
  have t : s.Touches s' i := by
    subst hs'
    refine ⟨rfl, rfl, rfl, Issued.closed_ne_some, fun _ => Iff.rfl, fun _ => ?_, fun _ => rfl,
      fun _ => rfl, fun _ => Iff.rfl, fun {j} hj => ?_⟩
    · simp [NetworkPc.claimed, hpc]
    · simp [Holds, hpc, Ne.symm hj]
  have hseated : Seated s'.net s'.exit := by
    subst hs'
    exact h.toSeated.move hfree (by simp [hpc, NetworkPc.claimed])
  subst hs'
  refine h.touch t hseated (h.files.closed hfile ?_ fun l hl => ?_) hinside h.serials
    (fun _ => h.serial_lt i (Or.inr (Or.inl hclaimed))) ?_
  · simp [file, Holds, hopen]
  · cases l with
    | network =>
        obtain ⟨serial, hstage⟩ := h.inside_iff.mpr (by simp [hpc])
        simp [file, pending, hstage, hpc]
    | _ => exact t.file_eq (by simp) hl
  · rintro (hmem | hshutting)
    · exact absurd hmem hnotMem
    · exact absurd hshutting (ExitStage.ne_shutting_of_not_holds hfree i)

/-- The slot is given back. -/
lemma Held.undone (h : s.Held) {i : ℕ} (hpc : s.net.pc = .undoing i) {s' : Connections}
    (hs' : s' = { s with
      net := { s.net.updClient i fun c => { c with active := false } with pc := .accepting }
      stage := .testing }) : s'.Held := by
  have hfree := h.not_holds (by simp [hpc])
  have hclaimed : i ∈ s.net.pc.claimed := by rw [hpc]; rfl
  have hnotMem : i ∉ s.net.slots := h.claimed_notMem i hclaimed
  have hexit : s'.exit = s.exit := by rw [hs']
  have hslots : s'.net.slots = s.net.slots := by rw [hs']; rfl
  have hnone : i ∉ s'.net.pc.claimed := by simp [hs', NetworkPc.claimed]
  have hseated : Seated s'.net s'.exit := by
    subst hs'
    exact h.toSeated.undone hpc
  have t : s.Touches s' i := by
    subst hs'
    refine ⟨rfl, rfl, rfl, id, fun _ => Iff.rfl, fun {j} hj => ?_, fun {j} _ => ?_, fun _ => rfl,
      fun _ => Iff.rfl, fun {j} hj => ?_⟩
    · simp [NetworkPc.claimed, hpc, Ne.symm hj]
    · exact Network.socketFd_clear i j
    · simp [Holds, hpc, Network.updClient]
  refine h.touch t hseated ?_ ?_ ?_ ?_ ?_
  · rw [show s'.files = s.files by rw [hs']]
    refine h.files.congr fun l => ?_
    cases l with
    | main => exact t.file_eq (by simp) (by simp)
    | network =>
        obtain ⟨serial, hstage⟩ := h.inside_iff.mpr (by simp [hpc])
        subst hs'
        simp [file, pending, hstage, hpc]
    | slot j =>
        refine file_slot_congr ?_ ?_ (by rw [hs']) <;> subst hs'
        · simp [Holds, hpc, Network.updClient]
        · exact Network.socketFd_clear i j
  · rw [hs']
    simp
  · rw [hs']
    trivial
  · rw [hslots, hexit]
    rintro (hmem | hmem | hshutting)
    · exact absurd hmem hnotMem
    · exact absurd hmem hnone
    · exact absurd hshutting (ExitStage.ne_shutting_of_not_holds hfree i)
  · rw [hslots, hexit]
    rintro (hmem | hshutting)
    · exact absurd hmem hnotMem
    · exact absurd hshutting (ExitStage.ne_shutting_of_not_holds hfree i)

/-- A handler closes its socket. -/
lemma Held.close (h : s.Held) {k i : ℕ} (hk : s.net.handlers[k]? = some ⟨i, false⟩)
    (hexit : s.exit.visited ≠ some i) {s' : Connections}
    (hs' : s' = { s with net := { s.net with handlers := s.net.handlers.set k ⟨i, true⟩ },
                         files := s.files.closed (s.net.socketFd i) }) :
    s'.Held ∧ (s.slotAccess i).Right := by
  have hseated : Seated s'.net s'.exit := by
    subst hs'
    exact h.toSeated.close hk
  obtain ⟨l₁, l₂, hl, rfl, hslots, hnotMem, -⟩ := h.exists_split hk
  have hmem : i ∈ s.net.slots := by simp [hslots]
  have hopen : (⟨i, false⟩ : Handler) ∈ s.net.handlers := List.mem_of_getElem? hk
  have hcreating : s.net.pc ≠ .creating i := (h.notMem_claimed hmem).2
  have hfile : s.file (.slot i) = some (s.net.socketFd i, .connection (s.serial i)) := by
    simp [file, Holds, hopen, hexit]
  have hhandlers : s'.net.handlers = l₁ ++ ⟨i, true⟩ :: l₂ := by
    rw [hs', hl]
    simp
  have hslots' : s'.net.slots = s.net.slots := by
    rw [Network.slots, hhandlers, hslots, List.map_append, List.map_cons]
  have hgone : ¬ s'.Holds i := by
    have hothers : (⟨i, false⟩ : Handler) ∉ l₁ ++ l₂ := fun hmem' =>
      hnotMem (List.mem_map_of_mem hmem')
    rw [List.mem_append, not_or] at hothers
    rw [Holds, hhandlers, show s'.net.pc = s.net.pc by rw [hs']]
    simp [hcreating, hothers.1, hothers.2]
  have t : s.Touches s' i := by
    refine ⟨by rw [hs'], by rw [hs'], by rw [hs'], by rw [hs']; exact Issued.closed_ne_some,
      fun _ => by rw [hslots'], fun _ => by rw [hs'], fun _ => by rw [hs']; rfl,
      fun _ => by rw [hs'], fun _ => by rw [hs'], fun {j} hj => ?_⟩
    rw [Holds, Holds, hhandlers, hl, show s'.net.pc = s.net.pc by rw [hs'],
      show s'.exit = s.exit by rw [hs']]
    simp [hj]
  refine ⟨h.touch t hseated ?_ ?_ ?_ ?_ ?_, h.files.holds hfile⟩
  · rw [show s'.files = s.files.closed (s.net.socketFd i) by rw [hs']]
    refine h.files.closed hfile (by simp [file, hgone]) fun l hl => ?_
    cases l with
    | network => rw [hs']; rfl
    | _ => exact t.file_eq (by simp) hl
  · subst hs'
    exact h.inside_iff
  · subst hs'
    exact h.serials
  · rw [show s'.serial = s.serial by rw [hs']]
    exact fun _ => h.serial_lt i (Or.inl hmem)
  · rw [show s'.files = s.files.closed (s.net.socketFd i) by rw [hs'],
      show s'.net.socketFd i = s.net.socketFd i by rw [hs']; rfl, Issued.closed_self]
    exact fun _ _ => by simp

/-- A handler clears its flag and ends. -/
lemma Held.gone (h : s.Held) {k i : ℕ} (hk : s.net.handlers[k]? = some ⟨i, true⟩)
    {s' : Connections}
    (hs' : s' = { s with
      net := { s.net.updClient i fun c => { c with active := false } with
        handlers := s.net.handlers.eraseIdx k } }) : s'.Held := by
  have hseated : Seated s'.net s'.exit := by
    subst hs'
    exact h.toSeated.gone hk
  obtain ⟨l₁, l₂, hl, rfl, hslots, hnotMem, -⟩ := h.exists_split hk
  have hmem : i ∈ s.net.slots := by simp [hslots]
  have hhandlers : s'.net.handlers = l₁ ++ l₂ := by
    rw [hs', hl]
    simp [List.eraseIdx_append_of_length_le]
  have hslots' : s'.net.slots = (l₁ ++ l₂).map Handler.slot := by rw [Network.slots, hhandlers]
  have hpc : s'.net.pc = s.net.pc := by rw [hs']; rfl
  have hexit : s'.exit = s.exit := by rw [hs']
  have hfd (j : ℕ) : s'.net.socketFd j = s.net.socketFd j := by
    rw [hs']
    exact Network.socketFd_clear i j
  -- what a handler has let go before it ends it has let go afterwards
  have hholds (j : ℕ) : s'.Holds j ↔ s.Holds j := by
    rw [Holds, Holds, hhandlers, hl, hpc, hexit]
    simp
  have t : s.Touches s' i := by
    refine ⟨by rw [hs'], by rw [hs'], by rw [hs'], by rw [hs']; exact id, fun {j} hj => ?_,
      fun _ => by rw [hpc], fun {j} _ => hfd j, fun _ => by rw [hs'], fun _ => by rw [hs'],
      fun {j} _ => hholds j⟩
    rw [hslots', hslots]
    simp [hj]
  have hfiles : s'.files = s.files := by rw [hs']
  have hserial : s'.serial = s.serial := by rw [hs']
  refine h.touch t hseated ?_ ?_ ?_ ?_ ?_
  · rw [hfiles]
    refine h.files.congr fun l => ?_
    cases l with
    | main => exact t.file_eq (by simp) (by simp)
    | network => simp only [file, pending, hpc, show s'.stage = s.stage by rw [hs']]
    | slot j => exact file_slot_congr (hholds j) (hfd j) (by rw [hs'])
  · rw [hpc, show s'.stage = s.stage by rw [hs']]
    exact h.inside_iff
  · have hserials := h.serials
    subst hs'
    exact hserials
  · rw [hserial]
    exact fun _ => h.serial_lt i (Or.inl hmem)
  · rw [hfiles, hserial, hfd, hholds]
    exact fun _ hnot => h.let_go i (Or.inl hmem) hnot

/-- The main thread goes on where neither the slots nor the descriptors change. -/
lemma Held.exits (h : s.Held) {exit : ExitStage}
    (hclosed : exit.serverClosed = s.exit.serverClosed) (hvisited : exit.visited = none)
    (hvisited' : ∀ i, s.exit.visited = some i → i ∉ s.net.slots)
    (hshutting : ∀ i, exit = .shutting i → s.net.pc = .accepting ∧ s.net.active i = true)
    (hexclusive : exit.holds = true → s.net.pc = .accepting) :
    ({ s with exit := exit } : Connections).Held := by
  have hholds (i : ℕ) : ({ s with exit := exit } : Connections).Holds i ↔ s.Holds i := by
    refine or_congr_right (and_congr_right fun hopen => ?_)
    refine iff_of_true (by simp [hvisited]) fun hi => hvisited' i hi (List.mem_map_of_mem hopen)
  have hslots (i : ℕ) (hi : exit = .shutting i) : i ∈ s.net.slots :=
    h.mem_slots_of_active (hshutting i hi).1 (hshutting i hi).2
  have hjoining : ∀ i ∈ s.net.slots, exit = .joining i ↔ s.exit = .joining i := by
    refine fun i hmem => iff_of_false ?_ fun hexit => hvisited' i (by rw [hexit]; rfl) hmem
    rintro rfl
    cases hvisited
  refine ⟨h.toSeated.exits hjoining hexclusive, h.files.congr fun l => ?_, h.inside_iff, h.serials,
    fun i hi => ?_, fun i hi hnot => ?_, fun hserver => h.server (hclosed ▸ hserver)⟩
  · cases l with
    | main => simp only [file, hclosed]
    | network => rfl
    | slot i => exact file_slot_congr (hholds i) rfl rfl
  · exact h.serial_lt i (hi.elim Or.inl fun hi => hi.elim (Or.inr ∘ Or.inl) (Or.inl ∘ hslots i))
  · exact h.let_go i (Or.inl (hi.elim id (hslots i))) fun hold => hnot ((hholds i).mpr hold)

/-- `cleanup_on_exit` closes the socket of a client. -/
lemma Held.shut (h : s.Held) {i : ℕ} (hexit : s.exit = .shutting i) (hholds : s.Holds i)
    {s' : Connections}
    (hs' : s' = { s with files := s.files.closed (s.net.socketFd i), exit := .clearing i }) :
    s'.Held ∧ (s.slotAccess i).Right := by
  have hpc : s.net.pc = .accepting := h.exclusive (by rw [hexit]; rfl)
  have hopen : (⟨i, false⟩ : Handler) ∈ s.net.handlers := by
    rcases hholds with hcreating | hopen
    · rw [hpc] at hcreating
      cases hcreating
    · exact hopen.1
  have hmem : i ∈ s.net.slots := List.mem_map_of_mem hopen
  have hfile : s.file (.slot i) = some (s.net.socketFd i, .connection (s.serial i)) := by
    simp only [file, if_pos hholds]
  have t : s.Touches s' i := by
    subst hs'
    refine ⟨rfl, rfl, by rw [hexit]; rfl, Issued.closed_ne_some, fun _ => Iff.rfl,
      fun _ => Iff.rfl, fun _ => rfl, fun _ => rfl, fun hj => by simp [hexit, Ne.symm hj],
      fun {j} hj => ?_⟩
    simp [Holds, hpc, hexit, ExitStage.visited, Ne.symm hj]
  have hgone : ¬ s'.Holds i := by
    subst hs'
    simp [Holds, hpc, ExitStage.visited]
  have hseated : Seated s'.net s'.exit := by
    subst hs'
    exact h.toSeated.exits (by simp [hexit]) fun _ => hpc
  refine ⟨?_, h.files.holds hfile⟩
  subst hs'
  refine h.touch t hseated (h.files.closed hfile ?_ fun l hl => ?_) h.inside_iff h.serials
    (fun _ => h.serial_lt i (Or.inl hmem)) (fun _ _ => by simp)
  · simp only [file, if_neg hgone]
  · cases l with
    | network => rfl
    | _ => exact t.file_eq (by simp) hl

/-- It clears the flag. -/
lemma Held.clear (h : s.Held) {i : ℕ} (hexit : s.exit = .clearing i) {s' : Connections}
    (hs' : s' = { s with net := s.net.updClient i fun c => { c with active := false }
                         exit := .joining i }) : s'.Held := by
  have hpc : s.net.pc = .accepting := h.exclusive (by rw [hexit]; rfl)
  have hholds (j : ℕ) : s'.Holds j ↔ s.Holds j := by
    subst hs'
    simp [Holds, hpc, hexit, ExitStage.visited, Network.updClient]
  have hfd (j : ℕ) : s'.net.socketFd j = s.net.socketFd j := by
    rw [hs']
    exact Network.socketFd_clear i j
  have hseated : Seated s'.net s'.exit := by
    subst hs'
    exact h.toSeated.clear hexit
  have t : s.Touches s' i := by
    refine ⟨by rw [hs'], by rw [hs'], by rw [hs', hexit]; rfl, by rw [hs']; exact id,
      fun _ => by rw [hs']; rfl, fun _ => by rw [hs']; rfl, fun {j} _ => hfd j,
      fun _ => by rw [hs'], fun _ => by rw [hs']; simp [hexit], fun {j} _ => hholds j⟩
  have hslots : s'.net.slots = s.net.slots := by rw [hs']; rfl
  have hpc' : s'.net.pc = s.net.pc := by rw [hs']; rfl
  have hexit' : s'.exit = .joining i := by rw [hs']
  have hfiles : s'.files = s.files := by rw [hs']
  have hserial : s'.serial = s.serial := by rw [hs']
  refine h.touch t hseated ?_ ?_ ?_ ?_ ?_
  · rw [hfiles]
    refine h.files.congr fun l => ?_
    cases l with
    | main => exact t.file_eq (by simp) (by simp)
    | network => simp only [file, pending, hpc', show s'.stage = s.stage by rw [hs']]
    | slot j => exact file_slot_congr (hholds j) (hfd j) (by rw [hserial])
  · rw [hpc', show s'.stage = s.stage by rw [hs']]
    exact h.inside_iff
  · have hserials := h.serials
    subst hs'
    exact hserials
  · rw [hslots, hpc', hexit', hserial]
    exact fun hmem => h.serial_lt i (hmem.imp_right (Or.imp_right fun hmem => by cases hmem))
  · rw [hslots, hexit', hfiles, hserial, hfd, hholds]
    exact fun hmem hnot => h.let_go i (hmem.imp_right fun hmem => by cases hmem) hnot

/-- It closes the server socket. -/
lemma Held.closeServer (h : s.Held) (hexit : s.exit = .closing) :
    ({ s with files := s.files.closed s.serverSocket, exit := .locking } : Connections).Held ∧
      s.files s.serverSocket = some .listening := by
  have hfile : s.file .main = some (s.serverSocket, .listening) := by
    simp [file, hexit, ExitStage.serverClosed]
  have hholds (i : ℕ) : ({ s with files := s.files.closed s.serverSocket,
                                  exit := .locking } : Connections).Holds i ↔ s.Holds i := by
    simp [Holds, hexit, ExitStage.visited]
  refine ⟨⟨h.toSeated.exits (by simp [hexit]) (by simp [ExitStage.holds]),
    h.files.closed hfile ?_ fun l hl => ?_, h.inside_iff, h.serials, fun i hi => ?_,
    fun i hi hnot => ?_, fun _ => by simp⟩, h.files.holds hfile⟩
  · simp [file, ExitStage.serverClosed]
  · cases l with
    | main => exact absurd rfl hl
    | network => rfl
    | slot i => exact file_slot_congr (hholds i) rfl rfl
  · exact h.serial_lt i (hi.imp_right (Or.imp_right fun hi => by cases hi))
  · refine Issued.closed_ne_some (h.let_go i (hi.imp_right fun hi => by cases hi) fun hold => ?_)
    exact hnot ((hholds i).mpr hold)

/-- **A step of the network thread.** -/
lemma Held.networkStep (h : s.Held) (ok : Bool) (hlate : ¬ Late s (.network ok)) :
    (s.networkStep ok).1.Held ∧ ∀ a ∈ (s.networkStep ok).2, a.Right := by
  unfold Connections.networkStep
  cases hstage : s.stage with
  | testing =>
      refine ⟨h.restage ?_ (by simp [hstage]) ?_ ?_, by simp⟩ <;>
        split_ifs <;> simp [pending, hstage, Serials]
  | calling =>
      refine ⟨h.restage (by simp) (by simp [hstage])
        (by simp [pending, hstage]) trivial, ?_⟩
      have hopen : s.exit.serverClosed = false :=
        Bool.eq_false_iff.mpr fun hexit => hlate (.accept hstage hexit)
      have hfile : s.file .main = some (s.serverSocket, .listening) := by simp [file, hopen]
      simpa [Access.Right] using h.files.holds hfile
  | accepting => exact ⟨h, by simp⟩
  | locking n serial =>
      simp only
      split_ifs with hholds
      · exact ⟨h, by simp⟩
      · exact ⟨h.lock hstage (Bool.eq_false_iff.mpr hholds), by simp⟩
  | inside serial =>
      have hserials := h.serials
      simp only [Network.networkStep]
      cases hpc : s.net.pc with
      | accepting => exact absurd hpc (h.inside_iff.mp ⟨serial, hstage⟩)
      | searching c i =>
          simp only
          by_cases hi : (i : ℤ) < s.net.maxClients
          · simp only [if_pos hi]
            cases hbusy : s.net.active i with
            | true =>
                refine ⟨?_, by simp⟩
                have hpending : ({ s with
                    net := { s.net with
                      pc := .searching c (i + 1), clientCount := s.net.clientCount }
                    stage := .inside serial } : Connections).pending = s.pending := by
                  simp [pending, hstage, hpc]
                simpa [hstage] using h.advance (by simp [hpc]) (by simp [hpc, NetworkPc.claimed])
                  (by simp [hpc]) hpending (by simp) (by simpa [Serials, hstage] using hserials)
            | false => exact ⟨h.claim hpc hstage hi hbusy (by simp [hstage]), by simp⟩
          · have hfile : s.file .network = some (c.toNat, .connection serial) := by
              simp [file, pending, hstage, hpc]
            simp only [if_neg hi]
            exact ⟨h.reject hpc hstage, by simpa [Access.Right] using h.files.holds hfile⟩
      | creating i =>
          cases ok with
          | true => exact ⟨h.created hpc (by simp [hstage]), by simp⟩
          | false =>
              have hfile :
                  s.file (.slot i) = some (s.net.socketFd i, .connection (s.serial i)) := by
                simp [file, Holds, hpc]
              refine ⟨h.failed hpc (by simp [hstage]), ?_⟩
              simpa [Access.Right, slotAccess] using h.files.holds hfile
      | undoing i => exact ⟨h.undone hpc (by simp), by simp⟩
      | counting =>
          refine ⟨?_, by simp⟩
          have hpending : ({ s with
              net := { s.net with pc := .accepting, clientCount := s.net.clientCount + 1 }
              stage := .testing } : Connections).pending = s.pending := by
            simp [pending, hstage, hpc]
          simpa [hstage] using h.advance (by simp [hpc]) (by simp [hpc, NetworkPc.claimed])
            (by simp [hpc]) hpending (by simp) trivial
  | ended => exact ⟨h, by simp⟩

/-- **A step of a handler** behind its loop. -/
lemma Held.handlerStep (h : s.Held) (k : ℕ) (hlate : ¬ Late s (.handler k)) :
    (s.handlerStep k).1.Held ∧ ∀ a ∈ (s.handlerStep k).2, a.Right := by
  unfold Connections.handlerStep
  cases hk : s.net.handlers[k]? with
  | none =>
      simp only [Network.handlerStep, hk]
      exact ⟨h, by simp⟩
  | some handler =>
      obtain ⟨i, closed⟩ := handler
      simp only [Network.handlerStep, hk]
      cases closed with
      | false =>
          obtain ⟨hheld, hright⟩ := h.close hk (fun hexit => hlate (.close hk hexit)) rfl
          exact ⟨hheld, by simpa using hright⟩
      | true => exact ⟨h.gone hk rfl, by simp⟩

/-- **A step of the main thread.** -/
lemma Held.mainStep (h : s.Held) (hlate : ¬ Late s .main) :
    s.mainStep.1.Held ∧ ∀ a ∈ s.mainStep.2, a.Right := by
  unfold Connections.mainStep
  cases hexit : s.exit with
  | looping =>
      refine ⟨?_, by simp⟩
      simp only
      split_ifs
      · exact h
      · exact h.exits (by simp [hexit, ExitStage.serverClosed]) rfl
          (by simp [hexit, ExitStage.visited]) (by simp) (by simp [ExitStage.holds])
  | closing =>
      obtain ⟨hheld, hopen⟩ := h.closeServer hexit
      exact ⟨hheld, by simpa [Access.Right] using hopen⟩
  | locking =>
      refine ⟨?_, by simp⟩
      simp only
      split_ifs with hpc
      · exact h.exits (by simp [hexit, ExitStage.serverClosed]) rfl
          (by simp [hexit, ExitStage.visited]) (by simp) fun _ => hpc
      · exact h
  | visiting i =>
      have hpc : s.net.pc = .accepting := h.exclusive (by simp [hexit, ExitStage.holds])
      simp only
      by_cases hi : (i : ℤ) < s.net.maxClients
      · refine ⟨?_, by simp [hi]⟩
        simp only [if_pos hi]
        cases hactive : s.net.active i with
        | true =>
            refine h.exits (by simp [hexit, ExitStage.serverClosed]) rfl
              (by simp [hexit, ExitStage.visited]) (fun j hj => ?_) fun _ => hpc
            obtain rfl : i = j := by simpa using hj
            exact ⟨hpc, hactive⟩
        | false =>
            exact h.exits (by simp [hexit, ExitStage.serverClosed]) rfl
              (by simp [hexit, ExitStage.visited]) (by simp) fun _ => hpc
      · refine ⟨?_, by simp [hi]⟩
        simp only [if_neg hi]
        exact h.exits (by simp [hexit, ExitStage.serverClosed]) rfl
          (by simp [hexit, ExitStage.visited]) (by simp) fun _ => hpc
  | shutting i =>
      have hholds : s.Holds i := by
        by_contra hnot
        exact hlate (.again hexit hnot)
      obtain ⟨hheld, hright⟩ := h.shut hexit hholds rfl
      exact ⟨hheld, by simpa using hright⟩
  | clearing i => exact ⟨h.clear hexit rfl, by simp⟩
  | joining i =>
      have hpc : s.net.pc = .accepting := h.exclusive (by simp [hexit, ExitStage.holds])
      refine ⟨?_, by simp⟩
      simp only
      split_ifs with hmem
      · exact h
      · refine h.exits (by simp [hexit, ExitStage.serverClosed]) rfl (fun j hj => ?_) (by simp)
          fun _ => hpc
        obtain rfl : i = j := by simpa [hexit, ExitStage.visited] using hj
        exact hmem
  | unlocking =>
      exact ⟨h.exits (by simp [hexit, ExitStage.serverClosed]) rfl
        (by simp [hexit, ExitStage.visited]) (by simp) (by simp [ExitStage.holds]), by simp⟩
  | done => exact ⟨h, by simp⟩

/-- A handler that still has its socket uses its own client's. -/
lemma Held.use (h : s.Held) (k : ℕ) (hlate : ¬ Late s (.use k)) :
    ∀ a ∈ s.handlerUse k, a.Right := by
  unfold handlerUse
  split
  · rename_i i hk
    have hholds : s.Holds i := Or.inr ⟨List.mem_of_getElem? hk, fun hexit => hlate (.use hk hexit)⟩
    have hfile : s.file (.slot i) = some (s.net.socketFd i, .connection (s.serial i)) := by
      simp only [file, if_pos hholds]
    simpa [Access.Right, slotAccess] using h.files.holds hfile
  · simp

/-- **A step that is not late** keeps the descriptors with those who need them, and uses those. -/
lemma Held.step (h : s.Held) (e : ConnectionEvent) (hlate : ¬ Late s e) :
    (connections.step s e).1.Held ∧ ∀ a ∈ (connections.step s e).2, a.Right := by
  cases e with
  | accept n =>
      simp only [connections]
      split_ifs with hcan
      · exact ⟨h.accept hcan.1 hcan.2, by simp⟩
      · exact ⟨h, by simp⟩
  | acceptFails =>
      refine ⟨?_, by simp [connections]⟩
      simp only [connections]
      split_ifs with hstage
      · exact h.restage (by simp) (by simp [hstage])
          (by simp [pending, hstage]) trivial
      · exact h
  | network ok => exact h.networkStep ok hlate
  | use k => exact ⟨h, h.use k hlate⟩
  | handler k => exact h.handlerStep k hlate
  | main => exact h.mainStep hlate
  | signal => exact ⟨⟨h.toSeated, h.files.congr fun l => by cases l <;> rfl, h.inside_iff,
      h.serials, h.serial_lt, h.let_go, h.server⟩, by simp [connections]⟩

/-- **A late step** uses another socket than it means, or none. -/
lemma Held.wrong (h : s.Held) {e : ConnectionEvent} (hlate : Late s e) :
    ∃ a ∈ (connections.step s e).2, ¬ a.Right := by
  have hslot {k i : ℕ} (hk : s.net.handlers[k]? = some ⟨i, false⟩)
      (hexit : s.exit.visited = some i) : ¬ (s.slotAccess i).Right := by
    have hmem : i ∈ s.net.slots := List.mem_map_of_mem (List.mem_of_getElem? hk)
    refine h.let_go i (Or.inl hmem) fun hholds => ?_
    rcases hholds with hcreating | ⟨-, hne⟩
    · exact (h.notMem_claimed hmem).2 hcreating
    · exact hne hexit
  cases hlate with
  | accept hstage hexit =>
      refine ⟨⟨.listening, s.files s.serverSocket⟩, ?_, h.server hexit⟩
      simp [connections, Connections.networkStep, hstage]
  | use hk hexit =>
      exact ⟨_, by simp [connections, handlerUse, hk], hslot hk hexit⟩
  | close hk hexit =>
      exact ⟨_, by simp [connections, Connections.handlerStep, hk], hslot hk hexit⟩
  | @again i hexit hnot =>
      refine ⟨s.slotAccess i, by simp [connections, Connections.mainStep, hexit], ?_⟩
      exact h.let_go i (Or.inr hexit) hnot

/-- At first no slot is taken. -/
lemma seated_initial (maxClients : ℤ) (capacity : ℕ) (h : maxClients ≤ capacity)
    (serverSocket : ℕ) : Seated (initial maxClients capacity h serverSocket).net .looping := by
  refine ⟨List.nodup_nil, ?_, fun i => iff_of_false ?_ ?_, by simp [ExitStage.holds]⟩
  · simp [initial, Network.initial, NetworkPc.claimed]
  · simp only [initial, Network.initial, Network.active, List.getElem?_replicate]
    split_ifs <;> simp
  · simp [initial, Network.initial, Network.slots, NetworkPc.claimed]

/-- With the network thread started, only the server socket is open. -/
lemma held_initial (maxClients : ℤ) (capacity : ℕ) (h : maxClients ≤ capacity)
    (serverSocket : ℕ) : (initial maxClients capacity h serverSocket).Held := by
  refine ⟨seated_initial maxClients capacity h serverSocket,
    Owned.opened (i := .main) Owned.empty rfl rfl rfl fun l hl => ?_, ?_, trivial, ?_, ?_, ?_⟩
  · cases l with
    | main => exact absurd rfl hl
    | network => rfl
    | slot i => simp [file, initial, Holds, Network.initial]
  · simp [initial, Network.initial]
  · simp [initial, Network.initial, Network.slots, NetworkPc.claimed]
  · simp [initial, Network.initial, Network.slots]
  · simp [initial, ExitStage.serverClosed]

end Connections

/-! ## Results -/

/-- **Which runs use and close the right sockets.** Whatever clients come and go, whatever numbers
the system hands out, and however the network thread, the handlers and `cleanup_on_exit` interleave:
every socket that is used or closed is the one that is meant, if and only if no handler uses or
closes its socket after `cleanup_on_exit` has closed it, nor the other way round, and `accept` is
not called on the server socket that `cleanup_on_exit` has closed. -/
theorem sockets_right_iff (maxClients : ℤ) (capacity : ℕ) (h : maxClients ≤ capacity)
    (serverSocket : ℕ) (events : List ConnectionEvent) :
    (∀ o ∈ (connections.run (.initial maxClients capacity h serverSocket) events).2,
        ∀ a ∈ o, a.Right) ↔
      ∀ x ∈ connections.trace (.initial maxClients capacity h serverSocket) events,
        ¬ Late x.1 x.2 := by
  refine connections.outputs_iff_trace (I := Connections.Held) (C := fun s e => ¬ Late s e)
    (Q := fun o : List Access => ∀ a ∈ o, a.Right) (fun s e hs hlate => (hs.step e hlate).1)
    (fun s e hs => ⟨fun hright hlate => ?_, fun hlate => (hs.step e hlate).2⟩)
    (Connections.held_initial maxClients capacity h serverSocket) events
  obtain ⟨a, ha, hwrong⟩ := hs.wrong hlate
  exact hwrong (hright a ha)

/-- A client is connected at the shutdown. `cleanup_on_exit` closes its socket, the number goes to
the next client, and the handler closes it there. -/
def closedTwice : List ConnectionEvent :=
  [.network true, .network true, .accept 4, .network true, .network true, .network true,
    .network true, .network true, .network true, .signal, .main, .main, .main, .main, .main,
    .accept 4, .handler 0]

/-- The last step is the late one. -/
theorem sockets_right_iff_closedTwice :
    (∀ o ∈ (connections.run (.initial 1 1 (by decide) 3) closedTwice).2, ∀ a ∈ o, a.Right) ↔
      ∀ x ∈ connections.trace (.initial 1 1 (by decide) 3) closedTwice, ¬ Late x.1 x.2 :=
  sockets_right_iff 1 1 (by decide) 3 closedTwice

/-- The handler has closed the connection of another client. -/
example : (connections.run (.initial 1 1 (by decide) 3) closedTwice).2.getLast? =
    some [⟨.connection 0, some (.connection 1)⟩] := by decide

/-- `cleanup_on_exit` finds the client of the slot `i`. -/
def Connections.FindsClient (s : Connections) (e : ConnectionEvent) (i : ℕ) : Prop :=
  e = .main ∧ s.exit = .visiting i ∧ (i : ℤ) < s.net.maxClients ∧ s.net.active i = true

instance (s : Connections) (e : ConnectionEvent) (i : ℕ) : Decidable (s.FindsClient e i) :=
  inferInstanceAs (Decidable (_ ∧ _))

/-- `cleanup_on_exit` closes the socket of the connection `serial`. -/
def Connections.MainCloses (s : Connections) (e : ConnectionEvent) (serial : ℕ) : Prop :=
  e = .main ∧ ∃ i, s.exit = .shutting i ∧ s.serial i = serial

/-- The handler of the connection closes it. -/
def Connections.HandlerCloses (s : Connections) (e : ConnectionEvent) (serial : ℕ) : Prop :=
  ∃ k i, e = .handler k ∧ s.net.handlers[k]? = some ⟨i, false⟩ ∧ s.serial i = serial

/-- The network thread calls `accept` on the server socket that `cleanup_on_exit` has closed. -/
def Connections.CallsLate (s : Connections) (e : ConnectionEvent) : Prop :=
  (∃ ok, e = .network ok) ∧ s.stage = .calling ∧ s.exit.serverClosed = true

namespace Connections

variable {s : Connections}

/-- `cleanup_on_exit` is at the client of the slot `i`. -/
def At (s : Connections) (i : ℕ) : Prop := s.exit = .shutting i ∨ s.exit.visited = some i

/-- It is at a client whose handler has its socket yet. -/
def Caught (s : Connections) : Prop :=
  ∃ i, s.exit = .shutting i ∨
    (s.exit.visited = some i ∧ (⟨i, false⟩ : Handler) ∈ s.net.handlers)

/-- **What a step does to the handlers**: one is started, or one closes its socket, or one that has
closed it ends. -/
lemma handlers_step (e : ConnectionEvent) :
    (connections.step s e).1.net.handlers = s.net.handlers ∨
    (∃ i, (connections.step s e).1.net.handlers = s.net.handlers ++ [⟨i, false⟩]) ∨
    (∃ i l₁ l₂, e = .handler l₁.length ∧ s.net.handlers = l₁ ++ ⟨i, false⟩ :: l₂ ∧
      (connections.step s e).1.net.handlers = l₁ ++ ⟨i, true⟩ :: l₂) ∨
    (∃ i l₁ l₂, e = .handler l₁.length ∧ s.net.handlers = l₁ ++ ⟨i, true⟩ :: l₂ ∧
      (connections.step s e).1.net.handlers = l₁ ++ l₂) := by
  cases e with
  | network ok =>
      simp only [connections, Connections.networkStep]
      cases s.stage with
      | locking c serial =>
          simp only [Network.acceptStep]
          split_ifs
          · exact Or.inl rfl
          · split <;> exact Or.inl rfl
      | inside serial =>
          simp only [Network.networkStep]
          cases s.net.pc with
          | searching c i => simp only; split_ifs <;> exact Or.inl rfl
          | creating i =>
              cases ok with
              | true => exact Or.inr (Or.inl ⟨i, rfl⟩)
              | false => exact Or.inl rfl
          | _ => exact Or.inl rfl
      | _ => exact Or.inl rfl
  | handler k =>
      simp only [connections, Connections.handlerStep, Network.handlerStep]
      cases hk : s.net.handlers[k]? with
      | none => exact Or.inl rfl
      | some handler =>
          obtain ⟨i, closed⟩ := handler
          obtain ⟨l₁, l₂, hl, rfl⟩ := Slots.exists_split_of_getElem? hk
          cases closed with
          | false => exact Or.inr (Or.inr (Or.inl ⟨i, l₁, l₂, rfl, hl, by simp [hl]⟩))
          | true =>
              refine Or.inr (Or.inr (Or.inr ⟨i, l₁, l₂, rfl, hl, ?_⟩))
              simp [hl, List.eraseIdx_append_of_length_le]
  | main =>
      left
      simp only [connections, Connections.mainStep]
      cases s.exit with
      | looping => simp only; split_ifs <;> rfl
      | locking => simp only; split_ifs <;> rfl
      | visiting i => simp only; split_ifs <;> rfl
      | joining i => simp only; split_ifs <;> rfl
      | _ => rfl
  | accept n => simp only [connections]; split_ifs <;> exact Or.inl rfl
  | acceptFails => simp only [connections]; split_ifs <;> exact Or.inl rfl
  | use k => exact Or.inl rfl
  | signal => exact Or.inl rfl

/-- A handler has its socket until it closes it. -/
lemma open_step {i : ℕ} (hmem : (⟨i, false⟩ : Handler) ∈ s.net.handlers) (e : ConnectionEvent) :
    (⟨i, false⟩ : Handler) ∈ (connections.step s e).1.net.handlers ∨
      ∃ k, e = .handler k ∧ s.net.handlers[k]? = some ⟨i, false⟩ := by
  rcases handlers_step (s := s) e with hsame | ⟨j, hnew⟩ | ⟨j, l₁, l₂, rfl, hl, hnew⟩ |
    ⟨j, l₁, l₂, rfl, hl, hnew⟩
  · exact Or.inl (hsame ▸ hmem)
  · exact Or.inl (hnew ▸ List.mem_append_left _ hmem)
  · by_cases hij : i = j
    · exact Or.inr ⟨l₁.length, rfl, by simp [hl, hij]⟩
    · left
      rw [hl] at hmem
      rw [hnew]
      simpa [hij] using hmem
  · left
    rw [hl] at hmem
    rw [hnew]
    simpa using hmem

/-- One that has closed its socket has done so before, or does it in this step. -/
lemma closed_step {i : ℕ} {e : ConnectionEvent}
    (hmem : (⟨i, true⟩ : Handler) ∈ (connections.step s e).1.net.handlers) :
    (⟨i, true⟩ : Handler) ∈ s.net.handlers ∨
      ∃ k, e = .handler k ∧ s.net.handlers[k]? = some ⟨i, false⟩ := by
  rcases handlers_step (s := s) e with hsame | ⟨j, hnew⟩ | ⟨j, l₁, l₂, rfl, hl, hnew⟩ |
    ⟨j, l₁, l₂, rfl, hl, hnew⟩
  · exact Or.inl (hsame ▸ hmem)
  · rw [hnew] at hmem
    exact Or.inl (by simpa using hmem)
  · by_cases hij : i = j
    · exact Or.inr ⟨l₁.length, rfl, by simp [hl, hij]⟩
    · left
      rw [hnew] at hmem
      rw [hl]
      simpa [hij] using hmem
  · left
    rw [hnew] at hmem
    rw [hl]
    simpa using Or.elim (List.mem_append.mp hmem) Or.inl (Or.inr ∘ Or.inr)

/-- The connection of a slot is another one only where the network thread takes the slot. -/
lemma serial_step (h : Seated s.net s.exit) {i : ℕ}
    (hi : i ∈ s.net.slots ∨ s.exit.holds = true) (e : ConnectionEvent) :
    (connections.step s e).1.serial i = s.serial i := by
  cases e with
  | network ok =>
      simp only [connections, Connections.networkStep]
      cases s.stage with
      | locking c serial => simp only; split_ifs <;> rfl
      | inside serial =>
          simp only
          cases hpc : s.net.pc with
          | searching c j =>
              have hfree := h.not_holds (by simp [hpc])
              by_cases hj : (j : ℤ) < s.net.maxClients
              · simp only [if_pos hj]
                cases hbusy : s.net.active j with
                | true => rfl
                | false =>
                    have hne : i ≠ j := by
                      rintro rfl
                      rcases hi with hmem | hholds
                      · exact h.notMem_of_not_active hfree hbusy hmem
                      · rw [hfree] at hholds
                        cases hholds
                    exact Function.update_of_ne hne _ _
              · simp only [if_neg hj]
          | creating j => simp only; split_ifs <;> rfl
          | _ => rfl
      | _ => rfl
  | handler k =>
      simp only [connections, Connections.handlerStep]
      split <;> rfl
  | main =>
      simp only [connections, Connections.mainStep]
      cases s.exit with
      | looping => simp only; split_ifs <;> rfl
      | locking => simp only; split_ifs <;> rfl
      | visiting j => simp only; split_ifs <;> rfl
      | joining j => simp only; split_ifs <;> rfl
      | _ => rfl
  | accept n => simp only [connections]; split_ifs <;> rfl
  | acceptFails => simp only [connections]; split_ifs <;> rfl
  | use k => rfl
  | signal => rfl

/-- While the main thread holds the mutex, the others leave a handler that does not close late. -/
lemma keeps_handler {e : ConnectionEvent} (hlate : ¬ Late s e) {i : ℕ}
    (hexit : s.exit.visited = some i) (hmem : (⟨i, false⟩ : Handler) ∈ s.net.handlers) :
    (⟨i, false⟩ : Handler) ∈ (connections.step s e).1.net.handlers := by
  rcases open_step hmem e with hnext | ⟨k, rfl, hk⟩
  · exact hnext
  · exact absurd (.close hk hexit) hlate

/-- The others leave the main thread where it is. -/
lemma exit_step {e : ConnectionEvent} (he : e ≠ .main) :
    (connections.step s e).1.exit = s.exit := by
  cases e with
  | main => exact absurd rfl he
  | network ok =>
      simp only [connections, Connections.networkStep]
      cases s.stage with
      | inside serial =>
          simp only
          split
          · split_ifs <;> rfl
          · split_ifs <;> rfl
          · rfl
      | locking n serial => simp only; split_ifs <;> rfl
      | _ => rfl
  | handler k =>
      simp only [connections, Connections.handlerStep]
      split <;> rfl
  | accept n => simp only [connections]; split_ifs <;> rfl
  | acceptFails => simp only [connections]; split_ifs <;> rfl
  | use k => rfl
  | signal => rfl

/-- `cleanup_on_exit` comes to a client by finding it. -/
lemma finds_of_at {e : ConnectionEvent} {i : ℕ} (hat : (connections.step s e).1.At i) :
    s.At i ∨ s.FindsClient e i := by
  by_cases he : e = .main
  · subst he
    simp only [connections, Connections.mainStep] at hat
    cases hexit : s.exit with
    | looping =>
        simp only [hexit] at hat
        split_ifs at hat
        · exact Or.inl hat
        · simp [At, ExitStage.visited] at hat
    | locking =>
        simp only [hexit] at hat
        split_ifs at hat
        · simp [At, ExitStage.visited] at hat
        · exact Or.inl hat
    | visiting j =>
        simp only [hexit] at hat
        split_ifs at hat with hj hactive
        · obtain rfl : j = i := by simpa [At, ExitStage.visited] using hat
          exact Or.inr ⟨rfl, hexit, hj, hactive⟩
        · simp [At, ExitStage.visited] at hat
        · simp [At, ExitStage.visited] at hat
    | shutting j =>
        left
        rw [hexit] at hat
        simpa [At, ExitStage.visited, hexit] using hat
    | clearing j =>
        left
        rw [hexit] at hat
        simpa [At, ExitStage.visited, hexit] using hat
    | joining j =>
        left
        simp only [hexit] at hat
        split_ifs at hat
        · exact hat
        · simp [At, ExitStage.visited] at hat
    | _ =>
        rw [hexit] at hat
        simp [At, ExitStage.visited, hexit] at hat
  · rw [At, exit_step he] at hat
    exact Or.inl hat

/-- It leaves a client when its handler is gone, and it has closed its socket. -/
lemma at_step {i : ℕ} (hat : s.At i) (e : ConnectionEvent) :
    (connections.step s e).1.At i ∨ (s.exit.visited = some i ∧ i ∉ s.net.slots) := by
  by_cases he : e = .main
  · subst he
    simp only [connections, Connections.mainStep]
    cases hexit : s.exit with
    | shutting j =>
        left
        simpa [At, ExitStage.visited, hexit] using hat
    | clearing j =>
        left
        simpa [At, ExitStage.visited, hexit] using hat
    | joining j =>
        obtain rfl : j = i := by simpa [At, ExitStage.visited, hexit] using hat
        simp only
        split_ifs with hmem
        · exact Or.inl hat
        · exact Or.inr ⟨rfl, hmem⟩
    | _ => simp [At, ExitStage.visited, hexit] at hat
  · left
    rwa [At, exit_step he]

/-- Behind the `close` of a client's socket there has been one. -/
lemma closes_of_visited {e : ConnectionEvent} {i : ℕ}
    (hvisited : (connections.step s e).1.exit.visited = some i) :
    s.exit.visited = some i ∨ s.MainCloses e (s.serial i) := by
  by_cases he : e = .main
  · subst he
    simp only [connections, Connections.mainStep] at hvisited
    cases hexit : s.exit with
    | looping =>
        simp only [hexit] at hvisited
        split_ifs at hvisited
        · exact Or.inl (hexit ▸ hvisited)
        · cases hvisited
    | locking =>
        simp only [hexit] at hvisited
        split_ifs at hvisited
        · cases hvisited
        · exact Or.inl (hexit ▸ hvisited)
    | visiting j =>
        simp only [hexit] at hvisited
        split_ifs at hvisited <;> cases hvisited
    | shutting j =>
        simp only [hexit] at hvisited
        obtain rfl : j = i := by simpa [ExitStage.visited] using hvisited
        exact Or.inr ⟨rfl, j, hexit, rfl⟩
    | clearing j =>
        simp only [hexit] at hvisited
        exact Or.inl hvisited
    | joining j =>
        simp only [hexit] at hvisited
        split_ifs at hvisited
        · exact Or.inl (hexit ▸ hvisited)
        · cases hvisited
    | closing =>
        simp only [hexit] at hvisited
        cases hvisited
    | unlocking =>
        simp only [hexit] at hvisited
        cases hvisited
    | done =>
        simp only [hexit] at hvisited
        cases hvisited
  · rw [exit_step he] at hvisited
    exact Or.inl hvisited

/-- At a client it holds the mutex. -/
lemma At.holds {i : ℕ} (hat : s.At i) : s.exit.holds = true := by
  cases hexit : s.exit with
  | shutting j => rfl
  | clearing j => rfl
  | joining j => rfl
  | _ => simp [At, hexit, ExitStage.visited] at hat

/-- **It does not get past this client** by steps that are not late. -/
lemma Held.caught_step (h : s.Held) (hcaught : s.Caught) {e : ConnectionEvent}
    (hlate : ¬ Late s e) : (connections.step s e).1.Caught := by
  obtain ⟨i, hcaught⟩ := hcaught
  refine ⟨i, ?_⟩
  by_cases he : e = .main
  · subst he
    rcases hcaught with hexit | ⟨hexit, hmem⟩
    · right
      have hpc : s.net.pc = .accepting := h.exclusive (by rw [hexit]; rfl)
      have hholds : s.Holds i := by
        by_contra hnot
        exact hlate (.again hexit hnot)
      have hopen : (⟨i, false⟩ : Handler) ∈ s.net.handlers := by
        rcases hholds with hcreating | hopen
        · rw [hpc] at hcreating
          cases hcreating
        · exact hopen.1
      simp only [connections, Connections.mainStep, hexit]
      exact ⟨rfl, hopen⟩
    · right
      refine ⟨?_, keeps_handler hlate hexit hmem⟩
      have hslot : i ∈ s.net.handlers.map Handler.slot := List.mem_map_of_mem hmem
      cases hs : s.exit with
      | clearing j =>
          obtain rfl : j = i := by simpa [hs, ExitStage.visited] using hexit
          simp [connections, Connections.mainStep, hs, ExitStage.visited]
      | joining j =>
          obtain rfl : j = i := by simpa [hs, ExitStage.visited] using hexit
          simp only [connections, Connections.mainStep, hs, if_pos hslot, ExitStage.visited]
      | _ =>
          rw [hs] at hexit
          cases hexit
  · rw [exit_step he]
    exact hcaught.imp_right fun hvisited =>
      ⟨hvisited.1, keeps_handler hlate hvisited.1 hvisited.2⟩

/-- A client that is found. -/
lemma FindsClient.shutting {e : ConnectionEvent} {i : ℕ} (hfind : s.FindsClient e i) :
    (connections.step s e).1.exit = .shutting i := by
  obtain ⟨rfl, hexit, hi, hactive⟩ := hfind
  simp [connections, Connections.mainStep, hexit, hi, hactive]

/-- A run of such steps that finds a client does not end. -/
lemma Held.ne_done (h : s.Held) {events : List ConnectionEvent}
    (hlate : ∀ x ∈ connections.trace s events, ¬ Late x.1 x.2)
    (hfinds : ∃ x ∈ connections.trace s events, ∃ i, x.1.FindsClient x.2 i) :
    (connections.run s events).1.exit ≠ .done := by
  induction events generalizing s with
  | nil =>
      obtain ⟨x, hx, -⟩ := hfinds
      cases hx
  | cons e es ih =>
      rw [Machine.trace, List.forall_mem_cons] at hlate
      have hnext := (h.step e hlate.1).1
      obtain ⟨x, hx, i, hfind⟩ := hfinds
      rw [Machine.run_cons]
      rcases List.mem_cons.mp hx with rfl | hx
      · -- from here on it is caught
        have hcaught : (connections.step s e).1.Caught := ⟨i, Or.inl hfind.shutting⟩
        have hlast := connections.states_of_trace (I := fun s => s.Held ∧ s.Caught)
          (C := fun s e => ¬ Late s e)
          (fun s e hs hlate => ⟨(hs.1.step e hlate).1, hs.1.caught_step hs.2 hlate⟩)
          ⟨hnext, hcaught⟩ hlate.2
        have hend : (connections.run (connections.step s e).1 es).1.Caught := by
          rcases List.mem_cons.mp (connections.run_mem_states _ es) with heq | hmem
          · rw [heq]
            exact hcaught
          · exact (hlast _ hmem).2
        obtain ⟨j, hend⟩ := hend
        intro hdone
        rw [hdone] at hend
        rcases hend with heq | ⟨heq, -⟩ <;> cases heq
      · exact ih hnext hlate.2 ⟨x, hx, i, hfind⟩

/-- The socket of a connection has been closed by `cleanup_on_exit`, and by its handler. -/
def ClosedByBoth (past : List (Connections × ConnectionEvent)) (serial : ℕ) : Prop :=
  (∃ x ∈ past, x.1.MainCloses x.2 serial) ∧ ∃ x ∈ past, x.1.HandlerCloses x.2 serial

/-- What the steps so far tell: which handlers have closed their sockets, whether
`cleanup_on_exit` has closed the one that it is at, and that it has closed those that it has left
behind, as their handlers have. -/
structure Recorded (past : List (Connections × ConnectionEvent)) (s : Connections) : Prop where
  seated : Seated s.net s.exit
  closed : ∀ i, (⟨i, true⟩ : Handler) ∈ s.net.handlers →
    ∃ x ∈ past, x.1.HandlerCloses x.2 (s.serial i)
  shut : ∀ i, s.exit.visited = some i → ∃ x ∈ past, x.1.MainCloses x.2 (s.serial i)
  open_or_closed : ∀ i, s.At i → (⟨i, false⟩ : Handler) ∈ s.net.handlers ∨
    ∃ x ∈ past, x.1.HandlerCloses x.2 (s.serial i)
  found : ∀ x ∈ past, ∀ i, x.1.FindsClient x.2 i →
    ClosedByBoth past (x.1.serial i) ∨ (s.At i ∧ s.serial i = x.1.serial i)

/-- What has happened stays in the past. -/
lemma exists_mem_concat {P : Connections × ConnectionEvent → Prop}
    {past : List (Connections × ConnectionEvent)} (h : ∃ x ∈ past, P x)
    (y : Connections × ConnectionEvent) : ∃ x ∈ past ++ [y], P x := by
  obtain ⟨x, hx, hP⟩ := h
  exact ⟨x, List.mem_append_left _ hx, hP⟩

/-- **Every step**, a late one too, is recorded. -/
lemma Recorded.step {past : List (Connections × ConnectionEvent)} (h : Recorded past s)
    (e : ConnectionEvent) : Recorded (past ++ [(s, e)]) (connections.step s e).1 := by
  have hlast : (s, e) ∈ past ++ [(s, e)] := by simp
  -- a handler that closes its socket in this step
  have hcloses {i : ℕ} (hclose : ∃ k, e = .handler k ∧ s.net.handlers[k]? = some ⟨i, false⟩) :
      ∃ x ∈ past ++ [(s, e)], x.1.HandlerCloses x.2 (s.serial i) := by
    obtain ⟨k, he, hk⟩ := hclose
    exact ⟨(s, e), hlast, k, i, he, hk, rfl⟩
  -- the client that is found in this step has a handler
  have hfinds {i : ℕ} (hfind : s.FindsClient e i) : i ∈ s.net.slots ∧ s.exit.holds = true := by
    obtain ⟨-, hexit, -, hactive⟩ := hfind
    have hholds : s.exit.holds = true := by rw [hexit]; rfl
    exact ⟨h.seated.mem_slots_of_active (h.seated.exclusive hholds) hactive, hholds⟩
  have hserial {i : ℕ} (hat : (connections.step s e).1.At i) :
      (connections.step s e).1.serial i = s.serial i := by
    rcases finds_of_at hat with hold | hfind
    · exact serial_step h.seated (Or.inr hold.holds) e
    · exact serial_step h.seated (Or.inr (hfinds hfind).2) e
  refine ⟨h.seated.step e, fun i hmem => ?_, fun i hvisited => ?_, fun i hat => ?_,
    fun x hx i hfind => ?_⟩
  · rcases closed_step hmem with hold | hclose
    · rw [serial_step h.seated (Or.inl (List.mem_map_of_mem hold))]
      exact exists_mem_concat (h.closed i hold) _
    · obtain ⟨k, he, hk⟩ := hclose
      rw [serial_step h.seated (Or.inl (List.mem_map_of_mem (List.mem_of_getElem? hk)))]
      exact hcloses ⟨k, he, hk⟩
  · rw [hserial (Or.inr hvisited)]
    rcases closes_of_visited hvisited with hold | hmain
    · exact exists_mem_concat (h.shut i hold) _
    · exact ⟨(s, e), hlast, hmain⟩
  · rw [hserial hat]
    have hbefore : (⟨i, false⟩ : Handler) ∈ s.net.handlers ∨
        ∃ x ∈ past, x.1.HandlerCloses x.2 (s.serial i) := by
      rcases finds_of_at hat with hold | hfind
      · exact h.open_or_closed i hold
      · obtain ⟨⟨j, closed⟩, hmem, rfl⟩ := List.mem_map.mp (hfinds hfind).1
        cases closed with
        | false => exact Or.inl hmem
        | true => exact Or.inr (h.closed j hmem)
    rcases hbefore with hopen | hclosed
    · exact (open_step hopen e).imp_right hcloses
    · exact Or.inr (exists_mem_concat hclosed _)
  · rcases List.mem_append.mp hx with hx | hx
    · rcases h.found x hx i hfind with hboth | ⟨hat, heq⟩
      · exact Or.inl (hboth.imp (exists_mem_concat · _) (exists_mem_concat · _))
      · rcases at_step hat e with hnext | ⟨hvisited, hgone⟩
        · exact Or.inr ⟨hnext, (hserial hnext).trans heq⟩
        · -- the handler is gone, so it has closed its socket
          have hclosed := (h.open_or_closed i hat).resolve_left fun hopen =>
            hgone (List.mem_map_of_mem hopen)
          rw [← heq]
          exact Or.inl ⟨exists_mem_concat (h.shut i hvisited) _, exists_mem_concat hclosed _⟩
    · obtain rfl : x = (s, e) := List.mem_singleton.mp hx
      exact Or.inr ⟨Or.inl hfind.shutting, serial_step h.seated (Or.inr (hfinds hfind).2) e⟩

/-- **Whatever has been found has been closed twice** when `cleanup_on_exit` is through. -/
lemma closedByBoth_of_done {events : List ConnectionEvent} (hs : Seated s.net s.exit)
    (hhandlers : s.net.handlers = []) (hexit : ∀ i, ¬ s.At i)
    (hdone : (connections.run s events).1.exit = .done) :
    ∀ x ∈ connections.trace s events, ∀ i, x.1.FindsClient x.2 i →
      ClosedByBoth (connections.trace s events) (x.1.serial i) := by
  have hstart : Recorded [] s := by
    refine ⟨hs, fun i hmem => ?_, fun i hvisited => absurd (Or.inr hvisited) (hexit i),
      fun i hat => absurd hat (hexit i), fun x hx => (by cases hx)⟩
    rw [hhandlers] at hmem
    cases hmem
  have hlast := connections.run_trace_invariant (J := Recorded) (fun past s e h => h.step e) hstart
    events
  intro x hx i hfind
  refine (hlast.found x hx i hfind).resolve_right ?_
  rintro ⟨hat | hat, -⟩ <;> rw [hdone] at hat <;> cases hat

end Connections

open Connections in
/-- **When the daemon exits cleanly.** In a run in which `cleanup_on_exit` has gone through the
clients, every socket used or closed was the one that is meant, if and only if it has found no
active client, and `accept` has not been called on the server socket behind its `close`. The socket
of each client that it has found has been closed twice, by `cleanup_on_exit` and by the handler. -/
theorem clean_exit_iff (maxClients : ℤ) (capacity : ℕ) (h : maxClients ≤ capacity)
    (serverSocket : ℕ) (events : List ConnectionEvent)
    (hdone : (connections.run (.initial maxClients capacity h serverSocket) events).1.exit =
      .done) :
    ((∀ o ∈ (connections.run (.initial maxClients capacity h serverSocket) events).2,
        ∀ a ∈ o, a.Right) ↔
      ∀ x ∈ connections.trace (.initial maxClients capacity h serverSocket) events,
        (∀ i, ¬ x.1.FindsClient x.2 i) ∧ ¬ x.1.CallsLate x.2) ∧
    ∀ x ∈ connections.trace (.initial maxClients capacity h serverSocket) events,
      ∀ i, x.1.FindsClient x.2 i →
        ClosedByBoth (connections.trace (.initial maxClients capacity h serverSocket) events)
          (x.1.serial i) := by
  have hheld := held_initial maxClients capacity h serverSocket
  have hnowhere (i : ℕ) : ¬ (initial maxClients capacity h serverSocket).At i := by
    simp [At, initial, ExitStage.visited]
  refine ⟨?_, closedByBoth_of_done hheld.toSeated rfl hnowhere hdone⟩
  rw [sockets_right_iff]
  refine ⟨fun hlate x hx => ⟨fun i hfind => ?_, ?_⟩, fun hclean x hx hlate => ?_⟩
  · exact hheld.ne_done hlate ⟨x, hx, i, hfind⟩ hdone
  · obtain ⟨s, e⟩ := x
    rintro ⟨⟨ok, rfl⟩, hstage, hexit⟩
    exact hlate _ hx (.accept hstage hexit)
  · -- where no client is found, the main thread is never at one
    have hat : ∀ i, ¬ x.1.At i :=
      connections.trace_of_trace (I := fun s => ∀ i, ¬ s.At i)
        (C := fun s e => ∀ i, ¬ s.FindsClient e i)
        (fun s e hs hfinds i hat => (finds_of_at hat).elim (hs i) (hfinds i)) hnowhere
        (fun y hy => (hclean y hy).1) x hx
    obtain ⟨s, e⟩ := x
    cases hlate with
    | accept hstage hexit => exact (hclean _ hx).2 ⟨⟨_, rfl⟩, hstage, hexit⟩
    | use hk hexit => exact hat _ (Or.inr hexit)
    | close hk hexit => exact hat _ (Or.inr hexit)
    | again hexit hnot => exact hat _ (Or.inl hexit)

/-- A client is connected at the shutdown, and `cleanup_on_exit` closes its socket, waits until the
handler has closed it too, and goes through. -/
def closedTwiceDone : List ConnectionEvent :=
  [.network true, .network true, .accept 4, .network true, .network true, .network true,
    .network true, .signal, .main, .main, .main, .main, .main, .main, .main, .handler 0, .handler 0,
    .main, .main, .main, .main]

/-- Its only client is found, and its socket has been closed twice. -/
theorem clean_exit_iff_connected :
    (∃ x ∈ connections.trace (.initial 1 1 (by decide) 3) closedTwiceDone, x.1.FindsClient x.2 0) ∧
    ((∀ o ∈ (connections.run (.initial 1 1 (by decide) 3) closedTwiceDone).2, ∀ a ∈ o, a.Right) ↔
      ∀ x ∈ connections.trace (.initial 1 1 (by decide) 3) closedTwiceDone,
        (∀ i, ¬ x.1.FindsClient x.2 i) ∧ ¬ x.1.CallsLate x.2) ∧
    ∀ x ∈ connections.trace (.initial 1 1 (by decide) 3) closedTwiceDone,
      ∀ i, x.1.FindsClient x.2 i →
        Connections.ClosedByBoth (connections.trace (.initial 1 1 (by decide) 3) closedTwiceDone)
          (x.1.serial i) :=
  ⟨by decide, clean_exit_iff 1 1 (by decide) 3 closedTwiceDone (by decide)⟩

end ProcessMonitor.Integration
