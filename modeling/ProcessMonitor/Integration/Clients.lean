import ProcessMonitor.Lib.Machine
import ProcessMonitor.Lib.Slots

/-!
# Client connections

`network_thread` and the handler threads it starts, in `src/04-integration/main_daemon.c`, as far as
the array `clients` and the number `client_count` go. The network thread takes a slot whose flag
`active` is clear, sets the flag and starts a handler, which clears it when its client is gone;
handlers end while the network thread is anywhere.

The handlers never lower `client_count`. `clientCount_eq` says what it counts, and
`counted_iff` when this is the number of active slots.
-/

namespace ProcessMonitor.Integration

/-! ## Threads and slots -/

/-- Source: the fields of `client_connection_t` that the threads read -/
structure ClientConnection where
  socketFd : ℤ
  active : Bool
deriving DecidableEq, Repr

/-- A handler thread, by the slot of its client; `closed` says that it has left its loop and closed
the socket. -/
structure Handler where
  slot : ℕ
  closed : Bool
deriving DecidableEq, Repr

/-- Where `network_thread` is: before `accept`, in the search for a slot, before `pthread_create`,
in the branch of its failure, or before the increment of `client_count`. -/
inductive NetworkPc
  | accepting
  | searching (clientSocket : ℤ) (i : ℕ)
  | creating (slot : ℕ)
  | undoing (slot : ℕ)
  | counting
deriving DecidableEq, Repr

/-- The slots, the count and the threads. The array has at least `max_clients` slots. -/
structure Network where
  maxClients : ℤ
  clients : List ClientConnection
  clientCount : ℤ
  handlers : List Handler
  pc : NetworkPc
  fits : maxClients ≤ clients.length

namespace Network

/-- Before the first connection, in an array of `capacity` slots. -/
def initial (maxClients : ℤ) (capacity : ℕ) (h : maxClients ≤ capacity) : Network :=
  ⟨maxClients, List.replicate capacity ⟨0, false⟩, 0, [], .accepting,
    by rw [List.length_replicate]; exact h⟩

variable (s : Network)

/-- Change the slot `i`. -/
def updClient (i : ℕ) (f : ClientConnection → ClientConnection) : Network :=
  { s with
    clients := s.clients.modify i f
    fits := by rw [List.length_modify]; exact s.fits }

@[simp] lemma clientCount_updClient (i : ℕ) (f : ClientConnection → ClientConnection) :
    (s.updClient i f).clientCount = s.clientCount := rfl

@[simp] lemma pc_updClient (i : ℕ) (f : ClientConnection → ClientConnection) :
    (s.updClient i f).pc = s.pc := rfl

/-- The flag `active` of the slot `i`. -/
def active (i : ℕ) : Bool :=
  match s.clients[i]? with
  | some c => c.active
  | none => false

/-- The number of slots whose flag is set. -/
def activeCount : ℕ := s.clients.countP ClientConnection.active

/-! ## Steps -/

/-- `accept` returns a socket. -/
def acceptStep (clientSocket : ℤ) : Network :=
  match s.pc with
  | .accepting => { s with pc := .searching clientSocket 0 }
  | _ => s

/-- A step of the network thread; `ok` is whether `pthread_create` succeeds.
Source: `main_daemon.c`, `network_thread`, from the search on -/
def networkStep (ok : Bool) : Network :=
  match s.pc with
  | .accepting => s
  | .searching clientSocket i =>
      if i < s.maxClients then
        if s.active i then { s with pc := .searching clientSocket (i + 1) }
        else
          { s.updClient i fun _ => { socketFd := clientSocket, active := true } with
            pc := .creating i }
      else { s with pc := .accepting }
  | .creating i =>
      if ok then { s with handlers := s.handlers ++ [⟨i, false⟩], pc := .counting }
      else { s with pc := .undoing i }
  | .undoing i => { s.updClient i fun c => { c with active := false } with pc := .accepting }
  | .counting => { s with clientCount := s.clientCount + 1, pc := .accepting }

/-- A handler leaves its loop and closes the socket, or clears the flag and returns.
Source: `main_daemon.c`, `client_handler_thread`, behind the loop -/
def handlerStep (k : ℕ) : Network × Bool :=
  match s.handlers[k]? with
  | some ⟨slot, false⟩ => ({ s with handlers := s.handlers.set k ⟨slot, true⟩ }, false)
  | some ⟨slot, true⟩ =>
      ({ s.updClient slot fun c => { c with active := false } with
        handlers := s.handlers.eraseIdx k }, true)
  | none => (s, false)

end Network

/-- `accept` returns a socket, or a thread takes its next step. -/
inductive NetworkEvent
  | accept (clientSocket : ℤ)
  | network (ok : Bool)
  | handler (k : ℕ)
deriving DecidableEq, Repr

/-- The threads under a schedule. The output tells the end of a disconnection. -/
def network : Machine Network NetworkEvent Bool where
  step s
    | .accept clientSocket => (s.acceptStep clientSocket, false)
    | .network ok => (s.networkStep ok, false)
    | .handler k => s.handlerStep k

/-! ## What the threads keep -/

/-- The slot that the network thread has taken and that has no handler. -/
def NetworkPc.claimed : NetworkPc → Option ℕ
  | .creating i | .undoing i => some i
  | _ => none

/-- A handler has been started and not yet counted. -/
def NetworkPc.uncounted : NetworkPc → ℕ
  | .counting => 1
  | _ => 0

namespace Network

/-- The slots with a handler. -/
def slots (s : Network) : List ℕ := s.handlers.map Handler.slot

/-- Every handler has an active slot of its own, the active slots are those of the handlers and the
one just taken, and `client_count` counts the handlers there are and the `gone` ones. -/
structure Accounted (s : Network) (gone : ℕ) : Prop where
  nodup : s.slots.Nodup
  slot_lt : ∀ i ∈ s.slots, (i : ℤ) < s.maxClients
  slot_active : ∀ i ∈ s.slots, s.active i = true
  claimed_notMem : ∀ i ∈ s.pc.claimed, i ∉ s.slots
  claimed_lt : ∀ i ∈ s.pc.claimed, (i : ℤ) < s.maxClients
  claimed_active : ∀ i ∈ s.pc.claimed, s.active i = true
  activeCount_eq : s.activeCount = s.slots.length + s.pc.claimed.toList.length
  clientCount_eq : s.clientCount + s.pc.uncounted = s.slots.length + gone

variable {s : Network}

/-- The flags of the other slots stay. -/
lemma active_updClient_ne {i j : ℕ} (h : i ≠ j) (f : ClientConnection → ClientConnection) :
    (s.updClient i f).active j = s.active j := by
  rw [active, updClient]
  simp only [List.getElem?_modify, if_neg h, id_map']
  rfl

/-- The flag of a slot that has been assigned to. -/
lemma active_updClient_eq {i : ℕ} (hi : (i : ℤ) < s.maxClients)
    {f : ClientConnection → ClientConnection} (hf : ∀ c, (f c).active = true) :
    (s.updClient i f).active i = true := by
  have hlt : i < s.clients.length := by have := s.fits; omega
  rw [active, updClient]
  simp only [List.getElem?_modify, if_true, List.getElem?_eq_getElem hlt]
  exact hf _

/-- Setting a flag that is clear makes one more active slot. -/
lemma activeCount_set {i : ℕ} (hi : (i : ℤ) < s.maxClients) (h : s.active i = false)
    {f : ClientConnection → ClientConnection} (hf : ∀ c, (f c).active = true) :
    (s.updClient i f).activeCount = s.activeCount + 1 := by
  have hlt : i < s.clients.length := by have := s.fits; omega
  obtain ⟨l₁, l₂, hl, rfl⟩ := Slots.exists_split_of_getElem? (List.getElem?_eq_getElem hlt)
  simp only [active, List.getElem?_eq_getElem hlt] at h
  rw [activeCount, activeCount, updClient]
  simp only
  rw [hl, Slots.modify_split]
  simp only [List.countP_append, List.countP_cons, hf, h]
  simp
  omega

/-- Clearing a flag that is set makes one less. -/
lemma activeCount_clear {i : ℕ} (h : s.active i = true)
    {f : ClientConnection → ClientConnection} (hf : ∀ c, (f c).active = false) :
    (s.updClient i f).activeCount + 1 = s.activeCount := by
  rw [active] at h
  split at h
  · rename_i c hc
    obtain ⟨l₁, l₂, hl, rfl⟩ := Slots.exists_split_of_getElem? hc
    rw [activeCount, activeCount, updClient]
    simp only
    rw [hl, Slots.modify_split]
    simp only [List.countP_append, List.countP_cons, hf, h]
    simp
    omega
  · cases h

/-- A step that only moves a thread on. -/
lemma Accounted.move {gone : ℕ} (h : s.Accounted gone) {pc : NetworkPc} {handlers : List Handler}
    (hslots : handlers.map Handler.slot = s.slots) (hclaimed : pc.claimed = s.pc.claimed)
    (huncounted : pc.uncounted = s.pc.uncounted) :
    ({ s with pc := pc, handlers := handlers } : Network).Accounted gone where
  nodup := by rw [slots, hslots]; exact h.nodup
  slot_lt := by rw [slots, hslots]; exact h.slot_lt
  slot_active := by rw [slots, hslots]; exact h.slot_active
  claimed_notMem := by rw [slots, hslots, hclaimed]; exact h.claimed_notMem
  claimed_lt := by rw [hclaimed]; exact h.claimed_lt
  claimed_active := by rw [hclaimed]; exact h.claimed_active
  activeCount_eq := by rw [slots, hslots, hclaimed]; exact h.activeCount_eq
  clientCount_eq := by rw [slots, hslots, huncounted]; exact h.clientCount_eq

/-- The network thread takes a free slot. -/
lemma Accounted.claim {gone : ℕ} (h : s.Accounted gone) {clientSocket : ℤ} {i : ℕ}
    (hpc : s.pc = .searching clientSocket i) (hi : (i : ℤ) < s.maxClients)
    (hbusy : ¬ s.active i = true) :
    ({ s.updClient i fun _ => { socketFd := clientSocket, active := true } with
      pc := .creating i } : Network).Accounted gone := by
  -- the slot is nobody's, since the slots with a handler are active
  have hfree : i ∉ s.slots := by
    intro hmem
    exact hbusy (h.slot_active i hmem)
  refine ⟨h.nodup, h.slot_lt, ?_, ?_, ?_, ?_, ?_, ?_⟩
  · intro j hj
    have hne : i ≠ j := by
      intro hij
      exact hfree (hij ▸ hj)
    exact (active_updClient_ne hne _).trans (h.slot_active j hj)
  · intro j hj
    cases hj
    exact hfree
  · intro j hj
    cases hj
    exact hi
  · intro j hj
    cases hj
    exact active_updClient_eq hi fun _ => rfl
  · have hset := activeCount_set hi (Bool.eq_false_iff.mpr hbusy)
      (f := fun _ => { socketFd := clientSocket, active := true }) fun _ => rfl
    rw [h.activeCount_eq, hpc] at hset
    exact hset
  · have hclient := h.clientCount_eq
    rw [hpc] at hclient
    exact hclient

/-- The slot gets its handler. -/
lemma Accounted.created {gone i : ℕ} (h : s.Accounted gone) (hpc : s.pc = .creating i) :
    ({ s with handlers := s.handlers ++ [⟨i, false⟩], pc := .counting } : Network).Accounted
      gone := by
  have hi : i ∈ s.pc.claimed := by rw [hpc]; rfl
  have hslots : (s.handlers ++ [(⟨i, false⟩ : Handler)]).map Handler.slot = s.slots ++ [i] := by
    rw [List.map_append]
    rfl
  have hcount := h.activeCount_eq
  have hclient := h.clientCount_eq
  rw [hpc] at hcount hclient
  refine ⟨?_, ?_, ?_, by simp [NetworkPc.claimed], by simp [NetworkPc.claimed],
    by simp [NetworkPc.claimed], ?_, ?_⟩
  · rw [slots, hslots, List.nodup_append]
    refine ⟨h.nodup, List.nodup_singleton i, ?_⟩
    intro j hj k hk hjk
    obtain rfl : k = i := List.mem_singleton.mp hk
    exact h.claimed_notMem k hi (hjk ▸ hj)
  · rw [slots, hslots, List.forall_mem_append, List.forall_mem_singleton]
    exact ⟨h.slot_lt, h.claimed_lt i hi⟩
  · rw [slots, hslots, List.forall_mem_append, List.forall_mem_singleton]
    exact ⟨h.slot_active, h.claimed_active i hi⟩
  · rw [slots, hslots, List.length_append]
    exact hcount
  · rw [slots, hslots, List.length_append]
    simp only [NetworkPc.uncounted, List.length_singleton] at hclient ⊢
    push_cast
    omega

/-- The slot is given back. -/
lemma Accounted.undone {gone i : ℕ} (h : s.Accounted gone) (hpc : s.pc = .undoing i) :
    ({ s.updClient i fun c => { c with active := false } with
      pc := .accepting } : Network).Accounted gone := by
  have hi : i ∈ s.pc.claimed := by rw [hpc]; rfl
  have hcount := h.activeCount_eq
  have hclient := h.clientCount_eq
  rw [hpc] at hcount hclient
  refine ⟨h.nodup, h.slot_lt, ?_, by simp [NetworkPc.claimed], by simp [NetworkPc.claimed],
    by simp [NetworkPc.claimed], ?_, hclient⟩
  · intro j hj
    have hne : i ≠ j := by
      intro hij
      exact h.claimed_notMem i hi (hij ▸ hj)
    exact (active_updClient_ne hne _).trans (h.slot_active j hj)
  · have hclear := activeCount_clear (h.claimed_active i hi)
      (f := fun c => { c with active := false }) fun _ => rfl
    rw [hcount] at hclear
    exact Nat.succ.inj hclear

/-- The new handler is counted. -/
lemma Accounted.incremented {gone : ℕ} (h : s.Accounted gone) (hpc : s.pc = .counting) :
    ({ s with clientCount := s.clientCount + 1, pc := .accepting } : Network).Accounted gone := by
  have hcount := h.activeCount_eq
  have hclient := h.clientCount_eq
  rw [hpc] at hcount hclient
  refine ⟨h.nodup, h.slot_lt, h.slot_active, by simp [NetworkPc.claimed],
    by simp [NetworkPc.claimed], by simp [NetworkPc.claimed], hcount, ?_⟩
  simp only [NetworkPc.uncounted] at hclient ⊢
  simp only [slots] at hclient ⊢
  omega

/-- **A step of the network thread.** -/
lemma Accounted.networkStep {gone : ℕ} (h : s.Accounted gone) (ok : Bool) :
    (s.networkStep ok).Accounted gone := by
  rw [Network.networkStep]
  cases hpc : s.pc with
  | accepting => exact h
  | searching clientSocket i =>
      simp only
      split_ifs with hi hbusy
      · exact h.move rfl (by rw [hpc]; rfl) (by rw [hpc]; rfl)
      · exact h.claim hpc hi hbusy
      · exact h.move rfl (by rw [hpc]; rfl) (by rw [hpc]; rfl)
  | creating i =>
      simp only
      split_ifs
      · exact h.created hpc
      · exact h.move rfl (by rw [hpc]; rfl) (by rw [hpc]; rfl)
  | undoing i => exact h.undone hpc
  | counting => exact h.incremented hpc

/-- A handler clears the flag of its slot and returns: one handler less, one `gone` more. -/
lemma Accounted.handlerGone {gone slot : ℕ} {l₁ l₂ : List Handler} (h : s.Accounted gone)
    (hl : s.handlers = l₁ ++ ⟨slot, true⟩ :: l₂) :
    ({ s.updClient slot fun c => { c with active := false } with
      handlers := l₁ ++ l₂ } : Network).Accounted (gone + 1) := by
  have hslots : s.slots = l₁.map Handler.slot ++ slot :: l₂.map Handler.slot := by
    rw [slots, hl, List.map_append, List.map_cons]
  have hmem : slot ∈ s.slots := by
    rw [hslots]
    exact List.mem_append_right _ List.mem_cons_self
  have hnodup := h.nodup
  rw [hslots, List.nodup_middle, List.nodup_cons, ← List.map_append] at hnodup
  -- the other handlers have other slots
  have hrest : ∀ i ∈ (l₁ ++ l₂).map Handler.slot, i ∈ s.slots ∧ slot ≠ i := by
    intro i hi
    refine ⟨?_, fun hslot => hnodup.1 (hslot ▸ hi)⟩
    rw [hslots]
    rw [List.map_append, List.mem_append] at hi
    rcases hi with hi | hi
    · exact List.mem_append_left _ hi
    · exact List.mem_append_right _ (List.mem_cons_of_mem _ hi)
  have hlength : s.slots.length = ((l₁ ++ l₂).map Handler.slot).length + 1 := by
    rw [hslots, List.map_append, List.length_append, List.length_append, List.length_cons]
    omega
  refine ⟨hnodup.2, ?_, ?_, ?_, h.claimed_lt, ?_, ?_, ?_⟩
  · exact fun i hi => h.slot_lt i (hrest i hi).1
  · intro i hi
    exact (active_updClient_ne (hrest i hi).2 _).trans (h.slot_active i (hrest i hi).1)
  · exact fun i hi hmem' => h.claimed_notMem i hi (hrest i hmem').1
  · intro i hi
    have hne : slot ≠ i := fun heq => h.claimed_notMem i hi (heq ▸ hmem)
    exact (active_updClient_ne hne _).trans (h.claimed_active i hi)
  · have hclear := activeCount_clear (h.slot_active slot hmem)
      (f := fun c => { c with active := false }) fun _ => rfl
    rw [h.activeCount_eq, hlength] at hclear
    have hnext : (s.updClient slot fun c => { c with active := false }).activeCount =
        ((l₁ ++ l₂).map Handler.slot).length + s.pc.claimed.toList.length := by omega
    exact hnext
  · have hclient := h.clientCount_eq
    rw [hlength] at hclient
    simp only [slots, clientCount_updClient, pc_updClient]
    push_cast at hclient ⊢
    omega

/-- **A step of a handler.** -/
lemma Accounted.handlerStep {gone : ℕ} (h : s.Accounted gone) (k : ℕ) :
    (s.handlerStep k).1.Accounted (gone + if (s.handlerStep k).2 then 1 else 0) := by
  rw [Network.handlerStep]
  cases hk : s.handlers[k]? with
  | none => exact h
  | some handler =>
      obtain ⟨slot, closed⟩ := handler
      obtain ⟨l₁, l₂, hl, rfl⟩ := Slots.exists_split_of_getElem? hk
      cases closed with
      | false =>
          refine h.move ?_ rfl rfl
          rw [slots, hl]
          simp
      | true =>
          have herase : s.handlers.eraseIdx l₁.length = l₁ ++ l₂ := by
            rw [hl, List.eraseIdx_append_of_length_le le_rfl, Nat.sub_self, List.eraseIdx_cons_zero]
          simp only [herase, if_true]
          exact h.handlerGone hl

/-- **A run** keeps the account, with the disconnections that have ended for the `gone` handlers. -/
lemma Accounted.run {gone : ℕ} (h : s.Accounted gone) (events : List NetworkEvent) :
    (network.run s events).1.Accounted (gone + (network.run s events).2.count true) := by
  induction events generalizing s gone with
  | nil => exact h
  | cons e es ih =>
      have hstep : (network.step s e).1.Accounted
          (gone + if (network.step s e).2 then 1 else 0) := by
        cases e with
        | accept clientSocket =>
            simp only [network, acceptStep]
            split
            · rename_i hpc
              exact h.move rfl (by rw [hpc]; rfl) (by rw [hpc]; rfl)
            · exact h
        | network ok => exact h.networkStep ok
        | handler k => exact h.handlerStep k
      rw [Machine.run_cons, List.count_cons, Nat.add_comm (List.count _ _), ← Nat.add_assoc]
      simp only [beq_true]
      exact ih hstep

/-- Before the first connection. -/
lemma accounted_initial (maxClients : ℤ) (capacity : ℕ) (h : maxClients ≤ capacity) :
    (initial maxClients capacity h).Accounted 0 where
  nodup := List.nodup_nil
  slot_lt := by simp [slots, initial]
  slot_active := by simp [slots, initial]
  claimed_notMem := by simp [initial, NetworkPc.claimed]
  claimed_lt := by simp [initial, NetworkPc.claimed]
  claimed_active := by simp [initial, NetworkPc.claimed]
  activeCount_eq := by
    rw [activeCount, initial, List.countP_replicate]
    rfl
  clientCount_eq := rfl

/-- No accept and no disconnect is half-way. -/
structure AtRest (s : Network) : Prop where
  pc_eq : s.pc = .accepting
  open_all : ∀ handler ∈ s.handlers, handler.closed = false

/-- `client_count` is the number of active slots, and lies between 0 and `max_clients`. -/
def Counted (s : Network) : Prop :=
  s.clientCount = s.activeCount ∧ 0 ≤ s.clientCount ∧ s.clientCount ≤ s.maxClients

/-- There are no more handlers than slots. -/
lemma Accounted.length_le {gone : ℕ} (h : s.Accounted gone) :
    s.slots.length ≤ s.maxClients.toNat := by
  have hsub : s.slots ⊆ List.range s.maxClients.toNat := by
    intro i hi
    rw [List.mem_range]
    have hlt := h.slot_lt i hi
    omega
  have hlen := (h.nodup.subperm hsub).length_le
  rwa [List.length_range] at hlen

/-- Nothing writes to `max_clients`. -/
lemma maxClients_run (s : Network) (events : List NetworkEvent) :
    (network.run s events).1.maxClients = s.maxClients := by
  refine network.run_invariant (I := fun s' => s'.maxClients = s.maxClients) ?_ rfl events
  intro s' e h
  cases e with
  | accept clientSocket =>
      simp only [network, acceptStep]
      split <;> exact h
  | network ok =>
      simp only [network, networkStep]
      split
      · exact h
      · split_ifs <;> exact h
      · split_ifs <;> exact h
      · exact h
      · exact h
  | handler k =>
      simp only [network, handlerStep]
      split <;> exact h

end Network

open Network

/-- **`client_count` counts the connections ever handled**: at rest it is the number of active slots
and of the disconnections so far. -/
theorem clientCount_eq (maxClients : ℤ) (capacity : ℕ) (h : maxClients ≤ capacity)
    (events : List NetworkEvent) :
    let r := network.run (initial maxClients capacity h) events
    r.1.AtRest → r.1.clientCount = r.1.activeCount + r.2.count true := by
  intro r hrest
  have hacc := (accounted_initial maxClients capacity h).run events
  have hclient := hacc.clientCount_eq
  have hcount := hacc.activeCount_eq
  have hzero : NetworkPc.accepting.uncounted = 0 := rfl
  rw [hrest.pc_eq, hzero, Nat.cast_zero, add_zero, zero_add] at hclient
  rw [hrest.pc_eq] at hcount
  have hslots : r.1.activeCount = r.1.slots.length := hcount
  rw [hslots]
  exact hclient

/-- **Client accounting.** In every state at rest, `client_count` is the number of active slots and
lies between 0 and `max_clients`, if and only if `max_clients` is not negative and no client has
disconnected before. -/
theorem counted_iff (maxClients : ℤ) (capacity : ℕ) (h : maxClients ≤ capacity)
    (events : List NetworkEvent) :
    let r := network.run (initial maxClients capacity h) events
    r.1.AtRest → (r.1.Counted ↔ 0 ≤ maxClients ∧ true ∉ r.2) := by
  intro r hrest
  have hacc := (accounted_initial maxClients capacity h).run events
  have hmax : r.1.maxClients = maxClients := maxClients_run _ events
  have hclient : r.1.clientCount = r.1.activeCount + r.2.count true :=
    clientCount_eq maxClients capacity h events hrest
  have hcount := hacc.activeCount_eq
  rw [hrest.pc_eq] at hcount
  have hslots : r.1.activeCount = r.1.slots.length := hcount
  have hle : r.1.slots.length ≤ r.1.maxClients.toNat := hacc.length_le
  rw [hmax] at hle
  rw [Counted, hmax, ← List.count_eq_zero, hclient]
  constructor
  · rintro ⟨heq, hpos, hupper⟩
    exact ⟨by omega, by omega⟩
  · rintro ⟨hpos, hnone⟩
    exact ⟨by omega, by omega, by omega⟩

/-- One client connects and leaves: the count stays at 1. -/
theorem disconnected_counted :
    let r := network.run (initial 50 50 (by decide))
      [.accept 4, .network true, .network true, .network true, .handler 0, .handler 0]
    r.1.AtRest ∧ r.1.activeCount = 0 ∧ r.1.clientCount = 1 ∧ ¬ r.1.Counted :=
  ⟨⟨by decide, by decide⟩, by decide, by decide, fun h => absurd h.1 (by decide)⟩

/-- An accept whose thread cannot be created, and one that succeeds. -/
theorem failed_then_counted :
    let r := network.run (initial 50 50 (by decide))
      [.accept 4, .network true, .network false, .network true,
        .accept 5, .network true, .network true, .network true]
    r.1.AtRest ∧ (r.1.Counted ↔ 0 ≤ (50 : ℤ) ∧ true ∉ r.2) := by
  have hrest : (network.run (initial 50 50 (by decide))
      [.accept 4, .network true, .network false, .network true,
        .accept 5, .network true, .network true, .network true]).1.AtRest :=
    ⟨by decide, by decide⟩
  exact ⟨hrest, counted_iff 50 50 (by decide) _ hrest⟩

end ProcessMonitor.Integration
