import ProcessMonitor.Comm.Server
import ProcessMonitor.Lib.Handles

/-!
# Sockets and blocks of the daemon

The daemon of `Server` with the descriptors that `server_listen` and the `handle_client` threads of
`src/03-communication/daemon/socket_server.c` open and close, and the blocks of memory that they
allocate and free: the listener fills a `client_conn_t` for each client, and the thread works from
it, closes the socket and frees the block. The system may give a number or an address that has been
given back to the next who asks.

* `accesses_right`: no thread ever reads or frees another block than the one allocated for its
  client, and none sends to, receives from or closes another connection than its client's.
* `handles_held`: nothing is open or allocated but what a thread still needs. When all have ended
  nothing is.
* `sockets_refine`: a thread receives what the socket has that its descriptor stands for at that
  moment, and sends there. What passes on the connections is what passes in a run of `server`, where
  each thread has its client's connection for itself.
-/

namespace ProcessMonitor.Comm

open CString Handles

/-! ## The threads -/

/-- Source: `struct sockaddr_in`, as far as the daemon reads it -/
structure SockAddr where
  ip : ℕ
  port : ℕ
deriving DecidableEq, Repr

/-- What a descriptor stands for: the socket of `server_init`, or the connection with a client. -/
inductive Sock
  | listening
  | connection (peer : SockAddr)
deriving DecidableEq, Repr

/-- Source: `client_conn_t`, without the field `thread_id` that nothing uses -/
structure ClientConn where
  sockfd : ℕ
  addr : SockAddr
deriving DecidableEq, Repr

/-- Where a thread of `handle_client` stands; in its loop the phase of the server tells the rest. -/
inductive ThreadStage
  /-- Before it reads the address of its client. -/
  | starting
  | running
  /-- Before `free`. -/
  | freeing
  | ended
deriving DecidableEq, Repr

/-- A thread of `handle_client` with its argument. `conn` is not in the source: it is what the
listener had stored in the block when it made the thread. -/
structure ClientThread where
  arg : ℕ
  conn : ClientConn
  stage : ThreadStage
deriving DecidableEq, Repr

/-- Where `server_listen`, and `main` behind it, stand. -/
inductive ListenerStage
  /-- In the loop, where the server tells. -/
  | loop
  /-- Before `malloc`. -/
  | allocating (clientFd : ℕ) (addr : SockAddr)
  /-- Before `pthread_create`. -/
  | creating (clientFd : ℕ) (addr : SockAddr) (p : ℕ)
  /-- Before the `close` of a client that gets no thread. -/
  | dropping (clientFd : ℕ) (addr : SockAddr) (p : Option ℕ)
  /-- Before the `free` behind it. -/
  | freeing (conn : ClientConn) (p : ℕ)
  /-- Behind `close(server_fd)`. -/
  | finished
deriving DecidableEq, Repr

/-- The daemon, its descriptors and its memory. -/
structure Sockets where
  server : Server
  serverFd : ℕ
  files : Issued Sock
  heap : Issued ClientConn
  listener : ListenerStage
  threads : List ClientThread

/-- After `server_init` has returned `serverFd`. -/
def Sockets.init (serverFd : ℕ) : Sockets :=
  ⟨.init, serverFd, Issued.empty.opened serverFd .listening, Issued.empty, .loop, []⟩

/-- What the calls on a socket come to: the bytes that arrive there (none where `recv` returns 0 or
-1), and whether `send` succeeds. -/
structure Traffic where
  received : List UInt8 := []
  sent : Bool := true
deriving DecidableEq, Repr

/-- On a descriptor that stands for nothing both calls fail. -/
def Traffic.failing : Traffic := ⟨[], false⟩

/-- This, and what `%d` stores. -/
def Traffic.io (t : Traffic) (scan : ScanInt) : Io := ⟨t.received, scan, t.sent⟩

/-- What happens next. -/
inductive SocketEvent
  /-- The thread of the client `c` takes its next step: `traffic` is what a call comes to on each of
  the sockets. -/
  | client (c : ℕ) (scan : ScanInt) (traffic : Sock → Traffic)
  /-- `accept` returns a descriptor. -/
  | accept (clientFd : ℕ) (addr : SockAddr)
  /-- `accept` returns -1. -/
  | acceptFails (interrupted : Bool)
  /-- The listener takes another step: `ok` is whether its call succeeds, and `p` what `malloc`
  returns then. -/
  | listener (ok : Bool) (p : ℕ)
  | signal

/-- What a step uses: a block that is `meant` to hold the data of a client, or a descriptor that is
`meant` to stand for something; `found` is what is there. -/
inductive Access
  | block (meant : ClientConn) (found : Option ClientConn)
  | file (meant : Sock) (found : Option Sock)
deriving DecidableEq, Repr

/-- The block, or the descriptor, is the one that is meant. -/
def Access.Right : Access → Prop
  | .block meant found => found = some meant
  | .file meant found => found = some meant

/-- What passes on a socket. -/
inductive Passed
  | received (sock : Sock) (command : List UInt8)
  | sent (sock : Sock) (response : List UInt8)
deriving DecidableEq, Repr

/-- What a step of the server lets pass, where `socket c` is what the thread of `c` uses. -/
def Seen.passed (socket : ℕ → Option Sock) : Seen → Option Passed
  | .received c command => (socket c).map (.received · command)
  | .sent c response => (socket c).map (.sent · response)
  | _ => none

/-- What a step shows: what passes on a socket, and what it uses. -/
structure SocketSeen where
  passed : Option Passed
  accesses : List Access

namespace Sockets

variable (host : Host) (s : Sockets)

/-- A step that is the step `e` of the server, on the socket `sock`. -/
def serve (e : Event) (sock : Option Sock) (accesses : List Access) : Sockets × SocketSeen :=
  ({ s with server := ((Comm.server host).step s.server e).1 },
    ⟨((Comm.server host).step s.server e).2.passed fun _ => sock, accesses⟩)

/-- A step that the server does not know of. -/
def quiet (s : Sockets) (accesses : List Access) : Sockets × SocketSeen := (s, ⟨none, accesses⟩)

/-- The socket that a thread's calls are on: what the descriptor stands for that its block holds. -/
def socket (th : ClientThread) : Option Sock :=
  (s.heap th.arg).bind fun conn => s.files conn.sockfd

/-- What its calls come to. -/
def called (th : ClientThread) (traffic : Sock → Traffic) : Traffic :=
  match s.socket th with
  | some sock => traffic sock
  | none => .failing

/-- The use of the block of a thread and of the socket that it holds. -/
def uses (th : ClientThread) : List Access :=
  .block th.conn (s.heap th.arg) ::
    match s.heap th.arg with
    | some conn => [.file (.connection th.conn.addr) (s.files conn.sockfd)]
    | none => []

/-- The thread goes on. -/
def setThread (c : ℕ) (th : ClientThread) (stage : ThreadStage) : Sockets :=
  { s with threads := s.threads.set c { th with stage := stage } }

/-- A step of a client's thread.
Source: `socket_server.c`, `handle_client` -/
def threadStep (c : ℕ) (scan : ScanInt) (traffic : Sock → Traffic) (th : ClientThread) (p : Phase) :
    Sockets × SocketSeen :=
  match th.stage with
  | .starting => (s.setThread c th .running).quiet [.block th.conn (s.heap th.arg)]
  | .running =>
      let e := Event.client c ((s.called th traffic).io scan)
      match p with
      | .recv | .send _ _ => s.serve host e (s.socket th) (s.uses th)
      | .closed =>
          let files := match s.heap th.arg with
            | some conn => s.files.closed conn.sockfd
            | none => s.files
          ({ s with files := files }.setThread c th .freeing).quiet (s.uses th)
      | _ => s.serve host e none [] -- no call on the socket
  | .freeing =>
      ({ s with heap := s.heap.closed th.arg }.setThread c th .ended).quiet
        [.block th.conn (s.heap th.arg)]
  | .ended => s.quiet []

/-- A step of the listener that is not `accept`.
Source: `socket_server.c`, `server_listen`; `daemon_main.c`, `main` -/
def listenerStep (ok : Bool) (p : ℕ) : Sockets × SocketSeen :=
  match s.listener with
  | .loop =>
      match s.server.listening with
      | .test => s.serve host (.listen .again) none []
      | .accept => s.quiet []
      | .returned =>
          { s with files := s.files.closed s.serverFd, listener := .finished }.quiet
            [.file .listening (s.files s.serverFd)]
  | .allocating fd addr =>
      if ok then
        if s.heap p = none then
          { s with heap := s.heap.opened p ⟨fd, addr⟩, listener := .creating fd addr p }.quiet []
        else s.quiet []
      else { s with listener := .dropping fd addr none }.quiet []
  | .creating fd addr p =>
      if ok then
        let thread : ClientThread := ⟨p, ⟨fd, addr⟩, .starting⟩
        { s with listener := .loop, threads := s.threads ++ [thread] }.serve host
          (.listen .connected) none []
      else { s with listener := .dropping fd addr (some p) }.quiet []
  | .dropping fd addr none =>
      { s with files := s.files.closed fd, listener := .loop }.serve host (.listen .again) none
        [.file (.connection addr) (s.files fd)]
  | .dropping fd addr (some p) =>
      { s with files := s.files.closed fd, listener := .freeing ⟨fd, addr⟩ p }.quiet
        [.file (.connection addr) (s.files fd)]
  | .freeing conn p =>
      { s with heap := s.heap.closed p, listener := .loop }.serve host (.listen .again) none
        [.block conn (s.heap p)]
  | .finished => s.quiet []

/-- `accept` can return. -/
def accepting : Bool := s.listener = .loop && s.server.listening = .accept

end Sockets

/-- The daemon under a schedule. -/
def sockets (host : Host) : Machine Sockets SocketEvent SocketSeen where
  step s
    | .client c scan traffic =>
        match s.threads[c]?, s.server.clients[c]? with
        | some th, some p => s.threadStep host c scan traffic th p
        | _, _ => s.quiet []
    | .accept fd addr =>
        if s.accepting ∧ s.files fd = none then
          { s with files := s.files.opened fd (.connection addr),
                   listener := .allocating fd addr }.quiet
            [.file .listening (s.files s.serverFd)]
        else s.quiet []
    | .acceptFails interrupted =>
        if s.accepting then
          s.serve host (.listen (if interrupted then .again else .failed)) none
            [.file .listening (s.files s.serverFd)]
        else s.quiet []
    | .listener ok p => s.listenerStep host ok p
    | .signal => s.serve host .signal none []

/-! ## Who holds what -/

/-- Who may hold a descriptor or a block: `main`, the listener, or the thread of the client `c`. -/
inductive Holder
  | main
  | listener
  | thread (c : ℕ)

/-- The descriptor that the listener has not handed on yet. -/
def ListenerStage.file : ListenerStage → Option (ℕ × Sock)
  | .allocating fd addr | .creating fd addr _ | .dropping fd addr _ => some (fd, .connection addr)
  | _ => none

/-- The block that it has not handed on yet. -/
def ListenerStage.block : ListenerStage → Option (ℕ × ClientConn)
  | .creating fd addr p | .dropping fd addr (some p) => some (p, ⟨fd, addr⟩)
  | .freeing conn p => some (p, conn)
  | _ => none

/-- The descriptor of a thread that has not closed it. -/
def ClientThread.file (th : ClientThread) : Option (ℕ × Sock) :=
  match th.stage with
  | .starting | .running => some (th.conn.sockfd, .connection th.conn.addr)
  | _ => none

/-- The block of a thread that has not freed it. -/
def ClientThread.block (th : ClientThread) : Option (ℕ × ClientConn) :=
  match th.stage with
  | .ended => none
  | _ => some (th.arg, th.conn)

namespace Sockets

/-- Who holds which descriptor, and what for. -/
def file (s : Sockets) : Holder → Option (ℕ × Sock)
  | .main => if s.listener = .finished then none else some (s.serverFd, .listening)
  | .listener => s.listener.file
  | .thread c => s.threads[c]?.bind ClientThread.file

/-- Who holds which block, and what is in it. -/
def block (s : Sockets) : Holder → Option (ℕ × ClientConn)
  | .main => none
  | .listener => s.listener.block
  | .thread c => s.threads[c]?.bind ClientThread.block

/-- Every descriptor and every block is with one who still needs it. -/
structure Held (s : Sockets) : Prop where
  files : Owned s.file s.files
  blocks : Owned s.block s.heap

variable {host : Host} {s : Sockets} {c : ℕ} {th : ClientThread}

/-- What the thread `c` holds after it has gone on. -/
lemma file_setThread_self (hth : s.threads[c]? = some th) (stage : ThreadStage) :
    (s.setThread c th stage).file (.thread c) = ClientThread.file { th with stage := stage } := by
  have hlt : c < s.threads.length := (List.getElem?_eq_some_iff.mp hth).1
  simp only [file, setThread, List.getElem?_set_self hlt, Option.bind_some]

lemma block_setThread_self (hth : s.threads[c]? = some th) (stage : ThreadStage) :
    (s.setThread c th stage).block (.thread c) = ClientThread.block { th with stage := stage } := by
  have hlt : c < s.threads.length := (List.getElem?_eq_some_iff.mp hth).1
  simp only [block, setThread, List.getElem?_set_self hlt, Option.bind_some]

/-- The others hold what they held. -/
lemma file_setThread_ne (stage : ThreadStage) {i : Holder} (hi : i ≠ .thread c) :
    (s.setThread c th stage).file i = s.file i := by
  cases i with
  | thread d =>
      have hne : c ≠ d := fun heq => hi (by rw [heq])
      simp only [file, setThread, List.getElem?_set_ne hne]
  | _ => rfl

lemma block_setThread_ne (stage : ThreadStage) {i : Holder} (hi : i ≠ .thread c) :
    (s.setThread c th stage).block i = s.block i := by
  cases i with
  | thread d =>
      have hne : c ≠ d := fun heq => hi (by rw [heq])
      simp only [block, setThread, List.getElem?_set_ne hne]
  | _ => rfl

/-- A thread that goes on with the descriptor it has. -/
lemma file_setThread (hth : s.threads[c]? = some th) {stage : ThreadStage}
    (hfile : ClientThread.file { th with stage := stage } = th.file) (i : Holder) :
    (s.setThread c th stage).file i = s.file i := by
  by_cases hi : i = .thread c
  · rw [hi, file_setThread_self hth, hfile, file, hth, Option.bind_some]
  · exact file_setThread_ne stage hi

/-- A thread that goes on with the block it has. -/
lemma block_setThread (hth : s.threads[c]? = some th) {stage : ThreadStage}
    (hblock : ClientThread.block { th with stage := stage } = th.block) (i : Holder) :
    (s.setThread c th stage).block i = s.block i := by
  by_cases hi : i = .thread c
  · rw [hi, block_setThread_self hth, hblock, block, hth, Option.bind_some]
  · exact block_setThread_ne stage hi

/-- The block of a thread that has not freed it is allocated, and it is the one it was given. -/
lemma Held.heap_arg (h : s.Held) (hth : s.threads[c]? = some th) (hstage : th.stage ≠ .ended) :
    s.heap th.arg = some th.conn := by
  refine h.blocks.holds (i := .thread c) ?_
  rw [block, hth, Option.bind_some, ClientThread.block]
  cases hs : th.stage with
  | ended => exact absurd hs hstage
  | _ => rfl

/-- Its descriptor is the one it was given until it has closed it. -/
lemma Held.files_sockfd (h : s.Held) (hth : s.threads[c]? = some th)
    (hstage : th.stage = .running) :
    s.files th.conn.sockfd = some (.connection th.conn.addr) := by
  refine h.files.holds (i := .thread c) ?_
  rw [file, hth, Option.bind_some, ClientThread.file, hstage]

/-- So a thread in its loop uses its own block and its own client's connection. -/
lemma Held.uses_right (h : s.Held) (hth : s.threads[c]? = some th) (hstage : th.stage = .running) :
    ∀ a ∈ s.uses th, a.Right := by
  have hheap := h.heap_arg hth (by rw [hstage]; simp)
  unfold uses
  rw [hheap]
  simp only [List.forall_mem_cons]
  exact ⟨rfl, h.files_sockfd hth hstage, by simp⟩

/-- A step of the server is nothing to the holders. -/
lemma Held.serve (h : s.Held) (e : Event) (sock : Option Sock) {accesses : List Access}
    (hright : ∀ a ∈ accesses, a.Right) :
    (s.serve host e sock accesses).1.Held ∧
      ∀ a ∈ (s.serve host e sock accesses).2.accesses, a.Right :=
  ⟨⟨h.files.congr fun i => by cases i <;> rfl, h.blocks.congr fun i => by cases i <;> rfl⟩, hright⟩

/-- **A step of a client's thread.** -/
lemma Held.threadStep (h : s.Held) (hth : s.threads[c]? = some th) (scan : ScanInt)
    (traffic : Sock → Traffic) (p : Phase) :
    (s.threadStep host c scan traffic th p).1.Held ∧
      ∀ a ∈ (s.threadStep host c scan traffic th p).2.accesses, a.Right := by
  unfold Sockets.threadStep
  cases hstage : th.stage with
  | starting =>
      refine ⟨⟨h.files.congr fun i => ?_, h.blocks.congr fun i => ?_⟩, ?_⟩
      · exact file_setThread hth (by simp [ClientThread.file, hstage]) i
      · exact block_setThread hth (by simp [ClientThread.block, hstage]) i
      · simp [quiet, Access.Right, h.heap_arg hth (by simp [hstage])]
  | running =>
      have huses := h.uses_right hth hstage
      cases p with
      | recv => exact h.serve _ _ huses
      | send result response => exact h.serve _ _ huses
      | closed =>
          have hfile : s.file (.thread c) = some (th.conn.sockfd, .connection th.conn.addr) := by
            rw [file, hth, Option.bind_some, ClientThread.file, hstage]
          simp only [h.heap_arg hth (by simp [hstage])]
          refine ⟨⟨h.files.closed hfile ?_ fun i hi => ?_, h.blocks.congr fun i => ?_⟩, huses⟩
          · exact file_setThread_self (s := { s with files := _ }) hth .freeing
          · exact file_setThread_ne (s := { s with files := _ }) .freeing hi
          · exact block_setThread (s := { s with files := _ }) hth
              (by simp [ClientThread.block, hstage]) i
      | _ => exact h.serve _ none (by simp)
  | freeing =>
      have hblock : s.block (.thread c) = some (th.arg, th.conn) := by
        rw [block, hth, Option.bind_some, ClientThread.block, hstage]
      refine ⟨⟨h.files.congr fun i => ?_, h.blocks.closed hblock ?_ fun i hi => ?_⟩, ?_⟩
      · exact file_setThread (s := { s with heap := _ }) hth
          (by simp [ClientThread.file, hstage]) i
      · exact block_setThread_self (s := { s with heap := _ }) hth .ended
      · exact block_setThread_ne (s := { s with heap := _ }) .ended hi
      · simp [quiet, Access.Right, h.heap_arg hth (by simp [hstage])]
  | ended => exact ⟨h, by simp [quiet]⟩

/-- The holders other than the listener hold what they held, where `main` has not ended. -/
lemma file_listener {l : ListenerStage} (hl : l ≠ .finished) (hs : s.listener ≠ .finished)
    {server : Server} {files : Issued Sock} {heap : Issued ClientConn} {i : Holder}
    (hi : i ≠ .listener) :
    ({ s with listener := l, server := server, files := files, heap := heap } : Sockets).file i =
      s.file i := by
  cases i with
  | main => simp only [file, if_neg hl, if_neg hs]
  | listener => exact absurd rfl hi
  | thread c => rfl

lemma block_listener {l : ListenerStage} {server : Server} {files : Issued Sock}
    {heap : Issued ClientConn} {i : Holder} (hi : i ≠ .listener) :
    ({ s with listener := l, server := server, files := files, heap := heap } : Sockets).block i =
      s.block i := by
  cases i with
  | listener => exact absurd rfl hi
  | _ => rfl

/-- The listener goes on with what it has. -/
lemma file_keeps {l : ListenerStage} (hl : l ≠ .finished) (hs : s.listener ≠ .finished)
    (hfile : l.file = s.listener.file) {server : Server} {files : Issued Sock}
    {heap : Issued ClientConn} (i : Holder) :
    ({ s with listener := l, server := server, files := files, heap := heap } : Sockets).file i =
      s.file i := by
  by_cases hi : i = .listener
  · rw [hi]
    exact hfile
  · exact file_listener hl hs hi

lemma block_keeps {l : ListenerStage} (hblock : l.block = s.listener.block) {server : Server}
    {files : Issued Sock} {heap : Issued ClientConn} (i : Holder) :
    ({ s with listener := l, server := server, files := files, heap := heap } : Sockets).block i =
      s.block i := by
  by_cases hi : i = .listener
  · rw [hi]
    exact hblock
  · exact block_listener hi

/-- The listener hands the descriptor and the block to the new thread. -/
lemma Held.create (h : s.Held) {fd p : ℕ} {addr : SockAddr}
    (hl : s.listener = .creating fd addr p) :
    ({ s with listener := .loop,
              threads := s.threads ++ [⟨p, ⟨fd, addr⟩, .starting⟩] } : Sockets).Held := by
  have hlast : (s.threads ++ [ClientThread.mk p ⟨fd, addr⟩ .starting])[s.threads.length]? =
      some ⟨p, ⟨fd, addr⟩, .starting⟩ := List.getElem?_concat_length
  have hold {c : ℕ} (hc : c ≠ s.threads.length) :
      (s.threads ++ [ClientThread.mk p ⟨fd, addr⟩ .starting])[c]? = s.threads[c]? := by
    rcases lt_or_gt_of_ne hc with hlt | hgt
    · exact List.getElem?_append_left hlt
    · rw [List.getElem?_eq_none (by simp; omega), List.getElem?_eq_none hgt.le]
  constructor
  · refine h.files.moved (i := .listener) (j := .thread s.threads.length)
      (x := (fd, .connection addr)) ?_ ?_ rfl ?_ fun i hi hj => ?_
    · rw [file, hl, ListenerStage.file]
    · rw [file, List.getElem?_eq_none le_rfl, Option.bind_none]
    · rw [file, hlast, Option.bind_some, ClientThread.file]
    · cases i with
      | main => simp [file, hl]
      | listener => exact absurd rfl hi
      | thread c => rw [file, file, hold fun heq => hj (by rw [heq])]
  · refine h.blocks.moved (i := .listener) (j := .thread s.threads.length)
      (x := (p, ⟨fd, addr⟩)) ?_ ?_ rfl ?_ fun i hi hj => ?_
    · rw [block, hl, ListenerStage.block]
    · rw [block, List.getElem?_eq_none le_rfl, Option.bind_none]
    · rw [block, hlast, Option.bind_some, ClientThread.block]
    · cases i with
      | main => rfl
      | listener => exact absurd rfl hi
      | thread c => rw [block, block, hold fun heq => hj (by rw [heq])]

/-- **A step of the listener** that is not `accept`. -/
lemma Held.listenerStep (h : s.Held) (ok : Bool) (p : ℕ) :
    (s.listenerStep host ok p).1.Held ∧
      ∀ a ∈ (s.listenerStep host ok p).2.accesses, a.Right := by
  have hstay : (s.quiet []).1.Held ∧ ∀ a ∈ (s.quiet []).2.accesses, a.Right := ⟨h, by simp [quiet]⟩
  unfold Sockets.listenerStep
  cases hl : s.listener with
  | loop =>
      simp only
      cases s.server.listening with
      | test => exact h.serve _ none (by simp)
      | accept => exact hstay
      | returned =>
          have hmain : s.file .main = some (s.serverFd, .listening) := by simp [file, hl]
          refine ⟨⟨h.files.closed hmain rfl fun i hi => ?_, h.blocks.congr fun i => ?_⟩, ?_⟩
          · cases i with
            | main => exact absurd rfl hi
            | listener => simp [file, hl, ListenerStage.file, quiet]
            | thread c => rfl
          · exact block_keeps (by rw [hl]; rfl) i
          · simp [quiet, Access.Right, h.files.holds hmain]
  | allocating fd addr =>
      simp only
      split_ifs with hok hfree
      · refine ⟨⟨h.files.congr fun i => ?_, h.blocks.opened (i := .listener) hfree ?_ rfl
          fun i hi => ?_⟩, by simp [quiet]⟩
        · exact file_keeps (by simp) (by simp [hl]) (by rw [hl]; rfl) i
        · simp [block, hl, ListenerStage.block]
        · exact block_listener hi
      · exact hstay
      · refine ⟨⟨h.files.congr fun i => ?_, h.blocks.congr fun i => ?_⟩, by simp [quiet]⟩
        · exact file_keeps (by simp) (by simp [hl]) (by rw [hl]; rfl) i
        · exact block_keeps (by rw [hl]; rfl) i
  | creating fd addr p =>
      simp only
      split_ifs with hok
      · exact (h.create hl).serve _ none (by simp)
      · refine ⟨⟨h.files.congr fun i => ?_, h.blocks.congr fun i => ?_⟩, by simp [quiet]⟩
        · exact file_keeps (by simp) (by simp [hl]) (by rw [hl]; rfl) i
        · exact block_keeps (by rw [hl]; rfl) i
  | dropping fd addr block =>
      have hfile : s.file .listener = some (fd, .connection addr) := by
        simp [file, hl, ListenerStage.file]
      cases block with
      | none =>
          have hclosed :
              ({ s with files := s.files.closed fd, listener := .loop } : Sockets).Held :=
            ⟨h.files.closed hfile rfl fun i hi => file_listener (by simp) (by simp [hl]) hi,
              h.blocks.congr fun i => block_keeps (by rw [hl]; rfl) i⟩
          exact hclosed.serve _ none (by simp [Access.Right, h.files.holds hfile])
      | some p =>
          refine ⟨⟨h.files.closed hfile rfl fun i hi => ?_, h.blocks.congr fun i => ?_⟩, ?_⟩
          · exact file_listener (by simp) (by simp [hl]) hi
          · exact block_keeps (by rw [hl]; rfl) i
          · simp [quiet, Access.Right, h.files.holds hfile]
  | freeing conn p =>
      have hblock : s.block .listener = some (p, conn) := by
        simp [Sockets.block, hl, ListenerStage.block]
      have hfreed : ({ s with heap := s.heap.closed p, listener := .loop } : Sockets).Held :=
        ⟨h.files.congr fun i => file_keeps (by simp) (by simp [hl]) (by rw [hl]; rfl) i,
          h.blocks.closed hblock rfl fun i hi => block_listener hi⟩
      exact hfreed.serve _ none (by simp [Access.Right, h.blocks.holds hblock])
  | finished => exact hstay

/-- `server_fd` is open while the listener is in its loop. -/
lemma Held.serverFd (h : s.Held) (hl : s.listener ≠ .finished) :
    s.files s.serverFd = some .listening := by
  refine h.files.holds (i := .main) ?_
  rw [file, if_neg hl]

/-- **Every step** keeps it, and uses what it is meant to use. -/
lemma Held.step (h : s.Held) (e : SocketEvent) :
    ((sockets host).step s e).1.Held ∧ ∀ a ∈ ((sockets host).step s e).2.accesses, a.Right := by
  have hstay : (s.quiet []).1.Held ∧ ∀ a ∈ (s.quiet []).2.accesses, a.Right := ⟨h, by simp [quiet]⟩
  cases e with
  | client c scan traffic =>
      simp only [sockets]
      split
      · rename_i th p hth hp
        exact h.threadStep hth scan traffic p
      · exact hstay
  | accept fd addr =>
      simp only [sockets]
      split_ifs with hcan
      · obtain ⟨haccepting, hfree⟩ := hcan
        have hl : s.listener = .loop := by
          simp only [accepting, Bool.and_eq_true, decide_eq_true_eq] at haccepting
          exact haccepting.1
        refine ⟨⟨h.files.opened (i := .listener) hfree ?_ rfl fun i hi => ?_,
          h.blocks.congr fun i => ?_⟩, ?_⟩
        · simp [file, hl, ListenerStage.file]
        · exact file_listener (by simp) (by simp [hl]) hi
        · exact block_keeps (by rw [hl]; rfl) i
        · simp [quiet, Access.Right, h.serverFd (by simp [hl])]
      · exact hstay
  | acceptFails interrupted =>
      by_cases haccepting : s.accepting
      · have hl : s.listener = .loop := by
          simp only [accepting, Bool.and_eq_true, decide_eq_true_eq] at haccepting
          exact haccepting.1
        simp only [sockets, if_pos haccepting]
        exact h.serve _ none (by simp [Access.Right, h.serverFd (by simp [hl])])
      · simp only [sockets, if_neg haccepting]
        exact hstay
  | listener ok p => exact h.listenerStep ok p
  | signal => exact h.serve _ none (by simp)

/-- Behind `server_init` only `server_fd` is open. -/
lemma held_init (serverFd : ℕ) : (Sockets.init serverFd).Held := by
  refine ⟨Owned.opened (i := .main) Owned.empty rfl rfl rfl fun i hi => ?_,
    Owned.empty.congr fun i => by cases i <;> rfl⟩
  cases i with
  | main => exact absurd rfl hi
  | _ => rfl

end Sockets

/-! ## Results -/

/-- **No descriptor or block is used after its end.** Whatever the clients, the system and the
schedule do, and whichever free numbers and addresses the system hands out: every block that a
thread reads or frees is allocated and holds what was stored in it for the thread's client, every
`recv`, `send` and `close` of a thread is on the connection that was accepted for its client, and
every other `close` and `accept` is on the socket it is meant for. In particular none is closed or
freed twice. -/
theorem accesses_right (host : Host) (serverFd : ℕ) (events : List SocketEvent) :
    ∀ o ∈ ((sockets host).run (.init serverFd) events).2, ∀ a ∈ o.accesses, a.Right :=
  (sockets host).outputs_of_trace (I := Sockets.Held) (C := fun _ _ => True)
    (fun _ e h _ => h.step e) (Sockets.held_init serverFd) (fun _ _ => trivial)

/-- A client connects, and its thread receives a line. -/
def firstLine : List SocketEvent :=
  [.listener true 0, .accept 4 ⟨1, 2⟩, .listener true 100, .listener true 0,
    .client 0 .strtol fun _ => {}, .client 0 .strtol fun _ => {},
    .client 0 .strtol fun _ => { received := bytes "LIST" }]

/-- The thread has read its client's block, and has received from the connection that was
accepted. -/
theorem accesses_right_firstLine :
    (Access.block ⟨4, ⟨1, 2⟩⟩ (some ⟨4, ⟨1, 2⟩⟩)).Right ∧
      (Access.file (.connection ⟨1, 2⟩) (some (.connection ⟨1, 2⟩))).Right := by
  have h := accesses_right .example 3 firstLine _ (List.getElem_mem (n := 6) (by decide))
  exact ⟨h _ (List.mem_of_getElem? (i := 0) rfl), h _ (List.mem_of_getElem? (i := 1) rfl)⟩

/-- **Nothing is left open or allocated.** In every state of every run: a descriptor is open, or a
block allocated, if and only if `main`, the listener or a thread still holds it, and no two hold the
same. So when `main` has closed `server_fd` and every thread has ended, no descriptor is open and no
block is allocated. -/
theorem handles_held (host : Host) (serverFd : ℕ) (events : List SocketEvent) :
    ∀ s ∈ Sockets.init serverFd :: (sockets host).states (.init serverFd) events,
      Owned s.file s.files ∧ Owned s.block s.heap ∧
        (s.listener = .finished → (∀ th ∈ s.threads, th.stage = .ended) →
          ∀ n, s.files n = none ∧ s.heap n = none) := by
  intro s hs
  have h : s.Held := by
    rcases List.mem_cons.mp hs with rfl | hmem
    · exact Sockets.held_init serverFd
    · exact (sockets host).states_invariant (I := Sockets.Held) (fun _ e h => (h.step e).1)
        (Sockets.held_init serverFd) events s hmem
  refine ⟨h.files, h.blocks, fun hfinished hended n => ⟨?_, ?_⟩⟩
  · refine h.files.eq_none fun i k => ?_
    cases i with
    | main => simp [Sockets.file, hfinished]
    | listener => simp [Sockets.file, hfinished, ListenerStage.file]
    | thread c =>
        rw [Sockets.file]
        cases hth : s.threads[c]? with
        | none => simp
        | some th => simp [ClientThread.file, hended th (List.mem_of_getElem? hth)]
  · refine h.blocks.eq_none fun i k => ?_
    cases i with
    | main => simp [Sockets.block]
    | listener => simp [Sockets.block, hfinished, ListenerStage.block]
    | thread c =>
        rw [Sockets.block]
        cases hth : s.threads[c]? with
        | none => simp
        | some th => simp [ClientThread.block, hended th (List.mem_of_getElem? hth)]

/-- The client's thread and `main` hold what is open then. -/
theorem handles_held_firstLine :
    let s := ((sockets .example).run (.init 3) firstLine).1
    Owned s.file s.files ∧ Owned s.block s.heap ∧
      (s.listener = .finished → (∀ th ∈ s.threads, th.stage = .ended) →
        ∀ n, s.files n = none ∧ s.heap n = none) :=
  handles_held .example 3 firstLine _ (Machine.run_mem_states _ _ _)

/-! ## What passes on the connections -/

namespace Sockets

/-- The clients' addresses. -/
def peers (s : Sockets) : List SockAddr := s.threads.map fun th => th.conn.addr

/-- The connection of the client `c`. -/
def peer (s : Sockets) (c : ℕ) : Option Sock := s.peers[c]?.map .connection

/-- The step of the server that an event is meant to be: what a thread calls comes to what it comes
to on its client's connection. -/
def meant (s : Sockets) : SocketEvent → Option Event
  | .client c scan traffic =>
      match s.threads[c]?, s.server.clients[c]? with
      | some th, some p =>
          if th.stage = .running ∧ p ≠ .closed then
            some (.client c ((traffic (.connection th.conn.addr)).io scan))
          else none
      | _, _ => none
  | .accept _ _ => none
  | .acceptFails interrupted =>
      if s.accepting then some (.listen (if interrupted then .again else .failed)) else none
  | .listener ok _ =>
      match s.listener with
      | .loop => if s.server.listening = .test then some (.listen .again) else none
      | .creating _ _ _ => if ok then some (.listen .connected) else none
      | .dropping _ _ none | .freeing _ _ => some (.listen .again)
      | _ => none
  | .signal => some .signal

variable {host : Host} {s s' : Sockets} {c : ℕ} {th : ClientThread}

/-- A thread that goes on has the client it had. -/
lemma peers_setThread (hth : s.threads[c]? = some th) (stage : ThreadStage) :
    (s.setThread c th stage).peers = s.peers := by
  obtain ⟨hlt, rfl⟩ := List.getElem?_eq_some_iff.mp hth
  have hlt' : c < (s.threads.map fun th => th.conn.addr).length := by simpa using hlt
  have hget : (s.threads.map fun th => th.conn.addr)[c] = s.threads[c].conn.addr := by simp
  rw [peers, peers, setThread, List.map_set, ← hget, List.set_getElem_self]

/-- **The clients keep their connections**, and new ones come behind them. -/
lemma peers_step (s : Sockets) (e : SocketEvent) :
    s.peers <+: ((sockets host).step s e).1.peers := by
  have hkeep {s' : Sockets} (h : s'.peers = s.peers) : s.peers <+: s'.peers := by rw [h]
  cases e with
  | client c scan traffic =>
      simp only [sockets]
      split
      · rename_i th p hth hp
        refine hkeep ?_
        unfold Sockets.threadStep
        cases th.stage with
        | starting => exact peers_setThread hth .running
        | running =>
            cases p with
            | closed => exact peers_setThread (s := { s with files := _ }) hth .freeing
            | _ => rfl
        | freeing => exact peers_setThread (s := { s with heap := _ }) hth .ended
        | ended => rfl
      · exact hkeep rfl
  | accept fd addr =>
      simp only [sockets]
      split_ifs <;> exact hkeep rfl
  | acceptFails interrupted =>
      by_cases haccepting : s.accepting
      · simp only [sockets, if_pos haccepting]
        exact hkeep rfl
      · simp only [sockets, if_neg haccepting]
        exact hkeep rfl
  | listener ok p =>
      simp only [sockets]
      unfold Sockets.listenerStep
      cases s.listener with
      | loop =>
          simp only
          cases s.server.listening <;> exact hkeep rfl
      | allocating fd addr =>
          simp only
          split_ifs <;> exact hkeep rfl
      | creating fd addr p =>
          simp only
          split_ifs
          · exact ⟨[addr], by simp [serve, peers]⟩
          · exact hkeep rfl
      | dropping fd addr block => cases block <;> exact hkeep rfl
      | _ => exact hkeep rfl
  | signal => exact hkeep rfl

/-- The connection of a client, at any later time. -/
lemma peer_of_prefix (hth : s.threads[c]? = some th) (h : s.peers <+: s'.peers) :
    s'.peer c = some (.connection th.conn.addr) := by
  have hpeer : s.peers[c]? = some th.conn.addr := by
    rw [peers, List.getElem?_map, hth]
    rfl
  obtain ⟨later, hlater⟩ := h
  rw [peer, ← hlater, List.getElem?_append_left (List.getElem?_eq_some_iff.mp hpeer).1, hpeer]
  rfl

/-- A thread's step lets something pass for its own client only. -/
lemma passed_clientStep (server : Server) (io : Io) (p : Phase) {socket socket' : ℕ → Option Sock}
    (h : socket c = socket' c) :
    (server.clientStep host c io p).2.passed socket =
      (server.clientStep host c io p).2.passed socket' := by
  cases p with
  | recv =>
      simp only [Server.clientStep]
      split_ifs <;> simp [Seen.passed, h]
  | send result response =>
      simp only [Server.clientStep]
      split_ifs <;> simp [Seen.passed, h]
  | _ => rfl

/-- In its loop a thread's calls are on its client's connection. -/
lemma Held.socket_eq (h : s.Held) (hth : s.threads[c]? = some th) (hstage : th.stage = .running) :
    s.socket th = some (.connection th.conn.addr) := by
  rw [socket, h.heap_arg hth (by rw [hstage]; simp), Option.bind_some, h.files_sockfd hth hstage]

/-- **A step of a thread in its loop** is the step it is meant to be. -/
lemma Held.thread_meant (h : s.Held) (hth : s.threads[c]? = some th) {p : Phase}
    (hp : s.server.clients[c]? = some p) (hstage : th.stage = .running) (hopen : p ≠ .closed)
    (scan : ScanInt) (traffic : Sock → Traffic) :
    let io := (traffic (.connection th.conn.addr)).io scan
    let x := s.threadStep host c scan traffic th p
    x.1.server = ((Comm.server host).step s.server (.client c io)).1 ∧
      ∀ s' : Sockets, s.peers <+: s'.peers →
        x.2.passed = ((Comm.server host).step s.server (.client c io)).2.passed s'.peer := by
  intro io x
  have hsocket := h.socket_eq hth hstage
  have hcalled : (s.called th traffic).io scan = io := by rw [called, hsocket]
  have hserver : (Comm.server host).step s.server (.client c io) =
      s.server.clientStep host c io p := by
    simp only [Comm.server, hp]
  have hx : x.1.server = ((Comm.server host).step s.server (.client c io)).1 ∧
      x.2.passed = (s.server.clientStep host c io p).2.passed fun _ => s.socket th := by
    simp only [x, Sockets.threadStep, hstage, hcalled]
    cases p with
    | closed => exact absurd rfl hopen
    | recv => exact ⟨rfl, by simp only [Sockets.serve, hserver]⟩
    | send result response => exact ⟨rfl, by simp only [Sockets.serve, hserver]⟩
    | _ =>
        refine ⟨rfl, ?_⟩
        simp only [Sockets.serve, hserver]
        rfl
  refine ⟨hx.1, fun s' hlater => ?_⟩
  rw [hx.2, hserver]
  exact passed_clientStep s.server io p (by rw [hsocket, peer_of_prefix hth hlater])

/-- **An event that is meant to be a step of the server** is that step. -/
lemma Held.meant_some (h : s.Held) {e : SocketEvent} {k : Event} (hk : s.meant e = some k) :
    ((sockets host).step s e).1.server = ((Comm.server host).step s.server k).1 ∧
      ∀ s' : Sockets, s.peers <+: s'.peers → ((sockets host).step s e).2.passed =
        ((Comm.server host).step s.server k).2.passed s'.peer := by
  cases e with
  | client c scan traffic =>
      simp only [meant] at hk
      split at hk
      · rename_i th p hth hp
        split_ifs at hk with hrunning
        cases hk
        simp only [sockets, hth, hp]
        exact h.thread_meant hth hp hrunning.1 hrunning.2 scan traffic
      · cases hk
  | accept fd addr => cases hk
  | acceptFails interrupted =>
      simp only [meant] at hk
      split_ifs at hk with haccepting hinterrupted
      all_goals
        cases hk
        simp only [sockets, if_pos haccepting]
        exact ⟨by simp [Sockets.serve, hinterrupted], fun _ _ => rfl⟩
  | listener ok p =>
      simp only [meant] at hk
      simp only [sockets]
      unfold Sockets.listenerStep
      split at hk
      · rename_i hl
        split_ifs at hk with htest
        cases hk
        simp only [hl, htest]
        exact ⟨rfl, fun _ _ => rfl⟩
      · rename_i hl
        split_ifs at hk with hok
        cases hk
        simp only [hl, if_pos hok]
        exact ⟨rfl, fun _ _ => rfl⟩
      · rename_i hl
        cases hk
        simp only [hl]
        exact ⟨rfl, fun _ _ => rfl⟩
      · rename_i hl
        cases hk
        simp only [hl]
        exact ⟨rfl, fun _ _ => rfl⟩
      · cases hk
  | signal =>
      cases hk
      exact ⟨rfl, fun _ _ => rfl⟩

/-- The other events leave the server as it is, and let nothing pass. -/
lemma meant_none {e : SocketEvent} (hk : s.meant e = none) :
    ((sockets host).step s e).1.server = s.server ∧
      ((sockets host).step s e).2.passed = none := by
  cases e with
  | client c scan traffic =>
      simp only [meant] at hk
      simp only [sockets]
      split
      · rename_i th p hth hp
        simp only [hth, hp] at hk
        split_ifs at hk with hrunning
        unfold Sockets.threadStep
        cases hstage : th.stage with
        | running =>
            have hclosed : p = .closed := by simpa [hstage] using hrunning
            subst hclosed
            exact ⟨rfl, rfl⟩
        | _ => exact ⟨rfl, rfl⟩
      · exact ⟨rfl, rfl⟩
  | accept fd addr =>
      simp only [sockets]
      split_ifs <;> exact ⟨rfl, rfl⟩
  | acceptFails interrupted =>
      simp only [meant] at hk
      split_ifs at hk with haccepting
      simp only [sockets, if_neg haccepting]
      exact ⟨rfl, rfl⟩
  | listener ok p =>
      simp only [meant] at hk
      simp only [sockets]
      unfold Sockets.listenerStep
      cases hl : s.listener with
      | loop =>
          simp only [hl] at hk ⊢
          split_ifs at hk with htest
          cases hlistening : s.server.listening with
          | test => exact absurd hlistening htest
          | _ => exact ⟨rfl, rfl⟩
      | allocating fd addr =>
          simp only
          split_ifs <;> exact ⟨rfl, rfl⟩
      | creating fd addr p =>
          simp only [hl] at hk ⊢
          split_ifs at hk with hok
          simp only [if_neg hok]
          exact ⟨rfl, rfl⟩
      | dropping fd addr block =>
          cases block with
          | none => simp [hl] at hk
          | some p => exact ⟨rfl, rfl⟩
      | freeing conn p => simp [hl] at hk
      | finished => exact ⟨rfl, rfl⟩
  | signal => cases hk

end Sockets

/-- **What passes on the connections** is what passes in a run of `server`. There each thread
receives what has arrived on its own client's connection and sends there; here it receives from and
sends to whatever the descriptor stands for that it reads from its block. -/
theorem sockets_refine (host : Host) (serverFd : ℕ) (events : List SocketEvent) :
    let s := Sockets.init serverFd
    let last := ((sockets host).run s events).1
    let meant := ((sockets host).trace s events).filterMap fun x => x.1.meant x.2
    last.server = ((server host).run .init meant).1 ∧
      ((sockets host).run s events).2.filterMap SocketSeen.passed =
        ((server host).run .init meant).2.filterMap (Seen.passed last.peer) :=
  (sockets host).run_picked (server host) Sockets.server (fun s s' => s.peers <+: s'.peers)
    (fun s => Seen.passed s.peer) (I := Sockets.Held) (fun _ e h => (h.step e).1)
    (fun _ => List.prefix_rfl) (fun h h' => h.trans h') (fun s e => Sockets.peers_step s e)
    (fun _ _ _ hnone => Sockets.meant_none hnone) (fun _ _ _ h hsome => h.meant_some hsome)
    (Sockets.held_init serverFd) events

end ProcessMonitor.Comm
